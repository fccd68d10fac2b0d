import CatalogRules.Proofs.Text.FixedWidth
import CatalogRules.Proofs.Time.Order
import CatalogRules.Time.Timestamp
import Mathlib.Data.List.TakeWhile

/-!
Instants that are read from texts. In every form a fraction is less than a second, a leap
second is the last of a minute, and an offset moves whole minutes.
-/

namespace CatalogRules.Timestamp

open Instant (Regular nanosPerSecond)
open Text (digitsValue stretch)

theorem nanosOfDigits_lt {digits : List Char} (h : ∀ c ∈ digits, c.isDigit = true) :
    nanosOfDigits digits < nanosPerSecond := by
  have hvalue : digitsValue (digits.take 9) < 10 ^ (digits.take 9).length :=
    Text.digitsValue_lt fun c hc => h c (List.mem_of_mem_take hc)
  have hlength : (digits.take 9).length + (9 - digits.length) = 9 := by
    rw [List.length_take]
    omega
  calc
    nanosOfDigits digits < 10 ^ (digits.take 9).length * 10 ^ (9 - digits.length) :=
      Nat.mul_lt_mul_of_pos_right hvalue (pow10_pos _)
    _ = 10 ^ 9 := by rw [← Nat.pow_add, hlength]
    _ = nanosPerSecond := rfl

theorem fraction_lt {cs rest : List Char} {nanos : ℕ} (h : fraction cs = some (nanos, rest)) :
    nanos < nanosPerSecond := by
  unfold fraction at h
  split at h
  · rename_i cs
    rw [Option.map_eq_some_iff] at h
    obtain ⟨⟨digits, after⟩, hstretch, heq⟩ := h
    obtain ⟨rfl, rfl⟩ := Prod.mk.inj heq
    apply nanosOfDigits_lt
    simp only [stretch, List.span_eq_takeWhile_dropWhile, Option.ite_none_left_eq_some,
      Option.some.injEq, Prod.mk.injEq] at hstretch
    obtain ⟨-, rfl, -⟩ := hstretch
    exact fun c hc => List.mem_takeWhile_imp hc
  · obtain ⟨rfl, -⟩ := Prod.mk.inj (Option.some.inj h)
    decide

theorem offset_mod {cs rest : List Char} {east : ℤ} (h : offset cs = some (east, rest)) :
    east % 60 = 0 := by
  unfold offset at h
  split at h
  · cases h
  · split_ifs at h
    · obtain ⟨rfl, -⟩ := Prod.mk.inj (Option.some.inj h)
      rfl
    -- East and west of Greenwich alike.
    all_goals
      simp only [Option.bind_eq_bind, Option.bind_eq_some_iff, Prod.exists,
        Option.ite_none_right_eq_some, Option.pure_def, Option.some.injEq, Prod.mk.injEq] at h
      obtain ⟨hours, after, -, after', -, minutes, after'', -, -, rfl, -⟩ := h
      omega

theorem looseSeconds_lt {withSeconds : Bool} {cs rest : List Char} {second nanos : ℕ}
    (h : looseSeconds withSeconds cs = some ((second, nanos), rest)) : nanos < nanosPerSecond := by
  unfold looseSeconds at h
  split at h
  · simp only [Option.bind_eq_bind, Option.bind_eq_some_iff, Prod.exists, Option.pure_def,
      Option.some.injEq, Prod.mk.injEq] at h
    obtain ⟨after, -, second', after', -, nanos', after'', hfraction, ⟨-, rfl⟩, -⟩ := h
    exact fraction_lt hfraction
  · obtain ⟨heq, -⟩ := Prod.mk.inj (Option.some.inj h)
    obtain ⟨-, rfl⟩ := Prod.mk.inj heq
    decide

variable {cs : List Char} {t : Instant}

theorem regular_of_ofCivil? {date : Date} {hour minute second nanos : ℕ} {east : ℤ}
    (hnanos : nanos < nanosPerSecond) (heast : east % 60 = 0)
    (h : Instant.ofCivil? date hour minute second nanos east = some t) : t.Regular := by
  simp only [Instant.ofCivil?, Option.ite_none_right_eq_some] at h
  obtain ⟨-, h⟩ := h
  split at h
  · cases h
    refine ⟨by dsimp only; omega, fun _ => ?_⟩
    simp only [Instant.secondsPerDay]
    omega
  · cases h
    exact ⟨by dsimp only; omega, fun hleap => absurd hnanos (Nat.not_lt.2 hleap)⟩

theorem regular_of_readZoned? (h : readZoned? cs = some t) : t.Regular := by
  -- Whatever the date is, time and offset are read behind it.
  obtain ⟨year, -, h⟩ := Option.bind_eq_some_iff.1 h
  obtain ⟨cs, -, h⟩ := Option.bind_eq_some_iff.1 h
  obtain ⟨month, -, h⟩ := Option.bind_eq_some_iff.1 h
  obtain ⟨cs, -, h⟩ := Option.bind_eq_some_iff.1 h
  obtain ⟨day, -, h⟩ := Option.bind_eq_some_iff.1 h
  dsimp only at h
  split at h
  · rw [Option.ite_none_left_eq_some] at h
    obtain ⟨-, h⟩ := h
    obtain ⟨hour, -, h⟩ := Option.bind_eq_some_iff.1 h
    obtain ⟨cs, -, h⟩ := Option.bind_eq_some_iff.1 h
    obtain ⟨minute, -, h⟩ := Option.bind_eq_some_iff.1 h
    obtain ⟨cs, -, h⟩ := Option.bind_eq_some_iff.1 h
    obtain ⟨second, -, h⟩ := Option.bind_eq_some_iff.1 h
    obtain ⟨nanos, hfraction, h⟩ := Option.bind_eq_some_iff.1 h
    obtain ⟨east, hoffset, h⟩ := Option.bind_eq_some_iff.1 h
    rw [Option.ite_none_right_eq_some] at h
    exact regular_of_ofCivil? (fraction_lt hfraction) (offset_mod hoffset) h.2
  · cases h

theorem regular_of_readLocal? {separator : Separator} {withSeconds : Bool}
    (h : readLocal? separator withSeconds cs = some t) : t.Regular := by
  simp only [readLocal?, Option.bind_eq_bind, Option.bind_eq_some_iff, Prod.exists,
    Option.ite_none_right_eq_some] at h
  obtain ⟨date, cs, -, cs, -, hour, cs, -, cs, -, minute, cs, -, second, nanos, cs, hseconds, -,
    hcivil⟩ := h
  exact regular_of_ofCivil? (looseSeconds_lt hseconds) rfl hcivil

theorem regular_of_readDate? (h : readDate? cs = some t) : t.Regular := by
  simp only [readDate?, Option.bind_eq_bind, Option.bind_eq_some_iff, Prod.exists,
    Option.ite_none_right_eq_some] at h
  obtain ⟨date, cs, -, -, hcivil⟩ := h
  exact regular_of_ofCivil? (by decide) rfl hcivil

theorem regular_of_read? {raw : String} (h : read? raw = some t) : t.Regular := by
  simp only [read?, readTrimmed?, Option.orElse_eq_orElse, Option.orElse_eq_or,
    Option.or_eq_some_iff] at h
  rcases h with h | ⟨-, h | ⟨-, h | ⟨-, h | ⟨-, h | ⟨-, h⟩⟩⟩⟩⟩
  · exact regular_of_readZoned? h
  · exact regular_of_readLocal? h
  · exact regular_of_readLocal? h
  · exact regular_of_readLocal? h
  · exact regular_of_readLocal? h
  · exact regular_of_readDate? h

end CatalogRules.Timestamp
