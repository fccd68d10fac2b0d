import CatalogRules.Pattern.Basic
import Mathlib.Order.Basic
import Mathlib.Tactic.SplitIfs

/-!
What it means that a pattern occurs. A pattern fits stretches of texts, and since anchors look
at the characters on both sides, a stretch is taken together with what stands before and after
it. Going through a text once finds out whether some stretch of it fits: what may follow a
character is exactly what is left of the stretches that begin with it.
-/

namespace CatalogRules.Pattern

/-- Which stretches are meant, by the character before, the stretch and the character after. -/
abbrev Extent := Option Char → List Char → Option Char → Prop

variable {before after : Option Char} {c : Char} {cs : List Char}

theorem getLast?_cons_or (c : Char) (front : List Char) (before : Option Char) :
    (c :: front).getLast?.or before = front.getLast?.or (some c) := by
  rw [List.getLast?_cons, Option.some_or]
  cases front.getLast? <;> rfl

namespace Extent

def Joined (P Q : Extent) : Extent := fun before cs after =>
  ∃ front back, cs = front ++ back ∧ P before front (back.head?.or after) ∧
    Q (front.getLast?.or before) back after

def Repeated (P : Extent) : ℕ → Extent
  | 0 => fun _ cs _ => cs = []
  | n + 1 => Joined P (P.Repeated n)

/-- What is left of the stretches behind their first character. -/
def Behind (P : Extent) (before : Option Char) (c : Char) : Extent := fun _ cs after =>
  P before (c :: cs) after

variable {P Q : Extent}

theorem joined_nil : Joined P Q before [] after ↔ P before [] after ∧ Q before [] after := by
  constructor
  · rintro ⟨front, back, hcs, hfront, hback⟩
    obtain ⟨rfl, rfl⟩ := List.append_eq_nil_iff.1 hcs.symm
    exact ⟨hfront, hback⟩
  · rintro ⟨hfront, hback⟩
    exact ⟨[], [], rfl, hfront, hback⟩

/-- The first character belongs to the first stretch, or this one is empty. -/
theorem joined_cons : Joined P Q before (c :: cs) after ↔
    Joined (P.Behind before c) Q (some c) cs after ∨
      P before [] (some c) ∧ Q before (c :: cs) after := by
  constructor
  · rintro ⟨front, back, hcs, hfront, hback⟩
    cases front with
    | nil =>
        obtain rfl : c :: cs = back := hcs
        exact .inr ⟨hfront, hback⟩
    | cons d front =>
        obtain ⟨rfl, rfl⟩ := List.cons.inj hcs
        exact .inl ⟨front, back, rfl, hfront, getLast?_cons_or c front before ▸ hback⟩
  · rintro (⟨front, back, rfl, hfront, hback⟩ | ⟨hfront, hback⟩)
    · exact ⟨c :: front, back, rfl, hfront, (getLast?_cons_or c front before).symm ▸ hback⟩
    · exact ⟨[], c :: cs, rfl, hfront, hback⟩

theorem joined_exists {A : ℕ → Prop} {Q : ℕ → Extent} :
    Joined P (fun before cs after => ∃ k, A k ∧ Q k before cs after) before cs after ↔
      ∃ k, A k ∧ Joined P (Q k) before cs after := by
  constructor
  · rintro ⟨front, back, hcs, hfront, k, hk, hback⟩
    exact ⟨k, hk, front, back, hcs, hfront, hback⟩
  · rintro ⟨k, hk, front, back, hcs, hfront, hback⟩
    exact ⟨front, back, hcs, hfront, k, hk, hback⟩

theorem repeated_nil (n : ℕ) : P.Repeated n before [] after ↔ n = 0 ∨ P before [] after := by
  induction n with
  | zero => simp [Repeated]
  | succ n ih =>
      rw [Repeated, joined_nil, ih, or_iff_right (Nat.succ_ne_zero n)]
      exact ⟨And.left, fun h => ⟨h, .inr h⟩⟩

/-- Some stretches in front may be empty, and the next one begins with the first character. -/
theorem repeated_cons (n : ℕ) : P.Repeated n before (c :: cs) after ↔
    ∃ j k, n = j + 1 + k ∧ (j = 0 ∨ P before [] (some c)) ∧
      Joined (P.Behind before c) (P.Repeated k) (some c) cs after := by
  induction n with
  | zero =>
      simp only [Repeated, reduceCtorEq, false_iff]
      rintro ⟨j, k, hn, -⟩
      omega
  | succ n ih =>
      rw [Repeated, joined_cons, ih]
      constructor
      · rintro (h | ⟨hempty, j, k, rfl, -, h⟩)
        · exact ⟨0, n, by omega, .inl rfl, h⟩
        · exact ⟨j + 1, k, by omega, .inr hempty, h⟩
      · rintro ⟨j, k, hn, hempty, h⟩
        cases j with
        | zero =>
            obtain rfl : n = k := by omega
            exact .inl h
        | succ j =>
            have hempty := hempty.resolve_left (Nat.succ_ne_zero j)
            exact .inr ⟨hempty, j, k, by omega, .inr hempty, h⟩

end Extent

/-- The stretches that a pattern fits. -/
def Fits : Pattern → Extent
  | empty => fun _ cs _ => cs = []
  | char s => fun _ cs _ => ∃ c, cs = [c] ∧ s.contains c = true
  | place a => fun before cs after => cs = [] ∧ a.holds before after = true
  | seq p q => p.Fits.Joined q.Fits
  | choice p q => fun before cs after => p.Fits before cs after ∨ q.Fits before cs after
  | times p least most => fun before cs after =>
    ∃ n, least ≤ n ∧ (∀ m ∈ most, n ≤ m) ∧ p.Fits.Repeated n before cs after
  | part p => p.Fits

/-- No repetition has to be read more often than it may be. -/
def Ordered : Pattern → Bool
  | seq p q | choice p q => p.Ordered && q.Ordered
  | times p least most => p.Ordered && most.all (least ≤ ·)
  | part p => p.Ordered
  | _ => true

theorem fits_andThen (p q : Pattern) :
    (p.andThen q).Fits before cs after ↔ p.Fits.Joined q.Fits before cs after := by
  unfold andThen
  split_ifs with hp hq
  · subst hp
    constructor
    · exact fun h => ⟨[], cs, rfl, rfl, h⟩
    · rintro ⟨front, back, rfl, rfl, h⟩
      exact h
  · subst hq
    constructor
    · exact fun h => ⟨cs, [], (List.append_nil cs).symm, h, rfl⟩
    · rintro ⟨front, back, rfl, h, rfl⟩
      rwa [List.append_nil]
  · rfl

theorem ordered_andThen {p q : Pattern} (hp : p.Ordered = true) (hq : q.Ordered = true) :
    (p.andThen q).Ordered = true := by
  unfold andThen
  split_ifs
  · exact hq
  · exact hp
  · rw [Ordered, hp, hq]
    rfl

/-- A pattern is read over an empty stretch exactly where it fits one. -/
theorem fitsEmpty_iff {p : Pattern} (hp : p.Ordered = true) :
    p.fitsEmpty before after = true ↔ p.Fits before [] after := by
  induction p with
  | empty => simp [fitsEmpty, Fits]
  | char s => simp [fitsEmpty, Fits]
  | place a => simp [fitsEmpty, Fits]
  | seq p q ihp ihq =>
      rw [Ordered, Bool.and_eq_true] at hp
      rw [fitsEmpty, Fits, Extent.joined_nil, Bool.and_eq_true, ihp hp.1, ihq hp.2]
  | choice p q ihp ihq =>
      rw [Ordered, Bool.and_eq_true] at hp
      rw [fitsEmpty, Fits, Bool.or_eq_true, ihp hp.1, ihq hp.2]
  | times p least most ih =>
      rw [Ordered, Bool.and_eq_true, Option.all_eq_true] at hp
      obtain ⟨hp, hle⟩ := hp
      simp only [fitsEmpty, Fits, Extent.repeated_nil, Bool.or_eq_true, beq_iff_eq, ih hp]
      constructor
      · intro h
        exact ⟨least, Nat.le_refl least, fun m hm => of_decide_eq_true (hle m hm), h⟩
      · rintro ⟨n, hn, -, rfl | h⟩
        · exact .inl (Nat.le_zero.1 hn)
        · exact .inr h
  | part p ih => exact ih hp

/-- What may still be read of a repetition behind a character. -/
def more (p : Pattern) (least : ℕ) (most : Option ℕ) (before : Option Char) (c : Char) : Pattern :=
  let least := if p.fitsEmpty before (some c) then 0 else least - 1
  let most := most.map (fun n => n - 1)
  if most = some 0 then empty else times p least most

theorem rests_times (p : Pattern) (least : ℕ) (most : Option ℕ) :
    (times p least most).rests before c =
      if most = some 0 then []
      else (p.rests before c).map (fun r => r.andThen (p.more least most before c)) := by
  rw [rests]
  rfl

theorem ordered_more {p : Pattern} {least : ℕ} {most : Option ℕ}
    (h : (times p least most).Ordered = true) : (p.more least most before c).Ordered = true := by
  rw [Ordered, Bool.and_eq_true, Option.all_eq_true] at h
  unfold more
  dsimp only
  split
  · rfl
  · rw [Ordered, h.1, Bool.true_and, Option.all_eq_true]
    intro m hm
    obtain ⟨n, hn, rfl⟩ := Option.map_eq_some_iff.1 hm
    have hle : least ≤ n := of_decide_eq_true (h.2 n hn)
    rw [decide_eq_true_eq]
    split <;> omega

/-- What is left of a repetition is read once less often. Where it may be read over an empty
stretch, it has been read often enough. -/
theorem fits_more {p : Pattern} {least : ℕ} {most : Option ℕ} (hmost : most ≠ some 0)
    (hle : ∀ m ∈ most, least ≤ m) :
    (p.more least most before c).Fits = fun before' cs after =>
      ∃ k, ((p.fitsEmpty before (some c) = true ∨ least ≤ k + 1) ∧ ∀ m ∈ most, k + 1 ≤ m) ∧
        p.Fits.Repeated k before' cs after := by
  funext before' cs after
  refine propext ?_
  have hleast (k : ℕ) : (if p.fitsEmpty before (some c) = true then 0 else least - 1) ≤ k ↔
      p.fitsEmpty before (some c) = true ∨ least ≤ k + 1 := by
    split <;> simp_all
  cases most with
  | none => simp [more, Fits, hleast]
  | some m =>
      obtain ⟨m, rfl⟩ := Nat.exists_eq_succ_of_ne_zero fun h => hmost (congrArg some h)
      have hle : least ≤ m + 1 := hle _ rfl
      by_cases hzero : m = 0
      · subst hzero
        constructor
        · exact fun h => ⟨0, ⟨.inr hle, by simp⟩, h⟩
        · rintro ⟨k, ⟨-, hk⟩, h⟩
          obtain rfl : k = 0 := Nat.le_zero.1 (Nat.le_of_succ_le_succ (hk _ rfl))
          exact h
      · simp [more, Fits, hleast, hzero, and_assoc]

theorem ordered_of_mem_rests {p r : Pattern} (hp : p.Ordered = true) (hr : r ∈ p.rests before c) :
    r.Ordered = true := by
  induction p generalizing r with
  | empty => simp [rests] at hr
  | char s =>
      simp only [rests, List.mem_ite_nil_right, List.mem_singleton] at hr
      rw [hr.2]
      rfl
  | place a => simp [rests] at hr
  | seq p q ihp ihq =>
      rw [Ordered, Bool.and_eq_true] at hp
      rw [rests, List.mem_append, List.mem_map, List.mem_ite_nil_right] at hr
      rcases hr with ⟨r, hr, rfl⟩ | ⟨-, hr⟩
      · exact ordered_andThen (ihp hp.1 hr) hp.2
      · exact ihq hp.2 hr
  | choice p q ihp ihq =>
      rw [Ordered, Bool.and_eq_true] at hp
      rw [rests, List.mem_append] at hr
      exact hr.elim (ihp hp.1) (ihq hp.2)
  | times p least most ih =>
      have hmore : (p.more least most before c).Ordered = true := ordered_more hp
      rw [Ordered, Bool.and_eq_true] at hp
      rw [rests_times, List.mem_ite_nil_left] at hr
      obtain ⟨s, hs, rfl⟩ := List.mem_map.1 hr.2
      exact ordered_andThen (ih hp.1 hs) hmore
  | part p ih => exact ih hp hr

theorem exists_andThen_iff {ps : List Pattern} {P : Extent} {q : Pattern}
    (h : ∀ cs after, (∃ r ∈ ps, r.Fits (some c) cs after) ↔ P before (c :: cs) after) :
    (∃ r ∈ ps.map (fun r => r.andThen q), r.Fits (some c) cs after) ↔
      (P.Behind before c).Joined q.Fits (some c) cs after := by
  simp only [List.mem_map, Extent.Joined, Extent.Behind, ← h]
  constructor
  · rintro ⟨-, ⟨r, hr, rfl⟩, hfits⟩
    obtain ⟨front, back, hcs, hfront, hback⟩ := (fits_andThen r q).1 hfits
    exact ⟨front, back, hcs, ⟨r, hr, hfront⟩, hback⟩
  · rintro ⟨front, back, hcs, ⟨r, hr, hfront⟩, hback⟩
    exact ⟨_, ⟨r, hr, rfl⟩, (fits_andThen r q).2 ⟨front, back, hcs, hfront, hback⟩⟩

/-- What may follow a character is what is left of the stretches that begin with it. -/
theorem exists_mem_rests_iff {p : Pattern} (hp : p.Ordered = true) (cs : List Char)
    (after : Option Char) :
    (∃ r ∈ p.rests before c, r.Fits (some c) cs after) ↔ p.Fits before (c :: cs) after := by
  induction p generalizing cs after with
  | empty => simp [rests, Fits]
  | char s =>
      simp only [rests, List.mem_ite_nil_right, List.mem_singleton, Fits]
      constructor
      · rintro ⟨r, ⟨hc, rfl⟩, rfl⟩
        exact ⟨c, rfl, hc⟩
      · rintro ⟨d, hcs, hd⟩
        obtain ⟨rfl, rfl⟩ := List.cons.inj hcs
        exact ⟨empty, ⟨hd, rfl⟩, rfl⟩
  | place a => simp [rests, Fits]
  | seq p q ihp ihq =>
      rw [Ordered, Bool.and_eq_true] at hp
      rw [Fits, Extent.joined_cons, ← exists_andThen_iff (ihp hp.1), ← fitsEmpty_iff hp.1,
        ← ihq hp.2, rests]
      simp only [List.mem_append, List.mem_ite_nil_right, or_and_right, exists_or, and_assoc,
        exists_and_left]
  | choice p q ihp ihq =>
      rw [Ordered, Bool.and_eq_true] at hp
      simp only [Fits, ← ihp hp.1, ← ihq hp.2, rests, List.mem_append, or_and_right, exists_or]
  | times p least most ih =>
      rw [Ordered, Bool.and_eq_true, Option.all_eq_true] at hp
      obtain ⟨hp, hall⟩ := hp
      have hle : ∀ m ∈ most, least ≤ m := fun m hm => of_decide_eq_true (hall m hm)
      simp only [Fits, Extent.repeated_cons]
      rw [rests_times]
      by_cases hmost : most = some 0
      · simp only [if_pos hmost, List.not_mem_nil, false_and, exists_false, false_iff]
        rintro ⟨n, -, hn, j, k, rfl, -⟩
        exact absurd (hn 0 hmost) (by omega)
      · rw [if_neg hmost, exists_andThen_iff (ih hp), fits_more hmost hle, Extent.joined_exists,
          fitsEmpty_iff hp]
        constructor
        · rintro ⟨k, ⟨hempty, hk⟩, h⟩
          by_cases hfew : least ≤ k + 1
          · exact ⟨k + 1, hfew, hk, 0, k, by omega, .inl rfl, h⟩
          · -- Empty stretches in front make up for those that are missing.
            exact ⟨least, Nat.le_refl least, hle, least - (k + 1), k, by omega,
              .inr (hempty.resolve_right hfew), h⟩
        · rintro ⟨n, hn, hm, j, k, rfl, hj, h⟩
          refine ⟨k, ⟨?_, fun m hmem => ?_⟩, h⟩
          · rcases hj with rfl | hempty
            · exact .inr (by omega)
            · exact .inl hempty
          · have hbound := hm m hmem
            omega
  | part p ih => exact ih hp cs after

def Begins (p : Pattern) (before : Option Char) (cs : List Char) : Prop :=
  ∃ front back, cs = front ++ back ∧ p.Fits before front back.head?

def Occurs (p : Pattern) (before : Option Char) (cs : List Char) : Prop :=
  ∃ skipped rest, cs = skipped ++ rest ∧ p.Begins (skipped.getLast?.or before) rest

variable {p : Pattern}

theorem begins_nil (hp : p.Ordered = true) :
    p.Begins before [] ↔ p.fitsEmpty before none = true := by
  rw [fitsEmpty_iff hp]
  constructor
  · rintro ⟨front, back, hcs, h⟩
    obtain ⟨rfl, rfl⟩ := List.append_eq_nil_iff.1 hcs.symm
    exact h
  · exact fun h => ⟨[], [], rfl, h⟩

theorem begins_cons (hp : p.Ordered = true) : p.Begins before (c :: cs) ↔
    p.fitsEmpty before (some c) = true ∨ ∃ r ∈ p.rests before c, r.Begins (some c) cs := by
  rw [fitsEmpty_iff hp]
  constructor
  · rintro ⟨front, back, hcs, h⟩
    cases front with
    | nil =>
        obtain rfl : c :: cs = back := hcs
        exact .inl h
    | cons d front =>
        obtain ⟨rfl, rfl⟩ := List.cons.inj hcs
        obtain ⟨r, hr, hfits⟩ := (exists_mem_rests_iff hp front back.head?).2 h
        exact .inr ⟨r, hr, front, back, rfl, hfits⟩
  · rintro (h | ⟨r, hr, front, back, rfl, hfits⟩)
    · exact ⟨[], c :: cs, rfl, h⟩
    · exact ⟨c :: front, back, rfl, (exists_mem_rests_iff hp front back.head?).1 ⟨r, hr, hfits⟩⟩

theorem occurs_nil : p.Occurs before [] ↔ p.Begins before [] := by
  constructor
  · rintro ⟨skipped, rest, hcs, h⟩
    obtain ⟨rfl, rfl⟩ := List.append_eq_nil_iff.1 hcs.symm
    exact h
  · exact fun h => ⟨[], [], rfl, h⟩

theorem occurs_cons :
    p.Occurs before (c :: cs) ↔ p.Begins before (c :: cs) ∨ p.Occurs (some c) cs := by
  constructor
  · rintro ⟨skipped, rest, hcs, h⟩
    cases skipped with
    | nil =>
        obtain rfl : c :: cs = rest := hcs
        exact .inl h
    | cons d skipped =>
        obtain ⟨rfl, rfl⟩ := List.cons.inj hcs
        exact .inr ⟨skipped, rest, rfl, getLast?_cons_or c skipped before ▸ h⟩
  · rintro (h | ⟨skipped, rest, rfl, h⟩)
    · exact ⟨[], c :: cs, rfl, h⟩
    · exact ⟨c :: skipped, rest, rfl, (getLast?_cons_or c skipped before).symm ▸ h⟩

/-- Going through a text finds what is left of an occurrence that has started, or one further
on. -/
theorem occursFrom_iff (hp : p.Ordered = true) {started : List Pattern}
    (hstarted : ∀ q ∈ started, q.Ordered = true) :
    p.occursFrom before started cs = true ↔
      (∃ q ∈ started, q.Begins before cs) ∨ p.Occurs before cs := by
  induction cs generalizing before started with
  | nil =>
      rw [occursFrom, occurs_nil, begins_nil hp, List.any_cons, Bool.or_eq_true, List.any_eq_true,
        or_comm]
      refine or_congr_left (exists_congr fun q => and_congr_right fun hq => ?_)
      exact (begins_nil (hstarted q hq)).symm
  | cons c cs ih =>
      have hordered : ∀ q ∈ p :: started, q.Ordered = true := List.forall_mem_cons.2 ⟨hp, hstarted⟩
      have hrests : ∀ r ∈ ((p :: started).flatMap fun q => q.rests before c).eraseDups,
          r.Ordered = true := by
        intro r hr
        obtain ⟨q, hq, hr⟩ := List.mem_flatMap.1 (List.mem_eraseDups.1 hr)
        exact ordered_of_mem_rests (hordered q hq) hr
      have hbegins : (∃ q ∈ p :: started, q.Begins before (c :: cs)) ↔
          (∃ q ∈ p :: started, q.fitsEmpty before (some c) = true) ∨
            ∃ r ∈ ((p :: started).flatMap fun q => q.rests before c).eraseDups,
              r.Begins (some c) cs := by
        simp only [List.mem_eraseDups, List.mem_flatMap]
        constructor
        · rintro ⟨q, hq, h⟩
          rcases (begins_cons (hordered q hq)).1 h with h | ⟨r, hr, h⟩
          · exact .inl ⟨q, hq, h⟩
          · exact .inr ⟨r, ⟨q, hq, hr⟩, h⟩
        · rintro (⟨q, hq, h⟩ | ⟨r, ⟨q, hq, hr⟩, h⟩)
          · exact ⟨q, hq, (begins_cons (hordered q hq)).2 (.inl h)⟩
          · exact ⟨q, hq, (begins_cons (hordered q hq)).2 (.inr ⟨r, hr, h⟩)⟩
      rw [occursFrom, Bool.or_eq_true, ih hrests, List.any_eq_true, ← or_assoc, ← hbegins,
        occurs_cons, ← or_assoc]
      simp only [List.mem_cons, exists_eq_or_imp]
      rw [or_comm (a := p.Begins before (c :: cs))]

/-- A pattern occurs in a text if it fits some stretch of it. -/
theorem occursIn_iff (hp : p.Ordered = true) (s : String) :
    p.occursIn s = true ↔ p.Occurs none s.toList := by
  rw [occursIn, occursFrom_iff hp (by simp)]
  simp

end CatalogRules.Pattern
