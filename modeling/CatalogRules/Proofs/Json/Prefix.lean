import CatalogRules.Proofs.Json.Reading
import Mathlib.Data.List.TakeWhile

/-!
Values in front of other text. Reading goes from left to right and takes nothing behind a value, so
what has been read to its end is read in the same way whatever follows, if only this does not go
on with a number; nor does it matter how much fuel is left over.
-/

namespace CatalogRules.Json

variable {cs rest : List Char}

theorem skipSpaces_append_of_cons {c : Char} {cs' : List Char} (h : skipSpaces cs = c :: cs')
    (more : List Char) : skipSpaces (cs ++ more) = c :: (cs' ++ more) := by
  rw [skipSpaces] at h
  rw [skipSpaces, List.dropWhile_append, h]
  rfl

theorem skipSpaces_append_of_nil (h : skipSpaces cs = []) (more : List Char) :
    skipSpaces (cs ++ more) = skipSpaces more := by
  rw [skipSpaces] at h
  rw [skipSpaces, List.dropWhile_append, h]
  rfl

theorem skipSpaces_cons_of_skipSpaces_eq {c : Char} {cs' : List Char}
    (h : skipSpaces cs = c :: cs') (ds : List Char) : skipSpaces (c :: ds) = c :: ds := by
  have hhead := List.head?_dropWhile_not isSpace cs
  rw [skipSpaces] at h
  rw [h] at hhead
  simp_all [skipSpaces]

theorem readString_append {s : Spelling} {result : Except Flaw String}
    (h : readString s cs = (result, some rest)) (more : List Char) :
    readString s (cs ++ more) = (result, some (rest ++ more)) := by
  fun_induction readString s cs with
  | case10 s c cs hquote hcode hshort hescape hslash hcontrol ih =>
      -- The character stands for itself, as it starts no escape.
      have hbackslash : c ≠ '\\' := fun heq => by
        cases cs with
        | nil => exact hslash heq rfl
        | cons d cs => exact hescape d cs heq rfl
      rw [List.cons_append, readString]
      · rw [if_neg hcontrol]
        exact ih h
      all_goals simp_all
  | _ => simp_all [readString]

theorem readWord_append {draft d : Draft} {word : List Char}
    (h : readWord draft word cs = (d, some rest)) (more : List Char) :
    readWord draft word (cs ++ more) = (d, some (rest ++ more)) := by
  fun_induction readWord draft word cs <;> simp_all [readWord]

variable {more digits : List Char}

theorem span_isDigit_append (hmore : EndsNumber more) (h : cs.span Char.isDigit = (digits, rest)) :
    (cs ++ more).span Char.isDigit = (digits, rest ++ more) := by
  rw [List.span_eq_takeWhile_dropWhile] at h
  obtain ⟨rfl, rfl⟩ := Prod.mk.inj h
  have hsplit : cs ++ more =
      cs.takeWhile Char.isDigit ++ (cs.dropWhile Char.isDigit ++ more) := by
    rw [← List.append_assoc, List.takeWhile_append_dropWhile]
  rw [hsplit]
  apply Text.span_isDigit_append fun _ hc => List.mem_takeWhile_imp hc
  intro c hc
  cases hrest : cs.dropWhile Char.isDigit with
  | nil =>
      rw [hrest, List.nil_append] at hc
      exact (hmore c hc).1
  | cons d ds =>
      rw [hrest] at hc
      obtain rfl : d = c := Option.some.inj hc
      have hhead := List.head?_dropWhile_not Char.isDigit cs
      rw [hrest] at hhead
      simpa using hhead

theorem readWhole_of_ne_zero {c : Char} (hzero : c ≠ '0') (cs : List Char) :
    readWhole (c :: cs) =
      if ((c :: cs).span Char.isDigit).1.isEmpty then .error (missingDigit (c :: cs))
      else .ok ((c :: cs).span Char.isDigit) := by
  rw [readWhole]
  exact fun _ heq => hzero (List.cons.inj heq).1

theorem readWhole_append (hmore : EndsNumber more) (h : readWhole cs = .ok (digits, rest)) :
    readWhole (cs ++ more) = .ok (digits, rest ++ more) := by
  cases cs with
  | nil => simp [readWhole] at h
  | cons c cs =>
      by_cases hzero : c = '0'
      · subst hzero
        simp only [List.cons_append, readWhole] at h ⊢
        split at h
        · cases h
        · rename_i hdigit
          obtain ⟨rfl, rfl⟩ := Prod.mk.inj (Except.ok.inj h)
          rw [if_neg]
          cases cs with
          | nil =>
              cases more with
              | nil => simp
              | cons c more => simp [(hmore c rfl).1]
          | cons c cs => exact hdigit
      · rw [readWhole_of_ne_zero hzero] at h
        split at h
        · cases h
        · rename_i hempty
          have happend := span_isDigit_append hmore (Except.ok.inj h)
          rw [Except.ok.inj h] at hempty
          rw [List.cons_append, readWhole_of_ne_zero hzero, ← List.cons_append, happend,
            if_neg hempty]

theorem readFraction_append (hmore : EndsNumber more) (h : readFraction cs = .ok (digits, rest)) :
    readFraction (cs ++ more) = .ok (digits, rest ++ more) := by
  unfold readFraction at h
  split at h
  · rename_i after
    rcases hspan : after.span Char.isDigit with ⟨ds, behind⟩
    simp only [hspan] at h
    split at h
    · cases h
    · rename_i hempty
      obtain ⟨rfl, rfl⟩ := Prod.mk.inj (Except.ok.inj h)
      simp only [List.cons_append, readFraction, span_isDigit_append hmore hspan, if_neg hempty]
  · rename_i hpoint
    obtain ⟨rfl, rfl⟩ := Prod.mk.inj (Except.ok.inj h)
    cases cs with
    | nil => exact readFraction_of_head fun c hc => (hmore c hc).2.1
    | cons c cs =>
        rw [List.cons_append, readFraction]
        intro after heq
        exact hpoint cs (by rw [(List.cons.inj heq).1])

theorem takeSign_append (hcs : cs ≠ []) (more : List Char) :
    Decimal.takeSign (cs ++ more) =
      ((Decimal.takeSign cs).1, (Decimal.takeSign cs).2 ++ more) := by
  obtain ⟨c, cs, rfl⟩ := List.exists_cons_of_ne_nil hcs
  unfold Decimal.takeSign
  split <;> simp_all

theorem readExponent_append {exponent : Option Int} (hmore : EndsNumber more)
    (h : readExponent cs = .ok (exponent, rest)) :
    readExponent (cs ++ more) = .ok (exponent, rest ++ more) := by
  cases cs with
  | nil =>
      obtain ⟨rfl, rfl⟩ := Prod.mk.inj (Except.ok.inj h)
      exact readExponent_of_endsNumber hmore
  | cons c cs =>
      simp only [List.cons_append, readExponent] at h ⊢
      by_cases hmark : c = 'e' ∨ c = 'E'
      · rw [if_pos hmark] at h ⊢
        have hcs : cs ≠ [] := by
          rintro rfl
          simp [Decimal.takeSign] at h
        rcases hspan : (Decimal.takeSign cs).2.span Char.isDigit with ⟨ds, behind⟩
        simp only [hspan] at h
        split at h
        · cases h
        · rename_i hempty
          obtain ⟨rfl, rfl⟩ := Prod.mk.inj (Except.ok.inj h)
          simp only [takeSign_append hcs, span_isDigit_append hmore hspan, if_neg hempty]
      · rw [if_neg hmark] at h ⊢
        obtain ⟨rfl, rfl⟩ := Prod.mk.inj (Except.ok.inj h)
        rfl

theorem readNumber_append {negative : Bool} {d : Draft} (hmore : EndsNumber more)
    (h : readNumber negative cs = (d, some rest)) :
    readNumber negative (cs ++ more) = (d, some (rest ++ more)) := by
  unfold readNumber at h ⊢
  rcases hwhole : readWhole cs with flaw | ⟨whole, cs'⟩
  · simp [hwhole, bind, Except.bind] at h
  rcases hfraction : readFraction cs' with flaw | ⟨fraction, cs''⟩
  · simp [hwhole, hfraction, bind, Except.bind] at h
  rcases hexponent : readExponent cs'' with flaw | ⟨exponent, behind⟩
  · simp [hwhole, hfraction, hexponent, bind, Except.bind] at h
  simp only [hwhole, hfraction, hexponent, readWhole_append hmore hwhole,
    readFraction_append hmore hfraction, readExponent_append hmore hexponent, bind, Except.bind,
    pure, Except.pure, Prod.mk.injEq, Option.some.injEq] at h ⊢
  exact ⟨h.1, by rw [h.2]⟩

/-- What is read to its end with the given fuel is read in the same way in front of other text,
and with more fuel. -/
structure Extends (more : List Char) (fuel : ℕ) : Prop where
  value {fuel' : ℕ} {cs rest : List Char} {d : Draft} (hle : fuel ≤ fuel')
    (h : readValue fuel cs = (d, some rest)) :
    readValue fuel' (cs ++ more) = (d, some (rest ++ more))
  items {fuel' : ℕ} {cs rest : List Char} {items : List Draft × Option Flaw} (hle : fuel ≤ fuel')
    (h : readItems fuel cs = (items, some rest)) :
    readItems fuel' (cs ++ more) = (items, some (rest ++ more))
  members {fuel' : ℕ} {cs rest : List Char} {members : List (Option String × Draft) × Option Flaw}
    (hle : fuel ≤ fuel') (h : readMembers fuel cs = (members, some rest)) :
    readMembers fuel' (cs ++ more) = (members, some (rest ++ more))

namespace Extends

variable {fuel fuel' : ℕ} {d : Draft}

theorem array (ih : Extends more fuel) (hle : fuel ≤ fuel')
    (h : readValue (fuel + 1) ('[' :: cs) = (d, some rest)) :
    readValue (fuel' + 1) ('[' :: (cs ++ more)) = (d, some (rest ++ more)) := by
  have hopen (cs : List Char) : skipSpaces ('[' :: cs) = '[' :: cs := rfl
  simp only [readValue, hopen] at h ⊢
  cases hcs : skipSpaces cs with
  | nil => simp [hcs] at h
  | cons c cs' =>
      simp only [hcs, skipSpaces_append_of_cons hcs more] at h ⊢
      split at h
      · cases h
      · rename_i heq
        obtain ⟨rfl, rfl⟩ := List.cons.inj heq
        obtain ⟨rfl, hrest⟩ := Prod.mk.inj h
        obtain rfl := Option.some.inj hrest
        rfl
      · rename_i hclose _
        rcases hitems : readItems fuel (c :: cs') with ⟨⟨ds, cut⟩, after⟩
        simp only [hitems, Prod.mk.injEq] at h
        obtain ⟨rfl, rfl⟩ := h
        have happend := ih.items hle hitems
        rw [List.cons_append] at happend
        split
        · simp_all
        · simp_all
        · simp only [happend]

theorem object (ih : Extends more fuel) (hle : fuel ≤ fuel')
    (h : readValue (fuel + 1) ('\x7b' :: cs) = (d, some rest)) :
    readValue (fuel' + 1) ('\x7b' :: (cs ++ more)) = (d, some (rest ++ more)) := by
  have hopen (cs : List Char) : skipSpaces ('\x7b' :: cs) = '\x7b' :: cs := rfl
  simp only [readValue, hopen] at h ⊢
  cases hcs : skipSpaces cs with
  | nil => simp [hcs] at h
  | cons c cs' =>
      simp only [hcs, skipSpaces_append_of_cons hcs more] at h ⊢
      split at h
      · cases h
      · rename_i heq
        obtain ⟨rfl, rfl⟩ := List.cons.inj heq
        obtain ⟨rfl, hrest⟩ := Prod.mk.inj h
        obtain rfl := Option.some.inj hrest
        rfl
      · rename_i hclose _
        rcases hmembers : readMembers fuel (c :: cs') with ⟨⟨ms, cut⟩, after⟩
        simp only [hmembers, Prod.mk.injEq] at h
        obtain ⟨rfl, rfl⟩ := h
        have happend := ih.members hle hmembers
        rw [List.cons_append] at happend
        split
        · simp_all
        · simp_all
        · simp only [happend]

theorem value_succ (hmore : EndsNumber more) (ih : Extends more fuel) (hle : fuel ≤ fuel')
    (h : readValue (fuel + 1) cs = (d, some rest)) :
    readValue (fuel' + 1) (cs ++ more) = (d, some (rest ++ more)) := by
  cases hcs : skipSpaces cs with
  | nil => simp [readValue, hcs] at h
  | cons c cs' =>
      have hopen := skipSpaces_cons_of_skipSpaces_eq hcs
      have happend := skipSpaces_append_of_cons hcs more
      rw [readValue_congr (hcs.trans (hopen cs').symm)] at h
      rw [readValue_congr (happend.trans (hopen (cs' ++ more)).symm)]
      have hread := h
      rw [readValue, hopen] at hread
      -- One case for each way in which a value can start.
      split at hread
      · cases hread
      all_goals
        rename_i heq
        obtain ⟨rfl, rfl⟩ := List.cons.inj heq
      · rcases hstring : readString (.text []) cs' with ⟨s, after⟩
        simp only [hstring, Prod.mk.injEq] at hread
        obtain ⟨rfl, rfl⟩ := hread
        simp only [readValue, hopen, readString_append hstring more]
      · exact ih.array hle h
      · exact ih.object hle h
      · rw [readValue, hopen]
        exact readNumber_append hmore hread
      iterate 3
        · rw [readValue, hopen]
          exact readWord_append hread more
      · split at hread
        · rename_i hdigit
          rw [readValue_of_isDigit (hopen _) hdigit]
          exact readNumber_append hmore hread
        · cases hread

theorem items_succ (ih : Extends more fuel) (hle : fuel ≤ fuel')
    {items : List Draft × Option Flaw} (h : readItems (fuel + 1) cs = (items, some rest)) :
    readItems (fuel' + 1) (cs ++ more) = (items, some (rest ++ more)) := by
  rcases hvalue : readValue fuel cs with ⟨item, _ | after⟩
  · simp [readItems, hvalue] at h
  rw [readItems, hvalue] at h
  rw [readItems, ih.value hle hvalue]
  cases hafter : skipSpaces after with
  | nil => simp [hafter] at h
  | cons c cs' =>
      simp only [hafter, skipSpaces_append_of_cons hafter more] at h ⊢
      split at h
      · rename_i heq
        obtain ⟨rfl, rfl⟩ := List.cons.inj heq
        obtain ⟨rfl, hrest⟩ := Prod.mk.inj h
        obtain rfl := Option.some.inj hrest
        rfl
      · rename_i heq
        obtain ⟨rfl, rfl⟩ := List.cons.inj heq
        rcases hitems : readItems fuel cs' with ⟨⟨ds, cut⟩, behind⟩
        simp only [hitems, Prod.mk.injEq] at h
        obtain ⟨rfl, rfl⟩ := h
        simp only [ih.items hle hitems]
      · cases h
      · cases h

theorem members_succ (ih : Extends more fuel) (hle : fuel ≤ fuel')
    {members : List (Option String × Draft) × Option Flaw}
    (h : readMembers (fuel + 1) cs = (members, some rest)) :
    readMembers (fuel' + 1) (cs ++ more) = (members, some (rest ++ more)) := by
  obtain ⟨cs', hcs⟩ := skipSpaces_of_readMembers h
  simp only [readMembers, hcs, skipSpaces_append_of_cons hcs more] at h ⊢
  rcases hname : readString (.text []) cs' with ⟨name, _ | colon⟩
  · simp [hname] at h
  simp only [hname, readString_append hname more] at h ⊢
  rcases hcolon : skipSpaces colon with _ | ⟨c, after⟩
  · simp [hcolon] at h
  simp only [hcolon, skipSpaces_append_of_cons hcolon more] at h ⊢
  split at h
  · cases h
  · rename_i heq
    obtain ⟨rfl, rfl⟩ := List.cons.inj heq
    rcases hvalue : readValue fuel after with ⟨value, _ | behind⟩
    · simp [hvalue] at h
    simp only [hvalue, ih.value hle hvalue] at h ⊢
    rcases hend : skipSpaces behind with _ | ⟨c, cs''⟩
    · simp [hend] at h
    simp only [hend, skipSpaces_append_of_cons hend more] at h ⊢
    split at h
    · rename_i heq
      obtain ⟨rfl, rfl⟩ := List.cons.inj heq
      obtain ⟨rfl, hrest⟩ := Prod.mk.inj h
      obtain rfl := Option.some.inj hrest
      rfl
    · rename_i heq
      obtain ⟨rfl, rfl⟩ := List.cons.inj heq
      rcases hmembers : readMembers fuel cs'' with ⟨⟨ms, cut⟩, last⟩
      simp only [hmembers, Prod.mk.injEq] at h
      obtain ⟨rfl, rfl⟩ := h
      simp only [ih.members hle hmembers]
    · cases h
    · cases h
  · cases h

end Extends

/-- A value that has been read to its end is read in the same way in front of other text, if this
does not go on with a number, and with more fuel. -/
theorem extends_of_endsNumber (hmore : EndsNumber more) (fuel : ℕ) : Extends more fuel := by
  induction fuel with
  | zero =>
      refine ⟨fun _ h => ?_, fun _ h => ?_, fun _ h => ?_⟩
      all_goals cases h
  | succ fuel ih =>
      refine ⟨fun hle h => ?_, fun hle h => ?_, fun hle h => ?_⟩
      all_goals
        obtain ⟨fuel', rfl⟩ := Nat.exists_eq_succ_of_ne_zero (Nat.ne_zero_of_lt hle)
        replace hle := Nat.le_of_succ_le_succ hle
      · exact ih.value_succ hmore hle h
      · exact ih.items_succ hle h
      · exact ih.members_succ hle h

end CatalogRules.Json
