import CatalogRules.Json.Decode
import CatalogRules.Json.Printer
import CatalogRules.Proofs.Text.Digits

/-!
Reading what has been written. A value is written with spaces in the gaps between its
parts, and the reader passes over all of them, so it does not matter how many there
are. Each part is read up to its own end, whatever follows, and gives the draft that
has no flaw; only a number needs to be followed by something that does not go on with
it.
-/

namespace CatalogRules.Json

/-! ### Strings -/

theorem readString_escape (acc cs : List Char) (c : Char) :
    readString (.text acc) (escape c ++ cs) = readString (.text (c :: acc)) cs := by
  -- One case for each way to write a character; the last two are those of controls
  -- and of characters that stand for themselves.
  unfold escape
  split
  · subst c
    simp [readString, simpleEscape?, Spelling.push]
  split
  · subst c
    simp [readString, simpleEscape?, Spelling.push]
  split
  · subst c
    simp [readString, simpleEscape?, Spelling.push]
  split
  · subst c
    simp [readString, simpleEscape?, Spelling.push]
  split
  · subst c
    simp [readString, simpleEscape?, Spelling.push]
  split
  · subst c
    simp [readString, simpleEscape?, Spelling.push]
  split
  · subst c
    simp [readString, simpleEscape?, Spelling.push]
  split
  · rename_i hcontrol
    have hcode : ∀ n < 0x20,
        hexCode? '0' '0' (Nat.digitChar (n / 16)) (Nat.digitChar (n % 16)) = some n ∧
          isHighSurrogate n = false ∧ isLowSurrogate n = false := by decide
    obtain ⟨hread, hhigh, hlow⟩ := hcode c.toNat hcontrol
    simp [readString, hread, Spelling.pushCode, hhigh, hlow]
  · rename_i hquote hbackslash _ _ _ _ _ hcontrol
    simp only [List.cons_append, List.nil_append]
    rw [readString]
    · simp [hcontrol, Spelling.push]
    all_goals simp_all

theorem readString_flatMap_escape (acc cs rest : List Char) :
    readString (.text acc) (cs.flatMap escape ++ '"' :: rest) =
      (.ok (String.ofList (acc.reverse ++ cs)), some rest) := by
  induction cs generalizing acc with
  | nil => simp [readString, Spelling.finish]
  | cons c cs ih =>
      rw [List.flatMap_cons, List.append_assoc, readString_escape, ih]
      simp

theorem readString_quote (s : String) (rest : List Char) :
    ∃ cs, quote s ++ rest = '"' :: cs ∧ readString (.text []) cs = (.ok s, some rest) := by
  refine ⟨s.toList.flatMap escape ++ '"' :: rest, by simp [quote], ?_⟩
  simpa using readString_flatMap_escape [] s.toList rest

/-! ### Numbers -/

def EndsNumber (rest : List Char) : Prop :=
  ∀ c ∈ rest.head?, c.isDigit = false ∧ c ≠ '.' ∧ c ≠ 'e' ∧ c ≠ 'E'

/-- A number is read as it was written, whatever follows it. -/
def Number.ReadsBack (n : Number) : Prop :=
  ∀ fuel rest, EndsNumber rest →
    readValue (fuel + 1) (n.write ++ rest) = (.number n, some rest)

theorem endsNumber_cons {c : Char} {cs : List Char} (hdigit : c.isDigit = false) (hpoint : c ≠ '.')
    (hsmall : c ≠ 'e') (hcapital : c ≠ 'E') : EndsNumber (c :: cs) := by
  intro x hx
  obtain rfl : c = x := by simpa using hx
  exact ⟨hdigit, hpoint, hsmall, hcapital⟩

theorem endsNumber_append {gap : List Char} (hgap : ∀ c ∈ gap, isSpace c = true) {cs : List Char}
    (hcs : EndsNumber cs) : EndsNumber (gap ++ cs) := by
  cases gap with
  | nil => exact hcs
  | cons c gap =>
      have hc := hgap c List.mem_cons_self
      simp only [isSpace, Bool.or_eq_true, beq_iff_eq] at hc
      rcases hc with ((rfl | rfl) | rfl) | rfl <;>
        exact endsNumber_cons (by decide) (by decide) (by decide) (by decide)

/-- Digits in which a zero in front stands alone are read up to their end. -/
theorem readWhole_digits {whole rest : List Char} (hne : whole ≠ [])
    (hdigits : ∀ c ∈ whole, c.isDigit = true) (hzero : ∀ cs, whole = '0' :: cs → cs = [])
    (hrest : ∀ c ∈ rest.head?, c.isDigit = false) :
    readWhole (whole ++ rest) = .ok (whole, rest) := by
  have hspan := Text.span_isDigit_append hdigits hrest
  obtain ⟨d, ds, rfl⟩ := List.exists_cons_of_ne_nil hne
  by_cases hd : d = '0'
  · subst hd
    obtain rfl := hzero ds rfl
    cases rest with
    | nil => simp [readWhole]
    | cons c cs =>
        have hc := hrest c rfl
        simp [readWhole, hc]
  · rw [List.cons_append] at hspan ⊢
    rw [readWhole]
    · rw [hspan]
      simp
    · intro rest' heq
      exact hd (List.cons.inj heq).1

theorem readWhole_toDigits (n : Nat) {rest : List Char} (h : EndsNumber rest) :
    readWhole (Nat.toDigits 10 n ++ rest) = .ok (Nat.toDigits 10 n, rest) := by
  obtain ⟨d, ds, hdigits, -, hzero⟩ := Text.exists_toDigits_eq_cons n
  refine readWhole_digits (by simp [hdigits]) (fun _ hc => Text.isDigit_of_mem_toDigits hc) ?_
    fun c hc => (h c hc).1
  intro cs hcs
  by_cases hn : n = 0
  · subst hn
    exact (List.cons.inj hcs).2.symm
  · exact absurd (List.cons.inj (hdigits.symm.trans hcs)).1 (hzero hn)

theorem readFraction_of_head {rest : List Char} (h : ∀ c ∈ rest.head?, c ≠ '.') :
    readFraction rest = .ok ([], rest) := by
  cases rest with
  | nil => rfl
  | cons c cs =>
      have hc := h c rfl
      unfold readFraction
      split
      · simp_all
      · rfl

theorem readExponent_of_endsNumber {rest : List Char} (h : EndsNumber rest) :
    readExponent rest = .ok (none, rest) := by
  cases rest with
  | nil => rfl
  | cons c cs =>
      obtain ⟨-, -, hsmall, hcapital⟩ := h c rfl
      simp [readExponent, hsmall, hcapital]

theorem readNumber_toDigits (negative : Bool) (n : Nat) {i : Int} {rest : List Char}
    (hi : i = if negative then -(n : Int) else n) (hlow : leastInteger ≤ i)
    (hhigh : i ≤ greatestInteger) (hzero : ¬(negative = true ∧ n = 0))
    (hrest : EndsNumber rest) :
    readNumber negative (Nat.toDigits 10 n ++ rest) = (.number (.integer i), some rest) := by
  have hdraft : numberDraft negative (Nat.toDigits 10 n) [] none = .number (.integer i) := by
    simp only [numberDraft, Text.digitsValue_toDigits, ← hi]
    rw [if_pos ⟨rfl, rfl, hlow, hhigh, hzero⟩]
  simp [readNumber, readWhole_toDigits n hrest, readFraction_of_head (fun c hc => (hrest c hc).2.1),
    readExponent_of_endsNumber hrest, hdraft, bind, Except.bind, pure, Except.pure]

theorem isSpace_of_isDigit {c : Char} (h : c.isDigit = true) : isSpace c = false := by
  rw [← Bool.not_eq_true]
  simp only [isSpace, Bool.or_eq_true, beq_iff_eq]
  rintro (((rfl | rfl) | rfl) | rfl) <;> revert h <;> decide

theorem skipSpaces_of_isDigit {c : Char} (h : c.isDigit = true) (cs : List Char) :
    skipSpaces (c :: cs) = c :: cs := by
  simp [skipSpaces, isSpace_of_isDigit h]

theorem readValue_of_isDigit {cs cs' : List Char} {c : Char} (hcs : skipSpaces cs = c :: cs')
    (hc : c.isDigit = true) (fuel : Nat) :
    readValue (fuel + 1) cs = readNumber false (c :: cs') := by
  rw [readValue, hcs]
  split <;> simp_all

theorem readValue_minus (fuel : Nat) (cs : List Char) :
    readValue (fuel + 1) ('-' :: cs) = readNumber true cs := by
  have hopen : skipSpaces ('-' :: cs) = '-' :: cs := rfl
  simp [readValue, hopen]

theorem readsBack_integer {i : Int} (hlow : leastInteger ≤ i) (hhigh : i ≤ greatestInteger) :
    (Number.integer i).ReadsBack := by
  intro fuel rest hrest
  simp only [Number.write]
  by_cases hneg : i < 0
  · have hread := readNumber_toDigits true i.natAbs (i := i) (by rw [if_pos rfl]; omega) hlow
      hhigh (by omega) hrest
    rw [if_pos hneg]
    simp only [List.cons_append, List.nil_append]
    rw [readValue_minus, hread]
  · have hread := readNumber_toDigits false i.natAbs (i := i)
      (by rw [if_neg Bool.false_ne_true]; omega) hlow hhigh (by simp) hrest
    obtain ⟨d, ds, hdigits, hd, -⟩ := Text.exists_toDigits_eq_cons i.natAbs
    rw [if_neg hneg, List.nil_append]
    rw [hdigits, List.cons_append] at hread ⊢
    rw [readValue_of_isDigit (skipSpaces_of_isDigit hd _) hd, hread]

/-! ### Spaces -/

theorem skipSpaces_append {gap : List Char} (hgap : ∀ c ∈ gap, isSpace c = true)
    (cs : List Char) : skipSpaces (gap ++ cs) = skipSpaces cs :=
  List.dropWhile_append_of_pos hgap

theorem skipSpaces_skipSpaces (cs : List Char) : skipSpaces (skipSpaces cs) = skipSpaces cs := by
  induction cs with
  | nil => rfl
  | cons c cs ih =>
      by_cases h : isSpace c = true <;> simp_all [skipSpaces]

section

variable {cs ds : List Char} (h : skipSpaces cs = skipSpaces ds) (fuel : Nat)

include h

theorem readValue_congr : readValue fuel cs = readValue fuel ds := by
  cases fuel with
  | zero => rfl
  | succ fuel => simp only [readValue, h]

theorem readItems_congr : readItems fuel cs = readItems fuel ds := by
  cases fuel with
  | zero => rfl
  | succ fuel => simp only [readItems, readValue_congr h]

theorem readMembers_congr : readMembers fuel cs = readMembers fuel ds := by
  cases fuel with
  | zero => rfl
  | succ fuel => simp only [readMembers, h]

end

/-! ### Items and members -/

section

variable {fuel : Nat} {cs rest rest' rest'' : List Char}

/-- Where a value can be read, no array ends. -/
theorem skipSpaces_of_readValue {d : Draft} (h : readValue fuel cs = (d, some rest)) :
    ∃ c cs', skipSpaces cs = c :: cs' ∧ c ≠ ']' := by
  cases fuel with
  | zero => simp [readValue] at h
  | succ fuel =>
      cases hcs : skipSpaces cs with
      | nil => simp [readValue, hcs] at h
      | cons c cs' =>
          refine ⟨c, cs', rfl, ?_⟩
          rintro rfl
          simp [readValue, hcs] at h

theorem skipSpaces_of_readItems {items : List Draft × Option Flaw}
    (h : readItems fuel cs = (items, some rest)) :
    ∃ c cs', skipSpaces cs = c :: cs' ∧ c ≠ ']' := by
  cases fuel with
  | zero => simp [readItems] at h
  | succ fuel =>
      rcases hvalue : readValue fuel cs with ⟨d, _ | rest'⟩
      · simp [readItems, hvalue] at h
      · exact skipSpaces_of_readValue hvalue

theorem skipSpaces_of_readMembers {members : List (Option String × Draft) × Option Flaw}
    (h : readMembers fuel cs = (members, some rest)) : ∃ cs', skipSpaces cs = '"' :: cs' := by
  cases fuel with
  | zero => simp [readMembers] at h
  | succ fuel =>
      rw [readMembers] at h
      split at h
      · simp at h
      · exact ⟨_, ‹_›⟩
      · simp at h

theorem readValue_array {items : List Draft}
    (h : readItems fuel cs = ((items, none), some rest)) :
    readValue (fuel + 1) ('[' :: cs) = (.array items none, some rest) := by
  obtain ⟨c, cs', hcs, hc⟩ := skipSpaces_of_readItems h
  have hitems : readItems fuel (c :: cs') = ((items, none), some rest) := by
    rw [← hcs, readItems_congr (skipSpaces_skipSpaces cs), h]
  have hopen : skipSpaces ('[' :: cs) = '[' :: cs := rfl
  simp only [readValue, hopen, hcs]
  split <;> simp_all

theorem readValue_object {members : List (Option String × Draft)}
    (h : readMembers fuel cs = ((members, none), some rest)) :
    readValue (fuel + 1) ('\x7b' :: cs) = (.object members none, some rest) := by
  obtain ⟨cs', hcs⟩ := skipSpaces_of_readMembers h
  have hmembers : readMembers fuel ('"' :: cs') = ((members, none), some rest) := by
    rw [← hcs, readMembers_congr (skipSpaces_skipSpaces cs), h]
  have hopen : skipSpaces ('\x7b' :: cs) = '\x7b' :: cs := rfl
  simp only [readValue, hopen, hcs]
  simp [hmembers]

theorem readItems_last {d : Draft} (h : readValue fuel cs = (d, some rest))
    (hend : skipSpaces rest = ']' :: rest') :
    readItems (fuel + 1) cs = (([d], none), some rest') := by
  simp [readItems, h, hend]

theorem readItems_cons {d : Draft} {ds : List Draft} (h : readValue fuel cs = (d, some rest))
    (hend : skipSpaces rest = ',' :: rest')
    (hds : readItems fuel rest' = ((ds, none), some rest'')) :
    readItems (fuel + 1) cs = ((d :: ds, none), some rest'') := by
  simp [readItems, h, hend, hds]

variable {name : String} {colon cs' : List Char} {d : Draft}
  (hname : readString (.text []) cs = (.ok name, some colon))
  (hcolon : skipSpaces colon = ':' :: cs') (h : readValue fuel cs' = (d, some rest))

include hname hcolon h

theorem readMembers_last (hend : skipSpaces rest = '\x7d' :: rest') :
    readMembers (fuel + 1) ('"' :: cs) = (([(some name, d)], none), some rest') := by
  have hopen : skipSpaces ('"' :: cs) = '"' :: cs := rfl
  simp [readMembers, hopen, hname, hcolon, h, hend, Except.toOption]

theorem readMembers_cons {ms : List (Option String × Draft)}
    (hend : skipSpaces rest = ',' :: rest')
    (hms : readMembers fuel rest' = ((ms, none), some rest'')) :
    readMembers (fuel + 1) ('"' :: cs) = (((some name, d) :: ms, none), some rest'') := by
  have hopen : skipSpaces ('"' :: cs) = '"' :: cs := rfl
  simp [readMembers, hopen, hname, hcolon, h, hend, hms, Except.toOption]

end

/-! ### Written values -/

/-- What stands in the gaps of a written value: in front of each part of a container
and of its closing bracket, and behind a colon. -/
structure Spacing where
  gap : Nat → List Char
  afterColon : List Char
  isSpace_gap : ∀ level, ∀ c ∈ gap level, isSpace c = true
  isSpace_afterColon : ∀ c ∈ afterColon, isSpace c = true

mutual

/-- A value with the given spaces, started inside `level` containers. -/
def writeSpaced (sp : Spacing) (level : Nat) : Json → List Char
  | null => ['n', 'u', 'l', 'l']
  | bool b => writeBool b
  | number n => n.write
  | string s => quote s
  | array [] => ['[', ']']
  | array (v :: vs) =>
    '[' :: (writeSpacedItems sp (level + 1) (v :: vs) ++ (sp.gap level ++ [']']))
  | object [] => ['\x7b', '\x7d']
  | object (m :: ms) =>
    '\x7b' :: (writeSpacedMembers sp (level + 1) (m :: ms) ++ (sp.gap level ++ ['\x7d']))

def writeSpacedItems (sp : Spacing) (level : Nat) : List Json → List Char
  | [] => []
  | [v] => sp.gap level ++ writeSpaced sp level v
  | v :: w :: vs =>
    sp.gap level ++ (writeSpaced sp level v ++ ',' :: writeSpacedItems sp level (w :: vs))

def writeSpacedMembers (sp : Spacing) (level : Nat) : List (String × Json) → List Char
  | [] => []
  | [(name, v)] =>
    sp.gap level ++ (quote name ++ ':' :: (sp.afterColon ++ writeSpaced sp level v))
  | (name, v) :: m :: ms =>
    sp.gap level ++ (quote name ++ ':' :: (sp.afterColon ++
      (writeSpaced sp level v ++ ',' :: writeSpacedMembers sp level (m :: ms))))

end

def indented : Spacing where
  gap := newline
  afterColon := [' ']
  isSpace_gap level c hc := by
    rcases List.mem_cons.1 hc with rfl | hc
    · rfl
    · rw [(List.mem_replicate.1 hc).2]
      rfl
  isSpace_afterColon c hc := by
    rw [List.mem_singleton.1 hc]
    rfl

def dense : Spacing where
  gap _ := []
  afterColon := []
  isSpace_gap _ _ hc := absurd hc List.not_mem_nil
  isSpace_afterColon _ hc := absurd hc List.not_mem_nil

@[simp]
theorem gap_indented : indented.gap = newline := rfl

@[simp]
theorem afterColon_indented : indented.afterColon = [' '] := rfl

@[simp]
theorem gap_dense (level : Nat) : dense.gap level = [] := rfl

@[simp]
theorem afterColon_dense : dense.afterColon = [] := rfl

mutual

theorem writeSpaced_indented (level : Nat) :
    ∀ v : Json, writeSpaced indented level v = writeIndented level v
  | null | bool _ | number _ | string _ | array [] | object [] => by
      simp only [writeSpaced, writeIndented]
  | array (v :: vs) => by
      simp [writeSpaced, writeIndented, writeSpacedItems_indented (level + 1) (v :: vs)]
  | object (m :: ms) => by
      simp [writeSpaced, writeIndented, writeSpacedMembers_indented (level + 1) (m :: ms)]

theorem writeSpacedItems_indented (level : Nat) :
    ∀ vs : List Json, writeSpacedItems indented level vs = writeIndentedItems level vs
  | [] => by simp only [writeSpacedItems, writeIndentedItems]
  | [v] => by simp [writeSpacedItems, writeIndentedItems, writeSpaced_indented level v]
  | v :: w :: vs => by
      simp [writeSpacedItems, writeIndentedItems, writeSpaced_indented level v,
        writeSpacedItems_indented level (w :: vs)]

theorem writeSpacedMembers_indented (level : Nat) :
    ∀ ms : List (String × Json),
      writeSpacedMembers indented level ms = writeIndentedMembers level ms
  | [] => by simp only [writeSpacedMembers, writeIndentedMembers]
  | [(name, v)] => by
      simp [writeSpacedMembers, writeIndentedMembers, writeSpaced_indented level v]
  | (name, v) :: m :: ms => by
      simp [writeSpacedMembers, writeIndentedMembers, writeSpaced_indented level v,
        writeSpacedMembers_indented level (m :: ms)]

end

mutual

theorem writeSpaced_dense (level : Nat) : ∀ v : Json, writeSpaced dense level v = write v
  | null | bool _ | number _ | string _ | array [] | object [] => by
      simp [writeSpaced, write, writeItems, writeMembers]
  | array (v :: vs) => by
      simp [writeSpaced, write, writeSpacedItems_dense (level + 1) (v :: vs)]
  | object (m :: ms) => by
      simp [writeSpaced, write, writeSpacedMembers_dense (level + 1) (m :: ms)]

theorem writeSpacedItems_dense (level : Nat) :
    ∀ vs : List Json, writeSpacedItems dense level vs = writeItems vs
  | [] => by simp only [writeSpacedItems, writeItems]
  | [v] => by simp [writeSpacedItems, writeItems, writeSpaced_dense level v]
  | v :: w :: vs => by
      simp [writeSpacedItems, writeItems, writeSpaced_dense level v,
        writeSpacedItems_dense level (w :: vs)]

theorem writeSpacedMembers_dense (level : Nat) :
    ∀ ms : List (String × Json), writeSpacedMembers dense level ms = writeMembers ms
  | [] => by simp only [writeSpacedMembers, writeMembers]
  | [(name, v)] => by simp [writeSpacedMembers, writeMembers, writeSpaced_dense level v]
  | (name, v) :: m :: ms => by
      simp [writeSpacedMembers, writeMembers, writeSpaced_dense level v,
        writeSpacedMembers_dense level (m :: ms)]

end

/-! ### Reading written values -/

mutual

def numbers : Json → List Number
  | number n => [n]
  | array items => numbersOfItems items
  | object members => numbersOfMembers members
  | _ => []

def numbersOfItems : List Json → List Number
  | [] => []
  | v :: vs => numbers v ++ numbersOfItems vs

def numbersOfMembers : List (String × Json) → List Number
  | [] => []
  | (_, v) :: ms => numbers v ++ numbersOfMembers ms

end

theorem numbersOfItems_eq_flatMap (vs : List Json) : numbersOfItems vs = vs.flatMap numbers := by
  induction vs with
  | nil => rfl
  | cons v vs ih => rw [numbersOfItems, ih, List.flatMap_cons]

theorem endsNumber_comma (cs : List Char) : EndsNumber (',' :: cs) :=
  endsNumber_cons (by decide) (by decide) (by decide) (by decide)

section

variable {sp : Spacing}

mutual

/-- A value is read up to its end. Twice its length is fuel enough, since each call for
a part of it has a bracket, a comma or a name in front of that part. -/
theorem readValue_writeSpaced (level fuel : Nat) {rest : List Char} (hrest : EndsNumber rest) :
    ∀ v : Json, (∀ n ∈ v.numbers, n.ReadsBack) → 2 * (writeSpaced sp level v).length < fuel →
      readValue fuel (writeSpaced sp level v ++ rest) = (.ofJson v, some rest)
  | null, _, hfuel | array [], _, hfuel | object [], _, hfuel => by
      obtain ⟨fuel, rfl⟩ := Nat.exists_eq_add_of_lt hfuel
      rfl
  | bool b, _, hfuel => by
      obtain ⟨fuel, rfl⟩ := Nat.exists_eq_add_of_lt hfuel
      cases b <;> rfl
  | number n, hn, hfuel => by
      obtain ⟨fuel, rfl⟩ := Nat.exists_eq_add_of_lt hfuel
      exact hn n (by simp [numbers]) _ rest hrest
  | string s, _, hfuel => by
      obtain ⟨fuel, rfl⟩ := Nat.exists_eq_add_of_lt hfuel
      obtain ⟨cs, hcs, hread⟩ := readString_quote s rest
      have hopen : skipSpaces ('"' :: cs) = '"' :: cs := rfl
      rw [writeSpaced, hcs, readValue, hopen]
      simp only [hread]
      rfl
  | array (v :: vs), hn, hfuel => by
      obtain ⟨fuel, rfl⟩ := Nat.exists_eq_add_of_lt hfuel
      have hshape : writeSpaced sp level (array (v :: vs)) ++ rest =
          '[' :: (writeSpacedItems sp (level + 1) (v :: vs) ++ (sp.gap level ++ ']' :: rest)) := by
        simp [writeSpaced]
      rw [hshape]
      refine readValue_array ?_
      exact readItems_writeSpaced (level + 1) _ rest (sp.isSpace_gap level) v vs hn
        (by simp [writeSpaced]; omega)
  | object ((name, v) :: ms), hn, hfuel => by
      obtain ⟨fuel, rfl⟩ := Nat.exists_eq_add_of_lt hfuel
      have hshape : writeSpaced sp level (object ((name, v) :: ms)) ++ rest =
          '\x7b' :: (writeSpacedMembers sp (level + 1) ((name, v) :: ms) ++
            (sp.gap level ++ '\x7d' :: rest)) := by
        simp [writeSpaced]
      rw [hshape]
      refine readValue_object ?_
      exact readMembers_writeSpaced (level + 1) _ rest (sp.isSpace_gap level) name v ms hn
        (by simp [writeSpaced]; omega)

theorem readItems_writeSpaced (level fuel : Nat) {gap : List Char} (rest : List Char)
    (hgap : ∀ c ∈ gap, isSpace c = true) :
    ∀ (v : Json) (vs : List Json), (∀ n ∈ numbersOfItems (v :: vs), n.ReadsBack) →
      2 * (writeSpacedItems sp level (v :: vs)).length + 1 < fuel →
      readItems fuel (writeSpacedItems sp level (v :: vs) ++ (gap ++ ']' :: rest)) =
        ((Draft.ofItems (v :: vs), none), some rest)
  | v, [], hn, hfuel => by
      obtain ⟨fuel, rfl⟩ := Nat.exists_eq_add_of_lt hfuel
      have hend : EndsNumber (gap ++ ']' :: rest) :=
        endsNumber_append hgap
          (endsNumber_cons (by decide) (by decide) (by decide) (by decide))
      have hv := readValue_writeSpaced level (2 * (writeSpacedItems sp level [v]).length + 1 + fuel)
        hend v (by simpa [numbersOfItems] using hn) (by simp [writeSpacedItems]; omega)
      rw [writeSpacedItems, List.append_assoc,
        readItems_congr (skipSpaces_append (sp.isSpace_gap level) _)]
      exact readItems_last hv (skipSpaces_append hgap (']' :: rest))
  | v, w :: vs, hn, hfuel => by
      obtain ⟨fuel, rfl⟩ := Nat.exists_eq_add_of_lt hfuel
      rw [numbersOfItems, List.forall_mem_append] at hn
      let more := writeSpacedItems sp level (w :: vs) ++ (gap ++ ']' :: rest)
      have hv := readValue_writeSpaced level
        (2 * (writeSpacedItems sp level (v :: w :: vs)).length + 1 + fuel)
        (endsNumber_comma more) v hn.1 (by simp [writeSpacedItems]; omega)
      have hmore := readItems_writeSpaced level
        (2 * (writeSpacedItems sp level (v :: w :: vs)).length + 1 + fuel) rest hgap w vs hn.2
        (by simp [writeSpacedItems]; omega)
      have hshape : writeSpacedItems sp level (v :: w :: vs) ++ (gap ++ ']' :: rest) =
          sp.gap level ++ (writeSpaced sp level v ++ ',' :: more) := by
        simp [writeSpacedItems, more]
      rw [hshape, readItems_congr (skipSpaces_append (sp.isSpace_gap level) _)]
      exact readItems_cons hv rfl hmore

theorem readMembers_writeSpaced (level fuel : Nat) {gap : List Char} (rest : List Char)
    (hgap : ∀ c ∈ gap, isSpace c = true) :
    ∀ (name : String) (v : Json) (ms : List (String × Json)),
      (∀ n ∈ numbersOfMembers ((name, v) :: ms), n.ReadsBack) →
      2 * (writeSpacedMembers sp level ((name, v) :: ms)).length + 1 < fuel →
      readMembers fuel (writeSpacedMembers sp level ((name, v) :: ms) ++ (gap ++ '\x7d' :: rest)) =
        ((Draft.ofMembers ((name, v) :: ms), none), some rest)
  | name, v, [], hn, hfuel => by
      obtain ⟨fuel, rfl⟩ := Nat.exists_eq_add_of_lt hfuel
      have hend : EndsNumber (gap ++ '\x7d' :: rest) :=
        endsNumber_append hgap
          (endsNumber_cons (by decide) (by decide) (by decide) (by decide))
      have hv := readValue_writeSpaced level
        (2 * (writeSpacedMembers sp level [(name, v)]).length + 1 + fuel) hend v
        (by simpa [numbersOfMembers] using hn) (by simp [writeSpacedMembers]; omega)
      obtain ⟨cs, hcs, hname⟩ := readString_quote name
        (':' :: (sp.afterColon ++ (writeSpaced sp level v ++ (gap ++ '\x7d' :: rest))))
      have hshape : writeSpacedMembers sp level [(name, v)] ++ (gap ++ '\x7d' :: rest) =
          sp.gap level ++ '"' :: cs := by
        simp [writeSpacedMembers, ← hcs]
      rw [hshape, readMembers_congr (skipSpaces_append (sp.isSpace_gap level) _)]
      refine readMembers_last hname rfl ?_ (skipSpaces_append hgap ('\x7d' :: rest))
      rw [readValue_congr (skipSpaces_append sp.isSpace_afterColon _), hv]
  | name, v, (name', w) :: ms, hn, hfuel => by
      obtain ⟨fuel, rfl⟩ := Nat.exists_eq_add_of_lt hfuel
      rw [numbersOfMembers, List.forall_mem_append] at hn
      let more := writeSpacedMembers sp level ((name', w) :: ms) ++ (gap ++ '\x7d' :: rest)
      have hv := readValue_writeSpaced level
        (2 * (writeSpacedMembers sp level ((name, v) :: (name', w) :: ms)).length + 1 + fuel)
        (endsNumber_comma more) v hn.1 (by simp [writeSpacedMembers]; omega)
      have hmore := readMembers_writeSpaced level
        (2 * (writeSpacedMembers sp level ((name, v) :: (name', w) :: ms)).length + 1 + fuel)
        rest hgap name' w ms hn.2 (by simp [writeSpacedMembers]; omega)
      obtain ⟨cs, hcs, hname⟩ := readString_quote name
        (':' :: (sp.afterColon ++ (writeSpaced sp level v ++ ',' :: more)))
      have hshape : writeSpacedMembers sp level ((name, v) :: (name', w) :: ms) ++
          (gap ++ '\x7d' :: rest) = sp.gap level ++ '"' :: cs := by
        simp [writeSpacedMembers, ← hcs, more]
      have hcomma : skipSpaces (',' :: more) = ',' :: more := rfl
      rw [hshape, readMembers_congr (skipSpaces_append (sp.isSpace_gap level) _)]
      refine readMembers_cons hname rfl ?_ hcomma hmore
      rw [readValue_congr (skipSpaces_append sp.isSpace_afterColon _), hv]

end

end

/-! ### Documents -/

/-- A written document is read as the draft of its value, if its numbers are read as
they were written. -/
theorem readDocument_writeSpaced (sp : Spacing) {v : Json} (hn : ∀ n ∈ v.numbers, n.ReadsBack) :
    readDocument (writeSpaced sp 0 v) = ⟨.ofJson v, false⟩ := by
  have hnil : EndsNumber [] := by simp [EndsNumber]
  have hread : readValue (2 * (writeSpaced sp 0 v).length + 2) (writeSpaced sp 0 v ++ []) =
      (.ofJson v, some []) := readValue_writeSpaced 0 _ hnil v hn (by omega)
  rw [List.append_nil] at hread
  simp [readDocument, hread, skipSpaces]

theorem readDocument_pretty {v : Json} (hn : ∀ n ∈ v.numbers, n.ReadsBack) :
    readDocument v.pretty.toList = ⟨.ofJson v, false⟩ := by
  rw [pretty, String.toList_ofList, ← writeSpaced_indented, readDocument_writeSpaced indented hn]

theorem readDocument_compact {v : Json} (hn : ∀ n ∈ v.numbers, n.ReadsBack) :
    readDocument v.compact.toList = ⟨.ofJson v, false⟩ := by
  rw [compact, String.toList_ofList, ← writeSpaced_dense 0, readDocument_writeSpaced dense hn]

section

variable {α : Type} {decode : Decoder α} {v : Json} {a : α}

theorem decodeText_of_readDocument {s : String} (hread : readDocument s.toList = ⟨.ofJson v, false⟩)
    (h : decode (.ofJson v) = .ok a) : decodeText decode s = .ok a := by
  simp [decodeText, hread, h, bind, Except.bind]

theorem decodeText_pretty (hn : ∀ n ∈ v.numbers, n.ReadsBack) (h : decode (.ofJson v) = .ok a) :
    decodeText decode v.pretty = .ok a :=
  decodeText_of_readDocument (readDocument_pretty hn) h

def forms : List (Json → String) := [compact, pretty]

/-- A written value is decoded as its draft is, whichever form it has. -/
theorem decodeText_form {form : Json → String} (hform : form ∈ forms)
    (hn : ∀ n ∈ v.numbers, n.ReadsBack) (h : decode (.ofJson v) = .ok a) :
    decodeText decode (form v) = .ok a := by
  simp only [forms, List.mem_cons, List.not_mem_nil, or_false] at hform
  rcases hform with rfl | rfl
  · exact decodeText_of_readDocument (readDocument_compact hn) h
  · exact decodeText_pretty hn h

end

end CatalogRules.Json
