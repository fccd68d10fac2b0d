import CatalogRules.Rule.Condition
import Mathlib.Data.List.Basic
import Mathlib.Order.Bounds.Basic

/-!
Tokens in a line. The first operator of a line is the longest one at the first place
where a token starts. A line is cut at every occurrence of a token, from the left, and
no other choice of occurrences that do not overlap has more of them.
-/

namespace CatalogRules

namespace Operator

/-- The characters without which nothing is a token. -/
def comparisonChars : List Char := ['=', '<', '>']

/-- The text starts with the token of the operator, and with no longer one. -/
structure Heads (op : Operator) (cs : List Char) : Prop where
  starts : op.tokenChars <+: cs
  longest : ∀ op' : Operator, op'.tokenChars <+: cs →
    op'.tokenChars.length ≤ op.tokenChars.length

variable {op : Operator} {c : Char} {cs : List Char}

theorem tokenChars_injective : Function.Injective tokenChars := by
  intro op op' h
  cases op <;> cases op' <;> first | rfl | cases h

theorem exists_tokenChars_eq (op : Operator) :
    ∃ c, op.tokenChars = [c] ∨ op.tokenChars = [c, '='] := by
  cases op <;> first | exact ⟨_, .inl rfl⟩ | exact ⟨_, .inr rfl⟩

theorem length_tokenChars_le_two (op : Operator) : op.tokenChars.length ≤ 2 := by
  obtain ⟨c, h | h⟩ := op.exists_tokenChars_eq <;> simp [h]

theorem length_tokenChars_le_one (hnext : ∀ ds, cs ≠ '=' :: ds)
    (h : op.tokenChars <+: c :: cs) : op.tokenChars.length ≤ 1 := by
  obtain ⟨d, hd | hd⟩ := op.exists_tokenChars_eq
  · simp [hd]
  · rw [hd] at h
    obtain ⟨rest, hrest⟩ := h
    exact absurd (List.cons.inj hrest).2.symm (hnext rest)

theorem Heads.eq {op' : Operator} (h : op.Heads cs) (h' : op'.Heads cs) : op = op' := by
  have hlength : op.tokenChars.length = op'.tokenChars.length :=
    Nat.le_antisymm (h'.longest op h.starts) (h.longest op' h'.starts)
  have hstarts := List.prefix_of_prefix_length_le h.starts h'.starts (Nat.le_of_eq hlength)
  exact tokenChars_injective (hstarts.eq_of_length hlength)

theorem atStart?_cons_eq_none_iff :
    atStart? (c :: cs) = none ↔
      c ∉ comparisonChars ∧ ¬(c = '!' ∧ cs.head? = some '=') := by
  simp only [comparisonChars, List.mem_cons, List.not_mem_nil, or_false, not_or,
    List.head?_eq_some_iff]
  constructor
  · intro h
    unfold atStart? at h
    split at h <;> simp_all
  · intro h
    unfold atStart?
    split <;> simp_all

theorem heads_of_atStart? (h : atStart? cs = some op) : op.Heads cs := by
  unfold atStart? at h
  split at h <;> cases h
  all_goals first
    | exact ⟨⟨_, rfl⟩, fun op' _ => length_tokenChars_le_two op'⟩
    | exact ⟨⟨_, rfl⟩, fun op' => length_tokenChars_le_one ‹_›⟩

theorem atStart?_eq_none_iff : atStart? cs = none ↔ ∀ op : Operator, ¬op.tokenChars <+: cs := by
  constructor
  · rintro h op ⟨rest, rfl⟩
    cases op <;> simp [tokenChars, token, atStart?_cons_eq_none_iff, comparisonChars] at h
  · intro h
    cases hstart : atStart? cs with
    | none => rfl
    | some op => exact absurd (heads_of_atStart? hstart).starts (h op)

theorem atStart?_eq_some_iff : atStart? cs = some op ↔ op.Heads cs := by
  refine ⟨heads_of_atStart?, fun h => ?_⟩
  cases hstart : atStart? cs with
  | some op' => rw [(heads_of_atStart? hstart).eq h]
  | none => exact absurd h.starts (atStart?_eq_none_iff.1 hstart op)

theorem first?_eq_none_iff : first? cs = none ↔ ∀ c ∈ cs, c ∉ comparisonChars := by
  induction cs with
  | nil => simp [first?]
  | cons c cs ih =>
      rw [first?, Option.or_eq_none_iff, atStart?_cons_eq_none_iff, ih, List.forall_mem_cons]
      refine ⟨fun h => ⟨h.1.1, h.2⟩, fun h => ⟨⟨h.1, ?_⟩, h.2⟩⟩
      rintro ⟨-, hhead⟩
      exact h.2 '=' (List.mem_of_mem_head? hhead) (by decide)

end Operator

namespace Condition

open Operator (comparisonChars)

variable {op : Operator} {line left right : List Char}

/-- The operator stands between the two parts of the line. No token starts in the part
before it, and no longer one at its place. -/
structure FirstOperator (line left : List Char) (op : Operator) (right : List Char) :
    Prop where
  line_eq : line = left ++ (op.tokenChars ++ right)
  plain : ∀ c ∈ left, c ∉ comparisonChars
  apart : left.getLast? = some '!' → op.tokenChars.head? ≠ some '='
  heads : op.Heads (op.tokenChars ++ right)

/-- A line with one more character in front has the same first operator exactly if no token
starts at this character. -/
theorem firstOperator_cons_iff {c d : Char} :
    FirstOperator (c :: line) (d :: left) op right ↔
      c = d ∧ Operator.atStart? (c :: line) = none ∧ FirstOperator line left op right := by
  have hhead : (op.tokenChars ++ right).head? = op.tokenChars.head? :=
    List.head?_append_of_ne_nil _ (Operator.tokenChars_ne_nil op)
  -- What follows the character is the rest of the part, or the token itself.
  have hapart (hplain : ∀ e ∈ left, e ∉ comparisonChars) :
      ((d :: left).getLast? = some '!' → op.tokenChars.head? ≠ some '=') ↔
        ¬(d = '!' ∧ (left ++ (op.tokenChars ++ right)).head? = some '=') ∧
          (left.getLast? = some '!' → op.tokenChars.head? ≠ some '=') := by
    cases left with
    | nil => simp [hhead]
    | cons e left =>
        have he : e ≠ '=' := fun he => hplain e List.mem_cons_self (by rw [he]; decide)
        simp [he]
  constructor
  · rintro ⟨hline, hplain, happ, hheads⟩
    obtain ⟨rfl, rfl⟩ := List.cons.inj hline
    obtain ⟨hc, hleft⟩ := List.forall_mem_cons.1 hplain
    obtain ⟨hnot, happ⟩ := (hapart hleft).1 happ
    exact ⟨rfl, Operator.atStart?_cons_eq_none_iff.2 ⟨hc, hnot⟩, rfl, hleft, happ, hheads⟩
  · rintro ⟨rfl, hstart, rfl, hleft, happ, hheads⟩
    obtain ⟨hc, hnot⟩ := Operator.atStart?_cons_eq_none_iff.1 hstart
    exact ⟨rfl, List.forall_mem_cons.2 ⟨hc, hleft⟩, (hapart hleft).2 ⟨hnot, happ⟩, hheads⟩

theorem firstOperator_nil_iff :
    FirstOperator line [] op right ↔ line = op.tokenChars ++ right ∧ op.Heads line := by
  constructor
  · rintro ⟨rfl, -, -, hheads⟩
    exact ⟨rfl, hheads⟩
  · rintro ⟨rfl, hheads⟩
    exact ⟨rfl, by simp, by simp, hheads⟩

theorem firstOperator_iff :
    FirstOperator line left op right ↔
      line = left ++ (op.tokenChars ++ right) ∧ op.Heads (op.tokenChars ++ right) ∧
        ∀ place < left.length, ∀ op' : Operator, ¬op'.tokenChars <+: line.drop place := by
  induction left generalizing line with
  | nil =>
      rw [firstOperator_nil_iff]
      constructor
      · rintro ⟨rfl, hheads⟩
        exact ⟨rfl, hheads, by simp⟩
      · rintro ⟨rfl, hheads, -⟩
        exact ⟨rfl, hheads⟩
  | cons d left ih =>
      cases line with
      | nil => exact ⟨fun h => absurd h.line_eq (by simp), fun h => absurd h.1 (by simp)⟩
      | cons c cs =>
          rw [firstOperator_cons_iff, ih, Operator.atStart?_eq_none_iff]
          constructor
          · rintro ⟨rfl, hstart, rfl, hheads, hplaces⟩
            refine ⟨rfl, hheads, fun place hplace => ?_⟩
            cases place with
            | zero => exact hstart
            | succ place => exact hplaces place (Nat.lt_of_succ_lt_succ hplace)
          · rintro ⟨hline, hheads, hplaces⟩
            obtain ⟨rfl, rfl⟩ := List.cons.inj hline
            exact ⟨rfl, hplaces 0 (Nat.succ_pos _), rfl, hheads,
              fun place hplace => hplaces (place + 1) (Nat.succ_lt_succ hplace)⟩

theorem FirstOperator.first?_eq (h : FirstOperator line left op right) :
    Operator.first? line = some op := by
  induction left generalizing line with
  | nil =>
      obtain ⟨-, hheads⟩ := firstOperator_nil_iff.1 h
      cases line with
      | nil => exact absurd (List.prefix_nil.1 hheads.starts) (Operator.tokenChars_ne_nil op)
      | cons c cs => rw [Operator.first?, Operator.atStart?_eq_some_iff.2 hheads, Option.some_or]
  | cons d left ih =>
      obtain ⟨cs, rfl⟩ : ∃ cs, line = d :: cs := ⟨_, h.line_eq⟩
      obtain ⟨-, hstart, hrest⟩ := firstOperator_cons_iff.1 h
      rw [Operator.first?, hstart, Option.none_or, ih hrest]

theorem exists_firstOperator (h : Operator.first? line = some op) :
    ∃ left right, FirstOperator line left op right := by
  induction line with
  | nil => cases h
  | cons c cs ih =>
      rw [Operator.first?] at h
      cases hstart : Operator.atStart? (c :: cs) with
      | some op' =>
          rw [hstart] at h
          cases h
          have hheads := Operator.atStart?_eq_some_iff.1 hstart
          obtain ⟨right, hright⟩ := hheads.starts
          exact ⟨[], right, firstOperator_nil_iff.2 ⟨hright.symm, hheads⟩⟩
      | none =>
          rw [hstart] at h
          obtain ⟨left, right, hfirst⟩ := ih h
          exact ⟨c :: left, right, firstOperator_cons_iff.2 ⟨rfl, hstart, hfirst⟩⟩

/-- A line has one first operator, at one place. -/
theorem FirstOperator.unique {left' right' : List Char} {op' : Operator}
    (h : FirstOperator line left op right) (h' : FirstOperator line left' op' right') :
    left = left' ∧ op = op' ∧ right = right' := by
  obtain rfl : op = op' := Option.some.inj (h.first?_eq.symm.trans h'.first?_eq)
  have hheads {c : Char} {cs : List Char} (hop : op.Heads (c :: cs)) :
      Operator.atStart? (c :: cs) ≠ none := by
    simp [Operator.atStart?_eq_some_iff.2 hop]
  induction left generalizing line left' with
  | nil =>
      obtain ⟨hline, hop⟩ := firstOperator_nil_iff.1 h
      cases left' with
      | nil =>
          obtain ⟨hline', -⟩ := firstOperator_nil_iff.1 h'
          exact ⟨rfl, rfl, List.append_cancel_left (hline.symm.trans hline')⟩
      | cons d left' =>
          obtain ⟨cs, rfl⟩ : ∃ cs, line = d :: cs := ⟨_, h'.line_eq⟩
          exact absurd (firstOperator_cons_iff.1 h').2.1 (hheads hop)
  | cons d left ih =>
      obtain ⟨cs, rfl⟩ : ∃ cs, line = d :: cs := ⟨_, h.line_eq⟩
      obtain ⟨-, hstart, hrest⟩ := firstOperator_cons_iff.1 h
      cases left' with
      | nil => exact absurd hstart (hheads (firstOperator_nil_iff.1 h').2)
      | cons d' left' =>
          obtain ⟨rfl, -, hrest'⟩ := firstOperator_cons_iff.1 h'
          obtain ⟨rfl, -, rfl⟩ := ih hrest hrest'
          exact ⟨rfl, rfl, rfl⟩

variable {token cs ds : List Char}

theorem splitOnToken_skip (token cs ds : List Char) :
    splitOnToken token cs.length (cs ++ ds) = splitOnToken token 0 ds := by
  induction cs with
  | nil => rfl
  | cons c cs ih => exact ih

theorem splitOnToken_append_token (h : token ≠ []) (ds : List Char) :
    splitOnToken token 0 (token ++ ds) = [] :: splitOnToken token 0 ds := by
  obtain ⟨c, cs, rfl⟩ := List.exists_cons_of_ne_nil h
  have hstarts : (c :: cs).isPrefixOf (c :: (cs ++ ds)) = true :=
    List.isPrefixOf_iff_prefix.2 ⟨ds, rfl⟩
  have hskip := splitOnToken_skip (c :: cs) cs ds
  rw [List.cons_append, splitOnToken, if_pos hstarts, List.length_cons, Nat.add_sub_cancel, hskip]

theorem exists_splitOnToken_cons {c : Char} (h : ¬token <+: c :: cs) :
    ∃ piece pieces, splitOnToken token 0 cs = piece :: pieces ∧
      splitOnToken token 0 (c :: cs) = (c :: piece) :: pieces := by
  obtain ⟨piece, pieces, hcs⟩ := List.exists_cons_of_ne_nil (splitOnToken_ne_nil token 0 cs)
  refine ⟨piece, pieces, hcs, ?_⟩
  rw [← List.isPrefixOf_iff_prefix] at h
  rw [splitOnToken, if_neg h, hcs]

/-- A text is read as it is cut: over a token at once where one starts, and character by
character elsewhere. -/
theorem token_induction {motive : List Char → Prop} (htoken : token ≠ []) (nil : motive [])
    (atToken : ∀ ds, motive ds → motive (token ++ ds))
    (cons : ∀ c cs, ¬token <+: c :: cs → motive cs → motive (c :: cs)) (cs : List Char) :
    motive cs := by
  induction h : cs.length using Nat.strongRecOn generalizing cs with
  | ind n ih =>
      subst h
      cases cs with
      | nil => exact nil
      | cons c cs =>
          by_cases hstarts : token <+: c :: cs
          · obtain ⟨ds, hds⟩ := hstarts
            have hpos := List.length_pos_of_ne_nil htoken
            have hshorter : ds.length < (c :: cs).length := by
              rw [← hds, List.length_append]
              omega
            rw [← hds]
            exact atToken ds (ih _ hshorter ds rfl)
          · exact cons c cs hstarts (ih _ (Nat.lt_succ_self _) cs rfl)

theorem intercalate_splitOnToken (htoken : token ≠ []) (cs : List Char) :
    token.intercalate (splitOnToken token 0 cs) = cs := by
  induction cs using token_induction htoken with
  | nil => rfl
  | atToken ds ih =>
      obtain ⟨piece, pieces, hds⟩ := List.exists_cons_of_ne_nil (splitOnToken_ne_nil token 0 ds)
      rw [splitOnToken_append_token htoken, hds, List.intercalate_cons_cons, ← hds, ih,
        List.nil_append]
  | cons c cs hstarts ih =>
      obtain ⟨piece, pieces, hcs, hcons⟩ := exists_splitOnToken_cons hstarts
      rw [hcs] at ih
      rw [hcons]
      cases pieces <;> simp_all [List.intercalate_cons_cons]

/-- Whatever pieces make up the text with the token between them, cutting it finds as
many. -/
theorem length_le_length_splitOnToken (htoken : token ≠ []) {pieces : List (List Char)}
    (h : token.intercalate pieces = cs) : pieces.length ≤ (splitOnToken token 0 cs).length := by
  have hone (cs : List Char) : 1 ≤ (splitOnToken token 0 cs).length :=
    List.length_pos_of_ne_nil (splitOnToken_ne_nil token 0 cs)
  induction cs using token_induction htoken generalizing pieces with
  | nil =>
      rcases pieces with - | ⟨p, - | ⟨q, pieces⟩⟩
      · simp
      · exact hone _
      · simp [List.intercalate_cons_cons, htoken] at h
  | atToken ds ih =>
      rcases pieces with - | ⟨p, - | ⟨q, pieces⟩⟩
      · simp
      · exact hone _
      · -- The first occurrence of the pieces ends no earlier than the one that is cut at.
        rw [List.intercalate_cons_cons, List.append_assoc] at h
        obtain ⟨x, hx⟩ : token.intercalate (q :: pieces) <:+ ds := by
          have hpieces : token.intercalate (q :: pieces) <:+ token ++ ds :=
            ⟨p ++ token, by rw [List.append_assoc, h]⟩
          refine List.suffix_of_suffix_length_le hpieces (List.suffix_append token ds) ?_
          have hlength := congrArg List.length h
          simp only [List.length_append] at hlength
          omega
        have hpieces : token.intercalate ((x ++ q) :: pieces) = ds := by
          rw [← hx]
          cases pieces <;> simp [List.intercalate_cons_cons]
        have hle := ih hpieces
        rw [splitOnToken_append_token htoken]
        simpa using hle
  | cons c cs hstarts ih =>
      rcases pieces with - | ⟨p, - | ⟨q, pieces⟩⟩
      · simp
      · exact hone _
      · rw [List.intercalate_cons_cons, List.append_assoc] at h
        cases p with
        | nil => exact absurd ⟨_, h⟩ hstarts
        | cons d p =>
            obtain ⟨piece, rest, hcs, hcons⟩ := exists_splitOnToken_cons hstarts
            have hpieces : token.intercalate (p :: q :: pieces) = cs := by
              rw [List.intercalate_cons_cons, List.append_assoc]
              exact (List.cons.inj h).2
            have hle := ih hpieces
            rw [hcs] at hle
            rw [hcons]
            exact hle

/-- The text holds at least so many occurrences of the token that do not overlap. -/
def HasOccurrences (token cs : List Char) (n : ℕ) : Prop :=
  ∃ pieces : List (List Char), pieces.length = n + 1 ∧ token.intercalate pieces = cs

/-- There is one piece more than there are occurrences. -/
theorem isGreatest_occurrences (htoken : token ≠ []) (cs : List Char) :
    IsGreatest {n | HasOccurrences token cs n} ((splitOnToken token 0 cs).length - 1) := by
  have hpos := List.length_pos_of_ne_nil (splitOnToken_ne_nil token 0 cs)
  constructor
  · exact ⟨_, by omega, intercalate_splitOnToken htoken cs⟩
  · rintro n ⟨pieces, hlength, hpieces⟩
    have hle := length_le_length_splitOnToken htoken hpieces
    omega

theorem splitOnToken_of_not_occurs (h : ¬token <:+: cs) : splitOnToken token 0 cs = [cs] := by
  induction cs with
  | nil => rfl
  | cons c cs ih =>
      have hstarts : ¬token <+: c :: cs := fun hstarts => h hstarts.isInfix
      have hrest : ¬token <:+: cs := fun hoccurs =>
        h (hoccurs.trans (List.suffix_cons c cs).isInfix)
      obtain ⟨piece, pieces, hcs, hcons⟩ := exists_splitOnToken_cons hstarts
      rw [ih hrest, List.cons.injEq] at hcs
      obtain ⟨rfl, rfl⟩ := hcs
      exact hcons

theorem two_le_length_splitOnToken (htoken : token ≠ []) (h : token <:+: cs) :
    2 ≤ (splitOnToken token 0 cs).length := by
  obtain ⟨before, after, hcs⟩ := h
  have hpieces : token.intercalate [before, after] = cs := by
    simp [← hcs, List.intercalate_cons_cons]
  exact length_le_length_splitOnToken htoken hpieces

/-- A line is cut at its first operator before it is cut anywhere else. -/
theorem FirstOperator.splitOnToken_eq (h : FirstOperator line left op right) :
    splitOnToken op.tokenChars 0 line = left :: splitOnToken op.tokenChars 0 right := by
  induction left generalizing line with
  | nil =>
      rw [(firstOperator_nil_iff.1 h).1]
      exact splitOnToken_append_token (Operator.tokenChars_ne_nil op) right
  | cons d left ih =>
      obtain ⟨cs, rfl⟩ : ∃ cs, line = d :: cs := ⟨_, h.line_eq⟩
      obtain ⟨-, hstart, hrest⟩ := firstOperator_cons_iff.1 h
      have hnone := Operator.atStart?_eq_none_iff.1 hstart op
      obtain ⟨piece, pieces, hcs, hcons⟩ := exists_splitOnToken_cons hnone
      rw [ih hrest, List.cons.injEq] at hcs
      obtain ⟨rfl, rfl⟩ := hcs
      exact hcons

end Condition

end CatalogRules
