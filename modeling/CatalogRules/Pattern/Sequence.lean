import CatalogRules.Pattern.Brackets
import CatalogRules.Pattern.Group

/-!
The form of a whole pattern from its text. A text is a choice of sequences; an item
of a sequence is a character, a set, an anchor or a group, and may be followed by how
often it is repeated. Flags in parentheses hold up to the end of the group they stand
in.
-/

namespace CatalogRules.Pattern

namespace Reading

/-- An item that is neither a group nor a set. -/
def primitive : Reading Form := do
  let start ← offset
  match ← current with
  | none => return .empty (← point)
  | some '\\' =>
    let atom ← escape
    let span ← since start
    match atom with
    | .literal c asByte => return .literal ⟨c, asByte, span⟩
    | .set s => return .named s span
    | .anchor a => return .anchor a span
  | some c =>
    skip 1
    let span ← since start
    match c with
    | '.' => return .point span
    | '^' => return .anchor .lineStart span
    | '$' => return .anchor .lineEnd span
    | c => return .literal ⟨c, false, span⟩

/-- The item that a repetition is about, and the items before it. -/
def repeated : List Form → Reading (Form × List Form)
  | [] | .flags _ _ :: _ => failAtPoint .nothingToRepeat
  | p :: items => return (p, items)

/-- A repetition by a sign; the items are given from the last one on. -/
def signed (least : Nat) (most : Option Nat) (items : List Form) : Reading (List Form) := do
  let (p, items) ← repeated items
  skip 1
  if ← isAt '?' then skip 1
  return .times p least most (← since p.span.start) :: items

def counted (items : List Form) : Reading (List Form) := do
  let (p, items) ← repeated items
  let (least, most) ← counts
  return .times p least most (← since p.span.start) :: items

mutual

/-- The alternatives up to the end of their group or of the text. Each call for a part
has one less of `fuel`; two for each character are enough. -/
def alternatives : Nat → Reading (List Form)
  | 0 => return []
  | fuel + 1 => do
    let p ← sequence fuel (← offset) []
    if ← isAt '|' then
      skip 1
      return p :: (← alternatives fuel)
    else return [p]

/-- A sequence of items that starts at `start`; those before are given, the last one
first. -/
def sequence : Nat → Nat → List Form → Reading Form
  | 0, start, items => return .ofItems (← since start) items.reverse
  | fuel + 1, start, items => do
    skipSpace
    match ← current with
    | none | some '|' | some ')' => return .ofItems (← since start) items.reverse
    | some '(' =>
      let groupStart ← offset
      let opening ← here
      let before ← spaced
      match ← openGroup with
      | .flags changes =>
        sequence fuel start (.flags changes (← since groupStart) :: items)
      | .group changes numbered =>
        let inner ← offset
        let ps ← alternatives fuel
        let p := Form.ofAlternatives (← since inner) ps
        if ← atEnd then fail .groupUnclosed opening
        setSpaced before
        skip 1
        sequence fuel start (.group changes numbered p (← since groupStart) :: items)
    | some '[' =>
      let (negated, inner, span) ← bracketed fuel
      sequence fuel start (.brackets negated inner span :: items)
    | some '?' => sequence fuel start (← signed 0 (some 1) items)
    | some '*' => sequence fuel start (← signed 0 none items)
    | some '+' => sequence fuel start (← signed 1 none items)
    | some '\x7b' => sequence fuel start (← counted items)
    | some _ =>
      let p ← primitive
      sequence fuel start (p :: items)

end

def whole : Reading Form := do
  let ps ← alternatives (2 * (← get).rest.length + 2)
  if ← isAt ')' then failHere .groupUnopened
  return .ofAlternatives (← since 0) ps

end Reading

/-- The form of a text that is nested no deeper than it may be. -/
def Form.read (text : String) : Except Fault Form := do
  let (form, _) ← Reading.whole.run ⟨text.toList, 0, false, []⟩
  match form.tooDeep? deepestNesting with
  | some span => throw ⟨.nestedTooDeep, span, none⟩
  | none => return form

end CatalogRules.Pattern
