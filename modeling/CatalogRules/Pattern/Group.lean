import CatalogRules.Character.Category
import CatalogRules.Character.Property
import CatalogRules.Pattern.Form
import CatalogRules.Pattern.Reading

/-!
What a group of a pattern starts with: its name, or flags for it or for what follows
it in the group around it.
-/

namespace CatalogRules.Pattern

namespace Flag

def ofChar? : Char → Option Flag
  | 'i' => some caseless
  | 'm' => some byLine
  | 's' => some acrossLines
  | 'R' => some returns
  | 'u' => some unicode
  | 'x' => some spaced
  | 'U' => some sparing
  | _ => none

end Flag

inductive Opening where
  | group (changes : List Change) (numbered : Bool)
  /-- Flags alone, which hold up to the end of the group around them. -/
  | flags (changes : List Change)

/-- Whether blanks do not count after some changes. -/
def spacedAfter (changes : List Change) (before : Bool) : Bool :=
  changes.foldl (fun on c => if c.flag = .spaced then c.on else on) before

namespace Reading

/-- The flags up to a colon or the end of a group; `seen` are those before, and
`minus` is where the minus sign stands that was read last. -/
def flags : Nat → List (Char × Span) → Option Span → List Change → Reading (List Change)
  | 0, _, _, _ => failAtPoint .flagsUnfinished
  | fuel + 1, seen, minus, changes => do
    match ← current with
    | none => failAtPoint .flagsUnfinished
    | some c =>
      let span ← here
      if c = ':' ∨ c = ')' then
        match minus with
        | some sign => fail .flagDangling sign
        | none => return changes
      else
        let on := !(seen.any (fun s => s.1 == '-'))
        let changes ← if c = '-' then pure changes else
          match Flag.ofChar? c with
          | some f => pure (changes ++ [⟨f, on⟩])
          | none => fail .flagUnknown span
        match List.lookup c seen with
        | some earlier =>
          throw ⟨if c = '-' then .flagNegatedTwice else .flagTwice, span, some earlier⟩
        | none =>
          skip 1
          if ← atEnd then failAtPoint .flagsUnfinished
          flags fuel (seen ++ [(c, span)]) (if c = '-' then some span else none) changes

def isNameChar (isFirst : Bool) (c : Char) : Bool :=
  c == '_' || isLetter c || (!isFirst && (c == '.' || c == '[' || c == ']' || isNumber c))
where
  isLetter (c : Char) : Bool := Property.alphabetic.holds c
  isNumber (c : Char) : Bool := Category.ofChar c ∈ Category.numbers

def nameChars (isFirst : Bool) : Nat → Reading (List Char)
  | 0 => failAtPoint .nameUnclosed
  | fuel + 1 => do
    match ← current with
    | none => failAtPoint .nameUnclosed
    | some '>' => return []
    | some c =>
      if !isNameChar isFirst c then failHere .nameCharacter
      skip 1
      return c :: (← nameChars false fuel)

def groupName : Reading Unit := do
  let start ← offset
  let name ← nameChars true ((← get).rest.length + 1)
  let span ← since start
  skip 1
  if name.isEmpty then fail .nameEmpty ⟨start, start⟩
  let s ← get
  match List.lookup name s.names with
  | some earlier => throw ⟨.nameTwice, span, some earlier⟩
  | none => set { s with names := (name, span) :: s.names }

def lookArounds : List (List Char) := [['?', '='], ['?', '!'], ['?', '<', '='], ['?', '<', '!']]

def openGroup : Reading Opening := do
  let start ← offset
  let opening ← here
  next
  let rest := (← get).rest
  match lookArounds.find? (fun l => l.isPrefixOf rest) with
  | some l =>
    skip l.length
    failSince .lookAround start
  | none =>
    let inner ← point
    let long ← skipOver ['?', 'P', '<']
    let named ← if long then pure true else skipOver ['?', '<']
    if named then
      groupName
      return .group [] true
    else if ← skipOver ['?'] then
      if ← atEnd then fail .groupUnclosed opening
      let first ← offset
      let changes ← flags ((← get).rest.length + 1) [] none []
      let hasFlags := first < (← offset)
      let alone ← isAt ')'
      skip 1
      if alone && !hasFlags then fail .nothingToRepeat inner
      setSpaced (spacedAfter changes (← spaced))
      return if alone then .flags changes else .group changes false
    else return .group [] true

end Reading

end CatalogRules.Pattern
