import CatalogRules.Pattern.Escape

/-!
Sets of characters between brackets: characters, ranges, escapes, named sets and
brackets inside brackets, which may be cut out of each other by the operators
`&&`, `--` and `~~`.
-/

namespace CatalogRules.Pattern

namespace SetOperator

def ofSign? (c d : Char) : Option SetOperator :=
  if c != d then none
  else if c = '&' then some both
  else if c = '-' then some without
  else if c = '~' then some apart
  else none

end SetOperator

/-- The operand and the operator in front of what is read. -/
abbrev Pending := Option (SetForm × SetOperator)

def Pending.join (pending : Pending) (right : SetForm) : SetForm :=
  match pending with
  | none => right
  | some (left, op) => .combined op left right ⟨left.span.start, right.span.stop⟩

namespace Reading

def asciiSet? : String → Option CharSet
  | "alnum" => some .asciiAlphanumeric
  | "alpha" => some .asciiLetter
  | "ascii" => some .ascii
  | "blank" => some (.ofList ['\t', ' '])
  | "cntrl" => some (.either (.between '\x00' '\x1f') (.one '\x7f'))
  | "digit" => some .asciiDigit
  | "graph" => some (.between '!' '~')
  | "lower" => some .asciiLower
  | "print" => some (.between ' ' '~')
  | "punct" => some .asciiPunctuation
  | "space" => some .asciiBlank
  | "upper" => some .asciiUpper
  | "word" => some .asciiWordPart
  | "xdigit" => some (.either (.either .asciiDigit (.between 'A' 'F')) (.between 'a' 'f'))
  | _ => none

/-- A set such as `[:alpha:]`, whether it is negated, and the count of its
characters. -/
def colonSet? (cs : List Char) : Option (CharSet × Bool × Nat) :=
  match cs with
  | '[' :: ':' :: rest =>
    let (negated, rest) := match rest with
      | '^' :: rest => (true, rest)
      | rest => (false, rest)
    let (name, rest) := rest.span (· != ':')
    match asciiSet? (String.ofList name), rest with
    | some s, ':' :: ']' :: rest => some (s, negated, cs.length - rest.length)
    | _, _ => none
  | _ => none

def setItem : Reading (Atom × Span) := do
  let start ← offset
  match ← current with
  | some '\\' =>
    let a ← escape
    return (a, ← since start)
  | some c =>
    skip 1
    return (.literal c false, ← since start)
  | none => failAtPoint .escapeUnfinished

def setOfItem : Atom × Span → Reading SetForm
  | (.literal c asByte, span) => return .literal ⟨c, asByte, span⟩
  | (.set s, span) => return .named s span
  | (.anchor _, span) => fail .escapeInSet span

def boundOfItem : Atom × Span → Reading Literal
  | (.literal c asByte, span) => return ⟨c, asByte, span⟩
  | (_, span) => fail .setRangeBound span

/-- An item or a range. A minus sign in front of the end of the set, or of
another one, makes no range. -/
def setRange (opening : Span) : Reading SetForm := do
  let first ← setItem
  skipSpace
  if ← atEnd then fail .setUnclosed opening
  let after ← followingCounted
  if !(← isAt '-') || after == some ']' || after == some '-' then setOfItem first
  else
    next
    if ← atEnd then fail .setUnclosed opening
    let last ← setItem
    let low ← boundOfItem first
    let high ← boundOfItem last
    if high.char < low.char then fail .setRangeReversed ⟨low.span.start, high.span.stop⟩
    return .range low high

def leadingSigns (start : Nat) : Nat → List SetForm → Reading (List SetForm)
  | 0, parts => return parts
  | n + 1, parts => do
    if ← isAt '-' then
      let span ← here
      next
      if ← atEnd then fail .setUnclosed ⟨start, start⟩
      leadingSigns start n (parts ++ [.literal ⟨'-', false, span⟩])
    else return parts

/-- What a set starts with, from its bracket on: whether it is negated, where its
items start, and the signs that are literal only there. -/
def openSet : Reading (Bool × Span × List SetForm) := do
  let start ← offset
  next
  if ← atEnd then failSince .setUnclosed start
  let negated ← isAt '^'
  if negated then
    next
    if ← atEnd then failSince .setUnclosed start
  let spot ← point
  let signs ← leadingSigns start (← get).rest.length []
  if signs.isEmpty && (← isAt ']') then
    let span ← here
    next
    if ← atEnd then failSince .setUnclosed start
    return (negated, spot, [.literal ⟨']', false, span⟩])
  else return (negated, spot, signs)

mutual

/-- A set from its bracket on: whether it is negated, what stands in it, and where it
stands. Each call for a part has one less of `fuel`; two for each character are
enough. -/
def bracketed : Nat → Reading (Bool × SetForm × Span)
  | 0 => failAtPoint .setUnclosed
  | fuel + 1 => do
    let start ← offset
    let (negated, spot, signs) ← openSet
    let opening ← since start
    let inner ← setItems fuel opening none spot signs
    return (negated, inner, ← since start)

/-- The items of a set up to its end; those that have been read since `spot` are
given. -/
def setItems : Nat → Span → Pending → Span → List SetForm → Reading SetForm
  | 0, opening, _, _, _ => fail .setUnclosed opening
  | fuel + 1, opening, pending, spot, parts => do
    skipSpace
    match ← current with
    | none => fail .setUnclosed opening
    | some ']' =>
      skip 1
      return pending.join (.ofParts spot parts)
    | some '[' =>
      match colonSet? (← get).rest with
      | some (s, negated, length) =>
        let start ← offset
        skip length
        let part := .colon s negated (← since start)
        setItems fuel opening pending spot (parts ++ [part])
      | none =>
        let (negated, inner, span) ← bracketed fuel
        setItems fuel opening pending spot (parts ++ [.brackets negated inner span])
    | some c =>
      match (← following).bind (SetOperator.ofSign? c) with
      | some op =>
        let left := pending.join (.ofParts spot parts)
        skip 2
        setItems fuel opening (some (left, op)) (← point) []
      | none =>
        let part ← setRange opening
        setItems fuel opening pending spot (parts ++ [part])

end

end Reading

end CatalogRules.Pattern
