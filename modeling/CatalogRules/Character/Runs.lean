import CatalogRules.Text.Digits

/-!
Tables of all characters. A table goes through the code points from zero and lists
runs of them of which the same holds: a mark of a fixed count of signs that are no
digits, and the length of the run if it is not one.
-/

namespace CatalogRules

/-- Runs of code points, each with what holds of it and its length. -/
abbrev Runs (α : Type) := List (α × Nat)

namespace Runs

variable {α : Type}

/-- What has been read of a table from its end on. -/
structure Partial where
  digits : List Char
  mark : List Char
  runs : Runs (List Char)

def Partial.addSign (width : Nat) (c : Char) (s : Partial) : Partial :=
  if c.isDigit then { s with digits := c :: s.digits }
  else
    let mark := c :: s.mark
    if mark.length < width then { s with mark := mark }
    else ⟨[], [], (mark, if s.digits.isEmpty then 1 else Text.digitsValue s.digits) :: s.runs⟩

/-- The runs of a table whose marks are `width` signs long and mean what `meaning`
says. -/
def read (width : Nat) (meaning : List Char → α) (rows : List String) : Runs α :=
  let whole := (rows.flatMap String.toList).foldr (Partial.addSign width) ⟨[], [], []⟩
  whole.runs.map (fun r => (meaning r.1, r.2))

/-- What holds of a code point; nothing is known of those after the last run. -/
def at? (n : Nat) : Runs α → Option α
  | [] => none
  | (a, length) :: rest => if n < length then some a else at? (n - length) rest

/-- The stretches of code points of which `p` holds, by the first and the last. -/
def stretches (p : α → Bool) : Nat → Runs α → List (Nat × Nat)
  | _, [] => []
  | start, (a, length) :: rest =>
    let others := stretches p (start + length) rest
    if p a && length != 0 then (start, start + length - 1) :: others else others

end Runs

end CatalogRules
