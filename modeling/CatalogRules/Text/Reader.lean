import CatalogRules.Text.Digits

/-!
Readers. A reader takes a start of the characters and gives the rest, or it
fails. A repetition ends where its reader fails.
-/

namespace CatalogRules.Text

abbrev Reader (α : Type) := List Char → Option (α × List Char)

def expect (c : Char) (cs : List Char) : Option (List Char) :=
  match cs with
  | d :: rest => if d = c then some rest else none
  | [] => none

def exactly (n : Nat) : Reader Nat := fun cs =>
  let digits := cs.take n
  if digits.length = n ∧ digits.all Char.isDigit then some (digitsValue digits, cs.drop n)
  else none

/-- At least one digit and at most `n`, as many as there are. -/
def upTo (n : Nat) : Reader Nat := fun cs =>
  let digits := (cs.take n).takeWhile Char.isDigit
  if digits.isEmpty then none else some (digitsValue digits, cs.drop digits.length)

def stretch (kind : Char → Bool) : Reader (List Char) := fun cs =>
  let (taken, rest) := cs.span kind
  if taken.isEmpty then none else some (taken, rest)

/-- Reads as often as possible; a reading that takes nothing is not counted. -/
def many {α : Type} (read : Reader α) (cs : List Char) : List α × List Char :=
  match read cs with
  | none => ([], cs)
  | some (a, rest) =>
    if rest.length < cs.length then
      let (as, rest) := many read rest
      (a :: as, rest)
    else ([], cs)
termination_by cs.length

def separated {α : Type} (read : Reader α) (cs : List Char) : List α × List Char :=
  match read cs with
  | none => ([], cs)
  | some (a, rest) =>
    let (as, rest) := many (fun cs => do read (← expect ',' cs)) rest
    (a :: as, rest)

@[simp] theorem expect_cons_self (c : Char) (cs : List Char) : expect c (c :: cs) = some cs := by
  simp [expect]

end CatalogRules.Text
