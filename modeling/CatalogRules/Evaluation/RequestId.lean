/-!
Ids of requests: sixteen random bytes, of which six bits are fixed to mark the
version and the variant, as 32 hexadecimal digits in five groups.
-/

namespace CatalogRules.Evaluation

def byteDigits (b : Nat) : List Char :=
  [Nat.digitChar (b / 16 % 16), Nat.digitChar (b % 16)]

/-- Marks the bytes at positions 6 and 8. -/
def markByte (position b : Nat) : Nat :=
  if position = 6 then 0x40 + b % 0x10
  else if position = 8 then 0x80 + b % 0x40
  else b

/-- A group boundary stands in front of the bytes at these positions. -/
def startsGroup (position : Nat) : Bool :=
  position = 4 || position = 6 || position = 8 || position = 10

def requestDigits (position : Nat) : List Nat → List Char
  | [] => []
  | b :: bs =>
    (if startsGroup position then ['-'] else []) ++ byteDigits (markByte position b) ++
      requestDigits (position + 1) bs

def requestId (bytes : List Nat) : String := String.ofList (requestDigits 0 bytes)

theorem length_requestDigits (position : Nat) (bs : List Nat) :
    (requestDigits position bs).length =
      2 * bs.length + (List.range' position bs.length).countP startsGroup := by
  induction bs generalizing position with
  | nil => rfl
  | cons b bs ih =>
    simp only [requestDigits, List.length_append, List.length_cons, List.range'_succ,
      List.countP_cons, ih, byteDigits]
    split <;> simp <;> omega

theorem length_requestId {bytes : List Nat} (h : bytes.length = 16) :
    (requestId bytes).length = 36 := by
  have : (List.range' 0 16).countP startsGroup = 4 := by decide
  rw [requestId, String.length_ofList, length_requestDigits, h, this]

end CatalogRules.Evaluation
