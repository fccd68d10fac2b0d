/-!
The order of texts: by code point, character after character, a proper start
before what continues it. Comparing UTF-8 bytes gives the same order.
-/

namespace CatalogRules.Text

def compareChars : List Char → List Char → Ordering
  | [], [] => .eq
  | [], _ :: _ => .lt
  | _ :: _, [] => .gt
  | a :: as, b :: bs => (compare a.toNat b.toNat).then (compareChars as bs)

def compareTexts (s t : String) : Ordering :=
  compareChars s.toList t.toList

@[simp] theorem compareChars_self (cs : List Char) : compareChars cs cs = .eq := by
  induction cs with
  | nil => rfl
  | cons c cs ih => simp [compareChars, ih, Ordering.then]

end CatalogRules.Text
