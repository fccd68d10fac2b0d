/-!
Clipping: a text of more than a given number of characters is cut there and
marked with three points.
-/

namespace CatalogRules.Text

def clip (limit : Nat) (s : String) : String :=
  if s.length ≤ limit then s
  else String.ofList (s.toList.take limit) ++ "..."

theorem clip_of_length_le {limit : Nat} {s : String} (h : s.length ≤ limit) :
    clip limit s = s := if_pos h

end CatalogRules.Text
