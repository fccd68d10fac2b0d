/-!
Texts cut at every occurrence of a character. The pieces keep their order, and
there is always one more of them than there are occurrences.
-/

namespace CatalogRules.Text

/-- The stretches between the occurrences of `sep`, the last one included. -/
def splitAt (sep : Char) (cs : List Char) : List (List Char) :=
  cs.foldr (fun c pieces => if c = sep then [] :: pieces else
    match pieces with
    | [] => [[c]]
    | piece :: rest => (c :: piece) :: rest) [[]]

def split (sep : Char) (s : String) : List String :=
  (splitAt sep s.toList).map String.ofList

@[simp] theorem splitAt_nil (sep : Char) : splitAt sep [] = [[]] := rfl

@[simp] theorem splitAt_sep (sep : Char) (cs : List Char) :
    splitAt sep (sep :: cs) = [] :: splitAt sep cs := by
  simp [splitAt]

theorem splitAt_ne_nil (sep : Char) (cs : List Char) : splitAt sep cs ≠ [] := by
  cases cs with
  | nil => simp
  | cons c cs =>
    simp only [splitAt, List.foldr_cons]
    split
    · simp
    · split <;> simp

end CatalogRules.Text
