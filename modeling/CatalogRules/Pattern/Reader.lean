import CatalogRules.Pattern.Meaning
import CatalogRules.Pattern.Room
import CatalogRules.Pattern.Sequence

/-!
Patterns from their text. A text is refused if it has no form, if its form has no
meaning, and if what it means takes too much room.
-/

namespace CatalogRules.Pattern

inductive Refusal where
  | fault (f : Fault)
  | tooLarge
  deriving DecidableEq

def Refusal.message (text : String) : Refusal → String
  | fault f => f.message text
  | tooLarge => "Compiled regex exceeds size limit of " ++ toString greatestRoom ++ " bytes."

def read (text : String) : Except Refusal Pattern :=
  match Form.read text >>= ofForm with
  | .error f => .error (.fault f)
  | .ok p => if p.isTooLarge then .error .tooLarge else .ok p

end CatalogRules.Pattern
