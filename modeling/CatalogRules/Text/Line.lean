import CatalogRules.Text.Blank
import CatalogRules.Text.Split

/-!
Lines of a text. A line ends at a line feed; a carriage return before the line
feed is blank and goes with the trimming. `ruleLines` keeps the trimmed lines
that are not empty.
-/

namespace CatalogRules.Text

def splitLines (cs : List Char) : List (List Char) := splitAt '\n' cs

@[simp] theorem splitLines_newline (cs : List Char) :
    splitLines ('\n' :: cs) = [] :: splitLines cs := splitAt_sep _ cs

def ruleLineChars (cs : List Char) : List (List Char) :=
  ((splitLines cs).map trimChars).filter (fun line => !line.isEmpty)

/-- The trimmed lines of a rule text, blank lines left out. -/
def ruleLines (s : String) : List String :=
  (ruleLineChars s.toList).map String.ofList

@[simp] theorem length_ruleLines (s : String) :
    (ruleLines s).length = (ruleLineChars s.toList).length := by
  simp [ruleLines]

end CatalogRules.Text
