import CatalogRules.Character.Age
import CatalogRules.Character.Case
import CatalogRules.Character.Category
import CatalogRules.Character.Division
import CatalogRules.Character.Property
import CatalogRules.Character.Script
import CatalogRules.Text.Blank

/-!
Sets of characters, as expressions that say which characters are in them.
-/

namespace CatalogRules

inductive CharSet where
  | between (first last : Char)
  | blank
  | category (cs : List Category)
  | property (p : Property)
  | script (s : Script)
  /-- The characters that a script uses. -/
  | usedBy (s : Script)
  /-- The characters that a version has, its own and those of earlier ones. -/
  | presentIn (a : Age)
  | division (k : DivisionKind)
  | other (s : CharSet)
  | either (s t : CharSet)
  | both (s t : CharSet)
  /-- The set with the letters that differ from its letters by their case. -/
  | caseless (s : CharSet)
  /-- The set with the letters of ASCII that differ from its letters by their case. -/
  | asciiCaseless (s : CharSet)
  deriving DecidableEq

namespace CharSet

def asciiVariants (c : Char) : List Char := [c.toLower, c.toUpper]

def contains : CharSet → Char → Bool
  | between first last, c => first ≤ c && c ≤ last
  | blank, c => Text.isBlank c
  | category cs, c => Category.ofChar c ∈ cs
  | property p, c => p.holds c
  | script s, c => Script.ofChar c = s
  | usedBy s, c => s.isUsedFor c
  | presentIn a, c => a.includes c
  | division k, c => k.holds c
  | other s, c => !s.contains c
  | either s t, c => s.contains c || t.contains c
  | both s t, c => s.contains c && t.contains c
  | caseless s, c => (Case.variants c).any (fun d => s.contains d)
  | asciiCaseless s, c => s.contains c || (asciiVariants c).any (fun d => s.contains d)

def none : CharSet := category []

def one (c : Char) : CharSet := between c c

def any : CharSet := other none

def oneOf (sets : List CharSet) : CharSet := sets.foldr either none

def ofList (cs : List Char) : CharSet := oneOf (cs.map one)

def without (s t : CharSet) : CharSet := both s (other t)

def apart (s t : CharSet) : CharSet := either (s.without t) (t.without s)

def digit : CharSet := category [.decimalNumber]

/-- The parts of words: letters and what counts as one, marks, digits, connectors
such as `_`, and the two invisible joiners. -/
def wordPart : CharSet :=
  either (property .alphabetic)
    (either (category (Category.marks ++ [.decimalNumber, .connector])) (property .joinControl))

def ascii : CharSet := between '\x00' '\x7f'

def asciiDigit : CharSet := between '0' '9'

def asciiUpper : CharSet := between 'A' 'Z'

def asciiLower : CharSet := between 'a' 'z'

def asciiLetter : CharSet := either asciiUpper asciiLower

def asciiAlphanumeric : CharSet := either asciiLetter asciiDigit

def asciiWordPart : CharSet := either asciiAlphanumeric (one '_')

def asciiBlank : CharSet := either (between '\t' '\r') (one ' ')

def asciiPunctuation : CharSet :=
  either (either (between '!' '/') (between ':' '@'))
    (either (between '[' '`') (between '\x7b' '~'))

@[simp] theorem contains_none (c : Char) : none.contains c = false := rfl

@[simp] theorem contains_one (c d : Char) : (one c).contains d = decide (c = d) := by
  simp only [one, contains, Bool.and_eq_decide]
  congr 1
  exact propext ⟨fun h => Char.le_antisymm (by simpa using h.1) (by simpa using h.2),
    fun h => by simp [h]⟩

end CharSet

end CatalogRules
