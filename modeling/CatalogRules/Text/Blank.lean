/-!
Blank characters and trimming. A character is blank when Unicode gives it the
property White_Space. Trimming works on the list of characters, and a trimmed
text starts and ends with a character that is not blank.
-/

namespace CatalogRules.Text

/-- The 25 characters with the Unicode property White_Space. -/
def isBlank (c : Char) : Bool :=
  let n := c.toNat
  (0x09 ≤ n && n ≤ 0x0D) || n == 0x20 || n == 0x85 || n == 0xA0 || n == 0x1680 ||
    (0x2000 ≤ n && n ≤ 0x200A) || n == 0x2028 || n == 0x2029 || n == 0x202F ||
    n == 0x205F || n == 0x3000

def dropBlanks (cs : List Char) : List Char :=
  cs.dropWhile isBlank

def trimChars (cs : List Char) : List Char :=
  (dropBlanks (dropBlanks cs).reverse).reverse

def trim (s : String) : String :=
  String.ofList (trimChars s.toList)

@[simp] theorem toList_trim (s : String) : (trim s).toList = trimChars s.toList := by
  simp [trim]

theorem dropBlanks_nil : dropBlanks [] = [] := rfl

theorem dropBlanks_eq_nil_iff (cs : List Char) :
    dropBlanks cs = [] ↔ ∀ c ∈ cs, isBlank c = true := by
  induction cs with
  | nil => simp [dropBlanks]
  | cons c cs ih =>
    by_cases h : isBlank c = true
    · have hd : dropBlanks (c :: cs) = dropBlanks cs := by simp [dropBlanks, h]
      rw [hd, ih, List.forall_mem_cons]
      exact (and_iff_right h).symm
    · simp [dropBlanks, h]

theorem trimChars_eq_nil_iff (cs : List Char) :
    trimChars cs = [] ↔ ∀ c ∈ cs, isBlank c = true := by
  rw [← dropBlanks_eq_nil_iff]
  constructor
  · intro h
    have hr : ∀ c ∈ dropBlanks cs, isBlank c = true := by
      have := (dropBlanks_eq_nil_iff _).1 (List.reverse_eq_nil_iff.1 h)
      simpa using this
    cases hd : dropBlanks cs with
    | nil => rfl
    | cons d ds =>
      have hne : dropBlanks cs ≠ [] := by simp [hd]
      have := List.head_dropWhile_not (p := isBlank) (w := hne)
      simp [dropBlanks] at hd
      simp [hd, hr d (by simp [dropBlanks, hd])] at this
  · intro h
    simp [trimChars, h, dropBlanks_nil]

end CatalogRules.Text
