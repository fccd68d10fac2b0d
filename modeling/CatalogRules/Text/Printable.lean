/-!
What is left of a text where no control sequences are wanted: the characters that
show and those that leave a gap. A control sequence starts with the escape character
and goes on as long as the signs after it say; a control string goes on up to a sign
of its end, or to the end of the text. A gap inside a sequence interrupts it: the
characters from there on are shown, and the first that is not shown resumes the
sequence, unless a character beyond ASCII came before and ended it.
-/

namespace CatalogRules.Text

/-- The controls that leave a gap: tabulator, line feed, form feed, return. -/
def isGap (c : Char) : Bool := c ∈ ['\t', '\n', '\x0c', '\r']

/-- Whether a character is shown wherever it stands outside control sequences. -/
def isPrintable (c : Char) : Bool := isGap c || (' ' ≤ c && c != '\x7f')

inductive Control where
  | outside
  /-- After the escape character. -/
  | escape
  /-- After the escape character and signs that name a set. -/
  | designation
  /-- After the escape character and `[`. -/
  | sequence
  /-- In front of the parameters of a control string. -/
  | stringStart
  | stringParameters
  /-- After the parameters, in front of the sign that says what the string is for. -/
  | stringMiddle
  /-- In a control string that ends at the byte 9C. -/
  | string
  /-- In a control string that the bell ends. -/
  | command
  deriving DecidableEq

namespace Control

def afterEscape (c : Char) : Control :=
  if c < ' ' ∨ '\x7e' < c then escape
  else if c < '0' then designation
  else
    match c with
    | '[' => sequence
    | ']' => command
    | 'P' => stringStart
    | 'X' | '^' | '_' => string
    | _ => outside

/-- Where a sign of ASCII other than the controls that end anything leads to. -/
def after (s : Control) (c : Char) : Control :=
  match s with
  | outside => outside
  | escape => afterEscape c
  | designation => if '0' ≤ c ∧ c ≤ '\x7e' then outside else designation
  | sequence => if '@' ≤ c ∧ c ≤ '\x7e' then outside else sequence
  | stringStart =>
    if c < ' ' ∨ '\x7e' < c then stringStart
    else if c < '0' then stringMiddle
    else if c < '@' then stringParameters
    else string
  | stringParameters =>
    if c < ' ' ∨ '\x7e' < c then stringParameters
    else if c < '0' then stringMiddle
    else if c < '<' then stringParameters
    else string
  | stringMiddle => if c < '0' ∨ '\x7e' < c then stringMiddle else string
  | string => string
  | command => if c = '\x07' then outside else command

/-- Whether a control that leaves a gap is shown, and interrupts the sequence it is in. -/
def letsGapsThrough : Control → Bool
  | outside | escape | designation | sequence => true
  | stringStart | stringParameters | stringMiddle | string | command => false

/-- Whether one of the bytes of a character beyond ASCII is 9C. -/
def endsString (c : Char) : Bool := c.toString.toUTF8.data.contains 0x9C

/-- Where a character leads to, and whether it is shown, after one that was not. -/
def step (s : Control) (c : Char) : Control × Bool :=
  if c = '\x18' ∨ c = '\x1a' then (outside, false)
  else if c = '\x1b' then (escape, false)
  else if '\x7f' < c then
    match s with
    | outside => (outside, true)
    | string => (if endsString c then outside else string, false)
    | s => (s, false)
  else if isGap c && s.letsGapsThrough then (s, true)
  else (s.after c, s = outside && ' ' ≤ c && c < '\x7f')

def stepShown (s : Control) (c : Char) : Control × Bool :=
  if '\x7f' < c then (outside, true)
  else if isPrintable c then (s, true)
  else s.step c

end Control

/-- The characters that are shown; `showing` says whether the one before them was. -/
def printableChars (s : Control) (showing : Bool) : List Char → List Char
  | [] => []
  | c :: cs =>
    let (t, shown) := if showing then s.stepShown c else s.step c
    if shown then c :: printableChars t true cs else printableChars t false cs

def printable (s : String) : String :=
  String.ofList (printableChars .outside false s.toList)

end CatalogRules.Text
