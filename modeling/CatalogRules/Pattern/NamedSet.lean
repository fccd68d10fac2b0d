import CatalogRules.Pattern.CharSet
import CatalogRules.Pattern.Form

/-!
Sets of characters by the names of their properties. A name is compared without
regard to capitals, blanks, minus signs and underscores, and an `is` in front of it
does not count. A name alone is that of a property that a character has or has not,
of a general category, or of a script.
-/

namespace CatalogRules.Pattern.PropertyText

/-- A name as it is compared. -/
def plain (name : List Char) : String :=
  let bare := match name with
    | i :: s :: rest => if i.toLower = 'i' ∧ s.toLower = 's' then rest else name
    | name => name
  let kept := (bare.filter (fun c => c != ' ' && c != '_' && c != '-' && c.toNat < 0x80)).map
    Char.toLower
  if kept = ['c'] ∧ bare.length < name.length then "isc" else String.ofList kept

def groupOf? : String → Option (List Category)
  | "l" | "letter" => some Category.letters
  | "lc" | "casedletter" => some Category.casedLetters
  | "m" | "mark" | "combiningmark" => some Category.marks
  | "n" | "number" => some Category.numbers
  | "p" | "punctuation" | "punct" => some Category.punctuation
  | "s" | "symbol" => some Category.symbols
  | "z" | "separator" => some Category.separators
  | "c" | "other" => some Category.others
  | _ => none

/-- The set of a general category, or of several with one name. -/
def categorySet? : String → Option CharSet
  | "any" => some .any
  | "assigned" => some (.other (.category [.unassigned]))
  | "ascii" => some .ascii
  | name =>
    match groupOf? name with
    | some cs => some (.category cs)
    | none => (Category.all.find? (fun c => name ∈ c.names)).map (fun c => .category [c])

/-- The names of categories and scripts that no character has. -/
def emptyNames : List String :=
  Category.surrogate.names ++ ["zzzz", "unknown", "hrkt", "katakanaorhiragana"]

/-- The sets that, together with categories, make up some of the properties. -/
def contributory? : String → Option CharSet
  | "oalpha" | "otheralphabetic" =>
    some (.without (.property .alphabetic) (.category (.letterNumber :: Category.letters)))
  | "odi" | "otherdefaultignorablecodepoint" =>
    some (.without (.property .defaultIgnorableCodePoint)
      (.either (.category [.format]) (.property .variationSelector)))
  | "ogrext" | "othergraphemeextend" =>
    some (.without (.property .graphemeExtend) (.category [.nonspacingMark, .enclosingMark]))
  | "oidc" | "otheridcontinue" =>
    some (.without (.property .idContinue) (.either (.property .idStart)
      (.category [.nonspacingMark, .spacingMark, .decimalNumber, .connector])))
  | "oids" | "otheridstart" =>
    some (.without (.property .idStart) (.category (.letterNumber :: Category.letters)))
  | "olower" | "otherlowercase" =>
    some (.without (.property .lowercase) (.category [.lowerLetter]))
  | "omath" | "othermath" =>
    some (.without (.property .math) (.category [.mathSymbol]))
  | "oupper" | "otheruppercase" =>
    some (.without (.property .uppercase) (.category [.upperLetter]))
  | _ => none

def yesNoSet? (name : String) : Option CharSet :=
  if name ∈ ["whitespace", "wspace", "space"] then some .blank
  else
    match Property.all.find? (fun p => name ∈ p.names) with
    | some p => some (.property p)
    | none => contributory? name

def valuedNames : List String :=
  ["age", "bc", "bidiclass", "bidim", "bidimirrored", "bidimirroringglyph",
   "bidipairedbracket", "bidipairedbrackettype", "blk", "block", "bmg", "bpb", "bpt",
   "canonicalcombiningclass", "casefolding", "ccc", "ce", "cf",
   "changeswhennfkccasefolded", "cjkaccountingnumeric", "cjkcompatibilityvariant",
   "cjkiicore", "cjkirggsource", "cjkirghsource", "cjkirgjsource", "cjkirgkpsource",
   "cjkirgksource", "cjkirgmsource", "cjkirgssource", "cjkirgtsource", "cjkirguksource",
   "cjkirgusource", "cjkirgvsource", "cjkmandarin", "cjkothernumeric", "cjkprimarynumeric",
   "cjkrsunicode", "cjktotalstrokes", "cjkunihancore2020", "compex", "compositionexclusion",
   "cwkcf", "decompositionmapping", "decompositiontype", "dm", "dt", "ea", "eastasianwidth",
   "equideo", "equivalentunifiedideograph", "expandsonnfc", "expandsonnfd", "expandsonnfkc",
   "expandsonnfkd", "fcnfkc", "fcnfkcclosure", "fullcompositionexclusion", "gc", "gcb",
   "generalcategory", "graphemeclusterbreak", "hangulsyllabletype", "hst", "incb",
   "indicconjunctbreak", "indicpositionalcategory", "indicsyllabiccategory", "inpc", "insc",
   "isc", "isocomment", "jamoshortname", "jg", "joininggroup", "joiningtype", "jsn", "jt",
   "kaccountingnumeric", "kcompatibilityvariant", "kehcat", "kehdesc", "kehhg", "kehifao",
   "kehjsesh", "kehnomirror", "kehnorotate", "kiicore", "kirggsource", "kirghsource",
   "kirgjsource", "kirgkpsource", "kirgksource", "kirgmsource", "kirgssource", "kirgtsource",
   "kirguksource", "kirgusource", "kirgvsource", "kmandarin", "kothernumeric",
   "kprimarynumeric", "krsunicode", "ktotalstrokes", "kunihancore2020", "lb", "lc",
   "linebreak", "lowercasemapping", "na", "na1", "name", "namealias", "nfcqc",
   "nfcquickcheck", "nfdqc", "nfdquickcheck", "nfkccasefold", "nfkccf", "nfkcqc",
   "nfkcquickcheck", "nfkcscf", "nfkcsimplecasefold", "nfkdqc", "nfkdquickcheck", "nt",
   "numerictype", "numericvalue", "nv", "sb", "sc", "scf", "script", "scriptextensions",
   "scx", "sentencebreak", "sfc", "simplecasefolding", "simplelowercasemapping",
   "simpletitlecasemapping", "simpleuppercasemapping", "slc", "stc", "suc", "tc",
   "titlecasemapping", "uc", "unicode1name", "unicoderadicalstroke", "uppercasemapping",
   "urs", "verticalorientation", "vo", "wb", "wordbreak", "xonfc", "xonfd", "xonfkc", "xonfkd"]

/-- Names of categories that are names of other properties as well; they are those of
categories. -/
def categoriesFirst : List String := ["cf", "lc", "sc"]

def setOfName (name : String) : Except Problem CharSet :=
  if name ∉ categoriesFirst ∧ name ∈ valuedNames then .error .propertyUnknown
  else if name ∈ emptyNames then .error .propertyValueUnknown
  else
    match (yesNoSet? name).or ((categorySet? name).or ((Script.named? name).map .script)) with
    | some s => .ok s
    | none => .error .propertyUnknown

def setOfValue? (property value : String) : Option CharSet :=
  match property with
  | "gc" | "generalcategory" => if value ∈ emptyNames then none else categorySet? value
  | "sc" | "script" => (Script.named? value).map .script
  | "scx" | "scriptextensions" => (Script.named? value).map .usedBy
  | "age" => (Age.named? value).map .presentIn
  | "gcb" | "graphemeclusterbreak" => kind .graphemes
  | "wb" | "wordbreak" => kind .words
  | "sb" | "sentencebreak" => kind .sentences
  | _ => none
where
  kind (d : Division) : Option CharSet := (DivisionKind.named? d value).map .division

/-- The characters with a property. A property has the value that is named, whatever
sign stands between. -/
def characters : PropertyText → Except Problem CharSet
  | alone name => setOfName (plain name)
  | valued property value =>
    let property := plain property
    if (yesNoSet? property).isNone && property ∉ valuedNames then .error .propertyUnknown
    else
      match setOfValue? property (plain value) with
      | some s => .ok s
      | none => .error .propertyValueUnknown

end CatalogRules.Pattern.PropertyText
