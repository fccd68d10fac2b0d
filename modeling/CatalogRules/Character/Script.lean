import CatalogRules.Character.ScriptTable
import CatalogRules.Text.Split

/-!
The scripts that characters belong to, and those that they are used in. A character
that several scripts use may belong to none of them in particular: it is common
then, or takes its script from the character before it.
-/

namespace CatalogRules

/-- A script, by its code of four small letters. -/
structure Script where
  code : String
  deriving DecidableEq

namespace Script

def names : List (List String) :=
  [["adlm", "adlam"], ["aghb", "caucasianalbanian"], ["ahom"], ["arab", "arabic"],
   ["armi", "imperialaramaic"], ["armn", "armenian"], ["avst", "avestan"],
   ["bali", "balinese"], ["bamu", "bamum"], ["bass", "bassavah"], ["batk", "batak"],
   ["beng", "bengali"], ["bhks", "bhaiksuki"], ["bopo", "bopomofo"], ["brah", "brahmi"],
   ["brai", "braille"], ["bugi", "buginese"], ["buhd", "buhid"], ["cakm", "chakma"],
   ["cans", "canadianaboriginal"], ["cari", "carian"], ["cham"], ["cher", "cherokee"],
   ["chrs", "chorasmian"], ["copt", "coptic", "qaac"], ["cpmn", "cyprominoan"],
   ["cprt", "cypriot"], ["cyrl", "cyrillic"], ["deva", "devanagari"], ["diak", "divesakuru"],
   ["dogr", "dogra"], ["dsrt", "deseret"], ["dupl", "duployan"],
   ["egyp", "egyptianhieroglyphs"], ["elba", "elbasan"], ["elym", "elymaic"],
   ["ethi", "ethiopic"], ["gara", "garay"], ["geor", "georgian"], ["glag", "glagolitic"],
   ["gong", "gunjalagondi"], ["gonm", "masaramgondi"], ["goth", "gothic"], ["gran", "grantha"],
   ["grek", "greek"], ["gujr", "gujarati"], ["gukh", "gurungkhema"], ["guru", "gurmukhi"],
   ["hang", "hangul"], ["hani", "han"], ["hano", "hanunoo"], ["hatr", "hatran"],
   ["hebr", "hebrew"], ["hira", "hiragana"], ["hluw", "anatolianhieroglyphs"],
   ["hmng", "pahawhhmong"], ["hmnp", "nyiakengpuachuehmong"], ["hung", "oldhungarian"],
   ["ital", "olditalic"], ["java", "javanese"], ["kali", "kayahli"], ["kana", "katakana"],
   ["kawi"], ["khar", "kharoshthi"], ["khmr", "khmer"], ["khoj", "khojki"],
   ["kits", "khitansmallscript"], ["knda", "kannada"], ["krai", "kiratrai"],
   ["kthi", "kaithi"], ["lana", "taitham"], ["laoo", "lao"], ["latn", "latin"],
   ["lepc", "lepcha"], ["limb", "limbu"], ["lina", "lineara"], ["linb", "linearb"], ["lisu"],
   ["lyci", "lycian"], ["lydi", "lydian"], ["mahj", "mahajani"], ["maka", "makasar"],
   ["mand", "mandaic"], ["mani", "manichaean"], ["marc", "marchen"], ["medf", "medefaidrin"],
   ["mend", "mendekikakui"], ["merc", "meroiticcursive"], ["mero", "meroitichieroglyphs"],
   ["mlym", "malayalam"], ["modi"], ["mong", "mongolian"], ["mroo", "mro"],
   ["mtei", "meeteimayek"], ["mult", "multani"], ["mymr", "myanmar"], ["nagm", "nagmundari"],
   ["nand", "nandinagari"], ["narb", "oldnortharabian"], ["nbat", "nabataean"], ["newa"],
   ["nkoo", "nko"], ["nshu", "nushu"], ["ogam", "ogham"], ["olck", "olchiki"],
   ["onao", "olonal"], ["orkh", "oldturkic"], ["orya", "oriya"], ["osge", "osage"],
   ["osma", "osmanya"], ["ougr", "olduyghur"], ["palm", "palmyrene"], ["pauc", "paucinhau"],
   ["perm", "oldpermic"], ["phag", "phagspa"], ["phli", "inscriptionalpahlavi"],
   ["phlp", "psalterpahlavi"], ["phnx", "phoenician"], ["plrd", "miao"],
   ["prti", "inscriptionalparthian"], ["rjng", "rejang"], ["rohg", "hanifirohingya"],
   ["runr", "runic"], ["samr", "samaritan"], ["sarb", "oldsoutharabian"],
   ["saur", "saurashtra"], ["sgnw", "signwriting"], ["shaw", "shavian"], ["shrd", "sharada"],
   ["sidd", "siddham"], ["sind", "khudawadi"], ["sinh", "sinhala"], ["sogd", "sogdian"],
   ["sogo", "oldsogdian"], ["sora", "sorasompeng"], ["soyo", "soyombo"], ["sund", "sundanese"],
   ["sunu", "sunuwar"], ["sylo", "sylotinagri"], ["syrc", "syriac"], ["tagb", "tagbanwa"],
   ["takr", "takri"], ["tale", "taile"], ["talu", "newtailue"], ["taml", "tamil"],
   ["tang", "tangut"], ["tavt", "taiviet"], ["telu", "telugu"], ["tfng", "tifinagh"],
   ["tglg", "tagalog"], ["thaa", "thaana"], ["thai"], ["tibt", "tibetan"], ["tirh", "tirhuta"],
   ["tnsa", "tangsa"], ["todr", "todhri"], ["toto"], ["tutg", "tulutigalari"],
   ["ugar", "ugaritic"], ["vaii", "vai"], ["vith", "vithkuqi"], ["wara", "warangciti"],
   ["wcho", "wancho"], ["xpeo", "oldpersian"], ["xsux", "cuneiform"], ["yezi", "yezidi"],
   ["yiii", "yi"], ["zanb", "zanabazarsquare"], ["zinh", "inherited", "qaai"],
   ["zyyy", "common"]]

def named? (name : String) : Option Script :=
  ((names.find? (fun ns => name ∈ ns)).bind List.head?).map Script.mk

def runs : Runs Script := Runs.read 4 (fun mark => ⟨String.ofList mark⟩) ScriptTable.scripts

def unknown : Script := ⟨"zzzz"⟩

def ofChar (c : Char) : Script := (runs.at? c.toNat).getD unknown

/-- A stretch of code points that the same scripts use. -/
structure Use where
  first : Nat
  last : Nat
  scripts : List Script

def uses : List Use :=
  ScriptTable.uses.map fun (first, count, codes) =>
    ⟨first, first + count - 1, (Text.split ' ' codes).map Script.mk⟩

/-- Whether a script uses a character: it is among those listed for the character,
or is the script of one for which none are listed. -/
def isUsedFor (s : Script) (c : Char) : Bool :=
  match uses.find? (fun u => u.first ≤ c.toNat && c.toNat ≤ u.last) with
  | some u => s ∈ u.scripts
  | none => ofChar c = s

end Script

end CatalogRules
