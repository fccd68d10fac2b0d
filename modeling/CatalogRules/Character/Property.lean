import CatalogRules.Character.PropertyTable

/-!
Properties that a character has or has not.
-/

namespace CatalogRules

inductive Property where
  | asciiHexDigit | alphabetic | bidiControl | caseIgnorable | cased | changesWhenCasefolded
  | changesWhenCasemapped | changesWhenLowercased | changesWhenTitlecased
  | changesWhenUppercased | dash | defaultIgnorableCodePoint | deprecated | diacritic | emoji
  | emojiComponent | emojiModifier | emojiModifierBase | emojiPresentation
  | extendedPictographic | extender | graphemeBase | graphemeExtend | graphemeLink | hexDigit
  | hyphen | idsBinaryOperator | idsTrinaryOperator | idsUnaryOperator | idCompatMathContinue
  | idCompatMathStart | idContinue | idStart | ideographic | joinControl
  | logicalOrderException | lowercase | math | modifierCombiningMark | noncharacterCodePoint
  | patternSyntax | patternWhiteSpace | prependedConcatenationMark | quotationMark | radical
  | regionalIndicator | sentenceTerminal | softDotted | terminalPunctuation | unifiedIdeograph
  | uppercase | variationSelector | xidContinue | xidStart
  deriving DecidableEq

namespace Property

def all : List Property :=
  [asciiHexDigit, alphabetic, bidiControl, caseIgnorable, cased, changesWhenCasefolded,
   changesWhenCasemapped, changesWhenLowercased, changesWhenTitlecased, changesWhenUppercased,
   dash, defaultIgnorableCodePoint, deprecated, diacritic, emoji, emojiComponent,
   emojiModifier, emojiModifierBase, emojiPresentation, extendedPictographic, extender,
   graphemeBase, graphemeExtend, graphemeLink, hexDigit, hyphen, idsBinaryOperator,
   idsTrinaryOperator, idsUnaryOperator, idCompatMathContinue, idCompatMathStart, idContinue,
   idStart, ideographic, joinControl, logicalOrderException, lowercase, math,
   modifierCombiningMark, noncharacterCodePoint, patternSyntax, patternWhiteSpace,
   prependedConcatenationMark, quotationMark, radical, regionalIndicator, sentenceTerminal,
   softDotted, terminalPunctuation, unifiedIdeograph, uppercase, variationSelector,
   xidContinue, xidStart]

def names : Property → List String
  | asciiHexDigit => ["ahex", "asciihexdigit"]
  | alphabetic => ["alpha", "alphabetic"]
  | bidiControl => ["bidic", "bidicontrol"]
  | caseIgnorable => ["ci", "caseignorable"]
  | cased => ["cased"]
  | changesWhenCasefolded => ["cwcf", "changeswhencasefolded"]
  | changesWhenCasemapped => ["cwcm", "changeswhencasemapped"]
  | changesWhenLowercased => ["cwl", "changeswhenlowercased"]
  | changesWhenTitlecased => ["cwt", "changeswhentitlecased"]
  | changesWhenUppercased => ["cwu", "changeswhenuppercased"]
  | dash => ["dash"]
  | defaultIgnorableCodePoint => ["di", "defaultignorablecodepoint"]
  | deprecated => ["dep", "deprecated"]
  | diacritic => ["dia", "diacritic"]
  | emoji => ["emoji"]
  | emojiComponent => ["ecomp", "emojicomponent"]
  | emojiModifier => ["emod", "emojimodifier"]
  | emojiModifierBase => ["ebase", "emojimodifierbase"]
  | emojiPresentation => ["epres", "emojipresentation"]
  | extendedPictographic => ["extpict", "extendedpictographic"]
  | extender => ["ext", "extender"]
  | graphemeBase => ["grbase", "graphemebase"]
  | graphemeExtend => ["grext", "graphemeextend"]
  | graphemeLink => ["grlink", "graphemelink"]
  | hexDigit => ["hex", "hexdigit"]
  | hyphen => ["hyphen"]
  | idsBinaryOperator => ["idsb", "idsbinaryoperator"]
  | idsTrinaryOperator => ["idst", "idstrinaryoperator"]
  | idsUnaryOperator => ["idsu", "idsunaryoperator"]
  | idCompatMathContinue => ["idcompatmathcontinue"]
  | idCompatMathStart => ["idcompatmathstart"]
  | idContinue => ["idc", "idcontinue"]
  | idStart => ["ids", "idstart"]
  | ideographic => ["ideo", "ideographic"]
  | joinControl => ["joinc", "joincontrol"]
  | logicalOrderException => ["loe", "logicalorderexception"]
  | lowercase => ["lower", "lowercase"]
  | math => ["math"]
  | modifierCombiningMark => ["mcm", "modifiercombiningmark"]
  | noncharacterCodePoint => ["nchar", "noncharactercodepoint"]
  | patternSyntax => ["patsyn", "patternsyntax"]
  | patternWhiteSpace => ["patws", "patternwhitespace"]
  | prependedConcatenationMark => ["pcm", "prependedconcatenationmark"]
  | quotationMark => ["qmark", "quotationmark"]
  | radical => ["radical"]
  | regionalIndicator => ["ri", "regionalindicator"]
  | sentenceTerminal => ["sterm", "sentenceterminal"]
  | softDotted => ["sd", "softdotted"]
  | terminalPunctuation => ["term", "terminalpunctuation"]
  | unifiedIdeograph => ["uideo", "unifiedideograph"]
  | uppercase => ["upper", "uppercase"]
  | variationSelector => ["vs", "variationselector"]
  | xidContinue => ["xidc", "xidcontinue"]
  | xidStart => ["xids", "xidstart"]

def table : Property → List String
  | asciiHexDigit => PropertyTable.asciiHexDigit
  | alphabetic => PropertyTable.alphabetic
  | bidiControl => PropertyTable.bidiControl
  | caseIgnorable => PropertyTable.caseIgnorable
  | cased => PropertyTable.cased
  | changesWhenCasefolded => PropertyTable.changesWhenCasefolded
  | changesWhenCasemapped => PropertyTable.changesWhenCasemapped
  | changesWhenLowercased => PropertyTable.changesWhenLowercased
  | changesWhenTitlecased => PropertyTable.changesWhenTitlecased
  | changesWhenUppercased => PropertyTable.changesWhenUppercased
  | dash => PropertyTable.dash
  | defaultIgnorableCodePoint => PropertyTable.defaultIgnorableCodePoint
  | deprecated => PropertyTable.deprecated
  | diacritic => PropertyTable.diacritic
  | emoji => PropertyTable.emoji
  | emojiComponent => PropertyTable.emojiComponent
  | emojiModifier => PropertyTable.emojiModifier
  | emojiModifierBase => PropertyTable.emojiModifierBase
  | emojiPresentation => PropertyTable.emojiPresentation
  | extendedPictographic => PropertyTable.extendedPictographic
  | extender => PropertyTable.extender
  | graphemeBase => PropertyTable.graphemeBase
  | graphemeExtend => PropertyTable.graphemeExtend
  | graphemeLink => PropertyTable.graphemeLink
  | hexDigit => PropertyTable.hexDigit
  | hyphen => PropertyTable.hyphen
  | idsBinaryOperator => PropertyTable.idsBinaryOperator
  | idsTrinaryOperator => PropertyTable.idsTrinaryOperator
  | idsUnaryOperator => PropertyTable.idsUnaryOperator
  | idCompatMathContinue => PropertyTable.idCompatMathContinue
  | idCompatMathStart => PropertyTable.idCompatMathStart
  | idContinue => PropertyTable.idContinue
  | idStart => PropertyTable.idStart
  | ideographic => PropertyTable.ideographic
  | joinControl => PropertyTable.joinControl
  | logicalOrderException => PropertyTable.logicalOrderException
  | lowercase => PropertyTable.lowercase
  | math => PropertyTable.math
  | modifierCombiningMark => PropertyTable.modifierCombiningMark
  | noncharacterCodePoint => PropertyTable.noncharacterCodePoint
  | patternSyntax => PropertyTable.patternSyntax
  | patternWhiteSpace => PropertyTable.patternWhiteSpace
  | prependedConcatenationMark => PropertyTable.prependedConcatenationMark
  | quotationMark => PropertyTable.quotationMark
  | radical => PropertyTable.radical
  | regionalIndicator => PropertyTable.regionalIndicator
  | sentenceTerminal => PropertyTable.sentenceTerminal
  | softDotted => PropertyTable.softDotted
  | terminalPunctuation => PropertyTable.terminalPunctuation
  | unifiedIdeograph => PropertyTable.unifiedIdeograph
  | uppercase => PropertyTable.uppercase
  | variationSelector => PropertyTable.variationSelector
  | xidContinue => PropertyTable.xidContinue
  | xidStart => PropertyTable.xidStart

def runs : List (Property × Runs Bool) :=
  all.map (fun p => (p, Runs.read 1 (· == ['+']) p.table))

def runsOf (p : Property) : Runs Bool := (runs.lookup p).getD []

def holds (p : Property) (c : Char) : Bool := ((runsOf p).at? c.toNat).getD false

end Property

end CatalogRules
