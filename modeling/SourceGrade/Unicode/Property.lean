import SourceGrade.Text.Blank
import SourceGrade.Unicode.CaseChange
import SourceGrade.Unicode.Category
import SourceGrade.Unicode.Contributory
import SourceGrade.Unicode.Identifier
import SourceGrade.Unicode.Traits

/-!
# Properties of characters

A property that a character has or has not is a class of characters. Some are lists of their own, the
others follow from categories.
-/

namespace SourceGrade.Unicode

inductive Property where
  | asciiHexDigit
  | alphabetic
  | bidiControl
  | bidiMirrored
  | caseIgnorable
  | cased
  | changesWhenCasefolded
  | changesWhenCasemapped
  | changesWhenLowercased
  | changesWhenTitlecased
  | changesWhenUppercased
  | dash
  | defaultIgnorable
  | deprecated
  | diacritic
  | emoji
  | emojiComponent
  | emojiModifier
  | emojiModifierBase
  | emojiPresentation
  | extendedPictographic
  | extender
  | graphemeBase
  | graphemeExtend
  | graphemeLink
  | hexDigit
  | hyphen
  | idsBinaryOperator
  | idsTrinaryOperator
  | idsUnaryOperator
  | idCompatMathContinue
  | idCompatMathStart
  | idContinue
  | idStart
  | ideographic
  | joinControl
  | logicalOrderException
  | lowercase
  | math
  | modifierCombiningMark
  | noncharacter
  | otherAlphabetic
  | otherDefaultIgnorable
  | otherGraphemeExtend
  | otherIdContinue
  | otherIdStart
  | otherLowercase
  | otherMath
  | otherUppercase
  | patternSyntax
  | patternWhiteSpace
  | prependedConcatenationMark
  | quotationMark
  | radical
  | regionalIndicator
  | sentenceTerminal
  | softDotted
  | terminalPunctuation
  | unifiedIdeograph
  | uppercase
  | variationSelector
  | whiteSpace
  | xidContinue
  | xidStart
deriving DecidableEq

namespace Property

/-- The names of the properties, in small letters and without gaps. -/
def names : List (Property × List String) :=
  [(asciiHexDigit, ["ahex", "asciihexdigit"]), (alphabetic, ["alpha", "alphabetic"]),
    (bidiControl, ["bidic", "bidicontrol"]), (bidiMirrored, ["bidim", "bidimirrored"]),
    (caseIgnorable, ["ci", "caseignorable"]), (cased, ["cased"]),
    (changesWhenCasefolded, ["cwcf", "changeswhencasefolded"]),
    (changesWhenCasemapped, ["cwcm", "changeswhencasemapped"]),
    (changesWhenLowercased, ["cwl", "changeswhenlowercased"]),
    (changesWhenTitlecased, ["cwt", "changeswhentitlecased"]),
    (changesWhenUppercased, ["cwu", "changeswhenuppercased"]), (dash, ["dash"]),
    (defaultIgnorable, ["di", "defaultignorablecodepoint"]), (deprecated, ["dep", "deprecated"]),
    (diacritic, ["dia", "diacritic"]), (emoji, ["emoji"]),
    (emojiComponent, ["ecomp", "emojicomponent"]), (emojiModifier, ["emod", "emojimodifier"]),
    (emojiModifierBase, ["ebase", "emojimodifierbase"]),
    (emojiPresentation, ["epres", "emojipresentation"]),
    (extendedPictographic, ["extpict", "extendedpictographic"]), (extender, ["ext", "extender"]),
    (graphemeBase, ["grbase", "graphemebase"]), (graphemeExtend, ["grext", "graphemeextend"]),
    (graphemeLink, ["grlink", "graphemelink"]), (hexDigit, ["hex", "hexdigit"]),
    (hyphen, ["hyphen"]), (idsBinaryOperator, ["idsb", "idsbinaryoperator"]),
    (idsTrinaryOperator, ["idst", "idstrinaryoperator"]),
    (idsUnaryOperator, ["idsu", "idsunaryoperator"]),
    (idCompatMathContinue, ["idcompatmathcontinue"]), (idCompatMathStart, ["idcompatmathstart"]),
    (idContinue, ["idc", "idcontinue"]), (idStart, ["ids", "idstart"]),
    (ideographic, ["ideo", "ideographic"]), (joinControl, ["joinc", "joincontrol"]),
    (logicalOrderException, ["loe", "logicalorderexception"]), (lowercase, ["lower", "lowercase"]),
    (math, ["math"]), (modifierCombiningMark, ["mcm", "modifiercombiningmark"]),
    (noncharacter, ["nchar", "noncharactercodepoint"]),
    (otherAlphabetic, ["oalpha", "otheralphabetic"]),
    (otherDefaultIgnorable, ["odi", "otherdefaultignorablecodepoint"]),
    (otherGraphemeExtend, ["ogrext", "othergraphemeextend"]),
    (otherIdContinue, ["oidc", "otheridcontinue"]), (otherIdStart, ["oids", "otheridstart"]),
    (otherLowercase, ["olower", "otherlowercase"]), (otherMath, ["omath", "othermath"]),
    (otherUppercase, ["oupper", "otheruppercase"]), (patternSyntax, ["patsyn", "patternsyntax"]),
    (patternWhiteSpace, ["patws", "patternwhitespace"]),
    (prependedConcatenationMark, ["pcm", "prependedconcatenationmark"]),
    (quotationMark, ["qmark", "quotationmark"]), (radical, ["radical"]),
    (regionalIndicator, ["ri", "regionalindicator"]),
    (sentenceTerminal, ["sterm", "sentenceterminal"]), (softDotted, ["sd", "softdotted"]),
    (terminalPunctuation, ["term", "terminalpunctuation"]),
    (unifiedIdeograph, ["uideo", "unifiedideograph"]), (uppercase, ["upper", "uppercase"]),
    (variationSelector, ["vs", "variationselector"]),
    (whiteSpace, ["wspace", "space", "whitespace"]), (xidContinue, ["xidc", "xidcontinue"]),
    (xidStart, ["xids", "xidstart"])]

/-- The names of properties with more than two values, of texts and of numbers, and of properties
that come from the forms of whole texts. -/
def otherNames : List String :=
  ["age", "bc", "bidiclass", "blk", "block", "bmg", "bidimirroringglyph", "bpb",
    "bidipairedbracket", "bpt", "bidipairedbrackettype", "ccc", "canonicalcombiningclass", "ce",
    "compositionexclusion", "cf", "casefolding", "cjkaccountingnumeric", "kaccountingnumeric",
    "cjkcompatibilityvariant", "kcompatibilityvariant", "cjkiicore", "kiicore", "cjkirggsource",
    "kirggsource", "cjkirghsource", "kirghsource", "cjkirgjsource", "kirgjsource", "cjkirgkpsource",
    "kirgkpsource", "cjkirgksource", "kirgksource", "cjkirgmsource", "kirgmsource", "cjkirgssource",
    "kirgssource", "cjkirgtsource", "kirgtsource", "cjkirguksource", "kirguksource",
    "cjkirgusource", "kirgusource", "cjkirgvsource", "kirgvsource", "cjkothernumeric",
    "kothernumeric", "cjkprimarynumeric", "kprimarynumeric", "cjkrsunicode", "krsunicode",
    "unicoderadicalstroke", "urs", "compex", "fullcompositionexclusion", "cwkcf",
    "changeswhennfkccasefolded", "dm", "decompositionmapping", "dt", "decompositiontype", "ea",
    "eastasianwidth", "equideo", "equivalentunifiedideograph", "fcnfkc", "fcnfkcclosure", "gc",
    "generalcategory", "gcb", "graphemeclusterbreak", "hst", "hangulsyllabletype",
    "incb", "indicconjunctbreak", "inpc", "indicpositionalcategory", "insc",
    "indicsyllabiccategory", "isc", "ocomment", "jg", "joininggroup", "jsn", "jamoshortname",
    "jt", "joiningtype", "kehcat", "kehdesc", "kehhg", "kehifao", "kehjsesh", "kehnomirror",
    "kehnorotate", "lb", "linebreak", "lc", "lowercasemapping", "na", "name", "na1", "unicode1name",
    "namealias", "nfcqc", "nfcquickcheck", "nfdqc", "nfdquickcheck", "nfkccf", "nfkccasefold",
    "nfkcqc", "nfkcquickcheck", "nfkcscf", "nfkcsimplecasefold", "nfkdqc", "nfkdquickcheck", "nt",
    "numerictype", "nv", "numericvalue", "sb", "sentencebreak", "sc", "script", "scf", "sfc",
    "simplecasefolding", "scx", "scriptextensions", "slc", "simplelowercasemapping", "stc",
    "simpletitlecasemapping", "suc", "simpleuppercasemapping", "tc", "titlecasemapping", "uc",
    "uppercasemapping", "vo", "verticalorientation", "wb", "wordbreak", "xonfc", "expandsonnfc",
    "xonfd", "expandsonnfd", "xonfkc", "expandsonnfkc", "xonfkd", "expandsonnfkd"]

def ofName? (name : Text) : Option Property :=
  (names.find? fun (_, names) => names.any (·.toList = name)).map (·.1)

def capitals : CharClass := uppercaseLetter ++ Unicode.otherUppercase

def smallLetters : CharClass := lowercaseLetter ++ Unicode.otherLowercase

def graphemeExtenders : CharClass := nonspacingMark ++ enclosingMark ++ Unicode.otherGraphemeExtend

/-- The letters whose case can be changed. -/
def changing (letters exceptions : CharClass) : CharClass :=
  (CharClass.ofRanges (letters ++ titlecaseLetter)).difference exceptions

def identifierStarts : CharClass := Category.letters ++ letterNumber ++ Unicode.otherIdStart

/-- What an identifier may have behind its beginning only. -/
def identifierParts : CharClass :=
  nonspacingMark ++ spacingMark ++ decimalNumber ++ connectorPunctuation ++ Unicode.otherIdContinue

/-- No sign of a pattern is part of an identifier. -/
def identifierChars (ranges : CharClass) : CharClass :=
  (CharClass.ofRanges ranges).difference Unicode.patternSyntax

/-- The characters of a property. -/
def chars (p : Property) : CharClass :=
  match p with
  | asciiHexDigit => Unicode.asciiHexDigit
  | alphabetic => CharClass.ofRanges (Category.letters ++ letterNumber ++ Unicode.otherAlphabetic)
  | bidiControl => Unicode.bidiControl
  | bidiMirrored => Unicode.bidiMirrored
  | caseIgnorable =>
    CharClass.ofRanges
      (nonspacingMark ++ enclosingMark ++ format ++ modifierLetter ++ modifierSymbol ++
        caseIgnorableSign)
  | cased => CharClass.ofRanges (capitals ++ smallLetters ++ titlecaseLetter)
  | changesWhenCasefolded =>
    ((changing capitals caselessCapital).difference unfoldedCapital).union foldedOnly
  | changesWhenCasemapped =>
    (changing capitals caselessCapital).union (changing smallLetters caselessSmall)
  | changesWhenLowercased => changing capitals caselessCapital
  | changesWhenTitlecased =>
    ((changing smallLetters caselessSmall).union titlecaseOnly).difference titlecaseItself
  | changesWhenUppercased => changing smallLetters caselessSmall
  | dash => Unicode.dash
  | defaultIgnorable => Unicode.defaultIgnorable
  | deprecated => Unicode.deprecated
  | diacritic => Unicode.diacritic
  | emoji => Unicode.emoji
  | emojiComponent => Unicode.emojiComponent
  | emojiModifier => Unicode.emojiModifier
  | emojiModifierBase => Unicode.emojiModifierBase
  | emojiPresentation => Unicode.emojiPresentation
  | extendedPictographic => Unicode.extendedPictographic
  | extender => Unicode.extender
  | graphemeBase =>
    CharClass.complement
      (control ++ format ++ Category.surrogates ++ privateUse ++ Category.unassigned.chars ++
        lineSeparator ++ paragraphSeparator ++ graphemeExtenders)
  | graphemeExtend => CharClass.ofRanges graphemeExtenders
  | graphemeLink => Unicode.graphemeLink
  | hexDigit => Unicode.hexDigit
  | hyphen => Unicode.hyphen
  | idsBinaryOperator => Unicode.idsBinaryOperator
  | idsTrinaryOperator => Unicode.idsTrinaryOperator
  | idsUnaryOperator => Unicode.idsUnaryOperator
  | idCompatMathContinue => Unicode.idCompatMathContinue
  | idCompatMathStart => Unicode.idCompatMathStart
  | idContinue => identifierChars (identifierStarts ++ identifierParts)
  | idStart => identifierChars identifierStarts
  | ideographic => Unicode.ideographic
  | joinControl => Unicode.joinControl
  | logicalOrderException => Unicode.logicalOrderException
  | lowercase => CharClass.ofRanges smallLetters
  | math => CharClass.ofRanges (mathSymbol ++ Unicode.otherMath)
  | modifierCombiningMark => Unicode.modifierCombiningMark
  | noncharacter => Unicode.noncharacter
  | otherAlphabetic => Unicode.otherAlphabetic
  | otherDefaultIgnorable => Unicode.otherDefaultIgnorable
  | otherGraphemeExtend => Unicode.otherGraphemeExtend
  | otherIdContinue => Unicode.otherIdContinue
  | otherIdStart => Unicode.otherIdStart
  | otherLowercase => Unicode.otherLowercase
  | otherMath => Unicode.otherMath
  | otherUppercase => Unicode.otherUppercase
  | patternSyntax => Unicode.patternSyntax
  | patternWhiteSpace => Unicode.patternWhiteSpace
  | prependedConcatenationMark => Unicode.prependedConcatenationMark
  | quotationMark => Unicode.quotationMark
  | radical => Unicode.radical
  | regionalIndicator => Unicode.regionalIndicator
  | sentenceTerminal => Unicode.sentenceTerminal
  | softDotted => Unicode.softDotted
  | terminalPunctuation => Unicode.terminalPunctuation
  | unifiedIdeograph => Unicode.unifiedIdeograph
  | uppercase => CharClass.ofRanges capitals
  | variationSelector => Unicode.variationSelector
  | whiteSpace => Text.blanks
  | xidContinue =>
    (identifierChars (identifierStarts ++ identifierParts)).difference unstableContinue
  | xidStart => (identifierChars identifierStarts).difference unstableStart

end Property

/-- Whether a character is alphabetic. -/
def isAlphabetic (c : Char) : Bool :=
  CharClass.has Category.letters c || letterNumber.has c || otherAlphabetic.has c

/-- Whether a character is a number or part of one. -/
def isNumeric (c : Char) : Bool := CharClass.has Category.numbers c

end SourceGrade.Unicode
