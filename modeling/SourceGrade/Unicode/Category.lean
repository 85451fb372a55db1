import SourceGrade.Unicode.Letter
import SourceGrade.Unicode.Mark
import SourceGrade.Unicode.Number
import SourceGrade.Unicode.Punctuation
import SourceGrade.Unicode.Separator
import SourceGrade.Unicode.Symbol

/-!
# General categories

Every character belongs to one category, and every category to a group of categories.
-/

namespace SourceGrade.Unicode

inductive Category where
  | any
  | ascii
  | assigned
  | letter
  | casedLetter
  | uppercaseLetter
  | lowercaseLetter
  | titlecaseLetter
  | modifierLetter
  | otherLetter
  | mark
  | nonspacingMark
  | spacingMark
  | enclosingMark
  | number
  | decimalNumber
  | letterNumber
  | otherNumber
  | punctuation
  | connectorPunctuation
  | dashPunctuation
  | openPunctuation
  | closePunctuation
  | initialPunctuation
  | finalPunctuation
  | otherPunctuation
  | symbol
  | mathSymbol
  | currencySymbol
  | modifierSymbol
  | otherSymbol
  | separator
  | spaceSeparator
  | lineSeparator
  | paragraphSeparator
  | other
  | control
  | format
  | privateUse
  | unassigned
deriving DecidableEq

namespace Category

/-- The names of the categories, in small letters and without gaps. -/
def names : List (Category × List String) :=
  [(any, ["any"]), (ascii, ["ascii"]), (assigned, ["assigned"]),
    (letter, ["l", "letter"]), (casedLetter, ["lc", "casedletter"]),
    (uppercaseLetter, ["lu", "uppercaseletter"]), (lowercaseLetter, ["ll", "lowercaseletter"]),
    (titlecaseLetter, ["lt", "titlecaseletter"]), (modifierLetter, ["lm", "modifierletter"]),
    (otherLetter, ["lo", "otherletter"]),
    (mark, ["m", "mark", "combiningmark"]), (nonspacingMark, ["mn", "nonspacingmark"]),
    (spacingMark, ["mc", "spacingmark"]), (enclosingMark, ["me", "enclosingmark"]),
    (number, ["n", "number"]), (decimalNumber, ["nd", "decimalnumber", "digit"]),
    (letterNumber, ["nl", "letternumber"]), (otherNumber, ["no", "othernumber"]),
    (punctuation, ["p", "punctuation", "punct"]),
    (connectorPunctuation, ["pc", "connectorpunctuation"]),
    (dashPunctuation, ["pd", "dashpunctuation"]), (openPunctuation, ["ps", "openpunctuation"]),
    (closePunctuation, ["pe", "closepunctuation"]),
    (initialPunctuation, ["pi", "initialpunctuation"]),
    (finalPunctuation, ["pf", "finalpunctuation"]),
    (otherPunctuation, ["po", "otherpunctuation"]),
    (symbol, ["s", "symbol"]), (mathSymbol, ["sm", "mathsymbol"]),
    (currencySymbol, ["sc", "currencysymbol"]), (modifierSymbol, ["sk", "modifiersymbol"]),
    (otherSymbol, ["so", "othersymbol"]),
    (separator, ["z", "separator"]), (spaceSeparator, ["zs", "spaceseparator"]),
    (lineSeparator, ["zl", "lineseparator"]),
    (paragraphSeparator, ["zp", "paragraphseparator"]),
    (other, ["c", "other"]), (control, ["cc", "control", "cntrl"]), (format, ["cf", "format"]),
    (privateUse, ["co", "privateuse"]), (unassigned, ["cn", "unassigned"])]

/-- Names of categories that no character belongs to. -/
def emptyNames : List String := ["cs", "surrogate"]

def ofName? (name : Text) : Option Category :=
  (names.find? fun (_, names) => names.any (·.toList = name)).map (·.1)

def letters : CharClass :=
  Unicode.uppercaseLetter ++ Unicode.lowercaseLetter ++ Unicode.titlecaseLetter ++
    Unicode.modifierLetter ++ Unicode.otherLetter

def marks : CharClass := Unicode.nonspacingMark ++ Unicode.spacingMark ++ Unicode.enclosingMark

def numbers : CharClass := Unicode.decimalNumber ++ Unicode.letterNumber ++ Unicode.otherNumber

def punctuations : CharClass :=
  Unicode.connectorPunctuation ++ Unicode.dashPunctuation ++ Unicode.openPunctuation ++
    Unicode.closePunctuation ++ Unicode.initialPunctuation ++ Unicode.finalPunctuation ++
    Unicode.otherPunctuation

def symbols : CharClass :=
  Unicode.mathSymbol ++ Unicode.currencySymbol ++ Unicode.modifierSymbol ++ Unicode.otherSymbol

def separators : CharClass :=
  Unicode.spaceSeparator ++ Unicode.lineSeparator ++ Unicode.paragraphSeparator

/-- The code points that stand for halves of characters. -/
def surrogates : CharClass := [(0xD800, 0xDFFF)]

/-- All characters with a category of their own but unassigned ones. -/
def assignedRanges : CharClass :=
  letters ++ marks ++ numbers ++ punctuations ++ symbols ++ separators ++ Unicode.control ++
    Unicode.format ++ Unicode.privateUse

/-- The characters of a category. -/
def chars : Category → CharClass
  | any => [(0, CharClass.lastCodePoint)]
  | ascii => [(0, 0x7F)]
  | assigned => CharClass.ofRanges assignedRanges
  | letter => CharClass.ofRanges letters
  | casedLetter =>
    CharClass.ofRanges
      (Unicode.uppercaseLetter ++ Unicode.lowercaseLetter ++ Unicode.titlecaseLetter)
  | uppercaseLetter => Unicode.uppercaseLetter
  | lowercaseLetter => Unicode.lowercaseLetter
  | titlecaseLetter => Unicode.titlecaseLetter
  | modifierLetter => Unicode.modifierLetter
  | otherLetter => Unicode.otherLetter
  | mark => CharClass.ofRanges marks
  | nonspacingMark => Unicode.nonspacingMark
  | spacingMark => Unicode.spacingMark
  | enclosingMark => Unicode.enclosingMark
  | number => CharClass.ofRanges numbers
  | decimalNumber => Unicode.decimalNumber
  | letterNumber => Unicode.letterNumber
  | otherNumber => Unicode.otherNumber
  | punctuation => CharClass.ofRanges punctuations
  | connectorPunctuation => Unicode.connectorPunctuation
  | dashPunctuation => Unicode.dashPunctuation
  | openPunctuation => Unicode.openPunctuation
  | closePunctuation => Unicode.closePunctuation
  | initialPunctuation => Unicode.initialPunctuation
  | finalPunctuation => Unicode.finalPunctuation
  | otherPunctuation => Unicode.otherPunctuation
  | symbol => CharClass.ofRanges symbols
  | mathSymbol => Unicode.mathSymbol
  | currencySymbol => Unicode.currencySymbol
  | modifierSymbol => Unicode.modifierSymbol
  | otherSymbol => Unicode.otherSymbol
  | separator => CharClass.ofRanges separators
  | spaceSeparator => Unicode.spaceSeparator
  | lineSeparator => Unicode.lineSeparator
  | paragraphSeparator => Unicode.paragraphSeparator
  | other =>
    CharClass.complement
      (letters ++ marks ++ numbers ++ punctuations ++ symbols ++ separators ++ surrogates)
  | control => Unicode.control
  | format => Unicode.format
  | privateUse => Unicode.privateUse
  | unassigned => CharClass.complement (assignedRanges ++ surrogates)

end Category

end SourceGrade.Unicode
