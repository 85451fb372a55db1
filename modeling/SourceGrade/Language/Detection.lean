import SourceGrade.Language.Basic
import SourceGrade.Path.Basic

/-!
# Language detection

The extension of the file name decides where it is known. Otherwise the first language of the
keyword table with a keyword in the text is taken, so that the order of the table matters.
-/

namespace SourceGrade.Language

def extensions : List (Text × Language) :=
  [("py", python), ("java", java), ("swift", swift), ("m", objC), ("mm", objC), ("dart", dart),
    ("cpp", cpp), ("cc", cpp), ("c", c), ("js", js), ("ts", ts), ("go", go)]

def keywords : List (Language × List Text) :=
  [(python, ["def ", "class ", "import "]),
    (java, ["class ", "public ", "void "]),
    (swift, ["func ", "class ", "import "]),
    (objC, ["@interface", "@implementation"]),
    (dart, ["class ", "import ", "void "]),
    (cpp, ["#include", "int main", "class "]),
    (c, ["#include", "int main"]),
    (js, ["function ", "class ", "import "]),
    (ts, ["function ", "class ", "import ", "interface"]),
    (go, ["package ", "func ", "import "])]

/-- The language that the extension of a path stands for; case matters. -/
def ofPath? (p : Path) : Option Language := do
  let ext ← Utf8.decode? (← p.extension?)
  extensions.lookup ext

/-- The first language of the table with a keyword in the text. -/
def ofContent (text : Text) : Language :=
  match keywords.find? (fun (_, words) => words.any text.contains) with
  | some (language, _) => language
  | none => unknown

def detect (text : Text) (fileName : Option Path) : Language :=
  (fileName.bind ofPath?).getD (ofContent text)

end SourceGrade.Language

namespace SourceGrade.LanguageHint

/-- The language that a text is scored under. -/
def choose (hint : LanguageHint) (text : Text) (fileName : Option Path) : Language :=
  match hint with
  | .auto => Language.detect text fileName
  | .explicit language => language

end SourceGrade.LanguageHint
