import SourceGrade.Unicode.ScriptsAToG
import SourceGrade.Unicode.ScriptsHToO
import SourceGrade.Unicode.ScriptsPToZ

/-!
# Scripts

A script is known by its names, in small letters and without gaps.
-/

namespace SourceGrade.Unicode.Script

def all : List (List String × CharClass) := scriptsAToG ++ scriptsHToO ++ scriptsPToZ

/-- Names of scripts that no character belongs to. -/
def emptyNames : List String := ["zzzz", "unknown", "hrkt", "katakanaorhiragana"]

def ofName? (name : Text) : Option CharClass :=
  (all.find? fun (names, _) => names.any (·.toList = name)).map (·.2)

end SourceGrade.Unicode.Script
