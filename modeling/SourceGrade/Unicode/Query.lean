import SourceGrade.Unicode.Property
import SourceGrade.Unicode.Script

/-!
# Classes by name

A class of characters is asked for by the name of a property, a category or a script, or by the name
of a property and of one of its values. Capitals, gaps and a leading "is" do not matter in names.
-/

namespace SourceGrade.Unicode

/-- A class that is asked for. -/
inductive Query where
  | named (name : Text)
  | valued (name value : Text)

inductive QueryError where
  | unknownName
  | unknownValue
deriving DecidableEq

namespace Query

/-- A name in small letters and without gaps, letters outside of ASCII and a leading "is". The short
name "isc" is kept. -/
def normalize (name : Text) : Text :=
  let hasIs := (name.take 2).map Char.toLower = ['i', 's']
  let isKept (c : Char) : Bool := c.toNat < 0x80 && c != ' ' && c != '_' && c != '-'
  let kept := ((if hasIs then name.drop 2 else name).filter isKept).map Char.toLower
  if hasIs ∧ kept = ['c'] then ['i', 's', 'c'] else kept

/-- Names of categories that are also short names of properties. The categories go first. -/
def sharedNames : List String := ["cf", "sc", "lc"]

def isAmong (name : Text) (names : List String) : Bool := names.any (·.toList = name)

/-- The category with a name. -/
def category (name : Text) : Except QueryError CharClass :=
  match Category.ofName? name with
  | some category => .ok category.chars
  | none => .error .unknownValue

/-- The script with a name. -/
def script (name : Text) : Except QueryError CharClass :=
  match Script.ofName? name with
  | some cls => .ok cls
  | none => .error .unknownValue

/-- The category or the script with a name. -/
def categoryOrScript (name : Text) : Except QueryError CharClass :=
  match Category.ofName? name, Script.ofName? name with
  | some category, _ => .ok category.chars
  | none, some cls => .ok cls
  | none, none =>
    .error
      (if isAmong name (Category.emptyNames ++ Script.emptyNames) then .unknownValue
      else .unknownName)

/-- The class with a name. -/
def ofName (name : Text) : Except QueryError CharClass :=
  if isAmong name sharedNames then categoryOrScript name
  else
    match Property.ofName? name with
    | some property => .ok property.chars
    | none =>
      if isAmong name Property.otherNames then .error .unknownName else categoryOrScript name

/-- The class of the characters for which a property has a value. -/
def ofValue (name value : Text) : Except QueryError CharClass :=
  if isAmong name ["gc", "generalcategory"] then category value
  else if isAmong name ["sc", "script", "scx", "scriptextensions"] then script value
  else if isAmong name Property.otherNames || (Property.ofName? name).isSome then
    .error .unknownValue
  else .error .unknownName

/-- The answer to a query. -/
def answer : Query → Except QueryError CharClass
  | named name => ofName (normalize name)
  | valued name value => ofValue (normalize name) (normalize value)

end Query

end SourceGrade.Unicode
