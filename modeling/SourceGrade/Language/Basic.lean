import SourceGrade.Text.Basic

/-!
# Languages

A language is known by its tag. A tag outside the known ones names a language of its own.
-/

namespace SourceGrade

inductive Language where
  | python
  | java
  | swift
  | objC
  | dart
  | cpp
  | c
  | js
  | ts
  | go
  | unknown
  | other (tag : Text)
deriving DecidableEq

namespace Language

def tag : Language → Text
  | python => "python"
  | java => "java"
  | swift => "swift"
  | objC => "objc"
  | dart => "dart"
  | cpp => "cpp"
  | c => "c"
  | js => "js"
  | ts => "ts"
  | go => "go"
  | unknown => "unknown"
  | other tag => tag

/-- Every language with a tag of its own. -/
def known : List Language := [python, java, swift, objC, dart, cpp, c, js, ts, go, unknown]

def ofTag (tag : Text) : Language := (known.find? (·.tag = tag)).getD (.other tag)

theorem tag_ofTag (tag : Text) : (ofTag tag).tag = tag := by
  unfold ofTag
  cases h : known.find? (·.tag = tag) with
  | none => rfl
  | some language => simpa using List.find?_some h

end Language

/-- Which language a text is scored under: the one detected, or the one given. -/
inductive LanguageHint where
  | auto
  | explicit (language : Language)
deriving DecidableEq

/-- The word `auto` asks for detection; any other word is a tag. -/
def LanguageHint.parse (word : Text) : LanguageHint :=
  if word = ("auto" : Text) then .auto else .explicit (.ofTag word)

end SourceGrade
