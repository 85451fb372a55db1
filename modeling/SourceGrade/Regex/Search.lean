import SourceGrade.Regex.Basic

/-!
# Searching

A search follows all ways to match at the same time: from a set of places of the text it goes on to
the set of places that a match from one of them can end at.
-/

namespace SourceGrade.Regex

/-- A set of places: a mark for each place between the characters of a text and at its ends. -/
abbrev Marks := List Bool

namespace Marks

def union (a b : Marks) : Marks := List.zipWith (· || ·) a b

/-- Every place of a text. -/
def full (text : Text) : Marks := List.replicate (text.length + 1) true

def isEmpty (marks : Marks) : Bool := marks.all (!·)

end Marks

/-- Each place of a text as the characters in front of it and behind it. -/
def places (before : Option Char) : Text → List (Option Char × Option Char)
  | [] => [(before, none)]
  | c :: rest => (before, some c) :: places (some c) rest

/-- So many steps, or fewer if they lead nowhere or nowhere else. -/
def steps (step : Marks → Marks) : (count : Nat) → Marks → Marks
  | 0, marks => marks
  | count + 1, marks =>
    if marks.isEmpty then marks
    else
      let next := step marks
      if next = marks then marks else steps step count next

/-- All places that up to so many steps lead to. -/
def reach (step : Marks → Marks) (count : Nat) (marks : Marks) : Marks :=
  steps (fun marks => marks.union (step marks)) count marks

/-- The ends of the matches that begin at a marked place. -/
def ends (text : Text) : Regex → Marks → Marks
  | empty, marks => marks
  | anyOf cls, marks => false :: List.zipWith (fun marked c => marked && cls.has c) marks text
  | look l, marks =>
    List.zipWith (fun marked (before, behind) => marked && l.holds before behind) marks
      (places none text)
  | append first second, marks => second.ends text (first.ends text marks)
  | either first second, marks => (first.ends text marks).union (second.ends text marks)
  | repeated body least most, marks =>
    let more := (most.map (· - least)).getD (text.length + 1)
    reach (body.ends text) more (steps (body.ends text) least marks)
  | captured body, marks => body.ends text marks

/-- Whether some part of a text matches. -/
def isMatch (r : Regex) (text : Text) : Bool := !(r.ends text (Marks.full text)).isEmpty

end SourceGrade.Regex
