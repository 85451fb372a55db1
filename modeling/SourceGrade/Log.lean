import SourceGrade.Regex.Compile

/-!
# The log

A log record has a level, a target and a message. A filter decides which records are written: of its
directives the one with the longest name that the target starts with says up to which level, and a
regular expression may say what the message has to match.
-/

namespace SourceGrade.Log

inductive Level where
  | error
  | warn
  | info
  | debug
  | trace
deriving DecidableEq

namespace Level

/-- Higher is less severe. -/
def rank : Level → Nat
  | error => 1
  | warn => 2
  | info => 3
  | debug => 4
  | trace => 5

def name : Level → Text
  | error => "ERROR"
  | warn => "WARN"
  | info => "INFO"
  | debug => "DEBUG"
  | trace => "TRACE"

def all : List Level := [error, warn, info, debug, trace]

end Level

structure Record where
  level : Level
  target : Text
  message : Text
deriving DecidableEq

/-- The record as it is written. Names of levels are padded to five characters, and further lines of
the message are indented by four. -/
def Record.line (r : Record) : Text :=
  let padding := List.replicate (5 - r.level.name.length) ' '
  let indent (c : Char) : Text := if c = '\n' then "\n    " else [c]
  "[" ++ r.level.name ++ padding ++ " " ++ r.target ++ "] " ++ r.message.flatMap indent ++ "\n"

/-- The least severe level that is written, if any is. -/
abbrev Threshold := Option Level

/-- The threshold that a word names, in upper or lower case. -/
def Threshold.ofName? (word : Text) : Option Threshold :=
  let word := word.map Char.toUpper
  if word = ("OFF" : Text) then some none else some <$> Level.all.find? (·.name = word)

/-- A threshold for the targets with a certain beginning; the empty one stands for all. -/
structure Directive where
  target : Text
  threshold : Threshold
deriving DecidableEq

structure Filter where
  directives : List Directive
  /-- What a part of the message must match. -/
  content : Option Regex := none

namespace Filter

def ignored (part : Text) : Text := "warning: invalid logging spec '" ++ part ++ "', ignoring it"

/-- The directive that a part of a specification stands for, or the warning that it stands for none. A
lone name lets everything through, a lone level holds for all targets. -/
def directive (part : Text) : Except Text Directive :=
  match pieces '=' part with
  | [word] =>
    match Threshold.ofName? word with
    | some threshold => .ok ⟨[], threshold⟩
    | none => .ok ⟨word, some .trace⟩
  | [name, level] =>
    let level := Text.trim level
    if level.isEmpty then .ok ⟨name, some .trace⟩
    else
      match Threshold.ofName? level with
      | some threshold => .ok ⟨name, threshold⟩
      | none => .error (ignored level)
  | _ => .error (ignored part)

/-- Reads the parts of a specification, from left to right. -/
def readDirectives (spec : Text) : List (Except Text Directive) :=
  let parts := (pieces ',' spec).map Text.trim
  (parts.filter (!·.isEmpty)).map directive

/-- A later directive for the same targets replaces an earlier one. -/
def insert (directives : List Directive) (d : Directive) : List Directive :=
  directives.filter (·.target ≠ d.target) ++ [d]

/-- Without any directive only errors are written. -/
def ofDirectives (directives : List Directive) (content : Option Regex) : Filter where
  directives := if directives.isEmpty then [⟨[], some .error⟩] else directives.foldl insert []
  content

/-- The regular expression for messages, unless there is something wrong with it. -/
def readContent (pattern : Text) : Except Text Regex :=
  match Regex.ofText pattern with
  | .ok r => .ok r
  | .error e => .error ("warning: invalid regex filter - " ++ e.message)

def warnings (results : List (Except Text α)) : List Text :=
  results.filterMap fun
    | .error warning => some warning
    | .ok _ => none

/-- The filter that a specification describes, and warnings about the parts that are ignored. -/
def parse (spec : Text) : Filter × List Text :=
  let read (spec : Text) (content : Option (Except Text Regex)) : Filter × List Text :=
    let parts := readDirectives spec
    (ofDirectives (parts.filterMap (·.toOption)) (content.bind (·.toOption)),
      warnings parts ++ warnings content.toList)
  match pieces '/' spec with
  | [spec] => read spec none
  | [spec, pattern] => read spec (some (readContent pattern))
  | _ =>
    (ofDirectives [] none,
      ["warning: invalid logging spec '" ++ spec ++ "', ignoring it (too many '/'s)"])

/-- The directives by the length of their target, the longest first. -/
def ranked (f : Filter) : List Directive :=
  f.directives.mergeSort fun d e => decide (e.target.length ≤ d.target.length)

def allows (f : Filter) (r : Record) : Bool :=
  match f.ranked.find? (·.target.isPrefixOf r.target) with
  | some d => d.threshold.any (r.level.rank ≤ ·.rank) && f.content.all (·.isMatch r.message)
  | none => false

end Filter

end SourceGrade.Log
