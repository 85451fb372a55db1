import SourceGrade.Path.Basic
import SourceGrade.Report.Labels

/-!
# Options

What the command line and the environment can ask for, and the names and values of options.
-/

namespace SourceGrade.CommandLine

structure Options where
  path : Path
  lang : Text
  locale : Text
  jobs : Nat
  reportOutput : Option Path
  json : Bool
  markdown : Bool
  summary : Bool
  verbose : Bool
  sort : Bool

/-- The environment variables and their values. -/
abbrev Environment := List (Text × Bytes)

/-- Why a command line is not understood. -/
inductive UsageError where
  | unknownArgument
  | missingPath
  | invalidValue
  | emptyValue
  | repeated
  | unexpectedValue
  | notUtf8
deriving DecidableEq

def UsageError.message : UsageError → Text
  | unknownArgument => "unexpected argument"
  | missingPath => "no path is given"
  | invalidValue => "a value is not a number of 64 bits"
  | emptyValue => "a value is missing or empty"
  | repeated => "an option is given twice"
  | unexpectedValue => "a flag takes no value"
  | notUtf8 => "a value is not UTF-8"

/-- An option without a value. -/
inductive Flag where
  | json
  | markdown
  | summary
  | verbose
  | sort
deriving DecidableEq

/-- An option with a value. -/
inductive Setting where
  | lang
  | locale
  | jobs
  | reportOutput
deriving DecidableEq

/-- Everything that may stand behind one or two dashes. -/
inductive Switch where
  | flag (flag : Flag)
  | setting (setting : Setting)
  | help
  | version
deriving DecidableEq

namespace Switch

def all : List Switch :=
  [setting .lang, flag .json, flag .markdown, flag .summary, flag .verbose, setting .locale,
    setting .jobs, flag .sort, setting .reportOutput, help, version]

def longName : Switch → Text
  | flag .json => "json"
  | flag .markdown => "markdown"
  | flag .summary => "summary"
  | flag .verbose => "verbose"
  | flag .sort => "sort"
  | setting .lang => "lang"
  | setting .locale => "locale"
  | setting .jobs => "jobs"
  | setting .reportOutput => "report-output"
  | help => "help"
  | version => "version"

def shortName? : Switch → Option Char
  | flag .verbose => some 'v'
  | setting .jobs => some 'j'
  | help => some 'h'
  | version => some 'V'
  | _ => none

def ofLong? (name : Bytes) : Option Switch := all.find? (Path.ofText ·.longName = name)

def ofShort? (name : UInt8) : Option Switch :=
  all.find? fun switch => switch.shortName?.any fun c => c.toNat = name.toNat

end Switch

namespace Setting

/-- The settings, in the order in which the environment is asked for them. -/
def all : List Setting := [lang, locale, jobs, reportOutput]

def variableName : Setting → Text
  | lang => "CODEMOUND_LANG"
  | locale => "CODEMOUND_LOCALE"
  | jobs => "CODEMOUND_JOBS"
  | reportOutput => "CODEMOUND_REPORT_OUTPUT"

end Setting

def defaultLang : Text := "auto"

def defaultLocale : Text := Labels.fallback.id

def defaultJobs : Nat := 1

/-- A natural number of 64 bits in decimal digits, with or without a plus sign. -/
def parseCount? (text : Text) : Option Nat :=
  let digits :=
    match text with
    | '+' :: digits => digits
    | digits => digits
  let n := Nat.ofDigitChars 10 digits 0
  if digits ≠ [] ∧ digits.all Char.isDigit ∧ n < UInt64.size then some n else none

/-- What has been asked for so far. -/
structure Given where
  path : Option Path := none
  lang : Option Text := none
  locale : Option Text := none
  jobs : Option Nat := none
  reportOutput : Option Path := none
  flags : List Flag := []

namespace Given

def has (g : Given) : Setting → Bool
  | .lang => g.lang.isSome
  | .locale => g.locale.isSome
  | .jobs => g.jobs.isSome
  | .reportOutput => g.reportOutput.isSome

def text (value : Bytes) : Except UsageError Text :=
  match Utf8.decode? value with
  | some text => .ok text
  | none => .error .notUtf8

def nonempty (value : Bytes) : Except UsageError Path :=
  if value.isEmpty then .error .emptyValue else .ok value

/-- Gives a setting its value. -/
def set (g : Given) (setting : Setting) (value : Bytes) : Except UsageError Given :=
  match setting with
  | .lang => do return { g with lang := some (← text value) }
  | .locale => do return { g with locale := some (← text value) }
  | .jobs => do
    match parseCount? (← text value) with
    | some jobs => return { g with jobs := some jobs }
    | none => .error .invalidValue
  | .reportOutput => do return { g with reportOutput := some (← nonempty value) }

/-- Fills the settings that are not there from their variables, in order. -/
def fromEnvironment (g : Given) (env : Environment) : Except UsageError Given :=
  Setting.all.foldlM (fun g setting =>
    match env.lookup setting.variableName with
    | some value => if g.has setting then .ok g else g.set setting value
    | none => .ok g) g

/-- The options, with defaults for what is not given. Only the path is required. -/
def options (g : Given) : Except UsageError Options :=
  match g.path with
  | none => .error .missingPath
  | some path =>
    .ok
      { path
        lang := g.lang.getD defaultLang
        locale := g.locale.getD defaultLocale
        jobs := g.jobs.getD defaultJobs
        reportOutput := g.reportOutput
        json := g.flags.contains .json
        markdown := g.flags.contains .markdown
        summary := g.flags.contains .summary
        verbose := g.flags.contains .verbose
        sort := g.flags.contains .sort }

end Given

end SourceGrade.CommandLine
