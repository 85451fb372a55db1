import SourceGrade.CommandLine.Options

/-!
# Arguments

Arguments are read from left to right. A setting whose value is an argument of its own, and the path,
wait until the next known argument or the end before they are looked at; a value attached to its
option is looked at once. Two dashes make paths of all arguments behind them.
-/

namespace SourceGrade.CommandLine

inductive Request where
  | scan (options : Options)
  | help
  | version

/-- What ends the reading of arguments early. -/
inductive Stop where
  | usage (error : UsageError)
  | help
  | version
deriving DecidableEq

/-- An argument that has not been looked at. -/
inductive Pending where
  | setting (setting : Setting) (value : Option Bytes)
  | path (path : Bytes)

structure Reading where
  given : Given := {}
  pending : Option Pending := none
  /-- Whether the two dashes have been met. -/
  onlyPaths : Bool := false

namespace Reading

def dash : UInt8 := 0x2D

def equals : UInt8 := 0x3D

def fail (error : UsageError) : Except Stop α := .error (.usage error)

/-- Gives a setting its value, once. -/
def assign (r : Reading) (setting : Setting) (value : Bytes) : Except Stop Reading :=
  if r.given.has setting then fail .repeated
  else
    match r.given.set setting value with
    | .ok given => .ok { r with given }
    | .error e => fail e

/-- Looks at the argument that waits. -/
def settle (r : Reading) : Except Stop Reading :=
  let settled := { r with pending := none }
  match r.pending with
  | none => .ok settled
  | some (.setting _ none) => fail .emptyValue
  | some (.setting setting (some value)) => settled.assign setting value
  | some (.path path) =>
    match Given.nonempty path with
    | .ok path => .ok { settled with given := { settled.given with path := some path } }
    | .error e => fail e

def addFlag (r : Reading) (flag : Flag) : Except Stop Reading :=
  if r.given.flags.contains flag then fail .repeated
  else .ok { r with given := { r.given with flags := r.given.flags ++ [flag] } }

/-- Meets an option without a value. -/
def meet (r : Reading) : Switch → Except Stop Reading
  | .help => do
    let _ ← r.settle
    .error .help
  | .version => do
    let _ ← r.settle
    .error .version
  | .flag flag => do (← r.settle).addFlag flag
  | .setting setting => do return { ← r.settle with pending := some (.setting setting none) }

/-- Meets an option with a value attached to it. Only settings have values. -/
def meetWith (r : Reading) (value : Bytes) : Switch → Except Stop Reading
  | .setting setting => do (← r.settle).assign setting value
  | _ => fail .unexpectedValue

/-- Reads what follows two dashes. -/
def readLong (r : Reading) (argument : Bytes) : Except Stop Reading :=
  let name := argument.takeWhile (· ≠ equals)
  match Switch.ofLong? name with
  | none => fail .unknownArgument
  | some switch =>
    match argument.drop name.length with
    | [] => r.meet switch
    | _ :: value => r.meetWith value switch

/-- Reads what follows one dash: options of one letter, of which a setting takes the rest for its
value, with or without an equals sign in front. -/
def readShort (r : Reading) : Bytes → Except Stop Reading
  | [] => .ok r
  | letter :: rest =>
    match Switch.ofShort? letter with
    | none => fail .unknownArgument
    | some (.setting setting) =>
      match rest with
      | [] => r.meet (.setting setting)
      | b :: value => r.meetWith (if b = equals then value else rest) (.setting setting)
    | some switch => do (← r.meet switch).readShort rest

/-- Whether a setting waits for its value. -/
def wantsValue (r : Reading) : Option Setting :=
  match r.pending with
  | some (.setting setting none) => some setting
  | _ => none

/-- Takes an argument for the path, of which there is only one. -/
def readPath (r : Reading) (argument : Bytes) : Except Stop Reading :=
  match r.given.path, r.pending with
  | some _, _ | _, some (.path _) => fail .unknownArgument
  | none, _ => do return { ← r.settle with pending := some (.path argument) }

/-- Reads an argument that is no option. -/
def readPlain (r : Reading) (argument : Bytes) : Except Stop Reading :=
  match r.wantsValue with
  | some setting => .ok { r with pending := some (.setting setting (some argument)) }
  | none => r.readPath argument

def read (r : Reading) (argument : Bytes) : Except Stop Reading :=
  if r.onlyPaths then r.readPath argument
  else
    match argument with
    | first :: second :: rest =>
      if first = dash ∧ second = dash then
        if rest = [] then .ok { r with onlyPaths := true } else r.readLong rest
      else if first = dash then r.readShort (second :: rest)
      else r.readPlain argument
    | _ => r.readPlain argument

end Reading

/-- What the arguments ask for, where the environment fills in the settings that they do not give. -/
def parse (env : Environment) (arguments : List Bytes) : Except UsageError Request :=
  match arguments.foldlM Reading.read {} >>= Reading.settle with
  | .error .help => .ok .help
  | .error .version => .ok .version
  | .error (.usage e) => .error e
  | .ok reading => do
    let given ← reading.given.fromEnvironment env
    return .scan (← given.options)

end SourceGrade.CommandLine
