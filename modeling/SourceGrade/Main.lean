import SourceGrade.CommandLine.Run

/-!
# The program

Carries a run out on the file system of the machine. What is said, reported and returned is decided
by the library; this module only lists, reads and writes.
-/

namespace SourceGrade.CommandLine

/-- A path as the system takes it. -/
def systemPath (path : Path) : String := String.ofList path.display

/-- The error with a number. Some calls answer with the negated number. -/
def numbered (code : UInt32) : IoError := .os ⟨code.toInt32.toInt.natAbs⟩

/-- The error of the library behind an error of the system. -/
def ioErrorOf : IO.Error → IoError
  | .alreadyExists _ code _ | .interrupted _ code _ | .noFileOrDirectory _ code _
  | .invalidArgument _ code _ | .permissionDenied _ code _ | .resourceExhausted _ code _
  | .inappropriateType _ code _ | .noSuchThing _ code _ | .otherError code _ | .resourceBusy code _
  | .resourceVanished code _ | .unsupportedOperation code _ | .hardwareFault code _
  | .unsatisfiedConstraints code _ | .illegalOperation code _ | .protocolError code _
  | .timeExpired code _ => numbered code
  | .unexpectedEof => .custom "unexpected end of file".toList
  | .userError message => .custom message.toList

/-- The result of an action, or the error that stopped it. -/
def outcomeOf (action : IO α) : IO (Except IoError α) := do
  try return .ok (← action)
  catch e => return .error (ioErrorOf e)

def isDirectory (path : Path) : IO Bool := do
  ((← IO.currentDir) / systemPath path).isDir

def list (directory : Path) : IO (List Entry) := do
  let entries ← ((← IO.currentDir) / systemPath directory).readDir
  entries.toList.mapM fun entry => do
    let kind ←
      match (← entry.path.symlinkMetadata).type with
      | .dir => pure EntryKind.directory
      | .symlink => do
        pure (if ← entry.path.isDir then EntryKind.linkedDirectory else .file)
      | _ => pure .file
    return ⟨Path.ofText entry.fileName.toList, kind⟩

/-- Lists pending directories until none is left. -/
partial def finishWalk (walk : Walk) : IO Walk := do
  match walk.pending with
  | [] => return walk
  | directory :: rest =>
    let walk := { walk with pending := rest }
    match ← outcomeOf (list directory) with
    | .ok entries => finishWalk (walk.visit directory entries)
    | .error e => finishWalk (walk.passOver directory e)

/-- What there is under a root: itself, unless it is a directory. -/
def walkFrom (root : Path) : IO (List WalkEvent) := do
  if ← isDirectory root then
    return (← finishWalk (Walk.visit {} root (← list root))).events
  return [.file root]

def attempt (hint : LanguageHint) (path : Path) : IO Attempt := do
  match ← outcomeOf (IO.FS.readBinFile (systemPath path)) with
  | .ok content => return ⟨path, .ok (.ofText path (Utf8.decode content.toList) hint)⟩
  | .error e => return ⟨path, .error (.io e)⟩

/-- The attempts at files, with so many tasks at a time. -/
partial def attemptAll (workers : Nat) (hint : LanguageHint) (paths : List Path) : IO (List Attempt) := do
  if paths.isEmpty then return []
  let tasks ← (paths.take workers).mapM fun path => IO.asTask (attempt hint path)
  let done ← tasks.mapM fun task => do IO.ofExcept (← IO.wait task)
  return done ++ (← attemptAll workers hint (paths.drop workers))

/-- Discovers and scores the files under the path. -/
def scanFiles (o : Options) : IO Scan := do
  match ← outcomeOf (walkFrom o.path) with
  | .error e => return .failed (.io e)
  | .ok events =>
    let found := Walk.files events
    let paths := if o.sort then Path.sort found else found
    match o.checkWorkers with
    | .error failure => return .ofAttempts o events paths (.error failure)
    | .ok () =>
      return .ofAttempts o events paths (.ok (← attemptAll (max o.jobs 1) (.parse o.lang) paths))

/-- Creates the first of the directories, if it is not there, after those behind it that are missing. -/
def createDirectories : List Path → IO Unit
  | [] => return
  | path :: parents => do
    if path.isEmpty then return
    match ← outcomeOf (IO.FS.createDir (systemPath path)) with
    | .ok () => return
    | .error (.os .notFound) =>
      createDirectories parents
      IO.FS.createDir (systemPath path)
    | .error _ => if !(← isDirectory path) then IO.FS.createDir (systemPath path)

/-- Brings the report to its path or to standard output. -/
def emitReport (o : Options) (report : Text) : IO Unit := do
  match o.reportOutput with
  | none => IO.print (String.ofList report)
  | some path =>
    createDirectories path.parents
    IO.FS.writeBinFile (systemPath path) ⟨(Utf8.encode report).toArray⟩

def sayAll (filter : Log.Filter) (diagnostics : List Diagnostic) : IO Unit :=
  diagnostics.forM fun diagnostic => IO.eprint (String.ofList (diagnostic.render filter))

/-- Scans, reports and writes. Answers with the exit code. -/
def perform (o : Options) (filter : Log.Filter) : IO UInt32 := do
  let conclusion := (← scanFiles o).conclude o
  sayAll filter conclusion.diagnostics
  let fail (failure : Failure) : IO UInt32 := do
    sayAll filter [failure.diagnostic]
    return .ofNat failure.exitCode
  match conclusion.result with
  | .error failure => fail failure
  | .ok (outcome, report) =>
    match ← outcomeOf (emitReport o report) with
    | .error e => fail (.output e)
    | .ok () => do
      sayAll filter [.finished outcome]
      return 0

/-- The variables that the program reads. -/
def readEnvironment : IO Environment := do
  let names := logVariable :: Setting.all.map Setting.variableName
  names.filterMapM fun name => do
    return (← IO.getEnv (String.ofList name)).map fun value => (name, Utf8.encode value.toList)

/-- Runs the program with the given arguments. -/
def runProgram (arguments : List String) : IO UInt32 := do
  let env ← readEnvironment
  match parse env (arguments.map fun argument => Utf8.encode argument.toList) with
  | .error e => do
    IO.eprint (String.ofList ("error: " ++ e.message ++ "\n"))
    return 2
  | .ok .help => do
    IO.print (String.ofList (helpText env))
    return 0
  | .ok .version => do
    IO.print (String.ofList versionText)
    return 0
  | .ok (.scan options) => do
    let (filter, warnings) := logFilter (logSpecification env) options.verbose
    sayAll filter (warnings.map .warning)
    perform options filter

end SourceGrade.CommandLine

def main (arguments : List String) : IO UInt32 := SourceGrade.CommandLine.runProgram arguments
