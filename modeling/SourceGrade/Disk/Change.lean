import SourceGrade.Disk.Resolution

/-!
# Changing a disk

Directories are created, and files are created or overwritten.
-/

namespace SourceGrade.Disk

def put (disk : Disk) (place : Place) (node : Node) : Disk :=
  { disk with root := Node.put node place disk.root }

/-- The segments up to the last one that is not empty, and that one. -/
def splitLast? (segments : List Bytes) : Option (List Bytes × Bytes) :=
  match segments.reverse.dropWhile (· = []) with
  | [] => none
  | last :: before => some (before.reverse, last)

/-- The place of the directory that the segments lead to; a lone dot asks for a directory. -/
def directoryAt (disk : Disk) (start : Place) (segments : List Bytes) : Except IoError Place :=
  match disk.resolve .use maxLinks start (segments ++ [[Path.dot]]) with
  | .ok (.found place) => .ok place
  | .ok (.missing ..) => .error (.os .notFound)
  | .error e => .error (.os e)

/-- Creates one directory. Nothing may be there, not even a link. -/
def createDirectory (disk : Disk) (path : Path) : Except IoError Disk := do
  check path
  let (start, segments) := disk.locate path
  match splitLast? segments with
  | none => .error (.os .alreadyExists)
  | some (before, last) => do
    let parent ← disk.directoryAt start before
    match Path.Component.ofSegment? last with
    | some (.name name) =>
      if maxNameLength < name.length then .error (.os .nameTooLong)
      else if (disk.node? (parent ++ [name])).isSome then .error (.os .alreadyExists)
      else .ok (disk.put (parent ++ [name]) (.directory [] true))
    | _ => .error (.os .alreadyExists)

/-- A disk behind a change that may have stopped half-way. -/
structure Changed where
  disk : Disk
  error : Option IoError := none

/-- Creates the first of the directories, if it is not there, after those behind it that are missing:
each path is followed by its parents, the nearest first. -/
def createDirectories (disk : Disk) : List Path → Changed
  | [] => { disk }
  | path :: parents =>
    if path = [] then { disk }
    else
      match disk.createDirectory path with
      | .ok disk => { disk }
      | .error (.os .notFound) =>
        let above := disk.createDirectories parents
        if above.error.isSome then above
        else
          match above.disk.createDirectory path with
          | .ok disk => { disk }
          | .error e =>
            if above.disk.isDirectory path then above else { disk := above.disk, error := some e }
      | .error e => if disk.isDirectory path then { disk } else { disk, error := some e }

/-- Overwrites or creates a file. One that is overwritten keeps its permissions. -/
def writeFile (disk : Disk) (path : Path) (content : Bytes) : Except IoError Disk := do
  match ← disk.target .writing path with
  | .missing parent name => .ok (disk.put (parent ++ [name]) (.file content))
  | .found place =>
    match disk.node? place with
    | some (.file _ permissions) =>
      if permissions.writable then .ok (disk.put place (.file content permissions))
      else .error (.os .permissionDenied)
    | _ => .error (.os .isADirectory)

/-- Writes a file after creating the directories of its path that are missing. -/
def writeReport (disk : Disk) (path : Path) (content : Bytes) : Changed :=
  let prepared := disk.createDirectories path.parents
  if prepared.error.isSome then prepared
  else
    match prepared.disk.writeFile path content with
    | .ok disk => { disk }
    | .error e => { disk := prepared.disk, error := some e }

/-- Puts a node under a name into a directory: a file where the name leads to, a directory unless
something is there. -/
def plantIn (disk : Disk) (place : Place) (name : Bytes) (node : Node) : Disk :=
  let here := place ++ [name]
  match node with
  | .link _ => disk.put here node
  | .directory .. => if (disk.node? here).isSome then disk else disk.put here node
  | .file .. =>
    match disk.resolve .use maxLinks place [name] with
    | .ok (.found place) => disk.put place node
    | .ok (.missing parent name) => disk.put (parent ++ [name]) node
    | .error _ => disk

/-- Goes through the segments from a place, creating directories on the way, and plants a node at
the last one. -/
def plantAt (disk : Disk) (node : Node) (place : Place) : List Bytes → Disk
  | [] => disk
  | segment :: rest =>
    match Path.Component.ofSegment? segment with
    | some (.name name) =>
      if rest.all (·.isEmpty) then disk.plantIn place name node
      else
        match disk.resolve .use maxLinks place [name] with
        | .ok (.found found) => plantAt disk node found rest
        | _ =>
          let here := place ++ [name]
          plantAt (disk.put here (.directory [] true)) node here rest
    | some .parent => plantAt disk node place.dropLast rest
    | _ => plantAt disk node place rest

/-- Puts a node at a path of any length, together with the directories on the way. -/
def plant (disk : Disk) (path : Path) (node : Node) : Disk :=
  disk.plantAt node (startOf disk.workingDirectory path) path.segments

end SourceGrade.Disk
