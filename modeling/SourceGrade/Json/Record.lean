import SourceGrade.Json.Reader

/-!
# Reading records

A record has fields of known names and kinds. It is written as an object, whose members come in any
order and may include unknown ones, or as an array of the fields in order.
-/

namespace SourceGrade.Json

inductive FieldKind where
  /-- A natural number below a bound. -/
  | count (bound : Nat)
  | number
  | flag
  | texts

inductive FieldValue where
  | count (n : Nat)
  | number (x : Binary64)
  | flag (value : Bool)
  | texts (texts : List Text)

def readCount (bound : Nat) : Reader Nat := fun text =>
  match skipSpace text with
  | '-' :: rest =>
    match readNumber true rest with
    | .ok _ => .error .mismatch
    | .error e => .error e
  | text =>
    if text.head?.any Char.isDigit then
      match readNumber false text with
      | .ok (.natural n, rest) => if n < bound then .ok (n, rest) else .error .mismatch
      | .ok _ => .error .mismatch
      | .error e => .error e
    else .error (wrongKind text)

def Number.toDouble : Number → Binary64
  | natural n => .ofNat n
  | negative n => (Binary64.ofNat n).neg
  | double x => x

def readDouble : Reader Binary64 := fun text =>
  match skipSpace text with
  | '-' :: rest => Prod.map Number.toDouble id <$> readNumber true rest
  | text =>
    if text.head?.any Char.isDigit then Prod.map Number.toDouble id <$> readNumber false text
    else .error (wrongKind text)

def readFlag : Reader Bool := fun text =>
  match skipSpace text with
  | 't' :: rest => (fun (_, rest) => (true, rest)) <$> readWord "rue" rest
  | 'f' :: rest => (fun (_, rest) => (false, rest)) <$> readWord "alse" rest
  | text => .error (wrongKind text)

def readText : Reader Text := fun text =>
  match skipSpace text with
  | '"' :: rest => readString rest
  | text => .error (wrongKind text)

def readTexts : Reader (List Text) := fun text =>
  match skipSpace text with
  | '[' :: rest =>
    let item (texts : List Text) : Reader (List Text) := fun rest =>
      Prod.map (· :: texts) id <$> readText rest
    Prod.map List.reverse id <$> foldItems ']' item rest.length [] rest
  | text => .error (wrongKind text)

def FieldKind.read : FieldKind → Reader FieldValue
  | count bound => fun text => Prod.map .count id <$> readCount bound text
  | number => fun text => Prod.map .number id <$> readDouble text
  | flag => fun text => Prod.map .flag id <$> readFlag text
  | texts => fun text => Prod.map .texts id <$> readTexts text

/-- The names and kinds of a record's fields, in order. -/
abbrev Fields := List (Text × FieldKind)

/-- Reads the colon behind a name. -/
def readColon : Reader Unit := fun text =>
  match skipSpace text with
  | ':' :: rest => .ok ((), rest)
  | rest => .error (.missing rest)

/-- Reads one member of an object and adds it to the fields found so far. A field that is there
already is refused before its value is looked at, and an unknown one is passed over. -/
def readMember (fields : Fields) (fuel : Nat) (found : List (Text × FieldValue)) :
    Reader (List (Text × FieldValue)) := fun text =>
  match skipSpace text with
  | '"' :: rest => do
    let (name, rest) ← readString rest
    match fields.lookup name with
    | none => do
      let ((), rest) ← readColon rest
      let ((), rest) ← skipValue fuel rest
      return (found, rest)
    | some kind =>
      if (found.lookup name).isSome then .error .mismatch
      else do
        let ((), rest) ← readColon rest
        let (value, rest) ← kind.read rest
        return ((name, value) :: found, rest)
  | rest => .error (.missing rest)

/-- Reads the members of a record behind the opening brace. -/
def readMembers (fields : Fields) : Reader (List FieldValue) := fun text => do
  let (found, rest) ← foldItems '\x7d' (readMember fields text.length) text.length [] text
  match fields.mapM fun (name, _) => found.lookup name with
  | some values => .ok (values, rest)
  | none => .error .mismatch

/-- Reads the fields of a record behind the opening bracket of an array, up to the closing one. -/
def readElements (first : Bool) : Fields → Reader (List FieldValue)
  | [], text =>
    match skipSpace text with
    | ']' :: rest => .ok ([], rest)
    | rest => .error (.missing rest)
  | (_, kind) :: fields, text =>
    match skipSpace text with
    | [] => .error .truncated
    | ']' :: _ => .error .mismatch
    | c :: rest =>
      if !first && c != ',' then .error .malformed
      else do
        let (value, rest) ← kind.read (if first then c :: rest else rest)
        let (values, rest) ← readElements false fields rest
        return (value :: values, rest)

def readRecord (fields : Fields) : Reader (List FieldValue) := fun text =>
  match skipSpace text with
  | '\x7b' :: rest => readMembers fields rest
  | '[' :: rest => readElements true fields rest
  | text => .error (wrongKind text)

/-- Reads a whole text; nothing but space may follow the value. -/
def readAll (reader : Reader α) (text : Text) : Except ReadError α := do
  let (value, rest) ← reader text
  if (skipSpace rest).isEmpty then return value else .error .malformed

end SourceGrade.Json
