import SourceGrade.Binary64.Arithmetic
import SourceGrade.Text.Utf8

/-!
# Reading JSON

A reader takes what it needs from the front of a text and leaves the rest. The first fault that it
meets decides the error: the text is malformed there, it ends too soon, or it holds a well-formed
value of the wrong kind.
-/

namespace SourceGrade.Json

inductive ReadError where
  | malformed
  | mismatch
  | truncated
deriving DecidableEq

abbrev Reader (α : Type) := Text → Except ReadError (α × Text)

def isSpace (c : Char) : Bool := c == ' ' || c == '\n' || c == '\t' || c == '\r'

def skipSpace (text : Text) : Text := text.dropWhile isSpace

/-- Reads the characters of a word. -/
def readWord : (word : Text) → Reader Unit
  | [], text => .ok ((), text)
  | _ :: _, [] => .error .truncated
  | w :: word, c :: text => if c = w then readWord word text else .error .malformed

/-- The error where a character is wanted and another one, or none, is found. -/
def ReadError.missing (rest : Text) : ReadError := if rest.isEmpty then truncated else malformed

/-! ## Numbers -/

/-- A natural number of 64 bits, the opposite of one from 1 to 2 ^ 63, or a double. -/
inductive Number where
  | natural (n : Nat)
  | negative (n : Nat)
  | double (x : Binary64)
deriving DecidableEq

/-- Appends digits to a significand as long as it fits 64 bits; the digits left over come second. -/
def absorb (significand : Nat) : Text → Nat × Text
  | [] => (significand, [])
  | d :: digits =>
    let next := significand * 10 + (d.toNat - '0'.toNat)
    if next < UInt64.size then absorb next digits else (significand, d :: digits)

/-- The largest power of ten that is taken in one step is the 308th. -/
def maxPower : Nat := 308

/-- `x * 10 ^ exponent`, rounded at every step. Beyond all doubles is malformed; below them is zero. -/
def scale (x : Binary64) (exponent : Int) : (steps : Nat) → Except ReadError Binary64
  | 0 => .ok x
  | steps + 1 =>
    if exponent.natAbs ≤ maxPower then
      let power := Binary64.ofNat (Nat.pow 10 exponent.natAbs)
      if exponent < 0 then .ok (x.div power)
      else
        let product := x.mul power
        if product.isInfinite then .error .malformed else .ok product
    else if x.isZero then .ok x
    else if 0 ≤ exponent then .error .malformed
    else scale (x.div (.ofNat (Nat.pow 10 maxPower))) (exponent + maxPower) steps

def scaled (significand : Nat) (exponent : Int) : Except ReadError Binary64 :=
  scale (.ofNat significand) exponent (exponent.natAbs / maxPower + 1)

/-- Reads an exponent behind its mark and applies it. Its digits must fit 32 bits; beyond that a
positive exponent is too large for anything but zero, and a negative one gives zero. -/
def readExponent (significand : Nat) (exponent : Int) (text : Text) :
    Except ReadError (Binary64 × Text) :=
  let (down, text) :=
    match text with
    | '+' :: rest => (false, rest)
    | '-' :: rest => (true, rest)
    | _ => (false, text)
  let digits := text.takeWhile Char.isDigit
  let rest := text.dropWhile Char.isDigit
  let size := Nat.ofDigitChars 10 digits 0
  if digits.isEmpty then .error (.missing rest)
  else if size < UInt32.size / 2 then
    (·, rest) <$> scaled significand (if down then exponent - size else exponent + size)
  else if significand ≠ 0 ∧ !down then .error .malformed
  else .ok (.ofNat 0, rest)

/-- Reads what may follow the digits of a number. -/
def readTail (significand : Nat) (exponent : Int) (text : Text) :
    Except ReadError (Binary64 × Text) :=
  match text with
  | 'e' :: rest | 'E' :: rest => readExponent significand exponent rest
  | _ => (·, text) <$> scaled significand exponent

/-- Reads a fraction behind its point. Digits that the significand has no room for are dropped. -/
def readFraction (significand : Nat) (exponent : Int) (text : Text) :
    Except ReadError (Binary64 × Text) :=
  let digits := text.takeWhile Char.isDigit
  let rest := text.dropWhile Char.isDigit
  if digits.isEmpty then .error (.missing rest)
  else
    let (significand, dropped) := absorb significand digits
    readTail significand (exponent - (digits.length - dropped.length : Nat)) rest

/-- An integer with its sign; a negative zero and what does not fit a signed word are doubles. -/
def Number.ofInteger (negative : Bool) (n : Nat) : Number :=
  if !negative then .natural n
  else if 0 < n ∧ n ≤ UInt64.size / 2 then .negative n
  else .double (Binary64.ofNat n).neg

/-- Reads a number behind its sign. Digits beyond 64 bits make it a double, and count as powers of
ten. -/
def readNumber (negative : Bool) : Reader Number := fun text =>
  let digits := text.takeWhile Char.isDigit
  let rest := text.dropWhile Char.isDigit
  let signed (x : Binary64) : Number := .double (if negative then x.neg else x)
  if digits.isEmpty then .error (.missing rest)
  else if digits.head? = some '0' ∧ 1 < digits.length then .error .malformed
  else
    let (significand, dropped) := absorb 0 digits
    match rest with
    | '.' :: fraction =>
      Prod.map signed id <$> readFraction significand dropped.length fraction
    | 'e' :: _ | 'E' :: _ => Prod.map signed id <$> readTail significand dropped.length rest
    | _ =>
      if dropped.isEmpty then .ok (.ofInteger negative significand, rest)
      else Prod.map signed id <$> readTail significand dropped.length rest

/-! ## Strings -/

def hexValue? (c : Char) : Option Nat :=
  if c.isDigit then some (c.toNat - '0'.toNat)
  else if 'a' ≤ c && c ≤ 'f' then some (c.toNat - 'a'.toNat + 10)
  else if 'A' ≤ c && c ≤ 'F' then some (c.toNat - 'A'.toNat + 10)
  else none

/-- The number that the next four characters write in hexadecimal digits. With less than four bytes
left the text ends too soon. -/
def hex4 : Text → Except ReadError Nat
  | a :: b :: c :: d :: _ =>
    match hexValue? a, hexValue? b, hexValue? c, hexValue? d with
    | some a, some b, some c, some d => .ok (((a * 16 + b) * 16 + c) * 16 + d)
    | _, _, _, _ => .error .malformed
  | few => .error (if (Utf8.encode few).length < 4 then .truncated else .malformed)

/-- The character that an escape of one letter stands for. -/
def unescape? (c : Char) : Option Char :=
  match c with
  | '"' | '\\' | '/' => some c
  | 'b' => some '\x08'
  | 'f' => some '\x0c'
  | 'n' => some '\n'
  | 'r' => some '\r'
  | 't' => some '\t'
  | _ => none

def isHighSurrogate (n : Nat) : Bool := 0xD800 ≤ n && n ≤ 0xDBFF

def isLowSurrogate (n : Nat) : Bool := 0xDC00 ≤ n && n ≤ 0xDFFF

/-- The character of an escape behind its backslash, and the number of characters that write it.
A surrogate counts only as one half of a pair. -/
def readEscape : Text → Except ReadError (Char × Nat)
  | [] => .error .truncated
  | 'u' :: rest => do
    let high ← hex4 rest
    if isLowSurrogate high then .error .malformed
    else if !isHighSurrogate high then .ok (Char.ofNat high, 5)
    else
      match rest.drop 4 with
      | '\\' :: 'u' :: rest => do
        let low ← hex4 rest
        if isLowSurrogate low then
          .ok (Char.ofNat ((high - 0xD800) * 0x400 + (low - 0xDC00) + 0x10000), 11)
        else .error .malformed
      | [] | ['\\'] => .error .truncated
      | _ => .error .malformed
  | c :: _ =>
    match unescape? c with
    | some c => .ok (c, 1)
    | none => .error .malformed

/-- An escape in a string whose value nobody wants: surrogates may stand alone. -/
def skipEscape : Text → Except ReadError (Char × Nat)
  | 'u' :: rest => (fun _ => (Utf8.replacement, 5)) <$> hex4 rest
  | rest => readEscape rest

/-- Reads a string up to its closing quote. `read` holds its characters so far, the last one first,
and `covered` counts the characters that the last escape still covers. -/
def stringFrom (escape : Text → Except ReadError (Char × Nat)) (read : Text) (covered : Nat) :
    Reader Text
  | [] => .error .truncated
  | c :: rest =>
    match covered with
    | covered + 1 => stringFrom escape read covered rest
    | 0 =>
      if c = '"' then .ok (read.reverse, rest)
      else if c = '\\' then
        match escape rest with
        | .ok (c, length) => stringFrom escape (c :: read) length rest
        | .error e => .error e
      else if c.toNat < 0x20 then .error .malformed
      else stringFrom escape (c :: read) 0 rest

/-- Reads a string behind its opening quote. -/
def readString : Reader Text := stringFrom readEscape [] 0

/-! ## Lists -/

/-- Reads items separated by commas, at least one, and the closing bracket. -/
def foldMore (close : Char) (item : σ → Reader σ) : (fuel : Nat) → σ → Reader σ
  | 0, _, _ => .error .truncated
  | fuel + 1, state, text => do
    let (state, text) ← item state text
    match skipSpace text with
    | [] => .error .truncated
    | ',' :: rest => foldMore close item fuel state rest
    | c :: rest => if c = close then .ok (state, rest) else .error .malformed

/-- Reads the items behind an opening bracket, passing a state from each one to the next. Every item
takes at least one character, so that as much fuel as there are characters is enough. -/
def foldItems (close : Char) (item : σ → Reader σ) (fuel : Nat) (state : σ) : Reader σ := fun text =>
  match skipSpace text with
  | [] => .error .truncated
  | c :: rest => if c = close then .ok (state, rest) else foldMore close item fuel state (c :: rest)

/-! ## Values that nobody wants -/

/-- Passes over a number behind its sign. -/
def skipNumber : Reader Unit := fun text =>
  let digits := text.takeWhile Char.isDigit
  if digits.isEmpty ∨ (digits.head? = some '0' ∧ 1 < digits.length) then .error .malformed
  else do
    let ((), rest) ← skipFraction (text.dropWhile Char.isDigit)
    skipExponent rest
where
  skipDigits : Reader Unit := fun text =>
    if (text.takeWhile Char.isDigit).isEmpty then .error .malformed
    else .ok ((), text.dropWhile Char.isDigit)
  skipFraction : Reader Unit
    | '.' :: rest => skipDigits rest
    | text => .ok ((), text)
  skipExponent : Reader Unit
    | 'e' :: rest | 'E' :: rest =>
      match rest with
      | '+' :: rest | '-' :: rest => skipDigits rest
      | rest => skipDigits rest
    | text => .ok ((), text)

/-- Passes over one value. A member of an object is a string, a colon and a value. As much fuel as
there are characters is enough, since a bracket is taken before the values inside. -/
def skipValue : (fuel : Nat) → Reader Unit
  | 0 => fun _ => .error .truncated
  | fuel + 1 => fun text =>
    match skipSpace text with
    | [] => .error .truncated
    | '"' :: rest => (fun (_, rest) => ((), rest)) <$> stringFrom skipEscape [] 0 rest
    | '-' :: rest => skipNumber rest
    | 'n' :: rest => readWord "ull" rest
    | 't' :: rest => readWord "rue" rest
    | 'f' :: rest => readWord "alse" rest
    | '[' :: rest => foldItems ']' (fun _ => skipValue fuel) fuel () rest
    | '\x7b' :: rest => foldItems '\x7d' (fun _ => skipMember (skipValue fuel)) fuel () rest
    | c :: rest => if c.isDigit then skipNumber (c :: rest) else .error .malformed
where
  skipMember (value : Reader Unit) : Reader Unit := fun text =>
    match skipSpace text with
    | '"' :: rest =>
      match stringFrom skipEscape [] 0 rest with
      | .error e => .error e
      | .ok (_, rest) =>
        match skipSpace rest with
        | ':' :: rest => value rest
        | rest => .error (.missing rest)
    | rest => .error (.missing rest)

/-- The error for a value of another kind than the wanted one. A word, a number or a string is read
to its end first and may be at fault itself. -/
def wrongKind (text : Text) : ReadError :=
  match text with
  | '[' :: _ | '\x7b' :: _ => .mismatch
  | 'n' :: rest => after (readWord "ull" rest)
  | 't' :: rest => after (readWord "rue" rest)
  | 'f' :: rest => after (readWord "alse" rest)
  | '"' :: rest => after (readString rest)
  | '-' :: rest => after (readNumber true rest)
  | [] => .truncated
  | c :: rest => if c.isDigit then after (readNumber false (c :: rest)) else .malformed
where
  after {α : Type} : Except ReadError α → ReadError
    | .ok _ => .mismatch
    | .error e => e

end SourceGrade.Json
