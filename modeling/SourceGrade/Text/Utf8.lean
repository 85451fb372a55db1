import SourceGrade.Text.Basic

/-!
# UTF-8

The decoder reads one byte at a time. It answers with characters and with ill-formed parts, where
an ill-formed part is as long as it can be a beginning of some character; the strict and the
permissive reading of bytes are two views of these items.
-/

namespace SourceGrade.Utf8

/-- Between two characters, or inside one: the bits read, the bytes still missing and the range of
the next byte. -/
inductive State where
  | start
  | inside (bits missing low high : Nat)

/-- A decoded character, or nothing for an ill-formed part. -/
abbrev Item := Option Char

/-- The state behind a first byte of two or more. -/
def leading (b : Nat) : Option State :=
  if 0xC2 ≤ b && b ≤ 0xDF then some (.inside (b - 0xC0) 1 0x80 0xBF)
  else if b == 0xE0 then some (.inside 0 2 0xA0 0xBF)
  else if b == 0xED then some (.inside 0xD 2 0x80 0x9F)
  else if 0xE1 ≤ b && b ≤ 0xEF then some (.inside (b - 0xE0) 2 0x80 0xBF)
  else if b == 0xF0 then some (.inside 0 3 0x90 0xBF)
  else if 0xF1 ≤ b && b ≤ 0xF3 then some (.inside (b - 0xF0) 3 0x80 0xBF)
  else if b == 0xF4 then some (.inside 4 3 0x80 0x8F)
  else none

def begin (b : UInt8) : List Item × State :=
  if b < 0x80 then ([some (Char.ofNat b.toNat)], .start)
  else
    match leading b.toNat with
    | some state => ([], state)
    | none => ([none], .start)

/-- The items that a byte completes, and the state behind it. A byte that cannot go on the present
character ends an ill-formed part and begins anew. -/
def step : State → UInt8 → List Item × State
  | .start, b => begin b
  | .inside bits missing low high, b =>
    if low ≤ b.toNat && b.toNat ≤ high then
      let bits := bits * 64 + (b.toNat - 0x80)
      if missing ≤ 1 then ([some (Char.ofNat bits)], .start)
      else ([], .inside bits (missing - 1) 0x80 0xBF)
    else
      let (items, state) := begin b
      (none :: items, state)

/-- The items of the remaining bytes behind those of `done`, which holds the last item first. -/
def itemsFrom (state : State) (done : List Item) : Bytes → List Item
  | [] =>
    match state with
    | .start => done.reverse
    | .inside .. => (none :: done).reverse
  | b :: rest =>
    let (items, state) := step state b
    itemsFrom state (items.reverse ++ done) rest

def items (bytes : Bytes) : List Item := itemsFrom .start [] bytes

/-- Stands for an ill-formed part. -/
def replacement : Char := '\uFFFD'

/-- The permissive reading: each ill-formed part becomes one replacement character. -/
def decode (bytes : Bytes) : Text := (items bytes).map (·.getD replacement)

/-- The strict reading: no text at all if a part is ill-formed. -/
def decode? (bytes : Bytes) : Option Text := (items bytes).mapM id

def encode (text : Text) : Bytes := text.flatMap String.utf8EncodeChar

end SourceGrade.Utf8
