import SourceGrade.Binary64.Basic

/-!
# Arithmetic on doubles

Every operation is the exact result, a ratio of natural numbers, rounded once to the nearest double.
-/

namespace SourceGrade.Binary64

/-- `mantissa * 2 ^ exponent` as numerator and denominator. -/
def ratio (mantissa : Nat) (exponent : Int) : Nat × Nat :=
  (mantissa * powerOf 2 exponent, powerOf 2 (-exponent))

def mul (x y : Binary64) : Binary64 :=
  match x.value, y.value with
  | .nan, _ | _, .nan => nan
  | .infinite s, .infinite t => infinity (s != t)
  | .infinite s, .finite t m _ | .finite s m _, .infinite t => if m = 0 then nan else infinity (s != t)
  | .finite s m e, .finite t n f =>
    let (num, den) := ratio (m * n) (e + f)
    ofRatio (s != t) num den

def div (x y : Binary64) : Binary64 :=
  match x.value, y.value with
  | .nan, _ | _, .nan | .infinite _, .infinite _ => nan
  | .infinite s, .finite t _ _ => infinity (s != t)
  | .finite s _ _, .infinite t => ofRatio (s != t) 0 1
  | .finite s m e, .finite t n f =>
    if n = 0 then (if m = 0 then nan else infinity (s != t))
    else
      let (num, den) := ratio m (e - f)
      ofRatio (s != t) num (den * n)

/-- A mantissa with its sign. -/
def signed (negative : Bool) (mantissa : Nat) : Int := if negative then -mantissa else mantissa

/-- An exact difference of zero is positive, unless a negative zero loses a positive one. -/
def sub (x y : Binary64) : Binary64 :=
  match x.value, y.value with
  | .nan, _ | _, .nan => nan
  | .infinite s, .infinite t => if s = t then nan else infinity s
  | .infinite s, .finite .. => infinity s
  | .finite .., .infinite t => infinity (!t)
  | .finite s m e, .finite t n f =>
    let least := min e f
    let difference := signed s (m * powerOf 2 (e - least)) - signed t (n * powerOf 2 (f - least))
    let (num, den) := ratio difference.natAbs least
    ofRatio (decide (difference < 0) || (m = 0 && n = 0 && s && !t)) num den

def neg (x : Binary64) : Binary64 := ⟨x.word ^^^ .ofNat signBit⟩

def abs (x : Binary64) : Binary64 := ⟨.ofNat (x.word.toNat % signBit)⟩

/-- Whether `x` is less than `y`; the two zeros are equal, and nothing compares to a NaN. -/
def lt (x y : Binary64) : Bool :=
  match x.value, y.value with
  | .nan, _ | _, .nan => false
  | .infinite s, .infinite t => s && !t
  | .infinite s, .finite .. => s
  | .finite .., .infinite t => !t
  | .finite s m e, .finite t n f =>
    let least := min e f
    signed s (m * powerOf 2 (e - least)) < signed t (n * powerOf 2 (f - least))

def isInfinite (x : Binary64) : Bool :=
  match x.value with
  | .infinite _ => true
  | _ => false

def isZero (x : Binary64) : Bool :=
  match x.value with
  | .finite _ 0 _ => true
  | _ => false

/-- An integer brought into the range of signed 64-bit words. -/
def saturate (i : Int) : Int := max (-signBit) (min i (signBit - 1))

/-- The integer part as a signed 64-bit word: too large a number goes to the end of the range, and
a NaN to zero. -/
def truncate (x : Binary64) : Int :=
  match x.value with
  | .nan => 0
  | .infinite negative => if negative then -signBit else signBit - 1
  | .finite negative m e =>
    let (num, den) := ratio m e
    saturate (signed negative (num / den))

end SourceGrade.Binary64
