/-!
# Double-precision numbers

A double is its 64-bit word: a sign, eleven bits of exponent and fifty-two of mantissa. The words
of the magnitudes ascend with the magnitudes, so that rounding is the choice of a word.
-/

namespace SourceGrade

structure Binary64 where
  word : UInt64
deriving DecidableEq

namespace Binary64

/-- What a word stands for; a finite number is its mantissa times two to its exponent. -/
inductive Value where
  | nan
  | infinite (negative : Bool)
  | finite (negative : Bool) (mantissa : Nat) (exponent : Int)
deriving DecidableEq

def signBit : Nat := UInt64.size / 2

def hiddenBit : Nat := 0x10000000000000

/-- The exponent of the smallest positive magnitude. -/
def minExponent : Int := -1074

def infinityWord : Nat := 2047 * hiddenBit

def value (x : Binary64) : Value :=
  let n := x.word.toNat
  let negative := decide (signBit ≤ n)
  let magnitude := n % signBit
  let exponent := magnitude / hiddenBit
  let fraction := magnitude % hiddenBit
  if exponent = 2047 then (if fraction = 0 then .infinite negative else .nan)
  else if exponent = 0 then .finite negative fraction minExponent
  else .finite negative (fraction + hiddenBit) (exponent - 1 + minExponent)

/-- A power of `base`, where a negative exponent counts as zero: a ratio is scaled by a power in its
numerator or, for the opposite exponent, in its denominator. -/
def powerOf (base : Nat) (exponent : Int) : Nat := Nat.pow base exponent.toNat

/-- The integer nearest to `num / den`, a half going to the even neighbour. -/
def roundRatio (num den : Nat) : Nat :=
  let floor := num / den
  let twice := 2 * (num % den)
  if den < twice ∨ (den = twice ∧ floor % 2 = 1) then floor + 1 else floor

/-- The exponent `e` with `2 ^ e ≤ num / den < 2 ^ (e + 1)`, for positive numbers. -/
def floorLog2 (num den : Nat) : Int :=
  let e : Int := num.log2 - den.log2
  if den * powerOf 2 e ≤ num * powerOf 2 (-e) then e else e - 1

/-- The word of the magnitude nearest to `num / den`. A tie goes to the even word, and what would
round to a power of two beyond all finite magnitudes goes to infinity. -/
def nearestWord (num den : Nat) : Nat :=
  if num = 0 then 0
  else
    let exponent := max (floorLog2 num den - 52) minExponent
    let mantissa := roundRatio (num * powerOf 2 (-exponent)) (den * powerOf 2 exponent)
    min ((exponent - minExponent).toNat * hiddenBit + mantissa) infinityWord

/-- The double with the given sign and the magnitude nearest to `num / den`. -/
def ofRatio (negative : Bool) (num den : Nat) : Binary64 :=
  ⟨.ofNat ((if negative then signBit else 0) + nearestWord num den)⟩

def ofNat (n : Nat) : Binary64 := ofRatio false n 1

def nan : Binary64 := ⟨.ofNat (infinityWord + hiddenBit / 2)⟩

def infinity (negative : Bool) : Binary64 :=
  ⟨.ofNat ((if negative then signBit else 0) + infinityWord)⟩

end Binary64

end SourceGrade
