import SourceGrade.Binary64.Basic

/-!
# Shortest decimals

A positive double is printed with the fewest digits that read back as the same double. They are a
multiple of the coarsest power of ten that has a multiple among the reals rounding to the double; of
two such multiples the nearer one is taken, of two equally near ones the even one.
-/

namespace SourceGrade.Binary64

/-- A decimal number: `digits * 10 ^ exponent`. -/
structure Decimal where
  digits : Nat
  exponent : Int
deriving DecidableEq

/-- The double `mantissa * 2 ^ exponent` and the ends of the interval of reals that round to it, in
units of a quarter of `2 ^ exponent`; the ends belong to it if `closed`. -/
structure Neighbourhood where
  low : Nat
  middle : Nat
  high : Nat
  exponent : Int
  closed : Bool

/-- Below a power of two the doubles lie twice as dense, except among the smallest ones. -/
def neighbourhood (mantissa : Nat) (exponent : Int) : Neighbourhood where
  low := if mantissa = hiddenBit ∧ exponent ≠ minExponent then 4 * mantissa - 1 else 4 * mantissa - 2
  middle := 4 * mantissa
  high := 4 * mantissa + 2
  exponent := exponent - 2
  closed := mantissa % 2 = 0

/-- The multiple of `10 ^ power` that stands for the double, if one lies in the interval. Quarter
units are compared with multiples of the power after both are brought to natural numbers. -/
def Neighbourhood.multiple? (v : Neighbourhood) (power : Int) : Option Nat :=
  let unit := powerOf 10 power * powerOf 2 (-v.exponent)
  let scale := powerOf 2 v.exponent * powerOf 10 (-power)
  let inside (n : Nat) : Bool :=
    if v.closed then v.low * scale ≤ n * unit && n * unit ≤ v.high * scale
    else v.low * scale < n * unit && n * unit < v.high * scale
  let below := v.middle * scale / unit
  let above := below + 1
  match decide (0 < below) && inside below, inside above with
  | false, false => none
  | true, false => some below
  | false, true => some above
  | true, true =>
    let down := v.middle * scale - below * unit
    let up := above * unit - v.middle * scale
    if down < up ∨ (down = up ∧ below % 2 = 0) then some below else some above

/-- Tries `power` and the `finer` next smaller powers of ten, the coarsest first. -/
def Neighbourhood.coarsest (v : Neighbourhood) (power : Int) : (finer : Nat) → Decimal
  | 0 => ⟨(v.multiple? power).getD 0, power⟩
  | finer + 1 =>
    match v.multiple? power with
    | some n => ⟨n, power⟩
    | none => v.coarsest (power - 1) finer

/-- A power of ten so large that no multiple of a larger one rounds to `mantissa * 2 ^ exponent`;
78913 / 262144 stands for the logarithm of two to base ten. -/
def powerAbove (mantissa : Nat) (exponent : Int) : Int :=
  (exponent + mantissa.log2 + 1) * 78913 / 262144 + 1

/-- The shortest decimal of a positive double. Seventeen digits always suffice to tell it apart. -/
def shortest (mantissa : Nat) (exponent : Int) : Decimal :=
  (neighbourhood mantissa exponent).coarsest (powerAbove mantissa exponent) 20

end SourceGrade.Binary64
