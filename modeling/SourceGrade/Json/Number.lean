import SourceGrade.Binary64.Shortest
import SourceGrade.Text.Basic

/-!
# Doubles in JSON

The shortest digits of a double, laid out plainly as long as the first digit stands for a power of
ten from -5 to 15, and otherwise as one digit, a fraction and a signed exponent. What is no number
is `null`.
-/

namespace SourceGrade.Json

def zeros (n : Nat) : Text := List.replicate n '0'

/-- Positional notation of `digits * 10 ^ exponent`, with a fraction in any case. -/
def plain (digits : Text) (exponent : Int) : Text :=
  let whole := digits.length + exponent
  if 0 ≤ exponent then digits ++ zeros exponent.toNat ++ ".0"
  else if 0 < whole then digits.take whole.toNat ++ "." ++ digits.drop whole.toNat
  else "0." ++ zeros (-whole).toNat ++ digits

/-- One digit before the point, and the power of ten of that digit. -/
def scientific (digits : Text) (leading : Int) : Text :=
  let fraction := digits.drop 1
  let mark : Text := if leading < 0 then "e-" else "e+"
  digits.take 1 ++ (if fraction = [] then [] else '.' :: fraction) ++ mark ++
    Text.ofNat leading.natAbs

def decimal (d : Binary64.Decimal) : Text :=
  let digits := Text.ofNat d.digits
  let leading := d.exponent + digits.length - 1
  if -5 ≤ leading ∧ leading < 16 then plain digits d.exponent else scientific digits leading

def ofDouble (x : Binary64) : Text :=
  match x.value with
  | .nan | .infinite _ => "null"
  | .finite negative mantissa exponent =>
    let sign : Text := if negative then "-" else ""
    let magnitude : Text :=
      if mantissa = 0 then "0.0" else decimal (Binary64.shortest mantissa exponent)
    sign ++ magnitude

example : ofDouble (.ofNat 100) = "100.0".toList := by decide +kernel

example : ofDouble (.ofRatio false 1 10) = "0.1".toList := by decide +kernel

example : ofDouble (.ofRatio true 123 10000000) = "-0.0000123".toList := by decide +kernel

example : ofDouble (.ofRatio false 1 1000000) = "1e-6".toList := by decide +kernel

example : ofDouble (.ofNat 12345678901234567890) = "1.2345678901234567e+19".toList := by
  decide +kernel

end SourceGrade.Json
