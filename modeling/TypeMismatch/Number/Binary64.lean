import TypeMismatch.Text.Digit

/-!
# Numbers of the 64-bit binary format

A number of the format is the one NaN, an infinity, or `mantissa * 2 ^ exponent` with a sign, where

* `2 ^ 52 ≤ mantissa < 2 ^ 53` and `-1074 ≤ exponent ≤ 971`, or
* `mantissa < 2 ^ 52` and `exponent = -1074`.

So each number has one representation, zero having two for its two signs. A decimal is rounded to
the nearest number of the format, to the even mantissa where two are equally near, in exact
arithmetic on natural numbers; what would need a larger exponent is an infinity.

Source: the numbers that `literal_eval` and `safe_load` make.
-/

namespace TypeMismatch

/-- A number of the 64-bit binary format. -/
inductive Binary64 where
  | nan
  | infinity (negative : Bool)
  | finite (negative : Bool) (mantissa : Nat) (exponent : Int)
deriving DecidableEq, Repr

namespace Binary64

/-- The least exponent of the format. -/
def minExponent : Int := -1074

/-- The greatest exponent of the format. -/
def maxExponent : Int := 971

/-- The quotient rounded to the nearest integer, and to the even one where two are equally near. -/
def roundQuotient (num den : Nat) : Nat :=
  let q := num / den
  let r := num % den
  if 2 * r < den || (2 * r == den && q % 2 == 0) then q else q + 1

/-- The quotient `num / den` in units of `2 ^ e`, as another quotient. -/
def inUnits (num den : Nat) (e : Int) : Nat × Nat :=
  if 0 ≤ e then (num, den * Nat.pow 2 e.toNat) else (num * Nat.pow 2 (-e).toNat, den)

/-- The number nearest to the positive quotient `num / den`. -/
def ofQuotient (negative : Bool) (num den : Nat) : Binary64 :=
  -- The quotient lies strictly between `2 ^ (guess + 52)` and `2 ^ (guess + 54)`.
  let guess : Int := (num.log2 : Int) - den.log2 - 53
  let (n, d) := inUnits num den guess
  let e := max (if d * Nat.pow 2 53 ≤ n then guess + 1 else guess) minExponent
  let (n, d) := inUnits num den e
  let m := roundQuotient n d
  let (m, e) := if m = Nat.pow 2 53 then (Nat.pow 2 52, e + 1) else (m, e)
  if maxExponent < e then infinity negative else finite negative m e

/-- The number nearest to the decimal `digits * 10 ^ exponent`. A decimal beyond `10 ^ 310` or below
`10 ^ -330` needs no arithmetic. -/
def ofDecimal (negative : Bool) (digits : Nat) (exponent : Int) : Binary64 :=
  let magnitude := exponent + (Text.numeral digits).length
  if digits = 0 || magnitude < -330 then finite negative 0 minExponent
  else if 310 < magnitude then infinity negative
  else if 0 ≤ exponent then ofQuotient negative (digits * Nat.pow 10 exponent.toNat) 1
  else ofQuotient negative digits (Nat.pow 10 (-exponent).toNat)

/-- The number with the other sign. -/
def neg : Binary64 → Binary64
  | nan => nan
  | infinity s => infinity !s
  | finite s m e => finite (!s) m e

/-- The integer part of `mantissa * 2 ^ exponent`. -/
def floorMagnitude (m : Nat) (e : Int) : Nat :=
  if 0 ≤ e then m * Nat.pow 2 e.toNat else m / Nat.pow 2 (-e).toNat

/-- The integer with the given sign and magnitude. -/
def signed (negative : Bool) (n : Nat) : Int := if negative then -(n : Int) else n

/-- The integer that a number equals, if it is an integer. -/
def integer? : Binary64 → Option Int
  | finite s m e =>
    if 0 ≤ e || m % Nat.pow 2 (-e).toNat == 0 then some (signed s (floorMagnitude m e)) else none
  | _ => none

end Binary64
end TypeMismatch
