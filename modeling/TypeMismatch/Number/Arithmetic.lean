import TypeMismatch.Number.Binary64

/-!
# Arithmetic of 64-bit numbers

Sums and products are found exactly and then rounded once to the nearest number of the format. The
order is that of the amounts, integers included; a NaN is neither below nor above anything.

Source: sums, products and comparisons of numbers in `literal_eval` and `safe_load`.
-/

namespace TypeMismatch

/-- The amount of a number: a quotient, an infinity, or none. -/
inductive Amount where
  | quotient (num : Int) (den : Nat)
  | infinite (negative : Bool)
  | undefined
deriving DecidableEq, Repr

namespace Amount

/-- Whether one amount is below another. -/
def less : Amount → Amount → Bool
  | quotient a b, quotient c d => a * d < c * b
  | quotient _ _, infinite negative => !negative
  | infinite negative, quotient _ _ => negative
  | infinite negative, infinite other => negative && !other
  | _, _ => false

end Amount

namespace Binary64

/-- The amount of a number. -/
def amount : Binary64 → Amount
  | nan => .undefined
  | infinity s => .infinite s
  | finite s m e =>
    let (num, den) := inUnits m 1 (-e)
    .quotient (signed s num) den

/-- Whether a number has a minus sign. -/
def isNegative : Binary64 → Bool
  | nan => false
  | infinity s => s
  | finite s _ _ => s

/-- The number nearest to a quotient, zero with the given sign. -/
def ofSigned (negative : Bool) (num : Int) (den : Nat) : Binary64 :=
  if num = 0 then finite negative 0 minExponent else ofQuotient (num < 0) num.natAbs den

/-- The number nearest to an integer, if the format reaches that far. -/
def ofInt? (n : Int) : Option Binary64 :=
  match ofSigned false n 1 with
  | infinity _ => none
  | x => some x

/-- The sum of two numbers. The sum of two zeros is negative only if both are. -/
def add (x y : Binary64) : Binary64 :=
  match x.amount, y.amount with
  | .quotient a b, .quotient c d =>
    ofSigned (x.isNegative && y.isNegative) (a * d + c * b) (b * d)
  | .infinite s, .infinite t => if s = t then infinity s else nan
  | .infinite s, .quotient _ _ => infinity s
  | .quotient _ _, .infinite s => infinity s
  | _, _ => nan

/-- The product of two numbers. -/
def mul (x y : Binary64) : Binary64 :=
  let negative := x.isNegative != y.isNegative
  match x.amount, y.amount with
  | .quotient a b, .quotient c d => ofSigned negative (a * c) (b * d)
  | .infinite _, .infinite _ => infinity negative
  | .infinite _, .quotient a _ => if a = 0 then nan else infinity negative
  | .quotient a _, .infinite _ => if a = 0 then nan else infinity negative
  | _, _ => nan

end Binary64
end TypeMismatch
