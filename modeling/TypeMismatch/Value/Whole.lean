import TypeMismatch.Number.OfText
import TypeMismatch.Value

/-!
# Whole numbers

A setting that is a whole number may be given as a number, whose fraction is cut off, as true or
false, which are one and zero, or as text: decimal digits of any script with an optional sign,
single underscores between digits, and blanks around them. In bytes only ASCII counts.

Source: `_coerce_int`, the call of `int`.
-/

namespace TypeMismatch
namespace Value

/-- The whole number that a text stands for. -/
def wholeOfText? (s : List Char) : Option Int := (Number.integer 10 s).toOption

/-- The whole number that a value stands for. -/
def whole? : Value → Option Int
  | bool b => some (if b then 1 else 0)
  | int n => some n
  | float (.finite s m e) => some (Binary64.signed s (Binary64.floorMagnitude m e))
  | text s => wholeOfText? s.toList
  | bytes bs =>
    if bs.all (·.toNat < 0x80) then wholeOfText? (bs.map fun b => Char.ofNat b.toNat) else none
  | _ => none

/-- Whether a value is an infinity, which no whole number comes near. -/
def isInfinite : Value → Bool
  | float (.infinity _) => true
  | _ => false

end Value
end TypeMismatch
