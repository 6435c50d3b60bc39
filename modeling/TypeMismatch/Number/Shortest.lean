import TypeMismatch.Number.Binary64

/-!
# The shortest decimal of a number

A number of the 64-bit format is written with the fewest decimal digits that still read back as that
number, and among those as the one nearest to it. The decimals that read back form an interval: it
ends halfway to the two neighbouring numbers, and the ends belong to it exactly when the mantissa is
even. For one digit, two digits and so on, the two neighbours of the number on the grid of decimals
with that many digits are tried; the first grid with a neighbour inside the interval gives the
digits. Seventeen digits always suffice.

The digits are laid out positionally if the leading one stands for `10 ^ -4` up to `10 ^ 15`, and
with a signed exponent of at least two digits otherwise.

Source: a number as a label in `from_mapping`, and in `dumps`.
-/

namespace TypeMismatch
namespace Binary64

/-- The decimal `digits * 10 ^ exponent`. -/
structure Decimal where
  digits : Nat
  exponent : Int
deriving DecidableEq, Repr

/-- The exact order of `a * 10 ^ i` and `b * 2 ^ j`. -/
def compareScaled (a : Nat) (i : Int) (b : Nat) (j : Int) : Ordering :=
  compare (a * Nat.pow 10 i.toNat * Nat.pow 2 (-j).toNat)
    (b * Nat.pow 2 j.toNat * Nat.pow 10 (-i).toNat)

/-- Whether a decimal lies among the reals that round to `m * 2 ^ e`. The gap below a power of two
is half the gap above it, unless the exponent is already the least. -/
def readsBack (m : Nat) (e : Int) (d : Decimal) : Bool :=
  let low := if m = Nat.pow 2 52 && minExponent < e then 4 * m - 1 else 4 * m - 2
  let high := 4 * m + 2
  let closed := m % 2 == 0
  let above := compareScaled d.digits d.exponent low (e - 2)
  let below := compareScaled d.digits d.exponent high (e - 2)
  (above == .gt || (closed && above == .eq)) && (below == .lt || (closed && below == .eq))

/-- The largest point of the grid of step `10 ^ i` that is not above `m * 2 ^ e`, in steps. -/
def gridFloor (m : Nat) (e i : Int) : Nat :=
  (m * Nat.pow 2 e.toNat * Nat.pow 10 (-i).toNat) / (Nat.pow 2 (-e).toNat * Nat.pow 10 i.toNat)

/-- Whether the upper of the two neighbours on the grid is nearer, or equally near and even. -/
def upperIsNearer (m : Nat) (e i : Int) (lower : Nat) : Bool :=
  match compareScaled (2 * lower + 1) i (2 * m) e with
  | .lt => true
  | .eq => lower % 2 == 1
  | .gt => false

/-- The neighbour of `m * 2 ^ e` on the grid of step `10 ^ i` that reads back, the nearer if both
do. -/
def onGrid? (m : Nat) (e i : Int) : Option Decimal :=
  let lower := gridFloor m e i
  let low : Decimal := ⟨lower, i⟩
  let high : Decimal := ⟨lower + 1, i⟩
  match readsBack m e low, readsBack m e high with
  | true, true => some (if upperIsNearer m e i lower then high else low)
  | true, false => some low
  | false, true => some high
  | false, false => none

/-- The number of decimal digits before the point of `m * 2 ^ e`: the least `k` with
`m * 2 ^ e < 10 ^ k`, negative or zero for a number below one. -/
def leadingPlace (m : Nat) (e : Int) : Int :=
  -- Three tenths of the binary place is within two of the decimal one.
  let guess := ((m.log2 : Int) + e) * 3 / 10 - 3
  let steps := (List.range 8).find? fun n : Nat => compareScaled 1 (guess + n) m e == .gt
  guess + ((steps.getD 8 : Nat) : Int)

/-- A decimal without trailing zeros in its digits. The count bounds the number of zeros. -/
def stripZeros : Nat → Decimal → Decimal
  | 0, d => d
  | n + 1, d =>
    if d.digits % 10 == 0 && d.digits != 0 then stripZeros n ⟨d.digits / 10, d.exponent + 1⟩ else d

/-- The shortest decimal that reads back as the positive number `m * 2 ^ e`. -/
def shortest (m : Nat) (e : Int) : Decimal :=
  let place := leadingPlace m e
  let found := (List.range 17).findSome? fun n : Nat => onGrid? m e (place - (n + 1))
  stripZeros 20 (found.getD ⟨gridFloor m e (place - 17), place - 17⟩)

/-- The decimal exponent of the leading digit from which the positional form is used. -/
def plainFrom : Int := -4

/-- The decimal exponent of the leading digit from which the exponent form is used again. -/
def plainBelow : Int := 16

/-- A decimal laid out as text. -/
def layOut (d : Decimal) : List Char :=
  let ds := Text.numeral d.digits
  let point := d.exponent + ds.length
  if plainFrom < point && point ≤ plainBelow then
    if 0 ≤ d.exponent then ds ++ List.replicate d.exponent.toNat '0' ++ ['.', '0']
    else if 0 < point then ds.take point.toNat ++ '.' :: ds.drop point.toNat
    else ['0', '.'] ++ List.replicate (-point).toNat '0' ++ ds
  else
    let tail := ds.drop 1
    let e := point - 1
    let mark := if e < 0 then '-' else '+'
    let size := Text.numeral e.natAbs
    ds.take 1 ++ (if tail.isEmpty then [] else '.' :: tail) ++ ['e', mark]
      ++ List.replicate (2 - size.length) '0' ++ size

/-- The text of a number of the format. -/
def text : Binary64 → List Char
  | nan => "nan".toList
  | infinity s => (if s then ['-'] else []) ++ "inf".toList
  | finite s m e =>
    (if s then ['-'] else [])
      ++ if m = 0 then "0.0".toList else layOut (shortest m e)

end Binary64
end TypeMismatch
