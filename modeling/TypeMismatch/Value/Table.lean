import TypeMismatch.Number.Arithmetic
import TypeMismatch.Value

/-!
# The order of a set

The elements of a set have their places in a table whose size is a power of two, and the set is gone
through in the order of the places. An element is spread over the table by a number that equal
elements share. For a number that is its remainder modulo a prime, where a fraction is a quotient of
remainders; for a tuple it mixes those of the components. Text, bytes and whatever is no number have
one that differs from run to run, so that no order is known for a set that holds any.

The place of an element is the first free one in a run of ten that begins at its number modulo the
size; if there is none, the search goes on from another place, which depends on the higher bits of
the number as well. A run that would reach beyond the table is one place only. A table that is three
fifths full is made larger, and its elements are placed again in their order.

Source: the sets that `literal_eval` makes, as they are written and gone through.
-/

namespace TypeMismatch

/-- The prime modulo which numbers are spread. -/
def spreadModulus : Nat := Nat.pow 2 61 - 1

/-- The number of words of 64 bits. -/
def wordCount : Nat := Nat.pow 2 64

/-- A word with its upper and its lower bits exchanged, the latter being 33. -/
def rotateWord (n : Nat) : Nat := (n * Nat.pow 2 31 + n / Nat.pow 2 33) % wordCount

/-- The number that an integer is spread by; none is spread by minus one. -/
def spreadOf (n : Int) : Int := if n = -1 then -2 else n

/-- The number that a quotient is spread by, if its denominator is a power of two. -/
def spreadQuotient (num : Int) (den : Nat) : Int :=
  let inverse := Nat.pow 2 (61 - den.log2 % 61)
  spreadOf (Binary64.signed (num < 0) (num.natAbs * inverse % spreadModulus))

/-- The number that an amount is spread by. -/
def Amount.spread? : Amount → Option Int
  | quotient num den => some (spreadQuotient num den)
  | infinite negative => some (if negative then -314159 else 314159)
  | undefined => none

/-- The word of a number with a sign. -/
def wordOf (n : Int) : Nat := (n % wordCount).toNat

/-- The number with a sign that a word stands for. -/
def ofWord (w : Nat) : Int := if w < Nat.pow 2 63 then w else (w : Int) - wordCount

/-- The number that a complex number is spread by, given those of its parts. -/
def spreadComplex (re im : Int) : Int := spreadOf (ofWord (wordOf (re + 1000003 * im)))

/-- The number that a tuple is spread by, given those of its components. -/
def spreadTuple (components : List Int) : Int :=
  let seed := 2870177450012600261
  let mixed := components.foldl (fun acc n =>
    rotateWord ((acc + wordOf n * 14029467366897019727) % wordCount) * 11400714785074694791
      % wordCount) seed
  let w := (mixed + (components.length ^^^ (seed ^^^ 3527539))) % wordCount
  if w = wordCount - 1 then 1546275796 else ofWord w

namespace Value

mutual

/-- The number that a value is spread by, if it is the same in every run. -/
def spread? : Value → Option Int
  | bool b => some (if b then 1 else 0)
  | int n => some (spreadQuotient n 1)
  | float x => x.amount.spread?
  | complex re im => do
    let a ← re.amount.spread?
    let b ← im.amount.spread?
    some (spreadComplex a b)
  | tuple vs => (spreads? vs).map spreadTuple
  | _ => none

/-- The numbers that values are spread by. -/
def spreads? : List Value → Option (List Int)
  | [] => some []
  | v :: vs => do
    let n ← spread? v
    let ns ← spreads? vs
    some (n :: ns)

end

/-- Whether the order of a set with these elements is known. -/
def hasOrder (vs : List Value) : Bool := (spreads? vs).isSome

end Value

/-- The places of a table, as many as a power of two, each with an element and the word of the
number that it is spread by, or free. -/
abbrev Table := List (Option (Nat × Value))

namespace Table

/-- A table without elements. -/
def free (size : Nat) : Table := List.replicate size none

/-- The elements, in the order of their places. -/
def elements (t : Table) : List (Nat × Value) := t.filterMap id

/-- Whether a place is free. -/
def isFree (t : Table) (i : Nat) : Bool := (t.getD i none).isNone

/-- How many places a run has beyond its first. -/
def runLength : Nat := 9

/-- The free place for an element, given the bits that have not been used yet and the place where a
run begins. Every place is reached in the end, and `fuel` bounds the number of runs. -/
def placeFrom (t : Table) : Nat → Nat → Nat → Nat
  | 0, _, i => i
  | fuel + 1, bits, i =>
    let run := if i + runLength < t.length then runLength + 1 else 1
    match (List.range run).find? fun j => t.isFree (i + j) with
    | some j => i + j
    | none => placeFrom t fuel (bits / 32) ((5 * i + 1 + bits / 32) % t.length)

/-- The table with an element at the first free place for it. -/
def put (t : Table) (e : Nat × Value) : Table :=
  t.set (placeFrom t (t.length + 64) e.1 (e.1 % t.length)) (some e)

/-- The size of a table that has more places than a number. -/
def sizeAbove (n : Nat) : Nat := max 8 (Nat.pow 2 (n.log2 + 1))

/-- The table with more places than a number. -/
def resize (t : Table) (n : Nat) : Table := t.elements.foldl put (free (sizeAbove n))

/-- The table with one more element, made larger if it has become full. -/
def insert (t : Table) (e : Nat × Value) : Table :=
  let t := t.put e
  let used := t.elements.length
  if used * 5 < (t.length - 1) * 3 then t
  else t.resize (if used ≤ 50000 then used * 4 else used * 2)

/-- The smallest table. -/
def smallest : Table := free 8

/-- The table for a number of elements that are put at once. -/
def forMany (n : Nat) : Table :=
  if n * 5 < (smallest.length - 1) * 3 then smallest else smallest.resize (n * 2)

end Table

namespace Value

/-- The values in the order of their places in a table, if it is known. -/
def arranged (t : Table) (vs : List Value) : List Value :=
  match spreads? vs with
  | none => vs
  | some ns => ((ns.map wordOf).zip vs |>.foldl Table.insert t).elements.map (·.2)

/-- The set with these elements, which all differ, put one after the other. -/
def setOf (vs : List Value) : Value := .set (arranged Table.smallest vs)

/-- The set with these elements, which all differ, put at once. -/
def setOfAll (vs : List Value) : Value := .set (arranged (Table.forMany vs.length) vs)

end Value
end TypeMismatch
