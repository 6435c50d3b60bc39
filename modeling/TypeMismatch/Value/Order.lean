import TypeMismatch.Number.Arithmetic
import TypeMismatch.Value.Key

/-!
# The order of values

Numbers are ordered by their amounts, texts by the codes of their characters, bytes by their
numbers, dates and moments in time, and lists and tuples by the first items that differ. Other
values, and values of different kinds, have no order.

Values are sorted as follows. The values at the start that ascend, or descend strictly, are a run; a
descending run is turned around. Every further value is put behind the last one that is not above
it, which is found by halving. If two of the values that are compared on the way have no order, the
values cannot be sorted, and these two are the reason.

Source: `sorted`, as `dictConfig` sorts the names of handlers.
-/

namespace TypeMismatch

/-- The kinds of two values that have no order. -/
structure OrderFault where
  left : String
  right : String
deriving DecidableEq, Repr

namespace Value

/-- The codes of the code points of a text. -/
def codes? : Value → Option (List Nat)
  | text s => some ((Text.points s).map (·.code))
  | broken t => some (t.points.map (·.code))
  | _ => none

/-- The amount of a number. -/
def amount? : Value → Option Amount
  | bool b => some (.quotient (if b then 1 else 0) 1)
  | int n => some (.quotient n 1)
  | float x => some x.amount
  | nan _ => some .undefined
  | _ => none

mutual

/-- Whether a value is below another. -/
def isBelow (v w : Value) : Except OrderFault Bool :=
  match v, w with
  | bytes bs, bytes cs => .ok (decide (bs.map UInt8.toNat < cs.map UInt8.toNat))
  | date d, date e => .ok (d.ordinal < e.ordinal)
  | moment m, moment n =>
    if m.offset.isSome = n.offset.isSome then .ok (m.instant < n.instant)
    else .error ⟨v.kind, w.kind⟩
  | list vs, list ws | tuple vs, tuple ws => areBelow vs ws
  | v, w =>
    match v.codes?, w.codes?, v.amount?, w.amount? with
    | some s, some t, _, _ => .ok (decide (s < t))
    | _, _, some a, some b => .ok (a.less b)
    | _, _, _, _ => .error ⟨v.kind, w.kind⟩

/-- Whether a row of items is below another. -/
def areBelow : List Value → List Value → Except OrderFault Bool
  | _, [] => .ok false
  | [], _ :: _ => .ok true
  | v :: vs, w :: ws => if v.key? = w.key? && v.isKey then areBelow vs ws else isBelow v w

end

end Value

namespace Order

variable {α ε : Type} (below : α → α → Except ε Bool)

/-- The place behind the last of sorted values that is not above a given one, between two places.
Every step halves the distance, and `fuel` bounds their number. -/
def placeOf (sorted : List α) (x : α) : Nat → Nat → Nat → Except ε Nat
  | 0, low, _ => .ok low
  | fuel + 1, low, high =>
    if high ≤ low then .ok low
    else
      let middle := low + (high - low) / 2
      match sorted[middle]? with
      | none => .ok low
      | some y => do
        let isLower ← below x y
        if isLower then placeOf sorted x fuel low middle
        else placeOf sorted x fuel (middle + 1) high

/-- Sorted values with further ones put in their places. -/
def insertAll (sorted : List α) : List α → Except ε (List α)
  | [] => .ok sorted
  | x :: xs => do
    let n ← placeOf below sorted x (sorted.length + 1) 0 sorted.length
    insertAll (sorted.take n ++ x :: sorted.drop n) xs

/-- The values at the start that go on descending, or ascending, from a given one, and the
others. -/
def runFrom (descending : Bool) (last : α) : List α → Except ε (List α × List α)
  | [] => .ok ([], [])
  | x :: xs => do
    let isLower ← below x last
    if isLower = descending then
      let (run, rest) ← runFrom descending x xs
      pure (x :: run, rest)
    else pure ([], x :: xs)

/-- The values sorted. -/
def sort : List α → Except ε (List α)
  | [] => .ok []
  | [x] => .ok [x]
  | x :: y :: xs => do
    let descending ← below y x
    let (run, rest) ← runFrom below descending y xs
    let run := x :: y :: run
    insertAll below (if descending then run.reverse else run) rest

end Order

/-- Values in ascending order. -/
def Value.sort (vs : List Value) : Except OrderFault (List Value) := Order.sort Value.isBelow vs

end TypeMismatch
