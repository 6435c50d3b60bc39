import TypeMismatch.Value.Key
import TypeMismatch.Value.Table

/-!
# Literals

A literal is an expression that stands for a value by itself: an atom, a number with one sign before
it, a complex number that is the sum of a real and an imaginary one, a collection of literals, or
the call `set()`, which stands for the empty set. An expression may have the form of a literal
without being one, for instance because a name stands in it. The value is found from left to right,
and the first obstacle decides: a part that is no literal, a real part beyond the 64-bit format, or
an element of a set or a key of a mapping that can be no key.

Source: `literal_eval`, which `_coerce_literal` calls. A parsed expression is a `Literal`, and
`value` goes through it.
-/

namespace TypeMismatch

/-- An expression, with as much of its form as matters for its value. -/
inductive Literal where
  | atom (v : Value)
  | name (s : String)
  /-- A part of what an expression stands for. -/
  | component
  /-- An expression of any other form. -/
  | other
  /-- An item that stands for several. -/
  | starred (items : Literal)
  | signed (negative : Bool) (operand : Literal)
  /-- A sum, or a difference if the right term counts as negative. -/
  | sum (negative : Bool) (left right : Literal)
  /-- A call without arguments. -/
  | call (function : Literal)
  | list (items : List Literal)
  | tuple (items : List Literal)
  | set (items : List Literal)
  | map (entries : List (Literal × Literal))
deriving Repr

/-- Why an expression stands for no value. -/
inductive LiteralFault where
  /-- The text is no literal. -/
  | malformed
  /-- The integer before an imaginary number is beyond the 64-bit format. -/
  | tooLarge
  /-- A value of this kind stands where a key is needed. -/
  | notKey (kind : String)
deriving DecidableEq, Repr

namespace Literal

/-- The value of a number without a sign. -/
def number : Literal → Except LiteralFault Value
  | atom (.int n) => .ok (.int n)
  | atom (.float x) => .ok (.float x)
  | atom (.complex re im) => .ok (.complex re im)
  | _ => .error .malformed

/-- The number with the opposite sign. -/
def opposite : Value → Value
  | .int n => .int (-n)
  | .float x => .float x.neg
  | .complex re im => .complex re.neg im.neg
  | v => v

/-- The value of a number, which may have one sign. -/
def signedNumber : Literal → Except LiteralFault Value
  | signed negative operand => (number operand).map fun v => if negative then opposite v else v
  | e => number e

/-- A sum of a real and an imaginary number, or a difference. Two zeros are added as well. -/
def complexSum (negative : Bool) (re im : Binary64) : Value :=
  let zero : Binary64 := .finite false 0 Binary64.minExponent
  if negative then .complex (re.add zero.neg) (zero.add im.neg)
  else .complex (re.add zero) (zero.add im)

/-- The sum of two numbers, of which the left one must be real and the right one imaginary. -/
def sumOf (negative : Bool) : Value → Value → Except LiteralFault Value
  | .int n, .complex _ im =>
    match Binary64.ofInt? n with
    | some re => .ok (complexSum negative re im)
    | none => .error .tooLarge
  | .float re, .complex _ im => .ok (complexSum negative re im)
  | _, _ => .error .malformed

/-- What a value stands for as a key. -/
def keyOf (v : Value) : Except LiteralFault Key := v.key.mapError .notKey

/-- A set with one more element, if the element is not in it already. -/
def insertElement (seen : List (Key × Value)) (v : Value) :
    Except LiteralFault (List (Key × Value)) := do
  let k ← keyOf v
  pure (if seen.any (·.1 = k) then seen else seen ++ [(k, v)])

/-- A mapping with one more entry. The first of several equal keys stays, with the last value. -/
def insertEntry (seen : List (Key × (Value × Value))) (k v : Value) :
    Except LiteralFault (List (Key × (Value × Value))) := do
  let i ← keyOf k
  pure (if seen.any (·.1 = i) then seen.map fun e => if e.1 = i then (i, (e.2.1, v)) else e
    else seen ++ [(i, (k, v))])

mutual

/-- The value that an expression stands for. -/
def value : Literal → Except LiteralFault Value
  | atom v => .ok v
  | name _ | component | other | starred _ => .error .malformed
  | signed negative operand => signedNumber (signed negative operand)
  | sum negative left right => do
    let v ← signedNumber left
    let w ← number right
    sumOf negative v w
  | call (name "set") => .ok (.set [])
  | call _ => .error .malformed
  | list items => (values items).map .list
  | tuple items => (values items).map .tuple
  | set items => (elements [] items).map fun seen => Value.setOf (seen.map (·.2))
  | map es => (entries [] es).map fun seen => .map (seen.map (·.2))

/-- The values of items. -/
def values : List Literal → Except LiteralFault (List Value)
  | [] => .ok []
  | item :: items => do
    let v ← value item
    let vs ← values items
    pure (v :: vs)

/-- A set with further items. -/
def elements (seen : List (Key × Value)) :
    List Literal → Except LiteralFault (List (Key × Value))
  | [] => .ok seen
  | item :: items => do
    let v ← value item
    let seen ← insertElement seen v
    elements seen items

/-- The key and the value of an entry. -/
def entry : Literal × Literal → Except LiteralFault (Value × Value)
  | (k, v) => do
    let k ← value k
    let v ← value v
    pure (k, v)

/-- A mapping with further entries. -/
def entries (seen : List (Key × (Value × Value))) :
    List (Literal × Literal) → Except LiteralFault (List (Key × (Value × Value)))
  | [] => .ok seen
  | e :: es => do
    let (k, v) ← entry e
    let seen ← insertEntry seen k v
    entries seen es

end

mutual

/-- Whether something could be given the expression as its name: whether it is a name, a part of
something, or a row of such expressions. -/
def isTarget : Literal → Bool
  | name _ | component => true
  | starred items => isTarget items
  | list items | tuple items => areTargets items
  | _ => false

/-- Whether all items could be names of something. -/
def areTargets : List Literal → Bool
  | [] => true
  | item :: items => isTarget item && areTargets items

end

end Literal
end TypeMismatch
