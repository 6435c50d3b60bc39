import TypeMismatch.Value

/-!
# Keys

Two values are the same key if they stand for the same thing: numbers are compared by their
amount, so that `1`, `1.0` and true are one key, moments by their instant, and tuples component by
component. A NaN is the same key as itself, given again, and as no other NaN. Lists, sets and
mappings are no keys.

Source: the keys of the mappings that `deep_update` and `parse_overrides` go through.
-/

namespace TypeMismatch

/-- What a key stands for. A tuple is the empty one, or its first component and the tuple of the
others. -/
inductive Key where
  | null
  | integer (n : Int)
  | float (x : Binary64)
  /-- A NaN by the place where it was made. -/
  | nan (place : Nat)
  | complex (re im : Binary64)
  | ellipsis
  | date (d : Date)
  /-- A moment by its instant, in universal time or not. -/
  | moment (isUniversal : Bool) (instant : Int)
  | text (s : String)
  | broken (t : Text.Broken)
  | bytes (bs : List UInt8)
  | empty
  | cons (first rest : Key)
deriving DecidableEq, Repr

namespace Value

/-- What a number stands for as a key. -/
def floatKey (x : Binary64) : Key :=
  match x.integer? with
  | some n => .integer n
  | none => .float x

/-- A number without the sign that a zero may have. -/
def withoutZeroSign (x : Binary64) : Binary64 :=
  match x with
  | .finite _ 0 e => .finite false 0 e
  | x => x

mutual

/-- What a value stands for as a key, or the kind of the first component that is no key. -/
def key : Value → Except String Key
  | null => .ok .null
  | bool b => .ok (.integer (if b then 1 else 0))
  | int n => .ok (.integer n)
  | float x => .ok (floatKey x)
  | nan place => .ok (.nan place)
  | complex re im =>
    .ok (if isNonzero im then .complex (withoutZeroSign re) im else floatKey re)
  | ellipsis => .ok .ellipsis
  | date d => .ok (.date d)
  | moment m => .ok (.moment m.offset.isSome m.instant)
  | text s => .ok (.text s)
  | broken t => .ok (.broken t)
  | bytes bs => .ok (.bytes bs)
  | tuple vs => tupleKey vs
  | list _ => .error "list"
  | set _ => .error "set"
  | map _ => .error "dict"
  | again isMap n parts => .error (again isMap n parts).kind

/-- What a tuple with these components stands for. -/
def tupleKey : List Value → Except String Key
  | [] => .ok .empty
  | v :: vs => do
    let k ← key v
    let ks ← tupleKey vs
    pure (.cons k ks)

end

/-- What a value stands for as a key. -/
def key? (v : Value) : Option Key := v.key.toOption

/-- Whether a value can be a key. -/
def isKey (v : Value) : Bool := v.key?.isSome

/-- Whether two values are the same key. -/
def isSameKey (v w : Value) : Bool := v.isKey && v.key? = w.key?

end Value
end TypeMismatch
