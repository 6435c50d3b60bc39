import TypeMismatch.Number.Binary64
import TypeMismatch.Text.Point
import TypeMismatch.Value.Calendar

/-!
# Values of configuration

Settings, overrides and names that are not text reach the library as values: the atoms of a
configuration file and of a literal, and collections of values. A mapping is the list of its entries
in the order in which their keys first came.

A NaN equals no number, itself included, and is known by where it comes from: the one that documents
have a sign for is the same wherever the sign stands, and any other was made at one place, whose
number it has.

Collections of a configuration file may lie within each other, so that their values have no end.
Such collections are the parts of a ring, and each of them is known by its number there. It is
opened where its own items are needed.

Source: the values that `literal_eval` and `safe_load` make, and the arguments of `from_mapping` and
`describe_type_mismatch`.
-/

namespace TypeMismatch

/-- A value of a configuration or of a literal. -/
inductive Value where
  | null
  | bool (b : Bool)
  | int (n : Int)
  /-- A number; as a NaN, the one that documents have a sign for. -/
  | float (x : Binary64)
  /-- A NaN that was made at the place with a number. -/
  | nan (place : Nat)
  /-- A complex number with its real and its imaginary part. -/
  | complex (re im : Binary64)
  | text (s : String)
  /-- A text in which halves of characters stand by themselves. -/
  | broken (t : Text.Broken)
  | bytes (bs : List UInt8)
  | ellipsis
  | date (d : Date)
  | moment (m : Moment)
  | list (vs : List Value)
  | tuple (vs : List Value)
  | set (vs : List Value)
  | map (entries : List (Value × Value))
  /-- A mapping or a list that may lie within itself: the one with a number among the parts of a
  ring. Within a part the others stand without the parts. -/
  | again (isMap : Bool) (number : Nat) (parts : List (Nat × Value))
deriving Repr

/-- A mapping: its entries, ordered by the first coming of their keys. -/
abbrev Mapping := List (Value × Value)

namespace Value

instance : Inhabited Value := ⟨null⟩

instance : Coe String Value := ⟨text⟩

/-- The text of code points. -/
def ofPoints (ps : List Text.Point) : Value :=
  match h : Text.chars? ps with
  | some s => text (String.ofList s)
  | none => broken ⟨ps, h⟩

/-- A number that was made at a place. -/
def madeAt (place : Nat) (x : Binary64) : Value := if x = .nan then nan place else float x

/-- The name of a value's kind in messages. -/
def kind : Value → String
  | null => "NoneType"
  | bool _ => "bool"
  | int _ => "int"
  | float _ | nan _ => "float"
  | complex _ _ => "complex"
  | text _ | broken _ => "str"
  | bytes _ => "bytes"
  | ellipsis => "ellipsis"
  | date _ => "datetime.date"
  | moment _ => "datetime.datetime"
  | list _ => "list"
  | tuple _ => "tuple"
  | set _ => "set"
  | map _ => "dict"
  | again isMap _ _ => if isMap then "dict" else "list"

/-- Whether a number is not zero. -/
def isNonzero : Binary64 → Bool
  | .finite _ m _ => m != 0
  | _ => true

/-- Whether a value counts as given: null, false, zero and what is empty do not. -/
def isGiven : Value → Bool
  | null => false
  | bool b => b
  | int n => n != 0
  | float x => isNonzero x
  | complex re im => isNonzero re || isNonzero im
  | text s => !s.isEmpty
  | bytes bs => !bs.isEmpty
  | nan _ | broken _ | ellipsis | date _ | moment _ | again _ _ _ => true
  | list vs | tuple vs | set vs => !vs.isEmpty
  | map es => !es.isEmpty

mutual

/-- The value with something else for every part of a ring in it. -/
def replaceAgain (f : Bool → Nat → List (Nat × Value) → Value) : Value → Value
  | again isMap n parts => f isMap n parts
  | list vs => list (replaceAll f vs)
  | tuple vs => tuple (replaceAll f vs)
  | map es => map (replaceEntries f es)
  | v => v

/-- Values with something else for every part of a ring in them. -/
def replaceAll (f : Bool → Nat → List (Nat × Value) → Value) : List Value → List Value
  | [] => []
  | v :: vs => replaceAgain f v :: replaceAll f vs

/-- An entry with something else for every part of a ring in its value. -/
def replaceEntry (f : Bool → Nat → List (Nat × Value) → Value) : Value × Value → Value × Value
  | (k, v) => (k, replaceAgain f v)

/-- Entries with something else for every part of a ring in their values. -/
def replaceEntries (f : Bool → Nat → List (Nat × Value) → Value) :
    List (Value × Value) → List (Value × Value)
  | [] => []
  | e :: es => replaceEntry f e :: replaceEntries f es

end

/-- The value with the parts of a ring given wherever one of them stands in it. -/
def withParts (parts : List (Nat × Value)) (v : Value) : Value :=
  replaceAgain (fun isMap n _ => again isMap n parts) v

/-- The value itself, in which the parts of a ring may stand, where it is such a part. -/
def opened : Value → Value
  | again isMap n parts => ((parts.lookup n).map (withParts parts)).getD (again isMap n parts)
  | v => v

/-- A part of a ring without end, up to where one of the parts around it stands again. At most so
many parts as `fuel` says are looked into. -/
def expand (parts : List (Nat × Value)) : Nat → List Nat → Bool → Nat → Value
  | 0, _, isMap, n => again isMap n []
  | fuel + 1, around, isMap, n =>
    match if around.contains n then none else parts.lookup n with
    | none => again isMap n []
    | some v => replaceAgain (fun isMap m _ => expand parts fuel (n :: around) isMap m) v

/-- The value with every part of a ring expanded. -/
def expanded (v : Value) : Value :=
  replaceAgain (fun isMap n parts => expand parts parts.length [] isMap n) v

mutual

/-- How many values stand in a value, itself and the parts of rings among them. -/
def weight : Value → Nat
  | list vs | tuple vs | set vs => weights vs + 1
  | map es => entryWeights es + 1
  | again _ _ parts => partWeights parts + 1
  | _ => 1

/-- How many values stand in some values. -/
def weights : List Value → Nat
  | [] => 0
  | v :: vs => weight v + weights vs

/-- How many values stand in an entry. -/
def entryWeight : Value × Value → Nat
  | (k, v) => weight k + weight v

/-- How many values stand in some entries. -/
def entryWeights : List (Value × Value) → Nat
  | [] => 0
  | e :: es => entryWeight e + entryWeights es

/-- How many values stand in a part of a ring. -/
def partWeight : Nat × Value → Nat
  | (_, v) => weight v

/-- How many values stand in some parts of a ring. -/
def partWeights : List (Nat × Value) → Nat
  | [] => 0
  | p :: ps => partWeight p + partWeights ps

end

/-- The items of a value that has some: the keys of a mapping, the characters of a text. -/
def items? (v : Value) : Option (List Value) :=
  match v.opened with
  | list vs | tuple vs | set vs => some vs
  | map es => some (es.map (·.1))
  | text s => some (s.toList.map fun c => text (String.singleton c))
  | broken t => some (t.points.map fun p => ofPoints [p])
  | bytes bs => some (bs.map fun b => int b.toNat)
  | _ => none

/-- The entries of a mapping; any other value has none. -/
def entries (v : Value) : Mapping :=
  match v.opened with
  | map es => es
  | _ => []

/-! ### Texts -/

/-- Code points are those of a string, or of a broken text. -/
theorem ofPoints_cases (ps : List Text.Point) :
    (∃ s, ofPoints ps = text s ∧ ps = Text.points s) ∨
      ∃ t : Text.Broken, ofPoints ps = broken t ∧ ps = t.points := by
  unfold ofPoints
  split
  · rename_i s h
    refine .inl ⟨_, rfl, ?_⟩
    rw [Text.points, String.toList_ofList, Text.pointsOf_of_chars? h]
  · rename_i h
    exact .inr ⟨⟨ps, h⟩, rfl, rfl⟩

end Value
end TypeMismatch
