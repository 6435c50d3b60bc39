import TypeMismatch.Text.Digit

/-!
# Signatures of type names

A type name such as ``System.Collections.Generic.List`1[System.Int32][]`` is held as a tree. A node
has the segments of its path, the outermost first, and, if it is generic, its arity, the chain of
types nested in it, and one argument for each parameter. The ranks of an array type stand at the
end. Names are handled as lists of characters.

The full name of a signature writes every path in full (`render_signature`). Reading a name yields
nodes with a path, of an arity that was read as a number and can be written as one; a signature that
is put together otherwise may have a node without a path or of a longer arity, and then it has no
name. A node without a path is found at fault before its arity is looked at (`display_name`).
-/

namespace TypeMismatch

/-- A type name as a tree. -/
structure Signature where
  path : List (List Char)
  arity : Int
  arguments : List Signature
  ranks : List Char
  nested : List Char
deriving Repr

/-- Why signatures have no name or cannot be shortened. -/
inductive PathFault where
  /-- The last segment of an empty path is asked for. -/
  | noLastSegment
  /-- An arity has more digits than are written as one number. -/
  | arityTooLong
  /-- An empty path is compared. -/
  | nothingToCompare
deriving DecidableEq, Repr

/-- The fault in words. -/
def PathFault.message : PathFault → String
  | noLastSegment => "tuple index out of range"
  | arityTooLong => Text.tooManyToWrite
  | nothingToCompare => "segment sequences must not be empty"

namespace Signature

/-- The signature of a type that is not generic. -/
def plain (path : List (List Char)) (ranks : List Char) : Signature := ⟨path, 0, [], ranks, []⟩

instance : Inhabited Signature := ⟨plain [] []⟩

/-- The character that stands before an arity. -/
def arityMark : Char := '\x60'

/-- Segments with points between them. -/
def dotted (segments : List (List Char)) : List Char := ['.'].intercalate segments

/-- Whether a type is generic. -/
def isGeneric (s : Signature) : Bool := 0 < s.arity

/-- What a generic type has behind its last segment: the arity and the nested types. -/
def marker (s : Signature) : List Char :=
  if s.isGeneric then arityMark :: (Text.intNumeral s.arity ++ s.nested) else []

/-- Whether a generic type has an arity of more digits than are written as one number. -/
def hasLongArity (s : Signature) : Bool :=
  s.isGeneric && Text.maxDigits < (Text.intNumeral s.arity).length

/-- The last segment of the path. -/
def name? (s : Signature) : Option (List Char) := s.path.getLast?

/-- The last segment with the arity and the nested types. The segment is asked for first, then the
arity is written. -/
def displayName (s : Signature) : Except PathFault (List Char) :=
  match s.name? with
  | none => .error .noLastSegment
  | some name => if s.hasLongArity then .error .arityTooLong else .ok (name ++ s.marker)

/-- The segments of the path, the last one with the arity and the nested types. -/
def segments (s : Signature) : Except PathFault (List (List Char)) := do
  let name ← s.displayName
  pure (s.path.dropLast ++ [name])

/-- The segments of the path with the arity and the nested types, if there are any. -/
def qualified? (s : Signature) : Option (List (List Char)) := s.segments.toOption

/-- A name with its arguments in brackets; without arguments, the name alone. -/
def apply (name : List Char) (arguments : List (List Char)) : List Char :=
  if arguments.isEmpty then name else name ++ '[' :: ([','].intercalate arguments ++ [']'])

mutual

/-- The full name. The segments of a node are asked for before those of its arguments. -/
def text : Signature → Except PathFault (List Char)
  | ⟨path, arity, arguments, ranks, nested⟩ => do
    let segments ← segments ⟨path, arity, [], ranks, nested⟩
    let arguments ← textAll arguments
    pure (apply (dotted segments) arguments ++ ranks)

/-- The full names of arguments. -/
def textAll : List Signature → Except PathFault (List (List Char))
  | [] => .ok []
  | a :: as => do
    let a ← text a
    let as ← textAll as
    pure (a :: as)

end

/-- The full name, if there is one. -/
def text? (s : Signature) : Option (List Char) := s.text.toOption

mutual

/-- How deep arguments are nested: zero without arguments. -/
def depth : Signature → Nat
  | ⟨_, _, arguments, _, _⟩ => depths arguments

/-- One more than the greatest depth of arguments, zero if there are none. -/
def depths : List Signature → Nat
  | [] => 0
  | a :: as => max (depth a + 1) (depths as)

end

mutual

/-- Whether two signatures are the same tree. -/
def same : Signature → Signature → Bool
  | ⟨p, n, as, r, e⟩, ⟨p', n', as', r', e'⟩ =>
    p == p' && n == n' && sameAll as as' && r == r' && e == e'

/-- Whether two lists of signatures are the same trees. -/
def sameAll : List Signature → List Signature → Bool
  | [], [] => true
  | a :: as, b :: bs => same a b && sameAll as bs
  | _, _ => false

end

mutual

/-- Signatures that compare as the same tree are equal. -/
theorem eq_of_same : ∀ {a b : Signature}, same a b = true → a = b
  | ⟨_, _, as, _, _⟩, ⟨_, _, bs, _, _⟩, h => by
    simp only [same, Bool.and_eq_true, beq_iff_eq] at h
    obtain ⟨⟨⟨⟨rfl, rfl⟩, h⟩, rfl⟩, rfl⟩ := h
    rw [eq_of_sameAll h]

/-- So are lists of signatures. -/
theorem eq_of_sameAll : ∀ {as bs : List Signature}, sameAll as bs = true → as = bs
  | [], [], _ => rfl
  | a :: as, b :: bs, h => by
    simp only [sameAll, Bool.and_eq_true] at h
    rw [eq_of_same h.1, eq_of_sameAll h.2]
  | [], _ :: _, h => by simp [sameAll] at h
  | _ :: _, [], h => by simp [sameAll] at h

end

mutual

/-- A signature is the same tree as itself. -/
theorem same_self : ∀ a : Signature, same a a = true
  | ⟨_, _, as, _, _⟩ => by simp [same, sameAll_self as]

/-- So is a list of signatures. -/
theorem sameAll_self : ∀ as : List Signature, sameAll as as = true
  | [] => rfl
  | a :: as => by simp [sameAll, same_self a, sameAll_self as]

end

/-- The comparison of trees decides equality. -/
theorem same_iff {a b : Signature} : same a b = true ↔ a = b :=
  ⟨eq_of_same, fun h => h ▸ same_self a⟩

instance : DecidableEq Signature := fun a b => decidable_of_iff (same a b = true) same_iff

end Signature
end TypeMismatch
