import TypeMismatch.Name.Signature
import TypeMismatch.Name.Suffix

/-!
# Shortening a pair of names

Two signatures are shortened together, so that what remains shows how they differ:

* two generic types keep the distinguishing ends of their paths, the last segment counting with
  its arity and nested types; their arguments are shortened in pairs, and arguments that only one of
  them has are reduced to their last segments;
* of a generic type and one that is not, each is reduced to its last segments at every level;
* two types that are not generic keep the distinguishing ends of their paths.

The shortened names are written out as the arguments come; only segments at the start of paths are
dropped. Shortening a pair (`resolve_signatures`) fails only where a node has no path or an arity of
too many digits, and so does reducing a name (`fully_shorten`), which asks the arguments of a node
before the node.
-/

namespace TypeMismatch

namespace Signature

mutual

/-- The name reduced to its last segments at every level. -/
def shortened : Signature → Except PathFault (List Char)
  | ⟨path, arity, arguments, ranks, nested⟩ => do
    let arguments ← shortenedAll arguments
    let name ← displayName ⟨path, arity, [], ranks, nested⟩
    pure (apply name arguments ++ ranks)

/-- Arguments reduced to their last segments at every level. -/
def shortenedAll : List Signature → Except PathFault (List (List Char))
  | [] => .ok []
  | a :: as => do
    let a ← shortened a
    let as ← shortenedAll as
    pure (a :: as)

end

/-- What two lists of segments keep so that they differ, in writing. -/
def ends (a b : List (List Char)) : Except PathFault (List Char × List Char) :=
  (Suffix.distinguish? a b).elim (.error .nothingToCompare) .ok

mutual

/-- Two names shortened to what tells them apart. -/
def resolve : Signature → Signature → Except PathFault (List Char × List Char)
  | ⟨p, m, as, r, e⟩, ⟨q, n, bs, s, f⟩ =>
    if 0 < m && 0 < n then do
      let a ← segments ⟨p, m, [], r, e⟩
      let b ← segments ⟨q, n, [], s, f⟩
      let (x, y) ← ends a b
      let (xs, ys) ← resolveAll as bs
      pure (apply x xs ++ r, apply y ys ++ s)
    else if 0 < m || 0 < n then do
      let x ← shortened ⟨p, m, as, r, e⟩
      let y ← shortened ⟨q, n, bs, s, f⟩
      pure (x, y)
    else do
      let (x, y) ← ends p q
      pure (x ++ r, y ++ s)

/-- Arguments in pairs; those without a counterpart on the other side are reduced to their last
segments. -/
def resolveAll :
    List Signature → List Signature → Except PathFault (List (List Char) × List (List Char))
  | a :: as, b :: bs => do
    let (x, y) ← resolve a b
    let (xs, ys) ← resolveAll as bs
    pure (x :: xs, y :: ys)
  | [], bs => do
    let ys ← shortenedAll bs
    pure ([], ys)
  | as, [] => do
    let xs ← shortenedAll as
    pure (xs, [])

end

end Signature
end TypeMismatch
