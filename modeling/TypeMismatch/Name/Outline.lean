import TypeMismatch.Name.Signature

/-!
# Outlines

The outline of a signature has a line for each node, in the order of the full name. A line holds the
full path with its marker and the ranks, and is indented by two spaces for each level of nesting.

Source: `_outline`.
-/

namespace TypeMismatch
namespace Signature

/-- The line of a node at a level, without its arguments. -/
def outlineLine (level : Nat) (s : Signature) : Except PathFault (List Char) := do
  let segments ← s.segments
  pure (List.replicate (2 * level) ' ' ++ (dotted segments ++ s.ranks))

mutual

/-- The lines of a node and of its arguments. -/
def outlineAt (level : Nat) : Signature → Except PathFault (List (List Char))
  | ⟨path, arity, arguments, ranks, nested⟩ => do
    let line ← outlineLine level ⟨path, arity, [], ranks, nested⟩
    let below ← outlineAll (level + 1) arguments
    pure (line :: below)

/-- The lines of arguments. -/
def outlineAll (level : Nat) : List Signature → Except PathFault (List (List Char))
  | [] => .ok []
  | a :: as => do
    let lines ← outlineAt level a
    let rest ← outlineAll level as
    pure (lines ++ rest)

end

/-- The lines of an outline. -/
def outline (s : Signature) : Except PathFault (List (List Char)) := outlineAt 0 s

end Signature
end TypeMismatch
