import TypeMismatch.Text.Blank

/-!
# Machines

The text of a literal is read by recursion, and a machine has room for so many steps of it only. It
gives up on a text that nests too deeply: there is no memory for it, or too many steps are open at
once. How deep that is differs from machine to machine, so a machine is known by the texts on which
it gives up. The cause of giving up is the nesting, and no text of a few characters has enough of
it.

Source: the memory and the depth of calls that `literal_eval` needs; running out of either goes
through `_coerce_literal`.
-/

namespace TypeMismatch

/-- How a machine gives up on a text. -/
inductive Exhaustion where
  /-- There is no memory for what the text describes. -/
  | memory
  /-- Too many steps are open at once; the wording ends with where that is. -/
  | depth (place : String)
deriving DecidableEq, Repr

/-- The exhaustion in words, which are none for the memory. -/
def Exhaustion.message : Exhaustion → String
  | memory => ""
  | depth place => "maximum recursion depth exceeded" ++ place

/-- A machine: the texts on which it gives up as literals, and how. -/
structure Machine where
  exhausts? : String → Option Exhaustion
  /-- A text of a hundred characters between blanks is within the reach of every machine. -/
  short : ∀ text, (Text.trim text.toList).length ≤ 100 → exhausts? text = none

/-- A machine that never gives up. -/
def Machine.ample : Machine := ⟨fun _ => none, fun _ _ => rfl⟩

end TypeMismatch
