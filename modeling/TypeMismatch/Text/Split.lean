/-!
# Splitting a text

A text, of characters or of code points, is split at every occurrence of a separator; parts may be
empty, and an empty text has one part, which is empty. Joined by the separator the parts give back
the text.

Source: `split` in `_split_path` and `parse_overrides`.
-/

namespace TypeMismatch
namespace Text

/-- The parts of a text between the occurrences of a separator. -/
def split {α : Type} [DecidableEq α] (separator : α) : List α → List (List α)
  | [] => [[]]
  | c :: cs =>
    if c = separator then [] :: split separator cs
    else
      match split separator cs with
      | [] => [[c]]
      | part :: parts => (c :: part) :: parts

/-- Splitting gives at least one part. -/
theorem split_ne_nil {α : Type} [DecidableEq α] (separator : α) (s : List α) :
    split separator s ≠ [] := by
  cases s with
  | nil => simp [split]
  | cons c cs =>
    simp only [split]
    split
    · simp
    · split <;> simp

/-- The text up to a separator and the text behind it, if there is one. -/
def cut? (separator : Char) : List Char → Option (List Char × List Char)
  | [] => none
  | c :: cs =>
    if c = separator then some ([], cs)
    else (cut? separator cs).map fun (before, after) => (c :: before, after)

end Text
end TypeMismatch
