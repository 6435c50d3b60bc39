import TypeMismatch.Text.Split

/-!
# Distinguishing suffixes

Two paths are compared from their last segments backwards. The first place where they differ decides
how many segments both keep: the fewest that tell them apart. If they differ nowhere, one of them
ends with the other, and both keep one segment.

Source: `diff_suffixes` (`distinguish?`) and `shorten_type_names` (`shortenNames`).
-/

namespace TypeMismatch
namespace Suffix

variable {α : Type} [DecidableEq α]

/-- How many items two lists agree in at their start. -/
def agreement : List α → List α → Nat
  | a :: as, b :: bs => if a = b then agreement as bs + 1 else 0
  | _, _ => 0

/-- How many segments at their ends two paths keep. -/
def kept (a b : List α) : Nat :=
  let k := agreement a.reverse b.reverse
  if k < a.length && k < b.length then k + 1 else 1

/-- The last segments of a path, as many as are kept. -/
def last (k : Nat) (path : List α) : List α := path.drop (path.length - k)

/-- The distinguishing ends of two paths, if neither is empty. -/
def distinguish? (a b : List (List Char)) : Option (List Char × List Char) :=
  if a.isEmpty || b.isEmpty then none
  else some (['.'].intercalate (last (kept a b) a), ['.'].intercalate (last (kept a b) b))

/-- The distinguishing ends of two dotted names. A name has at least one segment. -/
def shortenNames (a b : List Char) : List Char × List Char :=
  let as := Text.split '.' a
  let bs := Text.split '.' b
  (['.'].intercalate (last (kept as bs) as), ['.'].intercalate (last (kept as bs) bs))

end Suffix
end TypeMismatch
