/-!
# The nesting limit

A name nests its arguments in brackets within brackets. How deep is limited, so that no name can
exhaust the reader; at least one level is always allowed.

Source: the check of `max_depth` when a `TypeNameParser` is made.
-/

namespace TypeMismatch

/-- How many levels of arguments a name may have. -/
structure Limit where
  levels : Nat
  one_le : 1 ≤ levels
deriving DecidableEq

namespace Limit

/-- The limit where none is set. -/
def standard : Limit := ⟨64, by decide⟩

instance : Inhabited Limit := ⟨standard⟩

/-- The limit of a number of levels, which must be positive. -/
def ofInt? (n : Int) : Option Limit :=
  if h : 1 ≤ n then some ⟨n.toNat, by omega⟩ else none

end Limit
end TypeMismatch
