/-!
# Classes of characters as ranges of code points

A class of characters is a list of closed ranges of code points, ascending and apart. The classes
of this library are properties of the Unicode standard, version 14.0.
-/

namespace TypeMismatch
namespace Text

/-- Closed ranges of code points, ascending and apart. -/
abbrev Ranges := List (Nat × Nat)

/-- Whether a code point lies in one of the ranges. -/
def Ranges.has (rs : Ranges) (n : Nat) : Bool := rs.any fun r => r.1 ≤ n && n ≤ r.2

end Text
end TypeMismatch
