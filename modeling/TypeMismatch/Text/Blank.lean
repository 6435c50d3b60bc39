import TypeMismatch.Text.Ranges

/-!
# Blank characters

Blank characters separate and surround names: the white space of Unicode together with the four
information separators U+001C to U+001F. Trimming a text removes the blanks at its two ends and
nothing else.

Source: `isspace` in `_trim`, and `strip`.
-/

namespace TypeMismatch
namespace Text

/-- Ranges of the blank characters. -/
def blankRanges : Ranges :=
  [(0x9, 0xD), (0x1C, 0x20), (0x85, 0x85), (0xA0, 0xA0), (0x1680, 0x1680), (0x2000, 0x200A),
   (0x2028, 0x2029), (0x202F, 0x202F), (0x205F, 0x205F), (0x3000, 0x3000)]

/-- Whether a character is blank. -/
def isBlank (c : Char) : Bool := blankRanges.has c.toNat

/-- How many blanks a text begins with. -/
def leadingBlanks (s : List Char) : Nat := (s.takeWhile isBlank).length

/-- A text without the blanks at its end. -/
def trimEnd (s : List Char) : List Char := (s.reverse.dropWhile isBlank).reverse

/-- A text without the blanks at its two ends. -/
def trim (s : List Char) : List Char := trimEnd (s.dropWhile isBlank)

/-- A text that is empty once trimmed holds blanks only. -/
def isAllBlank (s : List Char) : Bool := s.all isBlank

end Text
end TypeMismatch
