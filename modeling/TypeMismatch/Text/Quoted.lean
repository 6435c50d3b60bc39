import TypeMismatch.Text.Digit
import TypeMismatch.Text.Printable

/-!
# Quoted text

Messages show a text between quotation marks, so that its ends and its unprintable characters can be
seen. The mark is an apostrophe, or a double quote if the text holds an apostrophe and no double
quote. Inside,

| character | written |
| --- | --- |
| the mark, the backslash | a backslash before it |
| line feed, carriage return, tab | `\n`, `\r`, `\t` |
| another unprintable character | `\xNN`, `\uNNNN` or `\UNNNNNNNN`, the shortest that holds it |
| every other character | itself |

A string of bytes is quoted in the same way after the letter `b`, with the printable ASCII
characters as themselves and every other byte as `\xNN`.

Source: the quoted texts in the messages of `ParseError`, `parse_overrides` and `_coerce_level`.
-/

namespace TypeMismatch
namespace Text

/-- The apostrophe, the mark of quoted text unless the text itself holds one. -/
def apostrophe : Char := '\x27'

/-- The double quote, the mark of a text that holds an apostrophe and no double quote. -/
def doubleQuote : Char := '\x22'

/-- The backslash, which begins every escape. -/
def backslash : Char := '\x5c'

/-- The quotation mark for a text. -/
def quoteMark (s : List Char) : Char :=
  if s.contains apostrophe && !s.contains doubleQuote then doubleQuote else apostrophe

/-- The escape of an unprintable character by its code point. -/
def codeEscape (n : Nat) : List Char :=
  if n < 0x100 then backslash :: 'x' :: hexadecimal 2 n
  else if n < 0x10000 then backslash :: 'u' :: hexadecimal 4 n
  else backslash :: 'U' :: hexadecimal 8 n

/-- How a character is written between two marks. -/
def quoteChar (mark c : Char) : List Char :=
  if c = mark || c = backslash then [backslash, c]
  else if c = '\n' then [backslash, 'n']
  else if c = '\r' then [backslash, 'r']
  else if c = '\t' then [backslash, 't']
  else if isPrintable c then [c]
  else codeEscape c.toNat

/-- The text between quotation marks. -/
def quoteChars (s : List Char) : List Char :=
  let mark := quoteMark s
  mark :: s.flatMap (quoteChar mark) ++ [mark]

/-- The text between quotation marks, as a string. -/
def quote (s : String) : String := String.ofList (quoteChars s.toList)

/-- How a byte is written between two marks. -/
def quoteByte (mark : Char) (b : UInt8) : List Char :=
  let c := Char.ofNat b.toNat
  if c = mark || c = backslash then [backslash, c]
  else if c = '\n' then [backslash, 'n']
  else if c = '\r' then [backslash, 'r']
  else if c = '\t' then [backslash, 't']
  else if 0x20 ≤ b.toNat && b.toNat < 0x7F then [c]
  else backslash :: 'x' :: hexadecimal 2 b.toNat

/-- A string of bytes between quotation marks, after the letter `b`. -/
def quoteBytes (bs : List UInt8) : String :=
  let mark := quoteMark (bs.map fun b => Char.ofNat b.toNat)
  String.ofList ('b' :: mark :: bs.flatMap (quoteByte mark) ++ [mark])

end Text
end TypeMismatch
