/-!
# Decimal digits and numerals

A decimal digit is a character of the general category `Nd` (Unicode 14.0). These come in runs of
ten consecutive code points, one run a script, so a digit's value is its distance from the zero of
its run. A run of digits is read in base ten whatever scripts its digits come from, and a number is
always written with the ASCII digits.

Source: the digits of the pattern for arities, and `int` of them in `_parse_span`.
-/

namespace TypeMismatch
namespace Text

/-- The code points of the zeros; the other nine digits of a run follow its zero. -/
def digitZeros : List Nat :=
  [0x30, 0x660, 0x6F0, 0x7C0, 0x966, 0x9E6, 0xA66, 0xAE6, 0xB66, 0xBE6, 0xC66, 0xCE6, 0xD66,
   0xDE6, 0xE50, 0xED0, 0xF20, 0x1040, 0x1090, 0x17E0, 0x1810, 0x1946, 0x19D0, 0x1A80, 0x1A90,
   0x1B50, 0x1BB0, 0x1C40, 0x1C50, 0xA620, 0xA8D0, 0xA900, 0xA9D0, 0xA9F0, 0xAA50, 0xABF0,
   0xFF10, 0x104A0, 0x10D30, 0x11066, 0x110F0, 0x11136, 0x111D0, 0x112F0, 0x11450, 0x114D0,
   0x11650, 0x116C0, 0x11730, 0x118E0, 0x11950, 0x11C50, 0x11D50, 0x11DA0, 0x16A60, 0x16AC0,
   0x16B50, 0x1D7CE, 0x1D7D8, 0x1D7E2, 0x1D7EC, 0x1D7F6, 0x1E140, 0x1E2F0, 0x1E950, 0x1FBF0]

/-- The value of a decimal digit, or nothing for any other character. -/
def digit? (c : Char) : Option Nat :=
  (digitZeros.find? fun z => z ≤ c.toNat && c.toNat ≤ z + 9).map (c.toNat - ·)

/-- Whether a character is a decimal digit of some script. -/
def isDigit (c : Char) : Bool := (digit? c).isSome

/-- The number that a run of decimal digits stands for. -/
def digitsValue (ds : List Char) : Nat :=
  ds.foldl (fun n c => 10 * n + (digit? c).getD 0) 0

/-- The ASCII decimal numeral of a natural number, without leading zeros. -/
def numeral (n : Nat) : List Char := Nat.toDigits 10 n

/-- The ASCII decimal numeral of an integer, with a minus sign if it is negative. -/
def intNumeral : Int → List Char
  | .ofNat n => numeral n
  | .negSucc n => '-' :: numeral (n + 1)

/-- The most digits that are read or written as one number. -/
def maxDigits : Nat := 4300

/-- The message over a numeral with too many digits to be read. -/
def tooManyToRead (digits : Nat) : String :=
  "Exceeds the limit (" ++ String.ofList (numeral maxDigits)
    ++ " digits) for integer string conversion: value has " ++ String.ofList (numeral digits)
    ++ " digits; use sys.set_int_max_str_digits() to increase the limit"

/-- The message over a number with too many digits to be written. -/
def tooManyToWrite : String :=
  "Exceeds the limit (" ++ String.ofList (numeral maxDigits)
    ++ " digits) for integer string conversion; "
    ++ "use sys.set_int_max_str_digits() to increase the limit"

/-- A number in lower-case base-sixteen digits, padded with zeros to at least `width`. -/
def hexadecimal (width n : Nat) : List Char :=
  let ds := Nat.toDigits 16 n
  List.replicate (width - ds.length) '0' ++ ds

end Text
end TypeMismatch
