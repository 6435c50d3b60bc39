import TypeMismatch.Number.Binary64
import TypeMismatch.Text.Digit
import TypeMismatch.Value

/-!
# Numerals of literals

An integer is written in decimal without leading zeros, or in base 16, 8 or 2 after `0x`, `0o` or
`0b`; zero may be written with several zeros. A number with a point or an exponent is one of the
64-bit format, whatever zeros it begins with. With the letter `j` behind it a decimal is imaginary.
One underscore may stand between two digits, and after the mark of the base. Only ASCII digits
count. A numeral ends before the first character that cannot continue it. This must not be a letter,
unless it begins one of the words that may follow a number.

Source: `literal_eval`, the numerals of its tokenizer.
-/

namespace TypeMismatch
namespace Literal

/-- Whether a character is an ASCII digit. -/
def isAsciiDigit (c : Char) : Bool := '0' ≤ c && c ≤ '9'

/-- Whether a character can stand in a name: a letter, a digit, an underscore, or anything beyond
ASCII. -/
def isNameChar (c : Char) : Bool := c.isAlphanum || c == '_' || 0x80 ≤ c.toNat

/-- The value of a digit in a base up to sixteen. -/
def digitInBase? (base : Nat) (c : Char) : Option Nat :=
  let n := c.toNat
  let d := if isAsciiDigit c then some (n - 0x30)
    else if 'a' ≤ c && c ≤ 'f' then some (n - 0x57)
    else if 'A' ≤ c && c ≤ 'F' then some (n - 0x37)
    else none
  d.filter (· < base)

/-- The number that digits of a base stand for. -/
def valueInBase (base : Nat) (ds : List Char) : Nat :=
  ds.foldl (fun n c => base * n + (digitInBase? base c).getD 0) 0

/-- The digits at the start of a text, with single underscores between them left out, and the
rest. -/
def digitRun (base : Nat) : List Char → List Char × List Char
  | [] => ([], [])
  | [c] => if (digitInBase? base c).isSome then ([c], []) else ([], [c])
  | c :: d :: cs =>
    if (digitInBase? base c).isSome then
      if d = '_' then
        match cs with
        | e :: es =>
          if (digitInBase? base e).isSome then
            let (ds, rest) := digitRun base (e :: es)
            (c :: ds, rest)
          else ([c], d :: e :: es)
        | [] => ([c], [d])
      else
        let (ds, rest) := digitRun base (d :: cs)
        (c :: ds, rest)
    else ([], c :: d :: cs)

/-- An integer in base 16, 8 or 2 after the mark of its base. -/
def based (base : Nat) (cs : List Char) : Option (Value × List Char) :=
  let digits := match cs with
    | '_' :: rest => rest
    | _ => cs
  match digitRun base digits with
  | ([], _) => none
  | (ds, rest) => some (.int (valueInBase base ds), rest)

/-- The exponent of a decimal, if there is one. A sign without digits is refused. -/
def exponentPart (cs : List Char) : Option (Option Int × List Char) :=
  match cs with
  | e :: rest =>
    if e = 'e' || e = 'E' then
      let (isSigned, negative, digits) := match rest with
        | '-' :: r => (true, true, r)
        | '+' :: r => (true, false, r)
        | r => (false, false, r)
      match digitRun 10 digits with
      | ([], _) => if isSigned then none else some (none, cs)
      | (ds, rest) => some (some (Binary64.signed negative (valueInBase 10 ds)), rest)
    else some (none, cs)
  | [] => some (none, [])

/-- A decimal numeral: its whole part has been read, and the point is next if there is one. -/
def decimal (whole cs : List Char) : Option (Value × List Char) := do
  let (fraction, rest) := match cs with
    | '.' :: r => let (ds, rest) := digitRun 10 r; (some ds, rest)
    | _ => (none, cs)
  let (exponent, rest) ← exponentPart rest
  let places := fraction.getD []
  let amount := Binary64.ofDecimal false (valueInBase 10 (whole ++ places))
    (exponent.getD 0 - places.length)
  if rest.head? == some 'j' || rest.head? == some 'J' then
    some (.complex (.finite false 0 Binary64.minExponent) amount, rest.drop 1)
  else if fraction.isNone && exponent.isNone then
    let ds := whole.dropWhile (· = '0')
    if ds.isEmpty || (ds.length = whole.length && ds.length ≤ Text.maxDigits) then
      some (.int (valueInBase 10 ds), rest)
    else none
  else some (.float amount, rest)

/-- The words that may follow a number without a gap between. -/
def wordsBehind : List (List Char) :=
  ["and", "else", "for", "if", "in", "is", "or", "not"].map String.toList

/-- Whether a numeral can end before a text. -/
def endsNumeral (rest : List Char) : Bool :=
  !rest.head?.any isNameChar || wordsBehind.any (·.isPrefixOf rest)

/-- A numeral at the start of a text that begins with a digit, or with a point and a digit. -/
def numeral? (cs : List Char) : Option (Value × List Char) := do
  let (v, rest) ← match cs with
    | '0' :: mark :: rest =>
      if mark = 'x' || mark = 'X' then based 16 rest
      else if mark = 'o' || mark = 'O' then based 8 rest
      else if mark = 'b' || mark = 'B' then based 2 rest
      else let (ds, r) := digitRun 10 cs; decimal ds r
    | _ => let (ds, r) := digitRun 10 cs; decimal ds r
  if endsNumeral rest then some (v, rest) else none

end Literal
end TypeMismatch
