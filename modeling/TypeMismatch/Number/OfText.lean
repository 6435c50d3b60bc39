import TypeMismatch.Number.Binary64
import TypeMismatch.Text.Blank
import TypeMismatch.Text.Digit
import TypeMismatch.Text.Split

/-!
# Numbers in text

A text that stands for a number may have blanks around it and a sign before it, and its decimal
digits may be of any script. An integer may have single underscores between its digits; in base 2, 8
or 16 it may have the mark of its base before them, `0b`, `0o` or `0x`, in either case. A number may
have a point and an exponent, or be one of the words for an infinity or for the NaN.

Source: `int` and `float` of a text, as `_coerce_int`, `_parse_span` and `safe_load` call them.
-/

namespace TypeMismatch
namespace Number

/-- Why a text stands for no integer. -/
inductive TextFault where
  | notNumber
  /-- The text has more digits than are read as one number. -/
  | tooLong (digits : Nat)
deriving DecidableEq, Repr

/-- Whether a character may stand around the text of a number. The information separators are blank
but do not count here. -/
def isOuterBlank (c : Char) : Bool :=
  Text.isBlank c && !(0x1C ≤ c.toNat && c.toNat ≤ 0x1F)

/-- A text without the blanks around it. -/
def trim (s : List Char) : List Char :=
  ((s.dropWhile isOuterBlank).reverse.dropWhile isOuterBlank).reverse

/-- Whether a text begins with a minus sign, and the text behind its sign. -/
def splitSign (s : List Char) : Bool × List Char :=
  match s with
  | '-' :: rest => (true, rest)
  | '+' :: rest => (false, rest)
  | _ => (false, s)

/-- The value of a letter as a digit. -/
def letterDigit? (c : Char) : Option Nat :=
  if 'a' ≤ c && c ≤ 'f' then some (c.toNat - 0x57)
  else if 'A' ≤ c && c ≤ 'F' then some (c.toNat - 0x37)
  else none

/-- The value of a digit of a base up to sixteen. -/
def digitIn? (base : Nat) (c : Char) : Option Nat :=
  ((Text.digit? c).or (letterDigit? c)).filter (· < base)

/-- The number that digits of a base stand for. -/
def valueIn (base : Nat) (ds : List Char) : Nat :=
  ds.foldl (fun n c => base * n + (digitIn? base c).getD 0) 0

/-- The letter of the mark of a base. -/
def baseLetter? (base : Nat) : Option Char := [(2, 'b'), (8, 'o'), (16, 'x')].lookup base

/-- The text behind the mark of a base, and behind an underscore after it, if the mark is there. -/
def skipMark (base : Nat) (s : List Char) : List Char :=
  match s with
  | '0' :: c :: rest =>
    if some c.toLower = baseLetter? base then
      match rest with
      | '_' :: rest => rest
      | _ => rest
    else s
  | _ => s

/-- The number that digits of a base with single underscores between them stand for. In base ten
their number is limited. -/
def ofDigits (base : Nat) (s : List Char) : Except TextFault Nat :=
  let run := s.takeWhile fun c => c == '_' || (digitIn? base c).isSome
  let digits := run.filter (· != '_')
  if base = 10 && Text.maxDigits < digits.length then .error (.tooLong digits.length)
  else if run.length = s.length && (Text.split '_' s).all (!·.isEmpty) then
    .ok (valueIn base digits)
  else .error .notNumber

/-- The integer in a base that a text stands for. -/
def integer (base : Nat) (s : List Char) : Except TextFault Int :=
  let (negative, body) := splitSign (trim s)
  (ofDigits base (skipMark base body)).map (Binary64.signed negative)

/-- The words for infinities, behind the sign. -/
def infinityWords : List String := ["inf", "infinity"]

/-- The power of ten of an exponent, nothing standing for zero. -/
def exponent? (s : List Char) : Option Int :=
  match s with
  | [] => some 0
  | e :: rest =>
    let (negative, ds) := splitSign rest
    if e.toLower = 'e' && !ds.isEmpty && ds.all Text.isDigit then
      some (Binary64.signed negative (Text.digitsValue ds))
    else none

/-- The number that a text without a sign stands for. -/
def magnitude? (s : List Char) : Option Binary64 :=
  let word := String.ofList (s.map Char.toLower)
  if infinityWords.contains word then some (.infinity false)
  else if word = "nan" then some .nan
  else do
    let whole := s.takeWhile Text.isDigit
    let (fraction, rest) := match s.drop whole.length with
      | '.' :: rest => (rest.takeWhile Text.isDigit, rest.dropWhile Text.isDigit)
      | rest => ([], rest)
    let e ← exponent? rest
    if whole.isEmpty && fraction.isEmpty then none
    else some (.ofDecimal false (Text.digitsValue (whole ++ fraction)) (e - fraction.length))

/-- The number that a text stands for. -/
def binary64? (s : List Char) : Option Binary64 :=
  let (negative, body) := splitSign (trim s)
  (magnitude? body).map fun x => if negative then x.neg else x

end Number
end TypeMismatch
