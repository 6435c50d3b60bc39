import TypeMismatch.Document.Scalar
import TypeMismatch.Document.Timestamp
import TypeMismatch.Number.Arithmetic
import TypeMismatch.Number.OfText
import TypeMismatch.Text.Split

/-!
# Plain scalars as values

What a plain scalar stands for shows in its form:

| form | value |
| --- | --- |
| empty, `~`, `null` | null |
| `yes`, `no`, `on`, `off`, `true`, `false` | true or false |
| `10`, `0b10`, `010`, `0x10`, `1:30` | an integer in base 10, 2, 8, 16 or 60 |
| `1.5`, `.5`, `1.`, `1.5e+3`, `1:30.5`, `.inf`, `.nan` | a number |
| `2001-12-14`, `2001-12-14 21:59:43.1 -5` | a date, a moment |
| anything else | text |

Words are also taken with a capital and in capitals. Digits may have underscores between and behind
them, which do not count. Signs may stand before integers, before infinities, and before numbers
that begin with a digit. An exponent needs a sign. The parts of a number in base 60 are multiplied
and added from the last one on, each step rounded.

Source: the implicit types of `safe_load`, which `load_config` and `_load_config` call, and the
makers of their values.
-/

namespace TypeMismatch
namespace Document

namespace Atom

/-- Whether a text is a word, in lower case, with a capital or in capitals. -/
def isWord (word text : List Char) : Bool :=
  text == word || text == word.map Char.toUpper
    || text == (word.take 1).map Char.toUpper ++ word.drop 1

/-- Whether a text is one of some words. -/
def isOneOf (words : List String) (text : List Char) : Bool :=
  words.any fun w => isWord w.toList text

/-- Whether a character is an ASCII digit. -/
def isAsciiDigit (c : Char) : Bool := '0' ≤ c && c ≤ '9'

/-- Whether a character is a digit of a base, or an underscore. -/
def isDigitOf (base : Nat) (c : Char) : Bool :=
  c == '_' || (hexDigit? c).any (· < base)

/-- A text without its underscores. -/
def withoutUnderscores (s : List Char) : List Char := s.filter (· != '_')

/-- Whether a text begins with a digit that is not zero and goes on with digits and underscores. -/
def isDecimal (s : List Char) : Bool :=
  match s with
  | c :: cs => isAsciiDigit c && c != '0' && cs.all (isDigitOf 10)
  | [] => false

/-- Whether a part behind a colon is a number below sixty. -/
def isSixtieth (s : List Char) : Bool :=
  match s with
  | [c] => isAsciiDigit c
  | [c, d] => '0' ≤ c && c ≤ '5' && isAsciiDigit d
  | _ => false

/-- How an integer is written. -/
inductive IntegerForm where
  | based (base : Nat) (digits : List Char)
  | sixties (parts : List (List Char))

/-- The form of an integer without its sign. -/
def integerForm? (s : List Char) : Option IntegerForm :=
  match s with
  | ['0'] => some (.based 10 s)
  | '0' :: c :: cs =>
    if c = 'b' then if !cs.isEmpty && cs.all (isDigitOf 2) then some (.based 2 cs) else none
    else if c = 'x' then if !cs.isEmpty && cs.all (isDigitOf 16) then some (.based 16 cs) else none
    else if (c :: cs).all (isDigitOf 8) then some (.based 8 s)
    else none
  | s =>
    if isDecimal s then some (.based 10 s)
    else
      match Text.split ':' s with
      | first :: part :: parts =>
        if isDecimal first && (part :: parts).all isSixtieth then
          some (.sixties (first :: part :: parts))
        else none
      | _ => none

/-- The number that digits of a base stand for. -/
def inBase (base : Nat) (ds : List Char) : Nat :=
  ds.foldl (fun n c => base * n + (hexDigit? c).getD 0) 0

/-- The number that decimal digits stand for. -/
def decimal (ds : List Char) : Except DocumentFault Nat :=
  if Text.maxDigits < ds.length then .error (.numeralTooLong ds.length) else .ok (inBase 10 ds)

/-- The amount of an integer. -/
def IntegerForm.amount : IntegerForm → Except DocumentFault Nat
  | based base digits =>
    let ds := withoutUnderscores digits
    if ds.isEmpty then .error (.notInteger base [])
    else if base = 10 then decimal ds
    else .ok (inBase base ds)
  | sixties parts =>
    parts.foldlM (fun n p => (decimal (withoutUnderscores p)).map (60 * n + ·)) 0

/-- An exponent with its sign, or nothing at all. -/
def exponent? (s : List Char) : Option Int :=
  match s with
  | [] => some 0
  | e :: sign :: ds =>
    if (e = 'e' || e = 'E') && (sign = '+' || sign = '-') && !ds.isEmpty && ds.all isAsciiDigit then
      some (Binary64.signed (sign = '-') (inBase 10 ds))
    else none
  | _ => none

/-- The number of a whole part, the digits behind the point and an exponent. -/
def fixed (negative : Bool) (whole fraction : List Char) (exponent : Int) : Value :=
  let w := withoutUnderscores whole
  let f := withoutUnderscores fraction
  .float (Binary64.ofDecimal negative (inBase 10 (w ++ f)) (exponent - f.length))

/-- The sum of numbers in base 60, of which the last comes first and stands for `60 ^ power`. -/
def sumOfSixties (sum : Binary64) (power : Nat) : List Binary64 → Except DocumentFault Binary64
  | [] => .ok sum
  | x :: xs =>
    match Binary64.ofInt? (Nat.pow 60 power) with
    | none => .error .powerTooLarge
    | some unit => sumOfSixties (sum.add (x.mul unit)) (power + 1) xs

/-- The number of parts in base 60, of which the last has a fraction. -/
def inSixties (negative : Bool) (parts : List (List Char)) (fraction : List Char) :
    Except DocumentFault Value :=
  let whole := parts.map withoutUnderscores
  let f := withoutUnderscores fraction
  let last := Binary64.ofDecimal false (inBase 10 ((whole.getLast?.getD []) ++ f)) (-f.length)
  let others := whole.dropLast.map fun ds => Binary64.ofDecimal false (inBase 10 ds) 0
  (sumOfSixties (.finite false 0 Binary64.minExponent) 0 (last :: others.reverse)).map fun x =>
    .float (if negative then x.neg else x)

/-- Whether a text is the word for an infinity or for the NaN, with its sign. -/
def isSpecial (s : List Char) : Bool :=
  [".inf".toList, ".nan".toList].contains ((Number.splitSign s).2.map Char.toLower)

/-- The number with a point, if the text is one. -/
def number? (s : List Char) : Option (Except DocumentFault Value) :=
  let (negative, body) := Number.splitSign s
  let isSigned := body.length != s.length
  if [".inf".toList, ".Inf".toList, ".INF".toList].contains body then
    some (.ok (.float (.infinity negative)))
  else if !isSigned && [".nan".toList, ".NaN".toList, ".NAN".toList].contains body then
    some (.ok (.float .nan))
  else
    match Text.cut? '.' body with
    | none => none
    | some (whole, rest) =>
      let fraction := rest.takeWhile (isDigitOf 10)
      let tail := rest.dropWhile (isDigitOf 10)
      match whole with
      | [] =>
        if !isSigned && fraction.head?.any isAsciiDigit then
          (exponent? tail).map fun e => .ok (fixed negative [] fraction e)
        else none
      | c :: cs =>
        if isAsciiDigit c && cs.all (isDigitOf 10) then
          (exponent? tail).map fun e => .ok (fixed negative whole fraction e)
        else
          match Text.split ':' whole with
          | first :: part :: parts =>
            if first.head?.any isAsciiDigit && first.all (isDigitOf 10)
                && (part :: parts).all isSixtieth && tail.isEmpty then
              some (inSixties negative (first :: part :: parts) fraction)
            else none
          | _ => none

/-- The value of a plain scalar. -/
def value (s : List Char) : Except DocumentFault Value :=
  if s.isEmpty || s == ['~'] || isOneOf ["null"] s then .ok .null
  else if isOneOf ["yes", "true", "on"] s then .ok (.bool true)
  else if isOneOf ["no", "false", "off"] s then .ok (.bool false)
  else
    let (negative, body) := Number.splitSign s
    match number? s, integerForm? body, timestamp? s with
    | some v, _, _ => v
    | none, some form, _ => form.amount.map fun n => .int (Binary64.signed negative n)
    | none, none, some t => t.value.mapError .calendar
    | none, none, none => .ok (.text (String.ofList s))

end Atom
end Document
end TypeMismatch
