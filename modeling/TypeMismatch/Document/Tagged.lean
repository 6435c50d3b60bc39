import TypeMismatch.Document.Atom
import TypeMismatch.Number.OfText

/-!
# Scalars with tags

A tag says what a scalar is, whatever its form: text, null, true or false, an integer, a number, a
date or a moment, or bytes, which are written six bits a character. A text that is not of the form
its tag asks for is a fault. Any other tag has no meaning.

Source: `safe_load`, the makers of the values of tagged scalars.
-/

namespace TypeMismatch
namespace Document
namespace Tagged

/-- A tag of the format in full. -/
def tagOf (name : String) : String := "tag:yaml.org,2002:" ++ name

/-- A text in lower case. -/
def lowered (s : List Text.Point) : List Text.Point :=
  s.map fun
    | .char c => .char c.toLower
    | p => p

/-- The value of a word for true or false, in any case. -/
def truth (s : List Text.Point) : Except DocumentFault Value :=
  let isOneOf (words : List String) := words.any fun w => Text.points w = lowered s
  if isOneOf ["yes", "true", "on"] then .ok (.bool true)
  else if isOneOf ["no", "false", "off"] then .ok (.bool false)
  else .error (.notTruth (lowered s))

/-- A text with a character that is in no number for every half of one. -/
def standIn (s : List Text.Point) : List Char := s.map fun p => p.char?.getD '?'

/-- Whether a text begins with a minus sign, and the text behind its sign. -/
def splitSign (s : List Text.Point) : Bool × List Text.Point :=
  match s with
  | .char '-' :: rest => (true, rest)
  | .char '+' :: rest => (false, rest)
  | _ => (false, s)

/-- A text without its underscores. -/
def withoutUnderscores (s : List Text.Point) : List Text.Point := s.filter (· != .char '_')

/-- The integer in a base that a text stands for. -/
def integerIn (base : Nat) (s : List Text.Point) : Except DocumentFault Int :=
  match Number.integer base (standIn s) with
  | .ok n => .ok n
  | .error (.tooLong digits) => .error (.numeralTooLong digits)
  | .error .notNumber => .error (.notInteger base s)

/-- The integer whose parts in base sixty have colons between them. -/
def inSixties (s : List Text.Point) : Except DocumentFault Int := do
  let parts ← (Text.split (.char ':') s).mapM (integerIn 10)
  pure (parts.foldl (fun n d => 60 * n + d) 0)

/-- The integer that a text is. -/
def wholeNumber (s : List Text.Point) : Except DocumentFault Value :=
  let (negative, body) := splitSign (withoutUnderscores s)
  let signed (n : Int) : Value := .int (if negative then -n else n)
  signed <$> match body with
    | [] => .error .emptyNumber
    | [.char '0'] => .ok 0
    | .char '0' :: .char 'b' :: ds => integerIn 2 ds
    | .char '0' :: .char 'x' :: ds => integerIn 16 ds
    | .char '0' :: _ => integerIn 8 body
    | body => if body.contains (.char ':') then inSixties body else integerIn 10 body

/-- The number that a text stands for. -/
def decimal (s : List Text.Point) : Except DocumentFault Binary64 :=
  match Number.binary64? (standIn s) with
  | some x => .ok x
  | none => .error (.notDecimal s)

/-- The number that a text is. A NaN that is read from a word is made at its place. -/
def number (s : List Text.Point) (place : Nat) : Except DocumentFault Value :=
  let s := lowered (withoutUnderscores s)
  let (negative, body) := splitSign s
  let signed (x : Binary64) : Value := .madeAt place (if negative then x.neg else x)
  if s.isEmpty then .error .emptyNumber
  else if body == Text.points ".inf" then .ok (signed (.infinity false))
  else if body == Text.points ".nan" then .ok (.float .nan)
  else if body.contains (.char ':') then do
    let parts ← (Text.split (.char ':') body).mapM decimal
    signed <$> Atom.sumOfSixties (.finite false 0 Binary64.minExponent) 0 parts.reverse
  else signed <$> decimal body

/-- The date or the moment that a text is. -/
def moment (s : List Text.Point) : Except DocumentFault Value :=
  match (Text.chars? s).bind fun s => Timestamp.ofText? false (formOf s) with
  | some t => t.value.mapError .calendar
  | none => .error .notMoment

/-- The six bits that a character stands for. -/
def sixBits? (c : Char) : Option Nat :=
  if 'A' ≤ c && c ≤ 'Z' then some (c.toNat - 0x41)
  else if 'a' ≤ c && c ≤ 'z' then some (c.toNat - 0x61 + 26)
  else if '0' ≤ c && c ≤ '9' then some (c.toNat - 0x30 + 52)
  else if c = '+' then some 62
  else if c = '/' then some 63
  else none

/-- The bytes that characters stand for, of which `count`, worth `bits`, wait for a whole group, and
`marks` equals signs have come since. Other characters do not count. -/
def bytesFrom? (count bits marks : Nat) : List Char → Option (List UInt8)
  | [] => if count = 0 then some [] else none
  | c :: s =>
    if c = '=' then
      if 2 ≤ count && 4 ≤ count + marks + 1 then some []
      else bytesFrom? count bits (if 2 ≤ count then marks + 1 else marks) s
    else
      match sixBits? c with
      | none => bytesFrom? count bits marks s
      | some n =>
        let all := 64 * bits + n
        match count with
        | 0 => bytesFrom? 1 n 0 s
        | 1 => (bytesFrom? 2 (all % 16) 0 s).map ((all / 16).toUInt8 :: ·)
        | 2 => (bytesFrom? 3 (all % 4) 0 s).map ((all / 4).toUInt8 :: ·)
        | _ => (bytesFrom? 0 0 0 s).map (all.toUInt8 :: ·)

/-- The bytes that a text of ASCII characters stands for. -/
def bytes (s : List Text.Point) : Except DocumentFault Value :=
  match if s.all (·.code < 0x80) then bytesFrom? 0 0 0 (standIn s) else none with
  | some bs => .ok (.bytes bs)
  | none => .error .malformed

/-- Whether a tag is one of scalars. -/
def isScalarTag (tag : String) : Bool :=
  ["str", "null", "bool", "int", "float", "timestamp", "binary"].any fun name => tag = tagOf name

/-- Whether a tag is one of collections. -/
def isCollectionTag (tag : String) : Bool :=
  ["seq", "omap", "pairs", "map", "set"].any fun name => tag = tagOf name

/-- The value of a scalar with a tag, at a place. -/
def value (tag : String) (s : List Text.Point) (place : Nat) : Except DocumentFault Value :=
  if tag = tagOf "str" then .ok (.ofPoints s)
  else if tag = tagOf "null" then .ok .null
  else if tag = tagOf "bool" then truth s
  else if tag = tagOf "int" then wholeNumber s
  else if tag = tagOf "float" then number s place
  else if tag = tagOf "timestamp" then moment s
  else if tag = tagOf "binary" then bytes s
  else .error .malformed

end Tagged
end Document
end TypeMismatch
