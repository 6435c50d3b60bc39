import TypeMismatch.Document.Fault
import TypeMismatch.Value

/-!
# Timestamps

A date is written `2001-12-14`. A moment is written with the time behind the date, after a `T` or
after blanks; then a month, a day and an hour may have one digit. A fraction of a second and an
offset from universal time may follow, `Z` for none: `2001-12-14T21:59:43.10-05:00`. Of a fraction
six digits count.

Source: `safe_load`, the maker of dates and moments.
-/

namespace TypeMismatch
namespace Document

/-- The form of a text, for which one line feed at its end does not count. -/
def formOf (text : List Char) : List Char :=
  if text.getLast? = some '\n' then text.dropLast else text

/-- A timestamp as it is written; the offset is in seconds. -/
structure Timestamp where
  year : Nat
  month : Nat
  day : Nat
  time : Option (Nat × Nat × Nat)
  microsecond : Nat
  offset : Option Int
deriving DecidableEq, Repr

namespace Timestamp

/-- A number of some ASCII digits, as many as there are up to a number, and the text behind it. -/
def number? (least most : Nat) (s : List Char) : Option (Nat × List Char) :=
  let ds := (s.take most).takeWhile fun c => '0' ≤ c && c ≤ '9'
  if ds.length < least then none else some (Text.digitsValue ds, s.drop ds.length)

/-- The text behind a character. -/
def behind? (c : Char) (s : List Char) : Option (List Char) :=
  match s with
  | d :: rest => if c = d then some rest else none
  | [] => none

/-- Whether a character is a space or a tab. -/
def isGap (c : Char) : Bool := c == ' ' || c == '\t'

/-- The text behind what stands between a date and a time. -/
def behindDate? (s : List Char) : Option (List Char) :=
  match s with
  | c :: rest =>
    if c = 'T' || c = 't' then some rest
    else if isGap c then some (rest.dropWhile isGap)
    else none
  | [] => none

/-- The microseconds of a fraction, and the text behind it. -/
def fraction (s : List Char) : Nat × List Char :=
  match s with
  | '.' :: rest =>
    let ds := rest.takeWhile fun c => '0' ≤ c && c ≤ '9'
    let kept := ds.take 6
    (Text.digitsValue (kept ++ List.replicate (6 - kept.length) '0'), rest.drop ds.length)
  | s => (0, s)

/-- The offset that a text is, nothing if it is empty. -/
def offset? (s : List Char) : Option (Option Int) :=
  match s, s.dropWhile isGap with
  | [], _ => some none
  | _, ['Z'] => some (some 0)
  | _, sign :: rest =>
    if sign = '+' || sign = '-' then do
      let (hours, rest) ← number? 1 2 rest
      let minutes ← match rest with
        | [] => some 0
        | rest => do
          let rest ← behind? ':' rest
          let (minutes, rest) ← number? 2 2 rest
          if rest.isEmpty then some minutes else none
      let seconds : Int := 3600 * hours + 60 * minutes
      some (some (if sign = '-' then -seconds else seconds))
    else none
  | _, [] => none

/-- The time and what follows it, behind a date. -/
def time? (year month day : Nat) (s : List Char) : Option Timestamp := do
  let s ← behindDate? s
  let (hour, s) ← number? 1 2 s
  let s ← behind? ':' s
  let (minute, s) ← number? 2 2 s
  let s ← behind? ':' s
  let (second, s) ← number? 2 2 s
  let (microsecond, s) := fraction s
  let offset ← offset? s
  pure ⟨year, month, day, some (hour, minute, second), microsecond, offset⟩

/-- The timestamp that a text is. A date alone has two digits for the month and for the day, if
`strict` holds. -/
def ofText? (strict : Bool) (s : List Char) : Option Timestamp := do
  let (year, rest) ← number? 4 4 s
  let rest ← behind? '-' rest
  let (month, rest) ← number? 1 2 rest
  let rest ← behind? '-' rest
  let (day, rest) ← number? 1 2 rest
  if rest.isEmpty then
    if strict && s.length != 10 then none else pure ⟨year, month, day, none, 0, none⟩
  else time? year month day rest

/-- The date or the moment of a timestamp. An offset must be shorter than a day. -/
def value (t : Timestamp) : Except Calendar.Fault Value := do
  match t.offset with
  | some seconds => if Calendar.daySeconds ≤ seconds.natAbs then throw (.offset seconds)
  | none => pure ()
  let date ← Date.ofNumbers t.year t.month t.day
  match t.time with
  | none => pure (.date date)
  | some (hour, minute, second) => do
    let m ← Moment.ofNumbers date hour minute second t.microsecond t.offset
    pure (.moment m)

end Timestamp

/-- The timestamp that a plain scalar is. -/
def timestamp? (s : List Char) : Option Timestamp := Timestamp.ofText? true s

end Document
end TypeMismatch
