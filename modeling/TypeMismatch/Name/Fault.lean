import TypeMismatch.Text.Quoted

/-!
# What can be wrong with a name

A name that cannot be read is at fault at one place, counted in characters from the start of the
whole name. A numeral of more digits than are read as one number is a failure of its own, without a
place.

Source: the texts and positions of `ParseError`, and the failure of `int` in `_parse_span`.
-/

namespace TypeMismatch
namespace Name

/-- Why a name cannot be read. -/
inductive Reason where
  /-- A closing bracket that closes nothing. -/
  | unmatched
  /-- An opening bracket that nothing closes. -/
  | unclosed
  /-- A name, or an argument, without anything but blanks. -/
  | empty
  /-- A segment without a character. -/
  | emptySegment
  /-- A segment with a character that cannot stand in one. -/
  | reserved (c : Char)
  /-- An arity that no arguments in brackets follow. -/
  | noArguments
  /-- An arity that differs from the number of arguments. -/
  | argumentCount (declared found : Nat)
  /-- Something behind the name that is no rank. -/
  | trailing
  /-- Arguments nested deeper than the limit. -/
  | tooDeep (limit : Nat)
deriving DecidableEq, Repr

/-- A reason and the place where it holds. -/
structure Fault where
  reason : Reason
  position : Nat
deriving DecidableEq, Repr

/-- Why reading a name fails. -/
inductive Failure where
  | fault (f : Fault)
  /-- An arity with more digits than are read as one number. -/
  | numeralTooLong (digits : Nat)
deriving DecidableEq, Repr

/-- The reason in words. -/
def Reason.message : Reason → String
  | unmatched => "unmatched ']'"
  | unclosed => "unclosed '['"
  | empty => "empty type name"
  | emptySegment => "empty namespace segment"
  | reserved c => "unexpected " ++ Text.quote (String.singleton c) ++ " in type name"
  | noArguments => "expected '[' after generic arity"
  | argumentCount declared found =>
    "declared arity " ++ String.ofList (Text.numeral declared) ++ " but found "
      ++ String.ofList (Text.numeral found) ++ " type argument(s)"
  | trailing => "unexpected text after type name"
  | tooDeep limit => "generic nesting exceeds " ++ String.ofList (Text.numeral limit) ++ " levels"

/-- The fault in words, with its column in the quoted name. -/
def Fault.message (f : Fault) (source : String) : String :=
  f.reason.message ++ " (column " ++ String.ofList (Text.numeral (f.position + 1)) ++ " of "
    ++ Text.quote source ++ ")"

end Name
end TypeMismatch
