import TypeMismatch.Text.Digit
import TypeMismatch.Text.Point
import TypeMismatch.Value.Calendar

/-!
# Faults of documents

A text may be no document, and a document may hold a scalar whose form promises a value that it does
not have. Each cause has one wording.

Source: the failures of `safe_load`; `load_config` tells of those that it knows, and the others go
through it.
-/

namespace TypeMismatch
namespace Document

/-- Why a document has no value. -/
inductive DocumentFault where
  /-- The text is no document of the format. -/
  | malformed
  /-- An escape has a code beyond the last character. -/
  | codeTooLarge
  /-- An escape has a code that needs more than 31 bits. -/
  | codeTooLong
  /-- An integer has more digits than are read as one number. -/
  | numeralTooLong (digits : Nat)
  /-- A text is not made of digits of a base. -/
  | notInteger (base : Nat) (text : List Text.Point)
  /-- A text is no decimal. -/
  | notDecimal (text : List Text.Point)
  /-- A power of sixty is beyond the numbers of the 64-bit format. -/
  | powerTooLarge
  /-- The numbers of a date or of a moment do not go together. -/
  | calendar (fault : Calendar.Fault)
  /-- A text that is marked as a moment has not the form of one. -/
  | notMoment
  /-- A mapping stands where the text of a moment is needed. -/
  | notText
  /-- A text that is marked as true or false is no such word. -/
  | notTruth (text : List Text.Point)
  /-- A text that is marked as a number is empty. -/
  | emptyNumber
deriving DecidableEq, Repr

/-- The fault in words. -/
def DocumentFault.message : DocumentFault → String
  | malformed => "malformed document"
  | codeTooLarge => "chr() arg not in range(0x110000)"
  | codeTooLong => "Python int too large to convert to C int"
  | numeralTooLong digits => Text.tooManyToRead digits
  | notInteger base text =>
    "invalid literal for int() with base " ++ String.ofList (Text.numeral base) ++ ": "
      ++ String.ofList (Text.quotePoints text)
  | notDecimal text =>
    "could not convert string to float: " ++ String.ofList (Text.quotePoints text)
  | powerTooLarge => "int too large to convert to float"
  | calendar fault => fault.message
  | notMoment => "'NoneType' object has no attribute 'groupdict'"
  | notText => "expected string or bytes-like object, got 'list'"
  | notTruth text => String.ofList (Text.quotePoints text)
  | emptyNumber => "string index out of range"

end Document
end TypeMismatch
