import TypeMismatch.Files
import TypeMismatch.Name.Signature
import TypeMismatch.Text.Quoted

/-!
# Handlers that fail

A logger gives its records to handlers. Most of them cannot fail in a way that is seen, so only the
others are kept: one that cannot write at all, one that has no level to compare with, one whose
limit is no number, one whose file cannot be opened when the first record comes, and one of which an
attribute was set that does not suit it. The package's own handler, which keeps what is shown, fails
on a record that has no message.

Source: the handlers that `dictConfig` has attached, and `emit` in each.
-/

namespace TypeMismatch

/-- How a handler fails on a record. -/
inductive OutletFault where
  /-- The handler cannot write. -/
  | cannotWrite
  /-- What is asked for an attribute is of a kind that does not have it. -/
  | noAttribute (kind name : String)
  /-- A limit or a level is a value of this kind, with which a number is compared. -/
  | noLimit (kind : String)
  /-- A value of this kind stands in the place of something that is called. -/
  | notCallable (kind : String)
  /-- A value of this kind stands in the place of filters. -/
  | notFilters (kind : String)
  /-- The file of the handler cannot be opened in its mode, for a reason in words. -/
  | noMode (reason : String)
  /-- The system does not open the file of the handler. -/
  | notOpened (error : OpenError) (path : String)
  /-- A value of this kind stands where a text is needed to open the file of the handler. -/
  | notText (parameter : String) (mayBeNull : Bool) (kind : String)
  /-- The file of the handler is opened in an encoding that is not known. -/
  | noEncoding (name : String)
  /-- The record tells of a signature that has no name, and so has no message. -/
  | noMessage (fault : PathFault)
deriving DecidableEq, Repr

/-- The fault in words. -/
def OutletFault.message : OutletFault → String
  | cannotWrite => "emit must be implemented by Handler subclasses"
  | noAttribute kind name => "'" ++ kind ++ "' object has no attribute '" ++ name ++ "'"
  | noLimit kind => "'>=' not supported between instances of 'int' and '" ++ kind ++ "'"
  | notCallable kind => "'" ++ kind ++ "' object is not callable"
  | notFilters kind => "'" ++ kind ++ "' object is not iterable"
  | noMode reason => reason
  | notOpened error path => error.message ++ ": " ++ Text.quote path
  | notText parameter mayBeNull kind =>
    "open() argument '" ++ parameter ++ "' must be str" ++ (if mayBeNull then " or None" else "")
      ++ ", not " ++ kind
  | noEncoding name => "unknown encoding: " ++ name
  | noMessage fault => fault.message

/-- Whether the fault is one that the system or a value causes, and not a mistake of kinds. -/
def OutletFault.isForeseen : OutletFault → Bool
  | noMode _ | notOpened _ _ => true
  | noMessage fault => fault != .noLastSegment
  | _ => false

/-- A handler that fails on the records from a level on. Without a level it fails on every one. -/
structure Outlet where
  level : Option Int
  fault : OutletFault
deriving DecidableEq, Repr

/-- The fault over a record of a level. -/
def Outlet.fault? (o : Outlet) (level : Int) : Option OutletFault :=
  if o.level.all (· ≤ level) then some o.fault else none

end TypeMismatch
