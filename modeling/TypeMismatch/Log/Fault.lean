import TypeMismatch.Log.Outlet
import TypeMismatch.Text.Digit
import TypeMismatch.Text.Quoted
import TypeMismatch.Value.Pairs

/-!
# Faults of the log

A level may have no meaning, and a set-up of the log may be unusable in one of its parts; each cause
has one wording. Names of parts, which may be any values, come in writing.

Source: the failures of `setLevel` and `dictConfig`.
-/

namespace TypeMismatch

/-- Why a reference in a set-up leads nowhere. -/
inductive ReferenceFault where
  /-- A part of a name is missing; what should hold it may be no package. -/
  | missing (name part : String) (holder : Option String)
  /-- A name begins with nothing. -/
  | noStart
  /-- A path has no first word. -/
  | notPath (path : String)
  /-- A path goes on with something that is no step. -/
  | notStep (path rest : String)
  /-- A mapping does not have a key, given in writing. -/
  | noKey (written : String)
  /-- A value of this kind has no item with such a number. -/
  | noItem (kind : String)
  /-- A value of this kind has numbered items only. -/
  | notNumber (kind : String)
  /-- A value of this kind has no items. -/
  | noItems (kind : String)
  /-- The class with this name has no items. -/
  | noClassItems (name : String)
  /-- What a reference leads to is the reference again. -/
  | endless
deriving DecidableEq, Repr

/-- Whether a step of a path does not suit what it leads from. -/
def ReferenceFault.isUnsuited : ReferenceFault → Bool
  | notNumber _ | noItems _ | noClassItems _ => true
  | _ => false

/-- What caused the fault, in words; only a missing part of a name is a cause. -/
def ReferenceFault.cause : ReferenceFault → String
  | missing _ part holder =>
    "No module named " ++ Text.quote part ++ match holder with
      | some holder => "; " ++ Text.quote holder ++ " is not a package"
      | none => ""
  | _ => ""

/-- The fault in words. -/
def ReferenceFault.message : ReferenceFault → String
  | missing name part holder =>
    "Cannot resolve " ++ Text.quote name ++ ": " ++ (missing name part holder).cause
  | noStart => "Empty module name"
  | notPath path => "Unable to convert " ++ Text.quote path
  | notStep path rest => "Unable to convert " ++ Text.quote path ++ " at " ++ Text.quote rest
  | noKey written => written
  | noItem kind => (if kind = "str" then "string" else kind) ++ " index out of range"
  | notNumber kind =>
    if kind = "str" then "string indices must be integers, not 'str'"
    else (if kind = "bytes" then "byte" else kind) ++ " indices must be integers or slices, not str"
  | noItems kind => "'" ++ kind ++ "' object is not subscriptable"
  | noClassItems name => "type '" ++ name ++ "' is not subscriptable"
  | endless => "maximum recursion depth exceeded while calling a Python object"

/-- Why the log cannot be set or asked. -/
inductive LogFault where
  /-- A logger without a name is asked for. -/
  | noName
  /-- A level has a name, given in writing, that is none of the known ones. -/
  | unknownLevel (written : String)
  /-- A level, given in writing, is neither a number nor a name. -/
  | notLevel (written : String)
  /-- The version of the set-up is not supported. -/
  | version (shown : String)
  /-- A section of the set-up is no mapping. -/
  | notSection (fault : MappingFault)
  /-- Names of handlers of these kinds have no order. -/
  | noOrder (left right : String)
  /-- A section is a stream, which is open for writing only. -/
  | notReadable
  /-- A section is a reference that leads nowhere. -/
  | reference (fault : ReferenceFault)
  /-- The formatter with this name, given in writing, cannot be set up. -/
  | formatter (written : String)
  /-- The handler with this name, given in writing, cannot be set up. -/
  | handler (written : String)
  /-- The logger with this name, given in writing, cannot be set up. -/
  | logger (written : String)
  /-- The root cannot be set up. -/
  | root
  /-- The name of a part that cannot be set up is a tuple and not told. -/
  | notTold
  /-- A value that is to be told holds an integer that is too long to be written. -/
  | notWritable
  /-- A handler fails on a record. -/
  | outlet (fault : OutletFault)
deriving DecidableEq, Repr

/-- The fault in words. -/
def LogFault.message : LogFault → String
  | noName => "logger name must be a non-empty string"
  | unknownLevel written => "Unknown level: " ++ written
  | notLevel written => "Level not an integer or a valid string: " ++ written
  | version shown => "Unsupported version: " ++ shown
  | notSection fault => fault.message
  | noOrder left right =>
    "'<' not supported between instances of '" ++ left ++ "' and '" ++ right ++ "'"
  | notReadable => "not readable"
  | reference fault => fault.message
  | formatter written => "Unable to configure formatter " ++ written
  | handler written => "Unable to configure handler " ++ written
  | logger written => "Unable to configure logger " ++ written
  | root => "Unable to configure root logger"
  | notTold => "not all arguments converted during string formatting"
  | notWritable => Text.tooManyToWrite
  | outlet fault => fault.message

end TypeMismatch
