import TypeMismatch.Files
import TypeMismatch.Log.Known
import TypeMismatch.Log.Outlet
import TypeMismatch.Text.EncodingName
import TypeMismatch.Value

/-!
# Opening the files of handlers

A handler opens its file in a mode, in an encoding, and with a handling of errors, if these are
given. First they are looked at one by one: each must be a text without a zero character, or, but
for the mode, null. Then the mode must have one purpose and go with the others, the name must have
no zero character, the system must open the file, and the encoding must be known. The first of these
that fails is the fault.

Source: `open` in the handlers of `dictConfig` that write to a file.
-/

namespace TypeMismatch

/-- What a part gives to a class, by the names of the parameters. -/
abbrev Arguments := List (String × Referent)

namespace Arguments

/-- What is given for a parameter, or else a value. -/
def getD (args : Arguments) (key : String) (fallback : Value) : Referent :=
  (args.lookup key).getD (.value fallback)

/-- What is given for a parameter, or else null. -/
def get (args : Arguments) (key : String) : Referent := args.getD key .null

/-- Whether something is given for a parameter. -/
def has (args : Arguments) (key : String) : Bool := (args.lookup key).isSome

/-- The value that is given for a parameter, or else another. -/
def value? (args : Arguments) (key : String) (fallback : Value) : Option Value :=
  match args.getD key fallback with
  | .value v => some v
  | .thing _ _ => none

/-- The arguments with another value for a parameter. -/
def put (args : Arguments) (key : String) (v : Value) : Arguments :=
  (key, .value v) :: args.filter fun e => e.1 != key

end Arguments

namespace Opening

/-- The purposes for which files are opened, one of which a mode must have. -/
def purposes : List Char := ['r', 'w', 'a', 'x']

/-- Why a file cannot be opened in a mode, given whether an encoding and a handling of errors are
asked for. -/
def modeFault? (mode : List Char) (hasEncoding hasErrors : Bool) : Option String :=
  let purposes := mode.filter purposes.contains
  let isKnown (c : Char) := ['r', 'w', 'a', 'x', '+', 't', 'b'].contains c
  if !mode.all isKnown || !decide mode.Nodup then
    some ("invalid mode: '" ++ String.ofList mode ++ "'")
  else if mode.contains 't' && mode.contains 'b' then
    some "can't have text and binary mode at once"
  else if 1 < purposes.length then
    some "must have exactly one of create/read/write/append mode"
  else if mode.contains 'b' && hasEncoding then
    some "binary mode doesn't take an encoding argument"
  else if mode.contains 'b' && hasErrors then
    some "binary mode doesn't take an errors argument"
  else if purposes.isEmpty then
    some "Must have exactly one of create/read/write/append mode and at most one plus"
  else none

/-- The name of a value's kind within a set-up, whose collections are of kinds of their own. -/
def kindWithin : Value → String
  | .list _ => "ConvertingList"
  | .map _ => "ConvertingDict"
  | v => v.kind

/-- The kind of what is given for a parameter. -/
def kindOf : Referent → String
  | .value v => kindWithin v
  | .thing _ kind => kind

/-- The text that is given for a parameter, or none for null where that may be given. -/
def argument (parameter : String) (mayBeNull : Bool) (r : Referent) :
    Except OutletFault (Option String) :=
  match r with
  | .value (.text s) =>
    if s.toList.contains '\x00' then .error (.noMode "embedded null character") else .ok (some s)
  | .value (.broken t) =>
    match Text.encode t.points with
    | .ok s => .ok (some s)
    | .error fault => .error (.noMode fault.message)
  | r =>
    if mayBeNull && (match r with | .value .null => true | _ => false) then .ok none
    else .error (.notText parameter mayBeNull (kindOf r))

/-- Why the system does not open the file with a name in a mode. The name is told in full. -/
def systemFault? (files : Files) (name : String) (mode : List Char) : Option OutletFault :=
  let path := Path.ofString name
  if name.toList.contains '\x00' then some (.noMode "embedded null byte")
  else
    (files.openError? path.collapsed mode).map fun e =>
      .notOpened e (files.directory.within path).text

/-- A file is opened, or there is a fault. -/
def attempt (files : Files) (name : String) (mode encoding errors : Referent) :
    Except OutletFault Unit := do
  let mode := ((← argument "mode" false mode).getD "").toList
  let encoding ← argument "encoding" true encoding
  let errors ← argument "errors" true errors
  match modeFault? mode encoding.isSome errors.isSome with
  | some reason => .error (.noMode reason)
  | none => pure ()
  match systemFault? files name mode with
  | some fault => .error fault
  | none => pure ()
  match encoding with
  | some encoding =>
    if Text.isEncodingName encoding then pure () else .error (.noEncoding encoding)
  | none => pure ()

/-- Why the file of a handler is not opened, if the handler does not say in which mode to open it
otherwise. -/
def fault? (defaultMode : String) (files : Files) (name : String) (args : Arguments) :
    Option OutletFault :=
  match attempt files name (args.getD "mode" defaultMode) (args.get "encoding")
      (args.get "errors") with
  | .ok () => none
  | .error fault => some fault

/-- Whether a fault of opening a file comes up where the file is only looked for. -/
def preventsLooking : OutletFault → Bool
  | .noMode _ | .notOpened .notDirectory _ | .notOpened .tooLong _ => true
  | _ => false

/-- Whether something can be searched for a purpose, as it is done with a mode before the file is
opened. -/
def canBeSearched : Referent → Bool
  | .value (.text _) | .value (.broken _) | .value (.list _) | .value (.tuple _)
  | .value (.set _) | .value (.map _) => true
  | _ => false

end Opening
end TypeMismatch
