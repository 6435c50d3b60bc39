import TypeMismatch.Files.Configuration
import TypeMismatch.Log
import TypeMismatch.Name.Fault
import TypeMismatch.Name.Pair
import TypeMismatch.Override
import TypeMismatch.Settings

/-!
# Failures

Every request to the library either has an answer or fails for one cause. The causes are those of
its parts, and each has one wording.

Source: whatever leaves `main`, `load_configuration`, `configure`, `set_level` or `get_logger` as an
exception.
-/

namespace TypeMismatch

/-- Why a request has no answer. -/
inductive Failure where
  /-- A name cannot be read. -/
  | name (fault : Name.Fault) (source : String)
  /-- An arity of a name has more digits than are read as one number. -/
  | numeralTooLong (digits : Nat)
  /-- A value of this kind is given where a name is needed. -/
  | notText (kind : String)
  /-- A value for the environment holds a zero character. -/
  | zeroInEnvironment
  /-- A nesting limit below one is asked for. -/
  | limitBelowOne
  /-- The text of an override was lost on the command line. -/
  | lostOverride
  /-- The name of the configuration file was lost on the command line. -/
  | lostPath
  /-- A result is a text that has no encoding. -/
  | unprintable (fault : Text.EncodeFault)
  | path (fault : PathFault)
  | override (fault : OverrideFault)
  | settings (fault : SettingsFault)
  | file (fault : FileFault)
  | log (fault : LogFault)
deriving DecidableEq, Repr

/-- The failure in words. -/
def Failure.message : Failure → String
  | name fault source => fault.message source
  | numeralTooLong digits => Text.tooManyToRead digits
  | notText kind => "type name must be a string, not " ++ kind
  | zeroInEnvironment => "embedded null byte"
  | limitBelowOne => "max_depth must be at least 1"
  | lostOverride => "'list' object has no attribute 'partition'"
  | lostPath => "expected str, bytes or os.PathLike object, not list"
  | unprintable fault => fault.message
  | path fault => fault.message
  | override fault => fault.message
  | settings fault => fault.message
  | file fault => fault.message
  | log fault => fault.message

end TypeMismatch
