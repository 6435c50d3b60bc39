import TypeMismatch.Document.Value
import TypeMismatch.Files
import TypeMismatch.Text.Lines
import TypeMismatch.Text.Quoted
import TypeMismatch.Text.Utf8

/-!
# Configuration files

A configuration file holds a document in UTF-8. Its value must be a mapping; an empty document
counts as the empty mapping.

Source: `load_config` (`Files.configuration`), and the reading in `_load_config`, which takes any
document (`Files.document`).
-/

namespace TypeMismatch

/-- Why a configuration file cannot be used. -/
inductive FileFault where
  | missing (path : Path)
  | tooLong (path : Path)
  | directory (path : Path)
  | notUtf8 (fault : Text.Utf8Fault)
  | malformed (path : Path)
  /-- A part of the document has no value. -/
  | contents (fault : Document.DocumentFault)
  | notMapping
deriving DecidableEq, Repr

/-- The fault in words. -/
def FileFault.message : FileFault → String
  | missing path => "configuration file not found: " ++ path.text
  | tooLong path => OpenError.tooLong.message ++ ": " ++ Text.quote path.text
  | directory path => OpenError.directory.message ++ ": " ++ Text.quote path.text
  | notUtf8 fault => fault.message
  | malformed path => "failed to parse configuration " ++ path.text ++ ": malformed document"
  | contents fault => fault.message
  | notMapping => "configuration root must be a mapping"

namespace Files

/-- The value of the document in the file that a path leads to. -/
def document (files : Files) (path : Path) : Except FileFault Value :=
  match files.locate path with
  | .missing => .error (.missing path)
  | .tooLong => .error (.tooLong path)
  | .directory => .error (.directory path)
  | .file bytes =>
    match Text.decodeUtf8 bytes with
    | .error fault => .error (.notUtf8 fault)
    | .ok text =>
      match Document.read (Text.unifyBreaks text) with
      | .ok v => .ok v
      | .error .malformed => .error (.malformed path)
      | .error fault => .error (.contents fault)

/-- The configuration in the file that a path leads to. -/
def configuration (files : Files) (path : Path) : Except FileFault Mapping := do
  match ← document files path with
  | .null => pure []
  | .map m => pure m
  | _ => .error .notMapping

end Files
end TypeMismatch
