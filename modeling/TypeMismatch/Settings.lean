import TypeMismatch.Level
import TypeMismatch.Name.Limit
import TypeMismatch.Text.Blank
import TypeMismatch.Text.Upper
import TypeMismatch.Value.Pairs
import TypeMismatch.Value.Whole
import TypeMismatch.Value.Written

/-!
# Settings of the reporter

Settings come as a mapping with three sections:

| section | key | sets | otherwise |
| --- | --- | --- | --- |
| `parser` | `max_depth` | the nesting limit | 64 |
| `message` | `expected_label`, `actual_label` | the labels of a report | `Expected`, `But was` |
| `message` | `fallback_to_raw` | whether unreadable names are shown as they are | true |
| `telemetry` | `log_level` | the level of the log | none |

What a section lacks, and what it does not understand, is as in the last column, and other keys do
not count. Refused are an infinite limit and one below one, a label that cannot be written, and a
level without a name. Accepted settings, given again as a mapping, are the same settings.

Source: `from_mapping` (`ofMapping`, `ofValue`), `merge` and `to_dict` (`toMapping`) of a
`ReporterConfig`, with `_coerce_int` (`readLimit`), `_coerce_bool` (`flag`), `_coerce_level`
(`readLevel`) and `_section` (`Mapping.sectionAt`).
-/

namespace TypeMismatch

/-- The settings of the reporter. -/
structure Settings where
  limit : Limit
  expectedLabel : List Text.Point
  actualLabel : List Text.Point
  fallbackToRaw : Bool
  logLevel : Option LevelName
deriving DecidableEq

/-- Why settings are refused. -/
inductive SettingsFault where
  /-- The nesting limit is infinite. -/
  | infiniteLimit
  /-- The nesting limit is below one. -/
  | limitBelowOne
  /-- A value holds an integer that is too long to be written. -/
  | notWritable
  /-- A value, given in writing, is no name of a level. -/
  | noLevel (written : String)
  /-- What is given is no mapping. -/
  | notMapping (fault : MappingFault)
deriving DecidableEq, Repr

/-- The fault in words. -/
def SettingsFault.message : SettingsFault → String
  | infiniteLimit => "cannot convert float infinity to integer"
  | limitBelowOne => "parser.max_depth must be at least 1"
  | notWritable => Text.tooManyToWrite
  | noLevel written => "telemetry.log_level " ++ written ++ " is not a logging level"
  | notMapping fault => fault.message

namespace Settings

/-- The settings where none are given. -/
def standard : Settings where
  limit := .standard
  expectedLabel := Text.points "Expected"
  actualLabel := Text.points "But was"
  fallbackToRaw := true
  logLevel := none

instance : Inhabited Settings := ⟨standard⟩

/-- The spellings of true. -/
def trueWords : List String := ["1", "true", "yes", "on"]

/-- The spellings of false. -/
def falseWords : List String := ["0", "false", "no", "off"]

/-- A text without blanks around it, in lower case. No character beyond ASCII has a letter of the
spellings as its lower case. -/
def folded (s : String) : String :=
  String.ofList ((Text.trim s.toList).map Char.toLower)

/-- The truth value of a setting, or another if it has none. -/
def flag (v : Value) (fallback : Bool) : Bool :=
  match v with
  | .bool b => b
  | .text s =>
    if trueWords.contains (folded s) then true
    else if falseWords.contains (folded s) then false
    else fallback
  | _ => fallback

/-- The nesting limit of a setting. -/
def readLimit (v : Value) : Except SettingsFault Limit :=
  if v.isInfinite then .error .infiniteLimit
  else
    match v.whole? with
    | none => .ok .standard
    | some n =>
      match Limit.ofInt? n with
      | some limit => .ok limit
      | none => .error .limitBelowOne

/-- A value as it is shown, if it can be written. -/
def shown (v : Value) : Except SettingsFault (List Text.Point) :=
  if v.isWritable then .ok v.shown else .error .notWritable

/-- The level whose name is a text, in any case and with blanks around it. -/
def levelNamed? (s : List Text.Point) : Option LevelName := do
  LevelName.ofText? (String.ofList (Text.upper (Text.trim (← Text.chars? s))))

/-- The level that a setting names. Null and the empty text name none. -/
def readLevel (v : Value) : Except SettingsFault (Option LevelName) :=
  match v with
  | .null => .ok none
  | .text "" => .ok none
  | v => do
    match levelNamed? (← shown v) with
    | some name => pure (some name)
    | none => .error (.noLevel v.written)

/-- The settings of a mapping. -/
def ofMapping (m : Mapping) : Except SettingsFault Settings := do
  let parser := Mapping.sectionAt m "parser"
  let message := Mapping.sectionAt m "message"
  let telemetry := Mapping.sectionAt m "telemetry"
  let limit ← readLimit (Mapping.getD parser "max_depth" .null)
  let expectedLabel ←
    shown (Mapping.getD message "expected_label" (.ofPoints standard.expectedLabel))
  let actualLabel ← shown (Mapping.getD message "actual_label" (.ofPoints standard.actualLabel))
  let fallbackToRaw := flag (Mapping.getD message "fallback_to_raw" .null) standard.fallbackToRaw
  let logLevel ← readLevel (Mapping.getD telemetry "log_level" .null)
  pure ⟨limit, expectedLabel, actualLabel, fallbackToRaw, logLevel⟩

/-- The settings as a mapping, every key given. -/
def toMapping (s : Settings) : Mapping :=
  [("parser", .map [("max_depth", .int s.limit.levels)]),
   ("message", .map
    [("expected_label", .ofPoints s.expectedLabel), ("actual_label", .ofPoints s.actualLabel),
     ("fallback_to_raw", .bool s.fallbackToRaw)]),
   ("telemetry", .map
    [("log_level", match s.logLevel with
      | some name => name.text
      | none => .null)])]

/-- The settings that a value stands for. -/
def ofValue (v : Value) : Except SettingsFault Settings := do
  ofMapping (← (Mapping.ofValue v).mapError .notMapping)

/-- The settings with a mapping laid over them. -/
def merge (s : Settings) (overrides : Mapping) : Except SettingsFault Settings :=
  if overrides.isEmpty then .ok s else ofMapping (Mapping.lay s.toMapping overrides)

/-- The settings with a value laid over them; one that does not count as given changes nothing. -/
def mergeValue (s : Settings) (overrides : Value) : Except SettingsFault Settings :=
  match overrides with
  | .map es => s.merge es
  | v => if v.isGiven then .error (.notMapping (.noEntries v.kind)) else .ok s

end Settings
end TypeMismatch
