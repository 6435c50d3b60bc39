import TypeMismatch.Resolution

/-!
# Reports of a mismatch

A report shows the expected and the actual name, each behind its label; the labels are padded to one
width. Where a name cannot be read, and the settings allow it, both names are shown as they were
given, and the report carries the fault. What was given for the actual name may then be any value,
since it has not been read.

Source: `describe_type_mismatch` (`describe`), and `render` and `to_dict` of a `TypeMismatchReport`.
-/

namespace TypeMismatch

/-- The report of a mismatch. -/
structure Report where
  expected : Value
  actual : Value
  expectedDisplay : Value
  actualDisplay : Value
  shortened : Bool
  error : Option String
  expectedLabel : List Text.Point
  actualLabel : List Text.Point

namespace Report

/-- A text with spaces behind it up to a width. -/
def padded {α : Type} (space : α) (width : Nat) (s : List α) : List α :=
  s ++ List.replicate (width - s.length) space

/-- A line of a report: the label up to a width, and what it is the label of. -/
def line (width : Nat) (label : List Text.Point) (display : Value) : List Text.Point :=
  padded (.char ' ') width (label ++ [.char ':']) ++ .char ' ' :: display.shown

/-- The report in two lines. -/
def render (r : Report) : List Text.Point :=
  let width := max r.expectedLabel.length r.actualLabel.length + 1
  line width r.expectedLabel r.expectedDisplay
    ++ .char '\n' :: line width r.actualLabel r.actualDisplay

/-- The report as a mapping, without its labels. -/
def toMapping (r : Report) : Mapping :=
  [("expected", r.expected), ("actual", r.actual), ("expected_display", r.expectedDisplay),
   ("actual_display", r.actualDisplay), ("shortened", .bool r.shortened),
   ("error", match r.error with
    | some e => e
    | none => .null)]

end Report

/-- The record over names that are shown as they were given. -/
def rawRecord (error : String) : Record :=
  ⟨.warning, "typediff.reporting", .ok ("showing raw type names, shortening failed: " ++ error)⟩

/-- The report of a mismatch between two names, read under a limit. -/
def describe (settings : Settings) (limit : Limit) (expected actual : Value) : Traced Report :=
  match resolve limit (.given expected) (.given actual) with
  | ⟨records, .ok (a, b)⟩ =>
    ⟨records, .ok ⟨expected, actual, a, b, true, none, settings.expectedLabel,
      settings.actualLabel⟩⟩
  | ⟨records, .error (.name fault source)⟩ =>
    if settings.fallbackToRaw then
      let error := fault.message source
      ⟨records ++ [rawRecord error],
        .ok ⟨expected, actual, expected, actual, false, some error, settings.expectedLabel,
          settings.actualLabel⟩⟩
    else ⟨records, .error (.name fault source)⟩
  | ⟨records, .error e⟩ => ⟨records, .error e⟩

end TypeMismatch
