import TypeMismatch.Number.Shortest
import TypeMismatch.Text.Quoted
import TypeMismatch.Value.Table

/-!
# Values in writing

A value is written as the literal that stands for it, except that there is none for the empty set,
the infinities, the NaN, dates, moments, and what is within itself:

| value | written |
| --- | --- |
| null, true, false | `None`, `True`, `False` |
| integer, number | in decimal |
| complex number | `2j`, `(1+2j)` |
| text, bytes | quoted |
| list, tuple | `[a, b]`, `(a, b)`, `(a,)` |
| set | `{a, b}`, or `set()` |
| mapping | `{a: b, c: d}` |
| the ellipsis | `Ellipsis` |
| the list or the mapping around | `[...]`, `{...}` |
| date, moment | `datetime.date(2001, 12, 14)`, `datetime.datetime(2001, 12, 14, 21, 59)` |

The elements of a set are written in the order of the set, or ordered as they are written if that is
not known.

Where a value is shown as a label a text stands for itself, without quotation marks, and a date and
a moment are shown as `2001-12-14` and `2001-12-14 21:59:00`.

Source: `str` of the labels in `from_mapping`, and the quoted values in messages.
-/

namespace TypeMismatch
namespace Value

/-- Items with a comma and a space between them, in brackets. -/
def bracketed (opening closing : String) (items : List String) : String :=
  opening ++ String.intercalate ", " items ++ closing

/-- A part of a complex number in writing: a point only stands where digits follow. -/
def writtenPart (x : Binary64) : List Char :=
  let s := x.text
  if "0.".toList.isPrefixOf s.reverse then s.take (s.length - 2) else s

/-- A complex number in writing. Its real part is left out if it is zero without a sign. -/
def writtenComplex (re im : Binary64) : List Char :=
  if re = .finite false 0 Binary64.minExponent then writtenPart im ++ ['j']
  else
    let i := writtenPart im
    '(' :: writtenPart re ++ (if i.head? = some '-' then [] else ['+']) ++ i ++ ['j', ')']

mutual

/-- A value in writing, where a part of a ring is one of those around it. -/
def writtenFinite : Value → String
  | null => "None"
  | bool b => if b then "True" else "False"
  | int n => String.ofList (Text.intNumeral n)
  | float x => String.ofList x.text
  | nan _ => String.ofList Binary64.nan.text
  | complex re im => String.ofList (writtenComplex re im)
  | text s => Text.quote s
  | broken t => String.ofList (Text.quotePoints t.points)
  | bytes bs => Text.quoteBytes bs
  | ellipsis => "Ellipsis"
  | date d => d.written
  | moment m => m.written
  | list vs => bracketed "[" "]" (writtenAll vs)
  | tuple vs => bracketed "(" (if vs.length = 1 then ",)" else ")") (writtenAll vs)
  | set vs =>
    if vs.isEmpty then "set()"
    else
      let items := writtenAll vs
      bracketed "\x7b" "\x7d" (if hasOrder vs then items else items.mergeSort)
  | map es => bracketed "\x7b" "\x7d" (writtenEntries es)
  | again isMap _ _ => if isMap then "\x7b...\x7d" else "[...]"

/-- Values in writing. -/
def writtenAll : List Value → List String
  | [] => []
  | v :: vs => writtenFinite v :: writtenAll vs

/-- An entry in writing. -/
def writtenEntry : Value × Value → String
  | (k, v) => writtenFinite k ++ ": " ++ writtenFinite v

/-- Entries in writing. -/
def writtenEntries : List (Value × Value) → List String
  | [] => []
  | e :: es => writtenEntry e :: writtenEntries es

end

/-- The value in writing. -/
def written (v : Value) : String := v.expanded.writtenFinite

mutual

/-- Whether no integer in a value without rings has more digits than are written. -/
def isFiniteWritable : Value → Bool
  | int n => (Text.numeral n.natAbs).length ≤ Text.maxDigits
  | list vs | tuple vs | set vs => allWritable vs
  | map es => entriesWritable es
  | _ => true

/-- Whether all values are writable. -/
def allWritable : List Value → Bool
  | [] => true
  | v :: vs => isFiniteWritable v && allWritable vs

/-- Whether the key and the value of an entry are writable. -/
def entryWritable : Value × Value → Bool
  | (k, v) => isFiniteWritable k && isFiniteWritable v

/-- Whether all entries are writable. -/
def entriesWritable : List (Value × Value) → Bool
  | [] => true
  | e :: es => entryWritable e && entriesWritable es

end

/-- Whether no integer in the value has more digits than are written. -/
def isWritable (v : Value) : Bool := v.expanded.isFiniteWritable

/-- The value as it is shown: a text as itself, a date and a moment in their own form, anything
else in writing. -/
def shown : Value → List Text.Point
  | text s => Text.points s
  | broken t => t.points
  | date d => Text.points d.text
  | moment m => Text.points m.text
  | v => Text.points (written v)

/-- A text is shown as itself. -/
@[simp] theorem shown_ofPoints (ps : List Text.Point) : (ofPoints ps).shown = ps := by
  rcases ofPoints_cases ps with ⟨s, he, rfl⟩ | ⟨t, he, rfl⟩
  · rw [he, shown]
  · rw [he, shown]

/-- A text can always be written. -/
@[simp] theorem isWritable_ofPoints (ps : List Text.Point) : (ofPoints ps).isWritable = true := by
  rcases ofPoints_cases ps with ⟨s, he, -⟩ | ⟨t, he, -⟩
  · rw [he]
    rfl
  · rw [he]
    rfl

end Value
end TypeMismatch
