import TypeMismatch.Name.Signature
import TypeMismatch.Value.Written

/-!
# JSON

Reports and signatures are printed as JSON with two spaces of indentation for each level. Texts keep
to ASCII: a quotation mark and a backslash have a backslash before them, five control characters
have a letter, and every other character outside the range from the space to the tilde is written by
its UTF-16 units. What JSON has no form for is written as text.

Source: `dumps` as `_cmd_compare` and `_cmd_parse` call it, and `to_dict` of a signature
(`Signature.toValue`).
-/

namespace TypeMismatch
namespace Json

/-- The escape of a UTF-16 unit. -/
def unitEscape (n : Nat) : List Char := Text.backslash :: 'u' :: Text.hexadecimal 4 n

/-- The UTF-16 units of a character. -/
def units (c : Char) : List Nat :=
  let n := c.toNat
  if n < 0x10000 then [n]
  else [0xD800 + (n - 0x10000) / 0x400, 0xDC00 + (n - 0x10000) % 0x400]

/-- How a character is written within a text. -/
def escapeChar (c : Char) : List Char :=
  if c = Text.doubleQuote || c = Text.backslash then [Text.backslash, c]
  else if c = '\n' then [Text.backslash, 'n']
  else if c = '\r' then [Text.backslash, 'r']
  else if c = '\t' then [Text.backslash, 't']
  else if c = '\x08' then [Text.backslash, 'b']
  else if c = '\x0c' then [Text.backslash, 'f']
  else if 0x20 ≤ c.toNat && c.toNat ≤ 0x7E then [c]
  else (units c).flatMap unitEscape

/-- How a code point is written within a text. -/
def escapePoint : Text.Point → List Char
  | .char c => escapeChar c
  | .half n => unitEscape (Text.Point.half n).code

/-- A text of code points in JSON. -/
def ofPoints (ps : List Text.Point) : String :=
  String.ofList (Text.doubleQuote :: ps.flatMap escapePoint ++ [Text.doubleQuote])

/-- A text in JSON. -/
def text (s : String) : String := ofPoints (Text.points s)

/-- A number in JSON, or the word for what is none. -/
def number : Binary64 → String
  | .nan => "NaN"
  | .infinity negative => if negative then "-Infinity" else "Infinity"
  | x => String.ofList x.text

/-- A line break and the indentation of a level. -/
def newLine (level : Nat) : String := "\n" ++ String.ofList (List.replicate (2 * level) ' ')

/-- Items on lines of their own, between brackets. -/
def block (opening closing : String) (level : Nat) (items : List String) : String :=
  if items.isEmpty then opening ++ closing
  else
    opening ++ newLine (level + 1) ++ String.intercalate ("," ++ newLine (level + 1)) items
      ++ newLine level ++ closing

mutual

/-- A value in JSON, at a level of indentation. -/
def write (level : Nat) : Value → String
  | .null => "null"
  | .bool b => if b then "true" else "false"
  | .int n => String.ofList (Text.intNumeral n)
  | .float x => number x
  | .nan _ => number .nan
  | .text s => text s
  | .broken t => ofPoints t.points
  | .bytes bs => text (Text.quoteBytes bs)
  | .complex re im => text (Value.complex re im).written
  | .ellipsis => text Value.ellipsis.written
  | .again isMap n parts => text (Value.again isMap n parts).written
  | .date d => text d.text
  | .moment m => text m.text
  | .list vs | .tuple vs | .set vs => block "[" "]" level (writeAll (level + 1) vs)
  | .map es => block "\x7b" "\x7d" level (writeEntries (level + 1) es)

/-- Values in JSON. -/
def writeAll (level : Nat) : List Value → List String
  | [] => []
  | v :: vs => write level v :: writeAll level vs

/-- An entry in JSON. -/
def writeEntry (level : Nat) : Value × Value → String
  | (k, v) => ofPoints k.shown ++ ": " ++ write level v

/-- Entries in JSON. -/
def writeEntries (level : Nat) : List (Value × Value) → List String
  | [] => []
  | e :: es => writeEntry level e :: writeEntries level es

end

/-- A value in JSON. -/
def ofValue (v : Value) : String := write 0 v

end Json

namespace Signature

mutual

/-- The signature as a value. -/
def toValue : Signature → Value
  | ⟨path, arity, arguments, ranks, nested⟩ =>
    .map
      [("namespace_path", .list (path.map fun s => .text (String.ofList s))),
       ("generic_arity", .int arity),
       ("type_arguments", .list (allToValues arguments)),
       ("array_suffix", String.ofList ranks),
       ("nested_suffix", String.ofList nested)]

/-- Signatures as values. -/
def allToValues : List Signature → List Value
  | [] => []
  | a :: as => toValue a :: allToValues as

end

end Signature
end TypeMismatch
