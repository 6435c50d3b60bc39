import TypeMismatch.Text.Digit

/-!
# Formats of records

A record is written by a format, a text with fields in one of three styles:

| style | field |
| --- | --- |
| `%` | `%(name)s`, with flags, a width and a precision before the letter |
| `{` | `{name}`, with a conversion behind `!` and a specification behind `:` |
| `$` | `$name`, `${name}` |

A format must have a field. In the first style that is all; in the others whatever looks like a
field must be one.

Source: the check of a format when `dictConfig` makes a formatter.
-/

namespace TypeMismatch
namespace Format

/-- Whether a character belongs to a name: a letter, a digit, an underscore, or anything beyond
ASCII. -/
def isWordChar (c : Char) : Bool := c.isAlphanum || c == '_' || 0x80 ≤ c.toNat

/-- The text behind digits or, where they may be left to the record, a star. -/
def skipSize (s : List Char) : List Char :=
  match s with
  | '*' :: rest => rest
  | s => s.dropWhile Text.isDigit

/-- The text behind a point with a precision. -/
def skipPrecision (s : List Char) : List Char :=
  match s with
  | '.' :: rest =>
    let behind := skipSize rest
    if behind.length < rest.length then behind else s
  | s => s

/-- Whether a text begins with a percent field. -/
def startsPercentField (s : List Char) : Bool :=
  match s with
  | '%' :: '(' :: rest =>
    match rest.dropWhile isWordChar with
    | ')' :: behind =>
      let behind := behind.dropWhile fun c => ['#', '0', '+', ' ', '-'].contains c
      let behind := skipPrecision (skipSize behind)
      rest.head?.any isWordChar
        && behind.head?.any fun c => "diouxefgcrsa%".toList.contains c.toLower
    | _ => false
  | _ => false

/-- Whether a percent format is valid. -/
def isPercent : List Char → Bool
  | [] => false
  | c :: s => startsPercentField (c :: s) || isPercent s

/-- A field between braces. -/
structure BraceField where
  name : List Char
  conversion : Option Char
  spec : List Char

/-- The name of a field and what stands behind it. A bracket hides what it closes around. -/
def braceName? : Nat → List Char → Option (List Char × List Char)
  | _, [] => none
  | 0, _ => none
  | fuel + 1, c :: s =>
    if c = '\x7b' then none
    else if c = '\x7d' || c = ':' || c = '!' then some ([], c :: s)
    else if c = '[' then
      let inside := s.takeWhile (· != ']')
      (braceName? fuel (s.dropWhile (· != ']'))).map fun (n, r) => (c :: inside ++ n, r)
    else (braceName? fuel s).map fun (n, r) => (c :: n, r)

/-- The text up to the brace that closes a field, and what stands behind it. -/
def braceSpec? : Nat → List Char → Option (List Char × List Char)
  | _, [] => none
  | level, c :: s =>
    if c = '\x7d' then
      match level with
      | 0 => some ([], s)
      | level + 1 => (braceSpec? level s).map fun (b, r) => (c :: b, r)
    else if c = '\x7b' then (braceSpec? (level + 1) s).map fun (b, r) => (c :: b, r)
    else (braceSpec? level s).map fun (b, r) => (c :: b, r)

/-- A field behind its opening brace, and the text behind it. -/
def braceField? (s : List Char) : Option (BraceField × List Char) := do
  let (name, rest) ← braceName? s.length s
  match rest with
  | '!' :: conversion :: '\x7d' :: rest => pure (⟨name, some conversion, []⟩, rest)
  | '!' :: conversion :: ':' :: rest =>
    let (spec, rest) ← braceSpec? 0 rest
    pure (⟨name, some conversion, spec⟩, rest)
  | ':' :: rest =>
    let (spec, rest) ← braceSpec? 0 rest
    pure (⟨name, none, spec⟩, rest)
  | '\x7d' :: rest => pure (⟨name, none, []⟩, rest)
  | _ => none

/-- The fields of a text, if every brace belongs to one or is doubled. -/
def braceFields? : Nat → List Char → Option (List BraceField)
  | _, [] => some []
  | 0, _ => none
  | fuel + 1, c :: s =>
    if c = '\x7b' then
      match s with
      | '\x7b' :: rest => braceFields? fuel rest
      | s => do
        let (field, rest) ← braceField? s
        let fields ← braceFields? fuel rest
        pure (field :: fields)
    else if c = '\x7d' then
      match s with
      | '\x7d' :: rest => braceFields? fuel rest
      | _ => none
    else braceFields? fuel s

/-- Whether a text is nothing but attributes behind points and items between brackets. -/
def isAccess : Nat → List Char → Bool
  | _, [] => true
  | 0, _ => false
  | fuel + 1, c :: s =>
    if c = '.' then s.head?.any isWordChar && isAccess fuel (s.dropWhile isWordChar)
    else if c = '[' then
      match s.dropWhile (· != ']') with
      | _ :: rest => s.head?.any (· != ']') && isAccess fuel rest
      | [] => false
    else false

/-- Whether a name of a field is one. -/
def isFieldName (s : List Char) : Bool :=
  s.head?.any isWordChar && isAccess s.length (s.dropWhile isWordChar)

/-- The text behind digits, or behind a name between braces. -/
def skipNested (s : List Char) : List Char :=
  match s with
  | '\x7b' :: rest =>
    match rest.dropWhile isWordChar with
    | '\x7d' :: behind => if rest.head?.any isWordChar then behind else s
    | _ => s
  | s => s.dropWhile Text.isDigit

/-- The text behind one of some characters, if it begins with one. -/
def skipOne (cs : List Char) (s : List Char) : List Char :=
  match s with
  | c :: rest => if cs.contains c then rest else s
  | [] => []

/-- Whether a text specifies how a field is laid out. -/
def isSpec (s : List Char) : Bool :=
  let marks := ['<', '=', '>', '^']
  let s := match s with
    | c :: d :: rest =>
      if marks.contains d then rest else if marks.contains c then d :: rest else s
    | s => skipOne marks s
  let s := skipNested (skipOne ['0'] (skipOne ['#'] (skipOne ['+', ' ', '-'] s)))
  let s := skipOne [',', '_'] s
  let s := match s with
    | '.' :: rest => if (skipNested rest).length < rest.length then skipNested rest else s
    | s => s
  match s with
  | [] => true
  | [c] => "bcdefgnosx%".toList.contains c.toLower
  | _ => false

/-- Whether a field between braces is valid. -/
def BraceField.isValid (f : BraceField) : Bool :=
  (f.name.isEmpty || isFieldName f.name)
    && f.conversion.all (['r', 's', 'a'].contains ·)
    && (f.spec.isEmpty || isSpec f.spec)

/-- Whether a format with braces is valid. -/
def isBrace (s : List Char) : Bool :=
  match braceFields? s.length s with
  | none => false
  | some fields => fields.all (·.isValid) && fields.any fun f => !f.name.isEmpty

/-- Whether a character can begin a name behind a dollar sign. -/
def isNameStart (c : Char) : Bool := c.isAlpha || c == '_'

/-- Whether a character can go on a name behind a dollar sign. -/
def isNameChar (c : Char) : Bool := c.isAlphanum || c == '_'

/-- How many fields with a dollar sign a text has, if there is no dollar sign besides. -/
def dollarFields? : Nat → List Char → Option Nat
  | _, [] => some 0
  | 0, _ => none
  | fuel + 1, c :: s =>
    if c != '$' then dollarFields? fuel s
    else
      match s with
      | '$' :: rest => dollarFields? fuel rest
      | '\x7b' :: rest =>
        match rest.dropWhile isNameChar with
        | '\x7d' :: behind =>
          if rest.head?.any isNameStart then (dollarFields? fuel behind).map (· + 1) else none
        | _ => none
      | s =>
        if s.head?.any isNameStart then
          (dollarFields? fuel (s.dropWhile isNameChar)).map (· + 1)
        else none

/-- Whether a format with dollar signs is valid. -/
def isDollar (s : List Char) : Bool := (dollarFields? s.length s).any (0 < ·)

/-- Whether a format is valid in a style, and the style is one. -/
def isValid (style : String) (format : List Char) : Bool :=
  if style = "%" then isPercent format
  else if style = "\x7b" then isBrace format
  else if style = "$" then isDollar format
  else false

/-- Whether there is such a style. -/
def isStyle (style : String) : Bool := ["%", "\x7b", "$"].contains style

end Format
end TypeMismatch
