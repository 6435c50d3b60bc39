import TypeMismatch.Literal.Part

/-!
# Reading literals

The words of an expression are read by recursive descent: atoms, primaries, operands with their
signs, operations from the tightest operators to the loosest, and expressions with a condition or a
function. The recursion is bounded by the length of the text, since no expression can be deeper
than that.

Several items or one item with a comma between round brackets form a tuple, as they do outside of
any brackets; round brackets around one item only group.

Source: `literal_eval` as a whole (`Value.ofLiteral`).
-/

namespace TypeMismatch
namespace Literal

/-- Quotations at the start of the words, joined to the one before them. -/
def joinQuotations (q : Quotation) : Reader Quotation
  | .quotation r :: ts => do
    let q ← join? q r
    joinQuotations q ts
  | ts => some (q, ts)

section

variable (read : Part → Reader Literal)

/-- Whether the field of a format is an expression. -/
def isField (field : List Char) : Bool :=
  match groupTokens? field with
  | some ts => (read .primary ts).any (·.2.isEmpty)
  | none => false

/-- What a quotation stands for as an expression. -/
def ofQuotation? : Quotation → Option Literal
  | .text s => some (atom (.ofPoints s))
  | .bytes bs => some (atom (.bytes bs))
  | .format fields => if fields.all (isField read) then some other else none

/-- What a function without a body hands out, up to the closing bracket. -/
def behindYield? (ts : List Token) : Option (List Token) :=
  match behind? "from" ts, behind? ")" ts with
  | some rest, _ => do
    let (_, rest) ← read .expression rest
    behind? ")" rest
  | none, some rest => some rest
  | none, none => do
    let one := starredOr read (.operation bitwiseLevel) (read .expression)
    let (_, rest) ← items one (begins ")") ts
    behind? ")" rest

/-- What stands behind an opening round bracket, up to the closing one. -/
def group : Reader Literal := fun ts =>
  match behind? ")" ts, behind? "yield" ts with
  | some rest, _ => some (tuple [], rest)
  | none, some rest => (behindYield? read rest).map fun rest => (other, rest)
  | none, none => do
    let (first, ts) ← item read ts
    let (others, rest) ← itemsOrClauses read first ")" ts
    match others with
    | none => some (other, rest)
    | some es =>
      if begins "," ts then some (tuple (first :: es), rest)
      else if first matches starred _ then none
      else some (first, rest)

/-- What stands behind an opening square bracket, up to the closing one. -/
def row : Reader Literal := fun ts =>
  match behind? "]" ts with
  | some rest => some (list [], rest)
  | none => do
    let (first, ts) ← item read ts
    let (others, rest) ← itemsOrClauses read first "]" ts
    some (match others with
      | none => other
      | some es => list (first :: es), rest)

/-- An entry of a mapping, or another mapping with two stars before it. -/
def entryOf : Reader (Literal × Literal) := fun ts =>
  match behind? "**" ts with
  | some rest => (read (.operation bitwiseLevel) rest).map fun (e, rest) => ((other, e), rest)
  | none => do
    let (k, rest) ← read .expression ts
    let rest ← behind? ":" rest
    let (v, rest) ← read .expression rest
    some ((k, v), rest)

/-- The other entries of a mapping, up to the closing brace. -/
def moreEntries (first : Literal × Literal) : Reader Literal := fun ts => do
  let (es, ts) ← itemsBehind (entryOf read) (begins "\x7d") (ts.length + 1) ts
  let ts ← behind? "\x7d" ts
  some (map (first :: es), ts)

/-- The other elements of a set, up to the closing brace. -/
def moreElements (first : Literal) : Reader Literal := fun ts => do
  let (others, rest) ← itemsOrClauses read first "\x7d" ts
  some (match others with
    | none => other
    | some es => set (first :: es), rest)

/-- What stands behind an opening brace, up to the closing one. -/
def braced : Reader Literal
  | .mark "\x7d" :: ts => some (map [], ts)
  | .mark "**" :: ts => do
    let (first, ts) ← entryOf read (.mark "**" :: ts)
    moreEntries read first ts
  | .mark "*" :: ts => do
    let (first, ts) ← item read (.mark "*" :: ts)
    moreElements read first ts
  | .name s :: .mark ":=" :: ts => do
    let (first, ts) ← item read (.name s :: .mark ":=" :: ts)
    moreElements read first ts
  | ts => do
    let (e, ts) ← read .expression ts
    match behind? ":" ts with
    | none => moreElements read e ts
    | some ts =>
      let (v, ts) ← read .expression ts
      if beginsClause ts then
        let ts ← behindClauses? read (ts.length + 1) ts
        let ts ← behind? "\x7d" ts
        some (other, ts)
      else moreEntries read (e, v) ts

/-- An atom. -/
def atomic : Reader Literal
  | .name s :: ts => some (name s, ts)
  | .number v :: ts => some (atom v, ts)
  | .quotation q :: ts => do
    let (q, ts) ← joinQuotations q ts
    let e ← ofQuotation? read q
    some (e, ts)
  | .mark "None" :: ts => some (atom .null, ts)
  | .mark "True" :: ts => some (atom (.bool true), ts)
  | .mark "False" :: ts => some (atom (.bool false), ts)
  | .mark "..." :: ts => some (atom .ellipsis, ts)
  | .mark "(" :: ts => group read ts
  | .mark "[" :: ts => row read ts
  | .mark "\x7b" :: ts => braced read ts
  | _ => none

/-- An expression with the calls and the choices of parts behind it. Each takes at least one word,
and `fuel` bounds their number. -/
def choicesBehind : Nat → Literal → Reader Literal
  | 0, _, _ => none
  | fuel + 1, e, ts =>
    match ts with
    | .mark "." :: .name _ :: ts => choicesBehind fuel component ts
    | .mark "(" :: .mark ")" :: ts => choicesBehind fuel (call e) ts
    | .mark "(" :: ts => do
      let ts ← behindArguments? read ts
      choicesBehind fuel other ts
    | .mark "[" :: ts => do
      let (_, ts) ← items (choice read) (begins "]") ts
      let ts ← behind? "]" ts
      choicesBehind fuel component ts
    | ts => some (e, ts)

/-- An atom with the calls and the choices of parts behind it. -/
def primary : Reader Literal := fun ts => do
  let (e, ts) ← atomic read ts
  choicesBehind read (ts.length + 1) e ts

/-- A primary, which may be waited for, with the power that it is raised to. -/
def power : Reader Literal := fun ts => do
  let (e, ts) ← match behind? "await" ts with
    | some rest => (read .primary rest).map fun (_, rest) => (other, rest)
    | none => read .primary ts
  match behind? "**" ts with
  | some rest => (read .operand rest).map fun (_, rest) => (other, rest)
  | none => some (e, ts)

/-- An operand with the signs before it. -/
def operand : Reader Literal
  | .mark "+" :: ts => (read .operand ts).map fun (e, ts) => (signed false e, ts)
  | .mark "-" :: ts => (read .operand ts).map fun (e, ts) => (signed true e, ts)
  | .mark "~" :: ts => (read .operand ts).map fun (_, ts) => (other, ts)
  | ts => power read ts

/-- Two expressions with an operator between. -/
def joined (left : Literal) (words : List String) (right : Literal) : Literal :=
  if words = ["+"] then sum false left right
  else if words = ["-"] then sum true left right
  else other

/-- An expression with the operators of a level and the operands behind it. Each operator takes at
least one word, and `fuel` bounds their number. -/
def operationsBehind (level : Nat) : Nat → Literal → Reader Literal
  | 0, _, _ => none
  | fuel + 1, e, ts =>
    match operator? level ts with
    | none => some (e, ts)
    | some (words, ts) => do
      let (f, ts) ← read (.operation (level + 1)) ts
      operationsBehind level fuel (joined e words f) ts

/-- Operands with operators of a level between them, or of tighter ones. -/
def operation (level : Nat) : Reader Literal := fun ts =>
  if operators.length ≤ level then read .operand ts
  else
    match if level = comparisonLevel then behind? "not" ts else none with
    | some rest => (read (.operation level) rest).map fun (_, rest) => (other, rest)
    | none => do
      let (e, ts) ← read (.operation (level + 1)) ts
      operationsBehind read level (ts.length + 1) e ts

/-- An expression: a function, or operations, which may have a condition and an alternative. -/
def expression : Reader Literal := fun ts =>
  match behind? "lambda" ts with
  | some rest => do
    let rest ← behindParameters? read rest
    let (_, rest) ← read .expression rest
    some (other, rest)
  | none => do
    let (e, ts) ← read (.operation 0) ts
    match behind? "if" ts with
    | none => some (e, ts)
    | some rest => do
      let (_, rest) ← read (.operation 0) rest
      let rest ← behind? "else" rest
      let (_, rest) ← read .expression rest
      some (other, rest)

end

/-- The part of an expression at the start of the words. The depth of the recursion is bounded by
`fuel`. -/
def part? : Nat → Part → Reader Literal
  | 0, _ => fun _ => none
  | fuel + 1, .expression => expression (part? fuel)
  | fuel + 1, .operation level => operation (part? fuel) level
  | fuel + 1, .operand => operand (part? fuel)
  | fuel + 1, .primary => primary (part? fuel)

/-- How many parts an expression goes through, at most, from one of its characters to the next. -/
def partsPerCharacter : Nat := 16

/-- The expression that a text is. -/
def read? (text : List Char) : Option Literal := do
  let ts ← tokens? text
  let one := part? (partsPerCharacter * (text.length + 2)) .expression
  let (first, ts) ← one ts
  let (others, rest) ← itemsBehind one List.isEmpty (ts.length + 1) ts
  if !rest.isEmpty then none
  else some (if begins "," ts then tuple (first :: others) else first)

end Literal

/-- The value of a literal. -/
def Value.ofLiteral (text : String) : Except LiteralFault Value :=
  match Literal.read? text.toList with
  | some e => e.value
  | none => .error .malformed

end TypeMismatch
