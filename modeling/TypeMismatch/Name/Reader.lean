import TypeMismatch.Name.Bracket
import TypeMismatch.Name.Fault
import TypeMismatch.Name.Limit
import TypeMismatch.Name.Signature
import TypeMismatch.Text.Blank
import TypeMismatch.Text.Split

/-!
# Reading type names

A name, without the blanks at its ends, has one of the forms

| form | of the type |
| --- | --- |
| `P S` | not generic, if no mark followed by a digit stands in the name |
| ``P `Z S``, ``P `Z [W] S`` | not generic, where `Z` is zero and `W` blank |
| ``P `N T [x, …, y] S`` | generic of the positive arity `N`, with that many arguments |

where `P` is a path, segments with points between them; `T` a chain of nested types, each after a
plus sign; and `S` ranks. An argument is itself a name, one level deeper, and blanks around it do
not count. The first mark with a digit behind it counts, wherever it stands. The brackets of the
whole name are checked before anything else, so that the brackets of every argument are balanced
too.

Every place is counted from the start of the whole name: an argument is read with its offset.

Source: `parse` (`read`), which calls `_parse_span` (`readAt`) and with it `_parse_zero_arity`
(`readZero`), `_split_path` (`readPath`), `_array_suffix` (`readRanks`) and `_trim`. The patterns
for arities, nested types and ranks are `marked?`, `nestedChain` and `trailingFrom`.
-/

namespace TypeMismatch
namespace Name

/-- Whether a character cannot stand in a segment. -/
def isReserved (c : Char) : Bool :=
  c == Signature.arityMark || c == '[' || c == ']' || c == ','

/-- Whether a character can stand in the name of a nested type. -/
def isNestedChar (c : Char) : Bool :=
  !Text.isBlank c && !isReserved c && c != '.' && c != '+'

/-- Fails for a reason at a place. -/
def failAt {α : Type} (reason : Reason) (position : Nat) : Except Failure α :=
  .error (.fault ⟨reason, position⟩)

/-- The rest of a chain of nested types, from inside the name of one, and what follows the chain. -/
def chainRest : List Char → List Char × List Char
  | [] => ([], [])
  | [c] => if isNestedChar c then ([c], []) else ([], [c])
  | c :: d :: cs =>
    if isNestedChar c then
      let (chain, rest) := chainRest (d :: cs)
      (c :: chain, rest)
    else if c = '+' && isNestedChar d then
      let (chain, rest) := chainRest cs
      (c :: d :: chain, rest)
    else ([], c :: d :: cs)

/-- The longest chain of nested types at the start of a text, and what follows it. -/
def nestedChain (text : List Char) : List Char × List Char :=
  match text with
  | c :: d :: _ => if c = '+' && isNestedChar d then chainRest text else ([], text)
  | _ => ([], text)

/-- An arity mark with its digits, and the text before and behind it. -/
structure Marked where
  before : List Char
  digits : List Char
  after : List Char

/-- The first mark with a digit behind it. -/
def marked? : List Char → Option Marked
  | [] => none
  | c :: cs =>
    if c = Signature.arityMark && cs.head?.any Text.isDigit then
      some ⟨[], cs.takeWhile Text.isDigit, cs.dropWhile Text.isDigit⟩
    else (marked? cs).map fun m => { m with before := c :: m.before }

/-- Checks segments of a path that begins at an offset. -/
def checkSegments (offset : Nat) : List (List Char) → Except Failure Unit
  | [] => .ok ()
  | segment :: segments =>
    if segment.isEmpty then failAt .emptySegment offset
    else
      match segment.dropWhile (!isReserved ·) with
      | c :: _ => failAt (.reserved c) (offset + (segment.takeWhile (!isReserved ·)).length)
      | [] => checkSegments (offset + segment.length + 1) segments

/-- The segments of a path that begins at an offset. -/
def readPath (offset : Nat) (text : List Char) : Except Failure (List (List Char)) := do
  let segments := Text.split '.' text
  checkSegments offset segments
  pure segments

/-- The place of the first thing that is no rank, in a text at an offset; the rank that is still
open began at `opened`. -/
def trailingFrom (offset : Nat) (opened : Option Nat) : List Char → Option Nat
  | [] => opened
  | c :: cs =>
    match opened with
    | none => if c = '[' then trailingFrom (offset + 1) (some offset) cs else some offset
    | some start =>
      if c = ']' then trailingFrom (offset + 1) none cs
      else if c = ',' || c = '*' then trailingFrom (offset + 1) (some start) cs
      else some start

/-- Ranks that fill the rest of a name at an offset. -/
def readRanks (offset : Nat) (text : List Char) : Except Failure (List Char) :=
  match trailingFrom offset none text with
  | some position => failAt .trailing position
  | none => .ok text

/-- A name without an arity: a path up to the first bracket, and ranks. -/
def readPlain (offset : Nat) (text : List Char) : Except Failure Signature := do
  let before := text.takeWhile (· != '[')
  let path ← readPath offset before
  let ranks ← readRanks (offset + before.length) (text.dropWhile (· != '['))
  pure (.plain path ranks)

/-- The arguments inside a bracket, each with the blanks around it. -/
def argumentsIn (inside : List Char) : List (List Char) :=
  if Text.isAllBlank inside then [] else splitOwn 0 inside

/-- What follows the arity zero: a bracket that holds only blanks may come before the ranks. -/
def readZero (path : List (List Char)) (offset : Nat) (text : List Char) :
    Except Failure Signature :=
  match text with
  | '[' :: rest =>
    match untilClose 0 rest with
    | none => failAt .unclosed offset
    | some (inside, behind) =>
      if (argumentsIn inside).isEmpty then
        (readRanks (offset + inside.length + 2) behind).map (.plain path)
      else failAt (.argumentCount 0 (argumentsIn inside).length) offset
  | text => (readRanks offset text).map (.plain path)

/-- Arguments that begin at an offset, with a comma between two. -/
def readAll (read : Nat → List Char → Except Failure Signature) (offset : Nat) :
    List (List Char) → Except Failure (List Signature)
  | [] => .ok []
  | part :: parts => do
    let a ← read offset part
    let as ← readAll read (offset + part.length + 1) parts
    pure (a :: as)

/-- What follows a positive arity: nested types, the arguments in brackets, and ranks. -/
def readGeneric (read : Nat → List Char → Except Failure Signature) (path : List (List Char))
    (arity offset : Nat) (text : List Char) : Except Failure Signature :=
  let (nested, rest) := nestedChain text
  let place := offset + nested.length
  match rest with
  | [] => failAt (.argumentCount arity 0) place
  | c :: rest =>
    if c != '[' then failAt .noArguments place
    else
      match untilClose 0 rest with
      | none => failAt .unclosed place
      | some (inside, behind) =>
        let parts := argumentsIn inside
        if parts.length != arity then failAt (.argumentCount arity parts.length) place
        else do
          let arguments ← readAll read (place + 1) parts
          let ranks ← readRanks (place + inside.length + 2) behind
          pure ⟨path, arity, arguments, ranks, nested⟩

/-- What follows the path of a name with an arity. -/
def readMarked (read : Nat → List Char → Except Failure Signature) (offset : Nat) (m : Marked) :
    Except Failure Signature :=
  if Text.maxDigits < m.digits.length then .error (.numeralTooLong m.digits.length)
  else do
    let path ← readPath offset m.before
    let behind := offset + m.before.length + 1 + m.digits.length
    let arity := Text.digitsValue m.digits
    if arity = 0 then readZero path behind m.after
    else readGeneric read path arity behind m.after

/-- A name, or an argument, at an offset, with so many levels left as `levels` says. -/
def readAt (limit : Limit) : Nat → Nat → List Char → Except Failure Signature
  | 0, offset, _ => failAt (.tooDeep limit.levels) offset
  | levels + 1, offset, text =>
    let start := offset + Text.leadingBlanks text
    let body := Text.trim text
    if body.isEmpty then failAt .empty (offset + text.length)
    else
      match marked? body with
      | none => readPlain start body
      | some m => readMarked (readAt limit levels) start m

/-- Checks the brackets of a whole name. -/
def checkBrackets (text : List Char) : Except Failure Unit :=
  match imbalance? text with
  | some (.unmatched position) => failAt .unmatched position
  | some (.unclosed position) => failAt .unclosed position
  | none => .ok ()

/-- The signature of a name. -/
def read (limit : Limit) (text : List Char) : Except Failure Signature := do
  checkBrackets text
  readAt limit (limit.levels + 1) 0 text

end Name
end TypeMismatch
