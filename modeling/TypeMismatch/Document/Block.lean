import TypeMismatch.Document.Scalar

/-!
# Block scalars

A bar or a greater-than sign begins a scalar that goes over the lines below it, as deep as the first
of them that is not empty, or as a digit behind the sign says. Behind the bar every line break
counts; behind the other sign a single break between two lines that begin with no blank becomes a
space. A plus keeps the empty lines at the end, a minus drops the last break as well.

Source: `safe_load`, the part that scans block scalars.
-/

namespace TypeMismatch
namespace Document

/-- What becomes of the line breaks at the end of a block scalar. -/
inductive Chomping where
  | strip
  | clip
  | keep
deriving DecidableEq, Repr

/-- Whether the place is at a space, at the end of a line, or at the end of the text. -/
def Cursor.atLineSpace (c : Cursor) : Bool :=
  match c.rest with
  | [] => true
  | x :: _ => x == ' ' || isBreak x

/-- The place behind the rest of a line that holds nothing but spaces and a comment. -/
def Cursor.endLine? (c : Cursor) : Option Cursor :=
  let c := c.skipWhile (· == ' ')
  let c := if c.sees (· == '#') then c.skipWhile (!isBreak ·) else c
  match c.rest with
  | [] => some c
  | x :: _ => if isBreak x then some c.next else none

/-- What a sign says about the end of a block scalar. -/
def chomping? (c : Char) : Option Chomping :=
  if c = '+' then some .keep else if c = '-' then some .strip else none

/-- A digit that says how deep a block scalar is, if it is one. -/
def depth? (c : Char) : Option Nat :=
  if '0' ≤ c && c ≤ '9' then some (c.toNat - 0x30) else none

/-- The signs behind the start of a block scalar, in either order. -/
def blockSigns (c : Cursor) : Chomping × Option Nat × Cursor :=
  match c.rest with
  | x :: after =>
    match chomping? x, depth? x with
    | some chomping, _ =>
      match after.head?.bind depth? with
      | some depth => (chomping, some depth, c.skip 2)
      | none => (chomping, none, c.next)
    | none, some depth =>
      match after.head?.bind chomping? with
      | some chomping => (chomping, some depth, c.skip 2)
      | none => (.clip, some depth, c.next)
    | none, none => (.clip, none, c)
  | [] => (.clip, none, c)

/-- The empty lines at the start of a block scalar: their breaks, the deepest column that their
spaces reach, and the place behind them. -/
def leadingBreaks : Nat → Nat → Cursor → List Char × Nat × Cursor
  | 0, deepest, c => ([], deepest, c)
  | fuel + 1, deepest, c =>
    match c.rest with
    | [] => ([], deepest, c)
    | x :: _ =>
      if x = ' ' then leadingBreaks fuel (max deepest c.next.column) c.next
      else if isBreak x then
        let (breaks, deepest, c) := leadingBreaks fuel deepest c.next
        (breakChar x :: breaks, deepest, c)
      else ([], deepest, c)

/-- The place behind the spaces of a line, up to a column. -/
def Cursor.indentTo (column : Nat) (c : Cursor) : Cursor :=
  c.skip ((c.rest.take (column - c.column)).takeWhile (· == ' ')).length

/-- The empty lines between the lines of a block scalar: their breaks, and the place behind the
spaces of the line after them, up to a column. -/
def innerBreaks (column : Nat) : Nat → Cursor → List Char × Cursor
  | 0, c => ([], c)
  | fuel + 1, c =>
    let c := c.indentTo column
    match c.rest with
    | [] => ([], c)
    | x :: _ =>
      if isBreak x then
        let (breaks, c) := innerBreaks column fuel c.next
        (breakChar x :: breaks, c)
      else ([], c)

/-- Whether a line of a block scalar begins with a blank. -/
def Cursor.atBlank (c : Cursor) : Bool := c.sees fun x => x == ' ' || x == '\t'

/-- The lines of a block scalar at a column, behind the empty lines given: their text, the last
break, the breaks of the empty lines behind it, and the place behind all. Every step takes at least
one character, and `fuel` bounds their number. -/
def blockLines (folded : Bool) (column : Nat) :
    Nat → List Char → Cursor → List Char × List Char × List Char × Cursor
  | 0, breaks, c => ([], [], breaks, c)
  | fuel + 1, breaks, c =>
    if c.rest.isEmpty || c.column != column then ([], [], breaks, c)
    else
      let line := c.rest.takeWhile (!isBreak ·)
      let behind := c.skip line.length
      let last := (behind.rest.head?.map breakChar).toList
      let (more, next) := innerBreaks column behind.rest.length behind.next
      if next.rest.isEmpty || next.column != column then (breaks ++ line, last, more, next)
      else
        let joint := if folded && last == ['\n'] && !c.atBlank && !next.atBlank then
          if more.isEmpty then [' '] else []
          else last
        let (text, last, final, c) := blockLines folded column fuel more next
        (breaks ++ line ++ joint ++ text, last, final, c)

/-- A block scalar from its sign on, within a block at a column. -/
def scanBlock? (folded : Bool) (indent : Int) (c : Cursor) : Option (List Char × Cursor) := do
  let (chomping, depth, c) := blockSigns c.next
  if depth = some 0 || !c.atLineSpace then none
  let c ← c.endLine?
  let least := (max (indent + 1) 1).toNat
  let (breaks, column, c) := match depth with
    | none =>
      let (breaks, deepest, c) := leadingBreaks c.rest.length 0 c
      (breaks, max least deepest, c)
    | some depth =>
      let column := least + depth - 1
      let (breaks, c) := innerBreaks column (c.rest.length + 1) c
      (breaks, column, c)
  let (text, last, final, c) := blockLines folded column c.rest.length breaks c
  let ending := match chomping with
    | .strip => []
    | .clip => last
    | .keep => last ++ final
  pure (text ++ ending, c)

end Document
end TypeMismatch
