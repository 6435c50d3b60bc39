import TypeMismatch.Text.Ranges

/-!
# A place in a document

A document is read from a cursor: what is still to be read, and how many characters, lines and
columns come before it. Lines end at a line feed, at U+0085, and at the separators U+2028 and
U+2029; the byte order mark takes no column. A document holds printable characters, tabs and line
breaks only.

Source: `safe_load`, the part that reads characters.
-/

namespace TypeMismatch
namespace Document

/-- Ranges of the characters that a document may hold. -/
def documentRanges : Text.Ranges :=
  [(0x9, 0xA), (0xD, 0xD), (0x20, 0x7E), (0x85, 0x85), (0xA0, 0xD7FF), (0xE000, 0xFFFD),
   (0x10000, 0x10FFFF)]

/-- Whether a document may hold a character. -/
def isDocumentChar (c : Char) : Bool := documentRanges.has c.toNat

/-- Whether a character ends a line. -/
def isBreak (c : Char) : Bool := c == '\n' || c == '\u0085' || c == '\u2028' || c == '\u2029'

/-- Whether a character separates words: a space, a tab or a line break. -/
def isSpacing (c : Char) : Bool := c == ' ' || c == '\t' || isBreak c

/-- Whether a text is at its end or at a spacing character. -/
def atSpacing (text : List Char) : Bool :=
  match text with
  | [] => true
  | c :: _ => isSpacing c

/-- Whether a text begins with a given word, followed by spacing or the end. -/
def atWord (word text : List Char) : Bool :=
  word.isPrefixOf text && atSpacing (text.drop word.length)

/-- Whether a line begins with the mark of the start or of the end of a document. -/
def atDocumentMark (line : List Char) : Bool :=
  atWord ['-', '-', '-'] line || atWord ['.', '.', '.'] line

/-- What a line break stands for within a scalar. -/
def breakChar (c : Char) : Char := if c == '\u0085' then '\n' else c

/-- A place in a document. -/
structure Cursor where
  rest : List Char
  index : Nat
  line : Nat
  column : Nat

namespace Cursor

/-- The start of a text, behind a byte order mark if there is one. -/
def start (text : List Char) : Cursor :=
  match text with
  | '\uFEFF' :: rest => ⟨rest, 1, 0, 0⟩
  | _ => ⟨text, 0, 0, 0⟩

/-- The place behind the next character. -/
def next (c : Cursor) : Cursor :=
  match c.rest with
  | [] => c
  | x :: rest =>
    if isBreak x then ⟨rest, c.index + 1, c.line + 1, 0⟩
    else ⟨rest, c.index + 1, c.line, if x = '\uFEFF' then c.column else c.column + 1⟩

/-- The place behind so many characters. -/
def skip : Nat → Cursor → Cursor
  | 0, c => c
  | n + 1, c => skip n c.next

/-- The place behind the characters of a class. -/
def skipWhile (p : Char → Bool) (c : Cursor) : Cursor := c.skip (c.rest.takeWhile p).length

/-- Whether the next character is of a class. -/
def sees (p : Char → Bool) (c : Cursor) : Bool := c.rest.head?.any p

/-- The place of the next word, behind spaces, comments and line breaks, and whether a line break
lies between. Every step takes at least one character, and `fuel` bounds the number of steps. -/
def skipGap : Nat → Cursor → Bool → Cursor × Bool
  | 0, c, broken => (c, broken)
  | fuel + 1, c, broken =>
    match c.rest with
    | [] => (c, broken)
    | x :: _ =>
      if x = ' ' then skipGap fuel c.next broken
      else if x = '#' then skipGap fuel (c.skipWhile (!isBreak ·)) broken
      else if isBreak x then skipGap fuel c.next true
      else (c, broken)

end Cursor
end Document
end TypeMismatch
