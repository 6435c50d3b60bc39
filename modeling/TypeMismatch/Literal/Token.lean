import TypeMismatch.Literal.Quotation
import TypeMismatch.Text.Identifier
import TypeMismatch.Text.Lines

/-!
# Words of expressions

An expression is one logical line: a line break ends it, unless it stands inside brackets or after a
backslash. Blank lines and lines with only a comment may come before and after. The line must begin
in the first column; spaces and tabs before the whole text do not count. Where a backslash goes on
with the gap at the start of a line, the column before it counts. At most two hundred brackets are
open at once.

A word is a mark, the longest that stands at its place, an identifier, a word with a meaning of its
own, a number or a quotation. The identifier `set` may have its letters in any of their shapes.

Source: `literal_eval`, the tokenizer.
-/

namespace TypeMismatch
namespace Literal

/-- A word of an expression. -/
inductive Token where
  /-- A mark, or a word with a meaning of its own. -/
  | mark (s : String)
  | name (s : String)
  | number (v : Value)
  | quotation (q : Quotation)
deriving Repr

/-- The words with a meaning of their own. -/
def keywords : List String :=
  ["False", "None", "True", "and", "as", "assert", "async", "await", "break", "class", "continue",
   "def", "del", "elif", "else", "except", "finally", "for", "from", "global", "if", "import", "in",
   "is", "lambda", "nonlocal", "not", "or", "pass", "raise", "return", "try", "while", "with",
   "yield"]

/-- The name of the function whose call without arguments is the empty set. -/
def setName : String := "set"

/-- The word that letters form. -/
def wordOf? (s : List Char) : Option Token :=
  let text := String.ofList s
  if keywords.contains text then some (.mark text)
  else if !Text.isIdentifier s then none
  else some (.name (if Text.isShaped setName.toList s then setName else text))

/-- The marks of several characters, longer ones first. -/
def longMarks : List (List Char) :=
  ["**=", "//=", "<<=", ">>=", "...", "**", "//", "<<", ">>", "<=", ">=", "==", "!=", "<>", "->",
   "+=", "-=", "*=", "/=", "%=", "@=", "&=", "|=", "^=", ":="].map String.toList

/-- The marks of one character. -/
def shortMarks : List Char := "()[]\x7b\x7d,:;.=+-*/%@|&^~<>".toList

/-- The mark at the start of a text. -/
def mark? (s : List Char) : Option (List Char) :=
  match longMarks.find? (·.isPrefixOf s) with
  | some m => some m
  | none => (s.head?.filter shortMarks.contains).map ([·])

/-- How many brackets may be open at once. -/
def maxOpen : Nat := 200

/-- Whether a character separates words without ending the line. -/
def isGap (c : Char) : Bool := c == ' ' || c == '\t' || c == '\x0c'

/-- The text from the end of a comment on. -/
def skipComment (cs : List Char) : List Char := cs.dropWhile (· != '\n')

/-- Whether the gap at the start of a line leaves the first column. A form feed goes back to it. -/
def isIndented (gap : List Char) : Bool :=
  match gap.getLast? with
  | some c => c != '\x0c'
  | none => false

/-- The text behind blank lines and comments, which is empty or begins a line with its first word in
the first column. Whether a backslash has stood beyond that column is given in `isInset`. Every step
takes at least one character, and `fuel` bounds the number of steps. -/
def skipBlankLines : Nat → Bool → List Char → Option (List Char)
  | 0, _, cs => some cs
  | fuel + 1, isInset, cs =>
    let isInset := isInset || isIndented (cs.takeWhile isGap)
    match cs.dropWhile isGap with
    | [] => if isInset then none else some []
    | c :: rest =>
      if c = '\n' then skipBlankLines fuel false rest
      else if c = '#' then skipBlankLines fuel false ((skipComment rest).drop 1)
      else if c = Text.backslash then
        match rest with
        | '\n' :: d :: r => skipBlankLines fuel isInset (d :: r)
        | _ => none
      else if isInset then none
      else some (c :: rest)

/-- The words with one more before them. -/
def push (t : Token) (r : Option (List Token × List Char)) : Option (List Token × List Char) :=
  r.map fun (ts, rest) => (t :: ts, rest)

/-- How many brackets are open behind a mark. -/
def openBehind (level : Nat) (m : List Char) : Nat :=
  if [['('], ['['], ['\x7b']].contains m then level + 1
  else if [[')'], [']'], ['\x7d']].contains m then level - 1
  else level

/-- The words of the logical line at the start of a text, and the rest behind it. The number of open
brackets is `level`; every step takes at least one character, and `fuel` bounds their number. -/
def tokensFrom : Nat → Nat → List Char → Option (List Token × List Char)
  | 0, _, _ => none
  | _ + 1, _, [] => some ([], [])
  | fuel + 1, level, c :: cs =>
    if isGap c then tokensFrom fuel level cs
    else if c = '#' then tokensFrom fuel level (skipComment cs)
    else if c = '\n' then
      if level = 0 then some ([], cs) else tokensFrom fuel level cs
    else if c = Text.backslash then
      match cs with
      | '\n' :: d :: rest => tokensFrom fuel level (d :: rest)
      | _ => none
    else if c = Text.apostrophe || c = Text.doubleQuote then do
      let (q, rest) ← quotation? ⟨false, false, false⟩ (c :: cs)
      push (.quotation q) (tokensFrom fuel level rest)
    else if isAsciiDigit c || (c = '.' && (cs.head?.any isAsciiDigit)) then do
      let (v, rest) ← numeral? (c :: cs)
      push (.number v) (tokensFrom fuel level rest)
    else if isNameChar c then do
      let word := (c :: cs).takeWhile isNameChar
      let rest := (c :: cs).dropWhile isNameChar
      let isQuoted := rest.head?.any fun q => q = Text.apostrophe || q = Text.doubleQuote
      match if isQuoted then quotationKind? word else none with
      | some kind => do
        let (q, rest) ← quotation? kind rest
        push (.quotation q) (tokensFrom fuel level rest)
      | none => do
        let t ← wordOf? word
        push t (tokensFrom fuel level rest)
    else do
      let m ← mark? (c :: cs)
      let level' := openBehind level m
      if maxOpen < level' then none
      push (.mark (String.ofList m)) (tokensFrom fuel level' ((c :: cs).drop m.length))

/-- The words of an expression. -/
def tokens? (text : List Char) : Option (List Token) := do
  let cs := Text.unifyBreaks (text.dropWhile fun c => c = ' ' || c = '\t')
  if cs.contains '\x00' then none
  let cs ← skipBlankLines (cs.length + 1) false cs
  let (ts, rest) ← tokensFrom (cs.length + 1) 0 cs
  match skipBlankLines (rest.length + 1) false rest with
  | some [] => some ts
  | _ => none

/-- The words of an expression between round brackets, given what stands between them. -/
def groupTokens? (inside : List Char) : Option (List Token) :=
  (tokensFrom (inside.length + 3) 0 ('(' :: inside ++ [')'])).map (·.1)

end Literal
end TypeMismatch
