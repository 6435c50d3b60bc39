/-!
# Square brackets

Arguments stand in square brackets, and so do ranks. A text is balanced if every bracket in it is
closed and nothing is closed that was not opened. A closing bracket without an opening one is found
where it stands; of the brackets that are never closed the last one is reported.

Behind an opening bracket the text up to its closing bracket is the inside. Its commas are on the
own level of the bracket if no further bracket is open; they split the inside into parts.

Source: `_check_balanced` (`imbalance?`), `_matching_bracket` (`untilClose`) and `_split_arguments`
(`splitOwn`).
-/

namespace TypeMismatch
namespace Name

/-- What is wrong with the brackets of a text, with the place. -/
inductive Imbalance where
  | unmatched (position : Nat)
  | unclosed (position : Nat)
deriving DecidableEq, Repr

/-- The fault in the brackets of a text that begins at a position, where the brackets at the places
`opened` are open, the last one first. -/
def imbalanceFrom (position : Nat) (opened : List Nat) : List Char → Option Imbalance
  | [] => opened.head?.map .unclosed
  | c :: cs =>
    if c = '[' then imbalanceFrom (position + 1) (position :: opened) cs
    else if c = ']' then
      match opened with
      | [] => some (.unmatched position)
      | _ :: opened => imbalanceFrom (position + 1) opened cs
    else imbalanceFrom (position + 1) opened cs

/-- The fault in the brackets of a text. -/
def imbalance? (text : List Char) : Option Imbalance := imbalanceFrom 0 [] text

/-- The inside of a bracket and the rest behind its closing bracket, from the text behind the
opening one. So many further brackets are open as `level` says. -/
def untilClose (level : Nat) : List Char → Option (List Char × List Char)
  | [] => none
  | c :: cs =>
    if c = '[' then (untilClose (level + 1) cs).map fun (i, r) => (c :: i, r)
    else if c = ']' then
      match level with
      | 0 => some ([], cs)
      | level + 1 => (untilClose level cs).map fun (i, r) => (c :: i, r)
    else (untilClose level cs).map fun (i, r) => (c :: i, r)

/-- The number of open brackets behind a character. -/
def levelAfter (level : Nat) (c : Char) : Nat :=
  if c = '[' then level + 1 else if c = ']' then level - 1 else level

/-- The parts of a text between the commas of its own level. -/
def splitOwn (level : Nat) : List Char → List (List Char)
  | [] => [[]]
  | c :: cs =>
    if c = ',' && level = 0 then [] :: splitOwn level cs
    else
      match splitOwn (levelAfter level c) cs with
      | [] => [[c]]
      | part :: parts => (c :: part) :: parts

end Name
end TypeMismatch
