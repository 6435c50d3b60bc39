import TypeMismatch.Text.Quoted

/-!
# Texts of code points

A text is a row of code points. Nearly all of them are characters; the others are the halves by
which UTF-16 writes the characters beyond `FFFF`. An escape can put one half into a text without the
other. Such a text is broken: it is compared, quoted and shown like any other, but it has no
encoding in UTF-8, and so it cannot be printed. Printing tells of the first half of a character and
of the halves that follow it without a gap.

In a quotation, and where faults are told, a half is written by its code.

Source: the texts that `literal_eval` and `safe_load` can make, and what printing them does in
`main`.
-/

namespace TypeMismatch
namespace Text

/-- A code point: a character, or half of one by its number among the halves. -/
inductive Point where
  | char (c : Char)
  | half (n : Fin 0x800)
deriving DecidableEq, Repr

namespace Point

/-- The code of the first half. -/
def firstHalf : Nat := 0xD800

/-- The code of a code point. -/
def code : Point → Nat
  | char c => c.toNat
  | half n => firstHalf + n

/-- The code point with a code, if there is one. -/
def ofCode? (n : Nat) : Option Point :=
  if n.isValidChar then some (char (Char.ofNat n))
  else if n ≤ 0x10FFFF then some (half (Fin.ofNat 0x800 (n - firstHalf)))
  else none

/-- The character that a code point is. -/
def char? : Point → Option Char
  | char c => some c
  | half _ => none

/-- Whether a code point is half of a character. -/
def isHalf : Point → Bool
  | char _ => false
  | half _ => true

end Point

/-- The code points of a text of characters. -/
def pointsOf (s : List Char) : List Point := s.map .char

/-- The code points of a string. -/
def points (s : String) : List Point := pointsOf s.toList

/-- The characters that code points are, if none of them is half of one. -/
def chars? (ps : List Point) : Option (List Char) := ps.mapM Point.char?

/-- A text in which half of a character stands without the other one. -/
structure Broken where
  points : List Point
  isBroken : chars? points = none
deriving DecidableEq, Repr

/-- How a code point is written between two marks. -/
def quotePoint (mark : Char) : Point → List Char
  | .char c => quoteChar mark c
  | .half n => codeEscape (Point.half n).code

/-- The text between quotation marks. -/
def quotePoints (ps : List Point) : List Char :=
  let mark := quoteMark (ps.filterMap Point.char?)
  mark :: ps.flatMap (quotePoint mark) ++ [mark]

/-- The text as it is told in a fault, with halves of characters by their codes. -/
def told (ps : List Point) : List Char :=
  ps.flatMap fun
    | .char c => [c]
    | .half n => codeEscape (Point.half n).code

/-- Why a text has no encoding: the number of characters before the first half of one, and the
halves that stand there. -/
structure EncodeFault where
  start : Nat
  halves : List Point
deriving DecidableEq, Repr

/-- The fault in words. -/
def EncodeFault.message (f : EncodeFault) : String :=
  "'utf-8' codec can't encode character" ++ (match f.halves with
    | [half] =>
      " '" ++ String.ofList (told [half]) ++ "' in position " ++ String.ofList (numeral f.start)
    | halves =>
      "s in position " ++ String.ofList (numeral f.start) ++ "-"
        ++ String.ofList (numeral (f.start + halves.length - 1)))
    ++ ": surrogates not allowed"

/-- The string of code points, or the first place where half of a character stands. -/
def encode (ps : List Point) : Except EncodeFault String :=
  match chars? ps with
  | some s => .ok (String.ofList s)
  | none =>
    let before := ps.takeWhile (!·.isHalf)
    .error ⟨before.length, (ps.drop before.length).takeWhile Point.isHalf⟩

/-! ### Code points and characters -/

/-- Characters are found again among their code points. -/
theorem chars?_pointsOf (s : List Char) : chars? (pointsOf s) = some s := by
  induction s with
  | nil => rfl
  | cons c s ih =>
    rw [chars?, pointsOf] at ih ⊢
    rw [List.map_cons, List.mapM_cons, ih]
    rfl

/-- Strings with the same code points are the same. -/
theorem points_inj {s t : String} (h : points s = points t) : s = t := by
  have chars := congrArg chars? h
  rw [points, points, chars?_pointsOf, chars?_pointsOf, Option.some.injEq] at chars
  exact String.toList_inj.1 chars

/-- Code points that are all characters are those of the characters. -/
theorem pointsOf_of_chars? {ps : List Point} {s : List Char} (h : chars? ps = some s) :
    ps = pointsOf s := by
  induction ps generalizing s with
  | nil =>
    obtain rfl := Option.some.inj h
    rfl
  | cons p ps ih =>
    rw [chars?, List.mapM_cons] at h
    cases p with
    | half n => cases h
    | char c =>
      obtain ⟨_, hc, h⟩ := Option.bind_eq_some_iff.1 h
      obtain rfl := Option.some.inj hc
      obtain ⟨cs, hcs, h⟩ := Option.bind_eq_some_iff.1 h
      obtain rfl := Option.some.inj h
      rw [ih hcs]
      rfl

/-- **A text can be encoded if it is not broken**, and then it is the string of its characters. -/
theorem encode_eq_ok_iff {ps : List Point} {s : String} : encode ps = .ok s ↔ ps = points s := by
  constructor
  · intro h
    unfold encode at h
    split at h
    · rename_i cs hcs
      obtain rfl := Except.ok.inj h
      rw [points, String.toList_ofList, pointsOf_of_chars? hcs]
    · cases h
  · rintro rfl
    rw [encode, points, chars?_pointsOf, ← String.ofList_toList (s := s), String.toList_ofList]

end Text
end TypeMismatch
