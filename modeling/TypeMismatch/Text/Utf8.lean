import TypeMismatch.Text.Digit

/-!
# UTF-8 with the place of the first fault

A character takes one to four bytes. The first byte tells how many follow and, for four of its
values, narrows the range of the second, so that no character has two encodings and no surrogate
has one:

| first | second | more |
| --- | --- | --- |
| `00`–`7F` | | |
| `C2`–`DF` | `80`–`BF` | |
| `E0` | `A0`–`BF` | 1 |
| `E1`–`EC`, `EE`, `EF` | `80`–`BF` | 1 |
| `ED` | `80`–`9F` | 1 |
| `F0` | `90`–`BF` | 2 |
| `F1`–`F3` | `80`–`BF` | 2 |
| `F4` | `80`–`8F` | 2 |

Decoding stops at the first byte that no encoding can hold. The fault names the bytes of the
character read so far: they cannot be continued.

Source: the decoding in `read_text`, as `load_config` and `_load_config` call it.
-/

namespace TypeMismatch
namespace Text

/-- Why bytes are not UTF-8. -/
inductive Utf8Reason where
  /-- A byte that begins no character. -/
  | start
  /-- A character is broken off by a byte that cannot continue it. -/
  | continuation
  /-- The bytes end inside a character. -/
  | truncated
deriving DecidableEq, Repr

/-- The first place where bytes are not UTF-8: the offset of the character that cannot be read, how
many of its bytes were read, and the first of them. -/
structure Utf8Fault where
  reason : Utf8Reason
  offset : Nat
  length : Nat
  first : UInt8
deriving DecidableEq, Repr

/-- A character whose first byte has been read: how many bytes are still owed, the range of the
next one, and the number that the bits so far stand for. -/
structure Utf8Pending where
  owed : Nat
  low : Nat
  high : Nat
  bits : Nat

/-- What the first byte of a character announces. A byte below `80` owes nothing. -/
def utf8Start (b : Nat) : Option Utf8Pending :=
  if b < 0x80 then some ⟨0, 0, 0, b⟩
  else if b < 0xC2 then none
  else if b < 0xE0 then some ⟨1, 0x80, 0xBF, b - 0xC0⟩
  else if b < 0xF0 then
    some ⟨2, if b = 0xE0 then 0xA0 else 0x80, if b = 0xED then 0x9F else 0xBF, b - 0xE0⟩
  else if b < 0xF5 then
    some ⟨3, if b = 0xF0 then 0x90 else 0x80, if b = 0xF4 then 0x8F else 0xBF, b - 0xF0⟩
  else none

/-- The rest of one character after its first byte: the character and the bytes behind it. The
count `taken` says how many of its bytes have been read. -/
def utf8Rest (offset : Nat) (first : UInt8) :
    Nat → Utf8Pending → List UInt8 → Except Utf8Fault (Char × List UInt8)
  | taken, ⟨owed, low, high, bits⟩, bytes =>
    match owed, bytes with
    | 0, bytes => .ok (Char.ofNat bits, bytes)
    | _ + 1, [] => .error ⟨.truncated, offset, taken, first⟩
    | owed + 1, b :: bytes =>
      if low ≤ b.toNat && b.toNat ≤ high then
        utf8Rest offset first (taken + 1) ⟨owed, 0x80, 0xBF, bits * 64 + b.toNat % 64⟩ bytes
      else .error ⟨.continuation, offset, taken, first⟩
termination_by _ p => p.owed

/-- The characters of the bytes from an offset on. There are at most as many characters as bytes,
and `fuel` bounds their number. -/
def utf8From : Nat → Nat → List UInt8 → Except Utf8Fault (List Char)
  | 0, _, _ => .ok []
  | _ + 1, _, [] => .ok []
  | fuel + 1, offset, b :: bytes =>
    match utf8Start b.toNat with
    | none => .error ⟨.start, offset, 1, b⟩
    | some p => do
      let (c, rest) ← utf8Rest offset b 1 p bytes
      let cs ← utf8From fuel (offset + 1 + p.owed) rest
      pure (c :: cs)

/-- The characters that bytes encode, or the first fault. -/
def decodeUtf8 (bytes : List UInt8) : Except Utf8Fault (List Char) :=
  utf8From bytes.length 0 bytes

/-- The fault in words, with the byte or the range of bytes that it concerns. -/
def Utf8Fault.message (f : Utf8Fault) : String :=
  let place :=
    if f.length = 1 then
      "byte 0x" ++ String.ofList (hexadecimal 2 f.first.toNat) ++ " in position "
        ++ String.ofList (numeral f.offset)
    else
      "bytes in position " ++ String.ofList (numeral f.offset) ++ "-"
        ++ String.ofList (numeral (f.offset + f.length - 1))
  let reason := match f.reason with
    | .start => "invalid start byte"
    | .continuation => "invalid continuation byte"
    | .truncated => "unexpected end of data"
  "'utf-8' codec can't decode " ++ place ++ ": " ++ reason

end Text
end TypeMismatch
