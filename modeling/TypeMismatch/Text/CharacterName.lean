import TypeMismatch.Text.CharacterName.Alias
import TypeMismatch.Text.CharacterName.Alphabets
import TypeMismatch.Text.CharacterName.Notation
import TypeMismatch.Text.CharacterName.OldScripts
import TypeMismatch.Text.CharacterName.Signs
import TypeMismatch.Text.CharacterName.Syllables
import TypeMismatch.Text.Digit
import TypeMismatch.Text.Ranges
import TypeMismatch.Text.Split

/-!
# Names of characters

A character is known by its name in the Unicode standard, version 14.0, in any case, and by the
names that it has beside. The name of an ideograph ends in its code in base sixteen; that of a
Korean syllable is made of the names of its sounds; both are written in capitals. A selector of
variants has a number. All other names stand in tables.

A table holds the names of a run of characters in the order of their codes, on lines, with
semicolons between them: a digit says how many words a name has in common with the start of the one
before it, and the other words follow. What is empty has no name in the table.

Source: the escapes of `literal_eval` that name a character (`codeOfName?`).
-/

namespace TypeMismatch
namespace Text

/-- The tables of names with the codes of their first characters. -/
def nameTables : List (Nat × List String) :=
  alphabetTables ++ signTables ++ syllableTables ++ oldScriptTables ++ notationTables

/-- The entries of a table. -/
def entriesOf (table : List String) : List (List Char) :=
  table.flatMap fun line => split ';' line.toList

/-- A name in a table by its words, given that of the name before it. -/
def fullName (before : List (List Char)) : List Char → List (List Char)
  | [] => []
  | shared :: rest =>
    before.take (shared.toNat - '0'.toNat) ++ if rest.isEmpty then [] else split ' ' rest

/-- The code of a name in a table, given the code of its first entry and the name before that. -/
def findName (name : List (List Char)) :
    Nat → List (List Char) → List (List Char) → Option Nat
  | _, _, [] => none
  | code, before, [] :: entries => findName name (code + 1) before entries
  | code, before, entry :: entries =>
    let full := fullName before entry
    if full = name then some code else findName name (code + 1) full entries

/-- The code of a control. -/
def controlOfName? (name : List Char) : Option Nat :=
  [(0, lowControlNames), (127, highControlNames)].findSome? fun (first, table) =>
    ((entriesOf table).findIdx? fun names => (split ',' names).contains name).map (first + ·)

/-- The first sounds of Korean syllables. -/
def firstSounds : List String :=
  ["G", "GG", "N", "D", "DD", "R", "M", "B", "BB", "S", "SS", "", "J", "JJ", "C", "K", "T", "P",
   "H"]

/-- The vowels of Korean syllables. -/
def vowels : List String :=
  ["A", "AE", "YA", "YAE", "EO", "E", "YEO", "YE", "O", "WA", "WAE", "OE", "YO", "U", "WEO", "WE",
   "WI", "YU", "EU", "YI", "I"]

/-- The last sounds of Korean syllables. -/
def lastSounds : List String :=
  ["", "G", "GG", "GS", "N", "NJ", "NH", "D", "L", "LG", "LM", "LB", "LS", "LT", "LP", "LH", "M",
   "B", "BS", "S", "SS", "NG", "J", "C", "K", "T", "P", "H"]

/-- The rest of a text behind its beginning, if it begins so. -/
def behind? (start s : List Char) : Option (List Char) :=
  if start.isPrefixOf s then some (s.drop start.length) else none

/-- The code of a Korean syllable by its sounds. -/
def syllable? (sounds : List Char) : Option Nat :=
  firstSounds.zipIdx.findSome? fun (a, i) => (behind? a.toList sounds).bind fun s =>
    vowels.zipIdx.findSome? fun (b, j) => (behind? b.toList s).bind fun s =>
      (lastSounds.findIdx? fun c => c.toList = s).map fun k =>
        0xAC00 + (i * vowels.length + j) * lastSounds.length + k

/-- The codes of ideographs. -/
def ideographs : Ranges :=
  [(0x3400, 0x4DBF), (0x4E00, 0x9FFF), (0x20000, 0x2A6DF), (0x2A700, 0x2B738), (0x2B740, 0x2B81D),
   (0x2B820, 0x2CEA1), (0x2CEB0, 0x2EBE0), (0x30000, 0x3134A)]

/-- The beginnings of names that end in a code, with the codes. -/
def codedNames : List (String × Ranges) :=
  [("CJK COMPATIBILITY IDEOGRAPH-", [(0xF900, 0xFA6D), (0xFA70, 0xFAD9), (0x2F800, 0x2FA1D)]),
   ("KHITAN SMALL SCRIPT CHARACTER-", [(0x18B00, 0x18CD5)]),
   ("NUSHU CHARACTER-", [(0x1B170, 0x1B2FB)])]

/-- The number of digits in base sixteen, which are capitals; at least four digits are needed. -/
def codeOfDigits? (digits : List Char) : Option Nat :=
  if digits.length < 4 || 5 < digits.length then none
  else
    digits.foldlM (fun n c =>
      if '0' ≤ c && c ≤ '9' then some (16 * n + (c.toNat - '0'.toNat))
      else if 'A' ≤ c && c ≤ 'F' then some (16 * n + (c.toNat - 'A'.toNat + 10))
      else none) 0

/-- The code of an ideograph, or of a character of another such script. -/
def codedName? (name : List Char) : Option Nat :=
  codedNames.findSome? fun (start, codes) => do
    let digits ← behind? start.toList name
    if digits.head? = some '0' then none
    let code ← codeOfDigits? digits
    if codes.has code then some code else none

/-- The code of the selector of variants with a number. -/
def selector? (name : List Char) : Option Nat := do
  let digits ← (behind? "VS".toList name).or (behind? "VARIATION SELECTOR-".toList name)
  if digits.isEmpty || digits.head? = some '0' || !digits.all fun c => '0' ≤ c && c ≤ '9' then none
  let n := digitsValue digits
  if n ≤ 16 then some (0xFE00 + n - 1)
  else if n ≤ 256 then some (0xE0100 + n - 17)
  else none

/-- The code of the character with a name. -/
def codeOfName? (name : List Char) : Option Nat :=
  match behind? "HANGUL SYLLABLE ".toList name, behind? "CJK UNIFIED IDEOGRAPH-".toList name with
  | some sounds, _ => syllable? sounds
  | none, some digits => (codeOfDigits? digits).filter ideographs.has
  | none, none =>
    let name := name.map Char.toUpper
    (controlOfName? name)
      |>.or ((furtherNames.find? fun e => e.1.toList = name).map (·.2))
      |>.or (codedName? name)
      |>.or (selector? name)
      |>.or (nameTables.findSome? fun (first, table) =>
        findName (split ' ' name) first [] (entriesOf table))

end Text
end TypeMismatch
