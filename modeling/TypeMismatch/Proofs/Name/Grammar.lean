import TypeMismatch.Name.Limit
import TypeMismatch.Name.Signature
import TypeMismatch.Proofs.Name.Bracket
import TypeMismatch.Text.Blank

/-!
# The grammar of type names

What a type name is, as `parse` should read it, said without reading one.  A text derives a
signature at a depth if the depth is within the limit and the text, without the blanks at its ends,
is one of

| form | derives |
| --- | --- |
| `P S` | the type of path `P` with ranks `S`, not generic |
| ``P `Z``, ``P `Z [W] S`` | the same, where the digits `Z` have the value zero and `W` is blank |
| ``P `N T [x, …, y] S`` | a generic type, where `N` has the value of the number of arguments |

and every argument derives its signature one level deeper.  `P` is a path (`IsPath`), `S` are ranks
(`IsRanks`), `T` is a chain of nested types (`IsChain`).

A text that derives a signature is a token (`Derives.isToken`): its brackets are balanced and its
commas stand inside of them, so that it can be told apart among other arguments.
-/

namespace TypeMismatch
namespace Name

/-- A character that cannot stand in a segment: a point, an arity mark, a bracket or a comma. -/
def IsMark (c : Char) : Prop := c ∈ ['.', Signature.arityMark, '[', ']', ',']

instance (c : Char) : Decidable (IsMark c) := inferInstanceAs (Decidable (c ∈ _))

/-- Segments, at least one, each with at least one character and none of them a mark. -/
structure IsPath (path : List (List Char)) : Prop where
  ne_nil : path ≠ []
  segment_ne_nil : ∀ segment ∈ path, segment ≠ []
  not_mark : ∀ segment ∈ path, ∀ c ∈ segment, ¬IsMark c

instance (path : List (List Char)) : Decidable (IsPath path) :=
  decidable_of_iff (path ≠ [] ∧ (path.all fun segment => !segment.isEmpty) = true ∧
      (path.all fun segment => segment.all fun c => !decide (IsMark c)) = true) <| by
    simp only [List.all_eq_true, Bool.not_eq_true', decide_eq_false_iff_not,
      List.isEmpty_eq_false_iff]
    exact ⟨fun ⟨h, hs, hm⟩ => ⟨h, hs, hm⟩, fun ⟨h, hs, hm⟩ => ⟨h, hs, hm⟩⟩

/-- Ranks in brackets, each of commas and stars only. -/
inductive IsRanks : List Char → Prop
  | nil : IsRanks []
  | cons {rank ranks : List Char} : (∀ c ∈ rank, c = ',' ∨ c = '*') → IsRanks ranks →
      IsRanks ('[' :: (rank ++ ']' :: ranks))

/-- A character of the name of a nested type: no mark, no blank and no plus sign. -/
def IsChainChar (c : Char) : Prop := ¬IsMark c ∧ c ≠ '+' ∧ Text.isBlank c = false

instance (c : Char) : Decidable (IsChainChar c) :=
  inferInstanceAs (Decidable (¬IsMark c ∧ c ≠ '+' ∧ Text.isBlank c = false))

/-- Names of nested types, each of at least one character and behind a plus sign. -/
inductive IsChain : List Char → Prop
  | nil : IsChain []
  | cons {name chain : List Char} : name ≠ [] → (∀ c ∈ name, IsChainChar c) → IsChain chain →
      IsChain ('+' :: (name ++ chain))

/-- Decimal digits, at least one, of the value `n`. -/
structure IsNumeral (n : Nat) (digits : List Char) : Prop where
  ne_nil : digits ≠ []
  isDigit : ∀ c ∈ digits, Text.isDigit c = true
  value : Text.digitsValue digits = n

mutual

/-- A text derives a signature at a depth. -/
inductive Derives (limit : Limit) : Nat → List Char → Signature → Prop
  /-- A path and ranks. -/
  | plain {depth text path ranks} : depth ≤ limit.levels → IsPath path → IsRanks ranks →
      Text.trim text = Signature.dotted path ++ ranks →
      Derives limit depth text (.plain path ranks)
  /-- The arity zero, and nothing behind it. -/
  | zero {depth text path digits} : depth ≤ limit.levels → IsPath path → IsNumeral 0 digits →
      Text.trim text = Signature.dotted path ++ Signature.arityMark :: digits →
      Derives limit depth text (.plain path [])
  /-- The arity zero, a bracket that holds only blanks, and ranks. -/
  | zeroBracket {depth text path digits blanks ranks} : depth ≤ limit.levels → IsPath path →
      IsNumeral 0 digits → (∀ c ∈ blanks, Text.isBlank c = true) → IsRanks ranks →
      Text.trim text = Signature.dotted path ++
        Signature.arityMark :: (digits ++ '[' :: (blanks ++ ']' :: ranks)) →
      Derives limit depth text (.plain path ranks)
  /-- A positive arity, nested types, so many arguments in brackets, and ranks. -/
  | generic {depth text path n digits nested parts arguments ranks} : depth ≤ limit.levels →
      IsPath path → 1 ≤ n → IsNumeral n digits → IsChain nested → parts.length = n →
      IsRanks ranks →
      Text.trim text = Signature.dotted path ++ Signature.arityMark ::
        (digits ++ (nested ++ '[' :: ([','].intercalate parts ++ ']' :: ranks))) →
      DerivesAll limit (depth + 1) parts arguments →
      Derives limit depth text ⟨path, n, arguments, ranks, nested⟩

/-- Texts derive signatures one by one. -/
inductive DerivesAll (limit : Limit) : Nat → List (List Char) → List Signature → Prop
  | nil {depth} : DerivesAll limit depth [] []
  | cons {depth part parts a as} : Derives limit depth part a → DerivesAll limit depth parts as →
      DerivesAll limit depth (part :: parts) (a :: as)

end

/-! ### Classes of characters -/

/-- The brackets and the comma, the characters that separate arguments. -/
theorem ne_of_not_isMark {c : Char} (h : ¬IsMark c) : c ≠ '[' ∧ c ≠ ']' ∧ c ≠ ',' := by
  refine ⟨?_, ?_, ?_⟩
  all_goals
    rintro rfl
    exact h (by decide)

/-- A blank is no mark. -/
theorem not_isMark_of_isBlank {c : Char} (h : Text.isBlank c = true) : ¬IsMark c := by
  intro hm
  simp only [IsMark, List.mem_cons, List.not_mem_nil, or_false] at hm
  rcases hm with rfl | rfl | rfl | rfl | rfl
  all_goals exact absurd h (by decide)

/-- A digit is no mark. -/
theorem not_isMark_of_isDigit {c : Char} (h : Text.isDigit c = true) : ¬IsMark c := by
  intro hm
  simp only [IsMark, List.mem_cons, List.not_mem_nil, or_false] at hm
  rcases hm with rfl | rfl | rfl | rfl | rfl
  all_goals exact absurd h (by decide)

/-- A path in writing has no marks but its points. -/
theorem IsPath.mem_dotted {path : List (List Char)} (h : IsPath path) {c : Char}
    (hc : c ∈ Signature.dotted path) : c = '.' ∨ ¬IsMark c := by
  rcases Text.mem_intercalate hc with rfl | ⟨segment, hs, hc⟩
  · exact .inl rfl
  · exact .inr (h.not_mark segment hs c hc)

/-- A chain has no marks. -/
theorem IsChain.not_isMark {chain : List Char} (h : IsChain chain) : ∀ c ∈ chain, ¬IsMark c := by
  induction h with
  | nil => exact fun c hc => absurd hc List.not_mem_nil
  | cons _ hn _ ih =>
    intro c hc
    rcases List.mem_cons.1 hc with rfl | hc
    · decide
    · rcases List.mem_append.1 hc with hc | hc
      · exact (hn c hc).1
      · exact ih c hc

/-- The ASCII numeral of a number is a numeral of it. -/
theorem isNumeral_numeral (n : Nat) : IsNumeral n (Text.numeral n) :=
  ⟨Text.numeral_ne_nil n, fun _ hc => Text.isDigit_of_mem_numeral hc, Text.digitsValue_numeral n⟩

/-! ### Texts that derive signatures are tokens -/

/-- A text without marks is a token. -/
theorem isToken_of_not_isMark {u : List Char} (h : ∀ c ∈ u, ¬IsMark c) : IsToken u :=
  isToken_of_ne fun c hc => ne_of_not_isMark (h c hc)

/-- A path in writing is a token. -/
theorem IsPath.isToken {path : List (List Char)} (h : IsPath path) :
    IsToken (Signature.dotted path) := by
  refine isToken_of_ne fun c hc => ?_
  rcases h.mem_dotted hc with rfl | hm
  · decide
  · exact ne_of_not_isMark hm

/-- Ranks are a token, the commas in them being within brackets. -/
theorem IsRanks.isToken {ranks : List Char} (h : IsRanks ranks) : IsToken ranks := by
  induction h with
  | nil => exact ⟨rfl, rfl⟩
  | cons hr _ ih =>
    refine .bracket (balanced_of_ne fun c hc => ?_) ih
    rcases hr c hc with rfl | rfl <;> decide

/-- A text is a token if it is one without the blanks at its ends. -/
theorem isToken_of_trim {text : List Char} (h : IsToken (Text.trim text)) : IsToken text := by
  obtain ⟨u, v, he, hu, hv⟩ := Text.exists_eq_trim text
  rw [he]
  exact (isToken_of_not_isMark fun c hc => not_isMark_of_isBlank (hu c hc)).append
    (h.append (isToken_of_not_isMark fun c hc => not_isMark_of_isBlank (hv c hc)))

/-- The arity mark in front of a token makes a token. -/
theorem isToken_arityMark {text : List Char} (h : IsToken text) :
    IsToken (Signature.arityMark :: text) :=
  IsToken.append (u := [Signature.arityMark]) ⟨by decide, by decide⟩ h

/-- A numeral is a token. -/
theorem IsNumeral.isToken {n : Nat} {digits : List Char} (h : IsNumeral n digits) :
    IsToken digits :=
  isToken_of_not_isMark fun c hc => not_isMark_of_isDigit (h.isDigit c hc)

/-- A path with an arity behind it is balanced. -/
theorem IsPath.balanced_marked {path : List (List Char)} {digits : List Char} (h : IsPath path)
    (hd : ∀ c ∈ digits, Text.isDigit c = true) :
    Balanced (Signature.dotted path ++ Signature.arityMark :: digits) :=
  (h.isToken.append (isToken_arityMark
    (isToken_of_not_isMark fun c hc => not_isMark_of_isDigit (hd c hc)))).balanced

mutual

/-- **A text that derives a signature is a token.**  Its brackets are balanced, and its commas stand
inside of brackets. -/
theorem Derives.isToken {limit : Limit} {depth : Nat} {text : List Char} {s : Signature} :
    Derives limit depth text s → IsToken text
  | .plain _ hp hr h => isToken_of_trim (h ▸ hp.isToken.append hr.isToken)
  | .zero _ hp hd h => isToken_of_trim (h ▸ hp.isToken.append (isToken_arityMark hd.isToken))
  | .zeroBracket _ hp hd hb hr h => by
    have blank := (isToken_of_not_isMark fun c hc => not_isMark_of_isBlank (hb c hc)).balanced
    exact isToken_of_trim
      (h ▸ hp.isToken.append (isToken_arityMark (hd.isToken.append (.bracket blank hr.isToken))))
  | .generic _ hp _ hd hc _ hr h ha => by
    have inside := balanced_intercalate fun x hx => (ha.isToken x hx).balanced
    exact isToken_of_trim (h ▸ hp.isToken.append (isToken_arityMark (hd.isToken.append
      ((isToken_of_not_isMark hc.not_isMark).append (.bracket inside hr.isToken)))))

/-- The texts of arguments are tokens. -/
theorem DerivesAll.isToken {limit : Limit} {depth : Nat} {parts : List (List Char)}
    {as : List Signature} : DerivesAll limit depth parts as → ∀ x ∈ parts, IsToken x
  | .nil => fun _ hx => absurd hx List.not_mem_nil
  | .cons h hs => fun x hx => by
    rcases List.mem_cons.1 hx with rfl | hx
    · exact h.isToken
    · exact hs.isToken x hx

end

/-- A text derives a signature within the limit only, and begins with its path. -/
theorem Derives.starts {limit : Limit} {depth : Nat} {text : List Char} {s : Signature}
    (h : Derives limit depth text s) : depth ≤ limit.levels ∧ IsPath s.path ∧
      ∃ rest, Text.trim text = Signature.dotted s.path ++ rest := by
  cases h with
  | plain hd hp _ he => exact ⟨hd, hp, _, he⟩
  | zero hd hp _ he => exact ⟨hd, hp, _, he⟩
  | zeroBracket hd hp _ _ _ he => exact ⟨hd, hp, _, he⟩
  | generic hd hp _ _ _ _ _ he _ => exact ⟨hd, hp, _, he⟩

/-- As many arguments are derived as there are parts. -/
theorem DerivesAll.length_eq {limit : Limit} {depth : Nat} {parts : List (List Char)}
    {as : List Signature} : DerivesAll limit depth parts as → parts.length = as.length
  | .nil => rfl
  | .cons _ hs => congrArg (· + 1) hs.length_eq

/-! ### Numerals that can be read -/

/-- Whether no arity mark of a text has more digits right behind it than are read as one number. -/
def numeralsFit : List Char → Bool
  | [] => true
  | c :: cs =>
    (c != Signature.arityMark || (cs.takeWhile Text.isDigit).length ≤ Text.maxDigits)
      && numeralsFit cs

/-- All arities of a text fit if the one behind a mark in front does, and those behind it do. -/
theorem numeralsFit_cons {c : Char} {cs : List Char} :
    numeralsFit (c :: cs) = true ↔
      (c = Signature.arityMark → (cs.takeWhile Text.isDigit).length ≤ Text.maxDigits) ∧
        numeralsFit cs = true := by
  rw [numeralsFit, Bool.and_eq_true, Bool.or_eq_true, bne_iff_ne, decide_eq_true_eq,
    Decidable.imp_iff_not_or]

/-- In a part of a text no digits come behind a mark that do not in the text. -/
theorem numeralsFit_of_infix {u text : List Char} (h : numeralsFit text = true) (hu : u <:+: text) :
    numeralsFit u = true := by
  obtain ⟨before, after, rfl⟩ := hu
  have tail : numeralsFit (u ++ after) = true := by
    rw [List.append_assoc] at h
    induction before with
    | nil => exact h
    | cons c cs ih => exact ih (numeralsFit_cons.1 h).2
  clear h
  induction u with
  | nil => rfl
  | cons c cs ih =>
    rw [List.cons_append] at tail
    obtain ⟨hc, hcs⟩ := numeralsFit_cons.1 tail
    refine numeralsFit_cons.2 ⟨fun e => Nat.le_trans ?_ (hc e), ih hcs⟩
    rw [List.takeWhile_append]
    split
    · rw [List.length_append]
      omega
    · exact Nat.le_refl _

/-- Where there is no arity all arities fit. -/
theorem numeralsFit_of_notMem {text : List Char} (h : Signature.arityMark ∉ text) :
    numeralsFit text = true := by
  induction text with
  | nil => rfl
  | cons c cs ih =>
    rw [List.mem_cons, not_or] at h
    exact numeralsFit_cons.2 ⟨fun e => absurd e.symm h.1, ih h.2⟩

/-- A character that is no digit ends the digits behind every mark before it. -/
theorem numeralsFit_append_cons {u v : List Char} {c : Char} (hc : Text.isDigit c = false)
    (hu : numeralsFit u = true) (hv : numeralsFit (c :: v) = true) :
    numeralsFit (u ++ c :: v) = true := by
  induction u with
  | nil => exact hv
  | cons d ds ih =>
    obtain ⟨hd, hds⟩ := numeralsFit_cons.1 hu
    have stop : (c :: v).takeWhile Text.isDigit = [] :=
      List.takeWhile_cons_of_neg (by rw [hc]; decide)
    rw [List.cons_append]
    refine numeralsFit_cons.2 ⟨fun e => ?_, ih hds⟩
    have digits := hd e
    rw [List.takeWhile_append, stop, List.append_nil]
    split
    · rename_i hall
      rwa [← hall]
    · exact digits

/-- The digits behind a mark are not too many. -/
theorem length_le_of_numeralsFit {u digits v : List Char}
    (h : numeralsFit (u ++ Signature.arityMark :: (digits ++ v)) = true)
    (hd : ∀ c ∈ digits, Text.isDigit c = true) : digits.length ≤ Text.maxDigits := by
  have tail := numeralsFit_of_infix h (List.suffix_append u _).isInfix
  have length := (numeralsFit_cons.1 tail).1 rfl
  rw [List.takeWhile_append_of_pos hd, List.length_append] at length
  omega

end Name
end TypeMismatch
