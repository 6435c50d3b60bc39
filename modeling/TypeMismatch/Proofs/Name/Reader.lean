import TypeMismatch.Proofs.Name.Imbalance
import TypeMismatch.Proofs.Name.Part

/-!
# What the reader accepts

A name is read (`parse`) exactly as the grammar derives it (`read_eq_ok_iff_derives`).  What is read
is derived, by induction on the levels that are left (`derives_of_readAt`), and what is derived is
read, by induction on the derivation (`readAt_of_derives`).  The second half needs that no arity has
more digits than are read as one number; the brackets need no care there, since a text that derives
a signature is a token.
-/

namespace TypeMismatch
namespace Name

/-! ### Names without arguments -/

/-- Ranks are empty or begin with a bracket. -/
theorem IsRanks.eq_nil_or {ranks : List Char} (h : IsRanks ranks) :
    ranks = [] ∨ ∃ rest, ranks = '[' :: rest := by
  cases h with
  | nil => exact .inl rfl
  | cons => exact .inr ⟨_, rfl⟩

/-- A path holds no opening bracket. -/
theorem IsPath.ne_bracket {path : List (List Char)} (h : IsPath path) :
    ∀ c ∈ Signature.dotted path, (c != '[') = true := by
  intro c hc
  rw [bne_iff_ne]
  rcases h.mem_dotted hc with rfl | hm
  · decide
  · exact (ne_of_not_isMark hm).1

/-- A name without an arity is a path and ranks. -/
theorem readPlain_eq_ok_iff {offset : Nat} {text : List Char} {s : Signature} :
    readPlain offset text = .ok s ↔
      ∃ path ranks, IsPath path ∧ IsRanks ranks ∧ text = Signature.dotted path ++ ranks ∧
        s = .plain path ranks := by
  constructor
  · intro h
    obtain ⟨path, hp, h⟩ := ok_of_bind h
    obtain ⟨ranks, hrs, h⟩ := ok_of_bind h
    obtain rfl := Except.ok.inj h
    obtain ⟨hp, he⟩ := readPath_eq_ok_iff.1 hp
    obtain ⟨hr, rfl⟩ := readRanks_eq_ok_iff.1 hrs
    exact ⟨path, _, hp, hr, by rw [← he, List.takeWhile_append_dropWhile], rfl⟩
  · rintro ⟨path, ranks, hp, hr, rfl, rfl⟩
    have stop : ranks.takeWhile (· != '[') = [] ∧ ranks.dropWhile (· != '[') = ranks := by
      rcases hr.eq_nil_or with rfl | ⟨rest, rfl⟩
      · exact ⟨rfl, rfl⟩
      · exact ⟨List.takeWhile_cons_of_neg (by decide), List.dropWhile_cons_of_neg (by decide)⟩
    have before :
        (Signature.dotted path ++ ranks).takeWhile (· != '[') = Signature.dotted path := by
      rw [List.takeWhile_append_of_pos hp.ne_bracket, stop.1, List.append_nil]
    have behind : (Signature.dotted path ++ ranks).dropWhile (· != '[') = ranks := by
      rw [List.dropWhile_append_of_pos hp.ne_bracket, stop.2]
    have path_ok : readPath offset (Signature.dotted path) = .ok path :=
      readPath_eq_ok_iff.2 ⟨hp, rfl⟩
    have ranks_ok : ∀ place, readRanks place ranks = .ok ranks := fun place =>
      readRanks_eq_ok_iff.2 ⟨hr, rfl⟩
    unfold readPlain
    simp only [before, behind, path_ok, ranks_ok]
    rfl

/-- There are no arguments in a bracket exactly if it is blank. -/
theorem argumentsIn_eq_nil_iff {inside : List Char} :
    argumentsIn inside = [] ↔ ∀ c ∈ inside, Text.isBlank c = true := by
  unfold argumentsIn
  split
  · rename_i h
    exact ⟨fun _ => List.all_eq_true.1 h, fun _ => rfl⟩
  · rename_i h
    exact ⟨fun he => absurd he (splitOwn_ne_nil 0 inside),
      fun hb => absurd (List.all_eq_true.2 hb) h⟩

/-- Behind the arity zero stands nothing, or a blank bracket and ranks. -/
theorem readZero_eq_ok_iff {path : List (List Char)} {offset : Nat} {text : List Char}
    {s : Signature} :
    readZero path offset text = .ok s ↔
      (text = [] ∧ s = .plain path []) ∨
        ∃ blanks ranks, text = '[' :: (blanks ++ ']' :: ranks) ∧
          (∀ c ∈ blanks, Text.isBlank c = true) ∧ IsRanks ranks ∧ s = .plain path ranks := by
  constructor
  · intro h
    unfold readZero at h
    split at h
    · rename_i rest
      split at h
      · exact absurd h failAt_ne_ok
      · rename_i inside behind hu
        split at h
        · rename_i ha
          obtain ⟨ranks, hr, rfl⟩ := ok_of_map h
          obtain ⟨hr, rfl⟩ := readRanks_eq_ok_iff.1 hr
          obtain ⟨rfl, -⟩ := untilClose_eq_some_iff.1 hu
          exact .inr ⟨inside, _, rfl, argumentsIn_eq_nil_iff.1 (List.isEmpty_iff.1 ha), hr, rfl⟩
        · exact absurd h failAt_ne_ok
    · rename_i hb
      obtain ⟨ranks, hr, rfl⟩ := ok_of_map h
      obtain ⟨hr, rfl⟩ := readRanks_eq_ok_iff.1 hr
      rcases hr.eq_nil_or with he | ⟨rest, he⟩
      · exact .inl ⟨he, by rw [he]⟩
      · exact absurd he (hb rest)
  · rintro (⟨rfl, rfl⟩ | ⟨blanks, ranks, rfl, hb, hr, rfl⟩)
    · rfl
    · have inside : levelBehind? 0 blanks = some 0 :=
        (isToken_of_not_isMark fun c hc => not_isMark_of_isBlank (hb c hc)).balanced
      have close : untilClose 0 (blanks ++ ']' :: ranks) = some (blanks, ranks) :=
        untilClose_eq_some_iff.2 ⟨rfl, inside⟩
      have none : (argumentsIn blanks).isEmpty = true := by rw [argumentsIn_eq_nil_iff.2 hb]; rfl
      have ranks_ok : readRanks (offset + blanks.length + 2) ranks = .ok ranks :=
        readRanks_eq_ok_iff.2 ⟨hr, rfl⟩
      unfold readZero
      simp only [close, none, ranks_ok]
      rfl

/-! ### Names with arguments -/

/-- Behind a positive arity stand nested types, so many arguments in brackets, and ranks. -/
theorem readGeneric_eq_ok_iff {read : Nat → List Char → Except Failure Signature}
    {path : List (List Char)} {arity offset : Nat} {text : List Char} {s : Signature} :
    readGeneric read path arity offset text = .ok s ↔
      ∃ nested inside ranks arguments, text = nested ++ '[' :: (inside ++ ']' :: ranks) ∧
        IsChain nested ∧ Balanced inside ∧ IsRanks ranks ∧ (argumentsIn inside).length = arity ∧
        readAll read (offset + nested.length + 1) (argumentsIn inside) = .ok arguments ∧
        s = ⟨path, arity, arguments, ranks, nested⟩ := by
  constructor
  -- A signature is read only if each check on the way has passed.
  · intro h
    obtain ⟨happ, hc⟩ := nestedChain_spec text
    unfold readGeneric at h
    generalize nestedChain text = taken at h happ hc
    obtain ⟨nested, rest⟩ := taken
    cases rest with
    | nil => exact absurd h failAt_ne_ok
    | cons c rest =>
      dsimp only at h happ hc
      split at h
      · exact absurd h failAt_ne_ok
      · rename_i hb
        obtain rfl : c = '[' := by simpa using hb
        split at h
        · exact absurd h failAt_ne_ok
        · rename_i inside behind hu
          split at h
          · exact absurd h failAt_ne_ok
          · rename_i hl
            obtain ⟨arguments, ha, h⟩ := ok_of_bind h
            obtain ⟨ranks, hrs, h⟩ := ok_of_bind h
            obtain rfl := Except.ok.inj h
            obtain ⟨hr, rfl⟩ := readRanks_eq_ok_iff.1 hrs
            obtain ⟨rfl, hi⟩ := untilClose_eq_some_iff.1 hu
            exact ⟨nested, inside, _, arguments, happ.symm, hc, hi, hr, by simpa using hl, ha, rfl⟩
  · rintro ⟨nested, inside, ranks, arguments, rfl, hc, hi, hr, hl, ha, rfl⟩
    have close : untilClose 0 (inside ++ ']' :: ranks) = some (inside, ranks) :=
      untilClose_eq_some_iff.2 ⟨rfl, hi⟩
    have ranks_ok : ∀ place, readRanks place ranks = .ok ranks := fun place =>
      readRanks_eq_ok_iff.2 ⟨hr, rfl⟩
    unfold readGeneric
    simp only [nestedChain_append hc, close, hl, ha, ranks_ok, bne_self_eq_false,
      Bool.false_eq_true, if_false]
    rfl

/-- A name with an arity is a path, and behind the digits what the value of the arity asks for. -/
theorem readMarked_eq_ok_iff {read : Nat → List Char → Except Failure Signature} {offset : Nat}
    {m : Marked} {s : Signature} :
    readMarked read offset m = .ok s ↔
      m.digits.length ≤ Text.maxDigits ∧ ∃ path, IsPath path ∧ m.before = Signature.dotted path ∧
        (if Text.digitsValue m.digits = 0 then
          readZero path (offset + m.before.length + 1 + m.digits.length) m.after
        else
          readGeneric read path (Text.digitsValue m.digits)
            (offset + m.before.length + 1 + m.digits.length) m.after) = .ok s := by
  unfold readMarked
  constructor
  · intro h
    split at h
    · cases h
    · rename_i hl
      obtain ⟨path, hp, h⟩ := ok_of_bind h
      obtain ⟨hp, he⟩ := readPath_eq_ok_iff.1 hp
      exact ⟨Nat.not_lt.1 hl, path, hp, he, h⟩
  · rintro ⟨hl, path, hp, he, h⟩
    have path_ok : readPath offset m.before = .ok path := readPath_eq_ok_iff.2 ⟨hp, he⟩
    rw [if_neg (Nat.not_lt.2 hl), path_ok]
    exact h

/-! ### What is read is derived -/

/-- Arguments that are read are derived if the reader of one derives. -/
theorem derivesAll_of_readAll {limit : Limit} {depth : Nat}
    {read : Nat → List Char → Except Failure Signature}
    (hread : ∀ offset text s, read offset text = .ok s → Derives limit depth text s)
    {offset : Nat} {parts : List (List Char)} {arguments : List Signature}
    (h : readAll read offset parts = .ok arguments) : DerivesAll limit depth parts arguments := by
  induction parts generalizing offset arguments with
  | nil =>
    obtain rfl := Except.ok.inj h
    exact .nil
  | cons part parts ih =>
    obtain ⟨a, ha, h⟩ := ok_of_bind h
    obtain ⟨as, has, h⟩ := ok_of_bind h
    obtain rfl := Except.ok.inj h
    exact .cons (hread _ _ _ ha) (ih has)

/-- The inside of a bracket with arguments is the arguments joined by commas. -/
theorem intercalate_argumentsIn {inside : List Char} (h : 0 < (argumentsIn inside).length) :
    [','].intercalate (argumentsIn inside) = inside := by
  unfold argumentsIn at h ⊢
  split
  · rename_i hb
    rw [if_pos hb] at h
    exact absurd h (Nat.lt_irrefl 0)
  · exact intercalate_splitOwn 0 inside

/-- **What is read is derived**, one level deeper for each level that has been used. -/
theorem derives_of_readAt {limit : Limit} {levels depth offset : Nat} {text : List Char}
    {s : Signature} (hd : levels + depth = limit.levels + 1)
    (h : readAt limit levels offset text = .ok s) : Derives limit depth text s := by
  induction levels generalizing depth offset text s with
  | zero => exact absurd h failAt_ne_ok
  | succ levels ih =>
    have fits : depth ≤ limit.levels := by omega
    rw [readAt] at h
    split at h
    · exact absurd h failAt_ne_ok
    · split at h
      · obtain ⟨path, ranks, hp, hr, he, rfl⟩ := readPlain_eq_ok_iff.1 h
        exact .plain fits hp hr he
      · rename_i m hm
        obtain ⟨he, hne, hdigits⟩ := marked?_eq_some hm
        obtain ⟨-, path, hp, hb, h⟩ := readMarked_eq_ok_iff.1 h
        rw [hb] at he
        split at h
        · rename_i hz
          have zero : IsNumeral 0 m.digits := ⟨hne, hdigits, hz⟩
          rcases readZero_eq_ok_iff.1 h with ⟨ha, rfl⟩ | ⟨blanks, ranks, ha, hbl, hr, rfl⟩
          · rw [ha, List.append_nil] at he
            exact .zero fits hp zero he
          · rw [ha] at he
            exact .zeroBracket fits hp zero hbl hr he
        · rename_i hz
          obtain ⟨nested, inside, ranks, arguments, ha, hc, -, hr, hl, hargs, rfl⟩ :=
            readGeneric_eq_ok_iff.1 h
          have pos : 0 < (argumentsIn inside).length := by omega
          rw [ha, ← intercalate_argumentsIn pos] at he
          refine .generic fits hp (Nat.pos_of_ne_zero hz) ⟨hne, hdigits, rfl⟩ hc hl hr he ?_
          exact derivesAll_of_readAll (fun offset text s hs => ih (by omega) hs) hargs

/-! ### What is derived is read -/

/-- A path in writing is not empty. -/
theorem IsPath.dotted_ne_nil {path : List (List Char)} (h : IsPath path) :
    Signature.dotted path ≠ [] := by
  cases path with
  | nil => exact absurd rfl h.ne_nil
  | cons segment path =>
    have hs := h.segment_ne_nil segment List.mem_cons_self
    have hi : segment <:+: Signature.dotted (segment :: path) :=
      Text.infix_intercalate List.mem_cons_self
    intro he
    rw [he] at hi
    exact hs (List.infix_nil.1 hi)

/-- A path holds no arity mark. -/
theorem IsPath.arityMark_notMem {path : List (List Char)} (h : IsPath path) :
    Signature.arityMark ∉ Signature.dotted path := by
  intro hm
  rcases h.mem_dotted hm with he | he
  · exact absurd he (by decide)
  · exact he (by decide)

/-- Nor do ranks. -/
theorem IsRanks.arityMark_notMem {ranks : List Char} (h : IsRanks ranks) :
    Signature.arityMark ∉ ranks := by
  induction h with
  | nil => exact List.not_mem_nil
  | cons hr _ ih =>
    intro hm
    rcases List.mem_cons.1 hm with he | hm
    · exact absurd he (by decide)
    · rcases List.mem_append.1 hm with hm | hm
      · exact absurd (hr _ hm) (by decide)
      · rcases List.mem_cons.1 hm with he | hm
        · exact absurd he (by decide)
        · exact ih hm

/-- Neither a chain nor the bracket behind it begins with a digit. -/
theorem IsChain.head?_append {chain : List Char} (h : IsChain chain) (rest : List Char) :
    ∀ c ∈ (chain ++ '[' :: rest).head?, Text.isDigit c = false := by
  intro c hc
  cases h with
  | nil =>
    obtain rfl := Option.some.inj hc
    decide
  | cons =>
    obtain rfl := Option.some.inj hc
    decide

/-- A name without a mark is read as a path and ranks. -/
theorem readAt_plain {limit : Limit} {levels offset : Nat} {text : List Char}
    (hne : Text.trim text ≠ []) (hm : Signature.arityMark ∉ Text.trim text) :
    readAt limit (levels + 1) offset text =
      readPlain (offset + Text.leadingBlanks text) (Text.trim text) := by
  have he : ¬(Text.trim text).isEmpty = true := fun h => hne (List.isEmpty_iff.1 h)
  rw [readAt]
  simp only [if_neg he, marked?_eq_none hm]

/-- A name with a mark is read at its first mark. -/
theorem readAt_marked {limit : Limit} {levels offset n : Nat} {text : List Char}
    {path : List (List Char)} {digits after : List Char} (hp : IsPath path)
    (hd : IsNumeral n digits) (ha : ∀ c ∈ after.head?, Text.isDigit c = false)
    (h : Text.trim text = Signature.dotted path ++ Signature.arityMark :: (digits ++ after)) :
    readAt limit (levels + 1) offset text =
      readMarked (readAt limit levels) (offset + Text.leadingBlanks text)
        ⟨Signature.dotted path, digits, after⟩ := by
  have he : ¬(Text.trim text).isEmpty = true := by
    intro hn
    rw [h, List.isEmpty_iff, List.append_eq_nil_iff] at hn
    exact hp.dotted_ne_nil hn.1
  rw [readAt]
  simp only [if_neg he]
  rw [h, marked?_append hp.arityMark_notMem hd.ne_nil hd.isDigit ha]

/-- What is derived is not blank. -/
theorem Derives.trim_ne_nil {limit : Limit} {depth : Nat} {text : List Char} {s : Signature}
    (h : Derives limit depth text s) : Text.trim text ≠ [] := by
  obtain ⟨-, hp, rest, he⟩ := h.starts
  rw [he]
  exact List.append_ne_nil_of_left_ne_nil hp.dotted_ne_nil rest

/-- Tokens are found again between the commas of their bracket.  A token that stands alone must not
be blank: a blank bracket has no arguments. -/
theorem argumentsIn_tokens {parts : List (List Char)} (hne : parts ≠ [])
    (h : ∀ x ∈ parts, IsToken x) (alone : ∀ x, parts = [x] → ∃ c ∈ x, Text.isBlank c = false) :
    argumentsIn ([','].intercalate parts) = parts := by
  have filled : ∃ c ∈ [','].intercalate parts, Text.isBlank c = false := by
    cases parts with
    | nil => exact absurd rfl hne
    | cons x xs =>
      cases xs with
      | nil =>
        obtain ⟨c, hc, hb⟩ := alone x rfl
        exact ⟨c, (Text.infix_intercalate List.mem_cons_self).subset hc, hb⟩
      | cons y ys =>
        rw [List.intercalate_cons_cons]
        exact ⟨',', by simp, by decide⟩
  have blank : ¬Text.isAllBlank ([','].intercalate parts) = true := by
    intro hb
    obtain ⟨c, hc, hn⟩ := filled
    rw [List.all_eq_true.1 hb c hc] at hn
    cases hn
  unfold argumentsIn
  rw [if_neg blank, splitOwn_intercalate hne h]

/-- Arguments that derive signatures are found again between the commas of their bracket. -/
theorem argumentsIn_intercalate {limit : Limit} {depth : Nat} {parts : List (List Char)}
    {as : List Signature} (h : DerivesAll limit depth parts as) (hne : parts ≠ []) :
    argumentsIn ([','].intercalate parts) = parts := by
  refine argumentsIn_tokens hne h.isToken fun x hx => ?_
  subst hx
  cases h with
  | cons ha _ => exact Text.exists_not_isBlank ha.trim_ne_nil

mutual

/-- **What is derived is read**, if no arity has too many digits. -/
theorem readAt_of_derives {limit : Limit} {depth levels offset : Nat} {text : List Char}
    {s : Signature} (hl : levels + 1 + depth = limit.levels + 1)
    (fits : numeralsFit (Text.trim text) = true) :
    Derives limit depth text s → readAt limit (levels + 1) offset text = .ok s
  | .plain _ hp hr h => by
    have hm : Signature.arityMark ∉ Text.trim text := by
      rw [h, List.mem_append, not_or]
      exact ⟨hp.arityMark_notMem, hr.arityMark_notMem⟩
    have hne : Text.trim text ≠ [] := by
      rw [h]
      exact List.append_ne_nil_of_left_ne_nil hp.dotted_ne_nil _
    rw [readAt_plain hne hm]
    exact readPlain_eq_ok_iff.2 ⟨_, _, hp, hr, h, rfl⟩
  | @Derives.zero _ _ _ path digits _ hp hd h => by
    rw [← List.append_nil digits] at h
    rw [h] at fits
    have stop : ∀ c ∈ ([] : List Char).head?, Text.isDigit c = false := fun c hc => by cases hc
    rw [readAt_marked hp hd stop h]
    refine readMarked_eq_ok_iff.2 ⟨length_le_of_numeralsFit fits hd.isDigit, path, hp, rfl, ?_⟩
    rw [if_pos hd.value]
    exact readZero_eq_ok_iff.2 (.inl ⟨rfl, rfl⟩)
  | @Derives.zeroBracket _ _ _ path _ blanks ranks _ hp hd hb hr h => by
    have stop : ∀ c ∈ ('[' :: (blanks ++ ']' :: ranks)).head?, Text.isDigit c = false :=
      IsChain.nil.head?_append _
    rw [h] at fits
    rw [readAt_marked hp hd stop h]
    refine readMarked_eq_ok_iff.2 ⟨length_le_of_numeralsFit fits hd.isDigit, path, hp, rfl, ?_⟩
    rw [if_pos hd.value]
    exact readZero_eq_ok_iff.2 (.inr ⟨blanks, ranks, rfl, hb, hr, rfl⟩)
  | @Derives.generic _ _ _ path _ digits nested parts _ ranks _ hp hn hd hc hlen hr h hargs => by
    have hne : parts ≠ [] := by
      rintro rfl
      rw [← hlen] at hn
      exact absurd hn (by decide)
    have found := argumentsIn_intercalate hargs hne
    have inside : Balanced ([','].intercalate parts) :=
      balanced_intercalate fun x hx => (hargs.isToken x hx).balanced
    -- The digits in an argument stand in the name, too.
    have parts_fit : ∀ x ∈ parts, numeralsFit (Text.trim x) = true := by
      intro x hx
      have hparts : [','].intercalate parts <:+: Text.trim text :=
        ⟨Signature.dotted path ++ Signature.arityMark :: (digits ++ (nested ++ ['['])),
          ']' :: ranks, by rw [h]; simp⟩
      exact numeralsFit_of_infix fits
        (((Text.isInfix_trim x).trans (Text.infix_intercalate hx)).trans hparts)
    rw [h] at fits
    rw [readAt_marked hp hd (hc.head?_append _) h]
    refine readMarked_eq_ok_iff.2 ⟨length_le_of_numeralsFit fits hd.isDigit, path, hp, rfl, ?_⟩
    rw [if_neg (by rw [hd.value]; omega)]
    -- Arguments are tokens, so the reader finds the commas that were put between them and no other.
    refine readGeneric_eq_ok_iff.2 ⟨nested, [','].intercalate parts, ranks, _, rfl, hc, inside, hr,
      by rw [found, hlen, hd.value], ?_, by rw [hd.value]⟩
    rw [found]
    exact readAll_of_derivesAll (by omega) parts_fit hargs

/-- Arguments are read one by one, each with the levels that are left to all of them. -/
theorem readAll_of_derivesAll {limit : Limit} {depth levels offset : Nat} {parts : List (List Char)}
    {as : List Signature} (hl : levels + depth = limit.levels + 1)
    (fits : ∀ x ∈ parts, numeralsFit (Text.trim x) = true) :
    DerivesAll limit depth parts as → readAll (readAt limit levels) offset parts = .ok as
  | .nil => rfl
  | @DerivesAll.cons _ _ part parts a as h hs => by
    rw [List.forall_mem_cons] at fits
    have hd := h.starts.1
    obtain ⟨levels, rfl⟩ : ∃ k, levels = k + 1 := ⟨levels - 1, by omega⟩
    have head : readAt limit (levels + 1) offset part = .ok a := readAt_of_derives hl fits.1 h
    have tail : readAll (readAt limit (levels + 1)) (offset + part.length + 1) parts = .ok as :=
      readAll_of_derivesAll hl fits.2 hs
    rw [readAll, head]
    change (readAll _ _ _ >>= _) = _
    rw [tail]
    rfl

end

/-! ### Whole names -/

/-- A balanced text passes the check of brackets. -/
theorem checkBrackets_eq_ok {text : List Char} (h : Balanced text) :
    checkBrackets text = .ok () := by
  rw [checkBrackets, imbalance?_eq_none_iff.2 h]

/-- What is read is derived. -/
theorem derives_of_read {limit : Limit} {text : List Char} {s : Signature}
    (h : read limit text = .ok s) : Derives limit 0 text s := by
  obtain ⟨⟨⟩, -, h⟩ := ok_of_bind h
  exact derives_of_readAt rfl h

/-- What is derived is read if all its arities fit. -/
theorem read_of_derives {limit : Limit} {text : List Char} {s : Signature}
    (fits : numeralsFit text = true) (h : Derives limit 0 text s) : read limit text = .ok s := by
  have trimmed := numeralsFit_of_infix fits (Text.isInfix_trim text)
  rw [read, checkBrackets_eq_ok h.isToken.balanced]
  exact readAt_of_derives rfl trimmed h

/-- **The reader accepts exactly its grammar and gives exactly the derived tree.**  For every limit
and every text in which no arity mark has more digits behind it than are read as one number, a
signature is read from the text if and only if the text derives it at depth zero. -/
theorem read_eq_ok_iff_derives {limit : Limit} {text : List Char} (fits : numeralsFit text = true)
    (s : Signature) : read limit text = .ok s ↔ Derives limit 0 text s :=
  ⟨derives_of_read, read_of_derives fits⟩

/-- The hypothesis is satisfiable, and by a name that uses every form: blanks around arguments, an
arity with a leading zero, a nested type, an arity zero with a blank bracket, ranks at both levels.
-/
theorem derives_nested :
    numeralsFit "A.B`02+C[ D ,E`0[ ][,]][]".toList = true ∧
      Derives .standard 0 "A.B`02+C[ D ,E`0[ ][,]][]".toList
        ⟨["A".toList, "B".toList], 2,
          [.plain ["D".toList] [], .plain ["E".toList] "[,]".toList], "[]".toList, "+C".toList⟩ :=
  ⟨by decide, (read_eq_ok_iff_derives (by decide) _).1 rfl⟩

end Name
end TypeMismatch
