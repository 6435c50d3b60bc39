import TypeMismatch.Text.Blank
import TypeMismatch.Text.Digit
import TypeMismatch.Text.Split

/-!
# Trimming, splitting and numerals

Three facts about texts on which the theory of names rests.  Trimming (`_trim`) takes blanks off the
two ends and nothing else, so that a trimmed text neither begins nor ends with a blank.  Splitting
(`_split_path`) at a separator and joining with it undo each other, so that segments joined by
points determine the segments.  The numeral of a number reads back as that number, so that numerals
determine numbers.
-/

namespace TypeMismatch
namespace Text

/-! ### Trimming -/

/-- The blanks that a text begins with are blank. -/
theorem isBlank_of_mem_takeWhile {c : Char} {s : List Char} (h : c ∈ s.takeWhile isBlank) :
    isBlank c = true :=
  List.all_eq_true.1 List.all_takeWhile c h

/-- A text is its leading blanks, what is left of it once trimmed, and more blanks. -/
theorem exists_eq_takeWhile_append (s : List Char) :
    ∃ v, s = s.takeWhile isBlank ++ (trim s ++ v) ∧ ∀ c ∈ v, isBlank c = true := by
  refine ⟨((s.dropWhile isBlank).reverse.takeWhile isBlank).reverse, ?_,
    fun c hc => isBlank_of_mem_takeWhile (List.mem_reverse.1 hc)⟩
  rw [trim, trimEnd, ← List.reverse_append, List.takeWhile_append_dropWhile, List.reverse_reverse,
    List.takeWhile_append_dropWhile]

/-- **Trimming takes off blanks only.**  What stands before and behind the trimmed text is blank. -/
theorem exists_eq_trim (s : List Char) :
    ∃ u v, s = u ++ (trim s ++ v) ∧ (∀ c ∈ u, isBlank c = true) ∧ ∀ c ∈ v, isBlank c = true := by
  obtain ⟨v, h, hv⟩ := exists_eq_takeWhile_append s
  exact ⟨_, v, h, fun c hc => isBlank_of_mem_takeWhile hc, hv⟩

/-- Nothing is taken from the start of a text that does not begin with what is taken. -/
theorem takeWhile_stop {p : Char → Bool} {s : List Char} (h : ∀ c ∈ s.head?, p c = false) :
    s.takeWhile p = [] ∧ s.dropWhile p = s := by
  cases s with
  | nil => exact ⟨rfl, rfl⟩
  | cons c s =>
    have hc : ¬p c = true := by rw [h c rfl]; decide
    exact ⟨List.takeWhile_cons_of_neg hc, List.dropWhile_cons_of_neg hc⟩

/-- What is left does not begin with what was taken. -/
theorem head?_dropWhile (p : Char → Bool) (s : List Char) :
    ∀ c ∈ (s.dropWhile p).head?, p c = false := by
  intro c hc
  have h := List.head?_dropWhile_not p s
  rw [Option.mem_def.1 hc] at h
  simpa using h

/-- A text that does not end with a blank has none trimmed at its end. -/
theorem trimEnd_eq_self {s : List Char} (h : ∀ c ∈ s.getLast?, isBlank c = false) :
    trimEnd s = s := by
  rw [trimEnd]
  cases hs : s.reverse with
  | nil => simpa using hs.symm
  | cons c r =>
    have hc : isBlank c = false := h c (by rw [← List.head?_reverse, hs]; rfl)
    rw [List.dropWhile_cons_of_neg (by simp [hc]), ← hs, List.reverse_reverse]

/-- A trimmed text does not end with a blank. -/
theorem getLast?_trimEnd {s : List Char} : ∀ c ∈ (trimEnd s).getLast?, isBlank c = false := by
  intro c hc
  rw [trimEnd, List.getLast?_reverse] at hc
  exact head?_dropWhile isBlank s.reverse c hc

/-- Trimming at the end leaves a beginning of the text. -/
theorem trimEnd_prefix (s : List Char) : trimEnd s <+: s := by
  rw [trimEnd]
  exact List.reverse_suffix.1 (by rw [List.reverse_reverse]; exact List.dropWhile_suffix _)

/-- Only what stands behind the last character that is no blank is trimmed. -/
theorem trimEnd_append_cons (u v : List Char) {c : Char} (hc : isBlank c = false) :
    trimEnd (u ++ c :: v) = u ++ c :: trimEnd v := by
  have stop : (c :: u.reverse).dropWhile isBlank = c :: u.reverse :=
    List.dropWhile_cons_of_neg (by simp [hc])
  have turned : (u ++ c :: v).reverse = v.reverse ++ c :: u.reverse := by simp
  rw [trimEnd, turned, List.dropWhile_append, trimEnd]
  split
  · rename_i h
    rw [List.isEmpty_iff.1 h, stop]
    simp
  · simp

/-- A text that does not begin with a blank is trimmed at its end only. -/
theorem trim_eq_trimEnd {s : List Char} (first : ∀ c ∈ s.head?, isBlank c = false) :
    trim s = trimEnd s := by
  cases s with
  | nil => rfl
  | cons c r => rw [trim, List.dropWhile_cons_of_neg (by simp [first c rfl])]

/-- A text without blanks at its ends is trimmed already. -/
theorem trim_eq_self {s : List Char} (first : ∀ c ∈ s.head?, isBlank c = false)
    (last : ∀ c ∈ s.getLast?, isBlank c = false) : trim s = s := by
  rw [trim_eq_trimEnd first, trimEnd_eq_self last]

/-- A text that is trimmed already begins with no blanks. -/
theorem leadingBlanks_eq_zero {s : List Char} (h : trim s = s) : leadingBlanks s = 0 := by
  obtain ⟨v, he, -⟩ := exists_eq_takeWhile_append s
  have length := congrArg List.length he
  rw [h, List.length_append, List.length_append] at length
  rw [leadingBlanks]
  omega

/-- A trimmed text does not begin with a blank. -/
theorem head?_trim {s : List Char} : ∀ c ∈ (trim s).head?, isBlank c = false := by
  intro c hc
  have hp : trim s <+: s.dropWhile isBlank := trimEnd_prefix _
  obtain ⟨t, ht⟩ := hp
  refine head?_dropWhile isBlank s c ?_
  rw [← ht, List.head?_append, Option.mem_def.1 hc]
  rfl

/-- Trimming leaves a part of the text. -/
theorem isInfix_trim (s : List Char) : trim s <:+: s := by
  obtain ⟨u, v, he, -, -⟩ := exists_eq_trim s
  exact ⟨u, v, by rw [List.append_assoc, ← he]⟩

/-- A text of which something is left holds more than blanks. -/
theorem exists_not_isBlank {s : List Char} (h : trim s ≠ []) : ∃ c ∈ s, isBlank c = false := by
  obtain ⟨c, cs, hc⟩ := List.exists_cons_of_ne_nil h
  have hm : c ∈ trim s := by rw [hc]; exact List.mem_cons_self
  refine ⟨c, (isInfix_trim s).subset hm, head?_trim (s := s) c ?_⟩
  rw [hc]
  rfl

/-- A text that holds more than blanks begins with blanks and a character that is none. -/
theorem exists_eq_blanks_append {s : List Char} (h : ∃ c ∈ s, isBlank c = false) :
    ∃ u c w, s = u ++ c :: w ∧ (∀ d ∈ u, isBlank d = true) ∧ isBlank c = false := by
  have parts := List.takeWhile_append_dropWhile (p := isBlank) (l := s)
  cases hd : s.dropWhile isBlank with
  | nil =>
    obtain ⟨c, hc, hb⟩ := h
    rw [hd, List.append_nil] at parts
    rw [← parts] at hc
    rw [isBlank_of_mem_takeWhile hc] at hb
    cases hb
  | cons c w =>
    have first := head?_dropWhile isBlank s c
    rw [hd] at parts first
    exact ⟨_, c, w, parts.symm, fun d hd => isBlank_of_mem_takeWhile hd, first rfl⟩

/-- Something is left of a text that is not blank. -/
theorem trim_ne_nil {s : List Char} {c : Char} (hc : c ∈ s) (h : isBlank c = false) :
    trim s ≠ [] := by
  obtain ⟨u, v, he, hu, hv⟩ := exists_eq_trim s
  intro hn
  rw [he, hn, List.nil_append] at hc
  have blank : isBlank c = true := (List.mem_append.1 hc).elim (hu c) (hv c)
  exact absurd blank (by rw [h]; decide)

/-! ### Splitting -/

/-- What stands before and behind a character of a text. -/
theorem exists_eq_append_of_getElem? {s : List Char} {i : Nat} {c : Char} (h : s[i]? = some c) :
    ∃ u v, s = u ++ c :: v ∧ u.length = i := by
  obtain ⟨hi, rfl⟩ := List.getElem?_eq_some_iff.1 h
  refine ⟨s.take i, s.drop (i + 1), ?_, List.length_take_of_le (Nat.le_of_lt hi)⟩
  rw [List.getElem_cons_drop, List.take_append_drop]

/-- Splitting at a character is splitting as the library has it. -/
theorem split_eq_splitOn (separator : Char) (s : List Char) :
    split separator s = s.splitOn separator := by
  induction s with
  | nil => rfl
  | cons c cs ih =>
    rw [split, List.splitOn_cons_eq_if_modifyHead, ih]
    have h := List.splitOn_ne_nil separator cs
    by_cases hc : c = separator
    · simp [hc]
    · cases hs : cs.splitOn separator with
      | nil => exact absurd hs h
      | cons part parts => simp [hc]

/-- Joined by the separator, the parts of a text give back the text. -/
theorem intercalate_split (separator : Char) (s : List Char) :
    [separator].intercalate (split separator s) = s := by
  rw [split_eq_splitOn, List.intercalate_splitOn]

/-- Parts without the separator are the parts of what they give joined. -/
theorem split_intercalate {separator : Char} {parts : List (List Char)} (ne : parts ≠ [])
    (h : ∀ part ∈ parts, separator ∉ part) :
    split separator ([separator].intercalate parts) = parts := by
  rw [split_eq_splitOn, List.splitOn_intercalate separator h ne]

/-- The parts hold no separator. -/
theorem notMem_of_mem_split {separator : Char} {s part : List Char} (h : part ∈ split separator s) :
    separator ∉ part := by
  induction s generalizing part with
  | nil =>
    rw [split, List.mem_singleton] at h
    rw [h]
    exact List.not_mem_nil
  | cons c cs ih =>
    rw [split] at h
    split at h
    · rcases List.mem_cons.1 h with rfl | h
      · exact List.not_mem_nil
      · exact ih h
    · rename_i hc
      cases hs : split separator cs with
      | nil => exact absurd hs (split_ne_nil separator cs)
      | cons p ps =>
        rw [hs] at h
        rcases List.mem_cons.1 h with rfl | h
        · rw [List.mem_cons, not_or]
          exact ⟨fun e => hc e.symm, ih (by rw [hs]; exact List.mem_cons_self)⟩
        · exact ih (by rw [hs]; exact List.mem_cons_of_mem _ h)

/-- What stands in joined parts is the separator or stands in a part. -/
theorem mem_intercalate {separator c : Char} {parts : List (List Char)}
    (h : c ∈ [separator].intercalate parts) : c = separator ∨ ∃ part ∈ parts, c ∈ part := by
  induction parts with
  | nil => exact absurd h List.not_mem_nil
  | cons part parts ih =>
    cases parts with
    | nil =>
      rw [List.intercalate_singleton] at h
      exact .inr ⟨part, List.mem_cons_self, h⟩
    | cons next parts =>
      rw [List.intercalate_cons_cons, List.mem_append, List.mem_append, List.mem_singleton] at h
      rcases h with (h | h) | h
      · exact .inr ⟨part, List.mem_cons_self, h⟩
      · exact .inl h
      · rcases ih h with h | ⟨q, hq, h⟩
        · exact .inl h
        · exact .inr ⟨q, List.mem_cons_of_mem _ hq, h⟩

/-- Joined parts hold each part as it is. -/
theorem infix_intercalate {separator : Char} {parts : List (List Char)} {part : List Char}
    (h : part ∈ parts) : part <:+: [separator].intercalate parts := by
  induction parts with
  | nil => exact absurd h List.not_mem_nil
  | cons first parts ih =>
    cases parts with
    | nil =>
      obtain rfl := List.mem_singleton.1 h
      exact ⟨[], [], by rw [List.intercalate_singleton, List.nil_append, List.append_nil]⟩
    | cons next parts =>
      rw [List.intercalate_cons_cons, List.append_assoc]
      rcases List.mem_cons.1 h with rfl | h
      · exact (List.prefix_append _ _).isInfix
      · refine (ih h).trans ?_
        rw [← List.append_assoc]
        exact (List.suffix_append _ _).isInfix

/-- With a separator before the first one too, joined parts are the parts with a separator each. -/
theorem cons_intercalate (separator : Char) {parts : List (List Char)} (ne : parts ≠ []) :
    separator :: [separator].intercalate parts = parts.flatMap (separator :: ·) := by
  induction parts with
  | nil => exact absurd rfl ne
  | cons part parts ih =>
    cases parts with
    | nil => simp
    | cons next parts =>
      rw [List.intercalate_cons_cons, List.append_assoc, List.singleton_append,
        ih (List.cons_ne_nil _ _)]
      rfl

/-- Two lists of parts that are joined are joined by the separator. -/
theorem intercalate_append (separator : Char) {ps qs : List (List Char)} (hp : ps ≠ [])
    (hq : qs ≠ []) : [separator].intercalate (ps ++ qs) =
      [separator].intercalate ps ++ separator :: [separator].intercalate qs := by
  have ne : ps ++ qs ≠ [] := List.append_ne_nil_of_left_ne_nil hp qs
  rw [← List.cons_inj_right separator, cons_intercalate separator ne, List.flatMap_append,
    ← cons_intercalate separator hp, ← cons_intercalate separator hq, List.cons_append]

/-- A text is cut at the first separator in it. -/
theorem cut?_append {separator : Char} {s : List Char} (h : separator ∉ s) (t : List Char) :
    cut? separator (s ++ separator :: t) = some (s, t) := by
  induction s with
  | nil => rw [List.nil_append, cut?, if_pos rfl]
  | cons c s ih =>
    rw [List.mem_cons, not_or] at h
    rw [List.cons_append, cut?, if_neg (Ne.symm h.1), ih h.2]
    rfl

/-- A text is split at a separator into the parts before it and the parts behind it. -/
theorem split_append_cons (separator : Char) (s t : List Char) :
    split separator (s ++ separator :: t) = split separator s ++ split separator t := by
  have joined := intercalate_append separator (split_ne_nil separator s) (split_ne_nil separator t)
  rw [intercalate_split, intercalate_split] at joined
  rw [← joined]
  refine split_intercalate (List.append_ne_nil_of_left_ne_nil (split_ne_nil separator s) _)
    fun part hp => ?_
  exact (List.mem_append.1 hp).elim notMem_of_mem_split notMem_of_mem_split

/-- Texts put together from parts none of which is longer than its counterpart are the same only if
the parts are. -/
theorem flatMap_eq_iff {f g : List Char → List Char} {parts : List (List Char)}
    (h : ∀ part ∈ parts, (f part).length ≤ (g part).length) :
    (parts.flatMap f).length ≤ (parts.flatMap g).length ∧
      (parts.flatMap f = parts.flatMap g ↔ ∀ part ∈ parts, f part = g part) := by
  induction parts with
  | nil => exact ⟨Nat.le_refl _, fun _ _ hp => absurd hp List.not_mem_nil, fun _ => rfl⟩
  | cons part parts ih =>
    obtain ⟨first, rest⟩ := List.forall_mem_cons.1 h
    obtain ⟨shorter, same⟩ := ih rest
    rw [List.flatMap_cons, List.flatMap_cons, List.forall_mem_cons, ← same]
    refine ⟨?_, fun he => List.append_inj he ?_, fun he => by rw [he.1, he.2]⟩
    · rw [List.length_append, List.length_append]
      omega
    · have length := congrArg List.length he
      rw [List.length_append, List.length_append] at length
      omega

/-- Joined parts stay as they are when none of the parts is made longer only if each part does. -/
theorem intercalate_map_eq_iff (separator : Char) {f : List Char → List Char}
    {parts : List (List Char)} (h : ∀ part ∈ parts, (f part).length ≤ part.length) :
    [separator].intercalate (parts.map f) = [separator].intercalate parts ↔
      ∀ part ∈ parts, f part = part := by
  by_cases ne : parts = []
  · rw [ne]
    exact ⟨fun _ _ hp => absurd hp List.not_mem_nil, fun _ => rfl⟩
  · have mapped : parts.map f ≠ [] := fun he => ne (List.map_eq_nil_iff.1 he)
    have shorter : ∀ part ∈ parts, (separator :: f part).length ≤ (separator :: part).length :=
      fun part hp => Nat.succ_le_succ (h part hp)
    rw [← List.cons_inj_right separator, cons_intercalate separator mapped,
      cons_intercalate separator ne, List.flatMap_map, (flatMap_eq_iff shorter).2]
    simp only [List.cons_inj_right]

/-! ### Numerals -/

/-- The value of an ASCII digit is its distance from the digit zero. -/
theorem digit?_of_isDigit {c : Char} (h : c.isDigit = true) : digit? c = some (c.toNat - 48) := by
  have h1 : 48 ≤ c.toNat ∧ c.toNat ≤ 57 := by
    rw [Char.isDigit, Bool.and_eq_true, decide_eq_true_eq, decide_eq_true_eq] at h
    exact h
  have h2 : digitZeros.find? (fun z => z ≤ c.toNat && c.toNat ≤ z + 9) = some 48 :=
    List.find?_cons_of_pos (by
      rw [Bool.and_eq_true, decide_eq_true_eq, decide_eq_true_eq]
      exact h1)
  rw [digit?, h2, Option.map_some]

/-- A numeral is made of digits. -/
theorem isDigit_of_mem_numeral {n : Nat} {c : Char} (h : c ∈ numeral n) : isDigit c = true := by
  rw [isDigit, digit?_of_isDigit (Nat.isDigit_of_mem_toDigits (by decide) (by decide) h)]
  rfl

/-- A numeral is not empty. -/
theorem numeral_ne_nil (n : Nat) : numeral n ≠ [] := Nat.toDigits_ne_nil

/-- **A numeral reads back.**  The ASCII numeral of a number stands for that number. -/
theorem digitsValue_numeral (n : Nat) : digitsValue (numeral n) = n := by
  have value : ∀ (ds : List Char) (k : Nat), (∀ c ∈ ds, c.isDigit = true) →
      ds.foldl (fun n c => 10 * n + (digit? c).getD 0) k = Nat.ofDigitChars 10 ds k := by
    intro ds
    induction ds with
    | nil => exact fun k _ => (Nat.ofDigitChars_nil).symm
    | cons c cs ih =>
      intro k h
      rw [List.foldl_cons, digit?_of_isDigit (h c List.mem_cons_self),
        ih _ fun d hd => h d (List.mem_cons_of_mem _ hd), Nat.ofDigitChars_cons]
      rfl
  rw [digitsValue, numeral,
    value _ _ fun c hc => Nat.isDigit_of_mem_toDigits (by decide) (by decide) hc,
    Nat.ofDigitChars_ten_toDigits]

/-- A digit more makes a numeral longer by at most one digit. -/
theorem length_numeral_le (n : Nat) {d : Nat} (h : d < 10) :
    (numeral (10 * n + d)).length ≤ (numeral n).length + 1 := by
  rcases Nat.eq_zero_or_pos n with rfl | hn
  · rw [Nat.mul_zero, Nat.zero_add, numeral, Nat.toDigits_of_lt_base h, List.length_singleton]
    omega
  · rw [numeral, ← Nat.toDigits_append_toDigits (by decide) hn h, Nat.toDigits_of_lt_base h,
      List.length_append, List.length_singleton]
    exact Nat.le_refl _

/-- A digit is less than ten. -/
theorem digit?_getD_lt (c : Char) : (digit? c).getD 0 < 10 := by
  unfold digit?
  cases h : digitZeros.find? fun z => z ≤ c.toNat && c.toNat ≤ z + 9 with
  | none => exact Nat.zero_lt_succ 9
  | some z =>
    have hz := List.find?_some h
    rw [Bool.and_eq_true, decide_eq_true_eq, decide_eq_true_eq] at hz
    rw [Option.map_some, Option.getD_some]
    omega

/-- The numeral of a number is not longer than the digits that the number was read from. -/
theorem length_numeral_digitsValue_le {ds : List Char} (h : ds ≠ []) :
    (numeral (digitsValue ds)).length ≤ ds.length := by
  have fold : ∀ (cs : List Char) (k : Nat),
      (numeral (cs.foldl (fun n c => 10 * n + (digit? c).getD 0) k)).length ≤
        (numeral k).length + cs.length := by
    intro cs
    induction cs with
    | nil => exact fun k => Nat.le_refl _
    | cons c cs ih =>
      intro k
      have head := length_numeral_le k (digit?_getD_lt c)
      have tail := ih (10 * k + (digit? c).getD 0)
      rw [List.foldl_cons, List.length_cons]
      omega
  cases ds with
  | nil => exact absurd rfl h
  | cons c cs =>
    have one : (numeral (10 * 0 + (digit? c).getD 0)).length = 1 := by
      rw [Nat.mul_zero, Nat.zero_add, numeral, Nat.toDigits_of_lt_base (digit?_getD_lt c),
        List.length_singleton]
    have all := fold cs (10 * 0 + (digit? c).getD 0)
    rwa [one, Nat.add_comm 1] at all

/-- A decimal digit is not blank. -/
theorem isBlank_of_isDigit {c : Char} (h : isDigit c = true) : isBlank c = false := by
  have apart : ∀ z ∈ digitZeros, ∀ k < 10, blankRanges.has (z + k) = false := by decide +kernel
  obtain ⟨z, hz⟩ := Option.isSome_iff_exists.1 (Option.isSome_map.symm.trans h)
  have range := List.find?_some hz
  rw [Bool.and_eq_true, decide_eq_true_eq, decide_eq_true_eq] at range
  have value := apart z (List.mem_of_find?_eq_some hz) (c.toNat - z) (by omega)
  rwa [Nat.add_sub_cancel' range.1] at value

/-- A number is known from its numeral. -/
theorem numeral_injective {m n : Nat} (h : numeral m = numeral n) : m = n := by
  rw [← digitsValue_numeral m, h, digitsValue_numeral]

end Text
end TypeMismatch
