import Mathlib
import TypeMismatch.Literal.Reader
import TypeMismatch.Proofs.Text

/-!
# Literals that are one word between blanks

The reader of literals (`literal_eval`) knows fewer blanks than there are.  Spaces, tabs and form
feeds separate words, a line break ends the line or is passed over before it, and any other blank is
refused, since it begins no word and can stand in none (`tokensFrom_blanks`).  So a text that is one
word between blanks is no literal at all, or it is read as that word (`tokens?_eq_singleton`).
Letters are a literal only as one of three words (`ofLiteral_letters`), a digit as a number
(`ofLiteral_digit`).
-/

namespace TypeMismatch

namespace Text

/-! ### Blanks -/

/-- All blank characters. -/
def blanks : List Char :=
  blankRanges.flatMap fun r => (List.range' r.1 (r.2 + 1 - r.1)).map Char.ofNat

/-- Every blank is in the list of blanks. -/
theorem mem_blanks {c : Char} (h : isBlank c = true) : c ∈ blanks := by
  obtain ⟨r, hr, within⟩ := List.any_eq_true.1 h
  rw [Bool.and_eq_true, decide_eq_true_eq, decide_eq_true_eq] at within
  refine List.mem_flatMap.2 ⟨r, hr, List.mem_map.2 ⟨c.toNat, ?_, Char.ofNat_toNat c⟩⟩
  rw [List.mem_range'_1]
  omega

/-- A list of blanks. -/
def AllBlank (s : List Char) : Prop := ∀ c ∈ s, isBlank c = true

/-- Blanks stay blanks when some are dropped at their start. -/
theorem AllBlank.dropWhile {s : List Char} (h : AllBlank s) (p : Char → Bool) :
    AllBlank (s.dropWhile p) :=
  fun c hc => h c ((List.dropWhile_suffix p).subset hc)

/-- What is dropped before a character that stays is dropped from the characters before it. -/
theorem dropWhile_append_cons {p : Char → Bool} {c : Char} (hc : p c = false) (u s : List Char) :
    (u ++ c :: s).dropWhile p = u.dropWhile p ++ c :: s := by
  have stays : ¬p c = true := by rw [hc]; decide
  rw [List.dropWhile_append, List.dropWhile_cons_of_neg stays]
  split
  · rename_i none
    rw [List.isEmpty_iff.1 none, List.nil_append]
  · rfl

/-! ### Line breaks -/

/-- Line breaks are unified behind any character that does not begin one. -/
theorem unifyBreaks_cons {c : Char} (hc : c ≠ '\r') (s : List Char) :
    unifyBreaks (c :: s) = c :: unifyBreaks s := by
  cases s with
  | nil => rw [unifyBreaks.eq_2, if_neg hc, unifyBreaks]
  | cons d s => rw [unifyBreaks, if_neg hc]

/-- They are unified behind any text without a carriage return. -/
theorem unifyBreaks_append {w : List Char} (hw : '\r' ∉ w) (s : List Char) :
    unifyBreaks (w ++ s) = w ++ unifyBreaks s := by
  induction w with
  | nil => rfl
  | cons c w ih =>
    rw [List.mem_cons, not_or] at hw
    rw [List.cons_append, unifyBreaks_cons (Ne.symm hw.1), ih hw.2]
    rfl

/-- Line breaks are unified apart before a character that does not end one. -/
theorem unifyBreaks_append_cons (u s : List Char) {c : Char} (hc : c ≠ '\n') :
    unifyBreaks (u ++ c :: s) = unifyBreaks u ++ unifyBreaks (c :: s) := by
  induction u using unifyBreaks.induct with
  | case1 => rfl
  | case2 d =>
    rw [List.singleton_append]
    by_cases hd : d = '\r'
    · rw [unifyBreaks.eq_3, unifyBreaks.eq_2, if_pos hd, if_neg hc, if_pos hd,
        List.singleton_append]
    · rw [unifyBreaks_cons hd, unifyBreaks.eq_2, if_neg hd, List.singleton_append]
  | case3 cs ih =>
    rw [List.cons_append, List.cons_append, unifyBreaks, if_pos rfl, if_pos rfl, ih, unifyBreaks,
      if_pos rfl, if_pos rfl, List.cons_append]
  | case4 d cs hd ih =>
    rw [List.cons_append] at ih
    rw [List.cons_append, List.cons_append, unifyBreaks, if_pos rfl, if_neg hd, ih, unifyBreaks,
      if_pos rfl, if_neg hd, List.cons_append]
  | case5 b d cs hb ih =>
    rw [List.cons_append, unifyBreaks_cons hb, unifyBreaks_cons hb, ih, List.cons_append]

/-- Blanks with unified breaks are blanks. -/
theorem AllBlank.unifyBreaks {s : List Char} (h : AllBlank s) : AllBlank (unifyBreaks s) := by
  have break_blank : isBlank '\n' = true := by decide
  induction s using Text.unifyBreaks.induct with
  | case1 => exact h
  | case2 c =>
    rw [Text.unifyBreaks]
    split
    · exact List.forall_mem_singleton.2 break_blank
    · exact h
  | case3 cs ih =>
    rw [Text.unifyBreaks, if_pos rfl, if_pos rfl]
    exact List.forall_mem_cons.2 ⟨break_blank, ih fun c hc => h c (by simp [hc])⟩
  | case4 d cs hd ih =>
    rw [Text.unifyBreaks, if_pos rfl, if_neg hd]
    exact List.forall_mem_cons.2 ⟨break_blank, ih fun c hc => h c (List.mem_cons_of_mem _ hc)⟩
  | case5 b d cs hb ih =>
    rw [unifyBreaks_cons hb]
    obtain ⟨first, rest⟩ := List.forall_mem_cons.1 h
    exact List.forall_mem_cons.2 ⟨first, ih rest⟩

end Text

namespace Literal
open Text

/-! ### Blanks between words -/

/-- A character that begins no word and no comment, and stands in no word of letters. -/
structure Stray (c : Char) : Prop where
  comment : c ≠ '#'
  backslash : c ≠ Text.backslash
  quote : c ≠ apostrophe ∧ c ≠ doubleQuote
  number : isAsciiDigit c = false ∧ c ≠ '.'
  mark : ∀ m ∈ longMarks ++ shortMarks.map ([·]), m.head? ≠ some c
  word : isIdentifierChar c = false
  kind : c.toLower ∉ ['u', 'r', 'b', 'f']

instance (c : Char) : Decidable (Stray c) :=
  decidable_of_iff (c ≠ '#' ∧ c ≠ Text.backslash ∧ (c ≠ apostrophe ∧ c ≠ doubleQuote) ∧
      (isAsciiDigit c = false ∧ c ≠ '.') ∧
      (∀ m ∈ longMarks ++ shortMarks.map ([·]), m.head? ≠ some c) ∧
      isIdentifierChar c = false ∧ c.toLower ∉ ['u', 'r', 'b', 'f'])
    ⟨fun ⟨h₁, h₂, h₃, h₄, h₅, h₆, h₇⟩ => ⟨h₁, h₂, h₃, h₄, h₅, h₆, h₇⟩,
      fun ⟨h₁, h₂, h₃, h₄, h₅, h₆, h₇⟩ => ⟨h₁, h₂, h₃, h₄, h₅, h₆, h₇⟩⟩

/-- A blank begins nothing that a literal is made of. -/
theorem stray_of_isBlank {c : Char} (h : isBlank c = true) : Stray c := by
  have all : blanks.all (fun c => decide (Stray c)) = true := by decide +kernel
  exact of_decide_eq_true (List.all_eq_true.1 all c (mem_blanks h))

namespace Stray
variable {c : Char}

/-- No mark begins with a stray character. -/
theorem mark? (h : Stray c) (cs : List Char) : Literal.mark? (c :: cs) = none := by
  have long : longMarks.find? (·.isPrefixOf (c :: cs)) = none := by
    refine List.find?_eq_none.2 fun m hm hp => ?_
    have head := h.mark m (List.mem_append_left _ hm)
    cases m with
    | nil => exact absurd hm (by decide)
    | cons d m =>
      rw [List.isPrefixOf, Bool.and_eq_true, beq_iff_eq] at hp
      exact head (congrArg some hp.1)
  have short : shortMarks.contains c = false := by
    refine Bool.eq_false_iff.2 fun hc => ?_
    exact h.mark [c] (List.mem_append_right _ (List.mem_map.2 ⟨c, by simpa using hc, rfl⟩)) rfl
  rw [Literal.mark?, long, List.head?_cons, Option.filter_some, short]
  rfl

/-- Letters with such a character among them form no word. -/
theorem wordOf? (h : Stray c) {s : List Char} (hc : c ∈ s) : Literal.wordOf? s = none := by
  have keyword : keywords.contains (String.ofList s) = false := by
    have letters : keywords.all (fun k => k.toList.all isIdentifierChar) = true := by
      decide +kernel
    refine Bool.eq_false_iff.2 fun hk => ?_
    have all := List.all_eq_true.1 letters _ (by simpa using hk)
    rw [String.toList_ofList] at all
    exact absurd (List.all_eq_true.1 all c hc) (by rw [h.word]; decide)
  have identifier : isIdentifier s = false := by
    refine Bool.eq_false_iff.2 fun hs => ?_
    rw [isIdentifier, Bool.and_eq_true] at hs
    exact absurd (List.all_eq_true.1 hs.2 c hc) (by rw [h.word]; decide)
  rw [Literal.wordOf?, keyword, identifier]
  rfl

/-- No quotation begins with a stray character. -/
theorem quotationKind? (h : Stray c) (s : List Char) :
    Literal.quotationKind? (c :: s) = none := by
  have kind := h.kind
  unfold Literal.quotationKind?
  split <;> simp_all

end Stray

/-- A gap between tokens is passed over. -/
theorem tokensFrom_gap {c : Char} (h : isGap c = true) (fuel level : Nat) (cs : List Char) :
    tokensFrom (fuel + 1) level (c :: cs) = tokensFrom fuel level cs := by
  rw [tokensFrom.eq_def]
  exact if_pos h

/-- Outside of brackets a line break ends the tokens. -/
theorem tokensFrom_break (fuel : Nat) (cs : List Char) :
    tokensFrom (fuel + 1) 0 ('\n' :: cs) = some ([], cs) := by
  rw [tokensFrom.eq_def]
  rfl

/-- A character that is not passed over between words, and begins neither a comment nor a
quotation. -/
structure Solid (c : Char) : Prop where
  gap : isGap c = false
  lineBreak : c ≠ '\n'
  comment : c ≠ '#'
  backslash : c ≠ Text.backslash
  quote : c ≠ apostrophe ∧ c ≠ doubleQuote

/-- A stray character that separates nothing is solid. -/
theorem Stray.solid {c : Char} (h : Stray c) (gap : isGap c = false) (lineBreak : c ≠ '\n') :
    Solid c :=
  ⟨gap, lineBreak, h.comment, h.backslash, h.quote⟩

/-- A letter or digit is none of the other characters. -/
theorem ne_of_isAlphanum {c d : Char} (hc : c.isAlphanum = true) (hd : d.isAlphanum = false) :
    c ≠ d := by
  rintro rfl
  rw [hc] at hd
  cases hd

/-- Letters and digits are solid. -/
theorem solid_of_isAlphanum {c : Char} (hc : c.isAlphanum = true) : Solid c where
  gap := by
    simp [isGap, ne_of_isAlphanum hc (d := ' ') (by decide),
      ne_of_isAlphanum hc (d := '\t') (by decide), ne_of_isAlphanum hc (d := '\x0c') (by decide)]
  lineBreak := ne_of_isAlphanum hc (by decide)
  comment := ne_of_isAlphanum hc (by decide)
  backslash := ne_of_isAlphanum hc (by decide)
  quote := ⟨ne_of_isAlphanum hc (by decide), ne_of_isAlphanum hc (by decide)⟩

/-- The words at the start of a text that begins with a letter, or with another character of names,
which begins no quotation. -/
theorem tokensFrom_name {c : Char} {cs : List Char} (h : Solid c)
    (number : isAsciiDigit c = false ∧ c ≠ '.') (name : isNameChar c = true)
    (unquoted : quotationKind? ((c :: cs).takeWhile isNameChar) = none ∨
      ∀ q ∈ ((c :: cs).dropWhile isNameChar).head?, q ≠ apostrophe ∧ q ≠ doubleQuote)
    (fuel level : Nat) :
    tokensFrom (fuel + 1) level (c :: cs) =
      (wordOf? ((c :: cs).takeWhile isNameChar)).bind fun t =>
        push t (tokensFrom fuel level ((c :: cs).dropWhile isNameChar)) := by
  have unread : (if ((c :: cs).dropWhile isNameChar).head?.any
      fun q => q = apostrophe || q = doubleQuote then
        quotationKind? ((c :: cs).takeWhile isNameChar) else none) = none := by
    rcases unquoted with none | apart
    · rw [none, ite_self]
    · refine if_neg fun any => ?_
      obtain ⟨q, hq, quoted⟩ := (Option.any_eq_true _ _).1 any
      simp [apart q hq] at quoted
  rw [tokensFrom.eq_def]
  dsimp only
  rw [if_neg (by rw [h.gap]; decide), if_neg h.comment, if_neg h.lineBreak, if_neg h.backslash,
    if_neg (by simp [h.quote]), if_neg (by simp [number]), if_pos name, unread]
  rfl

/-- Where the reader does not pass over a blank, it refuses it. -/
theorem Stray.tokensFrom {c : Char} (h : Stray c) (gap : isGap c = false) (lineBreak : c ≠ '\n')
    (fuel level : Nat) (cs : List Char) : Literal.tokensFrom (fuel + 1) level (c :: cs) = none := by
  cases name : isNameChar c with
  | true =>
    have word : (c :: cs).takeWhile isNameChar = c :: cs.takeWhile isNameChar :=
      List.takeWhile_cons_of_pos name
    rw [tokensFrom_name (h.solid gap lineBreak) h.number name
      (.inl (by rw [word, h.quotationKind?])), word, h.wordOf? List.mem_cons_self, Option.bind_none]
  | false =>
    rw [tokensFrom.eq_def]
    dsimp only
    rw [if_neg (by rw [gap]; decide), if_neg h.comment, if_neg lineBreak, if_neg h.backslash,
      if_neg (by simp [h.quote]), if_neg (by simp [h.number]), if_neg (by rw [name]; decide),
      h.mark?]
    rfl

/-- **Blanks before words** are passed over, or they end the line, or they are refused. -/
theorem tokensFrom_blanks {u s rest : List Char} {ts : List Token} {fuel : Nat} (hu : AllBlank u)
    (h : tokensFrom fuel 0 (u ++ s) = some (ts, rest)) :
    (∃ left, tokensFrom left 0 s = some (ts, rest)) ∨
      ts = [] ∧ ∃ v, AllBlank v ∧ rest = v ++ s := by
  induction u generalizing fuel with
  | nil => exact .inl ⟨fuel, h⟩
  | cons c u ih =>
    obtain ⟨hc, hu⟩ := List.forall_mem_cons.1 hu
    rw [List.cons_append] at h
    cases fuel with
    | zero => cases h
    | succ fuel =>
      cases gap : isGap c with
      | true =>
        rw [tokensFrom_gap gap] at h
        exact ih hu h
      | false =>
        by_cases lineBreak : c = '\n'
        · rw [lineBreak, tokensFrom_break] at h
          obtain ⟨rfl, rfl⟩ := Prod.mk.inj (Option.some.inj h)
          exact .inr ⟨rfl, u, hu, rfl⟩
        · rw [(stray_of_isBlank hc).tokensFrom gap lineBreak] at h
          cases h

/-- Blanks alone hold no words. -/
theorem tokensFrom_allBlank {v rest : List Char} {ts : List Token} {fuel : Nat} (hv : AllBlank v)
    (h : tokensFrom fuel 0 v = some (ts, rest)) : ts = [] ∧ AllBlank rest := by
  rw [← List.append_nil v] at h
  rcases tokensFrom_blanks hv h with ⟨left, h⟩ | ⟨none, w, hw, rfl⟩
  · cases left with
    | zero => cases h
    | succ left =>
      obtain ⟨rfl, rfl⟩ := Prod.mk.inj (Option.some.inj h)
      exact ⟨rfl, List.forall_mem_nil _⟩
  · rw [List.append_nil]
    exact ⟨none, hw⟩

/-- **Blank lines are passed over** up to the line that has a word, which keeps its blanks. -/
theorem skipBlankLines_blanks {c : Char} (hc : Solid c) {u s left : List Char} (hu : AllBlank u)
    {fuel : Nat} {isInset : Bool} (h : skipBlankLines fuel isInset (u ++ c :: s) = some left) :
    ∃ v, AllBlank v ∧ left = v ++ c :: s := by
  induction fuel generalizing u isInset with
  | zero => exact ⟨u, hu, (Option.some.inj h).symm⟩
  | succ fuel ih =>
    rw [skipBlankLines, dropWhile_append_cons hc.gap] at h
    have later := hu.dropWhile isGap
    cases hd : u.dropWhile isGap with
    | nil =>
      rw [hd, List.nil_append] at h
      dsimp only at h
      rw [if_neg hc.lineBreak, if_neg hc.comment, if_neg hc.backslash] at h
      split at h
      · cases h
      · exact ⟨[], List.forall_mem_nil _, (Option.some.inj h).symm⟩
    | cons d r =>
      rw [hd] at h later
      obtain ⟨first, rest⟩ := List.forall_mem_cons.1 later
      have stray := stray_of_isBlank first
      rw [List.cons_append] at h
      dsimp only at h
      split at h
      · exact ih rest h
      · rw [if_neg stray.comment, if_neg stray.backslash] at h
        split at h
        · cases h
        · exact ⟨d :: r, later, (Option.some.inj h).symm⟩

/-! ### One word -/

/-- A word of ASCII letters and digits. -/
def Plain (w : List Char) : Prop := w ≠ [] ∧ ∀ c ∈ w, c.isAlphanum = true

/-- The reader reads at the start of a text, before blanks, at most one word, which is of a kind,
and goes on behind it. -/
def ReadsOnly (w : List Char) (P : Token → Prop) : Prop :=
  ∀ (v : List Char) (fuel : Nat) (ts : List Token) (rest : List Char), AllBlank v →
    tokensFrom fuel 0 (w ++ v) = some (ts, rest) →
    ∃ t later left, P t ∧ ts = t :: later ∧ tokensFrom left 0 v = some (later, rest)

/-- **A word between blanks is the only word of the text**, unless the text is refused. -/
theorem tokens?_eq_singleton {w u v : List Char} {P : Token → Prop} (hw : Plain w)
    (reads : ReadsOnly w P) (hu : AllBlank u) (hv : AllBlank v) {ts : List Token}
    (h : tokens? (u ++ (w ++ v)) = some ts) : ∃ t, P t ∧ ts = [t] := by
  obtain ⟨c, w, rfl⟩ := List.exists_cons_of_ne_nil hw.1
  have hc : c.isAlphanum = true := hw.2 c List.mem_cons_self
  have solid := solid_of_isAlphanum hc
  have whole : '\r' ∉ c :: w := fun hr => ne_of_isAlphanum (hw.2 _ hr) (by decide) rfl
  have unified : unifyBreaks ((u ++ (c :: w ++ v)).dropWhile fun c => c = ' ' || c = '\t') =
      unifyBreaks (u.dropWhile fun c => c = ' ' || c = '\t') ++ c :: (w ++ unifyBreaks v) := by
    rw [List.cons_append, dropWhile_append_cons, unifyBreaks_append_cons _ _ solid.lineBreak,
      ← List.cons_append, unifyBreaks_append whole, List.cons_append]
    simp [ne_of_isAlphanum hc (d := ' ') (by decide), ne_of_isAlphanum hc (d := '\t') (by decide)]
  unfold tokens? at h
  rw [unified] at h
  dsimp only at h
  split at h
  · cases h
  obtain ⟨line, skipped, h⟩ := Option.bind_eq_some_iff.1 h
  obtain ⟨before, blank, hl⟩ :=
    skipBlankLines_blanks solid (hu.dropWhile _).unifyBreaks skipped
  obtain ⟨⟨words, rest⟩, read, ended⟩ := Option.bind_eq_some_iff.1 h
  rw [hl] at read
  dsimp only at ended
  split at ended
  · rename_i done
    obtain rfl := Option.some.inj ended
    rcases tokensFrom_blanks blank read with ⟨fuel, read⟩ | ⟨-, before, blank, rfl⟩
    · obtain ⟨t, later, left, ht, rfl, behind⟩ := reads _ _ _ _ hv.unifyBreaks read
      obtain ⟨rfl, -⟩ := tokensFrom_allBlank hv.unifyBreaks behind
      exact ⟨t, ht, rfl⟩
    · -- A word that is left begins a second line.
      obtain ⟨more, -, more_eq⟩ := skipBlankLines_blanks solid blank done
      cases more <;> cases more_eq
  · cases ended

/-! ### Words of letters -/

/-- A letter is a letter or digit. -/
theorem isAlphanum_of_isAlpha {c : Char} (h : c.isAlpha = true) : c.isAlphanum = true := by
  rw [Char.isAlphanum, h, Bool.true_or]

/-- A letter is no digit. -/
theorem isAsciiDigit_of_isAlpha {c : Char} (h : c.isAlpha = true) : isAsciiDigit c = false := by
  simp only [Char.isAlpha, Char.isUpper, Char.isLower, Bool.or_eq_true, Bool.and_eq_true,
    decide_eq_true_eq, ge_iff_le, UInt32.le_iff_toNat_le] at h
  simp only [isAsciiDigit, Bool.and_eq_false_iff, decide_eq_false_iff_not, Char.le_def,
    UInt32.le_iff_toNat_le]
  have nine : '9'.val.toNat = 57 := rfl
  have upper : 'A'.val.toNat = 65 := rfl
  have lower : 'a'.val.toNat = 97 := rfl
  omega

/-- **Letters are read as the word that they form**, and if they go on with a blank that is no gap,
they form none. -/
theorem readsOnly_letters {w : List Char} (ne : w ≠ []) (letters : ∀ c ∈ w, c.isAlpha = true) :
    ReadsOnly w (fun t => wordOf? w = some t) := by
  intro v fuel ts rest hv h
  obtain ⟨c, w, rfl⟩ := List.exists_cons_of_ne_nil ne
  have names : ∀ d ∈ c :: w, isNameChar d = true := fun d hd => by
    rw [isNameChar, isAlphanum_of_isAlpha (letters d hd), Bool.true_or, Bool.true_or]
  have hc := isAlphanum_of_isAlpha (letters c List.mem_cons_self)
  have run : (c :: (w ++ v)).takeWhile isNameChar = c :: w ++ v.takeWhile isNameChar :=
    List.takeWhile_append_of_pos names
  have behind : (c :: (w ++ v)).dropWhile isNameChar = v.dropWhile isNameChar :=
    List.dropWhile_append_of_pos names
  cases fuel with
  | zero => cases h
  | succ fuel =>
    have unquoted : ∀ q ∈ (v.dropWhile isNameChar).head?, q ≠ apostrophe ∧ q ≠ doubleQuote :=
      fun q hq => (stray_of_isBlank (hv.dropWhile _ q (List.mem_of_mem_head? hq))).quote
    have number : isAsciiDigit c = false ∧ c ≠ '.' :=
      ⟨isAsciiDigit_of_isAlpha (letters c List.mem_cons_self), ne_of_isAlphanum hc (by decide)⟩
    rw [List.cons_append, tokensFrom_name (solid_of_isAlphanum hc) number
      (names c List.mem_cons_self) (.inr (by rw [behind]; exact unquoted)), run, behind] at h
    obtain ⟨t, ht, h⟩ := Option.bind_eq_some_iff.1 h
    cases longer : v.takeWhile isNameChar with
    | nil =>
      have all := List.takeWhile_append_dropWhile (p := isNameChar) (l := v)
      rw [longer, List.nil_append] at all
      rw [longer, List.append_nil] at ht
      rw [all] at h
      obtain ⟨⟨later, left⟩, read, pushed⟩ := Option.map_eq_some_iff.1 h
      obtain ⟨rfl, rfl⟩ := Prod.mk.inj pushed
      exact ⟨t, later, fuel, ht, rfl, read⟩
    | cons d more =>
      have hd : d ∈ v.takeWhile isNameChar := by rw [longer]; exact List.mem_cons_self
      have blank := hv d ((List.takeWhile_prefix _).subset hd)
      rw [(stray_of_isBlank blank).wordOf? (List.mem_append_right _ hd)] at ht
      cases ht

/-! ### Digits -/

/-- A numeral of one digit ends before the first character if it has no part in a number. -/
def EndsNumber (v : List Char) : Prop :=
  ∀ c ∈ v.head?, digitInBase? 10 c = none ∧ c ∉ "._eEjJxXoObB".toList

/-- A number ends before blanks. -/
theorem endsNumber_of_allBlank {v : List Char} (hv : AllBlank v) : EndsNumber v := by
  have all : blanks.all (fun c => (digitInBase? 10 c).isNone && !"._eEjJxXoObB".toList.contains c) =
      true := by decide +kernel
  intro c hc
  have ends := List.all_eq_true.1 all c (mem_blanks (hv c (List.mem_of_mem_head? hc)))
  rw [Bool.and_eq_true, Option.isNone_iff_eq_none] at ends
  exact ⟨ends.1, by simpa using ends.2⟩

/-- An ASCII digit is a digit in base ten. -/
theorem digitInBase?_of_isAsciiDigit {d : Char} (hd : isAsciiDigit d = true) :
    (digitInBase? 10 d).isSome = true := by
  rw [digitInBase?, if_pos hd]
  simp only [isAsciiDigit, Bool.and_eq_true, decide_eq_true_eq, Char.le_def,
    UInt32.le_iff_toNat_le] at hd
  have nine : '9'.val.toNat = 57 := rfl
  have small : d.toNat - 0x30 < 10 := by
    have value : d.toNat = d.val.toNat := rfl
    omega
  simp [small]

/-- Where a number ends behind one digit, its run of digits is that digit. -/
theorem digitRun_singleton {d : Char} (hd : isAsciiDigit d = true) {v : List Char}
    (hv : EndsNumber v) : digitRun 10 (d :: v) = ([d], v) := by
  have digit := digitInBase?_of_isAsciiDigit hd
  cases v with
  | nil => rw [digitRun, if_pos digit]
  | cons c v =>
    obtain ⟨stop, part⟩ := hv c rfl
    have stopped : digitRun 10 (c :: v) = ([], c :: v) := by
      have noDigit : ¬(digitInBase? 10 c).isSome = true := by rw [stop]; decide
      cases v with
      | nil => rw [digitRun, if_neg noDigit]
      | cons e v => rw [digitRun.eq_def]; exact if_neg noDigit
    have underscore : c ≠ '_' := fun h => part (by rw [h]; decide)
    rw [digitRun.eq_def]
    dsimp only
    rw [if_pos digit, if_neg underscore, stopped]

/-- Where a number ends there is no exponent. -/
theorem exponentPart_stop {v : List Char} (hv : EndsNumber v) :
    exponentPart v = some (none, v) := by
  cases v with
  | nil => rfl
  | cons c v =>
    obtain ⟨-, part⟩ := hv c rfl
    have lower : c ≠ 'e' := fun h => part (by rw [h]; decide)
    have upper : c ≠ 'E' := fun h => part (by rw [h]; decide)
    rw [exponentPart.eq_def]
    exact if_neg (by simp [lower, upper])

/-- One digit, where the number ends behind it, is read as its value. -/
theorem decimal_singleton (d : Char) {v : List Char} (hv : EndsNumber v) :
    decimal [d] v = some (.int (valueInBase 10 [d]), v) := by
  have noPart {c : Char} (hc : c ∈ "._eEjJxXoObB".toList) : v.head? ≠ some c :=
    fun h => (hv c h).2 hc
  have imaginary : ¬(v.head? == some 'j' || v.head? == some 'J') = true := by
    simp [noPart (c := 'j') (by decide), noPart (c := 'J') (by decide)]
  -- Of a zero no digit is left, but it is short enough, and has the same value.
  have zeros : ∃ ds, [d].dropWhile (· = '0') = ds ∧ valueInBase 10 ds = valueInBase 10 [d] ∧
      (ds.isEmpty || (ds.length = [d].length && ds.length ≤ maxDigits)) = true := by
    by_cases zero : d = '0'
    · subst zero
      exact ⟨[], rfl, rfl, rfl⟩
    · exact ⟨[d], List.dropWhile_cons_of_neg (by simpa using zero), rfl, rfl⟩
  obtain ⟨ds, left, value, short⟩ := zeros
  rw [decimal.eq_2 _ _ fun r h => noPart (c := '.') (by decide) (by rw [h]; rfl)]
  dsimp only
  rw [exponentPart_stop hv, Option.bind_eq_bind, Option.bind_some]
  dsimp only
  rw [if_neg imaginary, if_pos (by decide), left, if_pos short, value]

/-- A digit before blanks is the numeral there, unless a blank goes on with it. -/
theorem numeral?_singleton {d : Char} (hd : isAsciiDigit d = true) {v rest : List Char}
    (hv : AllBlank v) {n : Value} (h : numeral? (d :: v) = some (n, rest)) :
    n = .int (valueInBase 10 [d]) ∧ rest = v := by
  have ends := endsNumber_of_allBlank hv
  have read : numeral? (d :: v) =
      if endsNumeral v then some (.int (valueInBase 10 [d]), v) else none := by
    have run := digitRun_singleton hd ends
    rw [numeral?.eq_def]
    dsimp only
    split
    · rename_i mark r cut
      obtain ⟨rfl, rfl⟩ := List.cons.inj cut
      have noBase {c : Char} (hc : c ∈ "._eEjJxXoObB".toList) : mark ≠ c :=
        fun h => (ends mark rfl).2 (h ▸ hc)
      rw [if_neg (by simp [noBase (c := 'x') (by decide), noBase (c := 'X') (by decide)]),
        if_neg (by simp [noBase (c := 'o') (by decide), noBase (c := 'O') (by decide)]),
        if_neg (by simp [noBase (c := 'b') (by decide), noBase (c := 'B') (by decide)]), run]
      dsimp only
      rw [decimal_singleton _ ends]
      rfl
    · rw [run]
      dsimp only
      rw [decimal_singleton _ ends]
      rfl
  rw [read] at h
  split at h
  · obtain ⟨rfl, rfl⟩ := Prod.mk.inj (Option.some.inj h)
    exact ⟨rfl, rfl⟩
  · cases h

/-- An ASCII digit is a letter or digit. -/
theorem isAlphanum_of_isAsciiDigit {d : Char} (hd : isAsciiDigit d = true) :
    d.isAlphanum = true := by
  rw [isAsciiDigit, Bool.and_eq_true, decide_eq_true_eq, decide_eq_true_eq] at hd
  rw [Char.isAlphanum, Bool.or_eq_true, Char.isDigit, Bool.and_eq_true, decide_eq_true_eq,
    decide_eq_true_eq]
  exact .inr hd

/-- **A digit is read as the number that it stands for.** -/
theorem readsOnly_digit {d : Char} (hd : isAsciiDigit d = true) :
    ReadsOnly [d] (· = .number (.int (valueInBase 10 [d]))) := by
  intro v fuel ts rest hv h
  have solid := solid_of_isAlphanum (isAlphanum_of_isAsciiDigit hd)
  cases fuel with
  | zero => cases h
  | succ fuel =>
    rw [List.singleton_append, tokensFrom.eq_def] at h
    dsimp only at h
    rw [if_neg (by rw [solid.gap]; decide), if_neg solid.comment, if_neg solid.lineBreak,
      if_neg solid.backslash, if_neg (by simp [solid.quote]), if_pos (by rw [hd]; rfl)] at h
    obtain ⟨⟨n, behind⟩, numeral, pushed⟩ := Option.bind_eq_some_iff.1 h
    obtain ⟨rfl, rfl⟩ := numeral?_singleton hd hv numeral
    obtain ⟨⟨later, left⟩, read, pushed⟩ := Option.map_eq_some_iff.1 pushed
    obtain ⟨rfl, rfl⟩ := Prod.mk.inj pushed
    exact ⟨_, later, fuel, rfl, rfl, read⟩

/-! ### What a word stands for -/

/-- The words of letters that are values by themselves. -/
def constants : List (String × Value) :=
  [("True", .bool true), ("False", .bool false), ("None", .null)]

/-- How many parts are enough for one word. -/
theorem exists_fuel (text : List Char) :
    ∃ n, partsPerCharacter * (text.length + 2) = n + 16 :=
  ⟨16 * text.length + 16, by rw [partsPerCharacter]; omega⟩

/-- A text that is one word is the expression that the word is by itself, if it is one. -/
theorem read?_eq {text : List Char} {t : Token} {e : Option Literal} (h : tokens? text = some [t])
    (part : ∀ n, part? (n + 16) .expression [t] = e.map (·, [])) : read? text = e := by
  obtain ⟨n, fuel⟩ := exists_fuel text
  unfold read?
  rw [h, Option.bind_eq_bind, Option.bind_some, fuel]
  dsimp only
  rw [part]
  cases e <;> rfl

/-- A word with a meaning of its own is a value by itself, or no expression. -/
theorem part?_keyword {k : String} (hk : k ∈ keywords) :
    (∃ e ∈ constants, k = e.1 ∧ ∀ n, part? (n + 16) .expression [.mark k] = some (atom e.2, [])) ∨
      ∀ n, part? (n + 16) .expression [.mark k] = none := by
  simp only [keywords, List.mem_cons, List.not_mem_nil, or_false] at hk
  rcases hk with rfl | rfl | rfl | hk
  · exact .inl ⟨("False", .bool false), by simp [constants], rfl, fun n => rfl⟩
  · exact .inl ⟨("None", .null), by simp [constants], rfl, fun n => rfl⟩
  · exact .inl ⟨("True", .bool true), by simp [constants], rfl, fun n => rfl⟩
  · refine .inr fun n => ?_
    repeat' rcases hk with rfl | hk
    all_goals rfl

/-- A text that is a word between blanks is no literal, or the word is its only one. -/
theorem ofLiteral_of_reads {text : String} {u w v : List Char} {P : Token → Prop}
    (ht : text.toList = u ++ (w ++ v)) (hu : AllBlank u) (hv : AllBlank v) (hw : Plain w)
    (reads : ReadsOnly w P) :
    Value.ofLiteral text = .error .malformed ∨ ∃ t, P t ∧ tokens? text.toList = some [t] := by
  cases hts : tokens? text.toList with
  | none =>
    refine .inl ?_
    rw [Value.ofLiteral, read?, hts]
    rfl
  | some ts =>
    rw [ht] at hts
    obtain ⟨t, ht, rfl⟩ := tokens?_eq_singleton hw reads hu hv hts
    exact .inr ⟨t, ht, rfl⟩

/-- **Letters between blanks are a literal only if they are one of the three words that are values
by themselves**, and then they have that value. -/
theorem ofLiteral_letters {text : String} {u w v : List Char} (ht : text.toList = u ++ (w ++ v))
    (hu : AllBlank u) (hv : AllBlank v) (ne : w ≠ []) (letters : ∀ c ∈ w, c.isAlpha = true) :
    Value.ofLiteral text = .error .malformed ∨
      ∃ e ∈ constants, w = e.1.toList ∧ Value.ofLiteral text = .ok e.2 := by
  have plain : Plain w := ⟨ne, fun c hc => isAlphanum_of_isAlpha (letters c hc)⟩
  rcases ofLiteral_of_reads ht hu hv plain (readsOnly_letters ne letters) with
    none | ⟨t, word, only⟩
  · exact .inl none
  unfold wordOf? at word
  dsimp only at word
  split at word
  · rename_i keyword
    obtain rfl := Option.some.inj word
    have hk : String.ofList w ∈ keywords := by simpa using keyword
    rcases part?_keyword hk with ⟨e, he, same, part⟩ | part
    · refine .inr ⟨e, he, by rw [← same, String.toList_ofList], ?_⟩
      rw [Value.ofLiteral, read?_eq (e := some (atom e.2)) only part]
      rfl
    · rw [Value.ofLiteral, read?_eq (e := none) only part]
      exact .inl rfl
  · split at word
    · cases word
    · obtain rfl := Option.some.inj word
      rw [Value.ofLiteral, read?_eq (e := some (name _)) only fun n => rfl]
      exact .inl rfl

/-- **A digit between blanks is a literal only as the number that it stands for.** -/
theorem ofLiteral_digit {text : String} {u v : List Char} {d : Char}
    (ht : text.toList = u ++ ([d] ++ v)) (hu : AllBlank u) (hv : AllBlank v)
    (hd : isAsciiDigit d = true) :
    Value.ofLiteral text = .error .malformed ∨
      Value.ofLiteral text = .ok (.int (valueInBase 10 [d])) := by
  have plain : Plain [d] :=
    ⟨List.cons_ne_nil _ _, List.forall_mem_singleton.2 (isAlphanum_of_isAsciiDigit hd)⟩
  rcases ofLiteral_of_reads ht hu hv plain (readsOnly_digit hd) with none | ⟨t, rfl, only⟩
  · exact .inl none
  · rw [Value.ofLiteral, read?_eq (e := some (atom _)) only fun n => rfl]
    exact .inr rfl

end Literal
end TypeMismatch
