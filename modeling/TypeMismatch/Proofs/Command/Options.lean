import TypeMismatch.Command.Request
import TypeMismatch.Proofs.Result

/-!
# Words that are passed on

A command line that is made of values known already, as the `main` of the pair command makes one, is
read again as options with their values and operands, but a value that begins with a dash may be
taken for something else (`CommandSpec.IsOperand`).  Options with their values are read one after
the other, and each value must be an operand, or else reading ends (`readWords_given`,
`isOperand_of_readWords`).  A position that takes everything that is left takes the words as they
are (`readWords_rest`).  Of positions that take a word each, none is filled by anything but an
operand (`length_le_of_read`): what is taken for an option is missing from them.
-/

namespace TypeMismatch
namespace CommandSpec

variable {spec : CommandSpec}

/-! ### What a word is -/

/-- Whether a value, given as a word of its own, is taken for an operand.  A value that was lost
is. -/
def IsOperand (spec : CommandSpec) (value : Option String) : Prop :=
  ∀ word ∈ value, word ≠ "--" ∧ spec.classify word = .ok (.operand (some word))

/-- A word that was lost looks like no option. -/
theorem isOperand_none : spec.IsOperand none := fun _ h => nomatch h

/-- Words that do not begin with a dash are operands. -/
theorem isOperand_of_head? {word : String} (h : ∀ c ∈ word.toList.head?, c ≠ '-') :
    spec.IsOperand (some word) := by
  rintro _ ⟨⟩
  constructor
  · rintro rfl
    exact h '-' rfl rfl
  · unfold classify
    split
    · rfl
    · rename_i c cs hw
      rw [if_pos (bne_iff_ne.2 (h c (by rw [hw]; rfl)))]

/-- A word is an operand, or an option, or could mean several options. -/
theorem classify_cases (spec : CommandSpec) (word : String) :
    spec.classify word = .ok (.operand (some word)) ∨
      (∃ m, spec.classify word = .ok (.option word m)) ∨ ∃ e, spec.classify word = .error e := by
  unfold classify
  dsimp only
  split
  · exact .inl rfl
  split
  · exact .inl rfl
  split
  · exact .inr (.inl ⟨_, rfl⟩)
  split
  · exact .inl rfl
  split
  · exact .inr (.inl ⟨_, rfl⟩)
  split
  · exact .inr (.inl ⟨_, rfl⟩)
  · split
    · exact .inl rfl
    · exact .inr (.inl ⟨_, rfl⟩)
  · exact .inr (.inr ⟨_, rfl⟩)

/-- A word is itself, whatever it is taken for. -/
theorem text_of_classify {word : String} {w : Word} (h : spec.classify word = .ok w) :
    w.text = some word := by
  rcases spec.classify_cases word with hc | ⟨m, hc⟩ | ⟨e, hc⟩
  all_goals
    rw [hc] at h
    cases h
  all_goals rfl

/-- A word with two dashes could mean the options whose names begin as it does. -/
theorem candidates_long (spec : CommandSpec) {word : String} {c : Char} {cs : List Char}
    (hw : word.toList = '-' :: '-' :: c :: cs) (hc : c ≠ '=') :
    ∃ start attached, spec.candidates word =
      (spec.names.filter fun n => ('-' :: '-' :: c :: start).isPrefixOf n.1.toList).map
        fun n => ⟨n.2, n.1, attached⟩ := by
  have cut : Text.cut? '=' ('-' :: '-' :: c :: cs) =
      (Text.cut? '=' cs).map fun x => ('-' :: '-' :: c :: x.1, x.2) := by
    simp [Text.cut?, hc, Function.comp_def]
  unfold candidates
  rw [hw]
  split
  · rename_i rest h
    obtain ⟨-, h⟩ := List.cons.inj h
    obtain ⟨-, rfl⟩ := List.cons.inj h
    rw [cut]
    cases Text.cut? '=' cs with
    | none => exact ⟨_, _, rfl⟩
    | some x => exact ⟨_, _, rfl⟩
  · rename_i h
    exact absurd rfl (h _)

/-- A word with one dash could mean the options whose names it begins with, or begins. -/
theorem candidates_short {word : String} {c : Char} {cs : List Char}
    (hw : word.toList = '-' :: c :: cs) (hc : c ≠ '-') :
    spec.candidates word = spec.names.filterMap fun n =>
      if n.1.toList == ['-', c] then some ⟨n.2, n.1, some cs⟩
      else if ('-' :: c :: cs).isPrefixOf n.1.toList then some ⟨n.2, n.1, none⟩
      else none := by
  unfold candidates
  rw [hw]
  split
  · rename_i h
    cases h
    exact absurd rfl hc
  · rfl

/-- A word that begins with a dash is no operand if it could mean an option. -/
theorem candidates_of_operand {word : String} {v : Option String} {c : Char} {cs : List Char}
    (hw : word.toList = '-' :: c :: cs) (h : spec.classify word = .ok (.operand v)) :
    spec.candidates word = [] := by
  unfold classify at h
  simp only [hw, bne_self_eq_false, Bool.false_eq_true, if_false, List.isEmpty_cons] at h
  split at h
  · cases h
  split at h
  · cases h
  split at h
  · cases h
  · assumption
  · cases h

/-- A word that could mean one option at most is understood. -/
theorem exists_classify {word : String} (h : ∀ c cs, word.toList = '-' :: c :: cs →
    (spec.candidates word).length ≤ 1) : ∃ w, spec.classify word = .ok w := by
  unfold classify
  split
  · exact ⟨_, rfl⟩
  split
  · exact ⟨_, rfl⟩
  split
  · exact ⟨_, rfl⟩
  split
  · exact ⟨_, rfl⟩
  rename_i first cs hw dash _ _ filled
  dsimp only
  split
  · exact ⟨_, rfl⟩
  split
  · exact ⟨_, rfl⟩
  · split <;> exact ⟨_, rfl⟩
  · rename_i several none
    obtain ⟨c, cs, rfl⟩ := List.exists_cons_of_ne_nil fun he => filled (List.isEmpty_iff.2 he)
    obtain rfl : first = '-' := Decidable.byContradiction fun he => dash (bne_iff_ne.2 he)
    have few := h c cs hw
    cases hc : spec.candidates word with
    | nil => exact absurd hc none
    | cons m ms =>
      cases ms with
      | nil => exact absurd hc (several m)
      | cons n ns =>
        rw [hc, List.length_cons, List.length_cons] at few
        omega

/-- What the words of a command line are has their texts. -/
theorem map_text_of_classifyAll {words : List (Option String)} {ws : List Word}
    (h : spec.classifyAll words = .ok ws) : ws.map Word.text = words := by
  induction words generalizing ws with
  | nil =>
    obtain rfl := Except.ok.inj h
    rfl
  | cons word words ih =>
    cases word with
    | none =>
      obtain ⟨rest, hrest, h⟩ := ok_of_bind h
      obtain rfl := Except.ok.inj h
      rw [List.map_cons, ih hrest]
      rfl
    | some word =>
      rw [classifyAll] at h
      split at h
      · rename_i separator
        obtain rfl := Except.ok.inj h
        rw [separator, List.map_cons, List.map_map]
        exact congrArg _ (List.map_id'' (fun _ => rfl) words)
      · obtain ⟨w, hw, h⟩ := ok_of_bind h
        obtain ⟨rest, hrest, h⟩ := ok_of_bind h
        obtain rfl := Except.ok.inj h
        rw [List.map_cons, text_of_classify hw, ih hrest]

/-- The first word is taken for an operand, or it is the separator and all words behind it are
operands, or it is an option. -/
theorem classifyAll_cons_cases {value : Option String} {words : List (Option String)}
    {ws : List Word} (h : spec.classifyAll (value :: words) = .ok ws) :
    (∃ rest, ws = .operand value :: rest ∧ spec.IsOperand value ∧
      spec.classifyAll words = .ok rest) ∨
    (value = some "--" ∧ ws = .separator :: words.map .operand) ∨
    ∃ text m rest, value = some text ∧ ws = .option text m :: rest ∧
      spec.classify text = .ok (.option text m) ∧ spec.classifyAll words = .ok rest := by
  cases value with
  | none =>
    obtain ⟨rest, hrest, h⟩ := ok_of_bind h
    obtain rfl := Except.ok.inj h
    exact .inl ⟨rest, rfl, isOperand_none, hrest⟩
  | some word =>
    rw [classifyAll] at h
    split at h
    · rename_i separator
      obtain rfl := Except.ok.inj h
      exact .inr (.inl ⟨congrArg some separator, rfl⟩)
    · rename_i ne
      obtain ⟨w, hw, h⟩ := ok_of_bind h
      obtain ⟨rest, hrest, h⟩ := ok_of_bind h
      obtain rfl := Except.ok.inj h
      rcases spec.classify_cases word with hc | ⟨m, hc⟩ | ⟨e, hc⟩
      · obtain rfl := Except.ok.inj (hw.symm.trans hc)
        exact .inl ⟨rest, rfl, by rintro _ ⟨⟩; exact ⟨ne, hw⟩, hrest⟩
      · obtain rfl := Except.ok.inj (hw.symm.trans hc)
        exact .inr (.inr ⟨word, m, rest, rfl, rfl, hw, hrest⟩)
      · rw [hc] at hw
        cases hw

/-- Words are understood if each of them is. -/
theorem exists_classifyAll {words : List (Option String)}
    (h : ∀ value ∈ words, ∀ word ∈ value, ∃ w, spec.classify word = .ok w) :
    ∃ ws, spec.classifyAll words = .ok ws := by
  induction words with
  | nil => exact ⟨[], rfl⟩
  | cons value words ih =>
    obtain ⟨first, h⟩ := List.forall_mem_cons.1 h
    obtain ⟨ws, hws⟩ := ih h
    cases value with
    | none => exact ⟨_, by rw [classifyAll, hws]; rfl⟩
    | some word =>
      obtain ⟨w, hw⟩ := first word rfl
      rw [classifyAll, hw, hws]
      split <;> exact ⟨_, rfl⟩

/-- A word that looks like no option is taken as an operand, whatever stands behind it. -/
theorem IsOperand.classifyAll_cons {value : Option String} (h : spec.IsOperand value)
    (words : List (Option String)) :
    spec.classifyAll (value :: words) =
      (spec.classifyAll words).map (Word.operand value :: ·) := by
  cases value with
  | none =>
    rw [classifyAll]
    cases spec.classifyAll words <;> rfl
  | some word =>
    obtain ⟨ne, own⟩ := h word rfl
    rw [classifyAll, if_neg ne, own]
    cases spec.classifyAll words <;> rfl

/-! ### Options with their values -/

/-- An option that takes a value. -/
def Takes (spec : CommandSpec) (name : String) : Prop :=
  name ≠ "--" ∧ ∃ o : OptionSpec, o.kind = .value ∧
    spec.classify name = .ok (.option name (some ⟨o, name, none⟩))

/-- An option that takes a value is found by its name, whatever stands behind it. -/
theorem Takes.classifyAll_cons {name : String} (h : spec.Takes name)
    (words : List (Option String)) : ∃ o : OptionSpec, o.kind = .value ∧
      spec.classifyAll (some name :: words) =
        (spec.classifyAll words).map (Word.option name (some ⟨o, name, none⟩) :: ·) := by
  obtain ⟨ne, o, kind, own⟩ := h
  refine ⟨o, kind, ?_⟩
  rw [classifyAll, if_neg ne, own]
  cases spec.classifyAll words <;> rfl

/-- The words with which options are given with their values. -/
def wordsOf (given : List (String × Option String)) : List (Option String) :=
  given.flatMap fun g => [some g.1, g.2]

/-- Options with values stand in the words one after the other, each name before its value. -/
theorem wordsOf_cons (g : String × Option String) (given : List (String × Option String)) :
    wordsOf (g :: given) = some g.1 :: g.2 :: wordsOf given := rfl

/-- Every option with its value takes two words. -/
theorem length_wordsOf (given : List (String × Option String)) :
    (wordsOf given).length = 2 * given.length := by
  induction given with
  | nil => rfl
  | cons g given ih =>
    rw [wordsOf_cons, List.length_cons, List.length_cons, List.length_cons, ih]
    omega

/-- No operand comes before an option. -/
theorem takePositions_option (spec : CommandSpec) (left : Nat) (text : String)
    (m : Option OptionMatch) (ws : List Word) :
    spec.takePositions left (.option text m :: ws) = ([], .option text m :: ws) := by
  unfold takePositions
  split
  · split <;> rfl
  · cases left <;> rfl

/-- An option is read with its value. -/
theorem readWords_option (spec : CommandSpec) (fuel left : Nat) (r : Reading) (text : String)
    (m : OptionMatch) (ws : List Word) :
    spec.readWords (fuel + 1) left r (.option text (some m) :: ws) =
      spec.takeOption m ws >>= fun x =>
        spec.readWords fuel left { r with given := r.given ++ [x.1] } x.2 := by
  rw [readWords, takePositions_option]
  rfl

/-- **Options are read with their values**, one after the other, if these are operands. -/
theorem readWords_given {given : List (String × Option String)}
    (h : ∀ g ∈ given, spec.Takes g.1 ∧ spec.IsOperand g.2) {words : List (Option String)}
    {ws : List Word} (hw : spec.classifyAll words = .ok ws) :
    ∃ vs, spec.classifyAll (wordsOf given ++ words) = .ok vs ∧
      ws.length + given.length ≤ vs.length ∧
      ∀ fuel left r, spec.readWords (fuel + given.length) left r vs =
        spec.readWords fuel left { r with given := r.given ++ given } ws := by
  induction given with
  | nil => exact ⟨ws, hw, Nat.le_refl _, fun fuel left r => by rw [List.append_nil]; rfl⟩
  | cons g given ih =>
    obtain ⟨⟨takes, operand⟩, h⟩ := List.forall_mem_cons.1 h
    obtain ⟨vs, hvs, length, reads⟩ := ih h
    obtain ⟨o, kind, found⟩ := takes.classifyAll_cons (g.2 :: (wordsOf given ++ words))
    refine ⟨.option g.1 (some ⟨o, g.1, none⟩) :: .operand g.2 :: vs, ?_, ?_, fun fuel left r => ?_⟩
    · rw [wordsOf_cons, List.cons_append, List.cons_append, found,
        operand.classifyAll_cons, hvs]
      rfl
    · simp only [List.length_cons]
      omega
    · have takes : spec.takeOption ⟨o, g.1, none⟩ (.operand g.2 :: vs) = .ok (g, vs) := by
        rw [takeOption, kind]
      rw [List.length_cons, ← Nat.add_assoc, readWords_option, takes]
      change spec.readWords _ _ { r with given := r.given ++ [g] } _ = _
      rw [reads, List.append_assoc, List.singleton_append]

/-- **A value that is no operand ends the reading.** -/
theorem isOperand_of_readWords {given : List (String × Option String)}
    (h : ∀ g ∈ given, spec.Takes g.1) {words : List (Option String)} {vs : List Word}
    (hv : spec.classifyAll (wordsOf given ++ words) = .ok vs) {fuel left : Nat} {r r' : Reading}
    (hf : given.length < fuel) (hr : spec.readWords fuel left r vs = .ok r') :
    (∀ g ∈ given, spec.IsOperand g.2) ∧ ∃ ws, spec.classifyAll words = .ok ws := by
  induction given generalizing vs fuel r with
  | nil => exact ⟨List.forall_mem_nil _, vs, hv⟩
  | cons g given ih =>
    obtain ⟨takes, h⟩ := List.forall_mem_cons.1 h
    obtain ⟨o, kind, found⟩ := takes.classifyAll_cons (g.2 :: (wordsOf given ++ words))
    obtain ⟨fuel, rfl⟩ : ∃ k, fuel = k + 1 := ⟨fuel - 1, by rw [List.length_cons] at hf; omega⟩
    rw [List.length_cons] at hf
    rw [wordsOf_cons, List.cons_append, List.cons_append, found] at hv
    obtain ⟨ws, hws, rfl⟩ := ok_of_map hv
    rw [readWords_option] at hr
    obtain ⟨⟨taken, rest⟩, ht, hr⟩ := ok_of_bind hr
    -- The value is what follows the option, and only an operand is taken as one.
    obtain ⟨v, rfl, rfl⟩ : ∃ v, ws = .operand v :: rest ∧ taken = (g.1, v) := by
      unfold takeOption at ht
      rw [kind] at ht
      dsimp only at ht
      split at ht
      · cases ht
        exact ⟨_, rfl, rfl⟩
      · cases ht
    rcases classifyAll_cons_cases hws with
      ⟨_, ⟨⟩, operand, hrest⟩ | ⟨-, ⟨⟩⟩ | ⟨_, _, _, -, ⟨⟩, -⟩
    obtain ⟨all, found⟩ := ih h hrest (by omega) hr
    exact ⟨List.forall_mem_cons.2 ⟨operand, all⟩, found⟩

/-! ### Operands -/

/-- **A position that takes everything takes the words as they are.** -/
theorem readWords_rest (h : spec.takesRest = true) (fuel : Nat) (r : Reading) (v : Option String)
    (ws : List Word) :
    spec.readWords (fuel + 2) 1 r (.operand v :: ws) =
      .ok { r with operands := r.operands ++ (Word.operand v :: ws).map Word.text } := by
  have takes : spec.takePositions 1 (.operand v :: ws) =
      ((Word.operand v :: ws).map Word.text, []) := by
    rw [takePositions, if_pos h, if_neg Nat.one_ne_zero]
    rfl
  have leaves : spec.takePositions 0 [] = ([], []) := by
    rw [takePositions, if_pos h, if_pos rfl]
  rw [readWords, takes]
  dsimp only
  split
  · rw [List.filterMap_nil, List.append_nil]
  · have filled : (!((Word.operand v :: ws).map Word.text).isEmpty) = true := rfl
    rw [if_pos filled, readWords, leaves]
    simp

/-- Without a separator in front nothing is dropped. -/
theorem dropSeparators_of_head? {ws : List Word} (h : ws.head? ≠ some .separator) :
    Word.dropSeparators ws = ws := by
  cases ws with
  | nil => rfl
  | cons w ws =>
    refine List.dropWhile_cons_of_neg fun hw => h ?_
    rw [eq_of_beq hw]
    rfl

/-- An operand without separators around it is taken as it is. -/
theorem takeOperands_cons {v : Option String} {ws : List Word} (hv : v ≠ some "--")
    (hw : ws.head? ≠ some .separator) (n : Nat) :
    Word.takeOperands (n + 1) (.operand v :: ws) =
      (v :: (Word.takeOperands n ws).1, (Word.takeOperands n ws).2) := by
  have first : Word.dropSeparators (.operand v :: ws) = .operand v :: ws := rfl
  have taken : Word.takeOperand? (.operand v :: ws) = some (v, ws) := by
    unfold Word.takeOperand?
    rw [first]
    dsimp only
    rw [dropSeparators_of_head? hw, if_neg fun h => hv (by simpa using h)]
  rw [Word.takeOperands, taken]

/-- The number of operands among words. -/
def operandCount (ws : List Word) : Nat := ws.countP fun w => w matches .operand _

/-- An operand in front is one more. -/
theorem operandCount_cons_operand (s : Option String) (ws : List Word) :
    operandCount (.operand s :: ws) = operandCount ws + 1 := List.countP_cons_of_pos rfl

/-- Separators are no operands. -/
theorem operandCount_dropSeparators (ws : List Word) :
    operandCount (Word.dropSeparators ws) = operandCount ws := by
  induction ws with
  | nil => rfl
  | cons w ws ih =>
    rw [Word.dropSeparators] at ih ⊢
    rw [List.dropWhile_cons]
    split
    · rename_i separator
      obtain rfl := eq_of_beq separator
      rw [ih]
      rfl
    · rfl

/-- Positions that take a word each are filled by operands. -/
theorem length_takeOperands (n : Nat) (ws : List Word) :
    (Word.takeOperands n ws).1.length + operandCount (Word.takeOperands n ws).2 =
      operandCount ws := by
  induction n generalizing ws with
  | zero => exact Nat.zero_add _
  | succ n ih =>
    unfold Word.takeOperands Word.takeOperand?
    have count := operandCount_dropSeparators ws
    split
    · rename_i found
      split at found
      · rename_i s rest hd
        obtain ⟨-, rfl⟩ := Prod.mk.inj (Option.some.inj found)
        rw [hd] at count
        have tail := ih (Word.dropSeparators rest)
        rw [operandCount_dropSeparators] at tail
        rw [operandCount_cons_operand] at count
        simp only [List.length_cons]
        omega
      · cases found
    · exact Nat.zero_add _

/-- What is left behind an option with its value has no more operands. -/
theorem operandCount_takeOption {m : OptionMatch} {ws rest : List Word}
    {g : String × Option String} (h : spec.takeOption m ws = .ok (g, rest)) :
    operandCount rest ≤ operandCount ws := by
  unfold takeOption at h
  split at h
  · cases h
  · cases h
    exact Nat.le_refl _
  · cases h
  · cases h
    exact Nat.le_refl _
  · split at h
    · cases h
      rw [operandCount_cons_operand]
      exact Nat.le_succ _
    · cases h

/-- **Nothing but operands fills positions that take a word each.** -/
theorem length_operands_le (h : spec.takesRest = false) {fuel left : Nat} {r r' : Reading}
    {ws : List Word} (hr : spec.readWords fuel left r ws = .ok r') :
    r'.operands.length ≤ r.operands.length + operandCount ws := by
  induction fuel generalizing left r ws with
  | zero =>
    obtain rfl := Except.ok.inj hr
    exact Nat.le_add_right _ _
  | succ fuel ih =>
    have taken := length_takeOperands left ws
    have positions : spec.takePositions left ws = Word.takeOperands left ws := by
      rw [takePositions, h]
      rfl
    rw [readWords, positions] at hr
    dsimp only at hr
    split at hr
    · obtain rfl := Except.ok.inj hr
      rw [List.length_append]
      omega
    split at hr
    · obtain rfl := Except.ok.inj hr
      exact Nat.le_add_right _ _
    · exact Nat.le_trans (ih hr) (Nat.add_le_add_left (Nat.le_refl _) _)
    · obtain ⟨⟨g, rest⟩, ht, hr⟩ := ok_of_bind hr
      have fewer := operandCount_takeOption ht
      exact Nat.le_trans (ih hr) (Nat.add_le_add_left fewer _)
    · rename_i w ws _ _ _
      split at hr
      · have tail := ih hr
        rw [List.length_append] at tail
        omega
      · have tail := ih hr
        have fewer : operandCount ws ≤ operandCount (w :: ws) :=
          List.Sublist.countP_le (List.sublist_cons_self w ws)
        exact Nat.le_trans tail (Nat.add_le_add_left fewer _)

/-- A command line is read if its words are, and fill all positions. -/
theorem read_eq_ok_iff {words : List (Option String)} {r : Reading} :
    spec.read words = .ok r ↔ ∃ ws, spec.classifyAll words = .ok ws ∧
      spec.readWords (ws.length + 1) spec.positions.length ⟨[], [], []⟩ ws = .ok r ∧
      spec.positions.length ≤ r.operands.length := by
  constructor
  · intro h
    obtain ⟨ws, hws, h⟩ := ok_of_bind h
    obtain ⟨r', hr, h⟩ := ok_of_bind h
    split at h
    · rename_i filled
      obtain rfl := Except.ok.inj h
      exact ⟨ws, hws, hr, List.drop_eq_nil_iff.1 filled⟩
    · cases h
  · rintro ⟨ws, hws, hr, filled⟩
    have all : spec.positions.drop r.operands.length = [] := List.drop_eq_nil_iff.2 filled
    unfold read
    simp only [hws, hr, all, bind, Except.bind]
    rfl

/-- A command line that is read has an operand for every position that takes a word. -/
theorem length_le_of_read (h : spec.takesRest = false) {words : List (Option String)} {r : Reading}
    (hr : spec.read words = .ok r) :
    ∃ ws, spec.classifyAll words = .ok ws ∧ spec.positions.length ≤ operandCount ws ∧
      spec.readWords (ws.length + 1) spec.positions.length ⟨[], [], []⟩ ws = .ok r := by
  obtain ⟨ws, hws, hr, filled⟩ := read_eq_ok_iff.1 hr
  exact ⟨ws, hws, by simpa using Nat.le_trans filled (length_operands_le h hr), hr⟩

/-- Words without options give none. -/
theorem given_of_not_isOption {fuel left : Nat} {r r' : Reading} {ws : List Word}
    (h : ws.any Word.isOption = false) (hr : spec.readWords fuel left r ws = .ok r') :
    r'.given = r.given := by
  cases fuel with
  | zero =>
    obtain rfl := Except.ok.inj hr
    rfl
  | succ fuel =>
    rw [readWords, h] at hr
    obtain rfl := Except.ok.inj hr
    rfl

end CommandSpec
end TypeMismatch
