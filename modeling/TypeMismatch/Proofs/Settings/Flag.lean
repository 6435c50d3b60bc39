import Mathlib
import TypeMismatch.Proofs.Literal.Word
import TypeMismatch.Proofs.Override
import TypeMismatch.Proofs.Settings

/-!
# A flag given by an override

The text of an override is read twice: as a literal (`_coerce_literal`), and what that gives as a
flag (`_coerce_bool`).  A spelling of true or false is no literal, or it is a truth value or a
number (`valueOf_spelling`).  As a text it is read for what it spells (`flag_text`), and a truth
value is right as well.  A number is not understood, and the flag is then the standard one, which is
right for one and wrong for zero (`merge_flag`).
-/

namespace TypeMismatch

namespace Settings
open Literal Text

/-- A text spells a truth value. -/
def Spells (text : String) (b : Bool) : Prop :=
  folded text ∈ if b then trueWords else falseWords

instance (text : String) (b : Bool) : Decidable (Spells text b) :=
  inferInstanceAs (Decidable (folded text ∈ if b then trueWords else falseWords))

/-- **A text is read for what it spells.** -/
theorem flag_text {text : String} {b : Bool} (h : Spells text b) (fallback : Bool) :
    flag (.text text) fallback = b := by
  have apart : ∀ word ∈ falseWords, trueWords.contains word = false := by decide
  cases b with
  | true =>
    have hw : trueWords.contains (folded text) = true := List.contains_iff_mem.2 h
    rw [flag, hw]
    rfl
  | false =>
    have hw : falseWords.contains (folded text) = true := List.contains_iff_mem.2 h
    rw [flag, apart _ h, hw]
    rfl

/-! ### Letters and digits of spellings -/

/-- A digit has no other case. -/
theorem toLower_eq_of_isAsciiDigit {c : Char} (h : isAsciiDigit c.toLower = true) :
    c.toLower = c := by
  refine Char.toLower_eq_of_not_isUpper fun upper => ?_
  have letter : c.toLower.isAlpha = true := by
    rw [Char.isAlpha_toLower_eq_isAlpha, Char.isAlpha, upper, Bool.true_or]
  rw [isAsciiDigit_of_isAlpha letter] at h
  cases h

/-- A text is folded by trimming it and taking the lower case. -/
theorem map_toLower_trim (text : String) :
    (trim text.toList).map Char.toLower = (folded text).toList := by
  rw [folded, String.toList_ofList]

/-- A text that spells a truth value is letters between blanks, or the digit one or zero. -/
theorem spelling_cases {text : String} {b : Bool} (h : Spells text b) :
    (trim text.toList ≠ [] ∧ ∀ c ∈ trim text.toList, c.isAlpha = true) ∨
      trim text.toList = [if b then '1' else '0'] := by
  have words : ∀ word ∈ if b then trueWords else falseWords,
      word.toList ≠ [] ∧ word.toList.all Char.isAlpha = true ∨
        word.toList = [if b then '1' else '0'] := by
    cases b <;> decide
  have lowered := map_toLower_trim text
  rcases words _ h with ⟨ne, letters⟩ | digit
  · refine .inl ⟨fun none => ne ?_, fun c hc => ?_⟩
    · rw [← lowered, none, List.map_nil]
    · rw [← Char.isAlpha_toLower_eq_isAlpha]
      refine List.all_eq_true.1 letters _ ?_
      rw [← lowered]
      exact List.mem_map_of_mem hc
  · rw [digit] at lowered
    obtain ⟨c, hc, lower⟩ := List.map_eq_singleton_iff.1 lowered
    have isDigit : isAsciiDigit c.toLower = true := by rw [lower]; cases b <;> rfl
    rw [toLower_eq_of_isAsciiDigit isDigit] at lower
    exact .inr (by rw [hc, lower])

/-- A spelling is within the reach of every machine. -/
theorem exhausts?_spelling {text : String} {b : Bool} (h : Spells text b) (machine : Machine) :
    machine.exhausts? text = none := by
  have words : ∀ word ∈ if b then trueWords else falseWords, word.toList.length ≤ 100 := by
    cases b <;> decide
  refine machine.short text ?_
  rw [← List.length_map Char.toLower, map_toLower_trim]
  exact words _ h

/-- Of the words that are values by themselves only two spell something, and they are that. -/
theorem flag_constant {text : String} {b : Bool} (h : Spells text b) {e : String × Value}
    (he : e ∈ constants) (same : trim text.toList = e.1.toList) (fallback : Bool) :
    flag e.2 fallback = b := by
  have lowered := map_toLower_trim text
  rw [same] at lowered
  have word : folded text = String.ofList (e.1.toList.map Char.toLower) := by
    rw [lowered, String.ofList_toList]
  unfold Spells at h
  rw [word] at h
  simp only [constants, List.mem_cons, List.not_mem_nil, or_false] at he
  rcases he with rfl | rfl | rfl
  · cases b with
    | true => rfl
    | false => exact absurd h (by decide)
  · cases b with
    | true => exact absurd h (by decide)
    | false => rfl
  · cases b <;> exact absurd h (by decide)

/-! ### Values of spellings -/

/-- How the text of a spelling is taken by an override: its value is read for what it spells, unless
the text is a literal of zero. -/
structure TakenAs (machine : Machine) (text : String) (b : Bool) (v : Value) : Prop where
  value : Override.valueOf machine text = .ok v
  flag_iff : flag v standard.fallbackToRaw = b ↔ Value.ofLiteral text ≠ .ok (.int 0)
  spelling : Value.ofLiteral text = .ok (.int 0) → folded text = "0"

/-- A spelling whose value is a flag of its own, and not the number zero, is taken as that flag. -/
theorem TakenAs.of_ne {machine : Machine} {text : String} {b : Bool} {v : Value}
    (value : Override.valueOf machine text = .ok v)
    (right : flag v standard.fallbackToRaw = b) (ne : Value.ofLiteral text ≠ .ok (.int 0)) :
    TakenAs machine text b v :=
  ⟨value, iff_of_true right ne, fun zero => absurd zero ne⟩

/-- What is no literal is taken as it is. -/
theorem takenAs_text {machine : Machine} {text : String} {b : Bool} (h : Spells text b)
    (none : Value.ofLiteral text = .error .malformed) : TakenAs machine text b (.text text) :=
  .of_ne (Override.valueOf_of_malformed (exhausts?_spelling h machine) none) (flag_text h _)
    (by rw [none]; exact nofun)

/-- **The text of a spelling always has a value.** -/
theorem exists_takenAs {text : String} {b : Bool} (h : Spells text b) (machine : Machine) :
    ∃ v, TakenAs machine text b v := by
  obtain ⟨u, v, ht, hu, hv⟩ := exists_eq_trim text.toList
  rcases spelling_cases h with ⟨ne, letters⟩ | digit
  · rcases ofLiteral_letters ht hu hv ne letters with none | ⟨e, he, same, value⟩
    · exact ⟨_, takenAs_text h none⟩
    · have number : ∀ e ∈ constants, e.2 ≠ .int 0 := by simp [constants]
      refine ⟨e.2, .of_ne (Override.valueOf_of_ok (exhausts?_spelling h machine) value)
        (flag_constant h he same _) ?_⟩
      rw [value]
      exact fun zero => number e he (Except.ok.inj zero)
  · rw [digit] at ht
    have isDigit : isAsciiDigit (if b then '1' else '0') = true := by cases b <;> rfl
    rcases ofLiteral_digit ht hu hv isDigit with none | value
    · exact ⟨_, takenAs_text h none⟩
    · have taken : Override.valueOf machine text =
          .ok (.int (valueInBase 10 [if b then '1' else '0'])) :=
        Override.valueOf_of_ok (exhausts?_spelling h machine) value
      cases b with
      | true =>
        refine ⟨_, .of_ne taken rfl ?_⟩
        rw [value]
        exact fun zero => absurd (Value.int.inj (Except.ok.inj zero)) (by decide)
      | false =>
        -- Zero is not understood, and the standard flag is true.
        have wrong : flag (.int (valueInBase 10 ['0'])) standard.fallbackToRaw ≠ false := by decide
        refine ⟨_, taken, iff_of_false wrong fun ne => ne value, fun _ => ?_⟩
        rw [folded, digit]
        rfl

/-! ### The flag -/

/-- The path of the flag as it is written. -/
def flagKey : String := "message.fallback_to_raw"

/-- The override that gives the flag. -/
def flagItem (text : String) : String := flagKey ++ "=" ++ text

/-- What the override comes to. -/
def flagLayer (v : Value) : Mapping := [("message", .map [("fallback_to_raw", v)])]

/-- The item for the flag places its value in the layer for it. -/
theorem mapping_flagItem {machine : Machine} {text : String} {v : Value}
    (h : Override.valueOf machine text = .ok v) :
    Override.mapping machine [flagItem text] = .ok (flagLayer v) := by
  have sign : (flagItem text).toList = flagKey.toList ++ '=' :: text.toList := by
    have single : "=".toList = ['='] := rfl
    rw [flagItem, String.toList_append, String.toList_append, single, List.append_assoc,
      List.singleton_append]
  have cut : cut? '=' (flagItem text).toList = some (flagKey.toList, text.toList) := by
    rw [sign]
    exact cut?_append (by decide +kernel) _
  have value : Override.valueOf machine (String.ofList text.toList) = .ok v := by
    rw [String.ofList_toList]
    exact h
  have path : Override.pathOf flagKey.toList = ["message", "fallback_to_raw"] := by
    decide +kernel
  have reads : Override.Reads machine (flagItem text) ["message", "fallback_to_raw"] v :=
    ⟨_, _, cut, path, value⟩
  rw [Override.mapping, Override.foldlM_cons_of_reads reads (by decide) rfl]
  rfl

/-- Merging the layer for the flag sets the flag and nothing else. -/
theorem merge_flagLayer (c : Settings) (v : Value) :
    c.merge (flagLayer v) = .ok { c with fallbackToRaw := flag v standard.fallbackToRaw } := by
  have proper : (flagLayer v).Proper :=
    Mapping.proper_of_forall (List.pairwise_singleton _ _)
      (List.forall_mem_singleton.2 (List.pairwise_singleton _ _))
  rw [merge_eq_update c proper]
  rfl

/-- **A flag that an override spells takes effect unless it is the literal zero.**  For any settings
and any spelling of a truth value, in any case and between any blanks, the override is taken and
changes the flag only.  The flag is then what is spelled, unless the text is a literal of the
integer zero, which only a zero between blanks can be; then it is true. -/
theorem merge_flag (machine : Machine) (c : Settings) {text : String} {b : Bool}
    (h : Spells text b) :
    ∃ m s, Override.mapping machine [flagItem text] = .ok m ∧ c.merge m = .ok s ∧
      s = { c with fallbackToRaw := s.fallbackToRaw } ∧
      (s.fallbackToRaw = b ↔ Value.ofLiteral text ≠ .ok (.int 0)) ∧
      (Value.ofLiteral text = .ok (.int 0) → folded text = "0") := by
  obtain ⟨v, taken⟩ := exists_takenAs h machine
  exact ⟨flagLayer v, _, mapping_flagItem taken.value, merge_flagLayer c v, rfl, taken.flag_iff,
    taken.spelling⟩

/-- The hypothesis is satisfiable, by a word in mixed case with blanks around it: the flag is
false. -/
theorem merge_flag_off :
    Spells " Off\n" false ∧ ∃ m s, Override.mapping .ample [flagItem " Off\n"] = .ok m ∧
      standard.merge m = .ok s ∧ s.fallbackToRaw = false := by
  have spells : Spells " Off\n" false := by decide +kernel
  have word : folded " Off\n" ≠ "0" := by decide +kernel
  obtain ⟨m, s, placed, merged, -, right, zero⟩ := merge_flag .ample standard spells
  exact ⟨spells, m, s, placed, merged, right.2 fun h => word (zero h)⟩

/-- Zero spells false, and the flag is true. -/
theorem merge_flag_zero :
    Spells "0" false ∧ ofMapping [] = .ok standard ∧
      ∃ m s, Override.mapping .ample [flagItem "0"] = .ok m ∧ standard.merge m = .ok s ∧
        s.fallbackToRaw = true := by
  have value : Override.valueOf .ample "0" = .ok (.int 0) := rfl
  exact ⟨by decide +kernel, rfl, _, _, mapping_flagItem value, merge_flagLayer _ _, rfl⟩

end Settings
end TypeMismatch
