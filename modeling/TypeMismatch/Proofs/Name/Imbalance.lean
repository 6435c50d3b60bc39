import Mathlib.Order.Bounds.Basic
import TypeMismatch.Name.Reader
import TypeMismatch.Proofs.Name.Bracket

/-!
# Which bracket is at fault

The check of a whole name (`_check_balanced`) keeps the places of the brackets that are open, the
last one first.  These places cut the text that has been checked: behind each of them a balanced
text follows, up to the next one (`OpenBehind`).  The next character opens one more bracket; or it
closes the last one, which leaves a longer balanced text behind the one before; or it belongs to the
balanced text at the end.  That is the step of the induction over the check
(`diagnosed_imbalanceFrom`).  So the check passes exactly the balanced texts
(`imbalance?_eq_none_iff`).

What the check finds is said by counting brackets alone.  A closing bracket closes nothing if the
text through it is the first one that closes more brackets than it opens, and a bracket is never
closed if no closing bracket behind it brings the count back (`NeverClosed`); the last such bracket
is the one that the check reports, and whatever else is wrong with the name is not looked at
(`read_unbalanced`).
-/

namespace TypeMismatch
namespace Name

/-- Whether the text through a place closes more brackets than it opens. -/
def Overclosed (text : List Char) (i : Nat) : Prop :=
  i < text.length ∧ excess (text.take (i + 1)) < 0

/-- Whether a bracket opens at a place and no closing bracket behind it brings the count of open
brackets back to what it is before that place. -/
def NeverClosed (text : List Char) (i : Nat) : Prop :=
  text[i]? = some '[' ∧ ∀ j < text.length, i < j → text[j]? = some ']' →
    excess (text.take (j + 1)) ≠ excess (text.take i)

instance (text : List Char) (i : Nat) : Decidable (Overclosed text i) :=
  inferInstanceAs (Decidable (_ ∧ _))

instance (text : List Char) (i : Nat) : Decidable (NeverClosed text i) :=
  inferInstanceAs (Decidable (_ ∧ _))

/-- The places of the brackets that are open behind a text, the last one first. -/
inductive OpenBehind : List Char → List Nat → Prop
  | none {u : List Char} : Balanced u → OpenBehind u []
  | bracket {u w : List Char} {places : List Nat} : OpenBehind u places → Balanced w →
      OpenBehind (u ++ '[' :: w) (u.length :: places)

/-- What the check of a text may find: nothing in a balanced text; a closing bracket behind a
balanced text; or an opening bracket with a balanced text behind it, up to the end. -/
inductive Diagnosed : List Char → Option Imbalance → Prop
  | balanced {u : List Char} : Balanced u → Diagnosed u none
  | unmatched {u v : List Char} : Balanced u →
      Diagnosed (u ++ ']' :: v) (some (.unmatched u.length))
  | unclosed {u w : List Char} {level : Nat} : levelBehind? 0 u = some level → Balanced w →
      Diagnosed (u ++ '[' :: w) (some (.unclosed u.length))

/-! ### Open brackets -/

namespace OpenBehind
variable {u w : List Char} {place : Nat} {places : List Nat}

/-- A balanced text leaves the same brackets open. -/
theorem append (h : OpenBehind u places) (hw : Balanced w) : OpenBehind (u ++ w) places := by
  cases h with
  | none hu => exact .none (hu.append hw)
  | bracket hu hv =>
    rw [List.append_assoc, List.cons_append]
    exact .bracket hu (hv.append hw)

/-- A closing bracket closes the last open one, and what it closes is balanced. -/
theorem close (h : OpenBehind u (place :: places)) : OpenBehind (u ++ [']']) places := by
  cases h with
  | @bracket u w _ hu hw =>
    rw [List.append_assoc, List.cons_append]
    exact hu.append (hw.bracket (v := []) rfl)

/-- As many brackets are open as there are places. -/
theorem levelBehind? (h : OpenBehind u places) : levelBehind? 0 u = some places.length := by
  induction h with
  | none hu => exact hu
  | bracket _ hw ih => exact hw.levelBehind?_open ih

end OpenBehind

/-- **What the check finds behind a text**, from the places of its open brackets on. -/
theorem diagnosed_imbalanceFrom {u : List Char} {places : List Nat} (h : OpenBehind u places)
    (text : List Char) : Diagnosed (u ++ text) (imbalanceFrom u.length places text) := by
  induction text generalizing u places with
  | nil =>
    rw [List.append_nil]
    cases h with
    | none hu => exact .balanced hu
    | bracket hu hw => exact .unclosed hu.levelBehind? hw
  | cons c cs ih =>
    have step : ∀ {places}, OpenBehind (u ++ [c]) places →
        Diagnosed (u ++ c :: cs) (imbalanceFrom (u.length + 1) places cs) := fun hc => by
      have found := ih hc
      rwa [List.append_assoc, List.length_append] at found
    unfold imbalanceFrom
    split
    · rename_i hopen
      exact step (hopen ▸ .bracket h rfl)
    · rename_i not_open
      split
      · rename_i hclose
        subst hclose
        cases places with
        | nil => exact .unmatched h.levelBehind?
        | cons place places => exact step h.close
      · rename_i not_close
        refine step (h.append (balanced_of_ne fun d hd => ?_))
        rw [List.mem_singleton.1 hd]
        exact ⟨not_open, not_close⟩

/-- The check of a text gives its diagnosis. -/
theorem diagnosed_imbalance? (text : List Char) : Diagnosed text (imbalance? text) :=
  diagnosed_imbalanceFrom (u := []) (.none rfl) text

/-- **The check passes exactly the balanced texts.** -/
theorem imbalance?_eq_none_iff {text : List Char} : imbalance? text = none ↔ Balanced text := by
  have h := diagnosed_imbalance? text
  generalize imbalance? text = found at h
  cases h with
  | balanced hu => exact ⟨fun _ => hu, fun _ => rfl⟩
  | unmatched hu =>
    refine ⟨nofun, fun hb => ?_⟩
    cases hb.right hu
  | unclosed hu hw =>
    refine ⟨nofun, fun hb => ?_⟩
    cases (hw.levelBehind?_open hu).symm.trans hb

/-! ### Diagnoses by counting -/

/-- A text that can be passed is nowhere closed too often. -/
theorem not_overclosed {text : List Char} {level : Nat} (h : levelBehind? 0 text = some level)
    (i : Nat) : ¬Overclosed text i := by
  rintro ⟨-, less⟩
  have := (levelBehind?_eq_some_iff.1 h).1 _ (List.take_prefix (i + 1) text)
  omega

/-- A closing bracket behind a balanced text is the first that closes nothing. -/
theorem isLeast_overclosed {u : List Char} (hu : Balanced u) (v : List Char) :
    IsLeast {i | Overclosed (u ++ ']' :: v) i} u.length := by
  obtain ⟨starts, closed⟩ := balanced_iff_excess.1 hu
  constructor
  · refine ⟨?_, ?_⟩
    · rw [List.length_append, List.length_cons]
      omega
    · rw [List.take_length_add_append, excess_append, closed, List.take_succ_cons, List.take_zero]
      decide
  · rintro i ⟨-, less⟩
    by_contra before
    rw [List.take_append_of_le_length (by omega)] at less
    have := starts _ (List.take_prefix (i + 1) u)
    omega

/-- A bracket is closed by the closing bracket behind a balanced text. -/
theorem not_neverClosed (u : List Char) {inside : List Char} (hi : Balanced inside)
    (rest : List Char) : ¬NeverClosed (u ++ '[' :: (inside ++ ']' :: rest)) u.length := by
  rintro ⟨-, never⟩
  have whole : u ++ '[' :: (inside ++ ']' :: rest) = (u ++ '[' :: inside) ++ ']' :: rest := by simp
  refine never (u ++ '[' :: inside).length ?_ ?_ ?_ ?_
  · simp only [List.length_append, List.length_cons]
    omega
  · simp only [List.length_append, List.length_cons]
    omega
  · rw [whole]
    simp
  · rw [List.take_left, whole, List.take_length_add_append, List.append_assoc, excess_append]
    have bracket := (balanced_iff_excess.1 (hi.bracket (v := []) rfl)).2
    rw [List.take_succ_cons, List.take_zero, List.cons_append, bracket, Int.add_zero]

/-- Of the brackets that are never closed the last one has a balanced text behind it. -/
theorem isGreatest_neverClosed (u : List Char) {w : List Char} (hw : Balanced w) :
    IsGreatest {i | NeverClosed (u ++ '[' :: w) i} u.length := by
  constructor
  · refine ⟨by simp, fun j _ hj _ => ?_⟩
    obtain ⟨k, rfl⟩ : ∃ k, j = u.length + k := ⟨j - u.length, by omega⟩
    have := (balanced_iff_excess.1 hw).1 _ (List.take_prefix k w)
    rw [Nat.add_assoc, List.take_length_add_append, List.take_succ_cons, List.take_left,
      excess_append, excess_open]
    omega
  · intro i never
    by_contra behind
    -- The bracket stands in the balanced text, where it is closed.
    obtain ⟨k, rfl⟩ : ∃ k, i = u.length + (k + 1) := ⟨i - u.length - 1, by omega⟩
    have hopen := never.1
    rw [List.getElem?_append_right (by omega), Nat.add_sub_cancel_left,
      List.getElem?_cons_succ] at hopen
    obtain ⟨before, v, rfl, rfl⟩ := Text.exists_eq_append_of_getElem? hopen
    obtain ⟨inside, rest, hu⟩ := hw.exists_untilClose
    obtain ⟨rfl, hi⟩ := untilClose_eq_some_iff.1 hu
    refine not_neverClosed (u ++ '[' :: before) hi rest ?_
    rw [List.append_assoc, List.cons_append, List.length_append, List.length_cons]
    exact never

example : NeverClosed "A`2[[B[]".toList 4 ∧ ¬NeverClosed "A`2[[B[]".toList 6 := by decide

/-! ### The fault of a name -/

/-- What the check finds, by counting. -/
theorem imbalance?_cases (text : List Char) :
    (∃ i, imbalance? text = some (.unmatched i) ∧ IsLeast {i | Overclosed text i} i) ∨
    (∃ i, imbalance? text = some (.unclosed i) ∧ (∀ j, ¬Overclosed text j) ∧ 0 < excess text ∧
      IsGreatest {i | NeverClosed text i} i) ∨
    (imbalance? text = none ∧ (∀ j, ¬Overclosed text j) ∧ excess text = 0) := by
  have h := diagnosed_imbalance? text
  generalize imbalance? text = found at h
  cases h with
  | balanced hu => exact .inr (.inr ⟨rfl, not_overclosed hu, (balanced_iff_excess.1 hu).2⟩)
  | unmatched hu => exact .inl ⟨_, rfl, isLeast_overclosed hu _⟩
  | @unclosed u w level hu hw =>
    have passed := hw.levelBehind?_open hu
    have count := (levelBehind?_eq_some_iff.1 passed).2
    exact .inr (.inl ⟨_, rfl, not_overclosed passed, by omega, isGreatest_neverClosed u hw⟩)

/-- **The brackets of a name decide before anything else, and the bracket at fault is found.**  If
some start of the text closes more brackets than it opens, the bracket that ends the first such
start is unmatched.  If none does and the text opens more brackets than it closes, the last one that
is never closed is reported.  Otherwise the check finds nothing, and the text is read.  What the
check finds is the failure of the name, whatever else is wrong with it. -/
theorem read_unbalanced (limit : Limit) (text : List Char) :
    (∀ i, IsLeast {i | Overclosed text i} i →
      read limit text = .error (.fault ⟨.unmatched, i⟩)) ∧
    ((∀ i, ¬Overclosed text i) → 0 < excess text →
      ∃ i, IsGreatest {i | NeverClosed text i} i ∧
        read limit text = .error (.fault ⟨.unclosed, i⟩)) ∧
    ((∀ i, ¬Overclosed text i) → ¬0 < excess text →
      checkBrackets text = .ok () ∧ read limit text = readAt limit (limit.levels + 1) 0 text) ∧
    (∀ e, checkBrackets text = .error e → read limit text = .error e) ∧
    Reason.unmatched.message = "unmatched ']'" ∧ Reason.unclosed.message = "unclosed '['" := by
  have first : ∀ e, checkBrackets text = .error e → read limit text = .error e := fun e he => by
    rw [read, he]
    rfl
  rcases imbalance?_cases text with ⟨i, found, least⟩ | ⟨i, found, none, more, greatest⟩ |
    ⟨found, none, same⟩
  · have check : checkBrackets text = .error (.fault ⟨.unmatched, i⟩) := by
      rw [checkBrackets, found]
      rfl
    refine ⟨fun j hj => ?_, fun none => absurd least.1 (none i),
      fun none => absurd least.1 (none i), first, rfl, rfl⟩
    rw [hj.unique least]
    exact first _ check
  · have check : checkBrackets text = .error (.fault ⟨.unclosed, i⟩) := by
      rw [checkBrackets, found]
      rfl
    exact ⟨fun j hj => absurd hj.1 (none j), fun _ _ => ⟨i, greatest, first _ check⟩,
      fun _ balanced => absurd more balanced, first, rfl, rfl⟩
  · have check : checkBrackets text = .ok () := by
      rw [checkBrackets, found]
    have whole : read limit text = readAt limit (limit.levels + 1) 0 text := by
      rw [read, check]
      rfl
    exact ⟨fun j hj => absurd hj.1 (none j), fun _ more => by omega, fun _ _ => ⟨check, whole⟩,
      first, rfl, rfl⟩

/-- Both faults are found in names of which other parts are at fault as well: an empty segment, and
an arity of arguments that are not there.  The last name passes the check, and its arguments are
counted. -/
theorem read_unbalanced_names :
    (IsLeast {i | Overclosed ".[A]]`1[[".toList i} 4 ∧
      read .standard ".[A]]`1[[".toList = .error (.fault ⟨.unmatched, 4⟩)) ∧
    ((∀ i, ¬Overclosed "A`2[[B[]".toList i) ∧ 0 < excess "A`2[[B[]".toList ∧
      ∃ i, IsGreatest {i | NeverClosed "A`2[[B[]".toList i} i ∧
        read .standard "A`2[[B[]".toList = .error (.fault ⟨.unclosed, i⟩)) ∧
    ((∀ i, ¬Overclosed "A`1[]".toList i) ∧ ¬0 < excess "A`1[]".toList ∧
      checkBrackets "A`1[]".toList = .ok () ∧
      read .standard "A`1[]".toList = readAt .standard 65 0 "A`1[]".toList) ∧
    checkBrackets "A`2[[B[]".toList = .error (.fault ⟨.unclosed, 4⟩) ∧
      read .standard "A`2[[B[]".toList = .error (.fault ⟨.unclosed, 4⟩) := by
  have least : IsLeast {i | Overclosed ".[A]]`1[[".toList i} 4 :=
    isLeast_overclosed (u := ".[A]".toList) rfl "`1[[".toList
  have two : levelBehind? 0 "A`2[[B[]".toList = some 2 := rfl
  have closed : levelBehind? 0 "A`1[]".toList = some 0 := rfl
  have some_open : 0 < excess "A`2[[B[]".toList := by decide
  have none_open : ¬0 < excess "A`1[]".toList := by decide
  exact ⟨⟨least, (read_unbalanced .standard _).1 4 least⟩,
    ⟨not_overclosed two, some_open,
      (read_unbalanced .standard _).2.1 (not_overclosed two) some_open⟩,
    ⟨not_overclosed closed, none_open,
      (read_unbalanced .standard _).2.2.1 (not_overclosed closed) none_open⟩,
    rfl, (read_unbalanced .standard _).2.2.2.1 _ rfl⟩

end Name
end TypeMismatch
