import Mathlib.Tactic.SplitIfs
import TypeMismatch.Name.Bracket
import TypeMismatch.Proofs.Text

/-!
# Balanced texts and their own commas

A text is read from a level, the number of brackets that are open before it (`levelBehind?`).  Text
that keeps every bracket it meets open or closes it again can be passed over: what a reader does
with a longer text then depends on the level behind it alone, and that level is what counting
brackets gives (`levelBehind?_eq_some_iff`).  That is the one induction of this file, made once for
each of the two readers of arguments (`_matching_bracket` and `_split_arguments`):

* the inside of a bracket is the balanced text up to the bracket that closes it
  (`untilClose_eq_some_iff`);
* the inside is cut at the commas of its own level: tokens joined by commas are cut into these
  tokens again (`splitOwn_intercalate`), and what was cut gives back the inside
  (`intercalate_splitOwn`).
-/

namespace TypeMismatch
namespace Name

/-- How many brackets are open behind a character, unless it closes one that is not open. -/
def pass? (level : Nat) (c : Char) : Option Nat :=
  if c = '[' then some (level + 1)
  else if c = ']' then
    match level with
    | 0 => none
    | level + 1 => some level
  else some level

/-- How many brackets are open behind a text, if so many are open before it as `level` says, unless
it closes one that is not open. -/
def levelBehind? (level : Nat) (text : List Char) : Option Nat := text.foldlM pass? level

/-- How many more brackets a text opens than it closes. -/
def excess (text : List Char) : Int := text.count '[' - text.count ']'

/-- Whether every bracket of a text is closed in it and opened in it. -/
def Balanced (text : List Char) : Prop := levelBehind? 0 text = some 0

instance (text : List Char) : Decidable (Balanced text) :=
  inferInstanceAs (Decidable (levelBehind? 0 text = some 0))

/-- How many commas of a text stand where no bracket is open. -/
def ownCommas (level : Nat) : List Char → Nat
  | [] => 0
  | c :: cs =>
    if c = ',' ∧ level = 0 then ownCommas level cs + 1 else ownCommas (levelAfter level c) cs

/-- A text that can stand between two commas: balanced, and without a comma of its own level. -/
structure IsToken (text : List Char) : Prop where
  balanced : Balanced text
  ownCommas : ownCommas 0 text = 0

/-! ### The level behind a text -/

/-- Any character but a bracket leaves the level. -/
theorem pass?_of_ne {c : Char} (h : c ≠ '[' ∧ c ≠ ']') (level : Nat) :
    pass? level c = some level := by
  unfold pass?
  rw [if_neg h.1, if_neg h.2]

/-- Only a closing bracket at level zero cannot be passed. -/
theorem pass?_eq_none {level : Nat} {c : Char} (h : pass? level c = none) :
    level = 0 ∧ c = ']' := by
  unfold pass? at h
  split_ifs at h with ho hc
  cases level with
  | zero => exact ⟨rfl, hc⟩
  | succ level => cases h

/-- A character changes every higher level alike. -/
theorem pass?_add {level behind : Nat} {c : Char} (h : pass? level c = some behind) (k : Nat) :
    pass? (level + k) c = some (behind + k) := by
  unfold pass? at h ⊢
  split_ifs at h ⊢
  · obtain rfl := Option.some.inj h
    rw [Nat.add_right_comm]
  · cases level with
    | zero => cases h
    | succ level =>
      obtain rfl := Option.some.inj h
      rw [Nat.add_right_comm]
  · obtain rfl := Option.some.inj h
    rfl

/-- The level behind a character is what passing it gives. -/
theorem levelAfter_of_pass? {level behind : Nat} {c : Char} (h : pass? level c = some behind) :
    levelAfter level c = behind := by
  unfold pass? at h
  unfold levelAfter
  split_ifs at h ⊢
  · exact Option.some.inj h
  · cases level with
    | zero => cases h
    | succ level => exact Option.some.inj h
  · exact Option.some.inj h

/-- The level behind a text is found character by character. -/
theorem levelBehind?_cons (level : Nat) (c : Char) (cs : List Char) :
    levelBehind? level (c :: cs) = (pass? level c).bind (levelBehind? · cs) := rfl

/-- The level behind two texts is found one after the other. -/
theorem levelBehind?_append (level : Nat) (u v : List Char) :
    levelBehind? level (u ++ v) = (levelBehind? level u).bind (levelBehind? · v) :=
  List.foldlM_append

/-- Text without brackets leaves the level as it is. -/
theorem levelBehind?_of_ne {u : List Char} (h : ∀ c ∈ u, c ≠ '[' ∧ c ≠ ']') (level : Nat) :
    levelBehind? level u = some level := by
  induction u with
  | nil => rfl
  | cons c cs ih =>
    rw [levelBehind?_cons, pass?_of_ne (h c List.mem_cons_self)]
    exact ih fun d hd => h d (List.mem_cons_of_mem _ hd)

/-- The level behind a text counts from the level before it. -/
theorem levelBehind?_add {level behind : Nat} {u : List Char}
    (h : levelBehind? level u = some behind) (k : Nat) :
    levelBehind? (level + k) u = some (behind + k) := by
  induction u generalizing level with
  | nil =>
    obtain rfl := Option.some.inj h
    rfl
  | cons c cs ih =>
    rw [levelBehind?_cons] at h ⊢
    obtain ⟨next, hc, hcs⟩ := Option.bind_eq_some_iff.1 h
    rw [pass?_add hc]
    exact ih hcs

/-- The excess of opening brackets adds up. -/
theorem excess_append (u v : List Char) : excess (u ++ v) = excess u + excess v := by
  unfold excess
  rw [List.count_append, List.count_append]
  omega

/-- It adds up character by character. -/
theorem excess_cons (c : Char) (cs : List Char) : excess (c :: cs) = excess [c] + excess cs :=
  excess_append [c] cs

/-- An opening bracket is one more. -/
theorem excess_open (cs : List Char) : excess ('[' :: cs) = 1 + excess cs := excess_cons '[' cs

/-- Passing a character adds its excess to the level. -/
theorem pass?_eq_some_iff {level behind : Nat} {c : Char} :
    pass? level c = some behind ↔ (behind : Int) = level + excess [c] := by
  unfold pass?
  split_ifs with ho hc
  · subst ho
    have one : excess ['['] = 1 := rfl
    rw [Option.some.injEq, one]
    omega
  · subst hc
    have one : excess [']'] = -1 := rfl
    rw [one]
    cases level with
    | zero =>
      refine ⟨fun h => ?_, fun h => ?_⟩
      · cases h
      · omega
    | succ level =>
      rw [Option.some.injEq]
      omega
  · have zero : excess [c] = 0 := by simp [excess, ho, hc]
    rw [Option.some.injEq, zero]
    omega

/-- **The level is what counting gives**, as long as no start of the text closes more brackets than
are open before it and it opens. -/
theorem levelBehind?_eq_some_iff {level behind : Nat} {u : List Char} :
    levelBehind? level u = some behind ↔
      (∀ v, v <+: u → 0 ≤ level + excess v) ∧ (behind : Int) = level + excess u := by
  induction u generalizing level with
  | nil =>
    have none : levelBehind? level [] = some level := rfl
    have zero : excess [] = 0 := rfl
    simp only [none, Option.some.injEq, List.prefix_nil, forall_eq, zero]
    omega
  | cons c cs ih =>
    have whole := excess_cons c cs
    rw [levelBehind?_cons, Option.bind_eq_some_iff]
    constructor
    · rintro ⟨next, hc, hcs⟩
      have hc := pass?_eq_some_iff.1 hc
      obtain ⟨starts, hb⟩ := ih.1 hcs
      refine ⟨fun v hv => ?_, by omega⟩
      rcases List.prefix_cons_iff.1 hv with rfl | ⟨t, rfl, ht⟩
      · exact Int.natCast_nonneg level
      · have := starts t ht
        rw [excess_cons]
        omega
    · rintro ⟨starts, hb⟩
      have first := starts [c] ⟨cs, rfl⟩
      refine ⟨(level + excess [c]).toNat, pass?_eq_some_iff.2 (Int.toNat_of_nonneg first),
        ih.2 ⟨fun v hv => ?_, by omega⟩⟩
      have := starts (c :: v) (List.cons_prefix_cons.2 ⟨rfl, hv⟩)
      rw [excess_cons] at this
      omega

/-- A text is balanced if it closes as many brackets as it opens, and no start of it closes more. -/
theorem balanced_iff_excess {u : List Char} :
    Balanced u ↔ (∀ v, v <+: u → 0 ≤ excess v) ∧ excess u = 0 := by
  rw [Balanced, levelBehind?_eq_some_iff]
  simp only [Int.natCast_zero, Int.zero_add, eq_comm]

/-- A text without brackets is balanced. -/
theorem balanced_of_ne {u : List Char} (h : ∀ c ∈ u, c ≠ '[' ∧ c ≠ ']') : Balanced u :=
  levelBehind?_of_ne h 0

/-- Balanced texts are balanced one after the other. -/
theorem Balanced.append {u v : List Char} (hu : Balanced u) (hv : Balanced v) :
    Balanced (u ++ v) := by
  rw [Balanced, levelBehind?_append, hu]
  exact hv

/-- A balanced text leaves the level as it is. -/
theorem Balanced.levelBehind? {u : List Char} (hu : Balanced u) (level : Nat) :
    levelBehind? level u = some level := by
  simpa only [Nat.zero_add] using levelBehind?_add hu level

/-- What stands behind a balanced text in a balanced text is balanced. -/
theorem Balanced.right {u v : List Char} (h : Balanced (u ++ v)) (hu : Balanced u) :
    Balanced v := by
  rwa [Balanced, levelBehind?_append, hu] at h

/-- What stands before a balanced text in a balanced text is balanced. -/
theorem Balanced.left {u v : List Char} (h : Balanced (u ++ v)) (hv : Balanced v) :
    Balanced u := by
  rw [Balanced, levelBehind?_append] at h
  obtain ⟨level, hl, h⟩ := Option.bind_eq_some_iff.1 h
  rw [hv.levelBehind? level] at h
  rwa [Option.some.inj h] at hl

/-- An opening bracket and a balanced text behind it leave one more bracket open. -/
theorem Balanced.levelBehind?_open {u v : List Char} {level : Nat} (hv : Balanced v)
    (hu : Name.levelBehind? 0 u = some level) :
    Name.levelBehind? 0 (u ++ '[' :: v) = some (level + 1) := by
  rw [levelBehind?_append, hu]
  exact hv.levelBehind? (level + 1)

/-- A balanced text in brackets is balanced. -/
theorem Balanced.bracket {u v : List Char} (hu : Balanced u) (hv : Balanced v) :
    Balanced ('[' :: (u ++ ']' :: v)) := by
  rw [Balanced, levelBehind?_cons]
  change Name.levelBehind? 1 (u ++ ']' :: v) = some 0
  rw [levelBehind?_append, hu.levelBehind?]
  exact hv

/-- Balanced texts joined by commas are balanced. -/
theorem balanced_intercalate {parts : List (List Char)} (h : ∀ x ∈ parts, Balanced x) :
    Balanced ([','].intercalate parts) := by
  induction parts with
  | nil => rfl
  | cons x xs ih =>
    have hx := h x List.mem_cons_self
    have hxs := ih fun y hy => h y (List.mem_cons_of_mem _ hy)
    cases xs with
    | nil => simpa only [List.intercalate_singleton] using hx
    | cons y ys =>
      rw [List.intercalate_cons_cons]
      exact (hx.append (show Balanced [','] by decide)).append hxs

/-! ### The inside of a bracket -/

/-- A character that can be passed belongs to the inside. -/
theorem untilClose_cons {level behind : Nat} {c : Char} (h : pass? level c = some behind)
    (cs : List Char) :
    untilClose level (c :: cs) = (untilClose behind cs).map fun (i, r) => (c :: i, r) := by
  unfold pass? at h
  split_ifs at h with ho hc
  · obtain rfl := Option.some.inj h
    rw [ho]
    rfl
  · cases level with
    | zero => cases h
    | succ level =>
      obtain rfl := Option.some.inj h
      rw [hc]
      rfl
  · obtain rfl := Option.some.inj h
    cases level <;> simp only [untilClose, if_neg ho, if_neg hc]

/-- **The closing bracket is where the level is reached again.**  The inside is what leads from the
level to zero, and the rest is what stands behind the bracket that follows it. -/
theorem untilClose_eq_some_iff {level : Nat} {text inside behind : List Char} :
    untilClose level text = some (inside, behind) ↔
      text = inside ++ ']' :: behind ∧ levelBehind? level inside = some 0 := by
  induction text generalizing level inside with
  | nil => simp [untilClose]
  | cons c cs ih =>
    cases h : pass? level c with
    | none =>
      obtain ⟨rfl, rfl⟩ := pass?_eq_none h
      cases inside with
      | nil => simp [untilClose, levelBehind?, eq_comm]
      | cons d i =>
        have hd : d = ']' → levelBehind? 0 (d :: i) = none := fun e => by rw [e]; rfl
        simp only [untilClose, List.cons_append, List.cons.injEq]
        grind
    | some next =>
      rw [untilClose_cons h, Option.map_eq_some_iff]
      constructor
      · rintro ⟨⟨i, r⟩, hu, he⟩
        obtain ⟨rfl, rfl⟩ := Prod.mk.inj he
        obtain ⟨rfl, hi⟩ := ih.1 hu
        exact ⟨rfl, by rw [levelBehind?_cons, h]; exact hi⟩
      · rintro ⟨he, hi⟩
        cases inside with
        | nil =>
          obtain ⟨rfl, rfl⟩ := List.cons.inj he
          -- A closing bracket can be passed at a positive level only.
          obtain rfl := Option.some.inj hi
          cases h
        | cons d i =>
          obtain ⟨rfl, rfl⟩ := List.cons.inj he
          rw [levelBehind?_cons, h] at hi
          exact ⟨(i, behind), ih.2 ⟨rfl, hi⟩, rfl⟩

/-- The closing bracket is missing from the texts that can be passed from the level. -/
theorem untilClose_eq_none_iff {level : Nat} {text : List Char} :
    untilClose level text = none ↔ ∃ behind, levelBehind? level text = some behind := by
  induction text generalizing level with
  | nil => exact ⟨fun _ => ⟨level, rfl⟩, fun _ => rfl⟩
  | cons c cs ih =>
    rw [levelBehind?_cons]
    cases h : pass? level c with
    | none =>
      obtain ⟨rfl, rfl⟩ := pass?_eq_none h
      simp [untilClose]
    | some next =>
      rw [untilClose_cons h, Option.map_eq_none_iff]
      exact ih

/-- **A bracket that opens in a balanced text is closed in it.** -/
theorem Balanced.exists_untilClose {u v : List Char} (h : Balanced (u ++ '[' :: v)) :
    ∃ inside behind, untilClose 0 v = some (inside, behind) := by
  rw [Balanced, levelBehind?_append] at h
  obtain ⟨level, -, hv⟩ := Option.bind_eq_some_iff.1 h
  change Name.levelBehind? (level + 1) v = some 0 at hv
  cases hu : untilClose 0 v with
  | some found => exact ⟨found.1, found.2, rfl⟩
  | none =>
    obtain ⟨left, hl⟩ := untilClose_eq_none_iff.1 hu
    have passed := levelBehind?_add hl (level + 1)
    rw [Nat.zero_add, hv] at passed
    have := Option.some.inj passed
    omega

/-! ### Tokens -/

/-- A character that is no comma of its own is not counted. -/
theorem ownCommas_cons {level behind : Nat} {c : Char} (h : pass? level c = some behind)
    (hc : ¬(c = ',' ∧ level = 0)) (cs : List Char) :
    ownCommas level (c :: cs) = ownCommas behind cs := by
  rw [ownCommas, if_neg hc, levelAfter_of_pass? h]

/-- The commas of two texts add up, counted at the levels where they stand. -/
theorem ownCommas_append {level behind : Nat} {u : List Char}
    (h : levelBehind? level u = some behind) (v : List Char) :
    ownCommas level (u ++ v) = ownCommas level u + ownCommas behind v := by
  induction u generalizing level with
  | nil =>
    obtain rfl := Option.some.inj h
    rw [List.nil_append, ownCommas, Nat.zero_add]
  | cons c cs ih =>
    rw [levelBehind?_cons] at h
    obtain ⟨next, hc, hcs⟩ := Option.bind_eq_some_iff.1 h
    rw [List.cons_append]
    by_cases hcomma : c = ',' ∧ level = 0
    · obtain ⟨rfl, rfl⟩ := hcomma
      obtain rfl := Option.some.inj hc
      rw [ownCommas, ownCommas, if_pos ⟨rfl, rfl⟩, if_pos ⟨rfl, rfl⟩, ih hcs]
      omega
    · rw [ownCommas_cons hc hcomma, ownCommas_cons hc hcomma, ih hcs]

/-- Inside a bracket a comma is not on the own level. -/
theorem ownCommas_succ {level behind : Nat} {u : List Char}
    (h : levelBehind? level u = some behind) : ownCommas (level + 1) u = 0 := by
  induction u generalizing level with
  | nil => rfl
  | cons c cs ih =>
    rw [levelBehind?_cons] at h
    obtain ⟨next, hc, hcs⟩ := Option.bind_eq_some_iff.1 h
    rw [ownCommas_cons (pass?_add hc 1) (by omega)]
    exact ih hcs

/-- A text without brackets and commas is a token. -/
theorem isToken_of_ne {u : List Char} (h : ∀ c ∈ u, c ≠ '[' ∧ c ≠ ']' ∧ c ≠ ',') : IsToken u := by
  refine ⟨balanced_of_ne fun c hc => ⟨(h c hc).1, (h c hc).2.1⟩, ?_⟩
  induction u with
  | nil => rfl
  | cons c cs ih =>
    have hc := h c List.mem_cons_self
    rw [ownCommas_cons (pass?_of_ne ⟨hc.1, hc.2.1⟩ 0) fun e => hc.2.2 e.1]
    exact ih fun d hd => h d (List.mem_cons_of_mem _ hd)

/-- Tokens one after the other are a token. -/
theorem IsToken.append {u v : List Char} (hu : IsToken u) (hv : IsToken v) : IsToken (u ++ v) := by
  refine ⟨hu.balanced.append hv.balanced, ?_⟩
  rw [ownCommas_append hu.balanced, hu.ownCommas, hv.ownCommas]

/-- A balanced text in brackets is a token, whatever commas it has. -/
theorem IsToken.bracket {u v : List Char} (hu : Balanced u) (hv : IsToken v) :
    IsToken ('[' :: (u ++ ']' :: v)) := by
  refine ⟨hu.bracket hv.balanced, ?_⟩
  have hopen : pass? 0 '[' = some 1 := rfl
  have hclose : pass? 1 ']' = some 0 := rfl
  rw [ownCommas_cons hopen (by decide), ownCommas_append (hu.levelBehind? 1), ownCommas_succ hu,
    ownCommas_cons hclose (by decide), hv.ownCommas]

/-! ### The parts between commas -/

/-- A character that does not split a text belongs to its first part. -/
theorem splitOwn_cons {level : Nat} {c : Char} (hc : ¬(c = ',' ∧ level = 0)) (cs : List Char) :
    splitOwn level (c :: cs) =
      match splitOwn (levelAfter level c) cs with
      | [] => [[c]]
      | part :: parts => (c :: part) :: parts :=
  if_neg (by simpa using hc)

/-- A comma outside of brackets ends the part before it. -/
theorem splitOwn_comma (cs : List Char) : splitOwn 0 (',' :: cs) = [] :: splitOwn 0 cs := rfl

/-- Splitting at commas gives at least one part. -/
theorem splitOwn_ne_nil (level : Nat) (text : List Char) : splitOwn level text ≠ [] := by
  cases text with
  | nil => exact List.cons_ne_nil _ _
  | cons c cs =>
    by_cases hc : c = ',' ∧ level = 0
    · obtain ⟨rfl, rfl⟩ := hc
      exact List.cons_ne_nil _ _
    · rw [splitOwn_cons hc]
      split <;> exact List.cons_ne_nil _ _

/-- Joined by commas, the parts of a text give back the text. -/
theorem intercalate_splitOwn (level : Nat) (text : List Char) :
    [','].intercalate (splitOwn level text) = text := by
  induction text generalizing level with
  | nil => rfl
  | cons c cs ih =>
    by_cases hc : c = ',' ∧ level = 0
    · obtain ⟨rfl, rfl⟩ := hc
      rw [splitOwn_comma, List.intercalate_cons_of_ne_nil (splitOwn_ne_nil 0 cs), ih]
      rfl
    · have hcs := ih (levelAfter level c)
      rw [splitOwn_cons hc]
      split
      · rename_i h
        exact absurd h (splitOwn_ne_nil _ cs)
      · rename_i h
        rw [List.intercalate_cons_cons_left, ← h, hcs]

/-- There is one part more than there are commas of the own level. -/
theorem length_splitOwn (level : Nat) (text : List Char) :
    (splitOwn level text).length = ownCommas level text + 1 := by
  induction text generalizing level with
  | nil => rfl
  | cons c cs ih =>
    by_cases hc : c = ',' ∧ level = 0
    · obtain ⟨rfl, rfl⟩ := hc
      rw [splitOwn_comma, List.length_cons, ih]
      rfl
    · have hcs := ih (levelAfter level c)
      rw [splitOwn_cons hc, ownCommas, if_neg hc, ← hcs]
      split
      · rename_i h
        exact absurd h (splitOwn_ne_nil _ cs)
      · rename_i h
        rw [h]
        rfl

/-- What is cut from a text behind which no bracket is open: a first part behind which none is
open either, and tokens, none of them with a comma of its own level. -/
theorem exists_splitOwn_eq {level : Nat} {text : List Char} (h : levelBehind? level text = some 0) :
    ∃ part parts, splitOwn level text = part :: parts ∧ levelBehind? level part = some 0 ∧
      ownCommas level part = 0 ∧ ∀ x ∈ parts, IsToken x := by
  induction text generalizing level with
  | nil =>
    obtain rfl := Option.some.inj h
    exact ⟨[], [], rfl, rfl, rfl, fun x hx => absurd hx List.not_mem_nil⟩
  | cons c cs ih =>
    rw [levelBehind?_cons] at h
    obtain ⟨next, hc, hcs⟩ := Option.bind_eq_some_iff.1 h
    obtain ⟨part, parts, hs, hl, ho, hp⟩ := ih hcs
    by_cases hcomma : c = ',' ∧ level = 0
    · obtain ⟨rfl, rfl⟩ := hcomma
      obtain rfl := Option.some.inj hc
      exact ⟨[], splitOwn 0 cs, rfl, rfl, rfl, hs ▸ List.forall_mem_cons.2 ⟨⟨hl, ho⟩, hp⟩⟩
    · refine ⟨c :: part, parts, ?_, ?_, ?_, hp⟩
      · rw [splitOwn_cons hcomma, levelAfter_of_pass? hc, hs]
      · rw [levelBehind?_cons, hc]
        exact hl
      · rw [ownCommas_cons hc hcomma, ho]

/-- **The parts of a balanced text are tokens.** -/
theorem isToken_of_mem_splitOwn {text part : List Char} (h : Balanced text)
    (hp : part ∈ splitOwn 0 text) : IsToken part := by
  obtain ⟨first, parts, hs, hl, ho, hparts⟩ := exists_splitOwn_eq h
  rw [hs] at hp
  rcases List.mem_cons.1 hp with rfl | hp
  · exact ⟨hl, ho⟩
  · exact hparts part hp

/-- Text without commas of its own level belongs to the first part of what follows it. -/
theorem splitOwn_append {level behind : Nat} {u : List Char}
    (h : levelBehind? level u = some behind) (hu : ownCommas level u = 0) (v : List Char) :
    splitOwn level (u ++ v) = (splitOwn behind v).modifyHead (u ++ ·) := by
  induction u generalizing level with
  | nil =>
    obtain rfl := Option.some.inj h
    cases hv : splitOwn level v with
    | nil => rw [List.nil_append, hv]; rfl
    | cons part parts => rw [List.nil_append, hv]; rfl
  | cons c cs ih =>
    rw [levelBehind?_cons] at h
    obtain ⟨next, hc, hcs⟩ := Option.bind_eq_some_iff.1 h
    have hcomma : ¬(c = ',' ∧ level = 0) := by
      intro e
      rw [ownCommas, if_pos e] at hu
      omega
    rw [ownCommas_cons hc hcomma] at hu
    rw [List.cons_append, splitOwn_cons hcomma, levelAfter_of_pass? hc, ih hcs hu]
    cases hv : splitOwn behind v with
    | nil => exact absurd hv (splitOwn_ne_nil behind v)
    | cons part parts => rfl

/-- **Tokens joined by commas are cut into these tokens again.** -/
theorem splitOwn_intercalate {parts : List (List Char)} (ne : parts ≠ [])
    (h : ∀ x ∈ parts, IsToken x) : splitOwn 0 ([','].intercalate parts) = parts := by
  induction parts with
  | nil => exact absurd rfl ne
  | cons x xs ih =>
    have hx := h x List.mem_cons_self
    cases xs with
    | nil =>
      have hs := splitOwn_append hx.balanced hx.ownCommas []
      rw [List.append_nil] at hs
      rw [List.intercalate_singleton, hs]
      exact congrArg (fun y => [y]) (List.append_nil x)
    | cons y ys =>
      rw [List.intercalate_cons_cons, List.append_assoc,
        splitOwn_append hx.balanced hx.ownCommas, List.singleton_append, splitOwn_comma,
        ih (List.cons_ne_nil _ _) fun z hz => h z (List.mem_cons_of_mem _ hz)]
      exact congrArg (· :: y :: ys) (List.append_nil x)

end Name
end TypeMismatch
