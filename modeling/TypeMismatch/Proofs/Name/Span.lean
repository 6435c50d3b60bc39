import TypeMismatch.Proofs.Name.Fault

/-!
# A bracket and the one that closes it, by places

The reader hands texts on: the inside of a bracket, and the parts between the commas of its own
level.  Here both are places in a source.  A bracket is closed (`_matching_bracket`) at the first
place through which the text from the bracket on is balanced (`IsClosedAt`), and there is one such
place at most.  The spans of the arguments (`_split_arguments`) follow each other from the place
behind the bracket on, each one place behind the last one, where the comma stands; so they hold the
arguments, and joined by commas these are the whole region between the two brackets
(`map_text_spansFrom`).

A comma is on the own level of the region if the region is balanced up to it (`IsOwnComma`), and the
reader's count of open brackets finds these commas and no others (`ownCommas_eq_countP`).  So the
search for the closing bracket and the search for commas agree on what the own level of a bracket is
(`closed_region_splits`).
-/

namespace TypeMismatch
namespace Name

/-- A part of a source, from a place up to another. -/
structure Span where
  first : Nat
  last : Nat
deriving DecidableEq, Repr

/-- What stands in a span of a source. -/
def Span.text (source : List Char) (span : Span) : List Char := source.extract span.first span.last

/-- The spans of parts that follow each other from a place on, with a comma between two. -/
def spansFrom (place : Nat) : List (List Char) → List Span
  | [] => []
  | part :: parts => ⟨place, place + part.length⟩ :: spansFrom (place + part.length + 1) parts

/-- The spans of the arguments in a region of a source. -/
def argumentSpans (source : List Char) (region : Span) : List Span :=
  spansFrom region.first (argumentsIn (region.text source))

/-- The place of the bracket that closes the one at a place, if it stands before the end. -/
def closing? (source : List Char) (place stop : Nat) : Option Nat :=
  (untilClose 0 (source.extract (place + 1) stop)).map fun (inside, _) => place + 1 + inside.length

/-- Whether a source is balanced from one place through another, and from there through no place
before it. -/
structure IsClosedAt (source : List Char) (i j : Nat) : Prop where
  le : i ≤ j
  lt_length : j < source.length
  balanced : Balanced (source.extract i (j + 1))
  not_before : ∀ k, i ≤ k → k < j → ¬Balanced (source.extract i (k + 1))

/-- Whether a comma stands at a place of a text, up to which the text is balanced. -/
def IsOwnComma (text : List Char) (place : Nat) : Prop :=
  text[place]? = some ',' ∧ Balanced (text.take place)

instance (text : List Char) (place : Nat) : Decidable (IsOwnComma text place) :=
  inferInstanceAs (Decidable (_ ∧ _))

/-- How many places of a text hold a comma of its own level. -/
def ownCommaCount (text : List Char) : Nat :=
  (List.range text.length).countP fun place => IsOwnComma text place

/-- Whether spans cut a region of a source at its own commas: joined by commas, their texts are the
region; each of them is balanced and has no own comma; and there is one more of them than there are
own commas in the region. -/
structure Cuts (source : List Char) (region : Span) (spans : List Span) : Prop where
  joined : [','].intercalate (spans.map (Span.text source)) = region.text source
  balanced : ∀ span ∈ spans, Balanced (span.text source)
  not_isOwnComma : ∀ span ∈ spans, ∀ place, ¬IsOwnComma (span.text source) place
  length_eq : spans.length = ownCommaCount (region.text source) + 1

/-! ### Own commas -/

/-- The commas of a text are counted where the level is zero. -/
theorem ownCommas_eq_countP_of_level {level behind : Nat} {text : List Char}
    (h : levelBehind? level text = some behind) :
    ownCommas level text = (List.range text.length).countP fun place =>
      text[place]? = some ',' ∧ levelBehind? level (text.take place) = some 0 := by
  induction text generalizing level with
  | nil => rfl
  | cons c cs ih =>
    rw [levelBehind?_cons] at h
    obtain ⟨next, hc, hcs⟩ := Option.bind_eq_some_iff.1 h
    have later : ∀ place, levelBehind? level ((c :: cs).take (place + 1)) =
        levelBehind? next (cs.take place) := fun place => by
      rw [List.take_succ_cons, levelBehind?_cons, hc]
      rfl
    rw [List.length_cons, List.range_succ_eq_map, List.countP_cons, List.countP_map]
    simp only [Function.comp_def, Nat.succ_eq_add_one, later, List.getElem?_cons_succ, ← ih hcs]
    have here : levelBehind? level [] = some level := rfl
    by_cases hcomma : c = ',' ∧ level = 0
    · obtain ⟨rfl, rfl⟩ := hcomma
      obtain rfl := Option.some.inj hc
      simp [ownCommas, here]
    · rw [ownCommas_cons hc hcomma]
      simpa [here] using hcomma

/-- **The own commas are those that are counted where no bracket is open.** -/
theorem ownCommas_eq_countP {text : List Char} (h : Balanced text) :
    ownCommas 0 text = ownCommaCount text :=
  ownCommas_eq_countP_of_level h

/-- A token has no comma of its own. -/
theorem not_isOwnComma {text : List Char} (h : IsToken text) (place : Nat) :
    ¬IsOwnComma text place := by
  intro own
  have none := ownCommas_eq_countP h.balanced
  rw [h.ownCommas] at none
  have lt := (List.getElem?_eq_some_iff.1 own.1).1
  exact List.countP_eq_zero.1 none.symm place (List.mem_range.2 lt) (decide_eq_true own)

/-! ### Spans -/

/-- What stands between two texts. -/
theorem text_between (u x v : List Char) :
    Span.text (u ++ (x ++ v)) ⟨u.length, u.length + x.length⟩ = x := by
  rw [Span.text, List.extract_eq_take_drop, List.drop_left, Nat.add_sub_cancel_left, List.take_left]

/-- There is a span for each part. -/
theorem length_spansFrom (place : Nat) (parts : List (List Char)) :
    (spansFrom place parts).length = parts.length := by
  induction parts generalizing place with
  | nil => rfl
  | cons part parts ih => rw [spansFrom, List.length_cons, List.length_cons, ih]

/-- The spans of parts that are joined by commas hold these parts. -/
theorem map_text_spansFrom (u : List Char) (parts : List (List Char)) (v : List Char) :
    (spansFrom u.length parts).map (Span.text (u ++ ([','].intercalate parts ++ v))) = parts := by
  induction parts generalizing u with
  | nil => rfl
  | cons x xs ih =>
    rw [spansFrom, List.map_cons]
    cases xs with
    | nil => rw [List.intercalate_singleton, text_between, spansFrom, List.map_nil]
    | cons y ys =>
      have tail := ih (u ++ (x ++ [',']))
      have length : (u ++ (x ++ [','])).length = u.length + x.length + 1 := by simp; omega
      rw [length, List.append_assoc] at tail
      rw [List.intercalate_cons_cons, List.append_assoc, List.append_assoc, text_between,
        ← List.append_assoc x, tail]

/-- Arguments are read span by span. -/
theorem readAll_eq_mapM (read : Nat → List Char → Except Failure Signature) {source : List Char}
    {place : Nat} {parts : List (List Char)}
    (h : (spansFrom place parts).map (Span.text source) = parts) :
    readAll read place parts =
      (spansFrom place parts).mapM fun span => read span.first (span.text source) := by
  induction parts generalizing place with
  | nil => rfl
  | cons part parts ih =>
    rw [spansFrom, List.map_cons] at h
    obtain ⟨head, tail⟩ := List.cons.inj h
    rw [readAll, spansFrom, List.mapM_cons, head, ih tail]

/-! ### Closing brackets -/

/-- At most one bracket closes another. -/
theorem IsClosedAt.unique {source : List Char} {i j k : Nat} (hj : IsClosedAt source i j)
    (hk : IsClosedAt source i k) : j = k := by
  rcases Nat.lt_trichotomy j k with lt | eq | lt
  · exact absurd hj.balanced (hk.not_before j hj.le lt)
  · exact eq
  · exact absurd hk.balanced (hj.not_before k hk.le lt)

/-- What stands in a source from a character on, through a place behind it. -/
theorem extract_cons (u : List Char) (c : Char) (v : List Char) (m : Nat) :
    (u ++ c :: v).extract u.length (u.length + m + 1) = c :: v.take m := by
  rw [List.extract_eq_take_drop, List.drop_left, Nat.add_assoc, Nat.add_sub_cancel_left,
    List.take_succ_cons]

/-- The bracket behind a balanced text closes the one before it. -/
theorem isClosedAt_bracket (u : List Char) {inside : List Char} (hi : Balanced inside)
    (rest : List Char) :
    IsClosedAt (u ++ '[' :: (inside ++ ']' :: rest)) u.length (u.length + (inside.length + 1)) where
  le := by omega
  lt_length := by
    simp only [List.length_append, List.length_cons]
    omega
  balanced := by
    rw [extract_cons, List.take_length_add_append, List.take_succ_cons, List.take_zero]
    exact hi.bracket (v := []) rfl
  not_before := by
    intro k hik hkj hb
    obtain ⟨m, rfl⟩ : ∃ m, k = u.length + m := ⟨k - u.length, by omega⟩
    rw [extract_cons, List.take_append_of_le_length (by omega)] at hb
    -- The bracket is open behind every start of the inside.
    have closed := (balanced_iff_excess.1 hb).2
    have start := (balanced_iff_excess.1 hi).1 _ (List.take_prefix m inside)
    rw [excess_open] at closed
    omega

/-- The closing bracket is found in every text that goes on behind it. -/
theorem closing?_bracket (u : List Char) {inside : List Char} (hi : Balanced inside)
    (rest : List Char) {stop : Nat} (h : u.length + (inside.length + 1) < stop) :
    closing? (u ++ '[' :: (inside ++ ']' :: rest)) u.length stop =
      some (u.length + (inside.length + 1)) := by
  obtain ⟨m, rfl⟩ : ∃ m, stop = u.length + 1 + (inside.length + (m + 1)) :=
    ⟨stop - (u.length + 1) - inside.length - 1, by omega⟩
  have behind : (u ++ '[' :: (inside ++ ']' :: rest)).extract (u.length + 1)
      (u.length + 1 + (inside.length + (m + 1))) = inside ++ ']' :: rest.take m := by
    rw [List.extract_eq_take_drop, Nat.add_sub_cancel_left, ← List.drop_drop, List.drop_left,
      List.drop_succ_cons, List.drop_zero, List.take_length_add_append, List.take_succ_cons]
  rw [closing?, behind, untilClose_eq_some_iff.2 ⟨rfl, hi⟩]
  change some (u.length + 1 + inside.length) = _
  rw [Nat.add_assoc, Nat.add_comm 1]

/-! ### The arguments of a region -/

section
variable (u : List Char) {inside : List Char} (v : List Char)

/-- The spans of arguments begin where the region does. -/
theorem argumentSpans_between :
    argumentSpans (u ++ (inside ++ v)) ⟨u.length, u.length + inside.length⟩ =
      spansFrom u.length (argumentsIn inside) := by
  rw [argumentSpans, text_between]

/-- The spans of the arguments hold the arguments. -/
theorem map_text_argumentSpans :
    (argumentSpans (u ++ (inside ++ v)) ⟨u.length, u.length + inside.length⟩).map
      (Span.text (u ++ (inside ++ v))) = argumentsIn inside := by
  rw [argumentSpans_between]
  by_cases hn : 0 < (argumentsIn inside).length
  · have held := map_text_spansFrom u (argumentsIn inside) v
    rwa [intercalate_argumentsIn hn] at held
  · rw [List.length_eq_zero_iff.1 (Nat.eq_zero_of_not_pos hn)]
    rfl

/-- **The spans of the arguments cut a balanced region** that is not blank. -/
theorem cuts_argumentSpans (hi : Balanced inside) (hb : Text.isAllBlank inside = false) :
    Cuts (u ++ (inside ++ v)) ⟨u.length, u.length + inside.length⟩
      (argumentSpans (u ++ (inside ++ v)) ⟨u.length, u.length + inside.length⟩) := by
  have arguments : argumentsIn inside = splitOwn 0 inside := if_neg (by rw [hb]; decide)
  have token : ∀ span ∈ argumentSpans (u ++ (inside ++ v)) ⟨u.length, u.length + inside.length⟩,
      IsToken (span.text (u ++ (inside ++ v))) := fun span hs => by
    refine isToken_of_mem_argumentsIn hi ?_
    rw [← map_text_argumentSpans u v]
    exact List.mem_map_of_mem hs
  refine ⟨?_, fun span hs => (token span hs).balanced,
    fun span hs => not_isOwnComma (token span hs), ?_⟩
  · rw [map_text_argumentSpans, text_between, arguments, intercalate_splitOwn]
  · rw [argumentSpans_between, length_spansFrom, text_between, arguments, length_splitOwn,
      ownCommas_eq_countP hi]

end

/-- **A bracket is closed at one place, and the region up to it is cut at its own commas.**  If a
source is balanced from a bracket through some place before the end, the closing bracket is found,
and it is the only one.  A blank region has no arguments; any other one is cut into as many as its
own commas make, and these are read span by span. -/
theorem closed_region_splits {source : List Char} {i k stop : Nat} (opens : source[i]? = some '[')
    (hik : i ≤ k) (hk : k < source.length) (hs : k < stop)
    (hb : Balanced (source.extract i (k + 1))) :
    ∃ j, closing? source i stop = some j ∧ (∀ j', IsClosedAt source i j' ↔ j' = j) ∧
      (Text.isAllBlank (Span.text source ⟨i + 1, j⟩) = true →
        argumentSpans source ⟨i + 1, j⟩ = []) ∧
      (Text.isAllBlank (Span.text source ⟨i + 1, j⟩) = false →
        Cuts source ⟨i + 1, j⟩ (argumentSpans source ⟨i + 1, j⟩)) ∧
      ∀ read, readAll read (i + 1) (argumentsIn (Span.text source ⟨i + 1, j⟩)) =
        (argumentSpans source ⟨i + 1, j⟩).mapM fun span => read span.first (span.text source) := by
  obtain ⟨u, rest, rfl, rfl⟩ := Text.exists_eq_append_of_getElem? opens
  obtain ⟨m, rfl⟩ : ∃ m, k = u.length + m := ⟨k - u.length, by omega⟩
  rw [extract_cons] at hb
  obtain ⟨inside, behind, -, he, hi⟩ := exists_eq_bracket hb
  obtain ⟨tail, rfl⟩ : ∃ tail, rest = inside ++ ']' :: tail := by
    refine ⟨behind ++ rest.drop m, ?_⟩
    rw [← List.cons_append, ← List.append_assoc, ← he, List.take_append_drop]
  have inside_lt : inside.length + 1 ≤ m := by
    have length := congrArg List.length he
    simp only [List.length_take, List.length_append, List.length_cons] at length
    omega
  have closes := isClosedAt_bracket u hi tail
  refine ⟨_, closing?_bracket u hi tail (by omega),
    fun j' => ⟨fun h => h.unique closes, fun h => h ▸ closes⟩, ?_⟩
  -- The region begins behind the bracket.
  have whole : u ++ '[' :: (inside ++ ']' :: tail) = (u ++ ['[']) ++ (inside ++ ']' :: tail) := by
    simp
  have place : u.length + 1 = (u ++ ['[']).length := by simp
  rw [Nat.add_comm inside.length, ← Nat.add_assoc, whole, place, text_between]
  refine ⟨fun blank => ?_, cuts_argumentSpans _ _ hi, fun read => ?_⟩
  · rw [argumentSpans_between, argumentsIn, if_pos blank]
    rfl
  · have held := @map_text_argumentSpans (u ++ ['[']) inside (']' :: tail)
    rw [argumentSpans_between] at held ⊢
    exact readAll_eq_mapM read held

/-- A name of which the arguments hold commas that do not cut: of a rank, and of other arguments. -/
def innerCommas : List Char := "A`2[B[,],C`2[D,E]][]".toList

/-- The bracket at the fourth place is closed before the rank of the whole name, and one comma cuts
the region. -/
theorem closed_region_splits_innerCommas :
    innerCommas[3]? = some '[' ∧ 17 < innerCommas.length ∧
    Balanced (innerCommas.extract 3 (17 + 1)) ∧ closing? innerCommas 3 20 = some 17 ∧
    (∀ j, IsClosedAt innerCommas 3 j ↔ j = 17) ∧ Cuts innerCommas ⟨4, 17⟩ [⟨4, 8⟩, ⟨9, 17⟩] ∧
    ∀ read, readAll read 4 ["B[,]".toList, "C`2[D,E]".toList] =
      [Span.mk 4 8, ⟨9, 17⟩].mapM fun span => read span.first (span.text innerCommas) := by
  have opens : innerCommas[3]? = some '[' := rfl
  have inside : 17 < innerCommas.length := by decide
  have balanced : Balanced (innerCommas.extract 3 (17 + 1)) := by decide
  have found : closing? innerCommas 3 20 = some 17 := by decide
  obtain ⟨j, closed, unique, -, cuts, reads⟩ :=
    closed_region_splits opens (by decide) inside (show 17 < 20 by decide) balanced
  obtain rfl : 17 = j := Option.some.inj (found.symm.trans closed)
  exact ⟨opens, inside, balanced, closed, unique, cuts rfl, reads⟩

end Name
end TypeMismatch
