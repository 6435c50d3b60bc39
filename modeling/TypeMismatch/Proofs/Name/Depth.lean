import Mathlib.Order.Bounds.Defs
import TypeMismatch.Proofs.Name.Node

/-!
# The limit decides at the depth of a name

A name is read (`parse`) alike at every limit (`max_depth`) that its depth does not exceed.  At a
lower limit the first argument too deep for it is at fault, and that is found right behind the
bracket that opens the arguments of a node at the depth of the limit, the leftmost one (`Opens`);
nothing else can be at fault in a name that is read at some limit.

A text that is not read at a limit fails alike at every higher limit, unless it is nested too deep,
and at a lower limit it fails alike or is nested too deep for that (`Limited`).  All four statements
are `read_threshold`.  The inductions are on the levels that are left, or that are left to the lower
limit; of the arguments the first one that is deep enough decides, since those before it are read.
-/

namespace TypeMismatch
namespace Name

/-- The places behind the brackets that open the arguments of the nodes at a depth below the name
that a text is. -/
inductive Opens : Nat → List Char → Nat → Prop
  | here {text : List Char} {c : Compound} : Text.trim text = c.text → c.arity = c.parts.length →
      Opens 0 text (Text.leadingBlanks text + (c.head.length + 1))
  | inside {depth place : Nat} {text x : List Char} {before after : List (List Char)}
      {c : Compound} : Text.trim text = c.text → c.arity = c.parts.length →
      c.parts = before ++ x :: after → Opens depth x place →
      Opens (depth + 1) text (Text.leadingBlanks text + (c.offset before + place))

/-- Of two requests the first one ends as the second one does, or over a name that is nested deeper
than so many levels. -/
def Limited {α : Type} (levels : Nat) (x y : Except Failure α) : Prop :=
  x = y ∨ ∃ place, x = failAt (.tooDeep levels) place

/-! ### Failures at another limit -/

namespace Limited
variable {α β : Type} {levels : Nat}

/-- A request agrees with itself. -/
theorem refl (x : Except Failure α) : Limited levels x x := .inl rfl

/-- Requests that agree, and go on with requests that agree, agree. -/
theorem bind {x y : Except Failure α} {f g : α → Except Failure β} (h : Limited levels x y)
    (hfg : ∀ a, Limited levels (f a) (g a)) : Limited levels (x >>= f) (y >>= g) := by
  rcases h with rfl | ⟨place, rfl⟩
  · cases x with
    | error e => exact .refl _
    | ok a => exact hfg a
  · exact .inr ⟨place, rfl⟩

end Limited

section
variable {levels : Nat} {read read' : Nat → List Char → Except Failure Signature}

/-- Readers that agree read arguments in agreement. -/
theorem limited_readAll (h : ∀ offset x, Limited levels (read offset x) (read' offset x))
    (offset : Nat) (parts : List (List Char)) :
    Limited levels (readAll read offset parts) (readAll read' offset parts) := by
  induction parts generalizing offset with
  | nil => exact .refl _
  | cons part parts ih => exact (h offset part).bind fun _ => (ih _).bind fun _ => .refl _

/-- They read what stands behind an arity in agreement. -/
theorem limited_readMarked (h : ∀ offset x, Limited levels (read offset x) (read' offset x))
    (offset : Nat) (m : Marked) :
    Limited levels (readMarked read offset m) (readMarked read' offset m) := by
  unfold readMarked
  split
  · exact .refl _
  · refine (Limited.refl _).bind fun path => ?_
    dsimp only
    split
    · exact .refl _
    · unfold readGeneric
      dsimp only
      split
      · exact .refl _
      · split
        · exact .refl _
        · split
          · exact .refl _
          · split
            · exact .refl _
            · exact (limited_readAll h _ _).bind fun _ => .refl _

end

/-- **With fewer levels a text is read alike, or it is nested too deep.** -/
theorem limited_readAt (limit limit' : Limit) {levels levels' : Nat} (h : levels ≤ levels')
    (offset : Nat) (text : List Char) :
    Limited limit.levels (readAt limit levels offset text)
      (readAt limit' levels' offset text) := by
  induction levels generalizing levels' offset text with
  | zero => exact .inr ⟨offset, rfl⟩
  | succ levels ih =>
    obtain ⟨levels', rfl⟩ : ∃ k, levels' = k + 1 := ⟨levels' - 1, by omega⟩
    rw [readAt, readAt]
    split
    · exact .refl _
    · split
      · exact .refl _
      · exact limited_readMarked (fun _ _ => ih (by omega) _ _) _ _

/-- A name is read alike at any two limits, up to the lower one. -/
theorem limited_read {limit limit' : Limit} (h : limit.levels ≤ limit'.levels)
    (text : List Char) : Limited limit.levels (read limit text) (read limit' text) :=
  (Limited.refl _).bind fun _ => limited_readAt limit limit' (by omega) 0 text

/-! ### Names at another limit -/

/-- **A name is read alike wherever its depth is allowed.** -/
theorem readAt_of_depth_lt {limit limit' : Limit} {levels levels' offset : Nat} {text : List Char}
    {s : Signature} (h : readAt limit levels offset text = .ok s) (hd : s.depth < levels') :
    readAt limit' levels' offset text = .ok s := by
  induction levels generalizing levels' offset text s with
  | zero => exact absurd h failAt_ne_ok
  | succ levels ih =>
    obtain ⟨levels', rfl⟩ : ∃ k, levels' = k + 1 := ⟨levels' - 1, by omega⟩
    rw [readAt] at h ⊢
    split at h
    · exact absurd h failAt_ne_ok
    rename_i filled
    rw [if_neg filled]
    split at h
    · exact h
    obtain ⟨hl, path, hp, hb, h⟩ := readMarked_eq_ok_iff.1 h
    refine readMarked_eq_ok_iff.2 ⟨hl, path, hp, hb, ?_⟩
    split at h
    · rename_i hz
      rw [if_pos hz]
      exact h
    rename_i hz
    rw [if_neg hz]
    obtain ⟨nested, inside, ranks, as, ha, hc, hi, hr, length, hargs, rfl⟩ :=
      readGeneric_eq_ok_iff.1 h
    refine readGeneric_eq_ok_iff.2
      ⟨nested, inside, ranks, as, ha, hc, hi, hr, length, ?_, rfl⟩
    rw [readAll_eq_ok_iff (moves_readAt _ _)] at hargs ⊢
    refine map_eq_map_ok_mono (fun x _ a ha hx => ih hx ?_) hargs
    have := Signature.depth_lt_depths ha
    rw [Signature.depth] at hd
    omega

/-! ### Nodes at a depth -/

namespace Opens

/-- The place is behind an opening bracket. -/
theorem exists_bracket {depth place : Nat} {text : List Char} (h : Opens depth text place) :
    ∃ before rest, text = before ++ '[' :: rest ∧ place = before.length + 1 := by
  induction h with
  | @here text c ht ha =>
    obtain ⟨v, he, -⟩ := Text.exists_eq_takeWhile_append text
    refine ⟨text.takeWhile Text.isBlank ++ c.head,
      [','].intercalate c.parts ++ ']' :: c.ranks ++ v, ?_, ?_⟩
    · rw [ht, Compound.text] at he
      simpa using he
    · rw [List.length_append, Text.leadingBlanks, Nat.add_assoc]
  | @inside depth place text x before after c ht ha hp _ ih =>
    obtain ⟨v, he, -⟩ := Text.exists_eq_takeWhile_append text
    obtain ⟨u, w, hc, hu⟩ := c.exists_text_eq hp
    obtain ⟨inner, rest, rfl, rfl⟩ := ih
    refine ⟨text.takeWhile Text.isBlank ++ (u ++ inner), rest ++ w ++ v, ?_, ?_⟩
    · rw [ht, hc] at he
      simpa using he
    · rw [hu, List.length_append, List.length_append, Text.leadingBlanks]
      omega

/-- The place of a node lies within the text. -/
theorem le_length {depth place : Nat} {text : List Char} (h : Opens depth text place) :
    place ≤ text.length := by
  obtain ⟨before, rest, rfl, rfl⟩ := h.exists_bracket
  rw [List.length_append, List.length_cons]
  omega

/-- A name with arguments at a depth is deeper than that. -/
theorem lt_depth {limit : Limit} {levels offset depth place : Nat} {text : List Char}
    {s : Signature} (h : Opens depth text place) (hs : readAt limit levels offset text = .ok s) :
    depth < s.depth := by
  induction h generalizing levels offset s with
  | @here text c ht ha =>
    cases levels with
    | zero => exact absurd hs failAt_ne_ok
    | succ levels =>
      obtain ⟨x, hx⟩ := List.exists_mem_of_ne_nil _ c.parts_ne_nil
      obtain ⟨a, hmem, -⟩ := exists_argument_of_readAt ht ha hs hx
      rw [s.depth_eq]
      exact Nat.zero_lt_of_lt (Signature.depth_lt_depths hmem)
  | @inside depth place text x before after c ht ha hp _ ih =>
    cases levels with
    | zero => exact absurd hs failAt_ne_ok
    | succ levels =>
      have hx : x ∈ c.parts := hp ▸ List.mem_append_right _ List.mem_cons_self
      obtain ⟨a, hmem, hread⟩ := exists_argument_of_readAt ht ha hs hx
      rw [s.depth_eq]
      exact Nat.lt_of_le_of_lt (ih hread) (Signature.depth_lt_depths hmem)

/-- The nodes at depth one begin with the first argument of a name. -/
theorem zero_iff {text : List Char} {c : Compound} (ht : Text.trim text = c.text)
    (ha : c.arity = c.parts.length) {place : Nat} :
    Opens 0 text place ↔ place = Text.leadingBlanks text + (c.head.length + 1) := by
  refine ⟨fun h => ?_, fun h => h ▸ .here ht ha⟩
  cases h with
  | here hd _ => rw [Compound.text_injective (hd.symm.trans ht)]

/-- The nodes further below are nodes of arguments. -/
theorem succ_iff {text : List Char} {c : Compound} (ht : Text.trim text = c.text)
    (ha : c.arity = c.parts.length) {depth place : Nat} :
    Opens (depth + 1) text place ↔ ∃ before x after inner, c.parts = before ++ x :: after ∧
      Opens depth x inner ∧ place = Text.leadingBlanks text + (c.offset before + inner) := by
  constructor
  · intro h
    cases h with
    | inside hd _ hp hx =>
      obtain rfl := Compound.text_injective (hd.symm.trans ht)
      exact ⟨_, _, _, _, hp, hx, rfl⟩
  · rintro ⟨before, x, after, inner, hp, hx, rfl⟩
    exact .inside ht ha hp hx

/-- Below a name the first argument that opens anything at a depth opens the leftmost node. -/
theorem isLeast_inside {depth inner : Nat} {text x : List Char} {before after : List (List Char)}
    {c : Compound} (ht : Text.trim text = c.text) (ha : c.arity = c.parts.length)
    (hp : c.parts = before ++ x :: after) (hb : ∀ y ∈ before, ∀ place, ¬Opens depth y place)
    (hx : IsLeast {place | Opens depth x place} inner) :
    IsLeast {place | Opens (depth + 1) text place}
      (Text.leadingBlanks text + (c.offset before + inner)) := by
  refine ⟨.inside ht ha hp hx.1, fun place hplace => ?_⟩
  obtain ⟨before', y, after', inner', hp', hy, rfl⟩ := (succ_iff ht ha).1 hplace
  rw [hp] at hp'
  rcases List.append_eq_append_iff.1 hp' with ⟨between, rfl, he⟩ | ⟨between, rfl, he⟩
  · cases between with
    | nil =>
      obtain ⟨rfl, -⟩ := List.cons.inj he
      have := hx.2 hy
      rw [List.append_nil]
      omega
    | cons z between =>
      -- The bracket stands behind the whole argument.
      obtain ⟨rfl, -⟩ := List.cons.inj he
      have inside : inner ≤ x.length := le_length hx.1
      simp only [Compound.offset, listed, List.flatMap_append, List.flatMap_cons,
        List.length_append]
      omega
  · cases between with
    | nil =>
      obtain ⟨rfl, -⟩ := List.cons.inj he
      have := hx.2 hy
      rw [List.append_nil]
      omega
    | cons z between =>
      obtain ⟨rfl, -⟩ := List.cons.inj he
      exact absurd hy (hb y (List.mem_append_right _ List.mem_cons_self) inner')

end Opens

/-! ### Names that are too deep -/

/-- **A name deeper than the levels that are left is at fault at the leftmost node at their
depth**, behind the bracket that opens its arguments. -/
theorem readAt_tooDeep {limit : Limit} (limit' : Limit) {levels depth : Nat} {text : List Char}
    {s : Signature} (h : readAt limit levels 0 text = .ok s) (hd : depth < s.depth) :
    ∃ place, IsLeast {p | Opens depth text p} place ∧
      readAt limit' (depth + 1) 0 text = failAt (.tooDeep limit'.levels) place := by
  induction depth generalizing levels text s with
  | zero =>
    cases levels with
    | zero => exact absurd h failAt_ne_ok
    | succ levels =>
      have ne : s.arguments ≠ [] := by
        intro hn
        rw [s.depth_eq, hn] at hd
        exact Nat.not_lt_zero _ hd
      obtain ⟨c, ht, ha, -, -⟩ := exists_compound_of_readAt h ne
      obtain ⟨x, parts, hp⟩ := List.exists_cons_of_ne_nil c.parts_ne_nil
      -- No level is left for the arguments, so the first of them is refused where it begins.
      refine ⟨Text.leadingBlanks text + (c.head.length + 1), ?_, ?_⟩
      · exact ⟨(Opens.zero_iff ht ha).2 rfl, fun p hp => ((Opens.zero_iff ht ha).1 hp).ge⟩
      · rw [readAt_of_trim_eq ht ha, hp, Nat.zero_add]
        rfl
  | succ depth ih =>
    cases levels with
    | zero => exact absurd h failAt_ne_ok
    | succ levels =>
      rw [s.depth_eq] at hd
      obtain ⟨a, hmem, hdeep⟩ := Signature.exists_lt_depth_of_lt_depths hd
      obtain ⟨c, ht, ha, hargs, -⟩ := exists_compound_of_readAt h (List.ne_nil_of_mem hmem)
      -- The first argument that is too deep decides, as those before it are read.
      obtain ⟨before, x, after, b, hp, hx, hb, hbefore⟩ :=
        exists_first_ok (P := fun b => depth < b.depth) hargs ⟨a, hmem, hdeep⟩
      obtain ⟨inner, least, fails⟩ := ih hx hb
      refine ⟨_, Opens.isLeast_inside ht ha hp (fun y hy p hop => ?_) least, ?_⟩
      · obtain ⟨b, hread, shallow⟩ := hbefore y hy
        exact shallow (hop.lt_depth hread)
      · have reads : ∀ y ∈ before, ∃ b, readAt limit' (depth + 1) 0 y = .ok b := by
          intro y hy
          obtain ⟨b, hread, shallow⟩ := hbefore y hy
          exact ⟨b, readAt_of_depth_lt hread (by omega)⟩
        rw [readAt_of_trim_eq ht ha, hp, readAll_append_cons (moves_readAt _ _) reads fails,
          Compound.offset]
        simp only [Failure.behind, failAt, Except.map, Nat.zero_add, Nat.add_assoc]

/-! ### Whole names -/

/-- **The limit decides at the depth of a name.**  What is read at one limit is read alike at every
limit that its depth does not exceed; at a lower one it is too deep, behind the bracket of the
leftmost node at the depth of the limit.  What fails at a limit, and not for its depth, fails alike
at every higher limit, and at a lower one it fails alike or is too deep for that. -/
theorem read_threshold (limit limit' : Limit) (text : List Char) :
    (∀ s, read limit text = .ok s →
      (s.depth ≤ limit'.levels → read limit' text = .ok s) ∧
      (limit'.levels < s.depth → ∃ before rest, text = before ++ '[' :: rest ∧
        IsLeast {place | Opens limit'.levels text place} (before.length + 1) ∧
        read limit' text =
          .error (.fault ⟨.tooDeep limit'.levels, before.length + 1⟩))) ∧
    (∀ e, read limit text = .error e → (∀ place, e ≠ .fault ⟨.tooDeep limit.levels, place⟩) →
      (limit.levels < limit'.levels → read limit' text = .error e) ∧
      (limit'.levels < limit.levels → read limit' text = .error e ∨
        ∃ place, read limit' text = .error (.fault ⟨.tooDeep limit'.levels, place⟩))) ∧
    (Reason.tooDeep limit'.levels).message =
      "generic nesting exceeds " ++ String.ofList (Text.numeral limit'.levels) ++ " levels" := by
  refine ⟨fun s hs => ?_, fun e he hne => ⟨fun h => ?_, fun h => ?_⟩, rfl⟩
  · obtain ⟨⟨⟩, brackets, hs⟩ := ok_of_bind hs
    have whole : read limit' text = readAt limit' (limit'.levels + 1) 0 text := by
      rw [read, brackets]
      rfl
    rw [whole]
    refine ⟨fun h => readAt_of_depth_lt hs (by omega), fun h => ?_⟩
    obtain ⟨place, least, fails⟩ := readAt_tooDeep limit' hs h
    obtain ⟨before, rest, he, rfl⟩ := Opens.exists_bracket least.1
    exact ⟨before, rest, he, least, fails⟩
  · rcases limited_read (Nat.le_of_lt h) text with same | ⟨place, deep⟩
    · rw [← same, he]
    · rw [he] at deep
      exact absurd (Except.error.inj deep) (hne place)
  · rcases limited_read (Nat.le_of_lt h) text with same | deep
    · exact .inl (same.trans he)
    · exact .inr deep

/-- A name of which the second argument is the deeper one. -/
def uneven : Signature :=
  ⟨[['A']], 2, [⟨[['B']], 1, [⟨[['C']], 1, [.plain [['D']] []], [], []⟩], [], []⟩,
    ⟨[['E']], 1, [⟨[['F']], 1, [⟨[['G']], 1, [.plain [['H']] []], [], []⟩], [], []⟩], [], []⟩],
    [], []⟩

/-- Its depth is four, so that it is too deep at three levels, behind the bracket of the node `G`;
and an argument without its own argument is at fault wherever it is not too deep. -/
theorem read_threshold_uneven :
    read .standard "A`2[B`1[C`1[D]], E`1[F`1[G`1[H]]]]".toList = .ok uneven ∧
    (uneven.depth = 4 ∧
      read ⟨4, by decide⟩ "A`2[B`1[C`1[D]], E`1[F`1[G`1[H]]]]".toList = .ok uneven ∧
      ∃ before rest, "A`2[B`1[C`1[D]], E`1[F`1[G`1[H]]]]".toList = before ++ '[' :: rest ∧
        IsLeast {place | Opens 3 "A`2[B`1[C`1[D]], E`1[F`1[G`1[H]]]]".toList place}
          (before.length + 1) ∧
        read ⟨3, by decide⟩ "A`2[B`1[C`1[D]], E`1[F`1[G`1[H]]]]".toList =
          .error (.fault ⟨.tooDeep 3, before.length + 1⟩)) ∧
    read ⟨3, by decide⟩ "A`1[B`1[C`1[]]]".toList = .error (.fault ⟨.argumentCount 1 0, 11⟩) ∧
    read ⟨4, by decide⟩ "A`1[B`1[C`1[]]]".toList = .error (.fault ⟨.argumentCount 1 0, 11⟩) ∧
    (read ⟨1, by decide⟩ "A`1[B`1[C`1[]]]".toList = .error (.fault ⟨.argumentCount 1 0, 11⟩) ∨
      ∃ place, read ⟨1, by decide⟩ "A`1[B`1[C`1[]]]".toList =
        .error (.fault ⟨.tooDeep 1, place⟩)) := by
  refine ⟨rfl, ⟨rfl, ?_, ?_⟩, rfl, ?_, ?_⟩
  · exact ((read_threshold .standard ⟨4, by decide⟩ _).1 uneven rfl).1 (by decide)
  · exact ((read_threshold .standard ⟨3, by decide⟩ _).1 uneven rfl).2 (by decide)
  · exact ((read_threshold ⟨3, by decide⟩ ⟨4, by decide⟩ _).2.1 _ rfl
      (by rintro _ ⟨⟩)).1 (by decide)
  · exact ((read_threshold ⟨3, by decide⟩ ⟨1, by decide⟩ _).2.1 _ rfl
      (by rintro _ ⟨⟩)).2 (by decide)

end Name
end TypeMismatch
