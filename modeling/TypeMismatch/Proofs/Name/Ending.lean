import TypeMismatch.Name.Signature
import TypeMismatch.Proofs.Name.Suffix
import TypeMismatch.Proofs.Text

/-!
# Distinguishing ends in writing

What is kept of two paths (`diff_suffixes`) is written with points between the segments, and a
segment may itself be empty or hold points.  The written ends of two paths that differ are different
all the same, since the fewest segments are kept: behind the first segment that is kept the two
paths agree, so the rest of the writing is the same text on both sides (`dotted_last_ne`).  A dotted
name is split into segments that hold no point, so a name ends with another one, in whole segments,
if and only if its path does (`split_suffix_iff`).  `ends_told_apart` says what is left of any two
paths, and of any two names (`shorten_type_names`).
-/

namespace TypeMismatch

namespace Suffix

open Signature (dotted)

/-- A name is another one or what stands behind a point of it. -/
def Ends (r s : List Char) : Prop := r = s ∨ ∃ u, s = u ++ '.' :: r

/-! ### The last segments in writing -/

/-- The last segments begin with one of the path. -/
theorem exists_last_succ {α : Type} {k : Nat} {a : List α} (h : k < a.length) :
    ∃ x, last (k + 1) a = x :: last k a := by
  have hl : a.length - (k + 1) < a.length := by omega
  have step : a.length - (k + 1) + 1 = a.length - k := by omega
  exact ⟨a[a.length - (k + 1)], by rw [last, List.drop_eq_getElem_cons hl, step, last]⟩

/-- Segments in writing, with the same segments behind them, are the same only if they are. -/
theorem dotted_cons_inj {s t : List Char} {path : List (List Char)}
    (h : dotted (s :: path) = dotted (t :: path)) : s = t := by
  unfold dotted at h
  cases path with
  | nil => rwa [List.intercalate_singleton, List.intercalate_singleton] at h
  | cons next path =>
    rw [List.intercalate_cons_cons, List.intercalate_cons_cons, List.append_assoc,
      List.append_assoc] at h
    exact List.append_cancel_right h

/-- **Where two paths differ in no fewer segments, their last segments differ in writing**, whatever
the segments hold. -/
theorem dotted_last_ne {k : Nat} {a b : List (List Char)} (h : Differ k a b)
    (least : ∀ j, Differ j a b → k ≤ j) : dotted (last k a) ≠ dotted (last k b) := by
  obtain ⟨ha, hb, hne⟩ := h
  cases k with
  | zero =>
    refine absurd ?_ hne
    rw [last, last, Nat.sub_zero, Nat.sub_zero, List.drop_length, List.drop_length]
  | succ k =>
    have same : last k a = last k b := by
      by_contra hk
      exact Nat.not_succ_le_self k (least k ⟨by omega, by omega, hk⟩)
    obtain ⟨x, hx⟩ := exists_last_succ ha
    obtain ⟨y, hy⟩ := exists_last_succ hb
    rw [hx, hy, same] at hne ⊢
    exact fun he => hne (congrArg (· :: last k b) (dotted_cons_inj he))

/-- One segment is left of a path: the last one. -/
theorem last_one {a : List (List Char)} {s : List Char} (h : a.getLast? = some s) :
    last 1 a = [s] := by
  obtain ⟨path, rfl⟩ := List.getLast?_eq_some_iff.1 h
  rw [last_concat Nat.one_pos, last, Nat.sub_self, Nat.sub_zero, List.drop_length, List.nil_append]

/-! ### Dotted names -/

/-- A path in writing ends with what ends the path. -/
theorem ends_dotted {t path : List (List Char)} (h : t <:+ path) (ht : t ≠ []) :
    Ends (dotted t) (dotted path) := by
  obtain ⟨u, rfl⟩ := h
  by_cases hu : u = []
  · rw [hu]
    exact .inl rfl
  · exact .inr ⟨dotted u, Text.intercalate_append '.' hu ht⟩

/-- **The path of a name ends with that of another one if and only if the name does**, in whole
segments. -/
theorem split_suffix_iff {x y : List Char} :
    Text.split '.' x <:+ Text.split '.' y ↔ Ends x y := by
  constructor
  · intro h
    have ends := ends_dotted h (Text.split_ne_nil '.' x)
    unfold dotted at ends
    rwa [Text.intercalate_split, Text.intercalate_split] at ends
  · rintro (rfl | ⟨u, rfl⟩)
    · exact List.suffix_rfl
    · rw [Text.split_append_cons]
      exact List.suffix_append _ _

/-! ### What is left of two paths -/

section
variable {a b : List (List Char)}

/-- Of two paths that are not empty the last segments are left that are kept. -/
theorem distinguish?_eq (ha : a ≠ []) (hb : b ≠ []) : distinguish? a b =
    some (dotted (last (kept a b) a), dotted (last (kept a b) b)) :=
  if_neg (by simp [ha, hb])

/-- Of two paths of which one ends with the other the last segment is left, which they share. -/
theorem distinguish?_of_suffix (ha : a ≠ []) (hb : b ≠ []) (h : a <:+ b ∨ b <:+ a) :
    ∃ s, a.getLast? = some s ∧ b.getLast? = some s ∧ distinguish? a b = some (s, s) := by
  have ends : ∀ {u v : List (List Char)}, u ≠ [] → u <:+ v → v.getLast? = u.getLast? := by
    rintro u _ hu ⟨w, rfl⟩
    rw [List.getLast?_append, List.getLast?_eq_some_getLast hu, Option.some_or]
  have same : a.getLast? = b.getLast? := h.elim (fun h => (ends ha h).symm) (ends hb)
  have hs : a.getLast? = some (a.getLast ha) := List.getLast?_eq_some_getLast ha
  have one : kept a b = 1 := kept_eq_one (forall_not_differ_iff.2 h)
  refine ⟨_, hs, same ▸ hs, ?_⟩
  rw [distinguish?_eq ha hb, one, last_one hs, last_one (same ▸ hs)]
  rw [dotted, List.intercalate_singleton]

/-- Of two paths of which none ends with the other the fewest segments are left that differ, and
they differ in writing. -/
theorem distinguish?_of_differ (ha : a ≠ []) (hb : b ≠ []) (h : ¬(a <:+ b ∨ b <:+ a)) :
    ∃ k, (Differ k a b ∧ ∀ j, Differ j a b → k ≤ j) ∧
      distinguish? a b = some (dotted (last k a), dotted (last k b)) ∧
        dotted (last k a) ≠ dotted (last k b) := by
  have some_differ : ∃ k, Differ k a b := by
    by_contra hn
    exact h (forall_not_differ_iff.1 (not_exists.1 hn))
  obtain ⟨k, hk⟩ := some_differ
  have least : ∀ j, Differ j a b → kept a b ≤ j := fun j hj => (kept_least hj).2
  have differ := (kept_least hk).1
  exact ⟨_, ⟨differ, least⟩, distinguish?_eq ha hb, dotted_last_ne differ least⟩

end

/-- Names have paths, so that there is always an end of each of them to be shown. -/
theorem distinguish?_split (x y : List Char) :
    distinguish? (Text.split '.' x) (Text.split '.' y) = some (shortenNames x y) :=
  distinguish?_eq (Text.split_ne_nil '.' x) (Text.split_ne_nil '.' y)

/-- What is left of a name is an end of it. -/
theorem ends_dotted_last {x : List Char} {k : Nat} (hk : 0 < k)
    (h : k ≤ (Text.split '.' x).length) : Ends (dotted (last k (Text.split '.' x))) x := by
  have ne : last k (Text.split '.' x) ≠ [] :=
    List.ne_nil_of_length_pos (by rw [length_last h]; exact hk)
  have ends := ends_dotted (last_suffix k _) ne
  have whole : dotted (Text.split '.' x) = x := Text.intercalate_split '.' x
  rwa [whole] at ends

/-- Shortened names are the same if and only if one of the names ends with the other. -/
theorem shortenNames_eq_iff (x y : List Char) :
    (shortenNames x y).1 = (shortenNames x y).2 ↔ Ends x y ∨ Ends y x := by
  have hx := Text.split_ne_nil '.' x
  have hy := Text.split_ne_nil '.' y
  have shown := distinguish?_split x y
  rw [← split_suffix_iff, ← split_suffix_iff]
  by_cases h : Text.split '.' x <:+ Text.split '.' y ∨ Text.split '.' y <:+ Text.split '.' x
  · obtain ⟨s, -, -, he⟩ := distinguish?_of_suffix hx hy h
    rw [he, Option.some.injEq] at shown
    rw [← shown]
    exact iff_of_true rfl h
  · obtain ⟨k, -, he, hne⟩ := distinguish?_of_differ hx hy h
    rw [he, Option.some.injEq] at shown
    rw [← shown]
    exact iff_of_false hne h

/-- **Suffixes are told apart exactly, and by the fewest segments.**  Of two paths that are not
empty, whatever their segments hold, the last segment is left twice if one of them ends with the
other, and else the last `k` of both, joined by points, for the least `k` for which these differ;
and then the two texts differ.  So any two names have ends that are shown, which are these names or
stand behind a point of them, and the same end is shown of both if and only if they are the same or
one of them ends with a point and the other. -/
theorem ends_told_apart :
    (∀ a b : List (List Char), a ≠ [] → b ≠ [] →
      (a <:+ b ∨ b <:+ a →
        ∃ s, a.getLast? = some s ∧ b.getLast? = some s ∧ distinguish? a b = some (s, s)) ∧
      (¬(a <:+ b ∨ b <:+ a) → ∃ k, (Differ k a b ∧ ∀ j, Differ j a b → k ≤ j) ∧
        distinguish? a b = some (dotted (last k a), dotted (last k b)) ∧
          dotted (last k a) ≠ dotted (last k b))) ∧
    ∀ x y : List Char,
      distinguish? (Text.split '.' x) (Text.split '.' y) = some (shortenNames x y) ∧
      Ends (shortenNames x y).1 x ∧ Ends (shortenNames x y).2 y ∧
      ((shortenNames x y).1 = (shortenNames x y).2 ↔ Ends x y ∨ Ends y x) := by
  refine ⟨fun a b ha hb => ⟨distinguish?_of_suffix ha hb, distinguish?_of_differ ha hb⟩,
    fun x y => ⟨distinguish?_split x y, ?_, ?_, shortenNames_eq_iff x y⟩⟩
  · exact ends_dotted_last (kept_pos _ _) (kept_le_length (Text.split_ne_nil '.' x))
  · refine ends_dotted_last (kept_pos _ _) ?_
    rw [kept_comm]
    exact kept_le_length (Text.split_ne_nil '.' y)

/-- The hypotheses are satisfiable, and by paths with an empty segment and one with a point in it,
which are the same name in full; two segments tell them apart. -/
theorem ends_told_apart_pointed :
    ∃ a b c : List (List Char), a ≠ [] ∧ b ≠ [] ∧ c ≠ [] ∧ dotted a = dotted b ∧
      ¬(a <:+ b ∨ b <:+ a) ∧
      (∃ k, (Differ k a b ∧ ∀ j, Differ j a b → k ≤ j) ∧
        distinguish? a b = some (dotted (last k a), dotted (last k b)) ∧
          dotted (last k a) ≠ dotted (last k b)) ∧
      (b <:+ c ∨ c <:+ b) ∧
        ∃ s, b.getLast? = some s ∧ c.getLast? = some s ∧ distinguish? b c = some (s, s) := by
  refine ⟨[['A', '.'], [], ['D']], [['A'], ['.'], ['D']], [['D']], by decide, by decide, by decide,
    by decide, by decide, ?_, by decide, ?_⟩
  · exact (ends_told_apart.1 _ _ (by decide) (by decide)).2 (by decide)
  · exact (ends_told_apart.1 _ _ (by decide) (by decide)).1 (by decide)

end Suffix
end TypeMismatch
