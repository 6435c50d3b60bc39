import Mathlib.Tactic.ByContra
import Mathlib.Tactic.SplitIfs
import TypeMismatch.Name.Suffix

/-!
# The fewest segments that differ

How many segments two paths keep (`diff_suffixes`) is found from their agreement at the end.  Said
without it: two paths differ in `k` segments (`Differ`) if both have so many and the last `k` of one
are not the last `k` of the other.  If they differ in any number of segments, they keep the least
such number (`kept_least`); else one of them ends with the other, and they keep one segment
(`kept_eq_one`).
-/

namespace TypeMismatch
namespace Suffix

variable {α : Type}

/-- Both paths have `k` segments, and their last `k` segments are not the same. -/
def Differ (k : Nat) (a b : List α) : Prop := k ≤ a.length ∧ k ≤ b.length ∧ last k a ≠ last k b

/-- Differing is mutual. -/
theorem Differ.symm {k : Nat} {a b : List α} (h : Differ k a b) : Differ k b a :=
  ⟨h.2.1, h.1, h.2.2.symm⟩

/-! ### The last segments of a path -/

/-- The last segments are an end of the path. -/
theorem last_suffix (k : Nat) (a : List α) : last k a <:+ a := List.drop_suffix _ _

/-- So many are left if the path has so many. -/
theorem length_last {k : Nat} {a : List α} (h : k ≤ a.length) : (last k a).length = k := by
  rw [last, List.length_drop]
  omega

/-- All segments of a path are the path. -/
theorem last_length (a : List α) : last a.length a = a := by rw [last, Nat.sub_self, List.drop_zero]

/-- The last segment stays if any does. -/
theorem last_concat {k : Nat} (hk : 0 < k) (a : List α) (x : α) :
    last k (a ++ [x]) = last (k - 1) a ++ [x] := by
  have hl : a.length + 1 - k = a.length - (k - 1) := by omega
  rw [last, List.length_append, List.length_singleton, hl, last,
    List.drop_append_of_le_length (Nat.sub_le _ _)]

/-- From behind, the last segments are the first ones. -/
theorem reverse_last (k : Nat) (a : List α) : (last k a).reverse = a.reverse.take k :=
  List.take_reverse.symm

/-- The last segments are the same if the first ones from behind are. -/
theorem last_eq_last_iff {k : Nat} {a b : List α} :
    last k a = last k b ↔ a.reverse.take k = b.reverse.take k := by
  rw [← reverse_last, ← reverse_last, List.reverse_inj]

/-- Of the last segments the last ones are those of the path. -/
theorem last_last {j k : Nat} (h : j ≤ k) (a : List α) : last j (last k a) = last j a := by
  have hl : a.length - k + (a.length - (a.length - k) - j) = a.length - j := by omega
  rw [last, last, List.length_drop, List.drop_drop, hl, last]

/-- What is left of two paths differs where the paths do. -/
theorem differ_last {j k : Nat} {a b : List α} (h : j ≤ k) (ha : k ≤ a.length) (hb : k ≤ b.length) :
    Differ j (last k a) (last k b) ↔ Differ j a b := by
  rw [Differ, Differ, length_last ha, length_last hb, last_last h, last_last h]
  exact ⟨fun hd => ⟨Nat.le_trans h ha, Nat.le_trans h hb, hd.2.2⟩, fun hd => ⟨h, h, hd.2.2⟩⟩

/-- Of two paths one ends with the other if and only if they agree in all segments of the shorter
one. -/
theorem suffix_iff_last {a b : List α} :
    a <:+ b ↔ a.length ≤ b.length ∧ last a.length a = last a.length b := by
  rw [last_length]
  exact ⟨fun h => ⟨h.length_le, List.suffix_iff_eq_drop.1 h⟩, fun h => h.2 ▸ last_suffix _ _⟩

/-! ### Agreement -/

variable [DecidableEq α]

/-- Agreement is mutual. -/
theorem agreement_comm (a b : List α) : agreement a b = agreement b a := by
  induction a generalizing b with
  | nil => cases b <;> rfl
  | cons x a ih =>
    cases b with
    | nil => rfl
    | cons y b =>
      rw [agreement, agreement, ih]
      by_cases h : x = y
      · rw [if_pos h, if_pos h.symm]
      · rw [if_neg h, if_neg (Ne.symm h)]

/-- Two lists agree in their first `k` items if and only if their agreement is at least `k`. -/
theorem take_eq_take_iff_le_agreement {k : Nat} {a b : List α} (ha : k ≤ a.length)
    (hb : k ≤ b.length) : a.take k = b.take k ↔ k ≤ agreement a b := by
  induction k generalizing a b with
  | zero => simp
  | succ k ih =>
    cases a with
    | nil => exact absurd ha (Nat.not_succ_le_zero k)
    | cons x a =>
      cases b with
      | nil => exact absurd hb (Nat.not_succ_le_zero k)
      | cons y b =>
        have rest := ih (Nat.le_of_succ_le_succ ha) (Nat.le_of_succ_le_succ hb)
        rw [List.take_succ_cons, List.take_succ_cons, agreement, List.cons.injEq, rest]
        split_ifs with h
        · exact ⟨fun hk => Nat.succ_le_succ hk.2, fun hk => ⟨h, Nat.le_of_succ_le_succ hk⟩⟩
        · exact ⟨fun hk => absurd hk.1 h, fun hk => absurd hk (Nat.not_succ_le_zero k)⟩

/-- **Where two paths differ**: beyond the agreement of their ends. -/
theorem differ_iff {k : Nat} {a b : List α} :
    Differ k a b ↔ k ≤ a.length ∧ k ≤ b.length ∧ agreement a.reverse b.reverse < k := by
  refine and_congr_right fun ha => and_congr_right fun hb => ?_
  rw [ne_eq, last_eq_last_iff, take_eq_take_iff_le_agreement (by rwa [List.length_reverse])
    (by rwa [List.length_reverse]), Nat.not_le]

/-! ### The segments kept -/

/-- Two paths keep the same number of segments. -/
theorem kept_comm (a b : List α) : kept a b = kept b a := by
  unfold kept
  dsimp only
  rw [agreement_comm b.reverse, Bool.and_comm]

/-- At least one segment is kept. -/
theorem kept_pos (a b : List α) : 0 < kept a b := by
  unfold kept
  dsimp only
  split_ifs <;> omega

/-- No more segments are kept than there are. -/
theorem kept_le_length {a b : List α} (ha : a ≠ []) : kept a b ≤ a.length := by
  have hl := List.length_pos_iff.2 ha
  unfold kept
  dsimp only
  split_ifs with h
  · rw [Bool.and_eq_true, decide_eq_true_iff] at h
    exact h.1
  · exact hl

/-- **If two paths differ, the least number of segments in which they do is kept.** -/
theorem kept_least {k : Nat} {a b : List α} (h : Differ k a b) :
    Differ (kept a b) a b ∧ kept a b ≤ k := by
  obtain ⟨ha, hb, hk⟩ := differ_iff.1 h
  have kept_eq : kept a b = agreement a.reverse b.reverse + 1 :=
    if_pos (by rw [Bool.and_eq_true, decide_eq_true_iff, decide_eq_true_iff]; omega)
  rw [kept_eq]
  exact ⟨differ_iff.2 ⟨by omega, by omega, by omega⟩, hk⟩

/-- If two paths differ nowhere, one segment is kept. -/
theorem kept_eq_one {a b : List α} (h : ∀ k, ¬Differ k a b) : kept a b = 1 := by
  refine if_neg fun hk => ?_
  rw [Bool.and_eq_true, decide_eq_true_iff, decide_eq_true_iff] at hk
  exact h _ (differ_iff.2 ⟨hk.1, hk.2, Nat.lt_succ_self _⟩)

/-- **What is kept of two paths is kept of what is left of them.** -/
theorem kept_last {a b : List α} (ha : a ≠ []) (hb : b ≠ []) :
    kept (last (kept a b) a) (last (kept a b) b) = kept a b := by
  have hka := kept_le_length ha (b := b)
  have hkb : kept a b ≤ b.length := kept_comm a b ▸ kept_le_length hb
  by_cases hd : ∃ k, Differ k a b
  · -- The least number in which the paths differ is the least one for what is left of them.
    obtain ⟨k, hd⟩ := hd
    have differ := (kept_least hd).1
    obtain ⟨again, le⟩ := kept_least ((differ_last (Nat.le_refl _) hka hkb).2 differ)
    exact Nat.le_antisymm le (kept_least ((differ_last le hka hkb).1 again)).2
  · rw [not_exists] at hd
    rw [kept_eq_one hd]
    refine kept_eq_one fun k hk => hd k ?_
    have one := kept_eq_one hd
    rw [one] at hka hkb
    have le := hk.1
    rw [length_last hka] at le
    exact (differ_last le hka hkb).1 hk

/-- **Two paths differ nowhere if and only if one of them ends with the other.** -/
theorem forall_not_differ_iff {a b : List α} :
    (∀ k, ¬Differ k a b) ↔ a <:+ b ∨ b <:+ a := by
  constructor
  · intro h
    rcases Nat.le_total a.length b.length with hl | hl
    · refine .inl (suffix_iff_last.2 ⟨hl, ?_⟩)
      by_contra hne
      exact h a.length ⟨Nat.le_refl _, hl, hne⟩
    · refine .inr (suffix_iff_last.2 ⟨hl, ?_⟩)
      by_contra hne
      exact h b.length ⟨hl, Nat.le_refl _, fun he => hne he.symm⟩
  · -- The last segments of an end of a path are those of the path.
    have agree : ∀ {k} {u v : List α}, k ≤ u.length → u <:+ v → last k u = last k v := by
      rintro k u _ hk ⟨w, rfl⟩
      have hl : w.length + u.length - k = w.length + (u.length - k) := by omega
      rw [last, last, List.length_append, hl, List.drop_length_add_append]
    rintro (h | h) k ⟨ha, hb, hne⟩
    · exact hne (agree ha h)
    · exact hne (agree hb h).symm

/-- **What is kept of two paths is the same if and only if one of them ends with the other.** -/
theorem last_kept_eq_iff {a b : List α} (ha : a ≠ []) (hb : b ≠ []) :
    last (kept a b) a = last (kept a b) b ↔ a <:+ b ∨ b <:+ a := by
  rw [← forall_not_differ_iff]
  constructor
  · exact fun he k hk => (kept_least hk).1.2.2 he
  · intro h
    by_contra hne
    exact h _ ⟨kept_le_length ha, kept_comm a b ▸ kept_le_length hb, hne⟩

end Suffix
end TypeMismatch
