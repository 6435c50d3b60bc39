import TypeMismatch.Value.Mapping

/-!
# Looking up what is laid over

A mapping is known by what it has under each key, and a key may be given by any value that stands
for the same thing.  A put entry is found under its key, and nothing else changes (`get?_put`).  Of
two mappings laid one over the other (`deep_update`), a key that only one of them has leads where it
led, and a key that both have leads to the later value laid over the earlier one (`get?_lay`), if no
key of the later mapping comes twice.  Keys that come once stay so, whatever is laid over them
(`Distinct.lay`).

With values it is decided whether they are mappings: only a mapping is laid over a mapping, and
whether the result is one does not depend on what was there before (`isMapping_layValue`).
-/

namespace TypeMismatch

namespace Value

/-! ### Keys -/

/-- Two values are the same key if they stand for the same thing. -/
theorem isSameKey_iff {v w : Value} :
    v.isSameKey w = true ↔ ∃ k, v.key? = some k ∧ w.key? = some k := by
  rw [isSameKey, isKey, Bool.and_eq_true, decide_eq_true_eq, Option.isSome_iff_exists]
  constructor
  · rintro ⟨⟨k, hk⟩, h⟩
    exact ⟨k, hk, h ▸ hk⟩
  · rintro ⟨k, hv, hw⟩
    exact ⟨⟨k, hv⟩, hv.trans hw.symm⟩

/-- **A key is the same key as itself.** -/
theorem isSameKey_self_iff {v : Value} : v.isSameKey v = true ↔ v.isKey = true := by
  rw [isSameKey_iff, isKey, Option.isSome_iff_exists]
  exact exists_congr fun k => and_self_iff

/-- Being the same key is mutual. -/
theorem isSameKey_comm (v w : Value) : v.isSameKey w = w.isSameKey v := by
  rw [Bool.eq_iff_iff, isSameKey_iff, isSameKey_iff]
  exact exists_congr fun k => and_comm

/-- The same key is the same key as whatever the other one is. -/
theorem isSameKey_congr {v w : Value} (h : v.isSameKey w = true) (k : Value) :
    v.isSameKey k = w.isSameKey k := by
  obtain ⟨i, hv, hw⟩ := isSameKey_iff.1 h
  rw [isSameKey, isSameKey, isKey, isKey, hv, hw]

/-- Whether a value is a mapping, itself or as a part of a ring. -/
def isMapping (v : Value) : Bool :=
  match v.opened with
  | map _ => true
  | _ => false

/-- A mapping that is opened is a mapping of its entries. -/
theorem opened_eq_map {v : Value} (h : v.isMapping = true) : v.opened = map v.entries := by
  unfold isMapping at h
  unfold entries
  split at h
  · rename_i he
    rw [he]
  · cases h

/-- A text is no mapping. -/
theorem isMapping_ofPoints (ps : List Text.Point) : (ofPoints ps).isMapping = false := by
  rcases ofPoints_cases ps with ⟨s, he, -⟩ | ⟨t, he, -⟩
  · rw [he]
    rfl
  · rw [he]
    rfl

/-- Only a mapping has entries. -/
theorem entries_eq_nil {v : Value} (h : v.isMapping = false) : v.entries = [] := by
  unfold isMapping at h
  unfold entries
  split
  · rename_i he
    rw [he] at h
    cases h
  · rfl

end Value

namespace Mapping

variable {m base : Mapping} {k t : Value}

/-- Every key comes once. -/
def Distinct (m : Mapping) : Prop := m.Pairwise fun e f => e.1.isSameKey f.1 = false

instance (m : Mapping) : Decidable (Distinct m) :=
  inferInstanceAs (Decidable (m.Pairwise fun e f => e.1.isSameKey f.1 = false))

/-- What stands as a key is one, and every key comes once. -/
structure Keyed (m : Mapping) : Prop where
  distinct : Distinct m
  keys : ∀ e ∈ m, e.1.isKey = true

instance (m : Mapping) : Decidable (Keyed m) :=
  decidable_of_iff (Distinct m ∧ ∀ e ∈ m, e.1.isKey = true)
    ⟨fun h => ⟨h.1, h.2⟩, fun h => ⟨h.distinct, h.keys⟩⟩

/-- Whether every key comes once depends on the keys only. -/
theorem distinct_iff_keys :
    Distinct m ↔ (m.map Prod.fst).Pairwise fun k l => k.isSameKey l = false := by
  rw [List.pairwise_map, Distinct]

/-! ### Looking up -/

/-- A key is looked for from the first entry on. -/
theorem get?_cons (e : Value × Value) (m : Mapping) (t : Value) :
    get? (e :: m) t = if e.1.isSameKey t then some e.2 else get? m t := by
  unfold get?
  rw [List.find?_cons]
  split
  · rename_i h
    rw [if_pos h]
    rfl
  · rename_i h
    rw [if_neg (by rw [h]; decide)]

/-- A key is missing exactly if no entry has it. -/
theorem get?_eq_none_iff : get? m t = none ↔ ∀ e ∈ m, e.1.isSameKey t = false := by
  simp [get?]

/-- A found value is the value of an entry. -/
theorem exists_mem_of_get? {v : Value} (h : get? m t = some v) :
    ∃ e ∈ m, e.1.isSameKey t = true ∧ e.2 = v := by
  obtain ⟨e, he, rfl⟩ := Option.map_eq_some_iff.1 h
  have same := List.find?_some he
  exact ⟨e, List.mem_of_find?_eq_some he, same, rfl⟩

/-- A key is looked up by what it stands for. -/
theorem get?_congr (h : k.isSameKey t = true) (m : Mapping) : get? m k = get? m t := by
  unfold get?
  congr 2
  funext e
  rw [e.1.isSameKey_comm k, e.1.isSameKey_comm t, Value.isSameKey_congr h]

/-- **A put entry is found under its key**, and nothing else changes. -/
theorem get?_put (m : Mapping) (k v t : Value) :
    get? (put m k v) t = if k.isSameKey t then some v else get? m t := by
  induction m with
  | nil => exact get?_cons (k, v) [] t
  | cons e m ih =>
    rw [put]
    split
    · rename_i h
      rw [get?_cons, get?_cons, Value.isSameKey_congr h]
      split <;> rfl
    · rename_i h
      rw [get?_cons, get?_cons, ih]
      -- No other entry is under the key of the put one.
      by_cases ht : k.isSameKey t = true
      · have apart : ¬e.1.isSameKey t = true := by
          rw [Value.isSameKey_comm, ← Value.isSameKey_congr ht, Value.isSameKey_comm]
          exact h
        rw [if_neg apart, if_pos ht, if_pos ht]
      · rw [if_neg ht, if_neg ht]

/-- **An entry that is put over another one is found over it.** -/
theorem get?_putOver (value : Option Value → Value → Value) {updates : Mapping}
    (h : Distinct updates) (base : Mapping) (t : Value) :
    get? (putOver value base updates) t =
      ((get? updates t).map (value (get? base t))).or (get? base t) := by
  unfold putOver
  induction updates generalizing base with
  | nil => rfl
  | cons e updates ih =>
    obtain ⟨he, hes⟩ := List.pairwise_cons.1 h
    rw [List.foldl_cons, ih hes, get?_put, get?_cons]
    by_cases ht : e.1.isSameKey t = true
    · have none : get? updates t = none := get?_eq_none_iff.2 fun f hf => by
        rw [Value.isSameKey_comm, ← Value.isSameKey_congr ht]
        exact he f hf
      rw [none, if_pos ht, if_pos ht, get?_congr ht]
      rfl
    · rw [if_neg ht, if_neg ht]

/-- To lay a mapping over another one is to put its entries, laid over the ones before them. -/
theorem lay_eq_putOver (base updates : Mapping) :
    lay base updates = putOver layValue base updates := by
  induction updates generalizing base with
  | nil => rw [lay, putOver, List.foldl_nil]
  | cons e updates ih =>
    obtain ⟨k, v⟩ := e
    rw [lay, ih, layEntry, putOver, putOver, List.foldl_cons]

/-- **What is laid over a mapping is found in it.**  A value that is there before decides only how a
mapping is laid over it. -/
theorem get?_lay {updates : Mapping} (h : Distinct updates) (base : Mapping) (t : Value) :
    get? (lay base updates) t =
      ((get? updates t).map (layValue (get? base t))).or (get? base t) := by
  rw [lay_eq_putOver, get?_putOver layValue h]

section
variable {first second : Mapping}

/-- What only the first mapping has is left. -/
theorem get?_lay_of_none (h : Distinct second) (hk : get? second t = none) :
    get? (lay first second) t = get? first t := by
  rw [get?_lay h, hk]
  rfl

/-- Under a key of the second mapping its value is laid over that of the first. -/
theorem get?_lay_of_some (h : Distinct second) {v : Value} (hk : get? second t = some v) :
    get? (lay first second) t = some (layValue (get? first t) v) := by
  rw [get?_lay h, hk]
  rfl

end

/-! ### Keys that come once -/

/-- Keys keep a property when one more is put that has it. -/
theorem forall_put {P : Value → Prop} {v : Value} (hm : ∀ e ∈ m, P e.1) (hk : P k) :
    ∀ e ∈ put m k v, P e.1 := by
  induction m with
  | nil => exact List.forall_mem_singleton.2 hk
  | cons e m ih =>
    rw [List.forall_mem_cons] at hm
    rw [put]
    split
    · exact List.forall_mem_cons.2 hm
    · exact List.forall_mem_cons.2 ⟨hm.1, ih hm.2⟩

/-- Keys stay distinct when one is put. -/
theorem Distinct.put (h : Distinct m) (k v : Value) : Distinct (put m k v) := by
  induction m with
  | nil => exact List.pairwise_singleton _ _
  | cons e m ih =>
    obtain ⟨he, hm⟩ := List.pairwise_cons.1 h
    rw [Mapping.put]
    split
    · exact List.pairwise_cons.2 ⟨he, hm⟩
    · rename_i hk
      exact List.pairwise_cons.2
        ⟨forall_put (P := fun l => e.1.isSameKey l = false) he (Bool.eq_false_iff.2 hk), ih hm⟩

/-- They stay so when many are put. -/
theorem Distinct.putOver (value : Option Value → Value → Value) (h : Distinct base)
    (updates : Mapping) : Distinct (putOver value base updates) := by
  unfold Mapping.putOver
  induction updates generalizing base with
  | nil => exact h
  | cons e updates ih => exact ih (h.put e.1 _)

/-- And when a mapping is laid over another one. -/
theorem Distinct.lay (h : Distinct base) (updates : Mapping) : Distinct (lay base updates) := by
  rw [lay_eq_putOver]
  exact h.putOver layValue updates

/-! ### Values that are laid over values -/

section
variable (combine : Mapping → Mapping → Mapping)

/-- What is no mapping replaces what was there. -/
theorem merged_eq_self {v : Value} (h : v.isMapping = false) (old : Option Value) :
    merged combine old v = v := by
  unfold merged
  split
  · rename_i hv
    rw [Value.isMapping, hv] at h
    cases h
  · rfl

/-- What takes the place of no mapping is what was given. -/
theorem merged_of_not_isMapping {old : Option Value} (h : ∀ u ∈ old, u.isMapping = false)
    (v : Value) : merged combine old v = v := by
  unfold merged
  split
  · rename_i he _
    obtain ⟨u, hu, he⟩ := Option.map_eq_some_iff.1 he
    have := h u hu
    rw [Value.isMapping, he] at this
    cases this
  · rfl

/-- A mapping over a mapping is combined with it. -/
theorem merged_of_isMapping {u v : Value} (hu : u.isMapping = true) (hv : v.isMapping = true) :
    merged combine (some u) v = .map (combine u.entries v.entries) := by
  rw [merged, Option.map_some, Value.opened_eq_map hu, Value.opened_eq_map hv]

end

/-- A way in which mappings are combined when values are laid over each other. -/
inductive Combines : (Mapping → Mapping → Mapping) → Prop
  | lay : Combines lay
  | levels (n : Nat) : Combines (layLevels n)

/-- **A value is laid over another one** in one of the ways in which mappings are combined. -/
theorem layValue_eq_merged (old : Option Value) (v : Value) :
    ∃ combine, Combines combine ∧ layValue old v = merged combine old v := by
  cases v with
  | map es =>
    refine ⟨_, .lay, ?_⟩
    rw [layValue, merged]
    cases old.map Value.opened with
    | none => rfl
    | some u => cases u <;> rfl
  | again isMap n parts =>
    exact ⟨_, .levels ((old.map fun u => levels u (.again isMap n parts)).getD 0), by rw [layValue]⟩
  | _ =>
    refine ⟨_, .lay, ?_⟩
    rw [layValue, merged_eq_self _ rfl]

/-- **To combine two mappings is to put the entries of the second one in turn**, each of them over
the value before it or in its place. -/
theorem Combines.eq_putOver {combine : Mapping → Mapping → Mapping} (way : Combines combine) :
    ∃ value, combine = putOver value ∧
      ∀ old v, value old v = v ∨ ∃ combine, value old v = merged combine old v := by
  cases way with
  | lay =>
    refine ⟨layValue, funext fun base => funext (lay_eq_putOver base), fun old v => .inr ?_⟩
    obtain ⟨combine, -, he⟩ := layValue_eq_merged old v
    exact ⟨combine, he⟩
  | levels n =>
    cases n with
    | zero => exact ⟨fun _ v => v, rfl, fun _ _ => .inl rfl⟩
    | succ n => exact ⟨merged (layLevels n), rfl, fun _ _ => .inr ⟨_, rfl⟩⟩

/-- What is no mapping replaces what was there. -/
theorem layValue_eq_self {v : Value} (h : v.isMapping = false) (old : Option Value) :
    layValue old v = v := by
  obtain ⟨combine, -, he⟩ := layValue_eq_merged old v
  rw [he, merged_eq_self combine h]

/-- What takes the place of no mapping is what was given. -/
theorem layValue_of_not_isMapping {old : Option Value} (h : ∀ u ∈ old, u.isMapping = false)
    (v : Value) : layValue old v = v := by
  obtain ⟨combine, -, he⟩ := layValue_eq_merged old v
  rw [he, merged_of_not_isMapping combine h]

/-- A value under a key that was not there is what was given. -/
theorem layValue_none (v : Value) : layValue none v = v :=
  layValue_of_not_isMapping (fun _ hu => absurd hu (Option.not_mem_none _)) v

/-- A mapping over a mapping has the entries of the one combined with those of the other one. -/
theorem layValue_of_isMapping {u v : Value} (hu : u.isMapping = true) (hv : v.isMapping = true) :
    ∃ combine, Combines combine ∧ layValue (some u) v = .map (combine u.entries v.entries) := by
  obtain ⟨combine, way, he⟩ := layValue_eq_merged (some u) v
  exact ⟨combine, way, he.trans (merged_of_isMapping combine hu hv)⟩

/-- Whether a value is a mapping does not depend on what it is laid over. -/
theorem isMapping_layValue (old : Option Value) (v : Value) :
    (layValue old v).isMapping = v.isMapping := by
  cases hv : v.isMapping with
  | false => rw [layValue_eq_self hv, hv]
  | true =>
    by_cases hu : ∀ u ∈ old, u.isMapping = false
    · rw [layValue_of_not_isMapping hu, hv]
    · cases old with
      | none => exact absurd (fun u hu => nomatch hu) hu
      | some u =>
        have base : u.isMapping = true := by simpa using hu
        obtain ⟨combine, -, h⟩ := layValue_of_isMapping base hv
        rw [h]
        rfl

end Mapping
end TypeMismatch
