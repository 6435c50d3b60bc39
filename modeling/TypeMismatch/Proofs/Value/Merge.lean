import TypeMismatch.Proofs.Value.Path

/-!
# Laws of laying mappings over each other

A mapping that is laid over another one (`deep_update`) changes the entries under the keys that both
have, where they stand, and adds its other entries behind them (`lay_eq`).  The order of the keys,
at the top and wherever two mappings meet, follows from this, and so do the laws: what is laid over
a mapping twice is laid over it once (`layValue_layValue_self`), and three mappings may be laid over
each other in either order (`layValue_assoc`), unless the one in the middle puts something else
between two mappings.  There, laying the last one over the one in the middle first hides that
something else stood in between.

Each law is proved for values, where one is laid over another, by induction on the mappings in a
value; the step is the law for two lists of entries of which the values obey it.
-/

namespace TypeMismatch

open Value (Nested)

namespace Mapping

variable {a b c m n : Mapping} {k t u v w : Value}

/-! ### Putting -/

/-- A new key goes to the end. -/
theorem put_eq_append (h : get? m k = none) (v : Value) : put m k v = m ++ [(k, v)] := by
  induction m with
  | nil => rfl
  | cons e m ih =>
    obtain ⟨he, hm⟩ := List.forall_mem_cons.1 (get?_eq_none_iff.1 h)
    rw [put, if_neg (by rw [he]; decide), ih (get?_eq_none_iff.2 hm), List.cons_append]

/-- A value under a key that is there takes the place of the one before it. -/
theorem put_eq_map (hm : Distinct m) (h : get? m k = some u) (v : Value) :
    put m k v = m.map fun e => if e.1.isSameKey k then (e.1, v) else e := by
  induction m with
  | nil => cases h
  | cons e m ih =>
    obtain ⟨he, hm⟩ := List.pairwise_cons.1 hm
    rw [get?_cons] at h
    rw [put, List.map_cons]
    by_cases hk : e.1.isSameKey k = true
    · rw [if_pos hk, if_pos hk]
      have others : ∀ f ∈ m, (if f.1.isSameKey k then (f.1, v) else f) = f := fun f hf => by
        refine if_neg ?_
        rw [Value.isSameKey_comm, ← Value.isSameKey_congr hk, he f hf]
        decide
      rw [List.map_congr_left others, List.map_id'']
      exact fun _ => rfl
    · rw [if_neg hk] at h
      rw [if_neg hk, if_neg hk, ih hm h]

/-- What is there already may be put again. -/
theorem put_self (h : get? m k = some v) : put m k v = m := by
  induction m with
  | nil => cases h
  | cons e m ih =>
    rw [get?_cons] at h
    rw [put]
    by_cases hk : e.1.isSameKey k = true
    · rw [if_pos hk] at h ⊢
      rw [← Option.some.inj h]
    · rw [if_neg hk] at h ⊢
      rw [ih h]

/-- The value of an entry is found under the keys that are the same as its own. -/
theorem get?_of_mem (hm : Distinct m) {e : Value × Value} (he : e ∈ m)
    (hk : e.1.isSameKey t = true) : get? m t = some e.2 := by
  induction m with
  | nil => cases he
  | cons f m ih =>
    obtain ⟨hf, hm⟩ := List.pairwise_cons.1 hm
    rw [get?_cons]
    rcases List.mem_cons.1 he with rfl | he
    · rw [if_pos hk]
    · have apart : ¬f.1.isSameKey t = true := by
        rw [Value.isSameKey_comm, ← Value.isSameKey_congr hk, Value.isSameKey_comm, hf e he]
        decide
      rw [if_neg apart, ih hm he]

/-- What is found under a key is found under a key that is itself. -/
theorem isSameKey_self (h : get? m k = some v) : k.isSameKey k = true := by
  obtain ⟨e, -, hk, -⟩ := exists_mem_of_get? h
  rw [← Value.isSameKey_congr hk, hk]

/-- The value of an entry is found under the key of the entry. -/
theorem Keyed.get?_of_mem (hm : Keyed m) {e : Value × Value} (he : e ∈ m) :
    get? m e.1 = some e.2 :=
  Mapping.get?_of_mem hm.distinct he (Value.isSameKey_self_iff.2 (hm.keys e he))

/-! ### Laying, entry by entry -/

/-- An entry of a mapping over which another one is laid. -/
def laidEntry (updates : Mapping) (e : Value × Value) : Value × Value :=
  (e.1, ((get? updates e.1).map (layValue (some e.2))).getD e.2)

/-- Whether a mapping has no value under the key of an entry. -/
def isNew (base : Mapping) (e : Value × Value) : Bool := (get? base e.1).isNone

/-- **A mapping laid over another one** changes the entries that are there, and adds the new ones
behind them. -/
theorem lay_eq (ha : Distinct a) (hb : Distinct b) :
    lay a b = a.map (laidEntry b) ++ b.filter (isNew a) := by
  induction b generalizing a with
  | nil =>
    have same : laidEntry [] = id := rfl
    rw [lay, same, List.map_id, List.filter_nil, List.append_nil]
  | cons e b ih =>
    obtain ⟨k, v⟩ := e
    obtain ⟨hk, hb⟩ := List.pairwise_cons.1 hb
    have last : get? b k = none := get?_eq_none_iff.2 fun f hf => by
      rw [Value.isSameKey_comm]
      exact hk f hf
    -- The other entries are not under the key that is put.
    have others : ∀ x, b.filter (isNew (put a k x)) = b.filter (isNew a) := fun x =>
      List.filter_congr fun f hf => by rw [isNew, isNew, get?_put, if_neg (by simp [hk f hf])]
    rw [lay, layEntry, ih (ha.put k _) hb, others]
    cases hu : get? a k with
    | none =>
      have same : ∀ e ∈ a, laidEntry b e = laidEntry ((k, v) :: b) e := fun e he => by
        have apart := get?_eq_none_iff.1 hu e he
        rw [laidEntry, laidEntry, get?_cons, if_neg (by rw [Value.isSameKey_comm, apart]; decide)]
      have added : laidEntry b (k, v) = (k, v) := by rw [laidEntry, last]; rfl
      rw [layValue_none, put_eq_append hu, List.map_append, List.map_congr_left same,
        List.map_singleton, added, List.append_assoc, List.filter_cons_of_pos (by simp [isNew, hu])]
      rfl
    | some u =>
      rw [put_eq_map ha hu, List.map_map, List.filter_cons_of_neg (by simp [isNew, hu])]
      refine congrArg (· ++ _) (List.map_congr_left fun e he => ?_)
      rw [Function.comp_apply]
      by_cases hs : e.1.isSameKey k = true
      · -- The entry under the key, which no later entry changes.
        have value : e.2 = u := Option.some.inj ((get?_of_mem ha he hs).symm.trans hu)
        have later : get? b e.1 = none := (get?_congr hs b).trans last
        rw [if_pos hs, laidEntry, laidEntry, later, get?_cons,
          if_pos (by rw [Value.isSameKey_comm]; exact hs), value]
        rfl
      · rw [if_neg hs, laidEntry, laidEntry, get?_cons,
          if_neg (by rw [Value.isSameKey_comm]; exact hs)]

/-- **The order of the keys**: those of the first mapping, and behind them the new ones. -/
theorem keys_lay (ha : Distinct a) (hb : Distinct b) : (lay a b).map Prod.fst =
    a.map Prod.fst ++ (b.map Prod.fst).filter fun k => (get? a k).isNone := by
  rw [lay_eq ha hb, List.map_append, List.map_map, List.filter_map]
  rfl

/-! ### Values laid over values -/

/-- A mapping over a mapping is laid over it. -/
theorem layValue_map_map (m n : Mapping) :
    layValue (some (.map m)) (.map n) = .map (lay m n) := by
  rw [layValue]
  rfl

/-- A mapping that is laid over a mapping is combined with its entries. -/
theorem layValue_map (hu : u.isMapping = true) (n : Mapping) :
    layValue (some u) (.map n) = .map (lay u.entries n) := by
  rw [layValue, Option.map_some, Value.opened_eq_map hu]

/-- A value that is no mapping is replaced, by a mapping too. -/
theorem layValue_leaf (hu : u.isMapping = false) (v : Value) : layValue (some u) v = v :=
  layValue_of_not_isMapping (fun w hw => by rwa [← Option.some.inj hw]) v

/-- Keys come once at every depth, whatever is laid over what. -/
theorem Nested.layValue (hu : u.Nested Distinct) (hv : v.Nested Distinct) :
    (layValue (some u) v).Nested Distinct := by
  induction hu generalizing v with
  | leaf hu => rwa [layValue_leaf hu]
  | @map m hm hms ih =>
    cases hv with
    | leaf hv =>
      rw [layValue_eq_self hv]
      exact .leaf hv
    | @map n hn hns =>
      rw [layValue_map_map]
      refine .map (hm.lay n) fun e he => ?_
      rw [lay_eq hm hn] at he
      rcases List.mem_append.1 he with he | he
      · obtain ⟨f, hf, rfl⟩ := List.mem_map.1 he
        unfold laidEntry
        cases hk : Mapping.get? n f.1 with
        | none => exact hms f hf
        | some w => exact ih f hf ((Nested.map hn hns).get? hk)
      · exact hns e (List.mem_filter.1 he).1

/-! ### Laying twice -/

/-- Entries that are there already may be laid again. -/
theorem lay_eq_self (h : ∀ e ∈ n, ∃ w, get? m e.1 = some w ∧ layValue (some w) e.2 = w) :
    lay m n = m := by
  induction n with
  | nil => rw [lay]
  | cons e n ih =>
    obtain ⟨⟨w, hw, same⟩, hn⟩ := List.forall_mem_cons.1 h
    obtain ⟨k, v⟩ := e
    rw [lay, layEntry, hw, same, put_self hw, ih hn]

/-- **What is laid over a value again changes nothing.** -/
theorem layValue_layValue_self (hv : v.Nested Keyed) (old : Option Value) :
    layValue (some (layValue old v)) v = layValue old v := by
  induction hv generalizing old with
  | leaf hv => rw [layValue_eq_self hv, layValue_eq_self hv]
  | @map n hn _ ih =>
    -- Each entry is laid over what it has become itself.
    have twice : ∀ m, lay (lay m n) n = lay m n := fun m => lay_eq_self fun e he =>
      ⟨_, get?_lay_of_some hn.distinct (hn.get?_of_mem he), ih e he _⟩
    have once : lay n n = n := by
      have alone : lay [] n = n := by
        rw [lay_eq .nil hn.distinct, List.map_nil, List.nil_append]
        exact List.filter_eq_self.2 fun _ _ => rfl
      calc lay n n = lay (lay [] n) n := by rw [alone]
        _ = n := by rw [twice, alone]
    by_cases hu : ∀ u ∈ old, u.isMapping = false
    · rw [layValue_of_not_isMapping hu, layValue_map_map, once]
    · obtain ⟨u, rfl, mapping⟩ : ∃ u, old = some u ∧ u.isMapping = true := by
        simpa using hu
      rw [layValue_map mapping, layValue_map_map, twice]

/-! ### Laying three -/

/-- A value holds a mapping wherever the one before it and the one behind it do. -/
def Bridges (u v w : Value) : Prop :=
  ∀ path x y z, u.at? path = some x → v.at? path = some y → w.at? path = some z →
    x.isMapping = true → z.isMapping = true → y.isMapping = true

/-- Mappings bridge others if their values do under the keys that all three have. -/
theorem bridges_of_entries (h : ∀ e ∈ b, ∀ x z, get? a e.1 = some x → get? c e.1 = some z →
    Bridges x e.2 z) : Bridges (.map a) (.map b) (.map c) := by
  intro path x y z hx hy hz left right
  cases path with
  | nil =>
    rw [Value.at?_nil, Option.some.injEq] at hy
    rw [← hy]
    rfl
  | cons k path =>
    obtain ⟨_, u, he, hu, hx⟩ := Value.at?_cons_eq_some hx
    obtain rfl := Value.map.inj he
    obtain ⟨_, v, he, hv, hy⟩ := Value.at?_cons_eq_some hy
    obtain rfl := Value.map.inj he
    obtain ⟨_, w, he, hw, hz⟩ := Value.at?_cons_eq_some hz
    obtain rfl := Value.map.inj he
    obtain ⟨e, he, hk, rfl⟩ := exists_mem_of_get? hv
    exact h e he u w ((get?_congr hk _).trans hu) ((get?_congr hk _).trans hw) path x y z hx hy hz
      left right

/-- What bridges three mappings bridges their values under a key. -/
theorem Bridges.get? {x y z : Value} (h : Bridges (.map a) (.map b) (.map c))
    (ha : get? a k = some x) (hb : get? b k = some y) (hc : get? c k = some z) :
    Bridges x y z := by
  intro path x' y' z' hx hy hz
  exact h (k :: path) x' y' z' (by rwa [Value.at?_of_get? ha]) (by rwa [Value.at?_of_get? hb])
    (by rwa [Value.at?_of_get? hc])

/-- Lists of entries may be laid over each other in either order if the values that meet may. -/
theorem lay_assoc_of_entries (ha : Distinct a) (hb : Distinct b) (hc : Distinct c)
    (h : ∀ e ∈ a, ∀ v w, get? b e.1 = some v → get? c e.1 = some w →
      layValue (some (layValue (some e.2) v)) w = layValue (some e.2) (layValue (some v) w)) :
    lay (lay a b) c = lay a (lay b c) := by
  have kept : ∀ e ∈ a, laidEntry c (laidEntry b e) = laidEntry (lay b c) e := by
    intro e he
    rw [laidEntry, laidEntry, laidEntry, get?_lay hc]
    cases hv : get? b e.1 with
    | none =>
      cases get? c e.1 with
      | none => rfl
      | some w => simp [layValue_none]
    | some v =>
      cases hw : get? c e.1 with
      | none => rfl
      | some w => exact congrArg (e.1, ·) (h e he v w hv hw)
  have new : ∀ e ∈ c, isNew (lay a b) e = (isNew a e && isNew b e) := by
    intro e _
    rw [isNew, get?_lay hb, isNew, isNew]
    cases get? b e.1 <;> cases get? a e.1 <;> rfl
  have added : (lay b c).filter (isNew a) = (b.filter (isNew a)).map (laidEntry c) ++
      c.filter fun e => isNew a e && isNew b e := by
    rw [lay_eq hb hc, List.filter_append, List.filter_map, List.filter_filter]
    rfl
  calc lay (lay a b) c
      = (lay a b).map (laidEntry c) ++ c.filter (isNew (lay a b)) := lay_eq (ha.lay b) hc
    _ = a.map (laidEntry (lay b c)) ++ (b.filter (isNew a)).map (laidEntry c) ++
          c.filter fun e => isNew a e && isNew b e := by
      rw [List.filter_congr new, lay_eq ha hb, List.map_append, List.map_map]
      exact congrArg (· ++ _ ++ _) (List.map_congr_left kept)
    _ = a.map (laidEntry (lay b c)) ++ (lay b c).filter (isNew a) := by
      rw [added, List.append_assoc]
    _ = lay a (lay b c) := (lay_eq ha (hb.lay c)).symm

/-- **Three values may be laid over each other in either order**, if the second one holds a mapping
wherever the first and the third do. -/
theorem layValue_assoc (hu : u.Nested Distinct) (hv : v.Nested Distinct) (hw : w.Nested Distinct)
    (h : Bridges u v w) :
    layValue (some (layValue (some u) v)) w = layValue (some u) (layValue (some v) w) := by
  induction hu generalizing v w with
  | leaf hu => rw [layValue_leaf hu, layValue_leaf hu]
  | @map a ha has ih =>
    cases hw with
    | leaf hw => rw [layValue_eq_self hw, layValue_eq_self hw, layValue_eq_self hw]
    | @map c hc hcs =>
      have hv' : v.isMapping = true :=
        h [] _ _ _ (Value.at?_nil _) (Value.at?_nil _) (Value.at?_nil _) rfl rfl
      cases hv with
      | leaf hv => exact absurd hv' (by rw [hv]; decide)
      | @map b hb hbs =>
        rw [layValue_map_map, layValue_map_map, layValue_map_map, layValue_map_map]
        refine congrArg Value.map (lay_assoc_of_entries ha hb hc fun e he v w hv hw => ?_)
        have hb := Nested.map hb hbs
        have hc := Nested.map hc hcs
        exact ih e he (hb.get? hv) (hc.get? hw)
          (h.get? (get?_of_mem ha he (isSameKey_self hv)) hv hw)

/-! ### Along a path -/

section
variable {x y : Value} {path : List Value}

/-- Where both values hold mappings, these are laid over each other. -/
theorem at?_layValue_map (hv : v.Nested Distinct) (ha : u.at? path = some (.map m))
    (hb : v.at? path = some (.map n)) :
    (layValue (some u) v).at? path = some (.map (lay m n)) := by
  induction path generalizing u v with
  | nil =>
    rw [Value.at?_nil, Option.some.injEq] at ha hb
    rw [ha, hb, layValue_map_map, Value.at?_nil]
  | cons k path ih =>
    obtain ⟨a, u, rfl, hu, ha⟩ := Value.at?_cons_eq_some ha
    obtain ⟨b, v, rfl, hv', hb⟩ := Value.at?_cons_eq_some hb
    have laid : get? (lay a b) k = some (layValue (get? a k) v) :=
      get?_lay_of_some hv.property hv'
    rw [hu] at laid
    rw [layValue_map_map, Value.at?_of_get? laid]
    exact ih (hv.get? hv') ha hb

/-- What the second value says nothing of, and does not hide, is kept. -/
theorem at?_layValue_kept (hv : v.Nested Distinct) (ha : u.at? path = some x)
    (hb : v.at? path = none) (h : ∀ q w, q <+: path → q ≠ path → v.at? q = some w →
      w.isMapping = true) : (layValue (some u) v).at? path = some x := by
  induction path generalizing u v with
  | nil =>
    rw [Value.at?_nil] at hb
    cases hb
  | cons k path ih =>
    obtain ⟨a, u, rfl, hu, ha⟩ := Value.at?_cons_eq_some ha
    have mapping := h [] v List.nil_prefix (List.cons_ne_nil k path).symm (Value.at?_nil v)
    cases hv with
    | leaf hv => exact absurd mapping (by rw [hv]; decide)
    | @map b hb' hbs =>
      rw [layValue_map_map]
      cases hv' : get? b k with
      | none => rwa [Value.at?_of_get? ((get?_lay_of_none hb' hv').trans hu)]
      | some v =>
        have laid : get? (lay a b) k = some (layValue (get? a k) v) :=
          get?_lay_of_some hb' hv'
        rw [hu] at laid
        rw [Value.at?_of_get? laid]
        rw [Value.at?_of_get? hv'] at hb
        refine ih ((Nested.map hb' hbs).get? hv') ha hb fun q w hq hne hw => ?_
        refine h (k :: q) w (List.cons_prefix_cons.2 ⟨rfl, hq⟩) (fun he => hne ?_) ?_
        · exact (List.cons.inj he).2
        · rwa [Value.at?_of_get? hv']

/-- What the second value holds that is no mapping is left as it is. -/
theorem at?_layValue_leaf (hv : v.Nested Distinct) (hb : v.at? path = some y)
    (hy : y.isMapping = false) (old : Option Value) : (layValue old v).at? path = some y := by
  induction path generalizing v old with
  | nil =>
    obtain rfl := Option.some.inj ((Value.at?_nil v).symm.trans hb)
    rw [layValue_eq_self hy, Value.at?_nil]
  | cons k path ih =>
    by_cases hu : ∀ u ∈ old, u.isMapping = false
    · rwa [layValue_of_not_isMapping hu]
    · obtain ⟨u, rfl, mapping⟩ : ∃ u, old = some u ∧ u.isMapping = true := by
        simpa using hu
      obtain ⟨b, v, rfl, hv', hb⟩ := Value.at?_cons_eq_some hb
      rw [layValue_map mapping, Value.at?_of_get? (get?_lay_of_some hv.property hv')]
      exact ih (hv.get? hv') hb _

end

/-- **The laws of laying mappings over each other.**  Of mappings whose keys come once, at every
depth, and which have an end there: wherever both hold a mapping, at the top and on every path, the
keys are those of the first one in their order and behind them the new ones of the second one in
theirs, and no key comes twice; what only the first one has on a path is kept, unless the second one
puts something else than a mapping on the way; what the second one has on a path and is no mapping
is what is found there.  Laying a mapping again changes nothing.  Three mappings may be laid over
each other in either order, and all entries come in the same order, if there is no path on which the
second one has something else than a mapping and both others have one. -/
theorem lay_laws (ha : (Value.map a).Nested Keyed) (hb : (Value.map b).Nested Keyed)
    (hc : (Value.map c).Nested Keyed) :
    (∀ path m n, (Value.map a).at? path = some (.map m) →
      (Value.map b).at? path = some (.map n) →
      ∃ r, (Value.map (lay a b)).at? path = some (.map r) ∧ Distinct r ∧
        r.map Prod.fst =
          m.map Prod.fst ++ (n.map Prod.fst).filter fun k => (get? m k).isNone) ∧
    (∀ path v, (Value.map a).at? path = some v → (Value.map b).at? path = none →
      (∀ q w, q <+: path → q ≠ path → (Value.map b).at? q = some w → w.isMapping = true) →
      (Value.map (lay a b)).at? path = some v) ∧
    (∀ path v, (Value.map b).at? path = some v → v.isMapping = false →
      (Value.map (lay a b)).at? path = some v) ∧
    lay (lay a b) b = lay a b ∧
    (Bridges (.map a) (.map b) (.map c) → lay (lay a b) c = lay a (lay b c)) := by
  have da := ha.imp fun _ h => h.distinct
  have db := hb.imp fun _ h => h.distinct
  have dc := hc.imp fun _ h => h.distinct
  rw [← layValue_map_map]
  refine ⟨fun path m n hm hn => ?_, fun path v => at?_layValue_kept db,
    fun path v hv hl => at?_layValue_leaf db hv hl _, ?_, fun bridges => ?_⟩
  · have dm : Distinct m := (da.at? hm).property
    have dn : Distinct n := (db.at? hn).property
    exact ⟨lay m n, at?_layValue_map db hm hn, dm.lay n, keys_lay dm dn⟩
  · have again := layValue_layValue_self hb (some (.map a))
    rw [layValue_map_map, layValue_map_map] at again
    exact Value.map.inj again
  · have assoc := layValue_assoc da db dc bridges
    rw [layValue_map_map, layValue_map_map, layValue_map_map, layValue_map_map] at assoc
    exact Value.map.inj assoc

/-! ### An instance -/

/-- A mapping of which an inner one has the number one as a key. -/
def outerBase : Mapping :=
  [("p", .map [("x", .int 1), (.int 1, .map [("y", .null)])]), ("l", .int 5)]

/-- A mapping that gives that key as a truth value, and has a NaN for a key of its own. -/
def outerMiddle : Mapping :=
  [(.float .nan, .null), ("p", .map [(.bool true, .map [("z", .int 3)])])]

/-- The number one with a point. -/
def pointedOne : Value := .float (.finite false 4503599627370496 (-52))

/-- A mapping that gives it as a number with a point, and has mappings where one of the others has
something else. -/
def outerLast : Mapping :=
  [("p", .map [(pointedOne, .map [("y", .map [])])]), ("l", .map [])]

/-- In these mappings every key is a key and comes once. -/
theorem outer_nested : (Value.map outerBase).Nested Keyed ∧
    (Value.map outerMiddle).Nested Keyed ∧ (Value.map outerLast).Nested Keyed := by
  refine ⟨.map (by decide) ?_, .map (by decide) ?_, .map (by decide) ?_⟩
  · refine List.forall_mem_cons.2 ⟨.map (by decide) ?_, List.forall_mem_singleton.2 (.leaf rfl)⟩
    refine List.forall_mem_cons.2 ⟨.leaf rfl, List.forall_mem_singleton.2 ?_⟩
    exact .map (by decide) (List.forall_mem_singleton.2 (.leaf rfl))
  · refine List.forall_mem_cons.2 ⟨.leaf rfl, List.forall_mem_singleton.2 ?_⟩
    refine .map (by decide) (List.forall_mem_singleton.2 ?_)
    exact .map (by decide) (List.forall_mem_singleton.2 (.leaf rfl))
  · have none : (Value.map []).Nested Keyed := .map (by decide) (List.forall_mem_nil _)
    refine List.forall_mem_cons.2 ⟨.map (by decide) ?_, List.forall_mem_singleton.2 none⟩
    exact List.forall_mem_singleton.2 (.map (by decide) (List.forall_mem_singleton.2 none))

/-- In them the middle one bridges the others. -/
theorem outer_bridges : Bridges (.map outerBase) (.map outerMiddle) (.map outerLast) := by
  refine bridges_of_entries (List.forall_mem_cons.2 ⟨?_, List.forall_mem_singleton.2 ?_⟩)
  · intro x z hx
    cases hx
  · intro x z hx hz
    obtain rfl := Option.some.inj hx
    obtain rfl := Option.some.inj hz
    refine bridges_of_entries (List.forall_mem_singleton.2 fun x z hx hz => ?_)
    obtain rfl := Option.some.inj hx
    obtain rfl := Option.some.inj hz
    refine bridges_of_entries (List.forall_mem_singleton.2 fun x z hx => ?_)
    cases hx

/-- The hypotheses are satisfiable, and by mappings that meet at a depth of two under a key that
each gives in another way. -/
theorem lay_laws_outer :
    (Value.map outerBase).Nested Keyed ∧ (Value.map outerMiddle).Nested Keyed ∧
      (Value.map outerLast).Nested Keyed ∧
      Bridges (.map outerBase) (.map outerMiddle) (.map outerLast) ∧
      (∃ r, (Value.map (lay outerBase outerMiddle)).at? ["p", pointedOne] = some (.map r) ∧
        Distinct r ∧ r.map Prod.fst = [.text "y", .text "z"]) ∧
      (Value.map (lay outerBase outerMiddle)).at? ["p", "x"] = some (.int 1) ∧
      (Value.map (lay outerBase outerMiddle)).at? ["p", .int 1, "z"] = some (.int 3) ∧
      lay (lay outerBase outerMiddle) outerMiddle = lay outerBase outerMiddle ∧
      lay (lay outerBase outerMiddle) outerLast = lay outerBase (lay outerMiddle outerLast) := by
  obtain ⟨base, middle, last⟩ := outer_nested
  obtain ⟨keys, kept, leaf, twice, assoc⟩ := lay_laws base middle last
  refine ⟨base, middle, last, outer_bridges, keys ["p", pointedOne] _ _ rfl rfl,
    kept ["p", "x"] _ rfl rfl ?_, leaf ["p", .int 1, "z"] _ rfl rfl, twice, assoc outer_bridges⟩
  -- What is above the path is the middle mapping itself, and what it has under the first key.
  intro q w hq hne hw
  rcases List.prefix_cons_iff.1 hq with rfl | ⟨q, rfl, hq'⟩
  · obtain rfl := Option.some.inj hw
    rfl
  · rcases List.prefix_cons_iff.1 hq' with rfl | ⟨q, rfl, hq''⟩
    · obtain rfl := Option.some.inj hw
      rfl
    · rw [List.prefix_nil.1 hq''] at hne
      exact absurd rfl hne

end Mapping
end TypeMismatch
