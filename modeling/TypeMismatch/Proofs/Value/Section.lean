import TypeMismatch.Proofs.Value.Mapping

/-!
# What a mapping says about its sections

Settings are read from sections (`_section`), the mappings under some keys of a mapping.  About a
key of a section a mapping says nothing, or that it has a value, or that it has none since the
section is no mapping (`asked`).  Laying mappings over each other composes what they say
(`asked_lay`), with one exception: where both say that the value is a mapping, the two are combined.
A section must not be laid over what is no mapping: it would take its place, and what was said
before about the other keys, that they have no value, would be lost.
-/

namespace TypeMismatch
namespace Mapping

/-- The mapping that a value is in a program: every key comes once, in the mapping and in the
mappings under its keys. -/
structure Proper (m : Mapping) : Prop where
  distinct : Distinct m
  sections : ∀ name, Distinct (sectionAt m name)

/-- What a mapping says about a key of a section: nothing, or that it has a value, or that there is
none because the section is no mapping. -/
def asked (m : Mapping) (name key : String) : Option (Option Value) :=
  match get? m name with
  | none => none
  | some v => if v.isMapping then (get? v.entries key).map some else some none

/-- What is said by two mappings of which the second is laid over the first. -/
inductive Composes : Option (Option Value) → Option (Option Value) → Option (Option Value) → Prop
  /-- The second says nothing. -/
  | kept {a} : Composes a none a
  /-- What the second says replaces what the first says. -/
  | replaced {a b} : Composes a (some b) (some b)
  /-- Both say that there is a mapping, and these are combined. -/
  | combined {u v w : Value} : u.isMapping = true → v.isMapping = true → w.isMapping = true →
      Composes (some (some u)) (some (some v)) (some (some w))

section
variable {m : Mapping} {name : String} {v : Value}

/-- The section of a key has the entries of its value. -/
theorem sectionAt_eq {name : Value} (h : get? m name = some v) : sectionAt m name = v.entries := by
  rw [sectionAt, getD, h]
  rfl

/-- The section of a missing key is empty. -/
theorem sectionAt_eq_nil {name : Value} (h : get? m name = none) : sectionAt m name = [] := by
  rw [sectionAt, getD, h]
  rfl

/-- Only the mappings that stand in a mapping are sections of it. -/
theorem proper_of_forall (distinct : Distinct m) (h : ∀ e ∈ m, Distinct e.2.entries) :
    m.Proper := by
  refine ⟨distinct, fun name => ?_⟩
  unfold sectionAt getD get?
  cases hf : m.find? fun e => e.1.isSameKey name with
  | none => exact .nil
  | some e => exact h e (List.mem_of_find?_eq_some hf)

/-- Nothing is asked for in a missing section. -/
theorem asked_of_none (h : get? m name = none) (key : String) : asked m name key = none := by
  rw [asked, h]

/-- In a section that is a mapping, what stands under the key is asked for. -/
theorem asked_of_isMapping (h : get? m name = some v) (hv : v.isMapping = true) (key : String) :
    asked m name key = (get? v.entries key).map some := by
  rw [asked, h]
  exact if_pos hv

/-- In a section that is no mapping, the standard is asked for. -/
theorem asked_of_not_isMapping (h : get? m name = some v) (hv : v.isMapping = false)
    (key : String) : asked m name key = some none := by
  rw [asked, h]
  exact if_neg (by rw [hv]; decide)

end

/-- A value under a key of a section is the one that is asked for. -/
theorem getD_sectionAt (m : Mapping) (name key : String) (fallback : Value) :
    getD (sectionAt m name) key fallback = (asked m name key).join.getD fallback := by
  cases hv : get? m name with
  | none =>
    rw [sectionAt_eq_nil hv, asked_of_none hv]
    rfl
  | some v =>
    rw [sectionAt_eq hv, getD]
    cases hm : v.isMapping with
    | false =>
      rw [Value.entries_eq_nil hm, asked_of_not_isMapping hv hm]
      rfl
    | true =>
      rw [asked_of_isMapping hv hm]
      cases get? v.entries key <;> rfl

/-- What a value says with which another one is combined or which takes its place. -/
theorem composes_merged (combine : Mapping → Mapping → Mapping) (old : Option Value) (v : Value) :
    Composes (old.map some) (some (some v)) (some (some (merged combine old v))) := by
  cases hv : v.isMapping with
  | false =>
    rw [merged_eq_self combine hv]
    exact .replaced
  | true =>
    by_cases hu : ∀ u ∈ old, u.isMapping = false
    · rw [merged_of_not_isMapping combine hu]
      exact .replaced
    · obtain ⟨u, rfl, mapping⟩ : ∃ u, old = some u ∧ u.isMapping = true := by simpa using hu
      rw [merged_of_isMapping combine mapping hv]
      exact .combined mapping hv rfl

/-- What a mapping says that is combined with another one. -/
theorem Combines.composes {combine : Mapping → Mapping → Mapping} (way : Combines combine)
    {updates : Mapping} (distinct : Distinct updates) (base : Mapping) (key : Value) :
    Composes ((get? base key).map some) ((get? updates key).map some)
      ((get? (combine base updates) key).map some) := by
  obtain ⟨value, rfl, hvalue⟩ := way.eq_putOver
  rw [get?_putOver value distinct]
  cases get? updates key with
  | none => exact .kept
  | some w =>
    change Composes _ _ (some (some (value (get? base key) w)))
    rcases hvalue (get? base key) w with he | ⟨combine, he⟩
    · rw [he]
      exact .replaced
    · rw [he]
      exact composes_merged combine (get? base key) w

/-- What a mapping says that is laid over another one. -/
theorem composes_entries {u v : Value} (hu : u.isMapping = true) (hv : v.isMapping = true)
    (distinct : Distinct v.entries) (key : Value) :
    Composes ((get? u.entries key).map some) ((get? v.entries key).map some)
      ((get? (layValue (some u) v).entries key).map some) := by
  obtain ⟨combine, way, he⟩ := layValue_of_isMapping hu hv
  rw [he]
  exact way.composes distinct u.entries key

/-- **Laying one mapping over another composes what they say**, if no section that is a mapping is
laid over something else. -/
theorem asked_lay {first second : Mapping} (h : second.Proper) {name : String}
    (apart : ∀ u v, get? first name = some u → get? second name = some v → v.isMapping = true →
      u.isMapping = true) (key : String) :
    Composes (asked first name key) (asked second name key)
      (asked (lay first second) name key) := by
  cases hv : get? second name with
  | none =>
    have same : asked (lay first second) name key = asked first name key := by
      rw [asked, get?_lay_of_none h.distinct hv]
      rfl
    rw [asked_of_none hv, same]
    exact .kept
  | some v =>
    have laid : get? (lay first second) name = some (layValue (get? first name) v) :=
      get?_lay_of_some h.distinct hv
    have kind := isMapping_layValue (get? first name) v
    cases hm : v.isMapping with
    | false =>
      rw [asked_of_not_isMapping hv hm, asked_of_not_isMapping laid (kind.trans hm)]
      exact .replaced
    | true =>
      have distinct : Distinct v.entries := sectionAt_eq hv ▸ h.sections name
      rw [asked_of_isMapping hv hm, asked_of_isMapping laid (kind.trans hm)]
      cases hu : get? first name with
      | none =>
        rw [asked_of_none hu, layValue_none]
        cases get? v.entries key
        · exact .kept
        · exact .replaced
      | some u =>
        have base := apart u v hu hv hm
        rw [asked_of_isMapping hu base]
        exact composes_entries base hm distinct key

/-- Keys that come once in two values do so in what is left if one is laid over the other. -/
theorem distinct_entries_layValue {old : Option Value} {v : Value}
    (ho : ∀ u ∈ old, Distinct u.entries) (hv : Distinct v.entries) :
    Distinct (layValue old v).entries := by
  cases hm : v.isMapping with
  | false => rwa [layValue_eq_self hm]
  | true =>
    cases old with
    | none => rwa [layValue_none]
    | some u =>
      have base : Distinct u.entries := ho u rfl
      cases hb : u.isMapping with
      | false => rwa [layValue_of_not_isMapping fun w hw => Option.some.inj hw ▸ hb]
      | true =>
        obtain ⟨combine, way, he⟩ := layValue_of_isMapping hb hm
        obtain ⟨value, rfl, -⟩ := way.eq_putOver
        rw [he]
        exact base.putOver value v.entries

/-- A proper mapping over a proper one is proper. -/
theorem Proper.lay {first second : Mapping} (h₁ : first.Proper) (h₂ : second.Proper) :
    (lay first second).Proper := by
  refine ⟨h₁.distinct.lay second, fun name => ?_⟩
  cases hv : get? second name with
  | none =>
    rw [sectionAt, getD, get?_lay_of_none h₂.distinct hv]
    exact h₁.sections name
  | some v =>
    rw [sectionAt_eq (get?_lay_of_some h₂.distinct hv)]
    refine distinct_entries_layValue (fun u hu => ?_) (sectionAt_eq hv ▸ h₂.sections name)
    exact sectionAt_eq hu ▸ h₁.sections name

end Mapping
end TypeMismatch
