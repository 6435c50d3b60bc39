import TypeMismatch.Proofs.Value.Mapping

/-!
# Paths of keys

A value is looked into along a path of keys: each key is looked up in the mapping under the one
before it, and where there is no mapping the path leads nowhere (`at?`).  A property of the mappings
that `deep_update` goes through can be asked of every mapping that such a path leads to (`Nested`);
values of which that can be said have an end on every path, which parts of a ring do not.
-/

namespace TypeMismatch
namespace Value

/-- The value at the end of a path of keys. -/
def at? : Value → List Value → Option Value
  | v, [] => some v
  | .map es, k :: path => (Mapping.get? es k).bind fun v => at? v path
  | _, _ :: _ => none

/-- A property of all mappings in a value, at any depth, of which none is a part of a ring. -/
inductive Nested (P : Mapping → Prop) : Value → Prop
  | leaf {v : Value} : v.isMapping = false → Nested P v
  | map {es : Mapping} : P es → (∀ e ∈ es, Nested P e.2) → Nested P (.map es)

section
variable {u v : Value} {es : Mapping} {k : Value} {path : List Value}

/-- At the end of a path stands the value. -/
theorem at?_nil (v : Value) : v.at? [] = some v := by
  cases v <;> rfl

/-- A path leads into the value under its first key. -/
theorem at?_map_cons (es : Mapping) (k : Value) (path : List Value) :
    (Value.map es).at? (k :: path) = (Mapping.get? es k).bind fun v => v.at? path := rfl

/-- It leads there if the key is known. -/
theorem at?_of_get? (h : Mapping.get? es k = some v) :
    (Value.map es).at? (k :: path) = v.at? path := by
  rw [at?_map_cons, h]
  rfl

/-- It leads nowhere if the key is missing. -/
theorem at?_of_get?_none (h : Mapping.get? es k = none) :
    (Value.map es).at? (k :: path) = none := by
  rw [at?_map_cons, h]
  rfl

/-- A path goes on in a mapping. -/
theorem at?_cons_eq_some (h : v.at? (k :: path) = some u) :
    ∃ es w, v = .map es ∧ Mapping.get? es k = some w ∧ w.at? path = some u := by
  cases v with
  | map es =>
    obtain ⟨w, hw, h⟩ := Option.bind_eq_some_iff.1 h
    exact ⟨es, w, rfl, hw, h⟩
  | _ => cases h

variable {P Q : Mapping → Prop}

/-- What holds of every mapping in a value holds of the mapping. -/
theorem Nested.property (h : (Value.map es).Nested P) : P es := by
  cases h with
  | leaf h => cases h
  | map h _ => exact h

/-- It holds within the entries. -/
theorem Nested.entries (h : (Value.map es).Nested P) : ∀ e ∈ es, e.2.Nested P := by
  cases h with
  | leaf h => cases h
  | map _ h => exact h

/-- It holds within the value of a key. -/
theorem Nested.get? (h : (Value.map es).Nested P) (hk : Mapping.get? es k = some v) :
    v.Nested P := by
  obtain ⟨e, he, -, rfl⟩ := Mapping.exists_mem_of_get? hk
  exact h.entries e he

/-- It holds wherever a path leads. -/
theorem Nested.at? (h : v.Nested P) (hu : v.at? path = some u) : u.Nested P := by
  induction path generalizing v with
  | nil => rwa [Option.some.inj ((at?_nil v).symm.trans hu)] at h
  | cons k path ih =>
    obtain ⟨es, w, rfl, hw, hu⟩ := at?_cons_eq_some hu
    exact ih (h.get? hw) hu

/-- What follows from it holds of every mapping too. -/
theorem Nested.imp (hPQ : ∀ m, P m → Q m) (h : v.Nested P) : v.Nested Q := by
  induction h with
  | leaf h => exact .leaf h
  | map h _ ih => exact .map (hPQ _ h) ih

/-- Two properties of every mapping hold together of every mapping. -/
theorem Nested.and (hP : v.Nested P) (hQ : v.Nested Q) : v.Nested fun m => P m ∧ Q m := by
  induction hP with
  | leaf h => exact .leaf h
  | map h _ ih => exact .map ⟨h, hQ.property⟩ fun e he => ih e he (hQ.entries e he)

end

end Value
end TypeMismatch
