import TypeMismatch.Proofs.Value.Path
import TypeMismatch.Proofs.Value.Section

/-!
# Placing values at the ends of paths

A value is placed into a mapping along a path of text keys (`parse_overrides`), and mappings that
the path needs are made on the way.  A path is blocked if a part of it leads to something else than
a mapping (`isBlocked_iff`).  What was placed is found (`at?_place`), and what stands on another
path, of which neither is a part of the other, stays (`at?_place_of_apart`); nothing comes up but on
the way to the placed value and in it (`at?_place_cases`).

Two values that are placed on such paths may be placed in either order, and the two mappings are the
same but for the order of their entries (`Reordered`, `place_comm`).  Which paths are blocked, and
what placing does, does not depend on that order (`Reordered.isBlocked`, `Reordered.place`).
-/

namespace TypeMismatch

namespace Value

/-- A number is no text as a key. -/
theorem floatKey_ne_text (x : Binary64) (s : String) : floatKey x ≠ .text s := by
  unfold floatKey
  split <;> nofun

/-- Only a text stands for a text as a key. -/
theorem key?_eq_text_iff {s : String} {k : Value} : k.key? = some (.text s) ↔ k = text s := by
  constructor
  · intro h
    cases k with
    | text t => exact congrArg text (Key.text.inj (Option.some.inj h))
    | float x => exact absurd (Option.some.inj h) (floatKey_ne_text x s)
    | complex re im =>
      have h : (if isNonzero im then Key.complex (withoutZeroSign re) im else floatKey re) =
          .text s := Option.some.inj h
      split at h
      · cases h
      · exact absurd h (floatKey_ne_text re s)
    | tuple vs =>
      cases vs with
      | nil => cases h
      | cons v vs =>
        rw [key?, key, tupleKey] at h
        cases hv : v.key with
        | error e => rw [hv] at h; cases h
        | ok a =>
          cases hvs : tupleKey vs with
          | error e => rw [hv, hvs] at h; cases h
          | ok as => rw [hv, hvs] at h; cases h
    | _ => cases h
  · rintro rfl
    rfl

/-- A text is the same key as itself only. -/
theorem isSameKey_text_iff {s : String} {k : Value} :
    (text s).isSameKey k = true ↔ k = text s := by
  rw [isSameKey_iff]
  constructor
  · rintro ⟨i, own, hk⟩
    obtain rfl := Option.some.inj own
    exact key?_eq_text_iff.1 hk
  · rintro rfl
    exact ⟨.text s, rfl, rfl⟩

/-- A text is the same key as itself. -/
theorem isSameKey_text_self (s : String) : (text s).isSameKey (text s) = true :=
  isSameKey_text_iff.2 rfl

/-- Different texts are different keys. -/
theorem isSameKey_text_of_ne {s t : String} (h : s ≠ t) :
    (text s).isSameKey (text t) = false := by
  rw [Bool.eq_false_iff, ne_eq, isSameKey_text_iff]
  exact fun he => h (text.inj he).symm

end Value

/-- Two paths of which neither is a part of the other at its start. -/
def Apart (p q : List String) : Prop := ¬p <+: q ∧ ¬q <+: p

instance (p q : List String) : Decidable (Apart p q) := inferInstanceAs (Decidable (_ ∧ _))

section
variable {k : String} {p q : List String}

/-- Being apart is mutual. -/
theorem Apart.symm (h : Apart p q) : Apart q p := ⟨h.2, h.1⟩

/-- Paths that are apart behind one key are apart. -/
theorem Apart.tail (h : Apart (k :: p) (k :: q)) : Apart p q :=
  ⟨fun hp => h.1 (List.cons_prefix_cons.2 ⟨rfl, hp⟩),
    fun hq => h.2 (List.cons_prefix_cons.2 ⟨rfl, hq⟩)⟩

/-- A path that is apart from another one is not empty. -/
theorem Apart.ne_nil (h : Apart p q) : p ≠ [] := fun he => h.1 (he ▸ List.nil_prefix)

end

namespace Mapping

variable {m n : Mapping} {k l : String} {p q path : List String} {u v w : Value}

/-! ### Putting -/

/-- What was put under a key is found there. -/
theorem get?_put_self (m : Mapping) (k : String) (v : Value) : get? (put m k v) k = some v := by
  rw [get?_put, if_pos (Value.isSameKey_text_self k)]

/-- Under other keys nothing changes. -/
theorem get?_put_of_ne (h : k ≠ l) (m : Mapping) (v : Value) :
    get? (put m k v) l = get? m l := by
  rw [get?_put, if_neg (by rw [Value.isSameKey_text_of_ne h]; decide)]

/-- What is put twice under a key is put once. -/
theorem put_put {k : Value} (hk : k.isSameKey k = true) (m : Mapping) (v w : Value) :
    put (put m k v) k w = put m k w := by
  induction m with
  | nil => rw [put, put, put, if_pos hk]
  | cons e m ih =>
    rw [put]
    split
    · rename_i h
      rw [put, if_pos h, put, if_pos h]
    · rename_i h
      rw [put, if_neg h, ih, put, if_neg h]

/-! ### Steps along a path -/

/-- What is put under the first key of a path when a value is placed at its end. -/
def inside (m : Mapping) : List String → Value → Value
  | [], v => v
  | path, v => .map (place m path v)

/-- A path is placed within the section of its first key. -/
theorem place_cons (m : Mapping) (k : String) (path : List String) (v : Value) :
    place m (k :: path) v = put m k (inside (sectionAt m k) path v) := by
  cases path <;> rfl

/-- Within a section, a path that goes on is placed as a mapping. -/
theorem inside_of_ne_nil (h : path ≠ []) (m : Mapping) (v : Value) :
    inside m path v = .map (place m path v) := by
  cases path with
  | nil => exact absurd rfl h
  | cons k path => rfl

/-- A section that was put is found. -/
theorem sectionAt_put_self (m n : Mapping) (k : String) : sectionAt (put m k (.map n)) k = n :=
  sectionAt_eq (get?_put_self m k _)

/-- Other sections do not change. -/
theorem sectionAt_put_of_ne (h : k ≠ l) (m : Mapping) (v : Value) :
    sectionAt (put m k v) l = sectionAt m l := by
  rw [sectionAt, getD, get?_put_of_ne h]
  rfl

/-- The value of a path is where the path leads. -/
theorem path?_eq_at? (m : Mapping) (path : List String) :
    path? m path = (Value.map m).at? (path.map .text) := by
  induction path generalizing m with
  | nil => rfl
  | cons k path ih =>
    rw [List.map_cons, Value.at?_map_cons]
    cases path with
    | nil =>
      rw [path?]
      cases get? m k with
      | none => rfl
      | some v => exact (Value.at?_nil v).symm
    | cons l path =>
      rw [path?]
      · cases get? m k with
        | none => rfl
        | some v =>
          cases v with
          | map n => exact ih n
          | _ => rfl
      · exact List.cons_ne_nil l path

/-! ### Blocked paths -/

/-- A path whose first key is missing is not blocked. -/
theorem isBlocked_of_none (h : get? m k = none) (path : List String) :
    isBlocked m (k :: path) = false := by
  cases path with
  | nil => rfl
  | cons l path =>
    rw [isBlocked, h]
    exact List.cons_ne_nil l path

/-- A path that leads into a mapping is blocked if its rest is. -/
theorem isBlocked_of_map (h : get? m k = some (.map n)) (path : List String) :
    isBlocked m (k :: path) = isBlocked n path := by
  cases path with
  | nil => rfl
  | cons l path =>
    rw [isBlocked, h]
    exact List.cons_ne_nil l path

/-- A path that goes on behind any other value is blocked. -/
theorem isBlocked_of_leaf (h : get? m k = some v) (hv : ∀ n, v ≠ .map n) (hp : path ≠ []) :
    isBlocked m (k :: path) = true := by
  rw [isBlocked, h]
  · cases v with
    | map n => exact absurd rfl (hv n)
    | _ => rfl
  · exact hp

/-- In an empty mapping no path is blocked. -/
theorem isBlocked_nil (path : List String) : isBlocked [] path = false := by
  cases path with
  | nil => rfl
  | cons k path => exact isBlocked_of_none rfl path

/-- A path that is not blocked goes on in a section, or where there is nothing yet. -/
theorem section_cases (h : isBlocked m (k :: path) = false) (hp : path ≠ []) :
    get? m k = none ∧ sectionAt m k = [] ∨ get? m k = some (.map (sectionAt m k)) := by
  cases hv : get? m k with
  | none => exact .inl ⟨rfl, sectionAt_eq_nil hv⟩
  | some v =>
    by_cases mapping : ∃ n, v = .map n
    · obtain ⟨n, rfl⟩ := mapping
      exact .inr (by rw [sectionAt_eq hv]; rfl)
    · rw [isBlocked_of_leaf hv (fun n hn => mapping ⟨n, hn⟩) hp] at h
      cases h

/-- Behind its first key a path is blocked where it goes on. -/
theorem isBlocked_sectionAt (h : isBlocked m (k :: q) = false) (hq : q ≠ [])
    (path : List String) : isBlocked m (k :: path) = isBlocked (sectionAt m k) path := by
  rcases section_cases h hq with ⟨none, empty⟩ | hk
  · rw [isBlocked_of_none none, empty, isBlocked_nil]
  · exact isBlocked_of_map hk path

/-- A path whose first key is missing has no value. -/
theorem path?_of_none (h : get? m k = none) (path : List String) :
    path? m (k :: path) = none := by
  rw [path?_eq_at?, List.map_cons, Value.at?_of_get?_none h]

/-- A path that leads into a mapping has the value of its rest. -/
theorem path?_of_map (h : get? m k = some (.map n)) (path : List String) :
    path? m (k :: path) = path? n path := by
  rw [path?_eq_at?, List.map_cons, Value.at?_of_get? h, path?_eq_at?]

/-- A part of a path that leads to something else than a mapping has the first key. -/
theorem exists_cons_of_path? (hv : path? m q = some v) (hl : ∀ n, v ≠ .map n)
    (hq : q <+: k :: path) : ∃ r, q = k :: r ∧ r <+: path := by
  rcases List.prefix_cons_iff.1 hq with rfl | hq
  · exact absurd (Option.some.inj hv).symm (hl m)
  · exact hq

/-- **A path is blocked** if a part of it that ends before it leads to something else than a
mapping. -/
theorem isBlocked_iff : isBlocked m path = true ↔
    ∃ q v, q <+: path ∧ q ≠ path ∧ path? m q = some v ∧ ∀ n, v ≠ .map n := by
  induction path generalizing m with
  | nil =>
    refine ⟨nofun, ?_⟩
    rintro ⟨q, v, hq, hne, -⟩
    exact absurd (List.prefix_nil.1 hq) hne
  | cons k path ih =>
    cases hv : get? m k with
    | none =>
      rw [isBlocked_of_none hv]
      refine ⟨nofun, ?_⟩
      rintro ⟨q, w, hq, -, hw, hl⟩
      obtain ⟨r, rfl, -⟩ := exists_cons_of_path? hw hl hq
      rw [path?_of_none hv] at hw
      cases hw
    | some v =>
      by_cases mapping : ∃ n, v = .map n
      · obtain ⟨n, rfl⟩ := mapping
        rw [isBlocked_of_map hv, ih]
        constructor
        · rintro ⟨r, w, hr, hne, hw, hl⟩
          exact ⟨k :: r, w, List.cons_prefix_cons.2 ⟨rfl, hr⟩, fun he => hne (List.cons.inj he).2,
            (path?_of_map hv r).trans hw, hl⟩
        · rintro ⟨q, w, hq, hne, hw, hl⟩
          obtain ⟨r, rfl, hr⟩ := exists_cons_of_path? hw hl hq
          exact ⟨r, w, hr, fun he => hne (congrArg (k :: ·) he), (path?_of_map hv r).symm.trans hw,
            hl⟩
      -- The path is blocked at its first key, if it goes on behind it.
      · have leaf : ∀ n, v ≠ .map n := fun n hn => mapping ⟨n, hn⟩
        by_cases hp : path = []
        · rw [hp]
          refine ⟨nofun, ?_⟩
          rintro ⟨q, w, hq, hne, hw, hl⟩
          obtain ⟨r, rfl, hr⟩ := exists_cons_of_path? hw hl hq
          exact absurd (congrArg (k :: ·) (List.prefix_nil.1 hr)) hne
        · rw [isBlocked_of_leaf hv leaf hp]
          refine ⟨fun _ => ⟨[k], v, ⟨path, rfl⟩, ?_, hv, leaf⟩, fun _ => rfl⟩
          exact fun he => hp (List.cons.inj he).2.symm

/-! ### Looking up what was placed -/

/-- **What was placed at the end of a path is found there.** -/
theorem at?_place (h : path ≠ []) (m : Mapping) (v : Value) :
    (Value.map (place m path v)).at? (path.map .text) = some v := by
  induction path generalizing m with
  | nil => exact absurd rfl h
  | cons k path ih =>
    rw [place_cons, List.map_cons, Value.at?_of_get? (get?_put_self m k _)]
    cases path with
    | nil => exact Value.at?_nil v
    | cons l path => exact ih (List.cons_ne_nil l path) _

/-- **What stands on a path stays** if a value is placed on another one that is not blocked, and
neither is a part of the other. -/
theorem at?_place_of_apart (h : Apart p q) (hq : isBlocked m q = false) (v : Value) :
    (Value.map (place m q v)).at? (p.map .text) = (Value.map m).at? (p.map .text) := by
  induction p generalizing m q with
  | nil => exact absurd rfl h.ne_nil
  | cons k p ih =>
    cases q with
    | nil => exact absurd rfl h.symm.ne_nil
    | cons l q =>
      rw [place_cons, List.map_cons]
      by_cases hkl : l = k
      · subst hkl
        have rest := h.tail
        have qne := rest.symm.ne_nil
        have free : isBlocked (sectionAt m l) q = false := isBlocked_sectionAt hq qne q ▸ hq
        rw [Value.at?_of_get? (get?_put_self m l _), inside_of_ne_nil qne, ih rest free]
        rcases section_cases hq qne with ⟨none, empty⟩ | hl
        · obtain ⟨i, p, rfl⟩ := List.exists_cons_of_ne_nil rest.ne_nil
          rw [Value.at?_of_get?_none none, empty]
          rfl
        · rw [Value.at?_of_get? hl]
      · rw [Value.at?_map_cons, Value.at?_map_cons, get?_put_of_ne hkl]

/-- What is found after a value was placed is on the way to it, or in it, or was there before. -/
theorem at?_place_cases (free : isBlocked m path = false) (hp : path ≠ []) {keys : List Value}
    (h : (Value.map (place m path v)).at? keys = some w) :
    keys <+: path.map .text ∨ (∃ q, keys = path.map .text ++ q ∧ v.at? q = some w) ∨
      ∃ x, (Value.map m).at? keys = some x := by
  induction path generalizing m keys with
  | nil => exact absurd rfl hp
  | cons k path ih =>
    cases keys with
    | nil => exact .inl List.nil_prefix
    | cons x keys =>
      rw [place_cons, Value.at?_map_cons, get?_put] at h
      by_cases hx : (Value.text k).isSameKey x = true
      · rw [if_pos hx] at h
        obtain rfl := Value.isSameKey_text_iff.1 hx
        cases path with
        | nil => exact .inr (.inl ⟨keys, rfl, h⟩)
        | cons l path =>
          have hne := List.cons_ne_nil l path
          have free' := isBlocked_sectionAt free hne (l :: path) ▸ free
          rcases ih free' hne h with hpre | ⟨q, rfl, hq⟩ | ⟨y, hy⟩
          · exact .inl (List.cons_prefix_cons.2 ⟨rfl, hpre⟩)
          · exact .inr (.inl ⟨q, rfl, hq⟩)
          · rcases section_cases free hne with ⟨-, empty⟩ | hk
            · rw [empty] at hy
              cases keys with
              | nil => exact .inl ⟨(l :: path).map .text, rfl⟩
              | cons z keys => cases hy
            · exact .inr (.inr ⟨y, by rw [Value.at?_of_get? hk, hy]⟩)
      · rw [if_neg hx] at h
        exact .inr (.inr ⟨w, h⟩)

/-- Whether a path is blocked depends on what is under its first key. -/
theorem isBlocked_congr (h : get? m k = get? n k) (path : List String) :
    isBlocked m (k :: path) = isBlocked n (k :: path) := by
  cases path with
  | nil => rfl
  | cons l path =>
    rw [isBlocked, isBlocked, h]
    · exact List.cons_ne_nil l path
    · exact List.cons_ne_nil l path

/-- **A value that is placed blocks no path** of which it is not a part. -/
theorem isBlocked_place (h : Apart p q) (hq : isBlocked m q = false) (v : Value) :
    isBlocked (place m q v) p = isBlocked m p := by
  induction p generalizing m q with
  | nil => rfl
  | cons k p ih =>
    cases q with
    | nil => exact absurd rfl h.symm.ne_nil
    | cons l q =>
      rw [place_cons]
      by_cases hkl : l = k
      · subst hkl
        have rest := h.tail
        have qne := rest.symm.ne_nil
        have free : isBlocked (sectionAt m l) q = false := isBlocked_sectionAt hq qne q ▸ hq
        rw [inside_of_ne_nil qne, isBlocked_of_map (get?_put_self m l _), ih rest free,
          isBlocked_sectionAt hq qne]
      · exact isBlocked_congr (get?_put_of_ne hkl m _) p

/-! ### Mappings but for the order of their entries -/

/-- Two mappings with the same entries, which may come in another order, in the mappings under their
keys too. -/
inductive Reordered : Mapping → Mapping → Prop
  | refl (m : Mapping) : Reordered m m
  | within {k : Value} {m n rest : Mapping} :
      Reordered m n → Reordered ((k, .map m) :: rest) ((k, .map n) :: rest)
  | behind {e : Value × Value} {m n : Mapping} : Reordered m n → Reordered (e :: m) (e :: n)
  | exchanged {e f : Value × Value} {m : Mapping} : e.1.isSameKey f.1 = false →
      Reordered (e :: f :: m) (f :: e :: m)
  | trans {l m n : Mapping} : Reordered l m → Reordered m n → Reordered l n

/-- What is found in mappings but for the order of their entries: the same, or such mappings. -/
def Alike (x y : Option Value) : Prop :=
  x = y ∨ ∃ m n, x = some (.map m) ∧ y = some (.map n) ∧ Reordered m n

/-- Values that are alike to one and the same are alike. -/
theorem Alike.trans {x y z : Option Value} (h : Alike x y) (h' : Alike y z) : Alike x z := by
  rcases h with rfl | ⟨l, m, rfl, rfl, hlm⟩
  · exact h'
  · rcases h' with rfl | ⟨m', n, he, rfl, hmn⟩
    · exact .inr ⟨l, m, rfl, rfl, hlm⟩
    · obtain rfl := Value.map.inj (Option.some.inj he)
      exact .inr ⟨l, n, rfl, rfl, hlm.trans hmn⟩

/-- Mappings in another order have like values under a key. -/
theorem Reordered.get? (h : Reordered m n) (t : Value) : Alike (get? m t) (get? n t) := by
  induction h with
  | refl => exact .inl rfl
  | @within k m n rest h _ =>
    rw [get?_cons, get?_cons]
    split
    · exact .inr ⟨m, n, rfl, rfl, h⟩
    · exact .inl rfl
  | behind _ ih =>
    rw [get?_cons, get?_cons]
    split
    · exact .inl rfl
    · exact ih
  | @exchanged e f m apart =>
    refine .inl ?_
    rw [get?_cons, get?_cons, get?_cons, get?_cons]
    by_cases he : e.1.isSameKey t = true
    · have other : ¬f.1.isSameKey t = true := by
        rw [Value.isSameKey_comm, ← Value.isSameKey_congr he, apart]
        decide
      rw [if_pos he, if_neg other, if_pos he]
    · rw [if_neg he, if_neg he]
  | trans _ _ ih ih' => exact ih.trans ih'

/-- They stay so when one key is put in both. -/
theorem Reordered.put (h : Reordered m n) (t v : Value) :
    Reordered (put m t v) (put n t v) := by
  induction h with
  | refl => exact .refl _
  | @within k m n rest h _ =>
    rw [Mapping.put, Mapping.put]
    split
    · exact .refl _
    · exact .within h
  | @behind e m n h ih =>
    rw [Mapping.put, Mapping.put]
    split
    · exact .behind h
    · exact .behind ih
  | @exchanged e f m apart =>
    rw [Mapping.put, Mapping.put, Mapping.put, Mapping.put]
    by_cases he : e.1.isSameKey t = true
    · have other : ¬f.1.isSameKey t = true := by
        rw [Value.isSameKey_comm, ← Value.isSameKey_congr he, apart]
        decide
      rw [if_pos he, if_neg other, if_pos he]
      exact .exchanged apart
    · rw [if_neg he, if_neg he]
      split
      · exact .exchanged apart
      · exact .exchanged apart
  | trans _ _ ih ih' => exact ih.trans ih'

/-- Mappings but for the order of their entries may be put under a key. -/
theorem put_reordered (h : Reordered m n) (b : Mapping) (t : Value) :
    Reordered (put b t (.map m)) (put b t (.map n)) := by
  induction b with
  | nil => exact .within h
  | cons e b ih =>
    rw [put, put]
    split
    · exact .within h
    · exact .behind ih

/-- Values that are put under different keys may be put in either order. -/
theorem put_comm {s t : Value} (h : s.isSameKey t = false) (m : Mapping) (v w : Value) :
    Reordered (put (put m s v) t w) (put (put m t w) s v) := by
  have apart : ∀ x : Value, x.isSameKey s = true → ¬x.isSameKey t = true := by
    intro x hx
    rw [Value.isSameKey_congr hx, h]
    decide
  induction m with
  | nil =>
    have h' : t.isSameKey s = false := Value.isSameKey_comm s t ▸ h
    simp only [put, h, h', Bool.false_eq_true, if_false]
    exact .exchanged h
  | cons e m ih =>
    by_cases hs : e.1.isSameKey s = true
    · have ht := apart e.1 hs
      rw [put, if_pos hs, put, if_neg ht, put, if_neg ht, put, if_pos hs]
      exact .refl _
    · by_cases ht : e.1.isSameKey t = true
      · rw [put, if_neg hs, put, if_pos ht, put, if_pos ht, put, if_neg hs]
        exact .refl _
      · rw [put, if_neg hs, put, if_neg ht, put, if_neg ht, put, if_neg hs]
        exact .behind ih

/-- Their sections are in another order too. -/
theorem Reordered.sectionAt (h : Reordered m n) (k : String) :
    Reordered (sectionAt m k) (sectionAt n k) := by
  rcases h.get? k with same | ⟨a, b, ha, hb, hab⟩
  · rw [Mapping.sectionAt, Mapping.sectionAt, getD, getD, same]
    exact .refl _
  · rw [sectionAt_eq ha, sectionAt_eq hb]
    exact hab

/-- Values may be placed in mappings but for the order of their entries. -/
theorem Reordered.place (h : Reordered m n) (path : List String) (v : Value) :
    Reordered (place m path v) (place n path v) := by
  induction path generalizing m n with
  | nil => exact h
  | cons k path ih =>
    rw [place_cons, place_cons]
    refine .trans (h.put k _) ?_
    cases path with
    | nil => exact .refl _
    | cons l path => exact put_reordered (ih (h.sectionAt k)) n k

/-- The order of the entries decides nothing about blocked paths. -/
theorem Reordered.isBlocked (h : Reordered m n) (path : List String) :
    isBlocked m path = isBlocked n path := by
  induction path generalizing m n with
  | nil => rfl
  | cons k path ih =>
    rcases h.get? k with same | ⟨a, b, ha, hb, hab⟩
    · exact isBlocked_congr same path
    · rw [isBlocked_of_map ha, isBlocked_of_map hb, ih hab]

/-- **Values that are placed on paths of which neither is a part of the other may be placed in
either order.** -/
theorem place_comm (h : Apart p q) (m : Mapping) (v w : Value) :
    Reordered (place (place m p v) q w) (place (place m q w) p v) := by
  induction p generalizing m q with
  | nil => exact absurd rfl h.ne_nil
  | cons k p ih =>
    cases q with
    | nil => exact absurd rfl h.symm.ne_nil
    | cons l q =>
      rw [place_cons, place_cons, place_cons, place_cons]
      by_cases hkl : k = l
      · subst hkl
        have rest := h.tail
        have self := Value.isSameKey_text_self k
        rw [inside_of_ne_nil rest.ne_nil, inside_of_ne_nil rest.symm.ne_nil, put_put self,
          put_put self, inside_of_ne_nil rest.ne_nil, inside_of_ne_nil rest.symm.ne_nil,
          sectionAt_put_self, sectionAt_put_self]
        exact put_reordered (ih rest _) m k
      · rw [sectionAt_put_of_ne hkl, sectionAt_put_of_ne (Ne.symm hkl)]
        exact put_comm (Value.isSameKey_text_of_ne hkl) m _ _

end Mapping
end TypeMismatch
