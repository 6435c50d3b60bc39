import TypeMismatch.Proofs.Name.Aligned
import TypeMismatch.Proofs.Name.Render

/-!
# Which pairs are told apart

Two signatures cannot be told apart by the ends of their paths if one path ends with the other at
every aligned pair of nodes, and nothing else is different (`Compatible`).  Of such a pair
`resolve_signatures` keeps nothing but the last segments, and these are the same on both sides
(`Compatible.against_eq`); every other pair is cut to different trees (`compatible_of_against_eq`),
and so to different names, since no two trees have the same name.
-/

namespace TypeMismatch
namespace Signature

/-- Two signatures whose paths do not tell them apart: both are generic or both are not, the path of
one ends with that of the other, of generic types with arity and nested types, the ranks are the
same, and the arguments at the same place are compatible. -/
inductive Compatible : Signature → Signature → Prop
  | plain {s t : Signature} : s.isGeneric = false → t.isGeneric = false →
      s.path <:+ t.path ∨ t.path <:+ s.path → s.ranks = t.ranks → Compatible s t
  | generic {s t : Signature} {p q : List (List Char)} : s.isGeneric = true → t.isGeneric = true →
      s.qualified? = some p → t.qualified? = some q → p <:+ q ∨ q <:+ p → s.ranks = t.ranks →
      (∀ (i : Nat) (a b : Signature), s.arguments[i]? = some a → t.arguments[i]? = some b →
        Compatible a b) → Compatible s t

/-- What makes nodes compatible that can be written is the same for generic types and for others:
that of their compared segments one list ends with the other, and that their ranks and arguments
agree. -/
theorem compatible_iff {s t : Signature} (hs : s.Writable) (ht : t.Writable) :
    Compatible s t ↔ s.isGeneric = t.isGeneric ∧
      (s.compared <:+ t.compared ∨ t.compared <:+ s.compared) ∧ s.ranks = t.ranks ∧
        ∀ (i : Nat) (a b : Signature), s.arguments[i]? = some a → t.arguments[i]? = some b →
          Compatible a b := by
  constructor
  · intro h
    cases h with
    | plain hgs hgt hp hr =>
      rw [compared_plain hgs, compared_plain hgt]
      refine ⟨hgs.trans hgt.symm, hp, hr, fun i a b ha => ?_⟩
      rw [hs.arguments_eq_nil hgs] at ha
      cases ha
    | generic hgs hgt hp hq h hr hargs =>
      rw [qualified?_eq hs] at hp
      rw [qualified?_eq ht] at hq
      obtain rfl := Option.some.inj hp
      obtain rfl := Option.some.inj hq
      exact ⟨hgs.trans hgt.symm, h, hr, hargs⟩
  · rintro ⟨hg, h, hr, hargs⟩
    cases hgs : s.isGeneric with
    | false =>
      rw [compared_plain hgs, compared_plain (hg ▸ hgs)] at h
      exact .plain hgs (hg ▸ hgs) h hr
    | true =>
      have hgt : t.isGeneric = true := hg ▸ hgs
      exact .generic hgs hgt (qualified?_eq hs) (qualified?_eq ht) h hr hargs

/-- A signature is compatible with itself. -/
theorem compatible_self {s : Signature} (h : s.Every Writable) : Compatible s s := by
  induction h with
  | @node s hs _ ih =>
    refine (compatible_iff hs hs).2 ⟨rfl, .inl List.suffix_rfl, rfl, fun i a b ha hb => ?_⟩
    obtain rfl := Option.some.inj (ha.symm.trans hb)
    exact ih a (List.mem_of_getElem? ha)

/-! ### The last segment with its marker -/

/-- A segment ends at the mark behind it, the arity at the nested types. -/
theorem segment_marker_inj {s t : Signature} {x y : List Char} (hs : s.Formed) (ht : t.Formed)
    (hgs : s.isGeneric = true) (hgt : t.isGeneric = true) (hx : ∀ c ∈ x, ¬Name.IsMark c)
    (hy : ∀ c ∈ y, ¬Name.IsMark c) (h : x ++ s.marker = y ++ t.marker) :
    x = y ∧ s.arity = t.arity ∧ s.nested = t.nested := by
  have mark : ∀ {w : List Char}, ∀ c ∈ (arityMark :: w).head?, Name.IsMark c := by
    intro w c hc
    obtain rfl := Option.some.inj hc
    decide
  rw [marker, if_pos hgs, marker, if_pos hgt, hs.arity, ht.arity] at h
  obtain ⟨rfl, tail⟩ := Name.append_inj_of_stop hx hy mark mark h
  -- A bracket is put behind both markers, as it stands behind them in a name.
  have behind := congrArg (· ++ ['[']) (List.cons.inj tail).2
  rw [List.append_assoc, List.append_assoc] at behind
  obtain ⟨hn, he, -⟩ := Name.numeral_chain_inj hs.nested ht.nested behind
  exact ⟨rfl, by rw [hs.arity, ht.arity, hn], he⟩

/-- The last segment is the one at the end. -/
theorem last_one_concat (path : List (List Char)) (x : List Char) :
    Suffix.last 1 (path ++ [x]) = [x] := by
  rw [Suffix.last_concat Nat.one_pos, Suffix.last, Nat.sub_self, Nat.sub_zero, List.drop_length,
    List.nil_append]

/-- Of two paths of which one ends with the other one segment is kept, and it is the same. -/
theorem last_one_eq_of_suffix {p q : List (List Char)} (hp : p ≠ []) (hq : q ≠ [])
    (h : p <:+ q ∨ q <:+ p) : Suffix.kept p q = 1 ∧ Suffix.last 1 p = Suffix.last 1 q := by
  have one := Suffix.kept_eq_one (Suffix.forall_not_differ_iff.2 h)
  exact ⟨one, one ▸ (Suffix.last_kept_eq_iff hp hq).2 h⟩

/-- Nodes of one kind are the same in the last segment, the arity and the nested types if the
compared segments of one end with those of the other. -/
theorem last_eq_of_suffix {s t : Signature} (hs : s.Formed) (ht : t.Formed)
    (hg : s.isGeneric = t.isGeneric) (h : s.compared <:+ t.compared ∨ t.compared <:+ s.compared) :
    Suffix.last 1 s.path = Suffix.last 1 t.path ∧ s.arity = t.arity ∧ s.nested = t.nested := by
  have sne := hs.path.ne_nil
  have tne := ht.path.ne_nil
  have last := (last_one_eq_of_suffix (compared_ne_nil sne) (compared_ne_nil tne) h).2
  cases hgs : s.isGeneric with
  | false =>
    have arity : s.arity = 0 ∧ t.arity = 0 := by
      rw [hs.arity, ht.arity, hs.arguments_eq_nil hgs, ht.arguments_eq_nil (hg ▸ hgs)]
      exact ⟨rfl, rfl⟩
    rw [compared_plain hgs, compared_plain (hg ▸ hgs)] at last
    refine ⟨last, arity.1.trans arity.2.symm, ?_⟩
    rw [hs.nested_eq_nil arity.1, ht.nested_eq_nil arity.2]
  | true =>
    obtain ⟨p, x, hp, hc⟩ := exists_eq_concat sne
    obtain ⟨q, y, hq, hd⟩ := exists_eq_concat tne
    rw [hc, hd, last_one_concat, last_one_concat] at last
    have no_mark : ∀ {u : Signature} {path : List (List Char)} {z : List Char}, u.Formed →
        u.path = path ++ [z] → ∀ c ∈ z, ¬Name.IsMark c := fun hu he =>
      hu.path.not_mark _ (by rw [he]; exact List.mem_append_right _ (List.mem_singleton_self _))
    obtain ⟨rfl, he⟩ := segment_marker_inj hs ht hgs (hg ▸ hgs) (no_mark hs hp) (no_mark ht hq)
      (List.cons.inj last).1
    exact ⟨by rw [hp, hq, last_one_concat, last_one_concat], he⟩

/-- Compatible nodes have the same number of arguments. -/
theorem Compatible.length_eq {s t : Signature} (h : Compatible s t) (hs : s.Writable)
    (ht : t.Writable) : s.arguments.length = t.arguments.length := by
  obtain ⟨hg, hp, -⟩ := (compatible_iff hs ht).1 h
  have arity := (last_eq_of_suffix hs.toFormed ht.toFormed hg hp).2.1
  rw [hs.arity, ht.arity] at arity
  exact Int.ofNat.inj arity

/-! ### Compatible signatures are cut to the same tree -/

/-- Nodes that agree in what is left of them are cut to the same node. -/
theorem cut_eq_cut {s t : Signature} {k : Nat} {as bs : List Signature}
    (path : Suffix.last k s.path = Suffix.last k t.path) (arity : s.arity = t.arity)
    (nested : s.nested = t.nested) (ranks : s.ranks = t.ranks) (arguments : as = bs) :
    s.cut k as = t.cut k bs := by
  simp only [cut, path, arity, nested, ranks, arguments]

/-- Arguments whose counterparts need no more than their last segments are cut to these. -/
theorem againstAll_eq_map_bare {as bs : List Signature}
    (h : ∀ (i : Nat) (a b : Signature), as[i]? = some a → bs[i]? = some b → a.against b = a.bare) :
    againstAll as bs = as.map bare := by
  refine List.ext_getElem? fun i => ?_
  rw [getElem?_againstAll, List.getElem?_map]
  cases ha : as[i]? with
  | none => rfl
  | some a =>
    cases hb : bs[i]? with
    | none => rfl
    | some b => exact congrArg some (h i a b ha hb)

/-- As many arguments that are cut alike are the same lists of trees. -/
theorem map_bare_eq {as bs : List Signature} (hl : as.length = bs.length)
    (h : ∀ (i : Nat) (a b : Signature), as[i]? = some a → bs[i]? = some b → a.bare = b.bare) :
    as.map bare = bs.map bare := by
  refine List.ext_getElem (by rw [List.length_map, List.length_map, hl]) fun i hi hj => ?_
  rw [List.length_map] at hi hj
  rw [List.getElem_map, List.getElem_map]
  exact h i _ _ (List.getElem?_eq_getElem hi) (List.getElem?_eq_getElem hj)

/-- **Compatible signatures are both cut to their last segments, and these are the same.** -/
theorem Compatible.against_eq {a b : Signature} (h : Compatible a b) (ha : a.Every Writable)
    (hb : b.Every Writable) : a.against b = a.bare ∧ b.against a = b.bare ∧ a.bare = b.bare := by
  induction ha generalizing b with
  | @node s hs _ ih =>
    have ht := hb.here
    have hl := h.length_eq hs ht
    obtain ⟨hg, hp, hr, hargs⟩ := (compatible_iff hs ht).1 h
    have one := (last_one_eq_of_suffix (compared_ne_nil hs.path.ne_nil)
      (compared_ne_nil ht.path.ne_nil) hp).1
    obtain ⟨last, arity, nested⟩ := last_eq_of_suffix hs.toFormed ht.toFormed hg hp
    have each : ∀ (i : Nat) (c d : Signature), s.arguments[i]? = some c → b.arguments[i]? = some d →
        c.against d = c.bare ∧ d.against c = d.bare ∧ c.bare = d.bare := fun i c d hc hd =>
      ih c (List.mem_of_getElem? hc) (hargs i c d hc hd) (hb.arguments d (List.mem_of_getElem? hd))
    rw [against_of_eq hg, against_of_eq hg.symm, Suffix.kept_comm b.compared, one, bare_eq_cut,
      bare_eq_cut, againstAll_eq_map_bare fun i c d hc hd => (each i c d hc hd).1,
      againstAll_eq_map_bare fun i d c hd hc => (each i c d hc hd).2.1]
    exact ⟨rfl, rfl, cut_eq_cut last arity nested hr
      (map_bare_eq hl fun i c d hc hd => (each i c d hc hd).2.2)⟩

/-! ### Signatures cut to the same tree are compatible -/

/-- Cutting a tree to last segments does not change whether it is generic. -/
theorem isGeneric_bare (s : Signature) : s.bare.isGeneric = s.isGeneric := by
  cases s
  rfl

/-- Paths that are the same in their last segments are compared as the same if their markers are the
same. -/
theorem last_compared_eq {s t : Signature} {k : Nat} (hs : s.path ≠ []) (ht : t.path ≠ [])
    (hk : 0 < k) (hm : s.marker = t.marker) (h : Suffix.last k s.path = Suffix.last k t.path) :
    Suffix.last k s.compared = Suffix.last k t.compared := by
  obtain ⟨p, x, hp, hc⟩ := exists_eq_concat hs
  obtain ⟨q, y, hq, hd⟩ := exists_eq_concat ht
  rw [hp, hq, Suffix.last_concat hk, Suffix.last_concat hk] at h
  obtain ⟨hpq, hxy⟩ := List.append_inj' h rfl
  rw [hc, hd, Suffix.last_concat hk, Suffix.last_concat hk, hpq, (List.cons.inj hxy).1, hm]

/-- **Two signatures that are cut to the same tree are compatible.** -/
theorem compatible_of_against_eq {a b : Signature} (ha : a.Every Writable) (hb : b.Every Writable)
    (h : a.against b = b.against a) : Compatible a b := by
  induction ha generalizing b with
  | @node s hs hargs ih =>
    cases hb with
    | node ht htargs =>
      by_cases hg : s.isGeneric = b.isGeneric
      · rw [against_of_eq hg, against_of_eq hg.symm, Suffix.kept_comm b.compared, cut, cut,
          Signature.mk.injEq] at h
        obtain ⟨path, arity, arguments, ranks, nested⟩ := h
        have sne := hs.path.ne_nil
        have tne := ht.path.ne_nil
        have marker_eq : s.marker = b.marker := by
          rw [marker, marker, hg, arity, nested]
        have ends := (Suffix.last_kept_eq_iff (compared_ne_nil sne) (compared_ne_nil tne)).1
          (last_compared_eq sne tne (Suffix.kept_pos _ _) marker_eq path)
        refine (compatible_iff hs ht).2 ⟨hg, ends, ranks, fun i c d hc hd => ?_⟩
        have place := congrArg (·[i]?) arguments
        rw [getElem?_againstAll, getElem?_againstAll, hc, hd] at place
        exact ih c (List.mem_of_getElem? hc) (htargs d (List.mem_of_getElem? hd))
          (Option.some.inj place)
      · rw [against_of_ne hg, against_of_ne (Ne.symm hg)] at h
        exact absurd (isGeneric_bare s ▸ isGeneric_bare b ▸ congrArg isGeneric h) hg

/-! ### Names that were read -/

/-- What holds everywhere in two trees holds everywhere below aligned nodes. -/
theorem Aligned.every {P : Signature → Prop} {a b s t : Signature} {w : List Nat}
    (h : Aligned a b w s t) (ha : a.Every P) (hb : b.Every P) : s.Every P ∧ t.Every P := by
  induction h with
  | root => exact ⟨ha, hb⟩
  | argument _ _ _ hc hd ih =>
    exact ⟨ih.1.arguments _ (List.mem_of_getElem? hc), ih.2.arguments _ (List.mem_of_getElem? hd)⟩

/-- **A pair is told apart exactly if it can be.**  The names of two signatures that were read are
shortened to the same text if and only if the signatures are compatible, and then to what each is
shortened to alone; at aligned nodes that are compatible there are as many arguments on both sides. 
So a generic type and one that is not are always told apart, and a type is not told from itself. -/
theorem resolve_eq_iff_compatible {l m : Limit} {x y : List Char} {a b : Signature}
    (ha : Name.read l x = .ok a) (hb : Name.read m y = .ok b) :
    ∃ u v, a.resolve b = .ok (u, v) ∧ (u = v ↔ Compatible a b) ∧
      (Compatible a b → a.shortened = .ok u ∧ b.shortened = .ok u) ∧
      (∀ w s t, Aligned a b w s t → Compatible s t → s.arguments.length = t.arguments.length) ∧
      (a.isGeneric ≠ b.isGeneric → u ≠ v) ∧
      ∃ z, a.shortened = .ok z ∧ a.resolve a = .ok (z, z) := by
  have fa := Name.writable_of_read ha
  have fb := Name.writable_of_read hb
  have told : (a.against b).render = (b.against a).render ↔ Compatible a b := by
    constructor
    · intro h
      exact compatible_of_against_eq fa fb
        (render_injective (formed_of_writable (writable_against fa b))
          (formed_of_writable (writable_against fb a)) h)
    · intro h
      obtain ⟨left, right, same⟩ := h.against_eq fa fb
      rw [left, right, same]
  refine ⟨_, _, resolve_eq fa fb, told, fun h => ?_, fun w s t hst h => ?_, fun hg he => ?_, ?_⟩
  · obtain ⟨left, right, same⟩ := h.against_eq fa fb
    rw [left]
    exact ⟨shortened_eq fa, same ▸ shortened_eq fb⟩
  · obtain ⟨fs, ft⟩ := hst.every fa fb
    exact h.length_eq fs.here ft.here
  · exact hg ((compatible_iff fa.here fb.here).1 (told.1 he)).1
  · have alone := ((compatible_self fa).against_eq fa fa).1
    exact ⟨a.bare.render, shortened_eq fa, by rw [resolve_eq fa fa, alone]⟩

/-- The hypotheses are satisfiable, and by a pair of generic types of which neither path is longer
at every node. -/
theorem resolve_eq_iff_compatible_nested :
    ∃ a b, Name.read .standard "A.M`2[L`1[C.T],D.U[]]".toList = .ok a ∧
      Name.read .standard "M`2[N.L`1[T],Z.D.U[]]".toList = .ok b ∧
      ∃ u v, a.resolve b = .ok (u, v) ∧ (u = v ↔ Compatible a b) ∧
        (Compatible a b → a.shortened = .ok u ∧ b.shortened = .ok u) ∧
        (∀ w s t, Aligned a b w s t → Compatible s t → s.arguments.length = t.arguments.length) ∧
        (a.isGeneric ≠ b.isGeneric → u ≠ v) ∧
        ∃ z, a.shortened = .ok z ∧ a.resolve a = .ok (z, z) :=
  ⟨_, _, rfl, rfl, resolve_eq_iff_compatible (l := .standard) (m := .standard)
    (x := "A.M`2[L`1[C.T],D.U[]]".toList) (y := "M`2[N.L`1[T],Z.D.U[]]".toList) rfl rfl⟩

end Signature
end TypeMismatch
