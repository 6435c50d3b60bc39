import TypeMismatch.Name.Pair
import TypeMismatch.Proofs.Name.Signature
import TypeMismatch.Proofs.Name.Suffix

/-!
# Cut trees

Names are shortened as texts.  The same can be said of trees: shortening a name drops segments at
the start of the path of every node, and the text that comes out is the full name of the tree that
is left.  A name alone is cut to its last segments (`fully_shorten`; `bare`); of a pair
(`resolve_signatures`), each name is cut against the other (`against`), which is one function for
both sides.  Writable signatures have no node without a path, so that shortening them does not fail
(`shortened_eq`, `resolve_eq`), and what is left of them can be written again (`writable_against`);
so it is with every property of nodes that cutting keeps (`CutsTo`).
-/

namespace TypeMismatch
namespace Signature

/-- The segments by which a node is compared, the last one with the marker of a generic type. -/
def compared (s : Signature) : List (List Char) :=
  s.path.dropLast ++ (s.path.getLast?.map (· ++ s.marker)).toList

/-- The node with its last `k` segments, and with other arguments. -/
def cut (k : Nat) (s : Signature) (arguments : List Signature) : Signature :=
  { s with path := Suffix.last k s.path, arguments := arguments }

mutual

/-- The tree in which every node is cut to its last segment. -/
def bare : Signature → Signature
  | ⟨path, arity, arguments, ranks, nested⟩ =>
    cut 1 ⟨path, arity, arguments, ranks, nested⟩ (bareAll arguments)

/-- Trees in which every node is cut to its last segment. -/
def bareAll : List Signature → List Signature
  | [] => []
  | a :: as => bare a :: bareAll as

end

mutual

/-- The first of two trees, cut to what tells it apart from the second. -/
def against : Signature → Signature → Signature
  | ⟨p, m, as, r, e⟩, ⟨q, n, bs, s, f⟩ =>
    if isGeneric ⟨p, m, as, r, e⟩ = isGeneric ⟨q, n, bs, s, f⟩ then
      cut (Suffix.kept (compared ⟨p, m, as, r, e⟩) (compared ⟨q, n, bs, s, f⟩)) ⟨p, m, as, r, e⟩
        (againstAll as bs)
    else bare ⟨p, m, as, r, e⟩

/-- Trees cut against others one by one; those without a counterpart are cut to their last
segments. -/
def againstAll : List Signature → List Signature → List Signature
  | a :: as, b :: bs => against a b :: againstAll as bs
  | [], _ => []
  | a :: as, [] => bare a :: bareAll as

end

/-- Arguments are cut to last segments one by one. -/
theorem bareAll_eq_map (as : List Signature) : bareAll as = as.map bare := by
  induction as with
  | nil => rfl
  | cons a as ih => rw [bareAll, ih, List.map_cons]

/-- A tree is cut to last segments node by node. -/
theorem bare_eq_cut (s : Signature) : s.bare = s.cut 1 (s.arguments.map bare) := by
  cases s
  rw [bare, bareAll_eq_map]

/-- Two nodes of one kind are cut to the fewest segments that differ, and their arguments against
each other. -/
theorem against_of_eq {s t : Signature} (h : s.isGeneric = t.isGeneric) :
    s.against t =
      s.cut (Suffix.kept s.compared t.compared) (againstAll s.arguments t.arguments) := by
  cases s
  cases t
  exact if_pos h

/-- Against a node of the other kind a tree is cut to last segments. -/
theorem against_of_ne {s t : Signature} (h : s.isGeneric ≠ t.isGeneric) : s.against t = s.bare := by
  cases s
  cases t
  exact if_neg h

/-- Arguments without counterparts are cut to last segments. -/
theorem againstAll_nil (as : List Signature) : againstAll as [] = as.map bare := by
  cases as with
  | nil => rfl
  | cons a as => rw [againstAll, bareAll_eq_map, List.map_cons]

/-- An argument is cut against the one at the same place, if there is one. -/
theorem getElem?_againstAll (as bs : List Signature) (i : Nat) :
    (againstAll as bs)[i]? = as[i]?.map fun a => bs[i]?.elim a.bare a.against := by
  induction as generalizing bs i with
  | nil => rfl
  | cons a as ih =>
    cases bs with
    | nil =>
      rw [againstAll_nil, List.getElem?_map]
      rfl
    | cons b bs =>
      cases i with
      | zero => rfl
      | succ i => exact ih bs i

/-- As many arguments are left. -/
theorem length_againstAll (as bs : List Signature) : (againstAll as bs).length = as.length := by
  induction as generalizing bs with
  | nil => rfl
  | cons a as ih =>
    cases bs with
    | nil => rw [againstAll_nil, List.length_map]
    | cons b bs => exact congrArg (· + 1) (ih bs)

/-- Every argument is cut to last segments or against another one. -/
theorem mem_againstAll {as bs : List Signature} {x : Signature} (h : x ∈ againstAll as bs) :
    ∃ a ∈ as, x = a.bare ∨ ∃ b, x = a.against b := by
  obtain ⟨i, hi⟩ := List.mem_iff_getElem?.1 h
  rw [getElem?_againstAll] at hi
  obtain ⟨a, ha, rfl⟩ := Option.map_eq_some_iff.1 hi
  refine ⟨a, List.mem_of_getElem? ha, ?_⟩
  cases bs[i]? with
  | none => exact .inl rfl
  | some b => exact .inr ⟨b, rfl⟩

/-! ### Compared segments -/

/-- The compared segments are those of the path, with the marker behind the last one. -/
theorem compared_eq {s : Signature} {path : List (List Char)} {segment : List Char}
    (h : s.path = path ++ [segment]) : s.compared = path ++ [segment ++ s.marker] := by
  rw [compared, h, List.getLast?_concat, List.dropLast_concat]
  rfl

/-- A type that is not generic is compared by its path. -/
theorem compared_plain {s : Signature} (h : s.isGeneric = false) : s.compared = s.path := by
  by_cases hp : s.path = []
  · rw [compared, hp]
    rfl
  · have path := List.dropLast_concat_getLast hp
    rw [compared_eq path.symm, marker, if_neg (Bool.eq_false_iff.1 h), List.append_nil, path]

/-- A path has a last segment, and that is compared with the marker. -/
theorem exists_eq_concat {s : Signature} (h : s.path ≠ []) :
    ∃ path segment, s.path = path ++ [segment] ∧ s.compared = path ++ [segment ++ s.marker] := by
  have hp := List.dropLast_concat_getLast h
  exact ⟨_, _, hp.symm, compared_eq hp.symm⟩

/-- As many segments are compared as the path has. -/
theorem length_compared {s : Signature} (h : s.path ≠ []) : s.compared.length = s.path.length := by
  obtain ⟨path, segment, hp, hc⟩ := exists_eq_concat h
  rw [hp, hc, List.length_append, List.length_append, List.length_singleton, List.length_singleton]

/-- Some segment is compared if there is a path. -/
theorem compared_ne_nil {s : Signature} (h : s.path ≠ []) : s.compared ≠ [] := by
  obtain ⟨path, segment, -, hc⟩ := exists_eq_concat h
  rw [hc]
  exact List.concat_ne_nil _ _

/-- No more segments are kept than the path has. -/
theorem kept_le_length {s : Signature} (h : s.path ≠ []) (t : Signature) :
    Suffix.kept s.compared t.compared ≤ s.path.length :=
  length_compared h ▸ Suffix.kept_le_length (compared_ne_nil h)

/-- The last compared segments in writing are those of the path with the marker. -/
theorem dotted_last_compared {s : Signature} {k : Nat} (h : s.path ≠ []) (hk : 0 < k) :
    dotted (Suffix.last k s.compared) = dotted (Suffix.last k s.path) ++ s.marker := by
  obtain ⟨path, segment, hp, hc⟩ := exists_eq_concat h
  rw [hp, hc, Suffix.last_concat hk, Suffix.last_concat hk, dotted_concat]

/-- The full name of a cut node is what is left of its compared segments, with its arguments and
ranks. -/
theorem render_cut {s : Signature} {k : Nat} (h : s.path ≠ []) (hk : 0 < k)
    (as : List Signature) : (s.cut k as).render =
      apply (dotted (Suffix.last k s.compared)) (as.map render) ++ s.ranks := by
  rw [dotted_last_compared h hk, cut, render, renderAll_eq_map]
  rfl

/-! ### Shortened texts are the names of cut trees -/

/-- Arguments are shortened to the full names of what is left of them if each of them is. -/
theorem shortenedAll_eq {as : List Signature}
    (h : ∀ a ∈ as, a.shortened = .ok a.bare.render) :
    shortenedAll as = .ok ((as.map bare).map render) := by
  induction as with
  | nil => rfl
  | cons a as ih =>
    rw [List.forall_mem_cons] at h
    rw [shortenedAll, h.1, ih h.2]
    rfl

/-- A node with a name is shortened to it once its arguments are. -/
theorem shortened_of_displayName {s : Signature} {name : List Char}
    (h : s.displayName = .ok name) :
    s.shortened =
      (shortenedAll s.arguments).map fun arguments => apply name arguments ++ s.ranks := by
  obtain ⟨path, arity, as, ranks, nested⟩ := s
  change displayName ⟨path, arity, [], ranks, nested⟩ = _ at h
  rw [shortened, h]
  rfl

/-- **A name is shortened to the full name of what is left of its tree.** -/
theorem shortened_eq {s : Signature} (h : s.Every Writable) : s.shortened = .ok s.bare.render := by
  induction h with
  | @node s hs _ ih =>
    obtain ⟨path, segment, hp, hc⟩ := exists_eq_concat hs.path.ne_nil
    have name : s.displayName = .ok (dotted (Suffix.last 1 s.compared)) := by
      rw [hc, Suffix.last_concat Nat.one_pos, displayName_eq hp hs.hasLongArity]
      simp [Suffix.last, dotted]
    rw [bare_eq_cut, render_cut hs.path.ne_nil Nat.one_pos, shortened_of_displayName name,
      shortenedAll_eq ih]
    rfl

/-- The compared segments of a generic type are the qualified ones. -/
theorem segments_eq_compared {s : Signature} (h : s.Writable) : s.segments = .ok s.compared := by
  obtain ⟨path, segment, hp, hc⟩ := exists_eq_concat h.path.ne_nil
  rw [hc, segments_eq hp h.hasLongArity]

/-- They are the segments with which it is qualified. -/
theorem qualified?_eq {s : Signature} (h : s.Writable) : s.qualified? = some s.compared := by
  rw [qualified?, segments_eq_compared h]
  rfl

/-- Of two paths the ends that differ are left. -/
theorem ends_eq {a b : List (List Char)} (ha : a ≠ []) (hb : b ≠ []) :
    ends a b = .ok (dotted (Suffix.last (Suffix.kept a b) a),
      dotted (Suffix.last (Suffix.kept a b) b)) := by
  have some_nil : ¬(a.isEmpty || b.isEmpty) = true := by simp [ha, hb]
  rw [ends, Suffix.distinguish?, if_neg some_nil]
  rfl

/-- Two generic types are resolved by their segments and their arguments. -/
theorem resolve_generic {s t : Signature} (hs : s.isGeneric = true) (ht : t.isGeneric = true) :
    s.resolve t = (do
      let a ← s.segments
      let b ← t.segments
      let (x, y) ← ends a b
      let (xs, ys) ← resolveAll s.arguments t.arguments
      pure (apply x xs ++ s.ranks, apply y ys ++ t.ranks)) := by
  cases s
  cases t
  rw [isGeneric] at hs ht
  exact if_pos (by rw [hs, ht]; rfl)

/-- A generic type and one that is not are shortened each on its own. -/
theorem resolve_mixed {s t : Signature} (h : s.isGeneric ≠ t.isGeneric) :
    s.resolve t = (do
      let x ← s.shortened
      let y ← t.shortened
      pure (x, y)) := by
  obtain ⟨p, m, as, r, e⟩ := s
  obtain ⟨q, n, bs, u, f⟩ := t
  rw [isGeneric, isGeneric] at h
  have one : ¬(decide (0 < m) && decide (0 < n)) = true ∧
      (decide (0 < m) || decide (0 < n)) = true := by
    cases hm : decide (0 < m) <;> cases hn : decide (0 < n) <;> simp_all
  rw [resolve, if_neg one.1, if_pos one.2]

/-- Two types that are not generic are resolved by their paths. -/
theorem resolve_plain {s t : Signature} (hs : s.isGeneric = false) (ht : t.isGeneric = false) :
    s.resolve t = (do
      let (x, y) ← ends s.path t.path
      pure (x ++ s.ranks, y ++ t.ranks)) := by
  cases s
  cases t
  rw [isGeneric] at hs ht
  rw [resolve, if_neg (by rw [hs, ht]; decide), if_neg (by rw [hs, ht]; decide)]

/-- Arguments are resolved to the full names of what is left of them if each pair is. -/
theorem resolveAll_eq {as bs : List Signature}
    (h : ∀ a ∈ as, ∀ b ∈ bs, a.resolve b = .ok ((a.against b).render, (b.against a).render))
    (ha : ∀ a ∈ as, a.shortened = .ok a.bare.render)
    (hb : ∀ b ∈ bs, b.shortened = .ok b.bare.render) :
    resolveAll as bs = .ok ((againstAll as bs).map render, (againstAll bs as).map render) := by
  induction as generalizing bs with
  | nil =>
    rw [againstAll_nil]
    cases bs with
    | nil => rfl
    | cons b bs =>
      rw [resolveAll, shortenedAll_eq hb]
      rfl
  | cons a as ih =>
    cases bs with
    | nil =>
      rw [againstAll_nil, resolveAll, shortenedAll_eq ha]
      · rfl
      · exact List.cons_ne_nil a as
    | cons b bs =>
      have head := h a List.mem_cons_self b List.mem_cons_self
      have tail := ih
        (fun c hc d hd => h c (List.mem_cons_of_mem _ hc) d (List.mem_cons_of_mem _ hd))
        (List.forall_mem_cons.1 ha).2 (List.forall_mem_cons.1 hb).2
      rw [resolveAll, head, tail]
      rfl

/-- A node that is not generic has no arguments. -/
theorem Formed.arguments_eq_nil {s : Signature} (h : s.Formed) (hg : s.isGeneric = false) :
    s.arguments = [] := by
  rw [isGeneric, decide_eq_false_iff_not] at hg
  have := h.arity
  exact List.length_eq_zero_iff.1 (by omega)

/-- **A pair of names is shortened to the full names of what is left of both trees.** -/
theorem resolve_eq {a b : Signature} (ha : a.Every Writable) (hb : b.Every Writable) :
    a.resolve b = .ok ((a.against b).render, (b.against a).render) := by
  induction ha generalizing b with
  | @node s hs hargs ih =>
    cases hb with
    | node ht htargs =>
      have sne := hs.path.ne_nil
      have tne := ht.path.ne_nil
      by_cases hg : s.isGeneric = b.isGeneric
      · rw [against_of_eq hg, against_of_eq hg.symm, render_cut sne (Suffix.kept_pos _ _),
          render_cut tne (Suffix.kept_pos _ _), Suffix.kept_comm b.compared]
        cases h : s.isGeneric with
        | true =>
          have all := resolveAll_eq (fun c hc d hd => ih c hc (htargs d hd))
            (fun c hc => shortened_eq (hargs c hc)) (fun d hd => shortened_eq (htargs d hd))
          rw [resolve_generic h (hg ▸ h), segments_eq_compared hs, segments_eq_compared ht]
          change ((ends s.compared b.compared) >>= _) = _
          rw [ends_eq (compared_ne_nil sne) (compared_ne_nil tne)]
          change (resolveAll s.arguments b.arguments >>= _) = _
          rw [all]
          rfl
        | false =>
          rw [resolve_plain h (hg ▸ h), ends_eq sne tne, hs.arguments_eq_nil h,
            ht.arguments_eq_nil (hg ▸ h), compared_plain h, compared_plain (hg ▸ h)]
          rfl
      · rw [against_of_ne hg, against_of_ne (Ne.symm hg), resolve_mixed hg,
          shortened_eq (.node hs hargs), shortened_eq (.node ht htargs)]
        rfl

/-! ### Cut trees can be written -/

/-- A node that is cut can still be written. -/
theorem Writable.cut {s : Signature} {k : Nat} {as : List Signature} (h : s.Writable)
    (hk : 0 < k) (hl : k ≤ s.path.length) (has : as.length = s.arguments.length) :
    (s.cut k as).Writable := by
  have hsuffix := Suffix.last_suffix k s.path
  refine ⟨⟨⟨?_, fun x hx => h.path.segment_ne_nil x (hsuffix.subset hx),
    fun x hx => h.path.not_mark x (hsuffix.subset hx)⟩, ?_, h.ranks, h.nested, h.nested_eq_nil⟩,
    h.digits⟩
  · exact List.ne_nil_of_length_pos (by rw [Signature.cut, Suffix.length_last hl]; exact hk)
  · rw [Signature.cut, h.arity, has]

/-- Nodes with the first property can be written, and have the second one when they are cut. -/
structure CutsTo (P Q : Signature → Prop) : Prop where
  writable : ∀ s, P s → s.Writable
  cut : ∀ s k as, P s → 0 < k → k ≤ s.path.length → as.length = s.arguments.length →
    Q (s.cut k as)

section
variable {P Q : Signature → Prop}

/-- A tree cut to last segments has what cutting gives. -/
theorem CutsTo.bare (h : CutsTo P Q) {s : Signature} (hs : s.Every P) : s.bare.Every Q := by
  induction hs with
  | @node s hs _ ih =>
    have ne := (h.writable s hs).path.ne_nil
    rw [bare_eq_cut]
    refine .node (h.cut s 1 _ hs Nat.one_pos (List.length_pos_iff.2 ne) (List.length_map _))
      fun x hx => ?_
    obtain ⟨a, ha, rfl⟩ := List.mem_map.1 hx
    exact ih a ha

/-- So has a tree cut against another one. -/
theorem CutsTo.against (h : CutsTo P Q) {a : Signature} (ha : a.Every P) (b : Signature) :
    (a.against b).Every Q := by
  induction ha generalizing b with
  | @node s hs hargs ih =>
    by_cases hg : s.isGeneric = b.isGeneric
    · have le := kept_le_length (h.writable s hs).path.ne_nil b
      rw [against_of_eq hg]
      refine .node (h.cut s _ _ hs (Suffix.kept_pos _ _) le (length_againstAll _ _)) fun x hx => ?_
      obtain ⟨a, ha, rfl | ⟨b, rfl⟩⟩ := mem_againstAll hx
      · exact h.bare (hargs a ha)
      · exact ih a ha b
    · rw [against_of_ne hg]
      exact h.bare (.node hs hargs)

end

/-- What can be written can be written when it is cut. -/
theorem cutsTo_writable : CutsTo Writable Writable := ⟨fun _ h => h, fun _ _ _ h => h.cut⟩

/-- What is left of a tree that can be written can be written. -/
theorem writable_against {a : Signature} (h : a.Every Writable) (b : Signature) :
    (a.against b).Every Writable :=
  cutsTo_writable.against h b

end Signature
end TypeMismatch
