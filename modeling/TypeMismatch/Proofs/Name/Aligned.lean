import TypeMismatch.Proofs.Name.Cut
import TypeMismatch.Proofs.Name.Writable

/-!
# What every node of a pair keeps

Two nodes of a pair of signatures are aligned if they stand at the same address and every node above
them is generic on both sides.  Of an aligned node the fewest segments are kept that tell it from
its counterpart; where nothing does, or where there is no counterpart to compare with, one segment
is kept (`Keeps`).  Shortening a pair (`resolve_signatures`) cuts every node of both trees to so
many segments and changes nothing else (`resolve_cuts`).  The proof is by induction on the address
of the node, for the tree that is cut against the other; both sides are instances of it.
-/

namespace TypeMismatch
namespace Signature

/-- The node at an address, the places of the arguments on the way down from the root. -/
def node? : Signature → List Nat → Option Signature
  | s, [] => some s
  | s, i :: w => s.arguments[i]?.bind fun a => node? a w

/-- Two nodes of a pair that are compared: the roots, and arguments at the same place of generic
nodes that are compared. -/
inductive Aligned (a b : Signature) : List Nat → Signature → Signature → Prop
  | root : Aligned a b [] a b
  | argument {w : List Nat} {i : Nat} {s t c d : Signature} : Aligned a b w s t →
      s.isGeneric = true → t.isGeneric = true → s.arguments[i]? = some c →
      t.arguments[i]? = some d → Aligned a b (w ++ [i]) c d

/-- Two nodes, both generic or both not, of which the last `k` compared segments differ. -/
def Apart (k : Nat) (s t : Signature) : Prop :=
  s.isGeneric = t.isGeneric ∧ Suffix.Differ k s.compared t.compared

/-- The number of segments that the first of two trees keeps at an address: the fewest that tell the
node from the one aligned with it, if there are any that do; else one. -/
def Keeps (a b : Signature) (w : List Nat) (k : Nat) : Prop :=
  (∃ s t, Aligned a b w s t ∧ Apart k s t ∧ ∀ j, Apart j s t → k ≤ j) ∨
    k = 1 ∧ ∀ s t j, Aligned a b w s t → ¬Apart j s t

/-- A node of which the last `k` segments are left, at least one, and everything else as it was. -/
structure IsCut (k : Nat) (s left : Signature) : Prop where
  pos : 0 < k
  path : left.path <:+ s.path
  length : left.path.length = k
  arity : left.arity = s.arity
  nested : left.nested = s.nested
  ranks : left.ranks = s.ranks
  arguments : left.arguments.length = s.arguments.length

/-- A tree with every node of the first of two trees cut to what it keeps. -/
def IsCutAgainst (a b left : Signature) : Prop :=
  ∀ w s, a.node? w = some s → ∃ k t, Keeps a b w k ∧ left.node? w = some t ∧ IsCut k s t

/-! ### Nodes and their alignment -/

/-- What holds everywhere in a tree holds everywhere below each of its nodes. -/
theorem Every.node? {P : Signature → Prop} {s t : Signature} {w : List Nat} (h : s.Every P)
    (hw : s.node? w = some t) : t.Every P := by
  induction w generalizing s with
  | nil => exact Option.some.inj hw ▸ h
  | cons i w ih =>
    obtain ⟨a, ha, hw⟩ := Option.bind_eq_some_iff.1 hw
    exact ih (h.arguments a (List.mem_of_getElem? ha)) hw

/-- At the root the two roots are aligned. -/
theorem aligned_nil {a b s t : Signature} (h : Aligned a b [] s t) : s = a ∧ t = b := by
  generalize hw : ([] : List Nat) = w at h
  cases h with
  | root => exact ⟨rfl, rfl⟩
  | argument => exact absurd hw.symm (List.concat_ne_nil _ _)

/-- What is aligned below the roots is aligned in arguments of generic roots. -/
theorem aligned_cons_iff {a b s t : Signature} {i : Nat} {w : List Nat} :
    Aligned a b (i :: w) s t ↔ a.isGeneric = true ∧ b.isGeneric = true ∧
      ∃ c d, a.arguments[i]? = some c ∧ b.arguments[i]? = some d ∧ Aligned c d w s t := by
  constructor
  · intro h
    generalize hv : i :: w = v at h
    induction h generalizing w with
    | root => cases hv
    | @argument v j s t c d h hs ht hc hd ih =>
      cases v with
      | nil =>
        obtain ⟨rfl, rfl⟩ := aligned_nil h
        obtain ⟨rfl, rfl⟩ := List.cons.inj hv
        exact ⟨hs, ht, c, d, hc, hd, .root⟩
      | cons i' v =>
        obtain ⟨rfl, rfl⟩ := List.cons.inj hv
        obtain ⟨ha, hb, c', d', hc', hd', h⟩ := ih rfl
        exact ⟨ha, hb, c', d', hc', hd', .argument h hs ht hc hd⟩
  · rintro ⟨ha, hb, c, d, hc, hd, h⟩
    induction h with
    | root => exact .argument .root ha hb hc hd
    | argument _ hs ht hc hd ih => exact .argument ih hs ht hc hd

/-! ### Nodes of cut trees -/

/-- Cutting a node leaves so many segments and everything else. -/
theorem isCut_cut {s : Signature} {k : Nat} {as : List Signature} (hk : 0 < k)
    (hl : k ≤ s.path.length) (has : as.length = s.arguments.length) : IsCut k s (s.cut k as) :=
  ⟨hk, Suffix.last_suffix _ _, Suffix.length_last hl, rfl, rfl, rfl, has⟩

/-- A tree cut to last segments has one segment left at its root. -/
theorem isCut_bare {s : Signature} (h : s.path ≠ []) : IsCut 1 s s.bare := by
  rw [bare_eq_cut]
  exact isCut_cut Nat.one_pos (List.length_pos_iff.2 h) (List.length_map _)

/-- The nodes of a tree cut to last segments are those of the tree, cut so. -/
theorem node?_bare (s : Signature) (w : List Nat) : s.bare.node? w = (s.node? w).map bare := by
  induction w generalizing s with
  | nil => rfl
  | cons i w ih =>
    rw [bare_eq_cut, node?, node?, cut, List.getElem?_map]
    cases s.arguments[i]? with
    | none => rfl
    | some a => exact ih a

/-- Below a node without a counterpart every node is cut to one segment. -/
theorem isCut_node?_bare {s t : Signature} {w : List Nat} (h : s.Every Formed)
    (hw : s.node? w = some t) : ∃ left, s.bare.node? w = some left ∧ IsCut 1 t left :=
  ⟨t.bare, by rw [node?_bare, hw]; rfl, isCut_bare (h.node? hw).here.path.ne_nil⟩

/-- **Two roots of one kind keep the fewest segments that tell them apart, or one.** -/
theorem keeps_kept {a b : Signature} (h : a.isGeneric = b.isGeneric) :
    Keeps a b [] (Suffix.kept a.compared b.compared) := by
  by_cases hd : ∃ k, Suffix.Differ k a.compared b.compared
  · obtain ⟨k, hd⟩ := hd
    exact .inl ⟨a, b, .root, ⟨h, (Suffix.kept_least hd).1⟩, fun j hj => (Suffix.kept_least hj.2).2⟩
  · rw [not_exists] at hd
    refine .inr ⟨Suffix.kept_eq_one hd, fun s t j hst hj => ?_⟩
    obtain ⟨rfl, rfl⟩ := aligned_nil hst
    exact hd j hj.2

/-- What an argument keeps in the pair of arguments it keeps in the whole pair. -/
theorem Keeps.argument {a b c d : Signature} {i k : Nat} {w : List Nat} (ha : a.isGeneric = true)
    (hb : b.isGeneric = true) (hc : a.arguments[i]? = some c) (hd : b.arguments[i]? = some d)
    (h : Keeps c d w k) : Keeps a b (i :: w) k := by
  rcases h with ⟨s, t, hst, hk⟩ | ⟨hk, hn⟩
  · exact .inl ⟨s, t, aligned_cons_iff.2 ⟨ha, hb, c, d, hc, hd, hst⟩, hk⟩
  · refine .inr ⟨hk, fun s t j hst => ?_⟩
    obtain ⟨-, -, c', d', hc', hd', hst⟩ := aligned_cons_iff.1 hst
    rw [hc] at hc'
    rw [hd] at hd'
    exact hn s t j (Option.some.inj hc' ▸ Option.some.inj hd' ▸ hst)

/-- **The tree cut against another has every node cut to what it keeps.** -/
theorem isCutAgainst_against {a b : Signature} (ha : a.Every Formed) :
    IsCutAgainst a b (a.against b) := by
  intro w s hw
  induction w generalizing a b with
  | nil =>
    obtain rfl := Option.some.inj hw
    have hp := ha.here.path.ne_nil
    by_cases hg : a.isGeneric = b.isGeneric
    · refine ⟨_, _, keeps_kept hg, rfl, ?_⟩
      rw [against_of_eq hg]
      exact isCut_cut (Suffix.kept_pos _ _) (kept_le_length hp b) (length_againstAll _ _)
    · refine ⟨1, _, .inr ⟨rfl, fun s t j hst hj => ?_⟩, rfl, ?_⟩
      · obtain ⟨rfl, rfl⟩ := aligned_nil hst
        exact hg hj.1
      · rw [against_of_ne hg]
        exact isCut_bare hp
  | cons i w ih =>
    obtain ⟨c, hc, hw⟩ := Option.bind_eq_some_iff.1 hw
    have hcf := ha.arguments c (List.mem_of_getElem? hc)
    by_cases hg : a.isGeneric = b.isGeneric
    · -- A root that has an argument is generic, and so is the other root.
      have hga : a.isGeneric = true := by
        by_contra hn
        rw [ha.here.arguments_eq_nil (Bool.eq_false_iff.2 hn)] at hc
        cases hc
      rw [against_of_eq hg, node?, cut, getElem?_againstAll, hc]
      cases hd : b.arguments[i]? with
      | none =>
        obtain ⟨left, hleft, hcut⟩ := isCut_node?_bare hcf hw
        refine ⟨1, left, .inr ⟨rfl, fun s t j hst => ?_⟩, hleft, hcut⟩
        obtain ⟨-, -, c', d', -, hd', -⟩ := aligned_cons_iff.1 hst
        rw [hd] at hd'
        cases hd'
      | some d =>
        obtain ⟨k, left, hk, hleft, hcut⟩ := ih hcf hw (b := d)
        exact ⟨k, left, hk.argument hga (hg ▸ hga) hc hd, hleft, hcut⟩
    · -- Below roots of different kinds nothing is aligned.
      obtain ⟨left, hleft, hcut⟩ := isCut_node?_bare ha
        (show a.node? (i :: w) = some s by rw [node?, hc]; exact hw)
      rw [against_of_ne hg]
      refine ⟨1, left, .inr ⟨rfl, fun s t j hst => ?_⟩, hleft, hcut⟩
      obtain ⟨hga, hgb, -⟩ := aligned_cons_iff.1 hst
      exact absurd (hga.trans hgb.symm) hg

/-! ### Shortening a pair of names that were read -/

/-- **Shortening cuts every node to the fewest segments that distinguish it.**  Two signatures that
were read are shortened without a failure, to the full names of two trees, and each of them is its
signature with every node cut to what it keeps against the other. -/
theorem resolve_cuts {l m : Limit} {x y : List Char} {a b : Signature}
    (ha : Name.read l x = .ok a) (hb : Name.read m y = .ok b) :
    ∃ u v left right, a.resolve b = .ok (u, v) ∧ left.text? = some u ∧ right.text? = some v ∧
      IsCutAgainst a b left ∧ IsCutAgainst b a right := by
  have wa := Name.writable_of_read ha
  have wb := Name.writable_of_read hb
  exact ⟨_, _, a.against b, b.against a, resolve_eq wa wb, text?_eq (writable_against wa b),
    text?_eq (writable_against wb a), isCutAgainst_against (Name.formed_of_read ha),
    isCutAgainst_against (Name.formed_of_read hb)⟩

/-- The hypotheses are satisfiable, and by names with a pair of generic arguments, a pair of which
one side is generic, and an argument without a counterpart. -/
theorem resolve_cuts_nested :
    ∃ a b, Name.read .standard "A.M`3[B.L`1[C.T],D.U`1[E.V],F.G][]".toList = .ok a ∧
      Name.read .standard "N.M`2[Z.L`1[X.T],D.U]".toList = .ok b ∧
      ∃ u v left right, a.resolve b = .ok (u, v) ∧ left.text? = some u ∧ right.text? = some v ∧
        IsCutAgainst a b left ∧ IsCutAgainst b a right :=
  ⟨_, _, rfl, rfl, resolve_cuts (l := .standard) (m := .standard)
    (x := "A.M`3[B.L`1[C.T],D.U`1[E.V],F.G][]".toList) (y := "N.M`2[Z.L`1[X.T],D.U]".toList)
    rfl rfl⟩

end Signature
end TypeMismatch
