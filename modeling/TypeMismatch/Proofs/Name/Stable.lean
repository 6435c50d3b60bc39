import TypeMismatch.Proofs.Name.Aligned
import TypeMismatch.Proofs.Name.Place
import TypeMismatch.Proofs.Name.RoundTrip

/-!
# Shortened pairs are stable

A pair of trees that are cut against each other (`resolve_signatures`) cannot be cut further: where
two paths differ, what is left of them differs in its first segment and nowhere behind it, and where
they do not, or are not compared, one segment is left (`against_against`).  What is left of a tree
that was read can be read again, if no segment begins or ends with a blank (`read_against`): cutting
changes neither the depth nor an arity, and an arity that was read is written with no more digits.
-/

namespace TypeMismatch
namespace Signature

/-- No segment of a node begins or ends with a blank. -/
def Tight (s : Signature) : Prop :=
  ∀ segment ∈ s.path, (∀ c ∈ segment.head?, Text.isBlank c = false) ∧
    ∀ c ∈ segment.getLast?, Text.isBlank c = false

instance (s : Signature) : Decidable s.Tight :=
  decidable_of_iff ((s.path.all fun segment =>
      segment.head?.all (!Text.isBlank ·) && segment.getLast?.all (!Text.isBlank ·)) = true) <| by
    simp only [Tight, List.all_eq_true, Bool.and_eq_true, Option.all_eq_true, Bool.not_eq_true',
      Option.mem_def]

/-! ### Depth -/

mutual

/-- Cutting a tree to last segments leaves it as deep as it was. -/
theorem depth_bare : ∀ s : Signature, s.bare.depth = s.depth
  | ⟨_, _, as, _, _⟩ => depths_bareAll as

/-- So it is with arguments. -/
theorem depths_bareAll : ∀ as : List Signature, depths (bareAll as) = depths as
  | [] => rfl
  | a :: as => by rw [bareAll, depths, depths, depth_bare a, depths_bareAll as]

end

mutual

/-- Cutting a tree leaves it as deep as it was. -/
theorem depth_against : ∀ s t : Signature, (s.against t).depth = s.depth
  | ⟨p, m, as, r, e⟩, ⟨q, n, bs, u, f⟩ => by
    rw [against]
    split
    · exact depths_againstAll as bs
    · exact depth_bare _

/-- Arguments cut against others are as deep as they were. -/
theorem depths_againstAll : ∀ as bs : List Signature, depths (againstAll as bs) = depths as
  | [], _ => by rw [againstAll]
  | a :: as, [] => depths_bareAll (a :: as)
  | a :: as, b :: bs => by
    rw [againstAll, depths, depths, depth_against a b, depths_againstAll as bs]

end

/-! ### Cutting again -/

/-- A node that is cut to so many segments has no more to lose. -/
theorem cut_cut (k : Nat) (s : Signature) (as bs : List Signature) :
    (s.cut k as).cut k bs = s.cut k bs := by
  rw [cut, cut, cut, Suffix.last_last (Nat.le_refl k)]

/-- The last segments of a path are compared as they were in the path. -/
theorem compared_cut {s : Signature} {k : Nat} (h : s.path ≠ []) (hk : 0 < k)
    (as : List Signature) : (s.cut k as).compared = Suffix.last k s.compared := by
  obtain ⟨path, segment, hp, hc⟩ := exists_eq_concat h
  have left : (s.cut k as).path = Suffix.last (k - 1) path ++ [segment] := by
    rw [cut, hp, Suffix.last_concat hk]
  rw [compared_eq left, hc, Suffix.last_concat hk]
  rfl

mutual

/-- A tree cut to last segments has no more to lose. -/
theorem bare_bare : ∀ s : Signature, s.bare.bare = s.bare
  | ⟨p, m, as, r, e⟩ => by
    rw [bare_eq_cut ⟨p, m, as, r, e⟩, bare_eq_cut, cut_cut]
    exact congrArg (cut 1 ⟨p, m, as, r, e⟩) (map_bare_bare as)

/-- Nor have arguments. -/
theorem map_bare_bare : ∀ as : List Signature, (as.map bare).map bare = as.map bare
  | [] => rfl
  | a :: as => by rw [List.map_cons, List.map_cons, bare_bare a, map_bare_bare as]

end

/-- Cutting does not change whether a tree is generic. -/
theorem isGeneric_against (s t : Signature) : (s.against t).isGeneric = s.isGeneric := by
  by_cases hg : s.isGeneric = t.isGeneric
  · rw [against_of_eq hg]
    rfl
  · rw [against_of_ne hg, bare_eq_cut]
    rfl

/-- **Trees that are cut against each other are not cut further.** -/
theorem against_against {a b : Signature} (ha : a.Every Formed) (hb : b.Every Formed) :
    (a.against b).against (b.against a) = a.against b := by
  induction ha generalizing b with
  | @node s hs _ ih =>
    cases hb with
    | node ht htargs =>
      have sne := hs.path.ne_nil
      have tne := ht.path.ne_nil
      have kind := isGeneric_against s b
      have kind' := isGeneric_against b s
      by_cases hg : s.isGeneric = b.isGeneric
      · -- An argument without a counterpart has none in the cut tree either.
        have arguments : againstAll (againstAll s.arguments b.arguments)
            (againstAll b.arguments s.arguments) = againstAll s.arguments b.arguments := by
          refine List.ext_getElem? fun i => ?_
          rw [getElem?_againstAll, getElem?_againstAll, getElem?_againstAll]
          cases hc : s.arguments[i]? with
          | none => rfl
          | some c =>
            cases hd : b.arguments[i]? with
            | none => exact congrArg some (bare_bare c)
            | some d =>
              exact congrArg some
                (ih c (List.mem_of_getElem? hc) (htargs d (List.mem_of_getElem? hd)))
        rw [against_of_eq (kind.trans (hg.trans kind'.symm))]
        rw [against_of_eq hg, against_of_eq hg.symm, Suffix.kept_comm b.compared,
          compared_cut sne (Suffix.kept_pos _ _), compared_cut tne (Suffix.kept_pos _ _),
          Suffix.kept_last (compared_ne_nil sne) (compared_ne_nil tne), cut_cut]
        exact congrArg (s.cut _) arguments
      · -- Cutting does not change which of the two is generic.
        rw [against_of_ne fun he => hg (kind.symm.trans (he.trans kind')), against_of_ne hg,
          bare_bare]

/-! ### Reading what is left -/

/-- A node whose segments neither begin nor end with a blank can be read back when it is cut, if it
can be written. -/
theorem cutsTo_readable : CutsTo (fun s => s.Writable ∧ s.Tight) Readable where
  writable := fun _ h => h.1
  cut := fun s k as ⟨writable, tight⟩ hk hl has => by
    have hsuffix := Suffix.last_suffix k s.path
    refine ⟨(writable.cut hk hl has).toFormed, fun segment hs => ?_, writable.digits,
      fun _ _ segment hs => ?_⟩
    · exact (tight segment (hsuffix.subset (List.mem_of_head? hs))).1
    · exact (tight segment (hsuffix.subset (List.mem_of_getLast? hs))).2

end Signature

namespace Name

/-- What was read, if no segment begins or ends with a blank, can be read back where it is cut, and
is not deeper than the limit. -/
theorem cuttable_of_read {limit : Limit} {text : List Char} {a : Signature}
    (h : read limit text = .ok a) (tight : a.Every Signature.Tight) :
    (a.Every fun s => s.Writable ∧ s.Tight) ∧ a.depth ≤ limit.levels := by
  have depth := (derives_of_read h).depth_le
  rw [Nat.zero_add] at depth
  exact ⟨(writable_of_read h).and tight, depth⟩

/-- **What is left of a tree that was read is read from its name**, if no segment of the tree begins
or ends with a blank. -/
theorem read_against {limit : Limit} {text : List Char} {a : Signature}
    (h : read limit text = .ok a) (tight : a.Every Signature.Tight) (b : Signature) :
    read limit (a.against b).render = .ok (a.against b) := by
  obtain ⟨cuttable, depth⟩ := cuttable_of_read h tight
  exact Signature.read_of_readable (Signature.cutsTo_readable.against cuttable b)
    ((Signature.depth_against a b).symm ▸ depth)

/-- So is what is left of it if every node is cut to its last segment. -/
theorem read_bare {limit : Limit} {text : List Char} {a : Signature}
    (h : read limit text = .ok a) (tight : a.Every Signature.Tight) :
    read limit a.bare.render = .ok a.bare := by
  obtain ⟨cuttable, depth⟩ := cuttable_of_read h tight
  exact Signature.read_of_readable (Signature.cutsTo_readable.bare cuttable)
    ((Signature.depth_bare a).symm ▸ depth)

end Name
end TypeMismatch
