import TypeMismatch.Proofs.Name.Ending
import TypeMismatch.Proofs.Resolution

/-!
# Names reduced to their last segments

A name that can be read is shortened (`fully_shorten_type_name`) to the full name of its bare tree
(`shortenName_of_read`), in which every node has the last segment of its path and is as it was
otherwise (`isBare_bare`).  If no segment begins or ends with a blank, that tree is what is read
from the shortened name; and a bare tree has nothing more to lose, so that shortening is a
projection (`shortenName_projects`).
-/

namespace TypeMismatch

namespace Signature

/-- A tree with every path of another one replaced by its last segment: the nodes stand at the same
addresses, with as many arguments, and differ in nothing but the path. -/
def IsBare (s left : Signature) : Prop :=
  ∀ w t, s.node? w = some t → ∃ segment arguments, t.path.getLast? = some segment ∧
    left.node? w = some { t with path := [segment], arguments := arguments } ∧
      arguments.length = t.arguments.length

/-- The tree cut to last segments is bare. -/
theorem isBare_bare {s : Signature} (h : s.Every Formed) : IsBare s s.bare := by
  intro w t hw
  have segment := List.getLast?_eq_some_getLast (h.node? hw).here.path.ne_nil
  refine ⟨_, t.arguments.map bare, segment, ?_, List.length_map _⟩
  rw [node?_bare, hw, Option.map_some, bare_eq_cut, cut, Suffix.last_one segment]

end Signature

section
variable {limit : Limit} {source : String} {s : Signature}

/-- A name that can be read is shortened to the full name of its bare tree. -/
theorem shortenName_of_read (h : Name.read limit source.toList = .ok s) :
    (shortenName limit (.text source)).result = .ok (String.ofList s.bare.render) := by
  rw [shortenName, Traced.result_bind_ok (readName_ok h),
    Signature.shortened_eq (Name.writable_of_read h)]
  rfl

/-- **Shortening is a projection.**  A name that can be read, and of which no segment begins or ends
with a blank, is shortened to a name that the same reader accepts.  It reads it as the signature
with every path replaced by its last segment, and the shortened name is shortened to itself. -/
theorem shortenName_projects (h : Name.read limit source.toList = .ok s)
    (tight : s.Every Signature.Tight) :
    ∃ short, (shortenName limit (.text source)).result = .ok short ∧
      (∃ t, Name.read limit short.toList = .ok t ∧ Signature.IsBare s t) ∧
      (shortenName limit (.text short)).result = .ok short := by
  have again : Name.read limit (String.ofList s.bare.render).toList = .ok s.bare := by
    rw [String.toList_ofList]
    exact Name.read_bare h tight
  refine ⟨_, shortenName_of_read h,
    ⟨_, again, Signature.isBare_bare (Name.formed_of_read h)⟩, ?_⟩
  rw [shortenName_of_read again, Signature.bare_bare]

end

/-- The hypotheses are satisfiable, and by a name with a nested type, ranks at two levels, an arity
zero that is erased, and an arity that is not written in the shortest way. -/
theorem shortenName_projects_nested :
    ∃ s, Name.read .standard "N.A`02+E[M.B`0[][*], C.D`1[X.Y Z][,]][]".toList = .ok s ∧
      s.Every Signature.Tight ∧
      ∃ short, (shortenName .standard
          (.text "N.A`02+E[M.B`0[][*], C.D`1[X.Y Z][,]][]")).result = .ok short ∧
        (∃ t, Name.read .standard short.toList = .ok t ∧ Signature.IsBare s t) ∧
        (shortenName .standard (.text short)).result = .ok short := by
  have plain : ∀ path ranks, (Signature.plain path ranks).Tight →
      (Signature.plain path ranks).Every Signature.Tight := fun _ _ h =>
    .node h fun _ ha => absurd ha List.not_mem_nil
  have tight : Signature.Every Signature.Tight ⟨["N".toList, "A".toList], 2,
      [.plain ["M".toList, "B".toList] "[*]".toList,
        ⟨["C".toList, "D".toList], 1, [.plain ["X".toList, "Y Z".toList] []], "[,]".toList, []⟩],
      "[]".toList, "+E".toList⟩ :=
    .node (by decide) (List.forall_mem_cons.2 ⟨plain _ _ (by decide),
      List.forall_mem_singleton.2 (.node (by decide)
        (List.forall_mem_singleton.2 (plain _ _ (by decide))))⟩)
  exact ⟨_, rfl, tight, shortenName_projects rfl tight⟩

end TypeMismatch
