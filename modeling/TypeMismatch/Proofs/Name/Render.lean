import TypeMismatch.Proofs.Name.Reader
import TypeMismatch.Proofs.Name.Signature

/-!
# Written signatures are different

No two formed signatures have the same full name (`render_signature`; `render_injective`), whatever
blanks are in them: reading may trim a name, but telling names apart may not depend on that.  A
written signature is taken apart from its start.  The path ends at the first reserved character, the
arity at the first character that is no digit, the nested types at the first bracket, and an
argument at the comma or the bracket behind it; so the text and whatever closes it determine the
tree (`render_append_inj`), by induction on the tree.
-/

namespace TypeMismatch
namespace Name

/-- Two texts without a stop, each followed by nothing or by a stop, end at the same place. -/
theorem append_inj_of_stop {P : Char → Prop} {s t u v : List Char} (hs : ∀ c ∈ s, ¬P c)
    (ht : ∀ c ∈ t, ¬P c) (hu : ∀ c ∈ u.head?, P c) (hv : ∀ c ∈ v.head?, P c)
    (h : s ++ u = t ++ v) : s = t ∧ u = v := by
  induction s generalizing t with
  | nil =>
    cases t with
    | nil => exact ⟨rfl, h⟩
    | cons c t =>
      exact absurd (hu c (by rw [← List.nil_append u, h]; rfl)) (ht c List.mem_cons_self)
  | cons c s ih =>
    cases t with
    | nil =>
      exact absurd (hv c (by rw [← List.nil_append v, ← h]; rfl)) (hs c List.mem_cons_self)
    | cons d t =>
      obtain ⟨rfl, tail⟩ := List.cons.inj h
      obtain ⟨rfl, huv⟩ := ih (fun x hx => hs x (List.mem_cons_of_mem _ hx))
        (fun x hx => ht x (List.mem_cons_of_mem _ hx)) tail
      exact ⟨rfl, huv⟩

/-- What may follow a written argument: nothing, a comma or a closing bracket. -/
def Closes (u : List Char) : Prop := ∀ c ∈ u.head?, c = ',' ∨ c = ']'

/-- A name may end where the text ends. -/
theorem closes_nil : Closes [] := fun _ hc => nomatch hc

/-- A name may end at a comma. -/
theorem closes_comma (u : List Char) : Closes (',' :: u) :=
  fun _ hc => .inl (Option.some.inj hc).symm

/-- A name may end at a closing bracket. -/
theorem closes_bracket (u : List Char) : Closes (']' :: u) :=
  fun _ hc => .inr (Option.some.inj hc).symm

/-! ### The parts of a written node -/

/-- A path is known from its writing. -/
theorem IsPath.dotted_inj {path other : List (List Char)} (hp : IsPath path) (ho : IsPath other)
    (h : Signature.dotted path = Signature.dotted other) : path = other := by
  have no_point : ∀ {p : List (List Char)}, IsPath p → ∀ segment ∈ p, '.' ∉ segment :=
    fun hp segment hs hm => hp.not_mark segment hs '.' hm (by decide)
  rw [← Text.split_intercalate hp.ne_nil (no_point hp),
    ← Text.split_intercalate ho.ne_nil (no_point ho)]
  exact congrArg (Text.split '.') h

/-- A path ends at a mark other than a point. -/
theorem IsPath.append_inj {path other : List (List Char)} {u v : List Char} (hp : IsPath path)
    (ho : IsPath other) (hu : ∀ c ∈ u.head?, IsMark c ∧ c ≠ '.')
    (hv : ∀ c ∈ v.head?, IsMark c ∧ c ≠ '.')
    (h : Signature.dotted path ++ u = Signature.dotted other ++ v) : path = other ∧ u = v := by
  have inside : ∀ {p : List (List Char)}, IsPath p → ∀ c ∈ Signature.dotted p,
      ¬(IsMark c ∧ c ≠ '.') := fun hp c hc hs => (hp.mem_dotted hc).elim hs.2 fun hn => hn hs.1
  obtain ⟨hd, h⟩ := append_inj_of_stop (inside hp) (inside ho) hu hv h
  exact ⟨hp.dotted_inj ho hd, h⟩

/-- Ranks are known from their writing, whatever closes them. -/
theorem IsRanks.append_inj {ranks other u v : List Char} (hr : IsRanks ranks) (ho : IsRanks other)
    (hu : Closes u) (hv : Closes v) (h : ranks ++ u = other ++ v) : ranks = other ∧ u = v := by
  have no_rank : ∀ {w x : List Char}, Closes w → w ≠ '[' :: x := by
    rintro w x hw rfl
    exact absurd (hw '[' rfl) (by decide)
  have inside : ∀ {rank : List Char}, (∀ c ∈ rank, c = ',' ∨ c = '*') → ∀ c ∈ rank, c ≠ ']' := by
    intro rank hr c hc
    rcases hr c hc with rfl | rfl <;> decide
  have stop : ∀ {w : List Char}, ∀ c ∈ (']' :: w).head?, c = ']' :=
    fun c hc => (Option.some.inj hc).symm
  induction hr generalizing other with
  | nil =>
    cases ho with
    | nil => exact ⟨rfl, h⟩
    | cons => exact absurd h (no_rank hu)
  | cons hrank _ ih =>
    cases ho with
    | nil => exact absurd h.symm (no_rank hv)
    | cons horank ho =>
      rw [List.cons_append, List.cons_append, List.append_assoc, List.append_assoc] at h
      obtain ⟨rfl, rest⟩ :=
        append_inj_of_stop (inside hrank) (inside horank) stop stop (List.cons.inj h).2
      obtain ⟨rfl, huv⟩ := ih ho (List.cons.inj rest).2
      exact ⟨rfl, huv⟩

/-- An arity ends at the nested types, and these end at the bracket. -/
theorem numeral_chain_inj {m n : Nat} {nested other u v : List Char} (hc : IsChain nested)
    (ho : IsChain other) (h : Text.numeral m ++ (nested ++ '[' :: u) =
      Text.numeral n ++ (other ++ '[' :: v)) : m = n ∧ nested = other ∧ u = v := by
  have digits : ∀ {k : Nat}, ∀ c ∈ Text.numeral k, ¬Text.isDigit c = false :=
    fun c hd => by rw [Text.isDigit_of_mem_numeral hd]; decide
  have inside : ∀ {chain : List Char}, IsChain chain → ∀ c ∈ chain, c ≠ '[' := by
    rintro chain hn _ hm rfl
    exact hn.not_isMark _ hm (by decide)
  have stop : ∀ {w : List Char}, ∀ c ∈ ('[' :: w).head?, c = '[' :=
    fun c hs => (Option.some.inj hs).symm
  obtain ⟨hn, h⟩ := append_inj_of_stop digits digits (hc.head?_append u) (ho.head?_append v) h
  obtain ⟨he, h⟩ := append_inj_of_stop (inside hc) (inside ho) stop stop h
  exact ⟨Text.numeral_injective hn, he, (List.cons.inj h).2⟩

end Name

namespace Signature
open Name (Closes closes_nil closes_comma closes_bracket)

/-! ### The tree of a written signature -/

/-- Arguments that can be told apart one by one can be told apart in their bracket. -/
theorem arguments_append_inj {as bs : List Signature} {x y : List Char}
    (hl : as.length = bs.length)
    (h : ∀ a ∈ as, ∀ b ∈ bs, ∀ u v, Closes u → Closes v → a.render ++ u = b.render ++ v →
      a = b ∧ u = v)
    (he : [','].intercalate (as.map render) ++ ']' :: x =
      [','].intercalate (bs.map render) ++ ']' :: y) : as = bs ∧ x = y := by
  induction as generalizing bs with
  | nil =>
    obtain rfl := List.length_eq_zero_iff.1 hl.symm
    exact ⟨rfl, (List.cons.inj he).2⟩
  | cons a as ih =>
    cases bs with
    | nil => cases hl
    | cons b bs =>
      have first := h a List.mem_cons_self b List.mem_cons_self
      have rest := ih (Nat.succ.inj hl) fun c hc d hd =>
        h c (List.mem_cons_of_mem _ hc) d (List.mem_cons_of_mem _ hd)
      rw [List.map_cons, List.map_cons] at he
      -- The last argument is closed by the bracket, and every other one by a comma.
      cases as with
      | nil =>
        obtain rfl := List.length_eq_zero_iff.1 (Nat.succ.inj hl).symm
        rw [List.map_nil, List.intercalate_singleton, List.intercalate_singleton] at he
        obtain ⟨rfl, hxy⟩ := first _ _ (closes_bracket x) (closes_bracket y) he
        exact ⟨rfl, (List.cons.inj hxy).2⟩
      | cons a' as =>
        cases bs with
        | nil => cases Nat.succ.inj hl
        | cons b' bs =>
          rw [List.map_cons, List.map_cons, List.intercalate_cons_cons,
            List.intercalate_cons_cons, List.append_assoc, List.append_assoc, List.append_assoc,
            List.append_assoc] at he
          obtain ⟨rfl, behind⟩ := first _ _ (closes_comma _) (closes_comma _) he
          obtain ⟨has, hxy⟩ := rest (List.cons.inj behind).2
          exact ⟨by rw [has], hxy⟩

/-- What follows the path of a written node, a mark of an arity, a bracket or what closes the node,
is no point and cannot stand in a segment. -/
theorem stop_of_ranks {ranks u : List Char} (hr : Name.IsRanks ranks) (hu : Closes u) :
    ∀ c ∈ (ranks ++ u).head?, (Name.IsMark c ∧ c ≠ '.') ∧ c ≠ arityMark := by
  intro c hc
  rcases hr.eq_nil_or with rfl | ⟨rest, rfl⟩
  · rcases hu c hc with rfl | rfl <;> decide
  · obtain rfl := Option.some.inj hc
    decide

/-- **A written signature and what closes it determine the tree and the rest.** -/
theorem render_append_inj {a b : Signature} {u v : List Char} (ha : a.Every Formed)
    (hb : b.Every Formed) (hu : Closes u) (hv : Closes v) (h : a.render ++ u = b.render ++ v) :
    a = b ∧ u = v := by
  induction ha generalizing b u v with
  | @node s hs _ ih =>
    cases hb with
    | node ht htargs =>
      have mark : ∀ {w : List Char}, ∀ c ∈ (arityMark :: w).head?, Name.IsMark c ∧ c ≠ '.' := by
        intro w c hc
        obtain rfl := Option.some.inj hc
        decide
      obtain ⟨path, ranks, rfl, hp, hr⟩ | ⟨path, c, as, ranks, nested, rfl, hp, hr, hc⟩ :=
        hs.eq_plain_or_generic <;>
      obtain ⟨other, ranks', rfl, ho, hr'⟩ | ⟨other, d, bs, ranks', nested', rfl, ho, hr', hd⟩ :=
        ht.eq_plain_or_generic
      · rw [render_plain, render_plain, List.append_assoc, List.append_assoc] at h
        obtain ⟨rfl, behind⟩ := hp.append_inj ho (fun c hc => (stop_of_ranks hr hu c hc).1)
          (fun c hc => (stop_of_ranks hr' hv c hc).1) h
        obtain ⟨rfl, huv⟩ := hr.append_inj hr' hu hv behind
        exact ⟨rfl, huv⟩
      -- No arity mark stands behind the path of a type that is not generic.
      · rw [render_plain, render_generic, List.append_assoc, List.append_assoc] at h
        obtain ⟨-, behind⟩ := hp.append_inj ho (fun c hc => (stop_of_ranks hr hu c hc).1) mark h
        exact absurd rfl (stop_of_ranks hr hu arityMark (by rw [behind]; rfl)).2
      · rw [render_plain, render_generic, List.append_assoc, List.append_assoc] at h
        obtain ⟨-, behind⟩ := hp.append_inj ho mark (fun c hc => (stop_of_ranks hr' hv c hc).1) h
        exact absurd rfl (stop_of_ranks hr' hv arityMark (by rw [← behind]; rfl)).2
      · rw [render_generic, render_generic] at h
        simp only [List.append_assoc, List.cons_append] at h
        obtain ⟨rfl, behind⟩ := hp.append_inj ho mark mark h
        obtain ⟨hn, rfl, inside⟩ := Name.numeral_chain_inj hc hd (List.cons.inj behind).2
        have hl : (c :: as).length = (d :: bs).length := hn
        obtain ⟨has, rest⟩ := arguments_append_inj hl
          (fun x hx y hy w z hw hz => ih x hx (htargs y hy) hw hz) inside
        obtain ⟨rfl, huv⟩ := hr.append_inj hr' hu hv rest
        obtain ⟨rfl, rfl⟩ := List.cons.inj has
        exact ⟨rfl, huv⟩

/-- **Different signatures have different full names**, if they are formed. -/
theorem render_injective {a b : Signature} (ha : a.Every Formed) (hb : b.Every Formed)
    (h : a.render = b.render) : a = b :=
  (render_append_inj ha hb closes_nil closes_nil (congrArg (· ++ []) h)).1

end Signature
end TypeMismatch
