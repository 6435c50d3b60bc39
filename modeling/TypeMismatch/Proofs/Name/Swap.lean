import TypeMismatch.Proofs.Name.Cut
import TypeMismatch.Proofs.Result

/-!
# A pair the other way round

Shortening a pair (`resolve_signatures`) treats its two sides alike: exchanged, they give the same
two texts exchanged, or the same fault (`resolve_swap`).  The texts are a matter of the ends that
differ, which do not depend on which side comes first.  The faults are a matter of order, since the
two sides are asked for their segments, or shortened, one after the other, and each side can lack a
last segment or have an arity that is too long.  So the fault depends on the order exactly where the
first two requests that both fail do so for different reasons (`Clash`); then each order has the
fault of its first side (`Clash.faults`).  Where only one of the two reasons can occur nothing
clashes (`Clash.elim`): where every node has a path, as where every arity can be written.

Nothing else is assumed of the signatures: arguments need not be as many as an arity says.
-/

namespace TypeMismatch

/-! ### Requests for names -/

/-- All that can go wrong with a request is a fault of one sort. -/
def FailsOnly {α : Type} (sort : PathFault → Prop) (x : Except PathFault α) : Prop :=
  ∀ e, x = .error e → sort e

/-- Two requests that fail for different reasons: one for want of a last segment, the other one
since an arity is too long. -/
def FailApart {α β : Type} (x : Except PathFault α) (y : Except PathFault β) : Prop :=
  x = .error .noLastSegment ∧ y = .error .arityTooLong ∨
    x = .error .arityTooLong ∧ y = .error .noLastSegment

section
variable {α β γ : Type} {sort : PathFault → Prop} {d e : PathFault} {x : Except PathFault α}
  {y : Except PathFault β}

/-- A result is no fault. -/
theorem FailsOnly.ok (a : α) : FailsOnly sort (.ok a) := fun _ h => by cases h

/-- Requests one after the other have faults of one sort only if each of them has no others. -/
theorem FailsOnly.bind (hx : FailsOnly sort x) {f : α → Except PathFault β}
    (hf : ∀ a, FailsOnly sort (f a)) : FailsOnly sort (x >>= f) := by
  cases x with
  | ok a => exact hf a
  | error d =>
    intro e h
    obtain rfl := Except.error.inj h
    exact hx d rfl

/-- Failing for different reasons is mutual. -/
theorem FailApart.symm (h : FailApart x y) : FailApart y x :=
  h.elim (fun h => .inr h.symm) (fun h => .inl h.symm)

/-- The requests that follow are not made. -/
theorem FailApart.bind (h : FailApart x y) {δ : Type} (f : α → Except PathFault γ)
    (g : β → Except PathFault δ) : FailApart (x >>= f) (y >>= g) := by
  rcases h with ⟨rfl, rfl⟩ | ⟨rfl, rfl⟩
  · exact .inl ⟨rfl, rfl⟩
  · exact .inr ⟨rfl, rfl⟩

/-- Requests with one and the same fault do not fail for different reasons. -/
theorem FailsOnly.not_failApart (hx : FailsOnly (· = e) x) (hy : FailsOnly (· = e) y) :
    ¬FailApart x y := by
  rintro (⟨rfl, rfl⟩ | ⟨rfl, rfl⟩) <;> cases (hx _ rfl).trans (hy _ rfl).symm

/-- Two faults for want of a name are the same, or the two reasons. -/
theorem eq_or_failApart (hd : d ≠ .nothingToCompare) (he : e ≠ .nothingToCompare) :
    d = e ∨ FailApart (.error d : Except PathFault α) (.error e : Except PathFault β) := by
  cases d with
  | nothingToCompare => exact absurd rfl hd
  | noLastSegment =>
    cases e with
    | noLastSegment => exact .inl rfl
    | arityTooLong => exact .inr (.inl ⟨rfl, rfl⟩)
    | nothingToCompare => exact absurd rfl he
  | arityTooLong =>
    cases e with
    | noLastSegment => exact .inr (.inr ⟨rfl, rfl⟩)
    | arityTooLong => exact .inl rfl
    | nothingToCompare => exact absurd rfl he

/-- **Requests that do not fail for different reasons may be made in any order**, if all that can go
wrong with them is that something has no name. -/
theorem bind_comm_of_not_failApart (hx : FailsOnly (· ≠ .nothingToCompare) x)
    (hy : FailsOnly (· ≠ .nothingToCompare) y) (h : ¬FailApart x y)
    (f : α → β → Except PathFault γ) :
    (do
      let a ← x
      let b ← y
      f a b) = (do
      let b ← y
      let a ← x
      f a b) := by
  cases x with
  | ok a => cases y <;> rfl
  | error d =>
    cases y with
    | ok b => rfl
    | error e =>
      obtain rfl := (eq_or_failApart (hx d rfl) (hy e rfl)).resolve_right h
      rfl

end

/-- The distinguishing ends of two paths do not depend on which one comes first. -/
theorem Suffix.distinguish?_swap (a b : List (List Char)) :
    distinguish? b a = (distinguish? a b).map Prod.swap := by
  rw [distinguish?, distinguish?, Bool.or_comm, kept_comm b]
  split <;> rfl

namespace Signature

/-! ### What a signature lacks -/

/-- A node is not displayed only if it has no name. -/
theorem displayName_named (s : Signature) : FailsOnly (· ≠ .nothingToCompare) s.displayName := by
  rw [displayName]
  cases s.name? with
  | none =>
    intro e h
    cases h
    decide
  | some name =>
    dsimp only
    split
    · intro e h
      cases h
      decide
    · exact .ok _

/-- The segments of a node are not asked for but for its name. -/
theorem failsOnly_segments {sort : PathFault → Prop} {s : Signature}
    (h : FailsOnly sort s.displayName) : FailsOnly sort s.segments :=
  h.bind fun _ => .ok _

/-- **A signature is not shortened only for the faults of its nodes.** -/
theorem failsOnly_shortened {sort : PathFault → Prop} {s : Signature}
    (h : s.Every fun t => FailsOnly sort t.displayName) : FailsOnly sort s.shortened := by
  induction h with
  | @node s hs _ ih =>
    have below : ∀ as : List Signature, (∀ a ∈ as, FailsOnly sort a.shortened) →
        FailsOnly sort (shortenedAll as) := by
      intro as
      induction as with
      | nil => exact fun _ => .ok []
      | cons a as ihs =>
        rw [List.forall_mem_cons]
        exact fun ⟨ha, has⟩ => ha.bind fun _ => (ihs has).bind fun _ => .ok _
    obtain ⟨path, arity, arguments, ranks, nested⟩ := s
    rw [shortened]
    exact (below arguments ih).bind fun _ => FailsOnly.bind hs fun _ => .ok _

mutual

/-- A pair in which the first two requests that both fail do so for different reasons: the segments
of two generic types are asked for, or a generic type and one that is not are reduced to their last
segments.  Arguments are resolved pair by pair, up to the first pair that fails. -/
inductive Clash : Signature → Signature → Prop
  | nodes {s t : Signature} : s.isGeneric = true → t.isGeneric = true →
      FailApart s.segments t.segments → Clash s t
  | mixed {s t : Signature} : s.isGeneric ≠ t.isGeneric → FailApart s.shortened t.shortened →
      Clash s t
  | arguments {s t : Signature} {p q : List (List Char)} : s.isGeneric = true →
      t.isGeneric = true → s.segments = .ok p → t.segments = .ok q →
      ClashAll s.arguments t.arguments → Clash s t

/-- Arguments of which the first pair that cannot be resolved clashes. -/
inductive ClashAll : List Signature → List Signature → Prop
  | here {a b : Signature} {as bs : List Signature} : Clash a b → ClashAll (a :: as) (b :: bs)
  | behind {a b : Signature} {as bs : List Signature} {p : List Char × List Char} :
      a.resolve b = .ok p → ClashAll as bs → ClashAll (a :: as) (b :: bs)

end

/-- The ends of two paths in the other order are the ends in the other order. -/
theorem ends_swap (a b : List (List Char)) : ends b a = (ends a b).map Prod.swap := by
  rw [ends, ends, Suffix.distinguish?_swap]
  cases Suffix.distinguish? a b <;> rfl

/-- The ends of the segments of two generic types are always found. -/
theorem ends_segments {s t : Signature} {p q : List (List Char)} (hp : s.segments = .ok p)
    (hq : t.segments = .ok q) : ∃ x, ends p q = .ok x := by
  have ne : ∀ {u : Signature} {r : List (List Char)}, u.segments = .ok r → r ≠ [] := by
    intro u r h
    obtain ⟨name, -, h⟩ := ok_of_bind h
    obtain rfl := Except.ok.inj h
    exact List.concat_ne_nil _ _
  exact ⟨_, ends_eq (ne hp) (ne hq)⟩

/-- Two generic types with segments are resolved if their arguments are. -/
theorem resolve_of_segments {s t : Signature} {p q : List (List Char)} (hs : s.isGeneric = true)
    (ht : t.isGeneric = true) (hp : s.segments = .ok p) (hq : t.segments = .ok q) :
    ∃ f, s.resolve t = resolveAll s.arguments t.arguments >>= f := by
  obtain ⟨x, hx⟩ := ends_segments hp hq
  rw [resolve_generic hs ht, hp, hq]
  change ∃ f, (ends p q >>= _) = _
  rw [hx]
  exact ⟨_, rfl⟩

/-- Of a pair that does not clash the sides can be exchanged if those of its arguments can. -/
theorem resolve_swap_of_arguments {s t : Signature} (h : ¬Clash s t)
    (arguments : ¬ClashAll s.arguments t.arguments → resolveAll t.arguments s.arguments =
      (resolveAll s.arguments t.arguments).map Prod.swap) :
    t.resolve s = (s.resolve t).map Prod.swap := by
  by_cases hg : s.isGeneric = t.isGeneric
  · cases hs : s.isGeneric with
    | true =>
      have ht : t.isGeneric = true := hg ▸ hs
      -- The two sides are asked for their segments in the other order.
      rw [resolve_generic ht hs, resolve_generic hs ht,
        bind_comm_of_not_failApart (failsOnly_segments t.displayName_named)
          (failsOnly_segments s.displayName_named) fun apart => h (.nodes hs ht apart.symm)]
      cases hp : s.segments with
      | error e => rfl
      | ok p =>
        cases hq : t.segments with
        | error e => rfl
        | ok q =>
          obtain ⟨x, hx⟩ := ends_segments hp hq
          change (ends q p >>= _) = Except.map _ (ends p q >>= _)
          rw [ends_swap, hx, arguments fun below => h (.arguments hs ht hp hq below)]
          cases resolveAll s.arguments t.arguments <;> rfl
    | false =>
      rw [resolve_plain (hg ▸ hs) hs, resolve_plain hs (hg ▸ hs), ends_swap]
      cases ends s.path t.path <;> rfl
  · rw [resolve_mixed hg, resolve_mixed (Ne.symm hg),
      bind_comm_of_not_failApart (failsOnly_shortened (.of_forall displayName_named t))
        (failsOnly_shortened (.of_forall displayName_named s)) fun apart =>
          h (.mixed hg apart.symm)]
    cases s.shortened with
    | error e => rfl
    | ok x => cases t.shortened <;> rfl

mutual

/-- **A pair the other way round is shortened to the same texts the other way round**, or cannot be
shortened for the same reason, unless it clashes. -/
theorem resolve_swap : ∀ s t : Signature, ¬Clash s t → t.resolve s = (s.resolve t).map Prod.swap
  | ⟨_, _, as, _, _⟩, t => fun h =>
    resolve_swap_of_arguments h fun below => resolveAll_swap as t.arguments below

/-- So it is with arguments of which no pair clashes before all are resolved. -/
theorem resolveAll_swap : ∀ as bs : List Signature, ¬ClashAll as bs →
    resolveAll bs as = (resolveAll as bs).map Prod.swap
  | [], [] => fun _ => rfl
  | [], b :: bs => fun _ => by
    rw [resolveAll, resolveAll]
    · cases shortenedAll (b :: bs) <;> rfl
    · exact List.cons_ne_nil b bs
  | a :: as, [] => fun _ => by
    rw [resolveAll, resolveAll]
    · cases shortenedAll (a :: as) <;> rfl
    · exact List.cons_ne_nil a as
  | a :: as, b :: bs => fun h => by
    rw [resolveAll, resolveAll, resolve_swap a b fun clash => h (.here clash)]
    cases hp : a.resolve b with
    | error e => rfl
    | ok p =>
      rw [resolveAll_swap as bs fun clash => h (.behind hp clash)]
      cases resolveAll as bs <;> rfl

end

mutual

/-- A pair that clashes is not resolved. -/
theorem Clash.not_ok {s t : Signature} : Clash s t → ∀ x, s.resolve t ≠ .ok x
  | .nodes hs ht apart => fun x h => by
    rw [resolve_generic hs ht] at h
    rcases apart with ⟨hp, -⟩ | ⟨hp, -⟩ <;> rw [hp] at h <;> cases h
  | .mixed hg apart => fun x h => by
    rw [resolve_mixed hg] at h
    rcases apart with ⟨hp, -⟩ | ⟨hp, -⟩ <;> rw [hp] at h <;> cases h
  | .arguments hs ht hp hq below => fun x h => by
    obtain ⟨f, hf⟩ := resolve_of_segments hs ht hp hq
    obtain ⟨y, hy, -⟩ := ok_of_bind (hf ▸ h)
    exact below.not_ok y hy

/-- Nor are arguments. -/
theorem ClashAll.not_ok {as bs : List Signature} :
    ClashAll as bs → ∀ x, resolveAll as bs ≠ .ok x
  | .here clash => fun x h => by
    rw [resolveAll] at h
    obtain ⟨p, hp, -⟩ := ok_of_bind h
    exact clash.not_ok p hp
  | .behind hp below => fun x h => by
    rw [resolveAll, hp] at h
    change (resolveAll _ _ >>= _) = _ at h
    obtain ⟨y, hy, -⟩ := ok_of_bind h
    exact below.not_ok y hy

end

/-- A pair that is resolved is resolved in either order. -/
theorem resolve_swap_of_ok {s t : Signature} {x : List Char × List Char} (h : s.resolve t = .ok x) :
    t.resolve s = .ok x.swap := by
  rw [resolve_swap s t fun clash => clash.not_ok x h, h]
  rfl

mutual

/-- **A pair that clashes has two faults**, that of its first side in either order. -/
theorem Clash.faults {s t : Signature} : Clash s t → FailApart (s.resolve t) (t.resolve s)
  | .nodes hs ht apart => by
    rw [resolve_generic hs ht, resolve_generic ht hs]
    exact apart.bind _ _
  | .mixed hg apart => by
    rw [resolve_mixed hg, resolve_mixed (Ne.symm hg)]
    exact apart.bind _ _
  | .arguments hs ht hp hq below => by
    obtain ⟨f, hf⟩ := resolve_of_segments hs ht hp hq
    obtain ⟨g, hg⟩ := resolve_of_segments ht hs hq hp
    rw [hf, hg]
    exact below.faults.bind f g

/-- So have arguments. -/
theorem ClashAll.faults {as bs : List Signature} :
    ClashAll as bs → FailApart (resolveAll as bs) (resolveAll bs as)
  | .here clash => by
    rw [resolveAll, resolveAll]
    exact clash.faults.bind _ _
  | .behind hp below => by
    rw [resolveAll, resolveAll, hp, resolve_swap_of_ok hp]
    exact below.faults.bind _ _

end

mutual

/-- **Where only one reason can occur nothing clashes.** -/
theorem Clash.elim {e : PathFault} {s t : Signature}
    (hs : s.Every fun u => FailsOnly (· = e) u.displayName)
    (ht : t.Every fun u => FailsOnly (· = e) u.displayName) : ¬Clash s t
  | .nodes _ _ apart =>
    (failsOnly_segments hs.here).not_failApart (failsOnly_segments ht.here) apart
  | .mixed _ apart => (failsOnly_shortened hs).not_failApart (failsOnly_shortened ht) apart
  | .arguments _ _ _ _ below => below.elim hs.arguments ht.arguments

/-- So it is with arguments. -/
theorem ClashAll.elim {e : PathFault} {as bs : List Signature}
    (ha : ∀ a ∈ as, a.Every fun u => FailsOnly (· = e) u.displayName)
    (hb : ∀ b ∈ bs, b.Every fun u => FailsOnly (· = e) u.displayName) : ¬ClashAll as bs
  | .here clash => clash.elim (ha _ List.mem_cons_self) (hb _ List.mem_cons_self)
  | .behind _ below => below.elim (fun a h => ha a (List.mem_cons_of_mem _ h))
      fun b h => hb b (List.mem_cons_of_mem _ h)

end

end Signature
end TypeMismatch
