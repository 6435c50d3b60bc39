import TypeMismatch.Command.Run
import TypeMismatch.Proofs.Name.Aligned
import TypeMismatch.Proofs.Name.Render
import TypeMismatch.Proofs.Name.Tidy
import TypeMismatch.Proofs.Resolution

/-!
# Outlines

An outline (`_outline`) has one line for each node, in the order in which the addresses of the nodes
are sorted, and the indentation of a line tells the length of the address (`places_linesAt`).  Of a
formed node the line tells everything but the arguments (`line_inj`), and the arity says how many of
them follow.  So the lines, and whatever lines stand behind them, determine the tree
(`linesAt_append_inj`), by induction on the tree; the indentation is not needed for that.  In a
printed outline the lines can be found if no segment has a blank (`printed_outline`).
-/

namespace TypeMismatch

/-- A chain of nested types has no blanks. -/
theorem Name.IsChain.not_isBlank {chain : List Char} (h : IsChain chain) :
    ∀ c ∈ chain, Text.isBlank c = false := by
  induction h with
  | nil => exact nofun
  | cons _ hn _ ih =>
    rw [List.forall_mem_cons, List.forall_mem_append]
    exact ⟨by decide, fun c hc => (hn c hc).2.2, ih⟩

namespace Signature

/-! ### Addresses in order -/

mutual

/-- The addresses of all nodes, every node before those below it. -/
def addresses : Signature → List (List Nat)
  | ⟨_, _, arguments, _, _⟩ => [] :: addressesFrom 0 arguments

/-- The addresses of the nodes of arguments, of which the first is at place `i`. -/
def addressesFrom (i : Nat) : List Signature → List (List Nat)
  | [] => []
  | a :: as => (addresses a).map (i :: ·) ++ addressesFrom (i + 1) as

end

/-- The address of the root comes before those of the arguments. -/
theorem addresses_eq (s : Signature) : s.addresses = [] :: addressesFrom 0 s.arguments := by
  cases s
  rw [addresses]

/-- The addresses of arguments are those of each of them behind its place. -/
theorem mem_addressesFrom_iff {as : List Signature} {i : Nat} {w : List Nat} :
    w ∈ addressesFrom i as ↔
      ∃ j a v, as[j]? = some a ∧ v ∈ addresses a ∧ w = (i + j) :: v := by
  induction as generalizing i with
  | nil => simp [addressesFrom]
  | cons a as ih =>
    rw [addressesFrom, List.mem_append, List.mem_map, ih]
    constructor
    · rintro (⟨v, hv, rfl⟩ | ⟨j, b, v, hb, hv, rfl⟩)
      · exact ⟨0, a, v, rfl, hv, rfl⟩
      · exact ⟨j + 1, b, v, hb, hv, by rw [Nat.add_right_comm, Nat.add_assoc]⟩
    · rintro ⟨_ | j, b, v, hb, hv, rfl⟩
      · obtain rfl := Option.some.inj hb
        exact .inl ⟨v, hv, rfl⟩
      · exact .inr ⟨j, b, v, hb, hv, by rw [Nat.add_right_comm, Nat.add_assoc]⟩

/-- **Every node has an address, and every address leads to a node.** -/
theorem mem_addresses_iff {P : Signature → Prop} {s : Signature} (h : s.Every P) {w : List Nat} :
    w ∈ s.addresses ↔ (s.node? w).isSome := by
  induction h generalizing w with
  | @node s _ _ ih =>
    rw [addresses_eq]
    cases w with
    | nil => exact iff_of_true List.mem_cons_self rfl
    | cons i v =>
      rw [List.mem_cons, mem_addressesFrom_iff, node?, Option.isSome_bind, Option.any_eq_true]
      constructor
      · rintro (hn | ⟨j, a, u, ha, hu, hw⟩)
        · cases hn
        · rw [Nat.zero_add] at hw
          obtain ⟨rfl, rfl⟩ := List.cons.inj hw
          exact ⟨a, ha, (ih a (List.mem_of_getElem? ha)).1 hu⟩
      · rintro ⟨a, ha, hv⟩
        exact .inr ⟨i, a, v, ha, (ih a (List.mem_of_getElem? ha)).2 hv, by rw [Nat.zero_add]⟩

/-- The addresses of arguments are sorted if those of each of them are. -/
theorem sorted_addressesFrom {as : List Signature}
    (h : ∀ a ∈ as, a.addresses.Pairwise (· < ·)) (i : Nat) :
    (addressesFrom i as).Pairwise (· < ·) := by
  induction as generalizing i with
  | nil => exact .nil
  | cons a as ih =>
    obtain ⟨first, rest⟩ := List.forall_mem_cons.1 h
    rw [addressesFrom, List.pairwise_append]
    refine ⟨?_, ih rest (i + 1), ?_⟩
    · exact first.map _ fun v w hvw => List.cons_lt_cons_self.2 hvw
    · intro v hv w hw
      obtain ⟨v, -, rfl⟩ := List.mem_map.1 hv
      obtain ⟨j, b, w, -, -, rfl⟩ := mem_addressesFrom_iff.1 hw
      exact List.Lex.rel (by omega)

/-- **Addresses are sorted**: a node comes before those below it, and these come argument by
argument. -/
theorem sorted_addresses {P : Signature → Prop} {s : Signature} (h : s.Every P) :
    s.addresses.Pairwise (· < ·) := by
  induction h with
  | @node s _ _ ih =>
    rw [addresses_eq, List.pairwise_cons]
    refine ⟨fun w hw => ?_, sorted_addressesFrom ih 0⟩
    obtain ⟨j, a, v, -, -, rfl⟩ := mem_addressesFrom_iff.1 hw
    exact List.Lex.nil

/-! ### Lines -/

/-- The line of a node, without its indentation. -/
def line (s : Signature) : List Char := s.head ++ s.ranks

/-- The line of a node at a level. -/
def indented (level : Nat) (s : Signature) : List Char := List.replicate (2 * level) ' ' ++ s.line

mutual

/-- The lines of a node and of its arguments, if every node has a name. -/
def linesAt (level : Nat) : Signature → List (List Char)
  | ⟨path, arity, arguments, ranks, nested⟩ =>
    indented level ⟨path, arity, [], ranks, nested⟩ :: linesAll (level + 1) arguments

/-- The lines of arguments. -/
def linesAll (level : Nat) : List Signature → List (List Char)
  | [] => []
  | a :: as => linesAt level a ++ linesAll level as

end

/-- The line of a node comes before those of its arguments. -/
theorem linesAt_eq (level : Nat) (s : Signature) :
    linesAt level s = indented level s :: linesAll (level + 1) s.arguments := by
  cases s
  rw [linesAt]
  rfl

/-- The line of a node that can be written is its name with its ranks, indented. -/
theorem outlineLine_eq {s : Signature} (h : s.Writable) (level : Nat) :
    outlineLine level s = .ok (indented level s) := by
  obtain ⟨path, segment, hp, -⟩ := exists_eq_concat h.path.ne_nil
  rw [outlineLine, segments_eq hp h.hasLongArity, indented, line, head, hp, ← dotted_concat]
  rfl

/-- **A signature that can be written has an outline.** -/
theorem outlineAt_eq {s : Signature} (h : s.Every Writable) (level : Nat) :
    outlineAt level s = .ok (linesAt level s) := by
  induction h generalizing level with
  | @node s hs _ ih =>
    have below : ∀ as : List Signature, (∀ a ∈ as, a ∈ s.arguments) →
        outlineAll (level + 1) as = .ok (linesAll (level + 1) as) := by
      intro as
      induction as with
      | nil => exact fun _ => rfl
      | cons a as ihs =>
        intro ha
        rw [List.forall_mem_cons] at ha
        rw [outlineAll, ih a ha.1, ihs ha.2]
        rfl
    obtain ⟨path, arity, arguments, ranks, nested⟩ := s
    have here : outlineLine level ⟨path, arity, [], ranks, nested⟩ = .ok _ :=
      outlineLine_eq hs level
    rw [outlineAt, here, below arguments fun _ ha => ha]
    rfl

/-- **There is one line for each node**, in the order of the addresses, and it is indented twice for
each level. -/
theorem places_linesAt {P : Signature → Prop} {s : Signature} (h : s.Every P) (level : Nat) :
    (linesAt level s).map some =
      s.addresses.map fun w => (s.node? w).map (indented (level + w.length)) := by
  induction h generalizing level with
  | @node s _ _ ih =>
    -- The arguments from a place on have the lines of the addresses that begin there.
    have below : ∀ (as : List Signature) (i : Nat), s.arguments.drop i = as →
        (linesAll (level + 1) as).map some = (addressesFrom i as).map fun w =>
          (s.node? w).map (indented (level + w.length)) := by
      intro as
      induction as with
      | nil => exact fun _ _ => by rw [linesAll, addressesFrom]; rfl
      | cons a as ihs =>
        intro i hd
        have here : s.arguments[i]? = some a := by
          rw [← List.head?_drop, hd]
          rfl
        have rest : s.arguments.drop (i + 1) = as := by
          rw [← List.drop_drop, hd]
          rfl
        rw [linesAll, addressesFrom, List.map_append, List.map_append, List.map_map,
          ihs (i + 1) rest, ih a (List.mem_of_getElem? here)]
        refine congrArg (· ++ _) (List.map_congr_left fun w _ => ?_)
        rw [Function.comp_apply, node?, here, List.length_cons, Nat.add_right_comm, Nat.add_assoc]
        rfl
    rw [linesAt_eq, addresses_eq, List.map_cons, List.map_cons, below _ 0 List.drop_zero]
    rfl

/-- A node without arguments has its path and ranks on its line. -/
theorem line_plain (path : List (List Char)) (ranks : List Char) :
    (plain path ranks).line = dotted path ++ ranks := by
  simp [line, head, marker, plain, isGeneric]

/-- A node with arguments has its path, arity, nested types and ranks on its line. -/
theorem line_generic (path : List (List Char)) (a : Signature) (as : List Signature)
    (ranks nested : List Char) :
    line ⟨path, (as.length + 1 : Nat), a :: as, ranks, nested⟩ =
      dotted path ++ arityMark :: (Text.numeral (as.length + 1) ++ (nested ++ ranks)) := by
  have hg : (0 : Int) < (as.length + 1 : Nat) := by omega
  rw [line, head, marker, isGeneric, if_pos (decide_eq_true hg)]
  simp [Text.intNumeral]

/-- **A formed node can be told from its line**, but for its arguments. -/
theorem line_inj {s t : Signature} (hs : s.Formed) (ht : t.Formed) (h : s.line = t.line) :
    s.path = t.path ∧ s.arity = t.arity ∧ s.ranks = t.ranks ∧ s.nested = t.nested := by
  have mark : ∀ {w : List Char}, ∀ c ∈ (arityMark :: w).head?, Name.IsMark c ∧ c ≠ '.' := by
    intro w c hc
    obtain rfl := Option.some.inj hc
    decide
  have stop : ∀ {ranks : List Char}, Name.IsRanks ranks →
      ∀ c ∈ ranks.head?, (Name.IsMark c ∧ c ≠ '.') ∧ c ≠ arityMark := by
    intro ranks hr
    have behind := stop_of_ranks hr Name.closes_nil
    rwa [List.append_nil] at behind
  -- With a bracket behind them, ranks begin with one even if there are none.
  have bracket : ∀ {ranks : List Char}, Name.IsRanks ranks → ∃ u, ranks ++ ['['] = '[' :: u := by
    intro ranks hr
    rcases hr.eq_nil_or with rfl | ⟨rest, rfl⟩
    · exact ⟨[], rfl⟩
    · exact ⟨rest ++ ['['], rfl⟩
  obtain ⟨path, ranks, rfl, hp, hr⟩ | ⟨path, c, as, ranks, nested, rfl, hp, hr, hc⟩ :=
    hs.eq_plain_or_generic <;>
  obtain ⟨other, ranks', rfl, ho, hr'⟩ | ⟨other, d, bs, ranks', nested', rfl, ho, hr', hd⟩ :=
    ht.eq_plain_or_generic
  · rw [line_plain, line_plain] at h
    obtain ⟨rfl, rfl⟩ := hp.append_inj ho (fun c hc => (stop hr c hc).1)
      (fun c hc => (stop hr' c hc).1) h
    exact ⟨rfl, rfl, rfl, rfl⟩
  · rw [line_plain, line_generic] at h
    obtain ⟨-, rfl⟩ := hp.append_inj ho (fun c hc => (stop hr c hc).1) mark h
    exact absurd rfl (stop hr arityMark rfl).2
  · rw [line_generic, line_plain] at h
    obtain ⟨-, rfl⟩ := hp.append_inj ho mark (fun c hc => (stop hr' c hc).1) h
    exact absurd rfl (stop hr' arityMark rfl).2
  · rw [line_generic, line_generic] at h
    obtain ⟨rfl, tail⟩ := hp.append_inj ho mark mark h
    obtain ⟨u, hu⟩ := bracket hr
    obtain ⟨v, hv⟩ := bracket hr'
    have behind := congrArg (· ++ ['[']) (List.cons.inj tail).2
    simp only [List.append_assoc, hu, hv] at behind
    obtain ⟨hn, rfl, rfl⟩ := Name.numeral_chain_inj hc hd behind
    exact ⟨rfl, congrArg Nat.cast hn, List.append_cancel_right (hu.trans hv.symm), rfl⟩

/-! ### The tree of an outline -/

/-- **Lines determine the tree and the lines behind it.**  The arity of a node says how many
arguments follow. -/
theorem linesAt_append_inj {a b : Signature} {level : Nat} {rest rest' : List (List Char)}
    (ha : a.Every Formed) (hb : b.Every Formed)
    (h : linesAt level a ++ rest = linesAt level b ++ rest') : a = b ∧ rest = rest' := by
  induction ha generalizing b level rest rest' with
  | @node s hs _ ih =>
    -- As many arguments are determined one after the other.
    have below : ∀ (as bs : List Signature) (u v : List (List Char)), as.length = bs.length →
        (∀ x ∈ as, x ∈ s.arguments) → (∀ y ∈ bs, y.Every Formed) →
        linesAll (level + 1) as ++ u = linesAll (level + 1) bs ++ v → as = bs ∧ u = v := by
      intro as
      induction as with
      | nil =>
        intro bs u v hl _ _ h
        obtain rfl := List.length_eq_zero_iff.1 hl.symm
        exact ⟨rfl, h⟩
      | cons x as ihs =>
        rintro (_ | ⟨y, bs⟩) u v hl hx hy h
        · cases hl
        · rw [List.forall_mem_cons] at hx hy
          rw [linesAll, linesAll, List.append_assoc, List.append_assoc] at h
          obtain ⟨rfl, behind⟩ := ih x hx.1 hy.1 h
          obtain ⟨rfl, rest⟩ := ihs bs u v (Nat.succ.inj hl) hx.2 hy.2 behind
          exact ⟨rfl, rest⟩
    rw [linesAt_eq, linesAt_eq, List.cons_append, List.cons_append] at h
    obtain ⟨first, behind⟩ := List.cons.inj h
    obtain ⟨path, arity, ranks, nested⟩ := line_inj hs hb.here (List.append_cancel_left first)
    have length : s.arguments.length = b.arguments.length := by
      have := hs.arity
      have := hb.here.arity
      omega
    obtain ⟨arguments, rest⟩ := below _ _ _ _ length (fun _ hx => hx) hb.arguments behind
    refine ⟨?_, rest⟩
    cases s
    cases b
    congr

/-! ### Printed outlines -/

/-- No segment of a node has a blank. -/
def Unspaced (s : Signature) : Prop := ∀ segment ∈ s.path, ∀ c ∈ segment, Text.isBlank c = false

instance : DecidablePred Unspaced := fun s =>
  decidable_of_iff ((s.path.all fun segment => segment.all fun c => !Text.isBlank c) = true) <| by
    simp only [List.all_eq_true, Bool.not_eq_true']
    rfl

/-- The line of a formed node has no blank either. -/
theorem line_not_isBlank {s : Signature} (hs : s.Formed) (h : s.Unspaced) :
    ∀ c ∈ s.line, Text.isBlank c = false := by
  have inside : ∀ c ∈ dotted s.path, Text.isBlank c = false := by
    intro c hc
    rcases Text.mem_intercalate hc with rfl | ⟨segment, hm, hc⟩
    · decide
    · exact h segment hm c hc
  obtain ⟨path, ranks, rfl, -, hr⟩ | ⟨path, a, as, ranks, nested, rfl, -, hr, hc⟩ :=
    hs.eq_plain_or_generic
  · rw [line_plain, List.forall_mem_append]
    exact ⟨inside, hr.not_isBlank⟩
  · have digits := (Name.isNumeral_numeral (as.length + 1)).not_isBlank
    rw [line_generic, List.forall_mem_append, List.forall_mem_cons, List.forall_mem_append,
      List.forall_mem_append]
    exact ⟨inside, by decide, digits, hc.not_isBlank, hr.not_isBlank⟩

/-- Nor has an outline a line break within a line. -/
theorem newline_notMem_linesAt {s : Signature} (h : s.Every fun t => t.Formed ∧ t.Unspaced)
    (level : Nat) : ∀ l ∈ linesAt level s, '\n' ∉ l := by
  induction h generalizing level with
  | @node s hs _ ih =>
    have below : ∀ as : List Signature, (∀ a ∈ as, a ∈ s.arguments) →
        ∀ l ∈ linesAll (level + 1) as, '\n' ∉ l := by
      intro as
      induction as with
      | nil => exact fun _ l hl => absurd hl List.not_mem_nil
      | cons a as ihs =>
        intro ha
        rw [List.forall_mem_cons] at ha
        rw [linesAll, List.forall_mem_append]
        exact ⟨ih a ha.1 _, ihs ha.2⟩
    rw [linesAt_eq, List.forall_mem_cons]
    refine ⟨fun hm => ?_, below _ fun _ ha => ha⟩
    rcases List.mem_append.1 hm with hm | hm
    · exact absurd (List.eq_of_mem_replicate hm) (by decide)
    · exact absurd (line_not_isBlank hs.1 hs.2 _ hm) (by decide)

/-- The lines of a printed outline are found again. -/
theorem split_textOfLines {s : Signature} (h : s.Every fun t => t.Formed ∧ t.Unspaced) :
    Text.split '\n' (Command.textOfLines (linesAt 0 s)).toList = linesAt 0 s := by
  rw [Command.textOfLines, String.toList_ofList]
  refine Text.split_intercalate ?_ (newline_notMem_linesAt h 0)
  rw [linesAt_eq]
  exact List.cons_ne_nil _ _

end Signature

namespace Command
open Signature

/-- What is printed for a name that was read. -/
theorem perform_parse {settings : Settings} {x : String} {s : Signature}
    (h : Name.read settings.limit x.toList = .ok s) :
    (perform settings (.parse (some x) false)).result =
      .ok (Text.points (textOfLines (linesAt 0 s))) := by
  have read : (readName settings.limit (operandValue (some x))).result = .ok s := readName_ok h
  rw [perform, Traced.result_bind_ok read, printedSignature, outline,
    outlineAt_eq (Name.writable_of_read h)]
  rfl

/-- **A printed outline determines the type.**  If no segment of two names has a blank, and the same
outline is printed for them, then they are read as the same signature.  What is printed has one line
for each node: the addresses of the nodes, each once, come in their order, which puts a node before
those below it and an argument before the next one, and each line is the name of its node with the
ranks behind it, indented twice for each level. -/
theorem printed_outline {settings other : Settings} {x y : String} {a b : Signature}
    (hx : Name.read settings.limit x.toList = .ok a) (hy : Name.read other.limit y.toList = .ok b)
    (ha : a.Every Unspaced) (hb : b.Every Unspaced) :
    ((perform settings (.parse (some x) false)).result =
      (perform other (.parse (some y) false)).result → a = b) ∧
    ∃ (text : String) (places : List (List Nat)),
      (perform settings (.parse (some x) false)).result = .ok (Text.points text) ∧
      places.Pairwise (· < ·) ∧ (∀ w, w ∈ places ↔ (a.node? w).isSome) ∧
      (Text.split '\n' text.toList).map some = places.map fun w =>
        (a.node? w).map fun t => List.replicate (2 * w.length) ' ' ++ (t.head ++ t.ranks) := by
  have fa := Name.formed_of_read hx
  have fb := Name.formed_of_read hy
  have lines := split_textOfLines (fa.and ha)
  rw [perform_parse hx, perform_parse hy]
  refine ⟨fun h => ?_, _, a.addresses, rfl, sorted_addresses fa, fun w => mem_addresses_iff fa, ?_⟩
  · have same : linesAt 0 a = linesAt 0 b := by
      rw [← lines, ← split_textOfLines (fb.and hb), Text.points_inj (Except.ok.inj h)]
    exact (linesAt_append_inj fa fb (congrArg (· ++ []) same)).1
  · rw [lines, places_linesAt fa]
    refine List.map_congr_left fun w _ => ?_
    rw [Nat.zero_add]
    rfl

/-- A generic type nested in another one, with ranks of its own and of its first argument. -/
def rankedPair (outer inner : List Char) : Signature :=
  ⟨["N".toList, "L".toList], 2, [⟨["K".toList], 1, [.plain ["B".toList] []], inner, []⟩,
    .plain ["A".toList] "[,]".toList], outer, "+E".toList⟩

/-- No segment of it has a blank. -/
theorem rankedPair_unspaced (outer inner : List Char) :
    (rankedPair outer inner).Every Unspaced := by
  have plain : ∀ path ranks, (Signature.plain path ranks).Unspaced →
      (Signature.plain path ranks).Every Unspaced := fun _ _ h =>
    .node h fun _ ha => absurd ha List.not_mem_nil
  have long : (Signature.plain ["N".toList, "L".toList] []).Unspaced := by decide
  have short : (Signature.plain ["K".toList] []).Unspaced := by decide
  refine .node long (List.forall_mem_cons.2 ⟨.node short ?_, ?_⟩)
  · exact List.forall_mem_singleton.2 (plain _ _ (by decide))
  · exact List.forall_mem_singleton.2 (plain _ _ (by decide))

/-- The hypotheses are satisfiable, and by names of which the first line of one reads like a name
with an empty bracket; the ranks stand at different nodes, so what is printed differs. -/
theorem printed_outline_ranks :
    Name.read .standard "N.L`2+E[K`1[B],A[,]][]".toList = .ok (rankedPair "[]".toList []) ∧
      Name.read .standard "N.L`2+E[K`1[B][],A[,]]".toList = .ok (rankedPair [] "[]".toList) ∧
      (∀ outer inner, (rankedPair outer inner).Every Unspaced) ∧
      (perform .standard (.parse (some "N.L`2+E[K`1[B],A[,]][]") false)).result =
        .ok (Text.points "N.L`2+E[]\n  K`1\n    B\n  A[,]") ∧
      (perform .standard (.parse (some "N.L`2+E[K`1[B],A[,]][]") false)).result ≠
        (perform .standard (.parse (some "N.L`2+E[K`1[B][],A[,]]") false)).result := by
  have hx : Name.read Settings.standard.limit "N.L`2+E[K`1[B],A[,]][]".toList =
      .ok (rankedPair "[]".toList []) := by decide +kernel
  have hy : Name.read Settings.standard.limit "N.L`2+E[K`1[B][],A[,]]".toList =
      .ok (rankedPair [] "[]".toList) := by decide +kernel
  refine ⟨hx, hy, rankedPair_unspaced, by decide +kernel, fun same => ?_⟩
  have equal := (printed_outline hx hy (rankedPair_unspaced _ _) (rankedPair_unspaced _ _)).1 same
  exact absurd equal (by decide +kernel)

end Command
end TypeMismatch
