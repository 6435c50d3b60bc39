import TypeMismatch.Proofs.Name.Grammar

/-!
# Signatures node by node

A property of nodes holds everywhere in a signature (`Every`) if it holds at the node itself and
everywhere in its arguments; the theory of signatures is by induction on that.  What the grammar
gives is formed everywhere (`Derives.formed`): every node has a path, as many arguments as its arity
says, ranks, and nested types only if it is generic.  If every arity can be written as well, the
signature has a full name (`render_signature`; `text_eq`), and it is the text that is put together
of all paths, markers and ranks (`render`).
-/

namespace TypeMismatch
namespace Signature

/-- A property that holds at every node of a signature. -/
inductive Every (P : Signature → Prop) : Signature → Prop
  | node {s : Signature} : P s → (∀ a ∈ s.arguments, Every P a) → Every P s

/-- What holds everywhere holds at the node itself. -/
theorem Every.here {P : Signature → Prop} {s : Signature} : s.Every P → P s
  | .node h _ => h

/-- It holds everywhere in the arguments. -/
theorem Every.arguments {P : Signature → Prop} {s : Signature} :
    s.Every P → ∀ a ∈ s.arguments, a.Every P
  | .node _ h => h

/-- What follows from it holds everywhere too. -/
theorem Every.imp {P Q : Signature → Prop} (hPQ : ∀ s, P s → Q s) {s : Signature} (h : s.Every P) :
    s.Every Q := by
  induction h with
  | node hs _ ih => exact .node (hPQ _ hs) ih

/-- Two properties that hold everywhere hold together everywhere. -/
theorem Every.and {P Q : Signature → Prop} {s : Signature} (hP : s.Every P) (hQ : s.Every Q) :
    s.Every fun t => P t ∧ Q t := by
  induction hP with
  | node hs _ ih => exact .node ⟨hs, hQ.here⟩ fun a ha => ih a ha (hQ.arguments a ha)

mutual

/-- What holds of all nodes holds everywhere. -/
theorem Every.of_forall {P : Signature → Prop} (h : ∀ s, P s) : ∀ s : Signature, s.Every P
  | ⟨_, _, arguments, _, _⟩ => .node (h _) (Every.of_forall_arguments h arguments)

/-- So it does in arguments. -/
theorem Every.of_forall_arguments {P : Signature → Prop} (h : ∀ s, P s) :
    ∀ as : List Signature, ∀ a ∈ as, a.Every P
  | [] => fun _ ha => absurd ha List.not_mem_nil
  | a :: as => List.forall_mem_cons.2 ⟨.of_forall h a, Every.of_forall_arguments h as⟩

end

/-- A node as it is written: a path, so many arguments as the arity says, nested types only behind
an arity, and ranks. -/
structure Formed (s : Signature) : Prop where
  path : Name.IsPath s.path
  arity : s.arity = s.arguments.length
  ranks : Name.IsRanks s.ranks
  nested : Name.IsChain s.nested
  nested_eq_nil : s.arity = 0 → s.nested = []

/-- The first segment of a node does not begin with a blank. -/
def Flush (s : Signature) : Prop :=
  ∀ segment ∈ s.path.head?, ∀ c ∈ segment.head?, Text.isBlank c = false

/-- A formed node is a path with ranks, or it has arguments, so many as its arity says. -/
theorem Formed.eq_plain_or_generic {s : Signature} (h : s.Formed) :
    (∃ path ranks, s = plain path ranks ∧ Name.IsPath path ∧ Name.IsRanks ranks) ∨
      ∃ path a as ranks nested, s = ⟨path, (as.length + 1 : Nat), a :: as, ranks, nested⟩ ∧
        Name.IsPath path ∧ Name.IsRanks ranks ∧ Name.IsChain nested := by
  obtain ⟨path, arity, arguments, ranks, nested⟩ := s
  cases arguments with
  | nil =>
    obtain rfl : arity = 0 := h.arity
    obtain rfl : nested = [] := h.nested_eq_nil rfl
    exact .inl ⟨path, ranks, rfl, h.path, h.ranks⟩
  | cons a as =>
    obtain rfl : arity = ((as.length + 1 : Nat) : Int) := h.arity
    exact .inr ⟨path, a, as, ranks, nested, rfl, h.path, h.ranks, h.nested⟩

/-- A path with ranks is formed. -/
theorem formed_plain {path : List (List Char)} {ranks : List Char} (hp : Name.IsPath path)
    (hr : Name.IsRanks ranks) : (plain path ranks).Every Formed :=
  .node ⟨hp, rfl, hr, .nil, fun _ => rfl⟩ fun _ ha => absurd ha List.not_mem_nil

/-! ### Full names of trees with names -/

/-- The path in writing, with the arity and the nested types. -/
def head (s : Signature) : List Char := dotted s.path ++ s.marker

mutual

/-- The full name of a signature of which every node has one. -/
def render : Signature → List Char
  | ⟨path, arity, arguments, ranks, nested⟩ =>
    apply (head ⟨path, arity, [], [], nested⟩) (renderAll arguments) ++ ranks

/-- The full names of arguments. -/
def renderAll : List Signature → List (List Char)
  | [] => []
  | a :: as => render a :: renderAll as

end

/-- Full names of arguments are put together one by one. -/
theorem renderAll_eq_map (as : List Signature) : renderAll as = as.map render := by
  induction as with
  | nil => rfl
  | cons a as ih => rw [renderAll, ih, List.map_cons]

/-- A node without arguments is its path and ranks in writing. -/
theorem render_plain (path : List (List Char)) (ranks : List Char) :
    (plain path ranks).render = dotted path ++ ranks := by
  rw [plain, render, renderAll, apply]
  simp [head, marker, isGeneric]

/-- A node with arguments is its path, the arity mark with their number, the nested types, the
arguments in brackets, and its ranks. -/
theorem render_generic (path : List (List Char)) (a : Signature) (as : List Signature)
    (ranks nested : List Char) :
    render ⟨path, (as.length + 1 : Nat), a :: as, ranks, nested⟩ =
      dotted path ++ arityMark :: (Text.numeral (as.length + 1) ++ (nested ++
        '[' :: ([','].intercalate ((a :: as).map render) ++ ']' :: ranks))) := by
  have hg : (0 : Int) < (as.length + 1 : Nat) := by omega
  rw [render, renderAll_eq_map, apply, if_neg (by simp), head, marker, isGeneric,
    if_pos (decide_eq_true hg)]
  simp [Text.intNumeral]

/-! ### Signatures that can be written -/

/-- A formed node of which the arity can be written. -/
structure Writable (s : Signature) : Prop extends Formed s where
  digits : (Text.intNumeral s.arity).length ≤ Text.maxDigits

/-- An arity that can be written is not too long. -/
theorem Writable.hasLongArity {s : Signature} (h : s.Writable) : s.hasLongArity = false := by
  rw [Signature.hasLongArity, decide_eq_false (Nat.not_lt.2 h.digits), Bool.and_false]

/-- What can be written everywhere is formed everywhere. -/
theorem formed_of_writable {s : Signature} (h : s.Every Writable) : s.Every Formed :=
  h.imp fun _ hs => hs.toFormed

/-- A marker behind the last segment stands behind the whole path. -/
theorem dotted_concat (path : List (List Char)) (segment marker : List Char) :
    dotted (path ++ [segment ++ marker]) = dotted (path ++ [segment]) ++ marker := by
  induction path with
  | nil => simp [dotted]
  | cons first path ih =>
    have hne : ∀ last : List Char, path ++ [last] ≠ [] := fun last => by simp
    unfold dotted at ih ⊢
    rw [List.cons_append, List.cons_append, List.intercalate_cons_of_ne_nil (hne _), ih,
      List.intercalate_cons_of_ne_nil (hne _)]
    simp only [List.append_assoc]

/-- A node with a path and an arity that can be written is displayed. -/
theorem displayName_eq {s : Signature} {path : List (List Char)} {segment : List Char}
    (h : s.path = path ++ [segment]) (short : s.hasLongArity = false) :
    s.displayName = .ok (segment ++ s.marker) := by
  rw [displayName, name?, h, List.getLast?_concat]
  exact if_neg (Bool.eq_false_iff.1 short)

/-- Its segments are those of the path, the last one as it is displayed. -/
theorem segments_eq {s : Signature} {path : List (List Char)} {segment : List Char}
    (h : s.path = path ++ [segment]) (short : s.hasLongArity = false) :
    s.segments = .ok (path ++ [segment ++ s.marker]) := by
  rw [segments, displayName_eq h short, h, List.dropLast_concat]
  rfl

/-- Arguments have full names if each of them has one. -/
theorem textAll_eq {as : List Signature} (h : ∀ a ∈ as, a.text = .ok a.render) :
    textAll as = .ok (renderAll as) := by
  induction as with
  | nil => rfl
  | cons a as ih =>
    rw [List.forall_mem_cons] at h
    rw [textAll, h.1, ih h.2, renderAll]
    rfl

/-- **A signature has a full name if every node is formed and of an arity that can be written.** -/
theorem text_eq {s : Signature} (h : s.Every Writable) : s.text = .ok s.render := by
  induction h with
  | @node s hs _ ih =>
    obtain ⟨path, arity, arguments, ranks, nested⟩ := s
    obtain ⟨init, last, rfl⟩ : ∃ init last, path = init ++ [last] :=
      ⟨_, _, (List.dropLast_concat_getLast hs.path.ne_nil).symm⟩
    have node : segments ⟨init ++ [last], arity, [], ranks, nested⟩ = .ok _ :=
      segments_eq rfl hs.hasLongArity
    rw [text, node, textAll_eq ih, render, head, ← dotted_concat]
    rfl

/-- So the full name is there. -/
theorem text?_eq {s : Signature} (h : s.Every Writable) : s.text? = some s.render := by
  rw [text?, text_eq h]
  rfl

/-! ### Depth -/

/-- An argument is less deep than the node above it. -/
theorem depth_lt_depths {a : Signature} {as : List Signature} (h : a ∈ as) :
    a.depth < depths as := by
  induction as with
  | nil => exact absurd h List.not_mem_nil
  | cons b bs ih =>
    rw [depths]
    rcases List.mem_cons.1 h with rfl | h
    · omega
    · have := ih h
      omega

/-- The depth of a node is that of its arguments. -/
theorem depth_eq (s : Signature) : s.depth = depths s.arguments := by
  cases s
  rw [depth]

/-- Among arguments that are deep one is almost as deep. -/
theorem exists_lt_depth_of_lt_depths {k : Nat} {as : List Signature} (h : k + 1 < depths as) :
    ∃ a ∈ as, k < a.depth := by
  induction as with
  | nil => exact absurd h (Nat.not_lt_zero _)
  | cons a as ih =>
    rw [depths] at h
    by_cases ha : k < a.depth
    · exact ⟨a, List.mem_cons_self, ha⟩
    · obtain ⟨b, hb, hk⟩ := ih (by omega)
      exact ⟨b, List.mem_cons_of_mem _ hb, hk⟩

end Signature

/-! ### What the grammar gives -/

namespace Name
open Signature

/-- A path at the start of a trimmed text begins with the text. -/
theorem flush_of_trim {text rest : List Char} {path : List (List Char)} (hp : IsPath path)
    (h : Text.trim text = dotted path ++ rest) :
    ∀ segment ∈ path.head?, ∀ c ∈ segment.head?, Text.isBlank c = false := by
  intro segment hs c hc
  refine Text.head?_trim (s := text) c ?_
  cases path with
  | nil => cases hs
  | cons first path =>
    obtain rfl := Option.some.inj hs
    cases first with
    | nil => cases hc
    | cons d ds => rw [h, dotted, List.intercalate_cons_cons_left]; exact hc

mutual

/-- **What is derived is no deeper than the limit**, and less deep the deeper it is derived. -/
theorem Derives.depth_le {limit : Limit} {depth : Nat} {text : List Char} {s : Signature} :
    Derives limit depth text s → depth + s.depth ≤ limit.levels
  | .plain h _ _ _ => h
  | .zero h _ _ _ => h
  | .zeroBracket h _ _ _ _ _ => h
  | .generic h _ _ _ _ _ _ _ hargs => hargs.depths_le h

/-- Arguments are no deeper than what is left of the limit. -/
theorem DerivesAll.depths_le {limit : Limit} {depth : Nat} {parts : List (List Char)}
    {as : List Signature} :
    DerivesAll limit (depth + 1) parts as → depth ≤ limit.levels →
      depth + depths as ≤ limit.levels
  | .nil, hd => hd
  | .cons h hs, hd => by
    have head := h.depth_le
    have tail := hs.depths_le hd
    rw [depths]
    omega

end

mutual

/-- **What is derived is formed everywhere**, and no path begins with a blank. -/
theorem Derives.formed {limit : Limit} {depth : Nat} {text : List Char} {s : Signature} :
    Derives limit depth text s → s.Every fun t => t.Formed ∧ t.Flush
  | .plain _ hp hr h =>
    .node ⟨(formed_plain hp hr).here, flush_of_trim hp h⟩ fun _ ha => absurd ha List.not_mem_nil
  | .zero _ hp _ h =>
    .node ⟨(formed_plain hp .nil).here, flush_of_trim hp h⟩ fun _ ha => absurd ha List.not_mem_nil
  | .zeroBracket _ hp _ _ hr h =>
    .node ⟨(formed_plain hp hr).here, flush_of_trim hp h⟩ fun _ ha => absurd ha List.not_mem_nil
  | .generic _ hp hn _ hc hl hr h hargs => by
    have arity := hargs.length_eq
    refine .node ⟨⟨hp, ?_, hr, hc, fun hz => ?_⟩, flush_of_trim hp h⟩ hargs.formed
    · dsimp only
      omega
    · dsimp only at hz
      omega

/-- Arguments are formed everywhere. -/
theorem DerivesAll.formed {limit : Limit} {depth : Nat} {parts : List (List Char)}
    {as : List Signature} :
    DerivesAll limit depth parts as → ∀ a ∈ as, a.Every fun t => t.Formed ∧ t.Flush
  | .nil => fun _ ha => absurd ha List.not_mem_nil
  | .cons h hs => List.forall_mem_cons.2 ⟨h.formed, hs.formed⟩

end

end Name
end TypeMismatch
