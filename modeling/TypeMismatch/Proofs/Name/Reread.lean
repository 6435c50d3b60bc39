import TypeMismatch.Proofs.Name.Compound
import TypeMismatch.Proofs.Name.Render
import TypeMismatch.Proofs.Name.Stable

/-!
# Reading a full name again

The full name of a signature that was read is not always a name of that signature.  Reading trims a
name as a whole, but in front of the arity zero (`_parse_zero_arity`) the path is taken as it
stands: the path of ``A `0`` ends with a blank.  The arity zero is not written, so in the full name
of such a node the blank stands at the end, and it is trimmed when the name is read again.  If the
last segment is nothing but blanks, no character of it is left and the name is refused.

`trimmed` is the signature without these blanks, at every node that ends with its path, and `Lasts`
says of a node that something is left of its last segment.  A full name is read again if and only if
every node lasts, and then as the trimmed signature (`read_render_iff`).  The induction is on the
tree: a node without arguments is read as the segments that are left of it (`readPlain_dotted_iff`),
a node with arguments part by part.
-/

namespace TypeMismatch
namespace Signature

/-- A node as it is read: it can be written, and has no blank at its start. -/
structure Parsed (s : Signature) : Prop extends Writable s where
  start : s.Flush

/-- What was read is parsed everywhere. -/
theorem parsed_of_read {limit : Limit} {text : List Char} {s : Signature}
    (h : Name.read limit text = .ok s) : s.Every Parsed :=
  ((Name.writable_of_read h).and (Name.derives_of_read h).formed).imp fun _ hs => ⟨hs.1, hs.2.2⟩

/-! ### What is left of a path at the end of a name -/

/-- A path without the blanks at the end of its last segment. -/
def trimPath (path : List (List Char)) : List (List Char) :=
  path.dropLast ++ (path.getLast?.map Text.trimEnd).toList

/-- Trimming a path trims its last segment. -/
@[simp] theorem trimPath_concat (path : List (List Char)) (segment : List Char) :
    trimPath (path ++ [segment]) = path ++ [Text.trimEnd segment] := by
  simp [trimPath]

/-- What is left of the path of a node when the node is read from its full name: where the name ends
with the path, the blanks at its end are lost. -/
def trimmedPath (s : Signature) : List (List Char) :=
  if s.arity = 0 ∧ s.ranks = [] then trimPath s.path else s.path

/-- A node of which every segment is left. -/
def Lasts (s : Signature) : Prop := ∀ segment ∈ s.trimmedPath, segment ≠ []

mutual

/-- A signature with what is left of its paths. -/
def trimmed : Signature → Signature
  | ⟨path, arity, arguments, ranks, nested⟩ =>
    ⟨trimmedPath ⟨path, arity, [], ranks, nested⟩, arity, trimmedAll arguments, ranks, nested⟩

/-- Arguments with what is left of their paths. -/
def trimmedAll : List Signature → List Signature
  | [] => []
  | a :: as => trimmed a :: trimmedAll as

end

/-- Arguments are trimmed one by one. -/
theorem trimmedAll_eq_map (as : List Signature) : trimmedAll as = as.map trimmed := by
  induction as with
  | nil => rfl
  | cons a as ih => rw [trimmedAll, ih, List.map_cons]

/-- A tree is trimmed node by node. -/
theorem trimmed_eq (s : Signature) : s.trimmed =
    ⟨s.trimmedPath, s.arity, s.arguments.map trimmed, s.ranks, s.nested⟩ := by
  obtain ⟨path, arity, arguments, ranks, nested⟩ := s
  rw [trimmed, trimmedAll_eq_map]
  rfl

/-- Of segments between points the last one is trimmed. -/
theorem trimEnd_dotted (path : List (List Char)) :
    Text.trimEnd (dotted path) = dotted (trimPath path) := by
  rcases List.eq_nil_or_concat path with rfl | ⟨path, segment, rfl⟩
  · rfl
  · rw [List.concat_eq_append, trimPath_concat]
    unfold dotted
    induction path with
    | nil => rw [List.nil_append, List.intercalate_singleton, List.nil_append,
        List.intercalate_singleton]
    | cons first path ih =>
      have hne : ∀ last : List Char, path ++ [last] ≠ [] := fun last => by simp
      rw [List.cons_append, List.cons_append, List.intercalate_cons_of_ne_nil (hne _),
        List.intercalate_cons_of_ne_nil (hne _), List.append_assoc, List.append_assoc,
        List.singleton_append, List.singleton_append, Text.trimEnd_append_cons _ _ (by decide), ih]

/-- What is left of a path has no marks. -/
theorem not_isMark_of_mem_trimmedPath {s : Signature} (hp : Name.IsPath s.path) :
    ∀ segment ∈ s.trimmedPath, ∀ c ∈ segment, ¬Name.IsMark c := by
  unfold trimmedPath
  split
  · intro segment hs c hc
    rcases List.mem_append.1 hs with hs | hs
    · exact hp.not_mark segment ((List.dropLast_sublist _).subset hs) c hc
    · obtain ⟨last, hl, rfl⟩ := Option.map_eq_some_iff.1 (Option.mem_toList.1 hs)
      exact hp.not_mark last (List.mem_of_getLast? hl) c ((Text.trimEnd_prefix last).subset hc)
  · exact hp.not_mark

/-- Something is left of every path, if only an empty segment. -/
theorem trimmedPath_ne_nil {s : Signature} (hp : Name.IsPath s.path) : s.trimmedPath ≠ [] := by
  unfold trimmedPath
  split
  · rw [trimPath, List.getLast?_eq_some_getLast hp.ne_nil]
    simp
  · exact hp.ne_nil

/-- **What is left of a node without arguments** is what is left of its path, and its ranks. -/
theorem trim_render_plain {path : List (List Char)} {ranks : List Char} (hp : Name.IsPath path)
    (hr : Name.IsRanks ranks) (start : (plain path ranks).Flush) :
    Text.trim (dotted path ++ ranks) = dotted (plain path ranks).trimmedPath ++ ranks := by
  by_cases hn : ranks = []
  · have left : (plain path ranks).trimmedPath = trimPath path := if_pos ⟨rfl, hn⟩
    rw [left, Text.trim_eq_trimEnd (start_dotted_append hp start), hn, List.append_nil,
      List.append_nil, trimEnd_dotted]
  · have left : (plain path ranks).trimmedPath = path := if_neg fun h => hn h.2
    rw [left, trim_dotted_append hp start (finish_of_ranks_ne_nil hr hn _)]

/-- A node without arguments lasts everywhere if it lasts. -/
theorem lasts_plain_iff {path : List (List Char)} {ranks : List Char} :
    (plain path ranks).Every Lasts ↔ (plain path ranks).Lasts :=
  ⟨Every.here, fun h => .node h fun _ ha => absurd ha List.not_mem_nil⟩

section
variable {path : List (List Char)} {a : Signature} {as : List Signature} {ranks nested : List Char}

/-- The path of a node with arguments is not at the end of its name. -/
theorem trimmedPath_generic :
    trimmedPath ⟨path, (as.length + 1 : Nat), a :: as, ranks, nested⟩ = path :=
  if_neg fun h => absurd h.1 (by simp only; omega)

/-- Of a node with arguments every segment is left, so the arguments decide. -/
theorem lasts_generic_iff (hp : Name.IsPath path) :
    Every Lasts ⟨path, (as.length + 1 : Nat), a :: as, ranks, nested⟩ ↔
      ∀ b ∈ a :: as, b.Every Lasts := by
  refine ⟨Every.arguments, fun h => .node ?_ h⟩
  rw [Lasts, trimmedPath_generic]
  exact hp.segment_ne_nil

end

/-! ### Written signatures are tokens -/

/-- A full name is a token. -/
theorem isToken_render {s : Signature} (h : s.Every Formed) : Name.IsToken s.render := by
  induction h with
  | @node s hs _ ih =>
    obtain ⟨path, ranks, rfl, hp, hr⟩ | ⟨path, a, as, ranks, nested, rfl, hp, hr, hc⟩ :=
      hs.eq_plain_or_generic
    · rw [render_plain]
      exact hp.isToken.append hr.isToken
    · have inside : Name.Balanced ([','].intercalate ((a :: as).map render)) :=
        Name.balanced_intercalate fun x hx => by
          obtain ⟨b, hb, rfl⟩ := List.mem_map.1 hx
          exact (ih b hb).balanced
      rw [render_generic]
      exact hp.isToken.append (Name.isToken_arityMark ((Name.isNumeral_numeral _).isToken.append
        ((Name.isToken_of_not_isMark hc.not_isMark).append (.bracket inside hr.isToken))))

/-- A written node does not begin with a blank, and so it is not blank. -/
theorem exists_not_isBlank_render {s : Signature} (hs : s.Parsed) :
    ∃ c ∈ s.render, Text.isBlank c = false := by
  obtain ⟨path, ranks, rfl, hp, hr⟩ | ⟨path, a, as, ranks, nested, rfl, hp, hr, hc⟩ :=
    hs.eq_plain_or_generic
  all_goals
    first | rw [render_plain] | rw [render_generic]
    obtain ⟨c, cs, he⟩ := List.exists_cons_of_ne_nil hp.dotted_ne_nil
    have first : c ∈ (dotted path ++ []).head? := by rw [he]; rfl
    exact ⟨c, List.mem_append_left _ (he ▸ List.mem_cons_self),
      start_dotted_append hp hs.start c first⟩

end Signature

/-! ### Reading a written signature -/

namespace Name

/-- Segments without marks are read if none is empty, and as these segments. -/
theorem readPlain_dotted_iff {offset : Nat} {path : List (List Char)} {ranks : List Char}
    (hne : path ≠ []) (hm : ∀ segment ∈ path, ∀ c ∈ segment, ¬IsMark c) (hr : IsRanks ranks)
    (t : Signature) :
    readPlain offset (Signature.dotted path ++ ranks) = .ok t ↔
      (∀ segment ∈ path, segment ≠ []) ∧ t = .plain path ranks := by
  rw [readPlain_eq_ok_iff]
  constructor
  · rintro ⟨other, ranks', ho, hr', he, rfl⟩
    have inside : ∀ c ∈ Signature.dotted path, ¬(IsMark c ∧ c ≠ '.') := by
      rintro c hc ⟨hmark, hpoint⟩
      rcases Text.mem_intercalate hc with rfl | ⟨segment, hs, hc⟩
      · exact hpoint rfl
      · exact hm segment hs c hc hmark
    have stop : ∀ {r : List Char}, IsRanks r → ∀ c ∈ r.head?, IsMark c ∧ c ≠ '.' := by
      intro r hr c hc
      rw [← List.append_nil r] at hc
      exact (Signature.stop_of_ranks hr closes_nil c hc).1
    have inside' : ∀ c ∈ Signature.dotted other, ¬(IsMark c ∧ c ≠ '.') := fun c hc hs =>
      (ho.mem_dotted hc).elim hs.2 fun hn => hn hs.1
    obtain ⟨hd, rfl⟩ := append_inj_of_stop inside inside' (stop hr) (stop hr') he
    have same : path = other := by
      rw [← Text.split_intercalate hne fun s hs hd => hm s hs '.' hd (by decide),
        ← Text.split_intercalate ho.ne_nil fun s hs hd => ho.not_mark s hs '.' hd (by decide)]
      exact congrArg (Text.split '.') hd
    exact ⟨same ▸ ho.segment_ne_nil, by rw [same]⟩
  · rintro ⟨hs, rfl⟩
    exact ⟨path, ranks, ⟨hne, hs, hm⟩, hr, rfl, rfl⟩

end Name

namespace Signature

section
variable {path : List (List Char)} {a : Signature} {as : List Signature} {ranks nested : List Char}

/-- The parts of a written node with arguments. -/
def compound (h : Every Parsed ⟨path, (as.length + 1 : Nat), a :: as, ranks, nested⟩) :
    Name.Compound where
  path := path
  arity := as.length + 1
  digits := Text.numeral (as.length + 1)
  nested := nested
  parts := (a :: as).map render
  ranks := ranks
  isPath := h.here.path
  flush := h.here.start
  isNumeral := Name.isNumeral_numeral _
  length_digits := h.here.digits
  isChain := h.here.nested
  isRanks := h.here.ranks
  parts_ne_nil := List.cons_ne_nil _ _
  isToken := fun x hx => by
    obtain ⟨b, hb, rfl⟩ := List.mem_map.1 hx
    exact isToken_render ((h.arguments b hb).imp fun _ hs => hs.toFormed)
  alone := fun x hx => by
    obtain ⟨b, hb, rfl⟩ := List.mem_map.1 (hx ▸ List.mem_singleton_self x)
    exact exists_not_isBlank_render (h.arguments b hb).here

/-- The full name of a node with arguments is the text of its parts. -/
theorem text_compound (h : Every Parsed ⟨path, (as.length + 1 : Nat), a :: as, ranks, nested⟩) :
    (compound h).text = render ⟨path, (as.length + 1 : Nat), a :: as, ranks, nested⟩ := by
  rw [render_generic, Name.Compound.text_eq]
  rfl

/-- Its arity is the number of its parts. -/
theorem length_compound (h : Every Parsed ⟨path, (as.length + 1 : Nat), a :: as, ranks, nested⟩) :
    (compound h).arity = (compound h).parts.length := by
  simp [compound]

end

/-- **A written signature is read as what is left of it**, at every level that leaves it enough
levels. -/
theorem readAt_render_iff {limit : Limit} {levels : Nat} {s : Signature} (h : s.Every Parsed)
    (hd : s.depth ≤ levels) (t : Signature) :
    Name.readAt limit (levels + 1) 0 s.render = .ok t ↔ s.Every Lasts ∧ t = s.trimmed := by
  induction h generalizing levels t with
  | @node s hs hargs ih =>
    obtain ⟨path, ranks, rfl, hp, hr⟩ | ⟨path, a, as, ranks, nested, rfl, hp, hr, hc⟩ :=
      hs.eq_plain_or_generic
    · have no_mark : arityMark ∉ Text.trim (dotted path ++ ranks) := fun hm =>
        (List.mem_append.1 ((Text.isInfix_trim _).subset hm)).elim hp.arityMark_notMem
          hr.arityMark_notMem
      obtain ⟨c, hc, hb⟩ := exists_not_isBlank_render hs
      rw [render_plain] at hc ⊢
      rw [Name.readAt_plain (Text.trim_ne_nil hc hb) no_mark, trim_render_plain hp hr hs.start,
        Name.readPlain_dotted_iff (trimmedPath_ne_nil hp) (not_isMark_of_mem_trimmedPath hp) hr,
        trimmed_eq, lasts_plain_iff]
      rfl
    · have whole : Every Parsed ⟨path, (as.length + 1 : Nat), a :: as, ranks, nested⟩ :=
        .node hs hargs
      have shallow : ∀ b ∈ a :: as, b.depth + 1 ≤ levels := fun b hb => by
        have := depth_lt_depths hb
        rw [depth] at hd
        omega
      obtain ⟨levels, rfl⟩ : ∃ k, levels = k + 1 :=
        ⟨levels - 1, by have := shallow a List.mem_cons_self; omega⟩
      -- Arguments are read one by one, each by the induction on the tree.
      have each : ∀ ts, Name.readAll (Name.readAt limit (levels + 1))
          ((compound whole).head.length + 1) ((a :: as).map render) = .ok ts ↔
            (∀ b ∈ a :: as, b.Every Lasts) ∧ ts = (a :: as).map trimmed := fun ts => by
        rw [Name.readAll_eq_ok_iff (Name.moves_readAt _ _), List.map_map]
        exact map_eq_map_ok_iff
          (fun b hb u => ih b hb (Nat.le_of_succ_le_succ (shallow b hb)) u) ts
      rw [← text_compound whole, Name.Compound.readAt_of_eq _ _ _ (length_compound whole),
        trimmed_eq, trimmedPath_generic, lasts_generic_iff hp]
      constructor
      · intro h
        obtain ⟨ts, hts, rfl⟩ := ok_of_map h
        obtain ⟨hl, rfl⟩ := (each ts).1 hts
        exact ⟨hl, rfl⟩
      · rintro ⟨hl, rfl⟩
        exact congrArg (Except.map _) ((each _).2 ⟨hl, rfl⟩)

/-! ### Full names of what was read -/

/-- A written signature is read whole as it is read at depth zero: its brackets are balanced. -/
theorem read_render_iff {limit : Limit} {s : Signature} (h : s.Every Parsed)
    (hd : s.depth ≤ limit.levels) (t : Signature) :
    Name.read limit s.render = .ok t ↔ s.Every Lasts ∧ t = s.trimmed := by
  have balanced := (isToken_render (h.imp fun _ hs => hs.toFormed)).balanced
  rw [← readAt_render_iff h hd, Name.read, Name.checkBrackets_eq_ok balanced]
  rfl

/-- Nodes of which nothing is trimmed are readable. -/
theorem readable_of_trimmed_eq {s : Signature} (h : s.Every Parsed) (he : s.trimmed = s) :
    s.Every Readable := by
  induction h with
  | @node s hs _ ih =>
    rw [trimmed_eq] at he
    have path : s.trimmedPath = s.path := congrArg Signature.path he
    have arguments : s.arguments.map trimmed = s.arguments := congrArg Signature.arguments he
    refine .node ⟨hs.toFormed, hs.start, hs.digits, fun ha hr segment hseg c hc => ?_⟩
      fun a ha => ih a ha ?_
    · obtain ⟨init, hp⟩ := List.getLast?_eq_some_iff.1 hseg
      have left : s.trimmedPath = trimPath s.path := if_pos ⟨ha, hr⟩
      rw [left, hp, trimPath_concat, List.append_cancel_left_eq, List.cons.injEq] at path
      exact Text.getLast?_trimEnd (s := segment) c (path.1.symm ▸ hc)
    · rw [← List.map_id s.arguments, List.map_map] at arguments
      exact List.map_inj_left.1 arguments a ha

/-- **When a full name is a name of the same signature.**  A signature that was read has a full
name.  At the limit at which it was read, the full name is read if and only if every segment of
every node is left when the blanks at the end of a node are not counted, and it is read as what is
left; so it is read as the same signature if and only if the signature is readable. -/
theorem read_full_name {limit : Limit} {text : List Char} {s : Signature}
    (h : Name.read limit text = .ok s) :
    s.text? = some s.render ∧
      (∀ t, Name.read limit s.render = .ok t ↔ s.Every Lasts ∧ t = s.trimmed) ∧
        (Name.read limit s.render = .ok s ↔ s.Every Readable) := by
  have parsed := parsed_of_read h
  have depth := (Name.derives_of_read h).depth_le
  rw [Nat.zero_add] at depth
  refine ⟨text?_eq (Name.writable_of_read h), read_render_iff parsed depth,
    fun hr => ?_, fun hr => read_of_readable hr depth⟩
  obtain ⟨-, he⟩ := (read_render_iff parsed depth s).1 hr
  exact readable_of_trimmed_eq parsed he.symm

/-- A signature with an argument whose path ends with a blank, and the signature without it. -/
def pairWithBlank : Signature :=
  ⟨["N".toList, "A".toList], 2, [plain ["B ".toList] [], plain ["C".toList] "[]".toList], [], []⟩

/-- The hypothesis is satisfiable.  This full name is a name, but not of the signature that has
it. -/
theorem read_full_name_pairWithBlank :
    Name.read .standard "N.A`2[B `0, C[]]".toList = .ok pairWithBlank ∧
      pairWithBlank.text? = some pairWithBlank.render ∧
      pairWithBlank.render = "N.A`2[B ,C[]]".toList ∧
      (∀ t, Name.read .standard pairWithBlank.render = .ok t ↔ t = pairWithBlank.trimmed) ∧
      ¬pairWithBlank.Every Readable := by
  have hread : Name.read .standard "N.A`2[B `0, C[]]".toList = .ok pairWithBlank := rfl
  have again : Name.read .standard pairWithBlank.render = .ok ⟨["N".toList, "A".toList], 2,
      [plain ["B".toList] [], plain ["C".toList] "[]".toList], [], []⟩ := rfl
  obtain ⟨name, reads, same⟩ := read_full_name hread
  have lasts := ((reads _).1 again).1
  refine ⟨hread, name, rfl, fun t => (reads t).trans ⟨And.right, fun h => ⟨lasts, h⟩⟩, fun h => ?_⟩
  have other := same.2 h
  rw [again] at other
  cases other

/-- **A full name need not be a name of its signature.**  Behind the blank before an arity zero
nothing is trimmed, so ``A `0`` and ``A. `0`` are names; the full name of the one is read as a
different signature, and that of the other is refused. -/
theorem read_blank_before_zero :
    (Name.read .standard "A `0".toList = .ok (plain ["A ".toList] []) ∧
      (plain ["A ".toList] []).text? = some "A ".toList ∧
      Name.read .standard "A ".toList = .ok (plain ["A".toList] []) ∧
      plain ["A".toList] [] ≠ plain ["A ".toList] []) ∧
    (Name.read .standard "A. `0".toList = .ok (plain ["A".toList, " ".toList] []) ∧
      (plain ["A".toList, " ".toList] []).text? = some "A. ".toList ∧
      Name.read .standard "A. ".toList = .error (.fault ⟨.emptySegment, 2⟩)) :=
  ⟨⟨rfl, rfl, rfl, nofun⟩, rfl, rfl, rfl⟩

end Signature
end TypeMismatch
