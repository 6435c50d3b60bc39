import TypeMismatch.Proofs.Name.Reader
import TypeMismatch.Proofs.Name.Signature

/-!
# Reading back what is written

A signature whose nodes are formed, and whose texts the reader would neither trim nor refuse
(`Readable`), is written (`render_signature`) as a name from which it is read again (`parse`;
`read_render`).  Its name derives it, by induction on the tree: the path of a node holds no mark, so
the node's own arity mark is the first one of its text; the blanks inside segments stay, since the
text neither begins nor ends with one.
-/

namespace TypeMismatch
namespace Signature

/-- A node that can be read back: it is formed, its text neither begins nor ends with a blank, and
its arity does not have too many digits. -/
structure Readable (s : Signature) : Prop extends Formed s where
  start : s.Flush
  digits : (Text.intNumeral s.arity).length ≤ Text.maxDigits
  finish : s.arity = 0 → s.ranks = [] →
    ∀ segment ∈ s.path.getLast?, ∀ c ∈ segment.getLast?, Text.isBlank c = false

/-- What can be read back can be written. -/
theorem Readable.writable {s : Signature} (h : s.Readable) : s.Writable := ⟨h.toFormed, h.digits⟩

/-! ### The ends of a written node -/

/-- A path in writing begins as its first segment does. -/
theorem head?_dotted {path : List (List Char)} (hp : Name.IsPath path) :
    (dotted path).head? = path.head?.bind List.head? := by
  cases path with
  | nil => exact absurd rfl hp.ne_nil
  | cons segment path =>
    cases segment with
    | nil => exact absurd rfl (hp.segment_ne_nil [] List.mem_cons_self)
    | cons c cs => rw [dotted, List.intercalate_cons_cons_left]; rfl

/-- It ends as its last segment does. -/
theorem getLast?_dotted {path : List (List Char)} (hp : Name.IsPath path) :
    (dotted path).getLast? = path.getLast?.bind List.getLast? := by
  have hne : ∀ segment ∈ path, segment ≠ [] := hp.segment_ne_nil
  clear hp
  rw [dotted]
  induction path with
  | nil => rfl
  | cons segment path ih =>
    cases path with
    | nil => rw [List.intercalate_singleton]; rfl
    | cons next path =>
      have tail := ih fun s hs => hne s (List.mem_cons_of_mem _ hs)
      rw [List.intercalate_cons_cons, List.getLast?_append, tail, List.getLast?_cons_cons]
      cases hl : (next :: path).getLast? with
      | none => simp at hl
      | some last =>
        have hlast := hne last (List.mem_cons_of_mem _ (List.mem_of_getLast? hl))
        cases hc : last.getLast? with
        | none => exact absurd (List.getLast?_eq_none_iff.1 hc) hlast
        | some c => simp [hc]

/-- Behind a closing bracket ranks end with a closing bracket. -/
theorem getLast?_ranks {ranks : List Char} (hr : Name.IsRanks ranks) (u : List Char) :
    (u ++ ']' :: ranks).getLast? = some ']' := by
  induction hr generalizing u with
  | nil => rw [List.getLast?_concat]
  | @cons rank ranks _ _ ih =>
    have h := ih (u ++ ']' :: '[' :: rank)
    rwa [List.append_assoc] at h

/-- Text that ends with ranks behind a closing bracket does not end with a blank. -/
theorem finish_of_ranks {ranks : List Char} (hr : Name.IsRanks ranks) (u : List Char) :
    ∀ c ∈ (u ++ ']' :: ranks).getLast?, Text.isBlank c = false := by
  intro c hc
  rw [getLast?_ranks hr] at hc
  obtain rfl := Option.some.inj hc
  decide

/-- Ranks end a text with a closing bracket. -/
theorem finish_of_ranks_ne_nil {ranks : List Char} (hr : Name.IsRanks ranks) (hne : ranks ≠ [])
    (u : List Char) : ∀ c ∈ (u ++ ranks).getLast?, Text.isBlank c = false := by
  cases hr with
  | nil => exact absurd rfl hne
  | @cons rank ranks _ hr =>
    have hl := finish_of_ranks hr (u ++ '[' :: rank)
    rwa [List.append_assoc] at hl

/-- A node begins as its path does. -/
theorem start_dotted_append {path : List (List Char)} {rest : List Char} (hp : Name.IsPath path)
    (start : ∀ segment ∈ path.head?, ∀ c ∈ segment.head?, Text.isBlank c = false) :
    ∀ c ∈ (dotted path ++ rest).head?, Text.isBlank c = false := by
  intro c hc
  obtain ⟨d, ds, he⟩ := List.exists_cons_of_ne_nil hp.dotted_ne_nil
  have hd := head?_dotted hp
  rw [he] at hc hd
  obtain rfl := Option.some.inj hc
  obtain ⟨segment, hs, hd⟩ := Option.bind_eq_some_iff.1 hd.symm
  exact start segment hs d hd

/-- A node that begins with a readable path and does not end with a blank is not trimmed. -/
theorem trim_dotted_append {path : List (List Char)} {rest : List Char} (hp : Name.IsPath path)
    (start : ∀ segment ∈ path.head?, ∀ c ∈ segment.head?, Text.isBlank c = false)
    (finish : ∀ c ∈ (dotted path ++ rest).getLast?, Text.isBlank c = false) :
    Text.trim (dotted path ++ rest) = dotted path ++ rest :=
  Text.trim_eq_self (start_dotted_append hp start) finish

/-! ### A written signature derives itself -/

/-- Arguments are derived from their full names if each of them is. -/
theorem derivesAll_map_render {limit : Limit} {depth : Nat} {as : List Signature}
    (h : ∀ a ∈ as, Name.Derives limit depth a.render a) :
    Name.DerivesAll limit depth (as.map render) as := by
  induction as with
  | nil => exact .nil
  | cons a as ih =>
    exact .cons (h a List.mem_cons_self) (ih fun b hb => h b (List.mem_cons_of_mem _ hb))

/-- **A written signature derives itself**, at every depth that leaves it enough levels. -/
theorem derives_render {limit : Limit} {depth : Nat} {s : Signature} (h : s.Every Readable)
    (hd : depth + s.depth ≤ limit.levels) : Name.Derives limit depth s.render s := by
  induction h generalizing depth with
  | @node s hs _ ih =>
    have fits : depth ≤ limit.levels := by omega
    obtain ⟨path, ranks, rfl, hp, hr⟩ | ⟨path, a, as, ranks, nested, rfl, hp, hr, hc⟩ :=
      hs.eq_plain_or_generic
    · have finish : ∀ c ∈ (dotted path ++ ranks).getLast?, Text.isBlank c = false := by
        intro c hc
        by_cases hn : ranks = []
        · rw [hn, List.append_nil, getLast?_dotted hp] at hc
          obtain ⟨segment, hseg, hc⟩ := Option.bind_eq_some_iff.1 hc
          exact hs.finish rfl hn segment hseg c hc
        · exact finish_of_ranks_ne_nil hr hn _ c hc
      rw [render_plain]
      exact .plain fits hp hr (trim_dotted_append hp hs.start finish)
    · have finish := finish_of_ranks hr (dotted path ++ arityMark ::
        (Text.numeral (as.length + 1) ++
          (nested ++ '[' :: [','].intercalate ((a :: as).map render))))
      simp only [List.append_assoc, List.cons_append] at finish
      rw [render_generic]
      refine .generic fits hp (Nat.succ_pos _) (Name.isNumeral_numeral _) hc (List.length_map _) hr
        (trim_dotted_append hp hs.start finish) (derivesAll_map_render fun b hb => ih b hb ?_)
      have := depth_lt_depths hb
      rw [Signature.depth] at hd
      omega

/-! ### No arity of a written signature is too long -/

/-- Texts in which numerals fit can be joined by commas. -/
theorem numeralsFit_intercalate {parts : List (List Char)}
    (h : ∀ x ∈ parts, Name.numeralsFit x = true) :
    Name.numeralsFit ([','].intercalate parts) = true := by
  induction parts with
  | nil => rfl
  | cons x xs ih =>
    have hx := h x List.mem_cons_self
    have hxs := ih fun y hy => h y (List.mem_cons_of_mem _ hy)
    cases xs with
    | nil => rwa [List.intercalate_singleton]
    | cons y ys =>
      rw [List.intercalate_cons_cons, List.append_assoc]
      exact Name.numeralsFit_append_cons (by decide) hx
        (Name.numeralsFit_cons.2 ⟨fun e => absurd e (by decide), hxs⟩)

/-- The only digits behind a mark of a written signature are those of its arities. -/
theorem numeralsFit_render {s : Signature} (h : s.Every Readable) :
    Name.numeralsFit s.render = true := by
  induction h with
  | @node s hs _ ih =>
    obtain ⟨path, ranks, rfl, hp, hr⟩ | ⟨path, a, as, ranks, nested, rfl, hp, hr, hc⟩ :=
      hs.eq_plain_or_generic
    · rw [render_plain]
      refine Name.numeralsFit_of_notMem fun hm => ?_
      rcases List.mem_append.1 hm with hm | hm
      · exact hp.arityMark_notMem hm
      · exact hr.arityMark_notMem hm
    · have digits : (Text.numeral (as.length + 1)).length ≤ Text.maxDigits := hs.digits
      have inside : Name.numeralsFit ([','].intercalate ((a :: as).map render)) = true :=
        numeralsFit_intercalate fun x hx => by
          obtain ⟨b, hb, rfl⟩ := List.mem_map.1 hx
          exact ih b hb
      have ranks_fit := Name.numeralsFit_of_notMem hr.arityMark_notMem
      have behind : Name.numeralsFit ('[' :: ([','].intercalate ((a :: as).map render) ++
          ']' :: ranks)) = true :=
        Name.numeralsFit_cons.2 ⟨fun e => absurd e (by decide),
          Name.numeralsFit_append_cons (by decide) inside
            (Name.numeralsFit_cons.2 ⟨fun e => absurd e (by decide), ranks_fit⟩)⟩
      have marker : Name.numeralsFit (Text.numeral (as.length + 1) ++ nested) = true := by
        refine Name.numeralsFit_of_notMem fun hm => ?_
        rcases List.mem_append.1 hm with hm | hm
        · exact absurd (Text.isDigit_of_mem_numeral hm) (by decide)
        · exact hc.not_isMark _ hm (by decide)
      have stop : ∀ rest, (nested ++ '[' :: rest).takeWhile Text.isDigit = [] := by
        intro rest
        cases hc <;> exact List.takeWhile_cons_of_neg (by decide)
      rw [render_generic]
      refine Name.numeralsFit_append_cons (by decide)
        (Name.numeralsFit_of_notMem hp.arityMark_notMem) (Name.numeralsFit_cons.2 ⟨fun _ => ?_, ?_⟩)
      · rw [List.takeWhile_append_of_pos fun c hc => Text.isDigit_of_mem_numeral hc, stop,
          List.append_nil]
        exact digits
      · rw [← List.append_assoc]
        exact Name.numeralsFit_append_cons (by decide) marker behind

/-! ### The round trip -/

/-- A readable signature is read from its full name. -/
theorem read_of_readable {s : Signature} {limit : Limit} (h : s.Every Readable)
    (hd : s.depth ≤ limit.levels) : Name.read limit s.render = .ok s :=
  Name.read_of_derives (numeralsFit_render h) (derives_render h (by omega))

/-- **Reading undoes writing.**  A readable signature has a full name, and at every limit that its
depth does not exceed it is read from that name; so no other readable signature has the same one. -/
theorem read_render {s : Signature} {limit : Limit} (h : s.Every Readable)
    (hd : s.depth ≤ limit.levels) :
    (∃ text, s.text? = some text ∧ Name.read limit text = .ok s) ∧
      ∀ t : Signature, t.Every Readable → t.text? = s.text? → t = s := by
  have name := text?_eq (h.imp fun _ hs => hs.writable)
  refine ⟨⟨s.render, name, read_of_readable h hd⟩, fun t ht he => ?_⟩
  rw [name, text?_eq (ht.imp fun _ hs => hs.writable)] at he
  -- One limit is enough for both trees.
  let both : Limit := ⟨max 1 (max s.depth t.depth), by omega⟩
  have hs : Name.read both s.render = .ok s := read_of_readable h (by simp only [both]; omega)
  have hread : Name.read both t.render = .ok t := read_of_readable ht (by simp only [both]; omega)
  rw [Option.some.inj he, hs] at hread
  exact (Except.ok.inj hread).symm

/-- A signature of depth one with blanks inside a segment, a nested type, and commas in ranks at
both levels. -/
def pairOfArrays : Signature :=
  ⟨["N S".toList, "Pair".toList], 2,
    [plain ["A".toList, "B".toList] "[,]".toList, plain ["C".toList] []],
    "[][*,]".toList, "+X".toList⟩

/-- This signature is readable. -/
theorem pairOfArrays_readable : pairOfArrays.Every Readable := by
  have chain : Name.IsChain "+X".toList :=
    @Name.IsChain.cons ['X'] [] (by decide) (List.forall_mem_singleton.2 (by decide)) .nil
  refine .node ⟨⟨by decide, rfl, by decide, chain, by decide⟩, ?_, by decide, ?_⟩ fun a ha => ?_
  · rintro _ ⟨⟩ _ ⟨⟩
    decide
  · exact fun h => absurd h (by decide)
  rcases List.mem_cons.1 ha with rfl | ha
  · refine .node ⟨⟨by decide, rfl, by decide, .nil, by decide⟩, ?_, by decide, ?_⟩ fun a ha => ?_
    · rintro _ ⟨⟩ _ ⟨⟩
      decide
    · exact fun _ h => absurd h (by decide)
    · exact absurd ha List.not_mem_nil
  · obtain rfl := List.mem_singleton.1 ha
    refine .node ⟨⟨by decide, rfl, .nil, .nil, by decide⟩, ?_, by decide, ?_⟩ fun a ha => ?_
    · rintro _ ⟨⟩ _ ⟨⟩
      decide
    · rintro - - _ ⟨⟩ _ ⟨⟩
      decide
    · exact absurd ha List.not_mem_nil

/-- The hypotheses are satisfiable. -/
theorem read_pairOfArrays :
    pairOfArrays.Every Readable ∧ pairOfArrays.depth ≤ Limit.standard.levels ∧
      (∃ text, pairOfArrays.text? = some text ∧ Name.read .standard text = .ok pairOfArrays) ∧
        ∀ t : Signature, t.Every Readable → t.text? = pairOfArrays.text? → t = pairOfArrays :=
  ⟨pairOfArrays_readable, by decide, read_render pairOfArrays_readable (by decide)⟩

end Signature
end TypeMismatch
