import Mathlib.Data.List.TakeWhile
import TypeMismatch.Name.Reader
import TypeMismatch.Proofs.Name.Grammar
import TypeMismatch.Proofs.Result

/-!
# Reading the parts of a name

The reader (`_parse_span`) takes a name apart into a path, an arity mark with its digits, a chain of
nested types and ranks.  Each of these steps has one statement here that says when it succeeds and
with what, in the words of the grammar: `readPath_eq_ok_iff`, `marked?_append` and
`marked?_eq_some`, `nestedChain_append` and `nestedChain_spec`, `readRanks_eq_ok_iff`.  The offset
of a step only places its faults, so every statement holds at every offset.
-/

namespace TypeMismatch
namespace Name

/-- A fault is no result. -/
theorem failAt_ne_ok {α : Type} {reason : Reason} {position : Nat} {a : α} :
    failAt reason position ≠ .ok a := by
  intro h
  cases h

/-! ### Paths -/

/-- The marks are the point and the reserved characters. -/
theorem isMark_iff {c : Char} : IsMark c ↔ c = '.' ∨ isReserved c = true := by
  simp only [IsMark, isReserved, List.mem_cons, List.not_mem_nil, or_false, Bool.or_eq_true,
    beq_iff_eq, or_assoc]

/-- The check passes segments that are not empty and hold nothing reserved. -/
theorem checkSegments_eq_ok_iff {offset : Nat} {segments : List (List Char)} :
    checkSegments offset segments = .ok () ↔
      ∀ segment ∈ segments, segment ≠ [] ∧ ∀ c ∈ segment, isReserved c = false := by
  induction segments generalizing offset with
  | nil => simp [checkSegments]
  | cons segment segments ih =>
    rw [checkSegments, List.forall_mem_cons]
    cases segment with
    | nil => simp [failAt]
    | cons d ds =>
      rw [if_neg (by simp)]
      cases h : (d :: ds).dropWhile (!isReserved ·) with
      | nil =>
        have hall : ∀ c ∈ d :: ds, isReserved c = false := fun c hc => by
          simpa using List.dropWhile_eq_nil_iff.1 h c hc
        rw [ih]
        exact ⟨fun hs => ⟨⟨List.cons_ne_nil _ _, hall⟩, hs⟩, fun hs => hs.2⟩
      | cons c cs =>
        refine ⟨fun hs => absurd hs failAt_ne_ok, fun hs => ?_⟩
        have hnil : (d :: ds).dropWhile (!isReserved ·) = [] :=
          List.dropWhile_eq_nil_iff.2 fun e he => by rw [hs.1.2 e he]; rfl
        rw [hnil] at h
        cases h

/-- **Segments between points.**  A path is read from its writing and from nothing else. -/
theorem readPath_eq_ok_iff {offset : Nat} {text : List Char} {path : List (List Char)} :
    readPath offset text = .ok path ↔ IsPath path ∧ text = Signature.dotted path := by
  constructor
  · intro h
    obtain ⟨⟨⟩, hc, he⟩ := ok_of_bind h
    obtain rfl := Except.ok.inj he
    rw [checkSegments_eq_ok_iff] at hc
    refine ⟨⟨Text.split_ne_nil '.' text, fun s hs => (hc s hs).1, fun s hs c hcs hm => ?_⟩, ?_⟩
    · rcases isMark_iff.1 hm with rfl | hr
      · exact Text.notMem_of_mem_split hs hcs
      · exact absurd hr (by rw [(hc s hs).2 c hcs]; decide)
    · exact (Text.intercalate_split '.' text).symm
  · rintro ⟨hp, rfl⟩
    have hs : Text.split '.' (Signature.dotted path) = path :=
      Text.split_intercalate hp.ne_nil fun s hs hd => hp.not_mark s hs '.' hd (by decide)
    have hc : checkSegments offset path = .ok () := by
      refine checkSegments_eq_ok_iff.2 fun s hs => ⟨hp.segment_ne_nil s hs, fun c hcs => ?_⟩
      rw [Bool.eq_false_iff]
      exact fun hr => hp.not_mark s hs c hcs (isMark_iff.2 (.inr hr))
    change (checkSegments offset (Text.split '.' _) >>= fun _ => pure (Text.split '.' _)) = _
    rw [hs, hc]
    rfl

/-! ### Ranks -/

/-- What can follow the opening bracket of a rank: the rest of the rank, and further ranks. -/
def IsOpenRank (text : List Char) : Prop :=
  ∃ rank ranks, text = rank ++ ']' :: ranks ∧ (∀ c ∈ rank, c = ',' ∨ c = '*') ∧ IsRanks ranks

/-- Ranks that are not empty begin with a bracket. -/
theorem isRanks_cons_iff {c : Char} {cs : List Char} :
    IsRanks (c :: cs) ↔ c = '[' ∧ IsOpenRank cs := by
  constructor
  · intro h
    cases h with
    | cons hr hrs => exact ⟨rfl, _, _, rfl, hr, hrs⟩
  · rintro ⟨rfl, rank, ranks, rfl, hr, hrs⟩
    exact .cons hr hrs

/-- A rank that is open is closed, or goes on with a comma or a star. -/
theorem isOpenRank_cons_iff {c : Char} {cs : List Char} :
    IsOpenRank (c :: cs) ↔ c = ']' ∧ IsRanks cs ∨ (c = ',' ∨ c = '*') ∧ IsOpenRank cs := by
  constructor
  · rintro ⟨rank, ranks, he, hr, hrs⟩
    cases rank with
    | nil =>
      obtain ⟨rfl, rfl⟩ := List.cons.inj he
      exact .inl ⟨rfl, hrs⟩
    | cons d ds =>
      obtain ⟨rfl, rfl⟩ := List.cons.inj he
      rw [List.forall_mem_cons] at hr
      exact .inr ⟨hr.1, ds, ranks, rfl, hr.2, hrs⟩
  · rintro (⟨rfl, h⟩ | ⟨hc, rank, ranks, rfl, hr, hrs⟩)
    · exact ⟨[], cs, rfl, fun d hd => absurd hd List.not_mem_nil, h⟩
    · exact ⟨c :: rank, ranks, rfl, List.forall_mem_cons.2 ⟨hc, hr⟩, hrs⟩

/-- Nothing is left over, outside of a rank or inside of one, if and only if ranks fill the text. -/
theorem trailingFrom_eq_none_iff {offset : Nat} {text : List Char} :
    (trailingFrom offset none text = none ↔ IsRanks text) ∧
      ∀ start, trailingFrom offset (some start) text = none ↔ IsOpenRank text := by
  induction text generalizing offset with
  | nil =>
    refine ⟨⟨fun _ => .nil, fun _ => rfl⟩, fun start => ⟨nofun, ?_⟩⟩
    rintro ⟨rank, ranks, h, -⟩
    cases rank <;> cases h
  | cons c cs ih =>
    refine ⟨?_, fun start => ?_⟩
    · rw [trailingFrom, isRanks_cons_iff]
      split
      · rename_i hc
        rw [ih.2]
        exact ⟨fun h => ⟨hc, h⟩, fun h => h.2⟩
      · rename_i hc
        exact ⟨nofun, fun h => absurd h.1 hc⟩
    · rw [trailingFrom, isOpenRank_cons_iff]
      split
      · rename_i hc
        subst hc
        rw [ih.1]
        exact ⟨fun h => .inl ⟨rfl, h⟩, fun h => h.elim And.right fun h => absurd h.1 (by decide)⟩
      · rename_i hc
        split
        · rename_i hs
          have inside : c = ',' ∨ c = '*' := by simpa using hs
          rw [ih.2]
          exact ⟨fun h => .inr ⟨inside, h⟩, fun h => h.elim (fun h => absurd h.1 hc) And.right⟩
        · rename_i hs
          have outside : ¬(c = ',' ∨ c = '*') := by simpa using hs
          exact ⟨nofun, fun h => h.elim (fun h => absurd h.1 hc) fun h => absurd h.1 outside⟩

instance (text : List Char) : Decidable (IsRanks text) :=
  decidable_of_iff (trailingFrom 0 none text = none) trailingFrom_eq_none_iff.1

/-- **Ranks fill the rest of a name or it is refused.** -/
theorem readRanks_eq_ok_iff {offset : Nat} {text ranks : List Char} :
    readRanks offset text = .ok ranks ↔ IsRanks text ∧ ranks = text := by
  rw [← (@trailingFrom_eq_none_iff offset _).1]
  unfold readRanks
  cases trailingFrom offset none text with
  | some position => exact ⟨fun h => absurd h failAt_ne_ok, fun h => (nomatch h.1)⟩
  | none => exact ⟨fun h => ⟨rfl, (Except.ok.inj h).symm⟩, fun h => h.2 ▸ rfl⟩

/-! ### The arity mark -/

/-- A text without an arity mark has no arity. -/
theorem marked?_eq_none {text : List Char} (h : Signature.arityMark ∉ text) :
    marked? text = none := by
  induction text with
  | nil => rfl
  | cons c cs ih =>
    rw [List.mem_cons, not_or] at h
    have hc : ¬(c = Signature.arityMark && cs.head?.any Text.isDigit) = true := by
      simp [Ne.symm h.1]
    rw [marked?, if_neg hc, ih h.2]
    rfl

/-- The first mark with a digit behind it, its digits all taken. -/
theorem marked?_append {before digits after : List Char} (hb : Signature.arityMark ∉ before)
    (hne : digits ≠ []) (hd : ∀ c ∈ digits, Text.isDigit c = true)
    (ha : ∀ c ∈ after.head?, Text.isDigit c = false) :
    marked? (before ++ Signature.arityMark :: (digits ++ after)) =
      some ⟨before, digits, after⟩ := by
  induction before with
  | nil =>
    have hc : (Signature.arityMark = Signature.arityMark &&
        (digits ++ after).head?.any Text.isDigit) = true := by
      cases digits with
      | nil => exact absurd rfl hne
      | cons d ds => simpa using hd d List.mem_cons_self
    have stop : after.takeWhile Text.isDigit = [] ∧ after.dropWhile Text.isDigit = after := by
      cases after with
      | nil => exact ⟨rfl, rfl⟩
      | cons d ds =>
        have hn : ¬Text.isDigit d = true := by rw [ha d rfl]; decide
        exact ⟨List.takeWhile_cons_of_neg hn, List.dropWhile_cons_of_neg hn⟩
    rw [List.nil_append, marked?, if_pos hc, List.takeWhile_append_of_pos hd,
      List.dropWhile_append_of_pos hd, stop.1, stop.2, List.append_nil]
  | cons c cs ih =>
    rw [List.mem_cons, not_or] at hb
    rw [List.cons_append, marked?, if_neg (by simp [Ne.symm hb.1]), ih hb.2]
    rfl

/-- A mark is found with at least one digit, and nothing of the text is lost. -/
theorem marked?_eq_some {text : List Char} {m : Marked} (h : marked? text = some m) :
    text = m.before ++ Signature.arityMark :: (m.digits ++ m.after) ∧ m.digits ≠ [] ∧
      ∀ c ∈ m.digits, Text.isDigit c = true := by
  induction text generalizing m with
  | nil => cases h
  | cons c cs ih =>
    rw [marked?] at h
    split at h
    · rename_i hc
      obtain rfl := Option.some.inj h
      rw [Bool.and_eq_true, decide_eq_true_eq] at hc
      refine ⟨by rw [List.takeWhile_append_dropWhile, hc.1]; rfl, ?_,
        fun d hd => List.mem_takeWhile_imp hd⟩
      cases cs with
      | nil => cases hc.2
      | cons d ds =>
        rw [List.takeWhile_cons_of_pos (by simpa using hc.2)]
        exact List.cons_ne_nil _ _
    · obtain ⟨m', hm, rfl⟩ := Option.map_eq_some_iff.1 h
      obtain ⟨he, hd⟩ := ih hm
      exact ⟨congrArg (c :: ·) he, hd⟩

/-- The text of a mark up to the end of its digits. -/
def Marked.head (m : Marked) : List Char := m.before ++ Signature.arityMark :: m.digits

/-- In front of what is behind stand the path, the mark and the digits. -/
theorem Marked.length_head (m : Marked) :
    m.head.length = m.before.length + 1 + m.digits.length := by
  simp only [head, List.length_append, List.length_cons]
  omega

/-- What a mark is found in is its head and the text behind it. -/
theorem eq_head_append {text : List Char} {m : Marked} (h : marked? text = some m) :
    text = m.head ++ m.after := by
  rw [Marked.head, List.append_assoc]
  exact (marked?_eq_some h).1

/-! ### Chains of nested types -/

/-- The characters of nested types are those of the grammar. -/
theorem isNestedChar_iff {c : Char} : isNestedChar c = true ↔ IsChainChar c := by
  simp only [isNestedChar, IsChainChar, isMark_iff, Bool.and_eq_true, Bool.not_eq_true', bne_iff_ne,
    not_or, Bool.not_eq_true]
  constructor
  · rintro ⟨⟨⟨hb, hr⟩, hp⟩, hs⟩
    exact ⟨⟨hp, hr⟩, hs, hb⟩
  · rintro ⟨⟨hp, hr⟩, hs, hb⟩
    exact ⟨⟨⟨hb, hr⟩, hp⟩, hs⟩

/-- A name of a nested type is taken whole. -/
theorem chainRest_append {name text : List Char} (hn : ∀ c ∈ name, IsChainChar c)
    (ht : text ≠ []) :
    chainRest (name ++ text) = (name ++ (chainRest text).1, (chainRest text).2) := by
  induction name with
  | nil => rfl
  | cons c cs ih =>
    rw [List.forall_mem_cons] at hn
    rw [List.cons_append]
    cases he : cs ++ text with
    | nil => exact absurd (List.append_eq_nil_iff.1 he).2 ht
    | cons d ds => rw [chainRest, if_pos (isNestedChar_iff.2 hn.1), ← he, ih hn.2]; rfl

/-- A chain of nested types ends at a bracket. -/
theorem chainRest_bracket (rest : List Char) : chainRest ('[' :: rest) = ([], '[' :: rest) := by
  cases rest <;> rfl

/-- It goes on with a plus sign and a name. -/
theorem chainRest_plus {c : Char} (hc : IsChainChar c) (text : List Char) :
    chainRest ('+' :: c :: text) = ('+' :: c :: (chainRest text).1, (chainRest text).2) := by
  have hs : ¬isNestedChar '+' = true := by decide
  rw [chainRest, if_neg hs, if_pos (by rw [isNestedChar_iff.2 hc]; rfl)]

/-- A chain is taken up to the bracket behind it. -/
theorem chainRest_chain {name chain : List Char} (hn : ∀ c ∈ name, IsChainChar c)
    (hc : IsChain chain) (rest : List Char) :
    chainRest (name ++ (chain ++ '[' :: rest)) = (name ++ chain, '[' :: rest) := by
  induction hc generalizing name with
  | nil =>
    rw [List.nil_append, chainRest_append hn (List.cons_ne_nil _ _), chainRest_bracket]
  | @cons inner chain hne hi _ ih =>
    cases inner with
    | nil => exact absurd rfl hne
    | cons d ds =>
      rw [List.forall_mem_cons] at hi
      have tail := ih hi.2
      rw [List.cons_append, List.cons_append, List.cons_append,
        chainRest_append hn (List.cons_ne_nil _ _), chainRest_plus hi.1, List.append_assoc, tail]

/-- A chain in front of a bracket is found. -/
theorem nestedChain_append {chain : List Char} (hc : IsChain chain) (rest : List Char) :
    nestedChain (chain ++ '[' :: rest) = (chain, '[' :: rest) := by
  cases hc with
  | nil => cases rest <;> rfl
  | @cons name chain hne hn hc =>
    cases name with
    | nil => exact absurd rfl hne
    | cons d ds =>
      rw [List.forall_mem_cons] at hn
      have hd : ('+' = '+' && isNestedChar d) = true := by rw [isNestedChar_iff.2 hn.1]; rfl
      have tail := chainRest_chain hn.2 hc rest
      rw [List.cons_append, List.cons_append, List.cons_append, List.append_assoc, nestedChain,
        if_pos hd, chainRest_plus hn.1, tail]

/-- What is taken from inside the name of a nested type ends that name and goes on as a chain. -/
theorem chainRest_spec (text : List Char) :
    (chainRest text).1 ++ (chainRest text).2 = text ∧
      ∃ name chain, (chainRest text).1 = name ++ chain ∧ (∀ c ∈ name, IsChainChar c) ∧
        IsChain chain := by
  have none : ∃ name chain : List Char, [] = name ++ chain ∧ (∀ c ∈ name, IsChainChar c) ∧
      IsChain chain := ⟨[], [], rfl, fun c hc => absurd hc List.not_mem_nil, .nil⟩
  fun_induction chainRest text with
  | case1 => exact ⟨rfl, none⟩
  | case2 c hc =>
    have hc' : ∀ d ∈ [c], IsChainChar d := fun d hd =>
      List.mem_singleton.1 hd ▸ isNestedChar_iff.1 hc
    exact ⟨rfl, [c], [], rfl, hc', .nil⟩
  | case3 c hc => exact ⟨rfl, none⟩
  | case4 c d cs hc chain rest he ih =>
    rw [he] at ih
    obtain ⟨happ, name, inner, rfl, hn, hi⟩ := ih
    refine ⟨congrArg (c :: ·) happ, c :: name, inner, rfl, ?_, hi⟩
    exact List.forall_mem_cons.2 ⟨isNestedChar_iff.1 hc, hn⟩
  | case5 c d cs hc hd chain rest he ih =>
    rw [he] at ih
    obtain ⟨happ, name, inner, rfl, hn, hi⟩ := ih
    rw [Bool.and_eq_true, decide_eq_true_eq] at hd
    obtain ⟨rfl, hd⟩ := hd
    refine ⟨congrArg ('+' :: d :: ·) happ, [], '+' :: (d :: name ++ inner), rfl,
      fun c hc => absurd hc List.not_mem_nil, .cons (List.cons_ne_nil _ _) ?_ hi⟩
    exact List.forall_mem_cons.2 ⟨isNestedChar_iff.1 hd, hn⟩
  | case6 c d cs hc hd => exact ⟨rfl, none⟩

/-- **A chain is taken off the start of a text**, and nothing of the text is lost. -/
theorem nestedChain_spec (text : List Char) :
    (nestedChain text).1 ++ (nestedChain text).2 = text ∧ IsChain (nestedChain text).1 := by
  unfold nestedChain
  split
  · rename_i c d cs
    split
    · rename_i hd
      rw [Bool.and_eq_true, decide_eq_true_eq] at hd
      obtain ⟨rfl, hd⟩ := hd
      obtain ⟨happ, name, chain, he, hn, hc⟩ := chainRest_spec cs
      rw [chainRest_plus (isNestedChar_iff.1 hd), he]
      rw [he] at happ
      exact ⟨congrArg ('+' :: d :: ·) happ, .cons (List.cons_ne_nil d name)
        (List.forall_mem_cons.2 ⟨isNestedChar_iff.1 hd, hn⟩) hc⟩
    · exact ⟨rfl, .nil⟩
  · exact ⟨rfl, .nil⟩

end Name
end TypeMismatch
