import TypeMismatch.Proofs.Name.Aligned
import TypeMismatch.Proofs.Name.Layout
import TypeMismatch.Proofs.Name.Node

/-!
# Only layout is lost

The full name (`render_signature`) of a signature that was read (`parse`) is the text that it was
read from, without its layout (`full_name_eq_tidy`).  So the full name is the text itself if and
only if nothing stands around any token and every arity is written as it is rendered.  Tokens are
the whole text and, in a name with arguments, the arguments at every level (`Token`).

For the first half each form of a name is trimmed and its marker replaced, by induction on how the
grammar derives the name; the induction goes through with any text behind the name that closes an
argument (`Derives.tidied`).  For the second half trimming is followed down to the tokens: a name
without arguments loses the blanks at its ends (`Derives.trimTokens_eq_trim`), and one with
arguments is put together again from what is left of them (`Compound.trimTokens_text`).
-/

namespace TypeMismatch
namespace Name

/-- The tokens of a text: the text itself and, if it is a name with arguments, the tokens of the
arguments, each with the blanks around it. -/
inductive Token : List Char → List Char → Prop
  | whole {text : List Char} : Token text text
  | argument {text x y : List Char} {c : Compound} : Text.trim text = c.text →
      c.arity = c.parts.length → x ∈ c.parts → Token x y → Token text y

/-! ### The parts of a name and their characters -/

/-- In a path every blank stands inside of a token. -/
theorem IsPath.isInner {path : List (List Char)} (h : IsPath path) :
    ∀ c ∈ Signature.dotted path, IsInner c := by
  intro c hc
  rcases h.mem_dotted hc with rfl | hm
  · exact ⟨by decide, by decide, by decide⟩
  · exact ne_of_not_isMark hm

/-- A numeral holds no arity mark. -/
theorem IsNumeral.arityMark_notMem {n : Nat} {digits : List Char} (h : IsNumeral n digits) :
    Signature.arityMark ∉ digits := fun hm =>
  not_isMark_of_isDigit (h.isDigit _ hm) (by decide)

/-- A numeral holds no blank. -/
theorem IsNumeral.not_isBlank {n : Nat} {digits : List Char} (h : IsNumeral n digits) :
    ∀ c ∈ digits, Text.isBlank c = false := fun c hc => Text.isBlank_of_isDigit (h.isDigit c hc)

/-- Ranks hold no blank. -/
theorem IsRanks.not_isBlank {ranks : List Char} (h : IsRanks ranks) :
    ∀ c ∈ ranks, Text.isBlank c = false := by
  induction h with
  | nil => exact nofun
  | @cons rank _ hr _ ih =>
    have inside : ∀ c ∈ rank, Text.isBlank c = false := by
      intro c hc
      rcases hr c hc with rfl | rfl <;> decide
    rw [List.forall_mem_cons, List.forall_mem_append, List.forall_mem_cons]
    exact ⟨by decide, inside, by decide, ih⟩

/-- Nested types hold no arity mark. -/
theorem IsChain.arityMark_notMem {chain : List Char} (h : IsChain chain) :
    Signature.arityMark ∉ chain := fun hm => h.not_isMark _ hm (by decide)

/-- What may follow a name also closes it where it is cut off. -/
theorem Closes.of_prefix {p rest : List Char} (h : Closes rest) (hp : p <+: rest) : Closes p := by
  obtain ⟨v, rfl⟩ := hp
  exact fun c hc => h c (head?_append_of_head? hc v)

/-- What closes a name does not begin with a digit. -/
theorem Closes.head?_not_isDigit {rest : List Char} (h : Closes rest) :
    ∀ c ∈ rest.head?, Text.isDigit c = false := by
  intro c hc
  rcases h c hc with rfl | rfl <;> decide

/-- Nor does it begin with a bracket that could be left out. -/
theorem withoutBlankBracket_of_closes {rest : List Char} (h : Closes rest) :
    withoutBlankBracket rest = rest := by
  cases rest with
  | nil => rfl
  | cons c rest =>
    refine if_neg fun hb => ?_
    rcases h c rfl with rfl | rfl
    all_goals exact absurd hb.1 (by decide)

/-- A blank bracket is left out. -/
theorem withoutBlankBracket_bracket {blanks rest : List Char}
    (hb : ∀ c ∈ blanks, Text.isBlank c = true) :
    withoutBlankBracket ('[' :: (blanks ++ ']' :: rest)) = rest := by
  have behind : (blanks ++ ']' :: rest).dropWhile Text.isBlank = ']' :: rest := by
    rw [List.dropWhile_append_of_pos hb]
    exact List.dropWhile_cons_of_neg (by decide)
  rw [withoutBlankBracket, behind]
  exact if_pos ⟨rfl, rfl⟩

/-! ### Each form of a name without the blanks -/

section
variable {n : Nat} {text digits nested blanks ranks : List Char} {path parts : List (List Char)}

/-- A path at the start of a trimmed text does not begin with a blank. -/
theorem start_of_trim {rest : List Char} (h : Text.trim text = Signature.dotted path ++ rest) :
    ∀ c ∈ (Signature.dotted path).head?, Text.isBlank c = false := by
  intro c hc
  refine Text.head?_trim (s := text) c ?_
  rw [h]
  exact head?_append_of_head? hc rest

/-- Of a plain name nothing but the blanks at its ends goes. -/
theorem trimTokens_plain (hp : IsPath path) (hr : IsRanks ranks)
    (h : Text.trim text = Signature.dotted path ++ ranks) :
    trimTokens text = Signature.dotted path ++ ranks := by
  have finish : ∀ c ∈ (Text.trim text).getLast?, Text.isBlank c = false := Text.getLast?_trimEnd
  rw [← trimTokens_trim, h]
  rcases hr.eq_nil_or with rfl | ⟨rest, rfl⟩
  · rw [h, List.append_nil] at finish
    rw [List.append_nil]
    exact trimTokens_eq_self hp.isInner (start_of_trim h) finish
  · rw [trimTokens_inner hp.isInner (start_of_trim h) (by decide) (by decide),
      trimFrom_eq_self (List.forall_mem_cons.1 hr.not_isBlank).2]

/-- So it is with a name of the arity zero. -/
theorem trimTokens_zero (hp : IsPath path) (hn : IsNumeral n digits)
    (h : Text.trim text = Signature.dotted path ++ Signature.arityMark :: digits) :
    trimTokens text = Signature.dotted path ++ Signature.arityMark :: digits := by
  rw [← trimTokens_trim, h, trimTokens_inner hp.isInner (start_of_trim h) (by decide) (by decide),
    trimFrom_eq_self hn.not_isBlank]

/-- And with one that has a blank bracket behind it. -/
theorem trimTokens_zeroBracket (hp : IsPath path) (hn : IsNumeral n digits)
    (hb : ∀ c ∈ blanks, Text.isBlank c = true) (hr : IsRanks ranks)
    (h : Text.trim text = Signature.dotted path ++
      Signature.arityMark :: (digits ++ '[' :: (blanks ++ ']' :: ranks))) :
    trimTokens text = Signature.dotted path ++
      Signature.arityMark :: (digits ++ '[' :: (blanks ++ ']' :: ranks)) := by
  rw [← trimTokens_trim, h, trimTokens_inner hp.isInner (start_of_trim h) (by decide) (by decide),
    trimFrom_filled hn.not_isBlank (by decide), trimFrom_blanks hb, trimFrom_cons (by decide),
    if_pos (by decide), trimFrom_eq_self hr.not_isBlank, List.nil_append]

/-- In a generic name the arguments are trimmed, and nothing else changes. -/
theorem trimTokens_generic (hp : IsPath path) (hn : IsNumeral n digits) (hc : IsChain nested)
    (hr : IsRanks ranks) (ne : parts ≠ [])
    (hparts : ∀ x ∈ parts, Balanced x ∧ ∃ c ∈ x, Text.isBlank c = false)
    (h : Text.trim text = Signature.dotted path ++ Signature.arityMark ::
      (digits ++ (nested ++ '[' :: ([','].intercalate parts ++ ']' :: ranks)))) :
    trimTokens text = Signature.dotted path ++ Signature.arityMark ::
      (digits ++ (nested ++
        '[' :: ([','].intercalate (parts.map trimTokens) ++ ']' :: ranks))) := by
  have inner : ∀ c ∈ Signature.dotted path ++ Signature.arityMark :: (digits ++ nested),
      IsInner c := by
    intro c hm
    rcases List.mem_append.1 hm with hm | hm
    · exact hp.isInner c hm
    rcases List.mem_cons.1 hm with rfl | hm
    · exact ⟨by decide, by decide, by decide⟩
    rcases List.mem_append.1 hm with hm | hm
    · exact ne_of_not_isMark (not_isMark_of_isDigit (hn.isDigit c hm))
    · exact ne_of_not_isMark (hc.not_isMark c hm)
  have start : ∀ c ∈ (Signature.dotted path ++ Signature.arityMark :: (digits ++ nested)).head?,
      Text.isBlank c = false := by
    obtain ⟨d, ds, hd⟩ := List.exists_cons_of_ne_nil hp.dotted_ne_nil
    have first := start_of_trim h
    rw [hd] at first ⊢
    exact first
  have trimmed := trimTokens_arguments inner start ne hparts hr.not_isBlank
  rw [← trimTokens_trim, h]
  simpa using trimmed

end

/-! ### The markers of what is left -/

section
variable {n : Nat} {digits blanks rest : List Char}

/-- The arity zero goes. -/
theorem tidyMarkers_zero (hn : IsNumeral 0 digits) (hr : Closes rest) :
    tidyMarkers (Signature.arityMark :: (digits ++ rest)) = tidyMarkers rest :=
  tidyMarkers_marker hn.arityMark_notMem fun p hp => by
    have closes := hr.of_prefix hp
    rw [tidyMarker_append hn.isDigit closes.head?_not_isDigit, if_pos hn.value,
      withoutBlankBracket_of_closes closes, List.nil_append]

/-- The arity zero goes with a blank bracket behind it. -/
theorem tidyMarkers_zeroBracket (hn : IsNumeral 0 digits)
    (hb : ∀ c ∈ blanks, Text.isBlank c = true) :
    tidyMarkers (Signature.arityMark :: (digits ++ '[' :: (blanks ++ ']' :: rest))) =
      tidyMarkers rest := by
  have unmarked : Signature.arityMark ∉ digits ++ '[' :: (blanks ++ [']']) := by
    have inside : Signature.arityMark ∉ blanks := fun hm =>
      not_isMark_of_isBlank (hb _ hm) (by decide)
    simp only [List.mem_append, List.mem_cons, List.not_mem_nil, or_false, not_or]
    exact ⟨hn.arityMark_notMem, by decide, inside, by decide⟩
  have tidied := tidyMarkers_marker (u := []) (v := rest) unmarked fun p _ => by
    simp only [List.append_assoc, List.cons_append, List.nil_append]
    rw [tidyMarker_append hn.isDigit (by rintro c ⟨⟩; decide), if_pos hn.value,
      withoutBlankBracket_bracket hb]
  simpa using tidied

/-- A positive arity gets its numeral. -/
theorem tidyMarkers_numeral (hn : IsNumeral n digits) (hpos : 1 ≤ n)
    (hr : ∀ c ∈ rest.head?, Text.isDigit c = false) :
    tidyMarkers (Signature.arityMark :: (digits ++ rest)) =
      Signature.arityMark :: (Text.numeral n ++ tidyMarkers rest) := by
  refine tidyMarkers_marker (u := Signature.arityMark :: Text.numeral n) hn.arityMark_notMem ?_
  rintro p ⟨v, rfl⟩
  rw [tidyMarker_append hn.isDigit fun c hc => hr c (head?_append_of_head? hc v), hn.value,
    if_neg (by omega)]
  rfl

/-- Behind a positive arity the arguments are left, with the ranks behind them. -/
theorem tidyMarkers_generic {nested inside rendered ranks : List Char} (hn : IsNumeral n digits)
    (hpos : 1 ≤ n) (hc : IsChain nested) (hr : IsRanks ranks)
    (h : tidyMarkers (inside ++ ']' :: (ranks ++ rest)) =
      rendered ++ tidyMarkers (']' :: (ranks ++ rest))) :
    tidyMarkers (Signature.arityMark ::
        (digits ++ (nested ++ '[' :: (inside ++ ']' :: (ranks ++ rest))))) =
      Signature.arityMark :: (Text.numeral n ++
        (nested ++ '[' :: (rendered ++ ']' :: (ranks ++ tidyMarkers rest)))) := by
  rw [tidyMarkers_numeral hn hpos (hc.head?_append _), tidyMarkers_append hc.arityMark_notMem,
    tidyMarkers_cons (by decide), h, tidyMarkers_cons (by decide),
    tidyMarkers_append hr.arityMark_notMem]

end

/-! ### Names without their layout -/

/-- The texts of arguments are balanced and not blank. -/
theorem DerivesAll.filled {limit : Limit} {depth : Nat} {parts : List (List Char)}
    {as : List Signature} (h : DerivesAll limit depth parts as) :
    ∀ x ∈ parts, Balanced x ∧ ∃ c ∈ x, Text.isBlank c = false := by
  induction parts generalizing as with
  | nil => exact nofun
  | cons x parts ih =>
    cases h with
    | cons hx hs =>
      have first : Balanced x ∧ ∃ c ∈ x, Text.isBlank c = false :=
        ⟨hx.isToken.balanced, Text.exists_not_isBlank hx.trim_ne_nil⟩
      exact List.forall_mem_cons.2 ⟨first, ih hs⟩

mutual

/-- **What is left of a name is its full name**, whatever closes it. -/
theorem Derives.tidied {limit : Limit} {depth : Nat} {text rest : List Char}
    {s : Signature} (hr : Closes rest) :
    Derives limit depth text s →
      tidyMarkers (trimTokens text ++ rest) = s.render ++ tidyMarkers rest
  | .plain _ hp hranks h => by
    rw [trimTokens_plain hp hranks h, List.append_assoc, tidyMarkers_append hp.arityMark_notMem,
      tidyMarkers_append hranks.arityMark_notMem, Signature.render_plain, List.append_assoc]
  | .zero _ hp hn h => by
    rw [trimTokens_zero hp hn h, List.append_assoc, List.cons_append,
      tidyMarkers_append hp.arityMark_notMem, tidyMarkers_zero hn hr, Signature.render_plain,
      List.append_nil]
  | .zeroBracket _ hp hn hb hranks h => by
    rw [trimTokens_zeroBracket hp hn hb hranks h, Signature.render_plain]
    simp only [List.append_assoc, List.cons_append]
    rw [tidyMarkers_append hp.arityMark_notMem, tidyMarkers_zeroBracket hn hb,
      tidyMarkers_append hranks.arityMark_notMem]
  | @Derives.generic _ _ _ path n digits nested parts arguments ranks _ hp hpos hn hc hl hranks h
      hargs => by
    have ne : parts ≠ [] := List.ne_nil_of_length_pos (by omega)
    obtain ⟨a, as, rfl⟩ : ∃ a as, arguments = a :: as :=
      List.exists_cons_of_ne_nil (List.ne_nil_of_length_pos (by rw [← hargs.length_eq]; omega))
    obtain rfl : n = as.length + 1 := by rw [← hl, hargs.length_eq, List.length_cons]
    have inside := hargs.tidied (closes_bracket (ranks ++ rest))
    rw [trimTokens_generic hp hn hc hranks ne hargs.filled h, Signature.render_generic]
    simp only [List.append_assoc, List.cons_append]
    rw [tidyMarkers_append hp.arityMark_notMem, tidyMarkers_generic hn hpos hc hranks inside]

/-- Arguments that were trimmed and numbered are full names. -/
theorem DerivesAll.tidied {limit : Limit} {depth : Nat} {parts : List (List Char)}
    {as : List Signature} {rest : List Char} (hr : Closes rest) :
    DerivesAll limit depth parts as →
      tidyMarkers ([','].intercalate (parts.map trimTokens) ++ rest) =
        [','].intercalate (as.map Signature.render) ++ tidyMarkers rest
  | .nil => rfl
  | .cons h .nil => by
    simpa using h.tidied hr
  | .cons h (.cons h' hs) => by
    have tail := (DerivesAll.cons h' hs).tidied hr
    simp only [List.map_cons, List.intercalate_cons_cons, List.append_assoc,
      List.cons_append, List.nil_append] at tail ⊢
    rw [h.tidied (closes_comma _), tidyMarkers_cons (by decide), tail]

end

/-! ### Tokens without blanks around them -/

/-- Of a name in normal form only the arguments are trimmed. -/
theorem Compound.trimTokens_text (c : Compound)
    (filled : ∀ x ∈ c.parts, ∃ d ∈ x, Text.isBlank d = false) :
    trimTokens c.text =
      c.head ++ '[' :: ([','].intercalate (c.parts.map trimTokens) ++ ']' :: c.ranks) := by
  have trimmed := c.trim_text
  rw [c.text_eq] at trimmed
  rw [c.text_eq, trimTokens_generic c.isPath c.isNumeral c.isChain c.isRanks c.parts_ne_nil
    (fun x hx => ⟨(c.isToken x hx).balanced, filled x hx⟩) trimmed]
  simp [head]

/-- Trimming leaves a name with arguments as it is if and only if it does so with them. -/
theorem Compound.trimTokens_text_eq_iff (c : Compound)
    (filled : ∀ x ∈ c.parts, ∃ d ∈ x, Text.isBlank d = false) :
    trimTokens c.text = c.text ↔ ∀ x ∈ c.parts, trimTokens x = x := by
  rw [c.trimTokens_text filled, Compound.text, List.append_cancel_left_eq, List.cons_inj_right,
    List.append_cancel_right_eq,
    Text.intercalate_map_eq_iff ',' fun x _ => (trimTokens_sublist x).length_le]

/-- A name without arguments is trimmed at its ends only. -/
theorem Derives.trimTokens_eq_trim {limit : Limit} {depth : Nat} {text : List Char}
    {s : Signature} (h : Derives limit depth text s) (hs : s.arguments = []) :
    trimTokens text = Text.trim text := by
  cases h with
  | plain _ hp hr he => rw [trimTokens_plain hp hr he, he]
  | zero _ hp hn he => rw [trimTokens_zero hp hn he, he]
  | zeroBracket _ hp hn hb hr he => rw [trimTokens_zeroBracket hp hn hb hr he, he]
  | generic _ _ hpos _ _ hl _ _ hargs =>
    obtain rfl := hs
    have := hargs.length_eq
    rw [List.length_nil] at this
    omega

section
variable {limit : Limit} {levels depth offset : Nat} {text : List Char} {s : Signature}

/-- A name that was read is not blank. -/
theorem exists_not_isBlank_of_readAt (hd : levels + depth = limit.levels + 1)
    (h : readAt limit levels offset text = .ok s) : ∃ c ∈ text, Text.isBlank c = false :=
  Text.exists_not_isBlank (derives_of_readAt hd h).trim_ne_nil

/-- A name with arguments that was read is left as it is by trimming if and only if it has no blanks
at its ends and each of its arguments is left as it is. -/
theorem trimTokens_eq_self_iff_of_trim {c : Compound} (hd : levels + 1 + depth = limit.levels + 1)
    (h : readAt limit (levels + 1) offset text = .ok s) (ht : Text.trim text = c.text)
    (ha : c.arity = c.parts.length) :
    trimTokens text = text ↔ Text.trim text = text ∧ ∀ x ∈ c.parts, trimTokens x = x := by
  have deeper : levels + (depth + 1) = limit.levels + 1 := by omega
  have filled : ∀ x ∈ c.parts, ∃ d ∈ x, Text.isBlank d = false := by
    intro x hx
    obtain ⟨a, -, hread⟩ := exists_argument_of_readAt ht ha h hx
    exact exists_not_isBlank_of_readAt deeper hread
  rw [← c.trimTokens_text_eq_iff filled, ← ht, trimTokens_trim]
  constructor
  · intro same
    have trimmed : Text.trim text = text := by rw [← same, trim_trimTokens]
    exact ⟨trimmed, by rw [same, trimmed]⟩
  · rintro ⟨trimmed, same⟩
    rw [same, trimmed]

/-- No token of a name that trimming leaves as it is has blanks at its ends. -/
theorem Token.trim_eq {x : List Char} (hx : Token text x) (hd : levels + depth = limit.levels + 1)
    (h : readAt limit levels offset text = .ok s) (same : trimTokens text = text) :
    Text.trim x = x := by
  induction hx generalizing levels depth offset s with
  | whole => rw [← same, trim_trimTokens]
  | @argument text x y c ht ha hx _ ih =>
    cases levels with
    | zero => exact absurd h failAt_ne_ok
    | succ levels =>
      have deeper : levels + (depth + 1) = limit.levels + 1 := by omega
      obtain ⟨a, -, hread⟩ := exists_argument_of_readAt ht ha h hx
      exact ih deeper hread (((trimTokens_eq_self_iff_of_trim hd h ht ha).1 same).2 x hx)

/-- **A name is left as it is by trimming** if and only if each of its tokens is. -/
theorem trimTokens_eq_self_iff (hd : levels + depth = limit.levels + 1)
    (h : readAt limit levels offset text = .ok s) :
    trimTokens text = text ↔ ∀ x, Token text x → Text.trim x = x := by
  refine ⟨fun same x hx => hx.trim_eq hd h same, fun tokens => ?_⟩
  have trimmed := tokens text .whole
  induction levels generalizing depth offset text s with
  | zero => exact absurd h failAt_ne_ok
  | succ levels ih =>
    by_cases hs : s.arguments = []
    · rw [(derives_of_readAt hd h).trimTokens_eq_trim hs, trimmed]
    · obtain ⟨c, ht, ha, -, -⟩ := exists_compound_of_readAt h hs
      refine (trimTokens_eq_self_iff_of_trim hd h ht ha).2 ⟨trimmed, fun x hx => ?_⟩
      have deeper : levels + (depth + 1) = limit.levels + 1 := by omega
      have inside : ∀ y, Token x y → Text.trim y = y := fun y hy =>
        tokens y (.argument ht ha hx hy)
      obtain ⟨a, -, hread⟩ := exists_argument_of_readAt ht ha h hx
      exact ih deeper hread inside (inside x .whole)

end

/-! ### The full name of a name that was read -/

/-- **Only layout is lost.**  A signature that was read has the full name that is left of its text
when the blanks around tokens go, every positive arity gets its ASCII numeral, and the arity zero
goes with a blank bracket behind it.  So the full name is the text itself if and only if no token
has blanks around it and the numeral of a positive number stands behind every arity mark. -/
theorem full_name_eq_tidy {limit : Limit} {text : List Char} {s : Signature}
    (h : read limit text = .ok s) :
    s.text? = some (tidy text) ∧
      (s.text? = some text ↔ (∀ x, Token text x → Text.trim x = x) ∧ IsNumbered text) := by
  have named := Signature.text?_eq (writable_of_read h)
  have renders : tidyMarkers (trimTokens text ++ []) = s.render ++ [] :=
    (derives_of_read h).tidied closes_nil
  rw [List.append_nil, List.append_nil] at renders
  obtain ⟨⟨⟩, -, hat⟩ := ok_of_bind h
  rw [named, ← renders]
  refine ⟨rfl, ?_⟩
  have whole : limit.levels + 1 + 0 = limit.levels + 1 := rfl
  rw [Option.some_inj, ← trimTokens_eq_self_iff whole hat]
  exact tidy_eq_self_iff text

/-- A name with blanks around its tokens, at two levels, and inside of them, an arity with a leading
zero that is no ASCII digit, and an arity zero with a blank bracket and ranks behind it. -/
def loose : List Char := " N.A B`\u06602+F[ C`1[ X ] , D E`00[ ][,] ][] ".toList

/-- What is read of it. -/
def looseSignature : Signature :=
  ⟨["N".toList, "A B".toList], 2, [⟨["C".toList], 1, [.plain ["X".toList] []], [], []⟩,
    .plain ["D E".toList] "[,]".toList], "[]".toList, "+F".toList⟩

/-- The hypothesis is satisfiable.  Of this text only the layout is lost, but the layout is lost. -/
theorem full_name_eq_tidy_loose :
    read .standard loose = .ok looseSignature ∧
      looseSignature.text? = some (tidy loose) ∧
      tidy loose = "N.A B`2+F[C`1[X],D E[,]][]".toList ∧
      ¬((∀ x, Token loose x → Text.trim x = x) ∧ IsNumbered loose) := by
  have hread : read .standard loose = .ok looseSignature := rfl
  obtain ⟨named, same⟩ := full_name_eq_tidy hread
  refine ⟨hread, named, by decide, fun h => ?_⟩
  have kept := same.2 h
  rw [named] at kept
  exact absurd (Option.some.inj kept) (by decide)

end Name
end TypeMismatch
