import TypeMismatch.Proofs.Name.Render

/-!
# The layout of a name

A name that `parse` takes can be written with more than it says: with blanks at the ends of the name
and of its arguments, with an arity in other digits than the ASCII ones or with leading zeros, and
with an arity zero.  `tidy` takes this out of a text in two passes over its characters, and neither
of them reads the name.

The first one, `trimTokens`, finds the ends of arguments by the brackets and commas alone.  What it
leaves of a name with arguments is put together from what it leaves of them
(`trimTokens_arguments`).  The second one, `tidyMarkers`, looks at what stands behind each arity
mark, and changes nothing if and only if it is the numeral of a positive number everywhere
(`tidyMarkers_eq_self_iff`).  Neither makes a text longer, so that a text that is tidy already is
left alone by each of them (`tidy_eq_self_iff`).
-/

namespace TypeMismatch
namespace Name

/-! ### Blanks at the ends of arguments -/

/-- Whether blanks that stand between two characters stay.  Behind an opening bracket and around a
comma they are at the end of an argument, and so they are before a closing bracket; but in a bracket
that holds nothing else there is no argument. -/
def keepsBlanks : Option Char → Char → Bool
  | none, _ => false
  | some before, after =>
    before == '[' && after == ']' ||
      !(before == '[' || before == ',' || after == ',' || after == ']')

/-- A text behind a character and blanks, without the blanks at the ends of arguments. -/
def trimFrom (before : Option Char) (held : List Char) : List Char → List Char
  | [] => []
  | c :: cs =>
    if Text.isBlank c then trimFrom before (held ++ [c]) cs
    else (if keepsBlanks before c then held else []) ++ c :: trimFrom (some c) [] cs

/-- A text without the blanks at its own ends and at the ends of arguments. -/
def trimTokens (text : List Char) : List Char := trimFrom none [] text

/-! ### Arity markers -/

/-- A text without the blank bracket at its start, if there is one. -/
def withoutBlankBracket : List Char → List Char
  | [] => []
  | c :: cs =>
    if c = '[' ∧ (cs.dropWhile Text.isBlank).head? = some ']' then
      (cs.dropWhile Text.isBlank).tail
    else c :: cs

/-- An arity mark and what stands behind it, with the ASCII numeral of the arity; the arity zero
goes, and a blank bracket behind it. -/
def tidyMarker (behind : List Char) : List Char :=
  let arity := Text.digitsValue (behind.takeWhile Text.isDigit)
  let rest := behind.dropWhile Text.isDigit
  if arity = 0 then withoutBlankBracket rest
  else Signature.arityMark :: (Text.numeral arity ++ rest)

/-- A text with every arity in its ASCII numeral, without the arity zero. -/
def tidyMarkers (text : List Char) : List Char :=
  match Text.split Signature.arityMark text with
  | [] => []
  | first :: marked => first ++ marked.flatMap tidyMarker

/-- A text without blanks at the ends of arguments, with every arity in its ASCII numeral, and
without the arity zero. -/
def tidy (text : List Char) : List Char := tidyMarkers (trimTokens text)

/-! ### One character after the other -/

section
variable {before : Option Char} {held u v : List Char} {c : Char}

/-- A blank is held back until it is known what comes behind it. -/
theorem trimFrom_blank (h : Text.isBlank c = true) (cs : List Char) :
    trimFrom before held (c :: cs) = trimFrom before (held ++ [c]) cs := if_pos h

/-- In front of any other character the blanks that were held back are kept or dropped. -/
theorem trimFrom_cons (h : Text.isBlank c = false) (cs : List Char) :
    trimFrom before held (c :: cs) =
      (if keepsBlanks before c then held else []) ++ c :: trimFrom (some c) [] cs :=
  if_neg (by rw [h]; decide)

/-- Without blanks before it a character stays alone. -/
theorem trimFrom_cons_nil (h : Text.isBlank c = false) (cs : List Char) :
    trimFrom before [] (c :: cs) = c :: trimFrom (some c) [] cs := by
  rw [trimFrom_cons h, ite_self, List.nil_append]

/-- All blanks of a run are held back. -/
theorem trimFrom_blanks (hu : ∀ c ∈ u, Text.isBlank c = true) :
    trimFrom before held (u ++ v) = trimFrom before (held ++ u) v := by
  induction u generalizing held with
  | nil => rw [List.nil_append, List.append_nil]
  | cons c u ih =>
    rw [List.cons_append, trimFrom_blank (hu c List.mem_cons_self),
      ih fun d hd => hu d (List.mem_cons_of_mem _ hd), List.append_assoc, List.singleton_append]

/-- Text without blanks stays as it is. -/
theorem trimFrom_filled (hu : ∀ c ∈ u, Text.isBlank c = false) (hc : Text.isBlank c = false)
    (cs : List Char) : trimFrom before [] (u ++ c :: cs) = u ++ c :: trimFrom (some c) [] cs := by
  induction u generalizing before with
  | nil => exact trimFrom_cons_nil hc cs
  | cons d u ih =>
    rw [List.cons_append, trimFrom_cons_nil (hu d List.mem_cons_self),
      ih fun x hx => hu x (List.mem_cons_of_mem _ hx), List.cons_append]

/-- A text without blanks is left as it is. -/
theorem trimFrom_eq_self (hu : ∀ c ∈ u, Text.isBlank c = false) : trimFrom before [] u = u := by
  induction u generalizing before with
  | nil => rfl
  | cons c u ih =>
    rw [trimFrom_cons_nil (hu c List.mem_cons_self),
      ih fun d hd => hu d (List.mem_cons_of_mem _ hd)]

/-- A character that neither begins nor ends an argument. -/
def IsInner (c : Char) : Prop := c ≠ '[' ∧ c ≠ ']' ∧ c ≠ ','

/-- Blanks inside an argument stay. -/
theorem trimFrom_inner {b : Char} (hb : IsInner b) (hu : ∀ d ∈ u, IsInner d)
    (hc : Text.isBlank c = false) (hclose : c ≠ ']' ∧ c ≠ ',') (cs : List Char) :
    trimFrom (some b) held (u ++ c :: cs) = held ++ (u ++ c :: trimFrom (some c) [] cs) := by
  have stays : ∀ {b d : Char}, IsInner b → d ≠ ']' ∧ d ≠ ',' → keepsBlanks (some b) d = true := by
    intro b d hb hd
    simp [keepsBlanks, hb.1, hb.2.2, hd.1, hd.2]
  induction u generalizing b held with
  | nil => rw [List.nil_append, trimFrom_cons hc, if_pos (stays hb hclose), List.nil_append]
  | cons d u ih =>
    obtain ⟨hd, hu⟩ := List.forall_mem_cons.1 hu
    cases blank : Text.isBlank d with
    | true =>
      rw [List.cons_append, trimFrom_blank blank, ih hb hu, List.append_assoc]
      rfl
    | false =>
      rw [List.cons_append, trimFrom_cons blank, if_pos (stays hb hd.2), ih hd hu]
      rfl

/-- A text that does not begin with a blank stays as it is up to the first bracket. -/
theorem trimTokens_inner (hu : ∀ d ∈ u, IsInner d) (first : ∀ d ∈ u.head?, Text.isBlank d = false)
    (hc : Text.isBlank c = false) (hclose : c ≠ ']' ∧ c ≠ ',') (cs : List Char) :
    trimTokens (u ++ c :: cs) = u ++ c :: trimFrom (some c) [] cs := by
  cases u with
  | nil => exact trimFrom_cons_nil hc cs
  | cons d u =>
    obtain ⟨hd, hu⟩ := List.forall_mem_cons.1 hu
    rw [trimTokens, List.cons_append, trimFrom_cons_nil (first d rfl),
      trimFrom_inner hd hu hc hclose]
    rfl

/-- A text without brackets and commas stays as it is if no blank is at its ends. -/
theorem trimTokens_eq_self (hu : ∀ d ∈ u, IsInner d) (first : ∀ d ∈ u.head?, Text.isBlank d = false)
    (last : ∀ d ∈ u.getLast?, Text.isBlank d = false) : trimTokens u = u := by
  rcases List.eq_nil_or_concat u with rfl | ⟨u, c, rfl⟩
  · rfl
  · rw [List.concat_eq_append] at *
    have hc := hu c (List.mem_append_right u (List.mem_singleton_self c))
    refine trimTokens_inner (fun d hd => hu d (List.mem_append_left _ hd)) (fun d hd => first d ?_)
      (last c (List.getLast?_concat)) hc.2 []
    rw [List.head?_append, Option.mem_def.1 hd]
    rfl

/-! ### The ends of the text -/

/-- Blanks at the start go. -/
theorem trimFrom_none : trimFrom none held u = trimTokens u := by
  have any : ∀ held', trimFrom none held u = trimFrom none held' u := by
    induction u generalizing held with
    | nil => exact fun _ => rfl
    | cons c u ih =>
      intro held'
      cases blank : Text.isBlank c with
      | true => rw [trimFrom_blank blank, trimFrom_blank blank, ih]
      | false => rw [trimFrom_cons blank, trimFrom_cons blank]; rfl
  exact any []

/-- Blanks at the end go. -/
theorem trimFrom_append_blanks (hv : ∀ c ∈ v, Text.isBlank c = true) :
    trimFrom before held (u ++ v) = trimFrom before held u := by
  induction u generalizing before held with
  | nil =>
    have ends : trimFrom before held (v ++ []) = trimFrom before (held ++ v) [] :=
      trimFrom_blanks hv
    rwa [List.append_nil] at ends
  | cons c u ih =>
    rw [List.cons_append]
    cases blank : Text.isBlank c with
    | true => rw [trimFrom_blank blank, trimFrom_blank blank, ih]
    | false => rw [trimFrom_cons blank, trimFrom_cons blank, ih]

/-- Trimming the whole text before makes no difference. -/
theorem trimTokens_trim (text : List Char) : trimTokens (Text.trim text) = trimTokens text := by
  obtain ⟨u, v, he, hu, hv⟩ := Text.exists_eq_trim text
  have ends : trimTokens text = trimFrom none [] (u ++ (Text.trim text ++ v)) :=
    congrArg trimTokens he
  rw [ends, trimFrom_blanks hu, trimFrom_append_blanks hv, trimFrom_none]

/-- What is left does not begin with a blank. -/
theorem head?_trimTokens (text : List Char) :
    ∀ c ∈ (trimTokens text).head?, Text.isBlank c = false := by
  rw [trimTokens]
  generalize ([] : List Char) = held
  induction text generalizing held with
  | nil => exact nofun
  | cons c cs ih =>
    cases blank : Text.isBlank c with
    | true => rw [trimFrom_blank blank]; exact ih _
    | false =>
      rw [trimFrom_cons blank]
      rintro d hd
      obtain rfl := Option.some.inj hd
      exact blank

/-- Nor does it end with one. -/
theorem getLast?_trimFrom : ∀ c ∈ (trimFrom before held u).getLast?, Text.isBlank c = false := by
  induction u generalizing before held with
  | nil => exact nofun
  | cons c u ih =>
    cases blank : Text.isBlank c with
    | true => rw [trimFrom_blank blank]; exact ih
    | false =>
      rw [trimFrom_cons blank]
      intro d hd
      rw [List.getLast?_append, List.getLast?_cons] at hd
      cases last : (trimFrom (some c) [] u).getLast? with
      | none =>
        rw [last] at hd
        obtain rfl := Option.some.inj hd
        exact blank
      | some x =>
        rw [last] at hd
        obtain rfl := Option.some.inj hd
        exact ih x last

/-- So there is nothing more to trim at its ends. -/
theorem trim_trimTokens (text : List Char) : Text.trim (trimTokens text) = trimTokens text :=
  Text.trim_eq_self (head?_trimTokens text) getLast?_trimFrom

/-- Nothing is added. -/
theorem trimFrom_sublist : (trimFrom before held u).Sublist (held ++ u) := by
  induction u generalizing before held with
  | nil => exact List.nil_sublist _
  | cons c u ih =>
    cases blank : Text.isBlank c with
    | true =>
      rw [trimFrom_blank blank, List.append_cons held c u]
      exact ih
    | false =>
      rw [trimFrom_cons blank]
      refine List.Sublist.append ?_ (ih.cons_cons c)
      split
      · exact List.Sublist.refl held
      · exact List.nil_sublist held

/-- Characters are only left out. -/
theorem trimTokens_sublist (text : List Char) : (trimTokens text).Sublist text := trimFrom_sublist

end

/-! ### Arguments -/

/-- Blanks before a comma or a closing bracket go, but not all that stands in a bracket. -/
theorem trimFrom_closes {before : Option Char} {held rest : List Char} (hb : before ≠ some '[')
    (hr : Closes rest) : trimFrom before held rest = trimTokens rest := by
  cases rest with
  | nil => rfl
  | cons c cs =>
    have hc : c = ',' ∨ c = ']' := hr c rfl
    have filled : Text.isBlank c = false := by rcases hc with rfl | rfl <;> decide
    have ends : keepsBlanks before c = false := by
      cases before with
      | none => rfl
      | some b =>
        have hne : b ≠ '[' := fun he => hb (congrArg some he)
        rcases hc with rfl | rfl <;> simp [keepsBlanks, hne]
    rw [trimFrom_cons filled, ends, trimTokens, trimFrom_cons_nil filled]
    rfl

/-- Behind a text that closes its brackets a new argument is trimmed on its own.  The level counts
the brackets that are open, so that it is positive behind an opening one. -/
theorem trimFrom_append {level : Nat} {before : Option Char} {held x rest : List Char}
    (hx : levelBehind? level x = some 0) (hb : before = some '[' → 0 < level) (hr : Closes rest) :
    trimFrom before held (x ++ rest) = trimFrom before held x ++ trimTokens rest := by
  induction x generalizing level before held with
  | nil =>
    obtain rfl := Option.some.inj hx
    exact trimFrom_closes (fun he => absurd (hb he) (Nat.lt_irrefl 0)) hr
  | cons c x ih =>
    rw [levelBehind?_cons] at hx
    obtain ⟨next, hc, hx⟩ := Option.bind_eq_some_iff.1 hx
    rw [List.cons_append]
    cases blank : Text.isBlank c with
    | true =>
      have same := pass?_of_ne ⟨(ne_of_not_isMark (not_isMark_of_isBlank blank)).1,
        (ne_of_not_isMark (not_isMark_of_isBlank blank)).2.1⟩ level
      obtain rfl := Option.some.inj (same.symm.trans hc)
      rw [trimFrom_blank blank, trimFrom_blank blank, ih hx hb]
    | false =>
      have opened : some c = some '[' → 0 < next := by
        rintro ⟨⟩
        obtain rfl := Option.some.inj hc
        exact Nat.succ_pos level
      rw [trimFrom_cons blank, trimFrom_cons blank, ih hx opened, List.append_assoc,
        List.cons_append]

/-- **An argument is trimmed on its own** behind the bracket or the comma before it. -/
theorem trimFrom_argument {b : Char} {x rest : List Char} (hb : b = '[' ∨ b = ',')
    (hx : Balanced x) (filled : ∃ c ∈ x, Text.isBlank c = false) (hr : Closes rest) :
    trimFrom (some b) [] (x ++ rest) = trimTokens x ++ trimTokens rest := by
  obtain ⟨u, c, w, rfl, blanks, hc⟩ := Text.exists_eq_blanks_append filled
  -- A balanced text does not begin with a closing bracket.
  have unclosed : c ≠ ']' := by
    rintro rfl
    have blank := (isToken_of_not_isMark fun d hd => not_isMark_of_isBlank (blanks d hd)).balanced
    cases hx.right blank
  have goes : keepsBlanks (some b) c = false := by
    rcases hb with rfl | rfl <;> simp [keepsBlanks, unclosed]
  have start : trimFrom (some b) [] (u ++ c :: w ++ rest) = trimTokens (u ++ c :: w ++ rest) := by
    rw [List.append_assoc, trimTokens, trimFrom_blanks blanks, trimFrom_blanks blanks,
      List.cons_append, trimFrom_cons hc, trimFrom_cons hc, goes]
    rfl
  rw [start]
  exact trimFrom_append hx nofun hr

/-- Arguments between commas are trimmed one by one. -/
theorem trimFrom_arguments {b : Char} {parts : List (List Char)} {rest : List Char}
    (hb : b = '[' ∨ b = ',') (ne : parts ≠ [])
    (hparts : ∀ x ∈ parts, Balanced x ∧ ∃ c ∈ x, Text.isBlank c = false) (hr : Closes rest) :
    trimFrom (some b) [] ([','].intercalate parts ++ rest) =
      [','].intercalate (parts.map trimTokens) ++ trimTokens rest := by
  induction parts generalizing b with
  | nil => exact absurd rfl ne
  | cons x parts ih =>
    obtain ⟨⟨balanced, filled⟩, hparts⟩ := List.forall_mem_cons.1 hparts
    cases parts with
    | nil =>
      rw [List.map_cons, List.map_nil, List.intercalate_singleton, List.intercalate_singleton]
      exact trimFrom_argument hb balanced filled hr
    | cons y parts =>
      have behind := ih (.inr rfl) (List.cons_ne_nil y parts) hparts
      have comma : ∀ cs, trimTokens (',' :: cs) = ',' :: trimFrom (some ',') [] cs :=
        trimFrom_cons_nil (by decide)
      rw [List.map_cons, List.map_cons, List.intercalate_cons_cons, List.intercalate_cons_cons,
        ← List.map_cons]
      simp only [List.append_assoc, List.cons_append, List.nil_append]
      rw [trimFrom_argument hb balanced filled (closes_comma _), comma, behind]

/-- **What is left of a name with arguments** is put together from what is left of them. -/
theorem trimTokens_arguments {u ranks : List Char} {parts : List (List Char)}
    (hu : ∀ c ∈ u, IsInner c) (first : ∀ c ∈ u.head?, Text.isBlank c = false) (ne : parts ≠ [])
    (hparts : ∀ x ∈ parts, Balanced x ∧ ∃ c ∈ x, Text.isBlank c = false)
    (hr : ∀ c ∈ ranks, Text.isBlank c = false) :
    trimTokens (u ++ '[' :: ([','].intercalate parts ++ ']' :: ranks)) =
      u ++ '[' :: ([','].intercalate (parts.map trimTokens) ++ ']' :: ranks) := by
  rw [trimTokens_inner hu first (by decide) (by decide),
    trimFrom_arguments (.inl rfl) ne hparts (closes_bracket ranks), trimTokens,
    trimFrom_cons_nil (by decide), trimFrom_eq_self hr]

/-! ### Markers one by one -/

/-- What stands before the first mark of a text, and what stands between its marks. -/
theorem exists_split (text : List Char) : ∃ first marked rest,
    Text.split Signature.arityMark text = first :: marked ∧ text = first ++ rest ∧
      ∀ c ∈ rest.head?, c = Signature.arityMark := by
  obtain ⟨first, marked, hs⟩ :=
    List.exists_cons_of_ne_nil (Text.split_ne_nil Signature.arityMark text)
  have whole := Text.intercalate_split Signature.arityMark text
  rw [hs] at whole
  cases marked with
  | nil => exact ⟨first, [], [], hs, by simpa using whole.symm, nofun⟩
  | cons p ps =>
    rw [List.intercalate_cons_cons, List.append_assoc] at whole
    exact ⟨first, p :: ps, _, hs, whole.symm, fun c hc => (Option.some.inj hc).symm⟩

section
variable {u v w : List Char}

/-- A text without arity marks in front goes to the first part. -/
theorem split_append (hu : Signature.arityMark ∉ u) (v : List Char) :
    Text.split Signature.arityMark (u ++ v) =
      (Text.split Signature.arityMark v).modifyHead (u ++ ·) := by
  obtain ⟨first, marked, -, hs, -⟩ := exists_split v
  rw [hs]
  induction u with
  | nil => exact hs
  | cons c u ih =>
    rw [List.mem_cons, not_or] at hu
    rw [List.cons_append, Text.split, if_neg (Ne.symm hu.1), ih hu.2]
    rfl

/-- Text without marks stays as it is. -/
theorem tidyMarkers_append (hu : Signature.arityMark ∉ u) (v : List Char) :
    tidyMarkers (u ++ v) = u ++ tidyMarkers v := by
  obtain ⟨first, marked, -, hs, -⟩ := exists_split v
  rw [tidyMarkers, tidyMarkers, split_append hu, hs]
  exact List.append_assoc u first _

/-- A character that is no arity mark stays. -/
theorem tidyMarkers_cons {c : Char} (hc : c ≠ Signature.arityMark) (v : List Char) :
    tidyMarkers (c :: v) = c :: tidyMarkers v :=
  tidyMarkers_append (fun hm => hc (List.mem_singleton.1 hm).symm) v

/-- A marker is replaced on its own, if what replaces it does not depend on what follows. -/
theorem tidyMarkers_marker (hw : Signature.arityMark ∉ w)
    (h : ∀ p, p <+: v → tidyMarker (w ++ p) = u ++ p) :
    tidyMarkers (Signature.arityMark :: (w ++ v)) = u ++ tidyMarkers v := by
  obtain ⟨first, marked, rest, hs, hv, -⟩ := exists_split v
  rw [tidyMarkers, tidyMarkers, Text.split, if_pos rfl, split_append hw, hs]
  change [] ++ (tidyMarker (w ++ first) ++ marked.flatMap tidyMarker) = _
  rw [h first ⟨rest, hv.symm⟩, List.nil_append, List.append_assoc]

/-- A mark with digits behind it is replaced by their value. -/
theorem tidyMarker_append (hu : ∀ c ∈ u, Text.isDigit c = true)
    (hv : ∀ c ∈ v.head?, Text.isDigit c = false) :
    tidyMarker (u ++ v) =
      if Text.digitsValue u = 0 then withoutBlankBracket v
      else Signature.arityMark :: (Text.numeral (Text.digitsValue u) ++ v) := by
  rw [tidyMarker, List.takeWhile_append_of_pos hu, List.dropWhile_append_of_pos hu,
    (Text.takeWhile_stop hv).1, (Text.takeWhile_stop hv).2, List.append_nil]

end

/-! ### Texts that are tidy -/

/-- Behind each arity mark of a text stands the ASCII numeral of a positive number. -/
def IsNumbered (text : List Char) : Prop :=
  ∀ before after, text = before ++ Signature.arityMark :: after →
    ∃ n, 0 < n ∧ after.takeWhile Text.isDigit = Text.numeral n

/-- Leaving out a blank bracket makes a text no longer. -/
theorem length_withoutBlankBracket_le (text : List Char) :
    (withoutBlankBracket text).length ≤ text.length := by
  cases text with
  | nil => exact Nat.le_refl _
  | cons c cs =>
    rw [withoutBlankBracket]
    split
    · have drop := (List.dropWhile_suffix (l := cs) Text.isBlank).length_le
      rw [List.length_tail, List.length_cons]
      omega
    · exact Nat.le_refl _

/-- **A marker stays** if the numeral of a positive number stands behind the mark; else it is
replaced by something else, but by nothing longer. -/
theorem tidyMarker_eq_iff (behind : List Char) :
    (tidyMarker behind).length ≤ (Signature.arityMark :: behind).length ∧
      (tidyMarker behind = Signature.arityMark :: behind ↔
        ∃ n, 0 < n ∧ behind.takeWhile Text.isDigit = Text.numeral n) := by
  obtain ⟨digits, rest, hd, hr, rfl, htake⟩ : ∃ digits rest,
      (∀ c ∈ digits, Text.isDigit c = true) ∧ (∀ c ∈ rest.head?, Text.isDigit c = false) ∧
        behind = digits ++ rest ∧ behind.takeWhile Text.isDigit = digits := by
    exact ⟨_, _, List.all_eq_true.1 List.all_takeWhile, Text.head?_dropWhile Text.isDigit behind,
      List.takeWhile_append_dropWhile.symm, rfl⟩
  rw [htake, tidyMarker_append hd hr]
  split
  · rename_i hz
    have le := length_withoutBlankBracket_le rest
    refine ⟨by rw [List.length_cons, List.length_append]; omega, fun he => ?_, ?_⟩
    · rw [he, List.length_cons, List.length_append] at le
      omega
    · rintro ⟨n, hn, rfl⟩
      rw [Text.digitsValue_numeral] at hz
      omega
  · rename_i hz
    have ne : digits ≠ [] := by
      rintro rfl
      exact hz rfl
    have le := Text.length_numeral_digitsValue_le ne
    simp only [List.length_cons, List.length_append, List.cons.injEq, true_and,
      List.append_cancel_right_eq]
    refine ⟨by omega, fun he => ⟨_, Nat.pos_of_ne_zero hz, he.symm⟩, ?_⟩
    rintro ⟨n, -, rfl⟩
    rw [Text.digitsValue_numeral]

/-- Arities are numbered one by one. -/
theorem isNumbered_cons {c : Char} {cs : List Char} :
    IsNumbered (c :: cs) ↔
      (c = Signature.arityMark → ∃ n, 0 < n ∧ cs.takeWhile Text.isDigit = Text.numeral n) ∧
        IsNumbered cs := by
  constructor
  · exact fun h => ⟨fun hc => h [] cs (by rw [hc]; rfl), fun before after he =>
      h (c :: before) after (by rw [he]; rfl)⟩
  · rintro ⟨head, tail⟩ before after he
    cases before with
    | nil =>
      obtain ⟨hc, rfl⟩ := List.cons.inj he
      exact head hc
    | cons d before => exact tail before after (List.cons.inj he).2

/-- The numerals stand at the start of what stands between two marks. -/
theorem isNumbered_iff_split {text first : List Char} {marked : List (List Char)}
    (h : Text.split Signature.arityMark text = first :: marked) :
    IsNumbered text ↔
      ∀ p ∈ marked, ∃ n, 0 < n ∧ p.takeWhile Text.isDigit = Text.numeral n := by
  induction text generalizing first marked with
  | nil =>
    obtain ⟨-, rfl⟩ := List.cons.inj h
    refine ⟨fun _ _ hp => absurd hp List.not_mem_nil, fun _ before _ he => ?_⟩
    cases before <;> cases he
  | cons c cs ih =>
    obtain ⟨next, others, rest, hs, hcs, hrest⟩ := exists_split cs
    have digits : cs.takeWhile Text.isDigit = next.takeWhile Text.isDigit := by
      have stop : ∀ c ∈ rest.head?, Text.isDigit c = false := by
        intro c hc
        rw [hrest c hc]
        decide
      rw [hcs, List.takeWhile_append, (Text.takeWhile_stop stop).1, List.append_nil]
      split
      · rename_i hl
        exact ((List.takeWhile_prefix _).eq_of_length hl).symm
      · rfl
    rw [Text.split, hs] at h
    rw [isNumbered_cons, ih hs, digits]
    split at h
    · rename_i hc
      obtain ⟨rfl, rfl⟩ := List.cons.inj h
      rw [List.forall_mem_cons]
      exact ⟨fun h => ⟨h.1 hc, h.2⟩, fun h => ⟨fun _ => h.1, h.2⟩⟩
    · rename_i hc
      obtain ⟨rfl, rfl⟩ := List.cons.inj h
      exact ⟨And.right, fun h => ⟨fun he => absurd he hc, h⟩⟩

/-- **Markers are left alone** if and only if the numeral of a positive number stands behind each
mark. -/
theorem tidyMarkers_eq_self_iff (text : List Char) :
    (tidyMarkers text).length ≤ text.length ∧ (tidyMarkers text = text ↔ IsNumbered text) := by
  obtain ⟨first, marked, -, hs, -⟩ := exists_split text
  have whole : text = first ++ marked.flatMap (Signature.arityMark :: ·) := by
    have joined := Text.cons_intercalate Signature.arityMark (List.cons_ne_nil first marked)
    rw [← hs, Text.intercalate_split, hs] at joined
    exact (List.cons.inj joined).2
  have tidied : tidyMarkers text = first ++ marked.flatMap tidyMarker := by rw [tidyMarkers, hs]
  obtain ⟨shorter, same⟩ := Text.flatMap_eq_iff (g := (Signature.arityMark :: ·))
    fun p (_ : p ∈ marked) => (tidyMarker_eq_iff p).1
  rw [isNumbered_iff_split hs, tidied]
  constructor
  · have length := congrArg List.length whole
    rw [List.length_append] at length ⊢
    omega
  · simp only [← (tidyMarker_eq_iff _).2]
    rw [← same]
    exact ⟨fun h => List.append_cancel_left (h.trans whole), fun h => by rw [h, ← whole]⟩

/-- **What is tidy already is left alone by both passes**, and nothing else is. -/
theorem tidy_eq_self_iff (text : List Char) :
    tidy text = text ↔ trimTokens text = text ∧ IsNumbered text := by
  constructor
  · intro h
    have length : (tidy text).length ≤ (trimTokens text).length :=
      (tidyMarkers_eq_self_iff (trimTokens text)).1
    rw [h] at length
    have same : trimTokens text = text := (trimTokens_sublist text).eq_of_length_le length
    rw [tidy, same] at h
    exact ⟨same, (tidyMarkers_eq_self_iff text).2.1 h⟩
  · rintro ⟨same, numbered⟩
    rw [tidy, same]
    exact (tidyMarkers_eq_self_iff text).2.2 numbered

end Name
end TypeMismatch
