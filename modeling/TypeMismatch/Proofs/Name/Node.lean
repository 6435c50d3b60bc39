import TypeMismatch.Proofs.Name.Compound
import TypeMismatch.Proofs.Name.Render

/-!
# The nodes of a name

A text is a name with arguments in one way only (`Compound.text_injective`): its path, its arity and
its arguments can be found in it.  So a name that is read (`_parse_span`) is, without the blanks at
its ends, a name without arguments or the one `Compound` that has this text, and then its arguments
are read on their own (`exists_compound_of_readAt`, `exists_argument_of_readAt`).  That is how the
theory of a name follows its arguments down from the whole text.
-/

namespace TypeMismatch
namespace Name

/-! ### Names with arguments -/

namespace Compound
variable (c : Compound)

/-- The first arity mark of the text stands behind its own path. -/
theorem marked?_text : marked? c.text = some ⟨Signature.dotted c.path, c.digits, c.behind⟩ := by
  rw [c.text_eq]
  exact marked?_append c.isPath.arityMark_notMem c.isNumeral.ne_nil c.isNumeral.isDigit
    (c.isChain.head?_append _)

/-- Behind the arity stand the nested types up to the bracket. -/
theorem nestedChain_behind :
    nestedChain c.behind = (c.nested, '[' :: ([','].intercalate c.parts ++ ']' :: c.ranks)) :=
  nestedChain_append c.isChain _

/-- **A text has one form as a name with arguments.** -/
theorem text_injective : Function.Injective text := by
  intro c d h
  have marks := c.marked?_text
  rw [h, d.marked?_text] at marks
  obtain ⟨hp, digits, behind⟩ := Marked.mk.inj (Option.some.inj marks)
  have chains := c.nestedChain_behind
  rw [← behind, d.nestedChain_behind] at chains
  obtain ⟨nested, bracket⟩ := Prod.mk.inj chains
  have insides := c.untilClose_inside
  rw [← (List.cons.inj bracket).2, d.untilClose_inside] at insides
  obtain ⟨inside, ranks⟩ := Prod.mk.inj (Option.some.inj insides)
  have path := d.isPath.dotted_inj c.isPath hp
  have parts := c.argumentsIn_inside
  rw [← inside, d.argumentsIn_inside] at parts
  have arity := c.isNumeral.value
  rw [← digits, d.isNumeral.value] at arity
  obtain ⟨⟩ := c
  obtain ⟨⟩ := d
  dsimp only at path arity digits nested parts ranks
  subst path arity digits nested parts ranks
  rfl

/-- The text is not empty. -/
theorem text_ne_nil : c.text ≠ [] := by
  rw [c.text_eq]
  exact List.append_ne_nil_of_left_ne_nil c.isPath.dotted_ne_nil _

end Compound

/-! ### Names that were read -/

section
variable {limit : Limit} {levels offset : Nat} {text : List Char} {s : Signature}

/-- The blanks around a name that is not blank only move it. -/
theorem readAt_trim (h : Text.trim text ≠ []) :
    readAt limit (levels + 1) offset text =
      (readAt limit (levels + 1) 0 (Text.trim text)).mapError
        (Failure.behind (offset + Text.leadingBlanks text)) := by
  have again : Text.trim (Text.trim text) = Text.trim text :=
    Text.trim_eq_self Text.head?_trim Text.getLast?_trimEnd
  have filled : ¬(Text.trim text).isEmpty = true := fun he => h (List.isEmpty_iff.1 he)
  rw [readAt, readAt, again, Text.leadingBlanks_eq_zero again, if_neg filled, if_neg filled]
  split
  · exact moves_readPlain _ 0 _
  · exact moves_readMarked (moves_readAt limit levels) _ 0 _

/-- An argument that stands alone in its bracket is not blank. -/
theorem exists_not_isBlank_of_argumentsIn {inside x : List Char} (h : argumentsIn inside = [x]) :
    ∃ c ∈ x, Text.isBlank c = false := by
  have whole := intercalate_argumentsIn (by rw [h]; exact Nat.zero_lt_one)
  rw [h, List.intercalate_singleton] at whole
  by_contra hb
  refine absurd h ?_
  rw [argumentsIn_eq_nil_iff.2 fun c hc => ?_]
  · exact nofun
  · by_contra hn
    exact hb ⟨c, whole ▸ hc, Bool.eq_false_iff.2 hn⟩

/-- **A name that was read with arguments is put together from names that were read.** -/
theorem exists_compound_of_readAt (h : readAt limit (levels + 1) offset text = .ok s)
    (ha : s.arguments ≠ []) :
    ∃ c : Compound, Text.trim text = c.text ∧ c.arity = c.parts.length ∧
      c.parts.map (readAt limit levels 0) = s.arguments.map .ok ∧
      s = ⟨c.path, c.arity, s.arguments, c.ranks, c.nested⟩ := by
  rw [readAt] at h
  split at h
  · exact absurd h failAt_ne_ok
  split at h
  · obtain ⟨path, ranks, -, -, -, rfl⟩ := readPlain_eq_ok_iff.1 h
    exact absurd rfl ha
  rename_i m hm
  obtain ⟨he, hne, hd⟩ := marked?_eq_some hm
  obtain ⟨hl, path, hp, hb, h⟩ := readMarked_eq_ok_iff.1 h
  rw [hb] at he
  split at h
  · rcases readZero_eq_ok_iff.1 h with ⟨-, rfl⟩ | ⟨-, ranks, -, -, -, rfl⟩
    all_goals exact absurd rfl ha
  rename_i hz
  obtain ⟨nested, inside, ranks, arguments, after, hc, hi, hr, length, hargs, rfl⟩ :=
    readGeneric_eq_ok_iff.1 h
  have pos : 0 < (argumentsIn inside).length := by omega
  -- What the reader took apart has all that a name with arguments needs.
  let c : Compound :=
    { path := path
      arity := Text.digitsValue m.digits
      digits := m.digits
      nested := nested
      parts := argumentsIn inside
      ranks := ranks
      isPath := hp
      flush := flush_of_trim hp he
      isNumeral := ⟨hne, hd, rfl⟩
      length_digits := hl
      isChain := hc
      isRanks := hr
      parts_ne_nil := List.ne_nil_of_length_pos pos
      isToken := fun x hx => isToken_of_mem_argumentsIn hi hx
      alone := fun x hx => exists_not_isBlank_of_argumentsIn hx }
  refine ⟨c, ?_, length.symm, (readAll_eq_ok_iff (moves_readAt _ _)).1 hargs, rfl⟩
  rw [he, after, c.text_eq, Compound.behind]
  change _ = _ ++ _ :: (_ ++ (_ ++ '[' :: ([','].intercalate (argumentsIn inside) ++ _)))
  rw [intercalate_argumentsIn pos]

/-! ### Their arguments -/

variable {c : Compound}

/-- A name with arguments is read by its arguments, wherever it stands. -/
theorem readAt_of_trim_eq (ht : Text.trim text = c.text) (ha : c.arity = c.parts.length)
    (offset : Nat) :
    readAt limit (levels + 1) offset text =
      (readAll (readAt limit levels) (offset + Text.leadingBlanks text + (c.head.length + 1))
        c.parts).map fun arguments => ⟨c.path, c.arity, arguments, c.ranks, c.nested⟩ := by
  rw [readAt_trim (by rw [ht]; exact c.text_ne_nil), ht, c.readAt_of_eq limit levels ha,
    mapError_map, ← moves_readAll (moves_readAt limit levels)]

/-- Each argument of a name that was read was read. -/
theorem exists_argument_of_readAt (ht : Text.trim text = c.text) (ha : c.arity = c.parts.length)
    (h : readAt limit (levels + 1) offset text = .ok s) {x : List Char} (hx : x ∈ c.parts) :
    ∃ a ∈ s.arguments, readAt limit levels 0 x = .ok a := by
  rw [readAt_of_trim_eq ht ha] at h
  obtain ⟨arguments, hargs, rfl⟩ := ok_of_map h
  have hm : readAt limit levels 0 x ∈ arguments.map Except.ok := by
    rw [← (readAll_eq_ok_iff (moves_readAt _ _)).1 hargs]
    exact List.mem_map_of_mem hx
  obtain ⟨a, ha, hread⟩ := List.mem_map.1 hm
  exact ⟨a, ha, hread.symm⟩

end

end Name
end TypeMismatch
