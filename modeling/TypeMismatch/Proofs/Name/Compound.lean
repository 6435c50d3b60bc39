import TypeMismatch.Proofs.Name.Fault
import TypeMismatch.Proofs.Name.RoundTrip

/-!
# Names part by part

A name with arguments is put together from a path, an arity, a chain of nested types, the arguments
in their bracket, and ranks (`Compound`).  Such a name is read part by part by `_parse_span`
(`read_compound`).  If the arity is not the number of arguments the bracket is at fault, whatever
the arguments are.  Else the name is read if and only if every argument is read on its own, one
level deep, and then it has what was read of them, in their order; and if not, the first argument
that cannot be read is at fault in the whole name as it is on its own, at its offset.
-/

namespace TypeMismatch
namespace Name

/-- The parts of a name with arguments, as they stand in it.  The arguments are tokens, at least
one; one that stands alone is not blank, since a blank bracket has no arguments.  Whether the arity
is their number, and whether they are names, is left open. -/
structure Compound where
  path : List (List Char)
  arity : Nat
  digits : List Char
  nested : List Char
  parts : List (List Char)
  ranks : List Char
  isPath : IsPath path
  flush : ∀ segment ∈ path.head?, ∀ c ∈ segment.head?, Text.isBlank c = false
  isNumeral : IsNumeral arity digits
  length_digits : digits.length ≤ Text.maxDigits
  isChain : IsChain nested
  isRanks : IsRanks ranks
  parts_ne_nil : parts ≠ []
  isToken : ∀ x ∈ parts, IsToken x
  alone : ∀ x, parts = [x] → ∃ c ∈ x, Text.isBlank c = false

/-- An argument read on its own, as it is read in a name: one level deep. -/
def readArgument (limit : Limit) (text : List Char) : Except Failure Signature :=
  readAt limit limit.levels 0 text

namespace Compound

/-- What stands before the bracket of the arguments. -/
def head (c : Compound) : List Char :=
  Signature.dotted c.path ++ Signature.arityMark :: (c.digits ++ c.nested)

/-- The name in writing. -/
def text (c : Compound) : List Char :=
  c.head ++ '[' :: ([','].intercalate c.parts ++ ']' :: c.ranks)

/-- The place behind the digits of the arity. -/
def place (c : Compound) : Nat := (Signature.dotted c.path).length + 1 + c.digits.length

/-- The place of an argument in the name, behind the bracket and the arguments before it. -/
def offset (c : Compound) (before : List (List Char)) : Nat :=
  c.head.length + 1 + (listed before).length

variable (c : Compound)

/-- What stands behind the digits of the arity. -/
def behind : List Char := c.nested ++ '[' :: ([','].intercalate c.parts ++ ']' :: c.ranks)

/-- The text begins with the path, the mark and the digits. -/
theorem text_eq : c.text =
    Signature.dotted c.path ++ Signature.arityMark :: (c.digits ++ c.behind) := by
  simp [text, head, behind]

/-- In front of the bracket stand the path, the arity and the nested types. -/
theorem length_head : c.head.length = c.place + c.nested.length := by
  simp only [head, place, List.length_append, List.length_cons]
  omega

/-- An argument stands at its offset. -/
theorem exists_text_eq {before : List (List Char)} {x : List Char} {after : List (List Char)}
    (h : c.parts = before ++ x :: after) :
    ∃ u v, c.text = u ++ (x ++ v) ∧ c.offset before = u.length := by
  obtain ⟨rest, hr⟩ := exists_intercalate_eq_listed before x after
  refine ⟨c.head ++ '[' :: listed before, rest ++ ']' :: c.ranks, ?_, ?_⟩
  · rw [text, h, hr]
    simp
  · rw [offset, List.length_append, List.length_cons]
    omega

/-! ### The text of a name -/

/-- What stands in the bracket is balanced. -/
theorem inside_balanced : Balanced ([','].intercalate c.parts) :=
  balanced_intercalate fun x hx => (c.isToken x hx).balanced

/-- The text is balanced. -/
theorem text_balanced : Balanced c.text := by
  have marked := c.isPath.balanced_marked c.isNumeral.isDigit
  have chain := (isToken_of_not_isMark c.isChain.not_isMark).balanced
  have rest := c.inside_balanced.bracket c.isRanks.isToken.balanced
  have all := (marked.append chain).append rest
  rwa [List.append_assoc _ _ c.nested] at all

/-- The text neither begins nor ends with a blank. -/
theorem trim_text : Text.trim c.text = c.text := by
  have finish := Signature.finish_of_ranks c.isRanks (c.head ++ '[' :: [','].intercalate c.parts)
  rw [text_eq]
  refine Signature.trim_dotted_append c.isPath c.flush fun d hd => finish d ?_
  rw [← text_eq, text] at hd
  simpa using hd

/-- The bracket is closed behind the parts. -/
theorem untilClose_inside :
    untilClose 0 ([','].intercalate c.parts ++ ']' :: c.ranks) =
      some ([','].intercalate c.parts, c.ranks) :=
  untilClose_eq_some_iff.2 ⟨rfl, c.inside_balanced⟩

/-- The parts are the arguments in the bracket. -/
theorem argumentsIn_inside : argumentsIn ([','].intercalate c.parts) = c.parts :=
  argumentsIn_tokens c.parts_ne_nil c.isToken c.alone

/-! ### Reading it -/

/-- The name is read at its own arity mark, whatever marks its arguments have. -/
theorem readAt_text_eq (limit : Limit) (levels : Nat) :
    readAt limit (levels + 1) 0 c.text =
      if c.arity = 0 then readZero c.path c.place c.behind
      else readGeneric (readAt limit levels) c.path c.arity c.place c.behind := by
  have trimmed : Text.trim c.text =
      Signature.dotted c.path ++ Signature.arityMark :: (c.digits ++ c.behind) := by
    rw [trim_text, text_eq]
  have path_ok : readPath 0 (Signature.dotted c.path) = .ok c.path :=
    readPath_eq_ok_iff.2 ⟨c.isPath, rfl⟩
  rw [readAt_marked c.isPath c.isNumeral (c.isChain.head?_append _) trimmed,
    Text.leadingBlanks_eq_zero c.trim_text, readMarked, if_neg (Nat.not_lt.2 c.length_digits),
    path_ok]
  change (if _ then readZero _ (0 + _ + 1 + _) _ else readGeneric _ _ _ (0 + _ + 1 + _) _) = _
  rw [c.isNumeral.value, Nat.zero_add]
  rfl

/-- The check of brackets passes, so that the text is read at depth zero. -/
theorem read_text_eq (limit : Limit) :
    read limit c.text = readAt limit (limit.levels + 1) 0 c.text := by
  rw [read, checkBrackets_eq_ok c.text_balanced]
  rfl

/-- Behind the arity zero the bracket must not have arguments. -/
theorem readZero_behind (h : c.nested = []) (place : Nat) :
    readZero c.path place c.behind = failAt (.argumentCount 0 c.parts.length) place := by
  have filled : ¬(argumentsIn ([','].intercalate c.parts)).isEmpty = true := by
    rw [c.argumentsIn_inside, List.isEmpty_iff]
    exact c.parts_ne_nil
  rw [behind, h, List.nil_append, readZero, c.untilClose_inside]
  dsimp only
  rw [if_neg filled, c.argumentsIn_inside]

/-- Behind a positive arity its arguments are counted, and then read one by one. -/
theorem readGeneric_behind (read : Nat → List Char → Except Failure Signature) (place : Nat) :
    readGeneric read c.path c.arity place c.behind =
      if c.arity = c.parts.length then
        (readAll read (place + c.nested.length + 1) c.parts).map fun arguments =>
          ⟨c.path, c.arity, arguments, c.ranks, c.nested⟩
      else failAt (.argumentCount c.arity c.parts.length) (place + c.nested.length) := by
  have ranks_ok : ∀ offset, readRanks offset c.ranks = .ok c.ranks := fun offset =>
    readRanks_eq_ok_iff.2 ⟨c.isRanks, rfl⟩
  unfold readGeneric
  simp only [behind, nestedChain_append c.isChain, c.untilClose_inside, c.argumentsIn_inside,
    bne_self_eq_false, Bool.false_eq_true, if_false, bne_iff_ne, ne_eq, ranks_ok,
    eq_comm (a := c.arity)]
  by_cases h : c.parts.length = c.arity
  · rw [if_neg (not_not_intro h), if_pos h]
    cases readAll read (place + c.nested.length + 1) c.parts <;> rfl
  · rw [if_pos h, if_neg h]

/-- An arity that is not the number of parts is at fault in front of the bracket. -/
theorem read_of_ne (limit : Limit)
    (h : 1 ≤ c.arity ∧ c.arity ≠ c.parts.length ∨ c.arity = 0 ∧ c.nested = []) :
    read limit c.text = failAt (.argumentCount c.arity c.parts.length) c.head.length := by
  rw [read_text_eq, readAt_text_eq, length_head]
  rcases h with ⟨hpos, hne⟩ | ⟨hz, hn⟩
  · rw [if_neg (Nat.ne_of_gt hpos), readGeneric_behind, if_neg hne]
  · rw [if_pos hz, readZero_behind c hn, hz, hn]
    rfl

/-- With so many arguments as the arity says, the arguments decide. -/
theorem readAt_of_eq (limit : Limit) (levels : Nat) (h : c.arity = c.parts.length) :
    readAt limit (levels + 1) 0 c.text =
      (readAll (readAt limit levels) (c.head.length + 1) c.parts).map fun arguments =>
        ⟨c.path, c.arity, arguments, c.ranks, c.nested⟩ := by
  have pos : c.arity ≠ 0 := by
    rw [h, Ne, List.length_eq_zero_iff]
    exact c.parts_ne_nil
  rw [readAt_text_eq, if_neg pos, readGeneric_behind, if_pos h, length_head]

/-- If the arity is the number of parts, the parts are read, each with its offset. -/
theorem read_of_eq (limit : Limit) (h : c.arity = c.parts.length) :
    read limit c.text =
      (readAll (readAt limit limit.levels) (c.head.length + 1) c.parts).map fun arguments =>
        ⟨c.path, c.arity, arguments, c.ranks, c.nested⟩ :=
  (c.read_text_eq limit).trans (c.readAt_of_eq limit limit.levels h)

end Compound

/-- **A name is read part by part.**  If the arity differs from the number of arguments, the bracket
is at fault; so it is behind the arity zero, if no nested types stand before it.  If the arity is
that number, the name is read if and only if every argument is on its own, and has them in order;
else the first argument that cannot be read is at fault as it is on its own, and its place counts
from where it stands in the name. -/
theorem read_compound (limit : Limit) (c : Compound) :
    ((1 ≤ c.arity ∧ c.arity ≠ c.parts.length ∨ c.arity = 0 ∧ c.nested = []) →
      read limit c.text = failAt (.argumentCount c.arity c.parts.length) c.head.length) ∧
    (c.arity = c.parts.length →
      ((∃ s, read limit c.text = .ok s) ↔ ∀ x ∈ c.parts, ∃ a, readArgument limit x = .ok a) ∧
      (∀ arguments, c.parts.map (readArgument limit) = arguments.map .ok →
        read limit c.text = .ok ⟨c.path, c.arity, arguments, c.ranks, c.nested⟩) ∧
      ∀ before x after, c.parts = before ++ x :: after → numeralsFit x = true →
        (∀ y ∈ before, ∃ a, readArgument limit y = .ok a) →
        (¬∃ a, readArgument limit x = .ok a) →
        (∃ u v, c.text = u ++ (x ++ v) ∧ c.offset before = u.length) ∧
          ∃ f, readArgument limit x = .error (.fault f) ∧
            read limit c.text = failAt f.reason (c.offset before + f.position)) := by
  have moves := moves_readAt limit limit.levels
  refine ⟨c.read_of_ne limit, fun h => ?_⟩
  rw [c.read_of_eq limit h]
  refine ⟨⟨?_, fun hall => ?_⟩, fun arguments harguments => ?_, ?_⟩
  · rintro ⟨s, hs⟩ x hx
    obtain ⟨arguments, hread, -⟩ := ok_of_map hs
    have hmap := (readAll_eq_ok_iff moves).1 hread
    have hmem : readArgument limit x ∈ arguments.map Except.ok := by
      rw [← hmap]
      exact List.mem_map_of_mem hx
    obtain ⟨a, -, ha⟩ := List.mem_map.1 hmem
    exact ⟨a, ha.symm⟩
  · obtain ⟨arguments, harguments⟩ := exists_map_eq_ok hall
    rw [(readAll_eq_ok_iff moves).2 harguments]
    exact ⟨_, rfl⟩
  · rw [(readAll_eq_ok_iff moves).2 harguments]
    rfl
  · intro before x after he fits hbefore hx
    refine ⟨c.exists_text_eq he, ?_⟩
    -- An argument is balanced, so that it fails over what is in it.
    have token := c.isToken x (by rw [he]; exact List.mem_append_right _ List.mem_cons_self)
    cases hr : readArgument limit x with
    | ok a => exact absurd ⟨a, hr⟩ hx
    | error e =>
      obtain ⟨f, rfl, -⟩ := (failsIn_readAt limit _ token.balanced e hr).fault fits
      refine ⟨f, rfl, ?_⟩
      rw [he, readAll_append_cons moves hbefore hr]
      rfl

/-- The parts of a name of which the second argument is at fault. -/
def Compound.second : Compound where
  path := ["N".toList, "A".toList]
  arity := 2
  digits := "02".toList
  nested := []
  parts := ["B".toList, " C`2[D]".toList]
  ranks := "[]".toList
  isPath := by decide
  flush := by rintro _ ⟨⟩ _ ⟨⟩; decide
  isNumeral :=
    ⟨by decide, List.forall_mem_cons.2 ⟨rfl, List.forall_mem_singleton.2 rfl⟩, by decide⟩
  length_digits := by decide
  isChain := .nil
  isRanks := .cons (fun _ hc => absurd hc List.not_mem_nil) .nil
  parts_ne_nil := List.cons_ne_nil _ _
  isToken := List.forall_mem_cons.2 ⟨⟨by decide, by decide⟩,
    List.forall_mem_singleton.2 ⟨by decide, by decide⟩⟩
  alone := by rintro x ⟨⟩

/-- It is at fault behind the offset of that argument, as the argument is on its own. -/
theorem read_compound_second :
    Compound.second.text = "N.A`02[B, C`2[D]][]".toList ∧
      ∃ f, readArgument .standard " C`2[D]".toList = .error (.fault f) ∧
        read .standard "N.A`02[B, C`2[D]][]".toList = failAt f.reason (9 + f.position) := by
  have reads := ((read_compound .standard Compound.second).2 rfl).2.2 ["B".toList]
    " C`2[D]".toList [] rfl (by decide) ?_ ?_
  · exact ⟨rfl, reads.2⟩
  · exact List.forall_mem_singleton.2 ⟨_, rfl⟩
  · rintro ⟨a, ⟨⟩⟩

end Name
end TypeMismatch
