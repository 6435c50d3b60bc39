import TypeMismatch.Proofs.Name.Place
import TypeMismatch.Proofs.Name.Reader

/-!
# Where faults are placed

A fault (`ParseError`) is placed where a reader of the name would look for it (`Fault.PlacedIn`): a
reserved character is found at its place, so is the bracket whose arguments are miscounted, what is
said to trail is there, and where a bracket is missed another character stands.  In a balanced text
no bracket is reported, neither as unmatched nor as unclosed: behind an arity the bracket that is
opened is closed within the text, so that only the check of the whole name finds such faults.

A part of the reader fails in a text (`FailsIn`) if it can fail only with faults placed in it, or
over an arity in it with too many digits.  That is shown for each part where it begins with its
text; since the reader moves, it then holds of the part wherever it stands in a longer text
(`Moves.failsIn`).  Arguments are balanced, so they fail in themselves, by induction on the levels
that are left (`failsIn_readAt`).
-/

namespace TypeMismatch
namespace Name

/-- Whether a text can begin where a fault of a balanced text is placed. -/
def Reason.At (rest : List Char) : Reason → Prop
  | .unmatched | .unclosed => False
  | .empty | .emptySegment | .tooDeep _ => True
  | .reserved c => isReserved c = true ∧ rest.head? = some c
  | .noArguments => ∃ c, c ≠ '[' ∧ rest.head? = some c
  | .argumentCount _ found => found ≠ 0 → rest.head? = some '['
  | .trailing => rest ≠ []

/-- A fault of a balanced text, placed in it where its reason can be seen. -/
def Fault.PlacedIn (text : List Char) (f : Fault) : Prop :=
  ∃ before rest, text = before ++ rest ∧ f.position = before.length ∧ f.reason.At rest

/-- A failure of a balanced text: a fault that is placed in it, or more digits behind an arity mark
in it than are read as one number. -/
def Failure.PlacedIn (text : List Char) : Failure → Prop
  | .fault f => f.PlacedIn text
  | .numeralTooLong n => Text.maxDigits < n ∧ ∃ before digits rest,
      text = before ++ Signature.arityMark :: (digits ++ rest) ∧
        (∀ c ∈ digits, Text.isDigit c = true) ∧ digits.length = n

/-- A request that fails only with failures placed in a text. -/
def FailsIn {α : Type} (text : List Char) (x : Except Failure α) : Prop :=
  ∀ e, x = .error e → e.PlacedIn text

/-! ### Faults in longer texts -/

/-- The place of a fault lies within the text. -/
theorem Fault.PlacedIn.position_le {text : List Char} {f : Fault} (h : f.PlacedIn text) :
    f.position ≤ text.length := by
  obtain ⟨before, rest, rfl, hp, -⟩ := h
  rw [hp, List.length_append]
  omega

/-- A text begins as its beginning does. -/
theorem head?_append_of_head? {c : Char} {u : List Char} (h : u.head? = some c) (v : List Char) :
    (u ++ v).head? = some c := by
  rw [List.head?_append, h]
  rfl

/-- What stands at the place of a fault still does if more text follows. -/
theorem Reason.At.append {rest : List Char} {reason : Reason} (h : reason.At rest)
    (v : List Char) : reason.At (rest ++ v) := by
  cases reason with
  | unmatched => exact h
  | unclosed => exact h
  | empty => trivial
  | emptySegment => trivial
  | tooDeep limit => trivial
  | reserved c => exact ⟨h.1, head?_append_of_head? h.2 v⟩
  | noArguments =>
    obtain ⟨c, hc, hr⟩ := h
    exact ⟨c, hc, head?_append_of_head? hr v⟩
  | argumentCount declared found => exact fun hf => head?_append_of_head? (h hf) v
  | trailing => exact List.append_ne_nil_of_left_ne_nil h v

/-- A failure that is placed in a part of a text is placed in the text, behind what stands before
the part. -/
theorem Failure.PlacedIn.behind {part : List Char} {e : Failure} (h : e.PlacedIn part)
    (u v : List Char) : (e.behind u.length).PlacedIn (u ++ (part ++ v)) := by
  cases e with
  | fault f =>
    obtain ⟨before, rest, rfl, hp, hr⟩ := h
    refine ⟨u ++ before, rest ++ v, by simp only [List.append_assoc], ?_, hr.append v⟩
    rw [hp, List.length_append]
  | numeralTooLong n =>
    obtain ⟨hn, before, digits, rest, rfl, hd, hl⟩ := h
    exact ⟨hn, u ++ before, digits, rest ++ v, by simp, hd, hl⟩

/-- Where numerals fit only faults are placed. -/
theorem Failure.PlacedIn.fault {text : List Char} {e : Failure} (h : e.PlacedIn text)
    (fits : numeralsFit text = true) : ∃ f, e = .fault f ∧ f.PlacedIn text := by
  cases e with
  | fault f => exact ⟨f, rfl, h⟩
  | numeralTooLong n =>
    obtain ⟨hn, before, digits, rest, rfl, hd, rfl⟩ := h
    exact absurd (length_le_of_numeralsFit fits hd) (Nat.not_le.2 hn)

/-- What gives a result has no fault to place. -/
theorem failsIn_ok {α : Type} (text : List Char) (a : α) : FailsIn text (.ok a) :=
  fun _ h => nomatch h

/-- A fault behind some characters of a text is placed there. -/
theorem failsIn_failAt {α : Type} {text before rest : List Char} {reason : Reason}
    (ht : text = before ++ rest) (h : reason.At rest) :
    FailsIn text (failAt reason before.length : Except Failure α) := by
  intro e he
  obtain rfl := Except.error.inj he
  exact ⟨before, rest, ht, rfl, h⟩

/-- Requests one after the other place their faults if each of them does. -/
theorem FailsIn.bind {α β : Type} {text : List Char} {x : Except Failure α}
    {f : α → Except Failure β} (hx : FailsIn text x) (hf : ∀ a, x = .ok a → FailsIn text (f a)) :
    FailsIn text (x >>= f) := by
  cases x with
  | error e =>
    intro e' he
    obtain rfl := Except.error.inj he
    exact hx _ rfl
  | ok a => exact hf a rfl

/-- A result in another form has the same faults. -/
theorem FailsIn.map {α β : Type} {text : List Char} {x : Except Failure α} (hx : FailsIn text x)
    (f : α → β) : FailsIn text (x.map f) := by
  cases x with
  | error e =>
    intro e' he
    obtain rfl := Except.error.inj he
    exact hx _ rfl
  | ok a => exact failsIn_ok text (f a)

/-- **What fails in a text fails in every text around it**, if it is read where it stands. -/
theorem Moves.failsIn {α β : Type} {read : Nat → α → Except Failure β} (hm : Moves read) {x : α}
    {part : List Char} (h : FailsIn part (read 0 x)) (u v : List Char) :
    FailsIn (u ++ (part ++ v)) (read u.length x) := by
  intro e he
  rw [← Nat.add_zero u.length, hm] at he
  cases hx : read 0 x with
  | ok a =>
    rw [hx] at he
    cases he
  | error e₀ =>
    rw [hx] at he
    obtain rfl := Except.error.inj he
    exact (h _ hx).behind u v

/-- What fails at the start of a text fails in the text. -/
theorem FailsIn.append {α : Type} {part : List Char} {x : Except Failure α} (h : FailsIn part x)
    (v : List Char) : FailsIn (part ++ v) x := by
  intro e he
  have placed := (h e he).behind [] v
  cases e with
  | fault f => rwa [List.length_nil, Failure.behind, Nat.zero_add] at placed
  | numeralTooLong n => exact placed

/-- What fails at the end of a text fails in the text. -/
theorem Moves.failsIn_end {α β : Type} {read : Nat → α → Except Failure β} (hm : Moves read)
    {x : α} {part : List Char} (h : FailsIn part (read 0 x)) (u : List Char) :
    FailsIn (u ++ part) (read u.length x) := by
  have fails := hm.failsIn h u []
  rwa [List.append_nil] at fails

/-! ### Paths and ranks -/

/-- Joined parts begin with the first of them. -/
theorem exists_intercalate_cons (separator part : List Char) (parts : List (List Char)) :
    ∃ after, separator.intercalate (part :: parts) = part ++ after := by
  cases parts with
  | nil => exact ⟨[], by rw [List.intercalate_singleton, List.append_nil]⟩
  | cons next parts => exact ⟨_, by rw [List.intercalate_cons_cons, List.append_assoc]⟩

/-- The check of segments places its faults among the segments. -/
theorem failsIn_checkSegments (segments : List (List Char)) :
    FailsIn (Signature.dotted segments) (checkSegments 0 segments) := by
  induction segments with
  | nil => exact failsIn_ok _ _
  | cons segment segments ih =>
    obtain ⟨after, ha⟩ := exists_intercalate_cons ['.'] segment segments
    rw [checkSegments]
    split
    · exact failsIn_failAt (List.nil_append _).symm trivial
    · cases hd : segment.dropWhile (!isReserved ·) with
      | cons c cs =>
        have reserved : isReserved c = true := by
          have h := List.head?_dropWhile_not (!isReserved ·) segment
          rw [hd] at h
          simpa using h
        have split : Signature.dotted (segment :: segments) =
            segment.takeWhile (!isReserved ·) ++ (c :: cs ++ after) := by
          rw [Signature.dotted, ha, ← hd, ← List.append_assoc, List.takeWhile_append_dropWhile]
        dsimp only
        rw [Nat.zero_add]
        exact failsIn_failAt split ⟨reserved, rfl⟩
      | nil =>
        cases segments with
        | nil => exact failsIn_ok _ _
        | cons next segments =>
          have h := moves_checkSegments.failsIn_end ih (segment ++ ['.'])
          rw [List.length_append, List.length_singleton] at h
          dsimp only
          rw [Nat.zero_add, Signature.dotted, List.intercalate_cons_cons]
          exact h

/-- The reader of paths places its faults in the path. -/
theorem failsIn_readPath (text : List Char) : FailsIn text (readPath 0 text) := by
  have h := failsIn_checkSegments (Text.split '.' text)
  rw [Signature.dotted, Text.intercalate_split] at h
  exact h.bind fun _ _ => failsIn_ok _ _

/-- What trails stands in the text, or a rank before the text is left open. -/
theorem trailingFrom_lt {offset place : Nat} {opened : Option Nat} {text : List Char}
    (ho : ∀ start ∈ opened, start < offset) (h : trailingFrom offset opened text = some place) :
    place < offset + text.length := by
  induction text generalizing offset opened with
  | nil => exact ho place h
  | cons c cs ih =>
    have none_lt : ∀ start ∈ (none : Option Nat), start < offset + 1 := by
      rintro _ ⟨⟩
    rw [List.length_cons, Nat.add_comm cs.length, ← Nat.add_assoc]
    cases opened with
    | none =>
      rw [trailingFrom] at h
      split at h
      · refine ih (fun start hs => ?_) h
        obtain rfl := Option.some.inj hs
        omega
      · obtain rfl := Option.some.inj h
        omega
    | some start =>
      have start_lt := ho start rfl
      rw [trailingFrom] at h
      split at h
      · exact ih none_lt h
      · split at h
        · refine ih (fun s hs => ?_) h
          obtain rfl := Option.some.inj hs
          omega
        · obtain rfl := Option.some.inj h
          omega

/-- The reader of ranks places its faults in the ranks. -/
theorem failsIn_readRanks (text : List Char) : FailsIn text (readRanks 0 text) := by
  unfold readRanks
  cases h : trailingFrom 0 none text with
  | none => exact failsIn_ok _ _
  | some place =>
    have lt := trailingFrom_lt (by rintro _ ⟨⟩) h
    rw [Nat.zero_add] at lt
    have length : (text.take place).length = place := List.length_take_of_le (Nat.le_of_lt lt)
    have rest : text.drop place ≠ [] := fun he => by
      have := List.drop_eq_nil_iff.1 he
      omega
    have fails : FailsIn text
        (failAt .trailing (text.take place).length : Except Failure (List Char)) :=
      failsIn_failAt (List.take_append_drop place text).symm rest
    rwa [length] at fails

/-! ### Names without arguments -/

/-- The reader of plain names places its faults in the name. -/
theorem failsIn_readPlain (text : List Char) : FailsIn text (readPlain 0 text) := by
  have split : text.takeWhile (· != '[') ++ text.dropWhile (· != '[') = text :=
    List.takeWhile_append_dropWhile
  have path := (failsIn_readPath (text.takeWhile (· != '['))).append (text.dropWhile (· != '['))
  have ranks := moves_readRanks.failsIn_end (failsIn_readRanks (text.dropWhile (· != '[')))
    (text.takeWhile (· != '['))
  rw [split] at path ranks
  unfold readPlain
  dsimp only
  rw [Nat.zero_add]
  exact path.bind fun _ _ => ranks.bind fun _ _ => failsIn_ok _ _

/-- The bracket that a balanced text begins with is closed in it. -/
theorem exists_eq_bracket {rest : List Char} (h : Balanced ('[' :: rest)) :
    ∃ inside behind, untilClose 0 rest = some (inside, behind) ∧
      rest = inside ++ ']' :: behind ∧ Balanced inside := by
  obtain ⟨inside, behind, hu⟩ := h.exists_untilClose (u := [])
  exact ⟨inside, behind, hu, untilClose_eq_some_iff.1 hu⟩

/-- The reader of names with the arity zero places its faults behind the arity. -/
theorem failsIn_readZero {text : List Char} (h : Balanced text) (path : List (List Char)) :
    FailsIn text (readZero path 0 text) := by
  unfold readZero
  split
  · rename_i rest
    obtain ⟨inside, behind, hu, rfl, -⟩ := exists_eq_bracket h
    rw [hu]
    dsimp only
    split
    · have ranks := moves_readRanks.failsIn_end (failsIn_readRanks behind)
        ('[' :: (inside ++ [']']))
      have length : ('[' :: (inside ++ [']'])).length = 0 + inside.length + 2 := by simp
      rw [length, List.cons_append, List.append_assoc] at ranks
      exact ranks.map _
    · exact failsIn_failAt (List.nil_append _).symm fun _ => rfl
  · exact (failsIn_readRanks text).map _

/-! ### Names with arguments -/

section
variable {read : Nat → List Char → Except Failure Signature}

/-- Arguments are at fault between the commas where each of them is. -/
theorem failsIn_readAll (hm : Moves read) {parts : List (List Char)}
    (h : ∀ x ∈ parts, FailsIn x (read 0 x)) :
    FailsIn ([','].intercalate parts) (readAll read 0 parts) := by
  induction parts with
  | nil => exact failsIn_ok _ _
  | cons part parts ih =>
    rw [List.forall_mem_cons] at h
    obtain ⟨after, ha⟩ := exists_intercalate_cons [','] part parts
    have head := h.1.append after
    rw [← ha] at head
    rw [readAll]
    refine head.bind fun a _ => FailsIn.bind ?_ fun _ _ => failsIn_ok _ _
    cases parts with
    | nil => exact failsIn_ok _ _
    | cons next parts =>
      have tail := (moves_readAll hm).failsIn_end (ih h.2) (part ++ [','])
      rw [List.length_append, List.length_singleton] at tail
      rw [Nat.zero_add, List.intercalate_cons_cons]
      exact tail

/-- The arguments of a balanced bracket are tokens. -/
theorem isToken_of_mem_argumentsIn {inside x : List Char} (h : Balanced inside)
    (hx : x ∈ argumentsIn inside) : IsToken x := by
  unfold argumentsIn at hx
  split at hx
  · exact absurd hx List.not_mem_nil
  · exact isToken_of_mem_splitOwn h hx

/-- The arguments in a balanced text are balanced. -/
theorem balanced_of_mem_argumentsIn {inside x : List Char} (h : Balanced inside)
    (hx : x ∈ argumentsIn inside) : Balanced x :=
  (isToken_of_mem_argumentsIn h hx).balanced

/-- Arguments are at fault within the bracket. -/
theorem failsIn_arguments (hm : Moves read) (h : ∀ x, Balanced x → FailsIn x (read 0 x))
    {inside : List Char} (hi : Balanced inside) :
    FailsIn inside (readAll read 0 (argumentsIn inside)) := by
  by_cases hn : 0 < (argumentsIn inside).length
  · have fails := failsIn_readAll hm fun x hx => h x (balanced_of_mem_argumentsIn hi hx)
    rwa [intercalate_argumentsIn hn] at fails
  · rw [List.length_eq_zero_iff.1 (Nat.eq_zero_of_not_pos hn)]
    exact failsIn_ok _ _

/-- The reader of generic names places its faults behind the arity. -/
theorem failsIn_readGeneric (hm : Moves read) (h : ∀ x, Balanced x → FailsIn x (read 0 x))
    {text : List Char} (hb : Balanced text) (path : List (List Char)) (arity : Nat) :
    FailsIn text (readGeneric read path arity 0 text) := by
  obtain ⟨happ, hc⟩ := nestedChain_spec text
  unfold readGeneric
  generalize nestedChain text = taken at happ hc
  obtain ⟨nested, rest⟩ := taken
  dsimp only at happ hc ⊢
  rw [Nat.zero_add]
  cases rest with
  | nil => exact failsIn_failAt happ.symm fun hf => absurd rfl hf
  | cons c rest =>
    dsimp only
    split
    · rename_i hne
      exact failsIn_failAt happ.symm ⟨c, by simpa using hne, rfl⟩
    · rename_i hopen
      obtain rfl : c = '[' := by simpa using hopen
      -- The chain has no brackets, so the rest of the text is balanced without it.
      have rest_balanced : Balanced ('[' :: rest) :=
        Balanced.right (happ ▸ hb) (isToken_of_not_isMark hc.not_isMark).balanced
      obtain ⟨inside, behind, hu, rfl, hi⟩ := exists_eq_bracket rest_balanced
      rw [hu]
      dsimp only
      split
      · exact failsIn_failAt happ.symm fun _ => rfl
      · have all := (moves_readAll hm).failsIn (failsIn_arguments hm h hi) (nested ++ ['['])
          (']' :: behind)
        have ranks := moves_readRanks.failsIn_end (failsIn_readRanks behind)
          (nested ++ '[' :: (inside ++ [']']))
        have before : (nested ++ ['[']) ++ (inside ++ ']' :: behind) = text := by
          rw [← happ, List.append_assoc]
          rfl
        have after : (nested ++ '[' :: (inside ++ [']'])) ++ behind = text := by
          rw [← happ]
          simp
        have length : (nested ++ '[' :: (inside ++ [']'])).length =
            nested.length + inside.length + 2 := by
          simp only [List.length_append, List.length_cons, List.length_nil]
          omega
        rw [before, List.length_append, List.length_singleton] at all
        rw [after, length] at ranks
        exact all.bind fun _ _ => ranks.bind fun _ _ => failsIn_ok _ _

/-- The reader of names with an arity places its faults in the name. -/
theorem failsIn_readMarked (hm : Moves read) (h : ∀ x, Balanced x → FailsIn x (read 0 x))
    {m : Marked} {text : List Char} (hmark : marked? text = some m) (hb : Balanced text) :
    FailsIn text (readMarked read 0 m) := by
  obtain ⟨he, -, hd⟩ := marked?_eq_some hmark
  unfold readMarked
  split
  · rename_i long
    intro e h
    obtain rfl := Except.error.inj h
    exact ⟨long, m.before, m.digits, m.after, he, hd, rfl⟩
  · have path_fails := (failsIn_readPath m.before).append
      (Signature.arityMark :: (m.digits ++ m.after))
    rw [← he] at path_fails
    refine path_fails.bind fun path hpath => ?_
    have split_text := eq_head_append hmark
    have after_balanced : Balanced m.after := by
      obtain ⟨hp, hpe⟩ := readPath_eq_ok_iff.1 hpath
      rw [split_text, Marked.head, hpe] at hb
      exact hb.right (hp.balanced_marked hd)
    dsimp only
    rw [Nat.zero_add, ← m.length_head, split_text]
    split
    · exact (moves_readZero path).failsIn_end (failsIn_readZero after_balanced path) m.head
    · exact (moves_readGeneric hm path _).failsIn_end
        (failsIn_readGeneric hm h after_balanced path _) m.head

end

/-! ### Whole names -/

/-- A balanced text is balanced without the blanks at its ends. -/
theorem balanced_trim {text : List Char} (h : Balanced text) : Balanced (Text.trim text) := by
  have blank : ∀ {u : List Char}, (∀ c ∈ u, Text.isBlank c = true) → Balanced u := fun hu =>
    (isToken_of_not_isMark fun c hc => not_isMark_of_isBlank (hu c hc)).balanced
  obtain ⟨u, v, he, hu, hv⟩ := Text.exists_eq_trim text
  rw [he] at h
  exact (h.right (blank hu)).left (blank hv)

/-- **A balanced text fails in itself.**  At every level it can be read, or has a fault that is
placed in it, or an arity in it has too many digits. -/
theorem failsIn_readAt (limit : Limit) (levels : Nat) {text : List Char} (hb : Balanced text) :
    FailsIn text (readAt limit levels 0 text) := by
  induction levels generalizing text with
  | zero => exact failsIn_failAt (List.nil_append _).symm trivial
  | succ levels ih =>
    obtain ⟨v, he, -⟩ := Text.exists_eq_takeWhile_append text
    rw [readAt, Nat.zero_add, Nat.zero_add]
    split
    · exact failsIn_failAt (List.append_nil text).symm trivial
    · split
      · have plain := moves_readPlain.failsIn (failsIn_readPlain (Text.trim text))
          (text.takeWhile Text.isBlank) v
        rwa [← he] at plain
      · rename_i m hm
        have reads := failsIn_readMarked (moves_readAt limit levels) (fun _ hx => ih hx) hm
          (balanced_trim hb)
        have marked := (moves_readMarked (moves_readAt limit levels)).failsIn reads
          (text.takeWhile Text.isBlank) v
        rwa [← he] at marked

end Name
end TypeMismatch
