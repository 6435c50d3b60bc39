import TypeMismatch.Proofs.Name.Fault
import TypeMismatch.Proofs.Name.RoundTrip

/-!
# Reading any text is safe

Reading a text (`parse`) fails over its brackets, or, if they are balanced, over something that is
found at its place in the text (`read_error`).  The only failure without a place is an arity with
too many digits, and such an arity does fail, whatever follows it (`read_long_arity`).

The parts that are read on the way are described without following the reader: a part is visited
(`Visited`) if the outcome depends on what is read there (`Asks`).  In a balanced text only balanced
parts are visited, each where it stands in the text, so that every bracket that is opened in a part
is closed in it.
-/

namespace TypeMismatch
namespace Name

/-- Whether a request depends on what is read of a part at an offset. -/
def Asks (request : (Nat → List Char → Except Failure Signature) → Except Failure Signature)
    (offset : Nat) (part : List Char) : Prop :=
  ∃ read read', (∀ o x, (o, x) ≠ (offset, part) → read o x = read' o x) ∧
    request read ≠ request read'

/-- The parts of a text that are read as names: the text itself, and of a part with an arity
whatever reading it depends on. -/
inductive Visited (text : List Char) : Nat → List Char → Prop
  | whole : Visited text 0 text
  | argument {offset next : Nat} {part x : List Char} {m : Marked} : Visited text offset part →
      marked? (Text.trim part) = some m →
      Asks (fun read => readMarked read (offset + Text.leadingBlanks part) m) next x →
      Visited text next x

/-! ### What the reader asks for -/

/-- What decides the outcome of a request is all that it asks for. -/
theorem Asks.of_congr
    {request : (Nat → List Char → Except Failure Signature) → Except Failure Signature}
    {Q : Nat → List Char → Prop} {offset : Nat} {part : List Char} (h : Asks request offset part)
    (congr : ∀ read read', (∀ o x, Q o x → read o x = read' o x) → request read = request read') :
    Q offset part := by
  obtain ⟨read, read', same, ne⟩ := h
  by_contra hq
  refine ne (congr read read' fun o x hx => same o x fun he => hq ?_)
  obtain ⟨rfl, rfl⟩ := Prod.mk.inj he
  exact hx

section
variable {read read' : Nat → List Char → Except Failure Signature}

/-- A generic name is read alike by readers that read its balanced parts alike. -/
theorem readGeneric_congr {offset : Nat} {text : List Char}
    (h : ∀ u x v, text = u ++ (x ++ v) → Balanced x →
      read (offset + u.length) x = read' (offset + u.length) x)
    (path : List (List Char)) (arity : Nat) :
    readGeneric read path arity offset text = readGeneric read' path arity offset text := by
  unfold readGeneric
  obtain ⟨happ, -⟩ := nestedChain_spec text
  generalize nestedChain text = taken at happ
  obtain ⟨nested, rest⟩ := taken
  dsimp only at happ ⊢
  split
  · rfl
  · split
    · rfl
    · rename_i c rest hopen
      obtain rfl : c = '[' := by simpa using hopen
      split
      · rfl
      · rename_i inside behind hu
        obtain ⟨rfl, hi⟩ := untilClose_eq_some_iff.1 hu
        have arguments : readAll read (offset + nested.length + 1) (argumentsIn inside) =
            readAll read' (offset + nested.length + 1) (argumentsIn inside) := by
          refine readAll_congr fun before x after he => ?_
          have hx : x ∈ argumentsIn inside := by
            rw [he]
            exact List.mem_append_right _ List.mem_cons_self
          obtain ⟨rest, hrest⟩ := exists_intercalate_eq_listed before x after
          rw [← he, intercalate_argumentsIn (List.length_pos_of_mem hx)] at hrest
          have place : (nested ++ '[' :: listed before).length =
              nested.length + 1 + (listed before).length := by
            simp only [List.length_append, List.length_cons]
            omega
          have found := h (nested ++ '[' :: listed before) x (rest ++ ']' :: behind)
            (by rw [← happ, hrest]; simp) (balanced_of_mem_argumentsIn hi hx)
          rwa [place, ← Nat.add_assoc, ← Nat.add_assoc] at found
        rw [arguments]

/-- So is a name with an arity. -/
theorem readMarked_congr {offset : Nat} {text : List Char} {m : Marked}
    (hm : marked? text = some m)
    (h : ∀ u x v, text = u ++ (x ++ v) → Balanced x →
      read (offset + u.length) x = read' (offset + u.length) x) :
    readMarked read offset m = readMarked read' offset m := by
  unfold readMarked
  split
  · rfl
  · refine bind_congr fun path => ?_
    dsimp only
    split
    · rfl
    · refine readGeneric_congr (fun u x v hu hx => ?_) path _
      have found := h (m.head ++ u) x v (by rw [eq_head_append hm, hu, List.append_assoc]) hx
      rw [List.length_append, m.length_head] at found
      simpa only [Nat.add_assoc] using found

end

/-- **Only balanced parts are visited**, each where it stands in the text. -/
theorem Visited.balanced {text : List Char} (hb : Balanced text) {offset : Nat} {part : List Char}
    (h : Visited text offset part) :
    Balanced part ∧ ∃ u v, text = u ++ (part ++ v) ∧ offset = u.length := by
  induction h with
  | whole => exact ⟨hb, [], [], (List.append_nil text).symm, rfl⟩
  | @argument offset next part x m _ hm ha ih =>
    obtain ⟨hpart, u, v, rfl, rfl⟩ := ih
    have asked : Balanced x ∧ ∃ before after, Text.trim part = before ++ (x ++ after) ∧
        next = u.length + Text.leadingBlanks part + before.length := by
      refine ha.of_congr (Q := fun o y => Balanced y ∧ ∃ before after,
        Text.trim part = before ++ (y ++ after) ∧
          o = u.length + Text.leadingBlanks part + before.length) fun read read' same => ?_
      exact readMarked_congr hm fun before y after he hy =>
        same _ y ⟨hy, before, after, he, rfl⟩
    obtain ⟨hx, before, after, he, rfl⟩ := asked
    obtain ⟨w, hw, -⟩ := Text.exists_eq_takeWhile_append part
    rw [he] at hw
    refine ⟨hx, u ++ (part.takeWhile Text.isBlank ++ before), after ++ (w ++ v), ?_, ?_⟩
    · conv => lhs; rw [hw]
      simp
    · simp only [List.length_append, Text.leadingBlanks, Nat.add_assoc]

/-! ### The check of the whole name -/

/-- The place of a fault in the brackets of a text. -/
def Imbalance.position : Imbalance → Nat
  | unmatched position | unclosed position => position

/-- The bracket that is found at fault stands in the text. -/
theorem Diagnosed.position_lt {text : List Char} {i : Imbalance} (h : Diagnosed text (some i)) :
    i.position < text.length := by
  cases h with
  | unmatched _ | unclosed _ _ =>
    rw [Imbalance.position, List.length_append, List.length_cons]
    omega

/-- The check of a whole name passes it, or finds a fault in it. -/
theorem checkBrackets_outcome (text : List Char) :
    checkBrackets text = .ok () ∧ Balanced text ∨
      ∃ f, checkBrackets text = .error (.fault f) ∧ f.position < text.length := by
  have lt : ∀ i, imbalance? text = some i → i.position < text.length := fun i hi =>
    (hi ▸ diagnosed_imbalance? text).position_lt
  unfold checkBrackets
  cases h : imbalance? text with
  | none => exact .inl ⟨rfl, imbalance?_eq_none_iff.1 h⟩
  | some i =>
    refine .inr ?_
    cases i with
    | unmatched position => exact ⟨_, rfl, lt _ h⟩
    | unclosed position => exact ⟨_, rfl, lt _ h⟩

/-! ### Names -/

/-- Reading fails over the brackets of the text, or, if they are balanced, where the failure is
placed in it. -/
theorem read_error {limit : Limit} {text : List Char} {e : Failure}
    (h : read limit text = .error e) :
    (checkBrackets text = .error e ∧ ∃ f, e = .fault f ∧ f.position < text.length) ∨
      Balanced text ∧ e.PlacedIn text := by
  unfold read at h
  rcases checkBrackets_outcome text with ⟨hc, hb⟩ | ⟨f, hc, hf⟩
  · rw [hc] at h
    exact .inr ⟨hb, failsIn_readAt limit _ hb e h⟩
  · rw [hc] at h
    obtain rfl := Except.error.inj h
    exact .inl ⟨hc, f, rfl, hf⟩

/-- A numeral that is too long is one of the text. -/
theorem placedIn_of_numeralTooLong {limit : Limit} {text : List Char} {n : Nat}
    (h : read limit text = .error (.numeralTooLong n)) :
    (Failure.numeralTooLong n).PlacedIn text := by
  rcases read_error h with ⟨-, f, he, -⟩ | ⟨-, placed⟩
  · cases he
  · exact placed

/-- **An arity with too many digits is not read**, whatever its value is and whatever follows it in
balanced brackets. -/
theorem read_long_arity (limit : Limit) {path : List (List Char)} {digits after : List Char}
    (hp : IsPath path)
    (start : ∀ segment ∈ path.head?, ∀ c ∈ segment.head?, Text.isBlank c = false)
    (hd : ∀ c ∈ digits, Text.isDigit c = true) (long : Text.maxDigits < digits.length)
    (stop : ∀ c ∈ after.head?, Text.isDigit c = false) (hb : Balanced after)
    (finish : ∀ c ∈ (Signature.dotted path ++ Signature.arityMark :: (digits ++ after)).getLast?,
      Text.isBlank c = false) :
    read limit (Signature.dotted path ++ Signature.arityMark :: (digits ++ after)) =
      .error (.numeralTooLong digits.length) := by
  have numeral : IsNumeral (Text.digitsValue digits) digits :=
    ⟨List.ne_nil_of_length_pos (Nat.zero_lt_of_lt long), hd, rfl⟩
  have balanced := (hp.balanced_marked hd).append hb
  rw [List.append_assoc, List.cons_append] at balanced
  have trimmed := Signature.trim_dotted_append hp start finish
  rw [read, checkBrackets_eq_ok balanced]
  change readAt limit (limit.levels + 1) 0 _ = _
  rw [readAt_marked hp numeral stop trimmed, readMarked, if_pos long]

end Name
end TypeMismatch
