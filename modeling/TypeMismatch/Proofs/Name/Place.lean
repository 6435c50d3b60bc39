import TypeMismatch.Proofs.Name.Part

/-!
# Places count from the start

An argument is read (`_parse_span`) with its offset in the whole name, so that its faults are placed
in the whole name.  Nothing else depends on the offset: a reader moves (`Moves`) if reading a text
further behind gives the same result, and the same failure with its place so much further behind.
Every part of the reader moves, and the reader of arguments does if what it reads them with does; so
the reader of names moves, by induction on the levels that are left (`moves_readAt`).

An argument can then be read on its own, as if the text began with it (`Moves.eq_mapError`): all
arguments are read if each of them is (`readAll_eq_ok_iff`), and the first that is not gives the
failure (`readAll_append_cons`).
-/

namespace TypeMismatch
namespace Name

/-- A failure over a part of a text as one over the text, so many characters before the part. -/
def Failure.behind (offset : Nat) : Failure → Failure
  | .fault f => .fault ⟨f.reason, offset + f.position⟩
  | .numeralTooLong digits => .numeralTooLong digits

/-- A reader to which the offset of what it reads is only the start of its places. -/
def Moves {α β : Type} (read : Nat → α → Except Failure β) : Prop :=
  ∀ offset start x, read (offset + start) x = (read start x).mapError (Failure.behind offset)

/-! ### Failures that are moved -/

/-- A fault that is moved is a fault further behind. -/
theorem mapError_failAt {α : Type} (offset position : Nat) (reason : Reason) :
    (failAt reason position : Except Failure α).mapError (Failure.behind offset) =
      failAt reason (offset + position) := rfl

/-- A failure moves through a request that comes after another one. -/
theorem mapError_bind {α β : Type} (g : Failure → Failure) (x : Except Failure α)
    (f : α → Except Failure β) :
    (x >>= f).mapError g = x.mapError g >>= fun a => (f a).mapError g := by
  cases x <;> rfl

/-- A failure moves whatever form the result is put in. -/
theorem mapError_map {α β : Type} (g : Failure → Failure) (x : Except Failure α) (f : α → β) :
    (x.map f).mapError g = (x.mapError g).map f := by
  cases x <;> rfl

/-! ### Paths and ranks -/

/-- The check of segments moves. -/
theorem moves_checkSegments : Moves checkSegments := by
  intro offset start segments
  induction segments generalizing start with
  | nil => rfl
  | cons segment segments ih =>
    rw [checkSegments, checkSegments]
    split
    · rfl
    · split
      · rw [mapError_failAt, Nat.add_assoc]
      · rw [← ih, Nat.add_assoc, Nat.add_assoc, Nat.add_assoc]

/-- The reader of paths moves. -/
theorem moves_readPath : Moves readPath := by
  intro offset start text
  rw [readPath, readPath, mapError_bind, moves_checkSegments]
  rfl

/-- The place where ranks are left moves with the text. -/
theorem trailingFrom_add (offset start : Nat) (opened : Option Nat) (text : List Char) :
    trailingFrom (offset + start) (opened.map (offset + ·)) text =
      (trailingFrom start opened text).map (offset + ·) := by
  induction text generalizing start opened with
  | nil => rfl
  | cons c cs ih =>
    cases opened with
    | none =>
      have inside := ih (start + 1) (some start)
      rw [Option.map_none, trailingFrom, trailingFrom]
      split
      · exact inside
      · rfl
    | some place =>
      have outside := ih (start + 1) none
      have inside := ih (start + 1) (some place)
      rw [Option.map_some, trailingFrom, trailingFrom]
      split
      · exact outside
      · split
        · exact inside
        · rfl

/-- The reader of ranks moves. -/
theorem moves_readRanks : Moves readRanks := by
  intro offset start text
  have h := trailingFrom_add offset start none text
  rw [Option.map_none] at h
  rw [readRanks, readRanks, h]
  cases trailingFrom start none text <;> rfl

/-! ### Names without arguments -/

/-- The reader of plain names moves. -/
theorem moves_readPlain : Moves readPlain := by
  intro offset start text
  unfold readPlain
  dsimp only
  rw [mapError_bind, ← moves_readPath]
  refine bind_congr fun path => ?_
  rw [mapError_bind, ← moves_readRanks, Nat.add_assoc]
  rfl

/-- The reader of names with the arity zero moves. -/
theorem moves_readZero (path : List (List Char)) : Moves (readZero path) := by
  intro offset start text
  unfold readZero
  split
  · split
    · rfl
    · split
      · rw [mapError_map, ← moves_readRanks, Nat.add_assoc, Nat.add_assoc, Nat.add_assoc]
      · rfl
  · rw [mapError_map, ← moves_readRanks]

/-! ### Names with arguments -/

section
variable {read : Nat → List Char → Except Failure Signature}

/-- The reader of arguments moves if the reader of one does. -/
theorem moves_readAll (h : Moves read) : Moves (readAll read) := by
  intro offset start parts
  induction parts generalizing start with
  | nil => rfl
  | cons part parts ih =>
    have tail := ih (start + part.length + 1)
    rw [← Nat.add_assoc, ← Nat.add_assoc] at tail
    rw [readAll, readAll, mapError_bind, ← h]
    refine bind_congr fun a => ?_
    rw [mapError_bind, ← tail]
    rfl

/-- Arguments each with the comma behind it: what stands between the bracket and the next one. -/
def listed (parts : List (List Char)) : List Char := parts.flatMap (· ++ [','])

/-- Listed parts have a comma behind each of them. -/
theorem listed_cons (part : List Char) (parts : List (List Char)) :
    listed (part :: parts) = part ++ ',' :: listed parts := by
  simp [listed]

/-- An argument stands behind those before it, each of them with its comma. -/
theorem exists_intercalate_eq_listed (before : List (List Char)) (x : List Char)
    (after : List (List Char)) :
    ∃ rest, [','].intercalate (before ++ x :: after) = listed before ++ (x ++ rest) := by
  induction before with
  | nil =>
    cases after with
    | nil => exact ⟨[], by simp [listed]⟩
    | cons y ys =>
      rw [List.nil_append, List.intercalate_cons_cons, List.append_assoc]
      exact ⟨_, rfl⟩
  | cons part before ih =>
    obtain ⟨rest, h⟩ := ih
    refine ⟨rest, ?_⟩
    rw [List.cons_append, List.intercalate_cons_of_ne_nil (by simp), h, listed_cons]
    simp

/-- The reader of arguments is asked for each of them where it stands, and for nothing else. -/
theorem readAll_congr {read' : Nat → List Char → Except Failure Signature} {offset : Nat}
    {parts : List (List Char)}
    (h : ∀ before x after, parts = before ++ x :: after →
      read (offset + (listed before).length) x = read' (offset + (listed before).length) x) :
    readAll read offset parts = readAll read' offset parts := by
  induction parts generalizing offset with
  | nil => rfl
  | cons part parts ih =>
    have head : read offset part = read' offset part := h [] part parts rfl
    have tail : readAll read (offset + part.length + 1) parts =
        readAll read' (offset + part.length + 1) parts := ih fun before x after he => by
      have next := h (part :: before) x after (by rw [he]; rfl)
      rw [listed_cons, List.length_append, List.length_cons] at next
      have place : offset + part.length + 1 + (listed before).length =
          offset + (part.length + ((listed before).length + 1)) := by omega
      rwa [place]
    rw [readAll, readAll, head, tail]

/-- An argument is read at its offset as on its own, but for the place of its fault. -/
theorem Moves.eq_mapError (hm : Moves read) (offset : Nat) (x : List Char) :
    read offset x = (read 0 x).mapError (Failure.behind offset) := hm offset 0 x

/-- **Arguments are read if each of them is on its own**, and give what each of them gives. -/
theorem readAll_eq_ok_iff (hm : Moves read) {offset : Nat} {parts : List (List Char)}
    {as : List Signature} :
    readAll read offset parts = .ok as ↔ parts.map (read 0) = as.map .ok := by
  induction parts generalizing offset as with
  | nil =>
    refine ⟨fun h => ?_, fun h => ?_⟩
    · obtain rfl := Except.ok.inj h
      rfl
    · obtain rfl := List.map_eq_nil_iff.1 h.symm
      rfl
  | cons part parts ih =>
    rw [readAll, hm.eq_mapError offset, List.map_cons]
    cases hpart : read 0 part with
    | error e => cases as <;> exact ⟨nofun, nofun⟩
    | ok a =>
      change (readAll read (offset + part.length + 1) parts >>= fun as => .ok (a :: as)) = _ ↔ _
      cases as with
      | nil =>
        refine ⟨fun h => ?_, nofun⟩
        obtain ⟨rest, -, h⟩ := ok_of_bind h
        cases h
      | cons b bs =>
        rw [List.map_cons, List.cons.injEq, Except.ok.injEq, ← @ih (offset + part.length + 1)]
        constructor
        · intro h
          obtain ⟨rest, hrest, h⟩ := ok_of_bind h
          obtain ⟨rfl, rfl⟩ := List.cons.inj (Except.ok.inj h)
          exact ⟨rfl, hrest⟩
        · rintro ⟨rfl, h⟩
          rw [h]
          rfl

/-- **The first argument that cannot be read gives the failure**, behind its offset. -/
theorem readAll_append_cons (hm : Moves read) {offset : Nat} {before after : List (List Char)}
    {x : List Char} {e : Failure} (hb : ∀ y ∈ before, ∃ a, read 0 y = .ok a)
    (hx : read 0 x = .error e) :
    readAll read offset (before ++ x :: after) =
      .error (e.behind (offset + (listed before).length)) := by
  induction before generalizing offset with
  | nil =>
    rw [List.nil_append, readAll, hm.eq_mapError offset, hx]
    rfl
  | cons part before ih =>
    obtain ⟨⟨a, ha⟩, hb⟩ := List.forall_mem_cons.1 hb
    have place : offset + part.length + 1 + (listed before).length =
        offset + (part.length + ((listed before).length + 1)) := by omega
    rw [List.cons_append, readAll, hm.eq_mapError offset, ha]
    change (readAll read (offset + part.length + 1) _ >>= _) = _
    rw [ih hb, listed_cons, List.length_append, List.length_cons, ← place]
    rfl

/-- The reader of generic names moves if the reader of arguments does. -/
theorem moves_readGeneric (h : Moves read) (path : List (List Char)) (arity : Nat) :
    Moves (readGeneric read path arity) := by
  intro offset start text
  unfold readGeneric
  generalize nestedChain text = taken
  obtain ⟨nested, rest⟩ := taken
  dsimp only
  rw [Nat.add_assoc]
  split
  · rfl
  · split
    · rfl
    · split
      · rfl
      · split
        · rfl
        · rw [mapError_bind, ← moves_readAll h, Nat.add_assoc]
          refine bind_congr fun arguments => ?_
          rw [mapError_bind, ← moves_readRanks]
          simp only [Nat.add_assoc]
          rfl

/-- So does the reader of names with an arity. -/
theorem moves_readMarked (h : Moves read) : Moves (readMarked read) := by
  intro offset start m
  unfold readMarked
  split
  · rfl
  · rw [mapError_bind, ← moves_readPath]
    refine bind_congr fun path => ?_
    have behind : offset + start + m.before.length + 1 + m.digits.length =
        offset + (start + m.before.length + 1 + m.digits.length) := by omega
    dsimp only
    rw [behind]
    split
    · exact moves_readZero path _ _ _
    · exact moves_readGeneric h path _ _ _ _

end

/-- **The offset of a name only places its faults.** -/
theorem moves_readAt (limit : Limit) (levels : Nat) : Moves (readAt limit levels) := by
  induction levels with
  | zero => exact fun offset start text => rfl
  | succ levels ih =>
    intro offset start text
    rw [readAt, readAt, Nat.add_assoc, Nat.add_assoc]
    split
    · rfl
    · split
      · exact moves_readPlain _ _ _
      · exact moves_readMarked ih _ _ _

end Name
end TypeMismatch
