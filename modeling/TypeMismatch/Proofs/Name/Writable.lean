import TypeMismatch.Proofs.Name.Place
import TypeMismatch.Proofs.Name.Reader
import TypeMismatch.Proofs.Name.Signature

/-!
# What was read can be written

Whatever the reader (`TypeNameParser.parse`) gives is formed, since it is derived, and every arity
in it was read from so many digits as can be written (`digits_of_readAt`): its numeral is no longer
than the digits it was read from.  So a signature that was read has a full name, and no request for
it fails.
-/

namespace TypeMismatch
namespace Name

/-- Arguments that are read are read from their parts. -/
theorem exists_of_mem_readAll {read : Nat → List Char → Except Failure Signature}
    (hm : Moves read) {offset : Nat} {parts : List (List Char)} {as : List Signature}
    (h : readAll read offset parts = .ok as) {a : Signature} (ha : a ∈ as) :
    ∃ x ∈ parts, read 0 x = .ok a := by
  have hmem : Except.ok a ∈ parts.map (read 0) := by
    rw [(readAll_eq_ok_iff hm).1 h]
    exact List.mem_map_of_mem ha
  exact List.mem_map.1 hmem

/-- **An arity that is read is written with no more digits** than are read as one number. -/
theorem digits_of_readAt {limit : Limit} {levels offset : Nat} {text : List Char} {s : Signature}
    (h : readAt limit levels offset text = .ok s) :
    s.Every fun t => (Text.intNumeral t.arity).length ≤ Text.maxDigits := by
  have plain : ∀ path ranks, (Signature.plain path ranks).Every fun t =>
      (Text.intNumeral t.arity).length ≤ Text.maxDigits := fun path ranks =>
    .node (show (Text.intNumeral 0).length ≤ Text.maxDigits by decide) fun _ ha =>
      absurd ha List.not_mem_nil
  induction levels generalizing offset text s with
  | zero => exact absurd h failAt_ne_ok
  | succ levels ih =>
    rw [readAt] at h
    split at h
    · exact absurd h failAt_ne_ok
    · split at h
      · obtain ⟨path, ranks, -, -, -, rfl⟩ := readPlain_eq_ok_iff.1 h
        exact plain path ranks
      · rename_i m hm
        obtain ⟨-, hne, -⟩ := marked?_eq_some hm
        obtain ⟨short, path, -, -, h⟩ := readMarked_eq_ok_iff.1 h
        split at h
        · rcases readZero_eq_ok_iff.1 h with ⟨-, rfl⟩ | ⟨-, ranks, -, -, -, rfl⟩
          · exact plain path []
          · exact plain path ranks
        · obtain ⟨nested, inside, ranks, arguments, -, -, -, -, -, hargs, rfl⟩ :=
            readGeneric_eq_ok_iff.1 h
          refine .node ((Text.length_numeral_digitsValue_le hne).trans short) fun a ha => ?_
          obtain ⟨x, -, hx⟩ := exists_of_mem_readAll (moves_readAt limit levels) hargs ha
          exact ih hx

/-- **What was read is formed and can be written**, node by node. -/
theorem writable_of_read {limit : Limit} {text : List Char} {s : Signature}
    (h : read limit text = .ok s) : s.Every Signature.Writable := by
  obtain ⟨⟨⟩, -, hat⟩ := ok_of_bind h
  exact ((derives_of_read h).formed.and (digits_of_readAt hat)).imp fun _ hs => ⟨hs.1.1, hs.2⟩

/-- What was read is formed. -/
theorem formed_of_read {limit : Limit} {text : List Char} {s : Signature}
    (h : read limit text = .ok s) : s.Every Signature.Formed :=
  Signature.formed_of_writable (writable_of_read h)

end Name
end TypeMismatch
