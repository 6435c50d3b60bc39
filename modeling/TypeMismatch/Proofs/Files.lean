import TypeMismatch.Files
import TypeMismatch.Proofs.Text

/-!
# Paths in writing

A path in normal form, written out, as the pair command writes the one of its file, names the same
path again (`Path.ofString_text`): its steps are not empty, are no points and have no slashes in
them, so that they are found again between the slashes; and as many slashes as count stand at its
start.
-/

namespace TypeMismatch
namespace Path

/-- A path that a text names: the slashes at its start count, and each step names something. -/
structure Normal (p : Path) : Prop where
  root_le : p.root ≤ 2
  steps : ∀ s ∈ p.steps, s ≠ "" ∧ s ≠ "." ∧ '/' ∉ s.toList

/-- A path begins with at most two slashes that count. -/
theorem rootOf_le (text : List Char) : rootOf text ≤ 2 := by
  unfold rootOf
  split <;> omega

/-- The path of a text is in normal form. -/
theorem normal_ofString (text : String) : (ofString text).Normal := by
  refine ⟨rootOf_le _, fun s hs => ?_⟩
  rw [ofString, List.mem_filter, List.mem_map, Bool.and_eq_true, bne_iff_ne, bne_iff_ne] at hs
  obtain ⟨⟨part, hpart, rfl⟩, ne, no_point⟩ := hs
  exact ⟨ne, no_point, by rw [String.toList_ofList]; exact Text.notMem_of_mem_split hpart⟩

/-- The first slashes of a text are those before a text that begins with none. -/
theorem takeWhile_replicate {rest : List Char} (h : ∀ c ∈ rest.head?, c ≠ '/') (n : Nat) :
    (List.replicate n '/' ++ rest).takeWhile (· == '/') = List.replicate n '/' := by
  have slashes : ∀ c ∈ List.replicate n '/', (c == '/') = true := fun c hc => by
    rw [List.eq_of_mem_replicate hc]
    decide
  have stop : ∀ c ∈ rest.head?, (c == '/') = false := fun c hc => beq_false_of_ne (h c hc)
  rw [List.takeWhile_append_of_pos slashes, (Text.takeWhile_stop stop).1, List.append_nil]

/-- Slashes at the start separate nothing. -/
theorem split_replicate (rest : List Char) (n : Nat) :
    Text.split '/' (List.replicate n '/' ++ rest) =
      List.replicate n [] ++ Text.split '/' rest := by
  induction n with
  | zero => rfl
  | succ n ih =>
    rw [List.replicate_succ, List.replicate_succ, List.cons_append, Text.split, if_pos rfl, ih]
    rfl

/-- As many slashes as a path may begin with are found again. -/
theorem rootOf_replicate {rest : List Char} (h : ∀ c ∈ rest.head?, c ≠ '/') {n : Nat}
    (hn : n ≤ 2) : rootOf (List.replicate n '/' ++ rest) = n := by
  rw [rootOf, takeWhile_replicate h, List.length_replicate]
  obtain rfl | rfl | rfl : n = 0 ∨ n = 1 ∨ n = 2 := by omega
  all_goals rfl

namespace Normal
variable {p : Path}

/-- Steps joined by slashes do not begin with one. -/
theorem head?_steps (h : p.Normal) :
    ∀ c ∈ (['/'].intercalate (p.steps.map String.toList)).head?, c ≠ '/' := by
  rintro c hc rfl
  cases hp : p.steps with
  | nil =>
    rw [hp] at hc
    cases hc
  | cons s steps =>
    obtain ⟨ne, -, no_slash⟩ := h.steps s (by rw [hp]; exact List.mem_cons_self)
    obtain ⟨d, ds, hs⟩ := List.exists_cons_of_ne_nil (mt String.toList_eq_nil_iff.1 ne)
    rw [hp, List.map_cons, hs, List.intercalate_cons_cons_left] at hc
    obtain rfl := Option.some.inj hc
    exact no_slash (by rw [hs]; exact List.mem_cons_self)

/-- The steps are found again between the slashes; a text without steps has one empty part. -/
theorem split_steps (h : p.Normal) :
    (((Text.split '/' (['/'].intercalate (p.steps.map String.toList))).map
      String.ofList).filter fun s => s != "" && s != ".") = p.steps := by
  have kept : p.steps.filter (fun s => s != "" && s != ".") = p.steps :=
    List.filter_eq_self.2 fun s hs => by
      obtain ⟨ne, no_point, -⟩ := h.steps s hs
      rw [Bool.and_eq_true, bne_iff_ne, bne_iff_ne]
      exact ⟨ne, no_point⟩
  by_cases hp : p.steps = []
  · rw [hp]
    rfl
  · have no_slash : ∀ part ∈ p.steps.map String.toList, '/' ∉ part :=
      List.forall_mem_map.2 fun s hs => (h.steps s hs).2.2
    rw [Text.split_intercalate (mt List.map_eq_nil_iff.1 hp) no_slash, List.map_map]
    simpa [Function.comp_def] using kept

/-- **A path in normal form, written out, names the same path.** -/
theorem ofString_text (h : p.Normal) : ofString p.text = p := by
  unfold text
  dsimp only
  split
  · rename_i empty
    rw [Bool.and_eq_true, decide_eq_true_eq, List.isEmpty_iff] at empty
    obtain ⟨root, steps⟩ := p
    obtain ⟨rfl, rfl⟩ := empty
    decide
  · have written : (String.ofList (List.replicate p.root '/') ++
        String.intercalate "/" p.steps).toList =
          List.replicate p.root '/' ++ ['/'].intercalate (p.steps.map String.toList) := by
      rw [String.toList_append, String.toList_ofList, String.toList_intercalate]
      rfl
    have no_steps : (List.replicate p.root "").filter (fun s => s != "" && s != ".") = [] :=
      List.filter_eq_nil_iff.2 fun s hs => by
        rw [List.eq_of_mem_replicate hs]
        decide
    rw [ofString, written, rootOf_replicate h.head?_steps h.root_le, split_replicate,
      List.map_append, List.map_replicate, List.filter_append, h.split_steps]
    exact congrArg (Path.mk p.root ·) (by rw [no_steps, List.nil_append])

end Normal

/-- The text of a path that was read is read as that path. -/
theorem ofString_text (text : String) : ofString (ofString text).text = ofString text :=
  (normal_ofString text).ofString_text

end Path
end TypeMismatch
