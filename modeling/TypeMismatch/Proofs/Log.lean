import TypeMismatch.Log

/-!
# Logs of which no handler fails

In a log where no handler fails (`Log.Quiet`), records with a message are shown without a fault by
`debug` and `warning` (`Log.Quiet.shownUntilFault`), and another level does not change that
(`Log.Quiet.withLevel`): a logger comes into being without handlers, and only its parent changes
afterwards.
-/

namespace TypeMismatch

/-- The handlers that fail at a place; a gap has none. -/
def Place.outlets : Place → List Outlet
  | .logger l => l.outlets
  | .gap _ => []

namespace Places

/-- Whether no logger at these places has a handler that fails. -/
def Quiet (places : Places) : Prop := ∀ e ∈ places, e.2.outlets = []

instance : DecidablePred Quiet := fun places =>
  inferInstanceAs (Decidable (∀ e ∈ places, e.2.outlets = []))

namespace Quiet
variable {places : Places} {name : String}

/-- What stands under a name has no handler that fails. -/
theorem get? {place : Place} (h : places.Quiet) (hp : places.get? name = some place) :
    place.outlets = [] := by
  obtain ⟨before, after, rfl, -⟩ := List.lookup_eq_some_iff.1 hp
  exact h (name, place) (List.mem_append_right _ List.mem_cons_self)

/-- Nor has a logger. -/
theorem logger? {l : Logger} (h : places.Quiet) (hl : places.logger? name = some l) :
    l.outlets = [] := by
  unfold Places.logger? at hl
  split at hl
  · rename_i hp
    obtain rfl := Option.some.inj hl
    exact h.get? hp
  · cases hl

/-- Another place without such handlers may be added. -/
theorem append {place : Place} (h : places.Quiet) (hp : place.outlets = []) :
    Quiet (places ++ [(name, place)]) :=
  List.forall_mem_append.2 ⟨h, List.forall_mem_singleton.2 hp⟩

/-- Changes that add no such handlers may be made everywhere. -/
theorem map {f : String × Place → String × Place} (h : places.Quiet)
    (hf : ∀ e, e.2.outlets = [] → (f e).2.outlets = []) : Quiet (places.map f) :=
  List.forall_mem_map.2 fun e he => hf e (h e he)

/-- A place without such handlers may be put under a name. -/
theorem put {place : Place} (h : places.Quiet) (hp : place.outlets = []) :
    (places.put name place).Quiet := by
  unfold Places.put
  split
  · refine h.map fun e he => ?_
    split
    · exact hp
    · exact he
  · exact h.append hp

/-- Loggers may get another one above them. -/
theorem adopt (h : places.Quiet) (below : List String) : (places.adopt name below).Quiet := by
  refine h.map fun e he => ?_
  split
  · split <;> exact he
  · exact he

/-- Names above a logger may be noted. -/
theorem note (h : places.Quiet) (names : List String) : (places.note name names).1.Quiet := by
  induction names generalizing places with
  | nil => exact h
  | cons above names ih =>
    unfold Places.note
    split
    · exact h
    · exact ih (h.put rfl)
    · exact ih (h.put rfl)

/-- A logger may be created. -/
theorem create (h : places.Quiet) (name : String) : (places.create name).Quiet := by
  unfold Places.create
  split
  · exact h
  · exact ((h.adopt _).note _).put rfl
  · exact ((h.append rfl).note _).put rfl

/-- What does not give a logger a handler leaves none that fails. -/
theorem change {f : Logger → Logger} (h : places.Quiet) (hf : ∀ l, (f l).outlets = l.outlets) :
    (places.change name f).Quiet := by
  have created := h.create name
  unfold Places.change
  dsimp only
  split
  · rename_i l hl
    exact created.put ((hf l).trans (created.logger? hl))
  · exact created

/-- No logger above a name has a handler that fails. -/
theorem lineageFrom (h : places.Quiet) (fuel : Nat) (name : Option String) :
    ∀ e ∈ places.lineageFrom fuel name, e.2.outlets = [] := by
  induction fuel generalizing name with
  | zero => exact List.forall_mem_nil _
  | succ fuel ih =>
    cases name with
    | none => exact List.forall_mem_nil _
    | some name =>
      unfold Places.lineageFrom
      split
      · rename_i hl
        exact List.forall_mem_cons.2 ⟨h.logger? hl, ih _⟩
      · exact List.forall_mem_nil _

end Quiet
end Places

namespace Log

/-- Whether no handler of a log fails. -/
structure Quiet (log : Log) : Prop where
  root : log.outlets = []
  places : log.places.Quiet

namespace Quiet
variable {log : Log}

/-- The level of the package does not matter. -/
theorem withLevel (h : log.Quiet) (level : Level) : (log.withLevel level).Quiet :=
  ⟨h.root, h.places.change fun _ => rfl⟩

/-- No handler that fails is reached from any logger. -/
theorem outletsOf (h : log.Quiet) (name : String) : log.outletsOf name = ([], []) := by
  unfold Log.outletsOf
  dsimp only
  rw [h.root, ite_self, Prod.mk.injEq, List.flatMap_eq_nil_iff]
  exact ⟨fun e he => h.places.lineageFrom _ _ e (List.mem_of_mem_take he), rfl⟩

/-- A record with a message is handled without a fault. -/
theorem fault? (h : log.Quiet) {r : Record} (told : r.fault? = none) : log.fault? r = none := by
  unfold Log.fault?
  rw [h.outletsOf, told]
  simp

/-- **Where no handler fails, records with a message are shown without a fault.** -/
theorem shownUntilFault (h : log.Quiet) {rs : List Record} (told : ∀ r ∈ rs, r.fault? = none) :
    (log.shownUntilFault rs).2 = none := by
  induction rs with
  | nil => rfl
  | cons r rs ih =>
    obtain ⟨hr, hrs⟩ := List.forall_mem_cons.1 told
    rw [Log.shownUntilFault, h.fault? hr]
    exact ih hrs

end Quiet
end Log
end TypeMismatch
