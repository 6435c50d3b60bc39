/-!
# Requests that can fail

What follows from the success of a request that is made of others: of one request after another one,
of a list of requests, and of a run through a list that stops at the first failure.
-/

namespace TypeMismatch
variable {ε α β γ : Type}

/-- A request that succeeds after another one has what the other one gave. -/
theorem ok_of_bind {x : Except ε α} {f : α → Except ε β} {b : β} (h : x >>= f = .ok b) :
    ∃ a, x = .ok a ∧ f a = .ok b := by
  cases x with
  | error e => cases h
  | ok a => exact ⟨a, rfl, h⟩

/-- A result in another form comes from a result. -/
theorem ok_of_map {x : Except ε α} {f : α → β} {b : β} (h : x.map f = .ok b) :
    ∃ a, x = .ok a ∧ f a = b := by
  cases x with
  | error e => cases h
  | ok a => exact ⟨a, rfl, Except.ok.inj h⟩

/-- A request after another one fails as one of the two. -/
theorem bind_eq_error_iff {x : Except ε α} {f : α → Except ε β} {e : ε} :
    x >>= f = .error e ↔ x = .error e ∨ ∃ a, x = .ok a ∧ f a = .error e := by
  cases x with
  | error e' =>
    refine ⟨fun h => .inl (congrArg Except.error (Except.error.inj h)), ?_⟩
    rintro (h | ⟨a, h, -⟩)
    · exact congrArg Except.error (Except.error.inj h)
    · cases h
  | ok a =>
    refine ⟨fun h => .inr ⟨a, rfl, h⟩, ?_⟩
    rintro (h | ⟨_, h, hf⟩)
    · cases h
    · cases h
      exact hf

/-- A failure in other words comes from a failure. -/
theorem mapError_eq_error_iff {x : Except ε α} {f : ε → γ} {e : γ} :
    x.mapError f = .error e ↔ ∃ e', x = .error e' ∧ f e' = e := by
  cases x with
  | error e' =>
    refine ⟨fun h => ⟨e', rfl, Except.error.inj h⟩, ?_⟩
    rintro ⟨_, h, hf⟩
    cases h
    exact congrArg Except.error hf
  | ok a => exact ⟨nofun, nofun⟩

/-- Failures in other words leave results. -/
theorem mapError_eq_ok_iff {x : Except ε α} {f : ε → γ} {a : α} :
    x.mapError f = .ok a ↔ x = .ok a := by
  cases x with
  | error e => exact ⟨nofun, nofun⟩
  | ok b => exact ⟨fun h => congrArg Except.ok (Except.ok.inj h),
      fun h => congrArg Except.ok (Except.ok.inj h)⟩

/-! ### Lists of requests -/

/-- Requests that succeed one by one have a list of results. -/
theorem exists_map_eq_ok {f : α → Except ε β} {xs : List α} (h : ∀ x ∈ xs, ∃ b, f x = .ok b) :
    ∃ bs : List β, xs.map f = bs.map .ok := by
  induction xs with
  | nil => exact ⟨[], rfl⟩
  | cons x xs ih =>
    obtain ⟨⟨b, hb⟩, hxs⟩ := List.forall_mem_cons.1 h
    obtain ⟨bs, hbs⟩ := ih hxs
    exact ⟨b :: bs, by rw [List.map_cons, List.map_cons, hb, hbs]⟩

/-- Requests that succeed under a condition, with a known result, do so one by one. -/
theorem map_eq_map_ok_iff {f : α → Except ε β} {P : α → Prop} {g : α → β} {xs : List α}
    (h : ∀ x ∈ xs, ∀ b, f x = .ok b ↔ P x ∧ b = g x) (bs : List β) :
    xs.map f = bs.map .ok ↔ (∀ x ∈ xs, P x) ∧ bs = xs.map g := by
  induction xs generalizing bs with
  | nil => simp [eq_comm]
  | cons x xs ih =>
    rw [List.forall_mem_cons] at h
    rw [List.forall_mem_cons, List.map_cons, List.map_cons]
    cases bs with
    | nil => simp
    | cons b bs =>
      rw [List.map_cons, List.cons.injEq, List.cons.injEq, h.1, ih h.2, and_and_and_comm]

/-- Requests that succeed one by one have the same results as others that succeed where they do. -/
theorem map_eq_map_ok_mono {f g : α → Except ε β} {xs : List α} {bs : List β}
    (h : ∀ x ∈ xs, ∀ b ∈ bs, f x = .ok b → g x = .ok b) (hf : xs.map f = bs.map .ok) :
    xs.map g = bs.map .ok := by
  induction xs generalizing bs with
  | nil => exact hf
  | cons x xs ih =>
    cases bs with
    | nil => cases hf
    | cons b bs =>
      rw [List.map_cons, List.map_cons, List.cons.injEq] at hf ⊢
      exact ⟨h x List.mem_cons_self b List.mem_cons_self hf.1,
        ih (fun y hy c hc => h y (List.mem_cons_of_mem _ hy) c (List.mem_cons_of_mem _ hc)) hf.2⟩

/-- Among requests that succeed one by one there is a first whose result has a property. -/
theorem exists_first_ok {f : α → Except ε β} {P : β → Prop} {xs : List α} {bs : List β}
    (hf : xs.map f = bs.map .ok) (h : ∃ b ∈ bs, P b) :
    ∃ before x after b, xs = before ++ x :: after ∧ f x = .ok b ∧ P b ∧
      ∀ y ∈ before, ∃ c, f y = .ok c ∧ ¬P c := by
  induction xs generalizing bs with
  | nil =>
    obtain rfl := List.map_eq_nil_iff.1 hf.symm
    obtain ⟨b, hb, -⟩ := h
    exact absurd hb List.not_mem_nil
  | cons x xs ih =>
    cases bs with
    | nil => cases hf
    | cons b bs =>
      obtain ⟨hx, hxs⟩ := List.cons.inj hf
      by_cases hb : P b
      · exact ⟨[], x, xs, b, rfl, hx, hb, fun y hy => absurd hy List.not_mem_nil⟩
      · have later : ∃ c ∈ bs, P c := by
          obtain ⟨c, hc, hP⟩ := h
          rcases List.mem_cons.1 hc with rfl | hc
          · exact absurd hP hb
          · exact ⟨c, hc, hP⟩
        obtain ⟨before, y, after, c, rfl, hy, hP, hbefore⟩ := ih hxs later
        exact ⟨x :: before, y, after, c, rfl, hy, hP,
          List.forall_mem_cons.2 ⟨⟨b, hx, hb⟩, hbefore⟩⟩

/-- **A run through a list fails at one of its items**, where those before it have been passed. -/
theorem foldlM_eq_error_iff {f : β → α → Except ε β} {xs : List α} {b : β} {e : ε} :
    xs.foldlM f b = .error e ↔
      ∃ before x after c, xs = before ++ x :: after ∧ before.foldlM f b = .ok c ∧
        f c x = .error e := by
  induction xs generalizing b with
  | nil => exact ⟨nofun, fun ⟨before, x, after, c, h, _⟩ => by cases before <;> cases h⟩
  | cons x xs ih =>
    rw [List.foldlM_cons, bind_eq_error_iff]
    constructor
    · rintro (h | ⟨c, hc, h⟩)
      · exact ⟨[], x, xs, b, rfl, rfl, h⟩
      · obtain ⟨before, y, after, d, rfl, hd, he⟩ := ih.1 h
        refine ⟨x :: before, y, after, d, rfl, ?_, he⟩
        rw [List.foldlM_cons, hc]
        exact hd
    · rintro ⟨before, y, after, c, h, hc, he⟩
      cases before with
      | nil =>
        obtain ⟨rfl, rfl⟩ := List.cons.inj h
        obtain rfl := Except.ok.inj hc
        exact .inl he
      | cons z before =>
        obtain ⟨rfl, rfl⟩ := List.cons.inj h
        rw [List.foldlM_cons] at hc
        obtain ⟨d, hd, hc⟩ := ok_of_bind hc
        exact .inr ⟨d, hd, ih.2 ⟨before, y, after, c, rfl, hc, he⟩⟩

end TypeMismatch
