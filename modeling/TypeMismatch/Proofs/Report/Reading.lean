import TypeMismatch.Proofs.Report

/-!
# Reports and what was read

A report (`describe_type_mismatch`) agrees with what was read (`describe_agrees`).  It shows
shortened names exactly if both names are read under the limit in force, that of a resolver that is
given or else that of the settings (`build_resolver`).  Otherwise it carries the fault of the first
name that is at fault, and shows both names as they were given; only then the reporter's logger is
offered a record, one warning, since resolving offers its records to other loggers.  A fault leaves
the request if and only if names must not be shown as they were given.
-/

namespace TypeMismatch

/-- The limit in force: that of a resolver, or that of the settings if no resolver is given. -/
def limitInForce (settings : Settings) (resolver : Option Limit) : Limit :=
  resolver.getD settings.limit

/-- Whether a name is read under a limit. -/
def Legible (limit : Limit) (x : String) : Prop := ∃ s, Name.read limit x.toList = .ok s

/-- The fault of the first of two names that is at fault, with that name. -/
inductive FirstFault (limit : Limit) (x y : String) : Name.Fault → String → Prop
  | expected {f} : Name.read limit x.toList = .error (.fault f) → FirstFault limit x y f x
  | actual {a f} : Name.read limit x.toList = .ok a → Name.read limit y.toList = .error (.fault f) →
      FirstFault limit x y f y

/-- The records that a request offers to the reporter's logger. -/
def Traced.reported {α : Type} (t : Traced α) : List Record :=
  t.records.filter fun r => r.logger = "typediff.reporting"

section
variable {settings : Settings} {limit : Limit} {x y source : String} {f : Name.Fault}

/-! ### Resolving -/

/-- The first fault of a pair is the failure of the pair. -/
theorem FirstFault.resolve (h : FirstFault limit x y f source) :
    (resolve limit (.given (.text x)) (.given (.text y))).result = .error (.name f source) := by
  cases h with
  | expected hx => exact resolve_error_expected hx
  | actual hx hy => exact resolve_error_actual hx hy

/-- A pair with a fault is not legible. -/
theorem FirstFault.not_legible (h : FirstFault limit x y f source) :
    ¬(Legible limit x ∧ Legible limit y) := by
  rintro ⟨⟨a, hx⟩, ⟨b, hy⟩⟩
  cases h with
  | expected h => rw [hx] at h; cases h
  | actual _ h => rw [hy] at h; cases h

/-- Two names are both read, or one is the first at fault, or an arity has too many digits. -/
theorem resolve_cases (limit : Limit) (x y : String) :
    (∃ a b, Name.read limit x.toList = .ok a ∧ Name.read limit y.toList = .ok b) ∨
      (∃ f source, FirstFault limit x y f source) ∨
      ∃ n, (resolve limit (.given (.text x)) (.given (.text y))).result =
        .error (.numeralTooLong n) := by
  cases hx : Name.read limit x.toList with
  | error e =>
    cases e with
    | fault f => exact .inr (.inl ⟨f, x, .expected hx⟩)
    | numeralTooLong n => exact .inr (.inr ⟨n, resolve_error_expected hx⟩)
  | ok a =>
    cases hy : Name.read limit y.toList with
    | ok b => exact .inl ⟨a, b, rfl, rfl⟩
    | error e =>
      cases e with
      | fault f => exact .inr (.inl ⟨f, y, .actual hx hy⟩)
      | numeralTooLong n => exact .inr (.inr ⟨n, resolve_error_actual hx hy⟩)

/-! ### Records -/

/-- Requests one after the other report nothing if none of them does. -/
theorem Traced.reported_bind {α β : Type} {t : Traced α} {g : α → Traced β}
    (ht : t.reported = []) (hg : ∀ a, (g a).reported = []) : (t >>= g).reported = [] := by
  change (t.andThen g).reported = []
  unfold Traced.andThen
  split
  · exact (List.filter_append ..).trans (by rw [← reported, ← reported, ht, hg]; rfl)
  · exact ht

/-- Reading a name reports nothing. -/
theorem reported_readName (limit : Limit) (v : Value) : (readName limit v).reported = [] := by
  unfold readName
  split
  · split <;> rfl
  · rfl

/-- Resolving offers nothing to the reporter's logger. -/
theorem reported_resolve (limit : Limit) (v w : Value) :
    (resolve limit (.given v) (.given w)).reported = [] := by
  refine Traced.reported_bind (reported_readName limit v) fun a =>
    Traced.reported_bind (reported_readName limit w) fun b => ?_
  unfold resolveSignatures
  split <;> rfl

/-- **The reporter's logger is offered one warning over names that are shown as they were given**,
and nothing otherwise. -/
theorem reported_describe (settings : Settings) (limit : Limit) (v w : Value) :
    (describe settings limit v w).reported =
      match (resolve limit (.given v) (.given w)).result with
      | .error (.name f source) =>
        if settings.fallbackToRaw then [rawRecord (f.message source)] else []
      | _ => [] := by
  have none := reported_resolve limit v w
  unfold describe
  generalize resolve limit (.given v) (.given w) = t at none ⊢
  obtain ⟨records, result⟩ := t
  cases result with
  | ok p => exact none
  | error e =>
    cases e with
    | name f source =>
      dsimp only
      split
      · exact (List.filter_append ..).trans (congrArg (· ++ [rawRecord _]) none)
      · exact none
    | _ => exact none

/-! ### Reports -/

/-- A report agrees with what was read of two names, and with what the reporter's logger was
offered. -/
structure Report.Agrees (r : Report) (settings : Settings) (limit : Limit) (x y : String)
    (reported : List Record) : Prop where
  names : r.expected = .text x ∧ r.actual = .text y
  labels : r.expectedLabel = settings.expectedLabel ∧ r.actualLabel = settings.actualLabel
  shortened_iff_error : r.shortened = true ↔ r.error = none
  shortened_iff_legible : r.shortened = true ↔ Legible limit x ∧ Legible limit y
  displays : r.shortened = true → reported = [] ∧
    ∃ u v, (resolve limit (.given (.text x)) (.given (.text y))).result = .ok (u, v) ∧
      r.expectedDisplay = .text u ∧ r.actualDisplay = .text v
  raw : r.shortened = false → (r.expectedDisplay = .text x ∧ r.actualDisplay = .text y) ∧
    ∃ f source, FirstFault limit x y f source ∧ r.error = some (f.message source) ∧
      reported = [rawRecord (f.message source)]

/-- Two names that are both read are reported shortened, and nothing is offered. -/
theorem exists_agrees_of_legible {a b : Signature} (settings : Settings)
    (hx : Name.read limit x.toList = .ok a) (hy : Name.read limit y.toList = .ok b) :
    ∃ r, (describe settings limit (.text x) (.text y)).result = .ok r ∧
      r.Agrees settings limit x y (describe settings limit (.text x) (.text y)).reported := by
  have resolved := resolve_of_read hx hy
  refine ⟨_, describe_of_ok resolved, ⟨rfl, rfl⟩, ⟨rfl, rfl⟩, iff_of_true rfl rfl,
    iff_of_true rfl ⟨⟨a, hx⟩, ⟨b, hy⟩⟩, fun _ => ⟨?_, _, _, resolved, rfl, rfl⟩, nofun⟩
  rw [reported_describe, resolved]

/-- A name at fault is reported if names may be shown as they were given. -/
theorem FirstFault.exists_agrees (h : FirstFault limit x y f source)
    (fallback : settings.fallbackToRaw = true) :
    ∃ r, (describe settings limit (.text x) (.text y)).result = .ok r ∧
      r.Agrees settings limit x y (describe settings limit (.text x) (.text y)).reported := by
  refine ⟨_, describe_of_fault fallback h.resolve, ⟨rfl, rfl⟩, ⟨rfl, rfl⟩, iff_of_false nofun nofun,
    iff_of_false nofun h.not_legible, nofun, fun _ => ⟨⟨rfl, rfl⟩, f, source, h, rfl, ?_⟩⟩
  rw [reported_describe, h.resolve]
  exact if_pos fallback

/-- Else it is the failure of the request. -/
theorem FirstFault.describe (h : FirstFault limit x y f source)
    (fallback : settings.fallbackToRaw = false) :
    (TypeMismatch.describe settings limit (.text x) (.text y)).result =
      .error (.name f source) := by
  rw [describe_result, h.resolve]
  exact if_neg (by rw [fallback]; decide)

/-- Every report agrees with what was read. -/
theorem agrees_of_ok {r : Report}
    (h : (describe settings limit (.text x) (.text y)).result = .ok r) :
    r.Agrees settings limit x y
      (describe settings limit (.text x) (.text y)).reported := by
  rcases resolve_cases limit x y with ⟨a, b, hx, hy⟩ | ⟨f, source, first⟩ | ⟨n, hn⟩
  · obtain ⟨r', hr, agrees⟩ := exists_agrees_of_legible settings hx hy
    obtain rfl := Except.ok.inj (hr.symm.trans h)
    exact agrees
  · cases fallback : settings.fallbackToRaw with
    | true =>
      obtain ⟨r', hr, agrees⟩ := first.exists_agrees fallback
      obtain rfl := Except.ok.inj (hr.symm.trans h)
      exact agrees
    | false => cases (first.describe fallback).symm.trans h
  · cases (describe_of_numeralTooLong hn).symm.trans h

/-- When there is a report. -/
theorem describe_ok_iff :
    (∃ r, (describe settings limit (.text x) (.text y)).result = .ok r) ↔
      Legible limit x ∧ Legible limit y ∨
        settings.fallbackToRaw = true ∧ ∃ f source, FirstFault limit x y f source := by
  constructor
  · rintro ⟨r, hr⟩
    have agrees := agrees_of_ok hr
    cases shortened : r.shortened with
    | true => exact .inl (agrees.shortened_iff_legible.1 shortened)
    | false =>
      obtain ⟨-, f, source, first, -, -⟩ := agrees.raw shortened
      cases fallback : settings.fallbackToRaw with
      | true => exact .inr ⟨rfl, f, source, first⟩
      | false => cases (first.describe fallback).symm.trans hr
  · rintro (⟨⟨a, hx⟩, ⟨b, hy⟩⟩ | ⟨fallback, f, source, first⟩)
    · obtain ⟨r, hr, -⟩ := exists_agrees_of_legible settings hx hy
      exact ⟨r, hr⟩
    · obtain ⟨r, hr, -⟩ := first.exists_agrees fallback
      exact ⟨r, hr⟩

/-- When a fault leaves the request, and which. -/
theorem describe_fault_iff :
    (describe settings limit (.text x) (.text y)).result = .error (.name f source) ↔
      settings.fallbackToRaw = false ∧ FirstFault limit x y f source := by
  constructor
  · intro h
    rcases resolve_cases limit x y with ⟨a, b, hx, hy⟩ | ⟨g, s, first⟩ | ⟨n, hn⟩
    · obtain ⟨r, hr, -⟩ := exists_agrees_of_legible settings hx hy
      cases hr.symm.trans h
    · cases fallback : settings.fallbackToRaw with
      | true =>
        obtain ⟨r, hr, -⟩ := first.exists_agrees fallback
        cases hr.symm.trans h
      | false =>
        cases (first.describe fallback).symm.trans h
        exact ⟨rfl, first⟩
    · cases (describe_of_numeralTooLong hn).symm.trans h
  · rintro ⟨fallback, first⟩
    exact first.describe fallback

/-- **A report agrees with what was read.**  Whatever resolver is given or not given, a report on
two names is given if and only if both are read under the limit in force, or one is the first at
fault and names may be shown as they were given.  Every report carries the names and the labels as
they were given.  It is shortened if and only if it carries no fault, and if and only if both names
are read; then it shows what resolving gives, and the reporter's logger is offered nothing.  Else it
shows the names as they were given, carries the fault of the first name at fault, and one warning
with it is offered.  A fault leaves the request if and only if it is the first one and names must
not be shown as they were given. -/
theorem describe_agrees (settings : Settings) (resolver : Option Limit) (x y : String) :
    let limit := limitInForce settings resolver
    let described := describe settings limit (.text x) (.text y)
    (∀ r, described.result = .ok r → r.Agrees settings limit x y described.reported) ∧
    ((∃ r, described.result = .ok r) ↔ Legible limit x ∧ Legible limit y ∨
      settings.fallbackToRaw = true ∧ ∃ f source, FirstFault limit x y f source) ∧
    ∀ f source, described.result = .error (.name f source) ↔
      settings.fallbackToRaw = false ∧ FirstFault limit x y f source := by
  intro limit described
  exact ⟨fun r => agrees_of_ok, describe_ok_iff, fun f source => describe_fault_iff⟩

end

/-- A single level of arguments. -/
def oneLevel : Limit := ⟨1, by decide⟩

/-- The hypotheses are satisfiable: the limit of a resolver beats that of the settings, under which
the expected name is read, so both names are shown as they were given. -/
theorem describe_agrees_resolver :
    Legible Settings.standard.limit "A`1[B`1[C]]" ∧
      ∃ r, (describe .standard oneLevel (.text "A`1[B`1[C]]") (.text "N.D")).result = .ok r ∧
        r.shortened = false ∧
        r.error = some "generic nesting exceeds 1 levels (column 9 of 'A`1[B`1[C]]')" ∧
        r.actualDisplay = .text "N.D" := by
  have first : FirstFault oneLevel "A`1[B`1[C]]" "N.D" ⟨.tooDeep 1, 8⟩ "A`1[B`1[C]]" :=
    .expected rfl
  obtain ⟨agrees, given, -⟩ := describe_agrees .standard (some oneLevel) "A`1[B`1[C]]" "N.D"
  obtain ⟨r, hr⟩ := given.2 (.inr ⟨rfl, _, _, first⟩)
  have r_agrees := agrees r hr
  have raw : r.shortened = false := by
    rw [← Bool.not_eq_true, r_agrees.shortened_iff_legible]
    exact first.not_legible
  obtain ⟨⟨-, display⟩, f, source, same, error, -⟩ := r_agrees.raw raw
  cases first.resolve.symm.trans same.resolve
  exact ⟨⟨_, rfl⟩, r, hr, raw, error, display⟩

end TypeMismatch
