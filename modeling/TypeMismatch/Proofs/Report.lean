import TypeMismatch.Proofs.Resolution
import TypeMismatch.Report

/-!
# Which mismatches are reported

Where the settings allow that names are shown as they were given, a mismatch of two names is
reported (`describe_type_mismatch`), unless an arity in one of them has too many digits
(`describe_reports`).  The report shows the shortened names, or both names as they were given and
the fault of the first that cannot be read.  Too many digits are no fault of a name, and nothing is
reported then.
-/

namespace TypeMismatch

/-- The reports of a mismatch between two names. -/
inductive Reports (settings : Settings) (limit : Limit) (x y : String) : Report → Prop
  /-- Both names are read, and shown shortened. -/
  | shortened {a b : Signature} : Name.read limit x.toList = .ok a →
      Name.read limit y.toList = .ok b →
      Reports settings limit x y ⟨x, y, String.ofList (a.against b).render,
        String.ofList (b.against a).render, true, none, settings.expectedLabel,
        settings.actualLabel⟩
  /-- The expected name is at fault, and both are shown as they were given. -/
  | expected {f : Name.Fault} : Name.read limit x.toList = .error (.fault f) →
      Reports settings limit x y ⟨x, y, x, y, false, some (f.message x), settings.expectedLabel,
        settings.actualLabel⟩
  /-- Only the actual name is at fault, and both are shown as they were given. -/
  | actual {a : Signature} {f : Name.Fault} : Name.read limit x.toList = .ok a →
      Name.read limit y.toList = .error (.fault f) →
      Reports settings limit x y ⟨x, y, x, y, false, some (f.message y), settings.expectedLabel,
        settings.actualLabel⟩

/-! ### What becomes of a result -/

section
variable {settings : Settings} {limit : Limit} {x y : Value}

/-- What is reported depends only on the result of resolving. -/
theorem describe_result :
    (describe settings limit x y).result =
      match (resolve limit (.given x) (.given y)).result with
      | .ok (u, v) => .ok ⟨x, y, u, v, true, none, settings.expectedLabel, settings.actualLabel⟩
      | .error (.name f source) =>
        if settings.fallbackToRaw then
          .ok ⟨x, y, x, y, false, some (f.message source), settings.expectedLabel,
            settings.actualLabel⟩
        else .error (.name f source)
      | .error e => .error e := by
  unfold describe
  generalize resolve limit (.given x) (.given y) = t
  obtain ⟨records, result⟩ := t
  cases result with
  | ok p => rfl
  | error e =>
    cases e with
    | name f source => dsimp only; split <;> rfl
    | _ => rfl

/-- A pair that is resolved is reported with the shortened names. -/
theorem describe_of_ok {u v : String}
    (h : (resolve limit (.given x) (.given y)).result = .ok (u, v)) :
    (describe settings limit x y).result =
      .ok ⟨x, y, u, v, true, none, settings.expectedLabel, settings.actualLabel⟩ := by
  rw [describe_result, h]

/-- A fault is reported if the settings allow it. -/
theorem describe_of_fault {f : Name.Fault} {source : String}
    (fallback : settings.fallbackToRaw = true)
    (h : (resolve limit (.given x) (.given y)).result = .error (.name f source)) :
    (describe settings limit x y).result =
      .ok ⟨x, y, x, y, false, some (f.message source), settings.expectedLabel,
        settings.actualLabel⟩ := by
  rw [describe_result, h]
  exact if_pos fallback

/-- A numeral that is too long is never reported. -/
theorem describe_of_numeralTooLong {n : Nat}
    (h : (resolve limit (.given x) (.given y)).result = .error (.numeralTooLong n)) :
    (describe settings limit x y).result = .error (.numeralTooLong n) := by
  rw [describe_result, h]

end

/-! ### Which mismatches are reported -/

/-- **A mismatch is reported unless an arity has too many digits.**  If names may be shown as they
were given, the request for a report on two texts gives one, with both names shortened, or both as
they were given and the fault of the first that cannot be read; or it fails, and then one of them
has an arity mark with more digits behind it than are read as one number. -/
theorem describe_reports {settings : Settings} (limit : Limit) (x y : String)
    (fallback : settings.fallbackToRaw = true) :
    (∃ r, (describe settings limit (.text x) (.text y)).result = .ok r ∧
        Reports settings limit x y r) ∨
      ∃ n, (describe settings limit (.text x) (.text y)).result = .error (.numeralTooLong n) ∧
        ((Name.Failure.numeralTooLong n).PlacedIn x.toList ∨
          (Name.Failure.numeralTooLong n).PlacedIn y.toList) := by
  cases hx : Name.read limit x.toList with
  | error e =>
    have failed := fun y => resolve_error_expected (y := y) hx
    cases e with
    | fault f => exact .inl ⟨_, describe_of_fault fallback (failed y), .expected hx⟩
    | numeralTooLong n =>
      exact .inr ⟨n, describe_of_numeralTooLong (failed y),
        .inl (Name.placedIn_of_numeralTooLong hx)⟩
  | ok a =>
    cases hy : Name.read limit y.toList with
    | ok b => exact .inl ⟨_, describe_of_ok (resolve_of_read hx hy), .shortened hx hy⟩
    | error e =>
      have failed := resolve_error_actual hx hy
      cases e with
      | fault f => exact .inl ⟨_, describe_of_fault fallback failed, .actual hx hy⟩
      | numeralTooLong n =>
        exact .inr ⟨n, describe_of_numeralTooLong failed,
          .inr (Name.placedIn_of_numeralTooLong hy)⟩

/-- The hypothesis is satisfiable, and by a name with an argument at fault, which is reported. -/
theorem describe_reports_argument :
    Settings.standard.fallbackToRaw = true ∧
      ∃ r, (describe .standard .standard (.text "A`1[B`2[C]]") (.text "D")).result = .ok r ∧
        Reports .standard .standard "A`1[B`2[C]]" "D" r := by
  refine ⟨rfl, (describe_reports .standard "A`1[B`2[C]]" "D" rfl).resolve_right ?_⟩
  rintro ⟨n, h, -⟩
  cases h

/-- A name with one argument of which the arity has a digit too many. -/
def longArity : List Char :=
  Signature.dotted [['A']] ++ Signature.arityMark :: (List.replicate 4301 '1' ++ "[B]".toList)

/-- It is not reported, though names may be shown as they were given. -/
theorem describe_longArity :
    Settings.standard.fallbackToRaw = true ∧
      (describe .standard .standard (.text (String.ofList longArity)) (.text "C")).result =
        .error (.numeralTooLong 4301) := by
  have digit : ∀ c ∈ List.replicate 4301 '1', Text.isDigit c = true := fun c hc => by
    rw [List.eq_of_mem_replicate hc]
    decide
  have long : Text.maxDigits < (List.replicate 4301 '1').length := by
    rw [List.length_replicate]
    decide
  have finish : ∀ c ∈ longArity.getLast?, Text.isBlank c = false := fun c hc => by
    rw [longArity, List.append_cons, ← List.append_assoc, List.getLast?_append] at hc
    obtain rfl := Option.some.inj hc
    decide
  have hp : Name.IsPath [['A']] := by decide
  have failed := Name.read_long_arity .standard hp (by rintro _ ⟨⟩ _ ⟨⟩; decide) digit long
    (by rintro _ ⟨⟩; decide) (by decide) finish
  have read_error : Name.read .standard (String.ofList longArity).toList =
      .error (.numeralTooLong 4301) := by
    rw [String.toList_ofList]
    rwa [List.length_replicate] at failed
  exact ⟨rfl, describe_of_numeralTooLong (resolve_error_expected read_error)⟩

end TypeMismatch
