import Mathlib.Control.Monad.Basic
import TypeMismatch.Proofs.Command.Settings
import TypeMismatch.Proofs.Log
import TypeMismatch.Proofs.Outline
import TypeMismatch.Proofs.Report

/-!
# How the command ends

A command line that makes a request of the main command (`main`) ends with an exit status and with
what it printed, or a failure leaves it (`run_ends`).  The status is two where a name is misread and
not shown as it was given, one where the settings are refused, an arity has too many digits, what is
to be printed has no encoding, or a handler cannot open its file, and zero otherwise; with a status
other than zero nothing is printed but one line of errors.

A failure that leaves the command is one that is unforeseen before the task, or a name was lost, or
a handler failed on a record of the task for another cause (`Escapes`); the last only if the log was
set up so.
-/

namespace TypeMismatch
namespace Command

/-! ### Tasks -/

/-- The names that a task reads: of a pair the actual one only if the expected one can be read. -/
inductive Reads (limit : Limit) : Task → Option String → Prop
  | parse {name json} : Reads limit (.parse name json) name
  | shorten {name} : Reads limit (.shorten name) name
  | expected {expected actual json} : Reads limit (.compare expected actual json) expected
  | actual {expected : String} {actual json a} : Name.read limit expected.toList = .ok a →
      Reads limit (.compare (some expected) actual json) actual

/-- How a name cannot be read: it is at fault, or has an arity with too many digits, or it was
lost. -/
inductive Unread (limit : Limit) : Option String → Failure → Prop
  | fault {source : String} {f} : Name.read limit source.toList = .error (.fault f) →
      Unread limit (some source) (.name f source)
  | tooLong {source : String} {digits} :
      Name.read limit source.toList = .error (.numeralTooLong digits) →
      Unread limit (some source) (.numeralTooLong digits)
  | lost : Unread limit none (.notText "list")

/-- Whether a task shows names that are at fault as they were given. -/
def showsRaw (settings : Settings) : Task → Bool
  | .compare _ _ _ => settings.fallbackToRaw
  | _ => false

/-- A name is not read exactly if it is lost, at fault, or has an arity with too many digits. -/
theorem unread_iff {limit : Limit} {name : Option String} {e : Failure} :
    (readName limit (operandValue name)).result = .error e ↔ Unread limit name e := by
  constructor
  · intro h
    cases name with
    | none =>
      obtain rfl := Except.error.inj h
      exact .lost
    | some source =>
      cases hr : Name.read limit source.toList with
      | ok s =>
        have read : (readName limit (operandValue (some source))).result = .ok s := readName_ok hr
        rw [read] at h
        cases h
      | error f =>
        have failed : (readName limit (operandValue (some source))).result =
            .error (f.within source) := readName_error hr
        rw [failed] at h
        obtain rfl := Except.error.inj h
        cases f with
        | fault f => exact .fault hr
        | numeralTooLong digits => exact .tooLong hr
  · rintro (h | h | -)
    · exact readName_error h
    · exact readName_error h
    · rfl

/-- A request that goes on with what never fails fails as its first part does. -/
theorem result_bind_eq_error_iff {α β : Type} {x : Traced α} {f : α → Traced β} {e : Failure}
    (hf : ∀ a, x.result = .ok a → ∃ b, (f a).result = .ok b) :
    (x >>= f).result = .error e ↔ x.result = .error e := by
  rw [Traced.result_bind, bind_eq_error_iff]
  refine ⟨?_, .inl⟩
  rintro (h | ⟨a, ha, h⟩)
  · exact h
  · obtain ⟨b, hb⟩ := hf a ha
    cases hb.symm.trans h

/-- A name that was read can be shortened. -/
theorem shortenName_eq_error_iff {limit : Limit} {v : Value} {e : Failure} :
    (shortenName limit v).result = .error e ↔ (readName limit v).result = .error e := by
  refine result_bind_eq_error_iff fun s hs => ?_
  obtain ⟨source, -, hr⟩ := readName_eq_ok hs
  rw [Signature.shortened_eq (Name.writable_of_read hr)]
  exact ⟨_, rfl⟩

/-- A name that was read can be printed. -/
theorem exists_printedSignature {limit : Limit} {v : Value} {s : Signature}
    (h : (readName limit v).result = .ok s) (json : Bool) :
    ∃ text, printedSignature s json = .ok text := by
  obtain ⟨source, -, hr⟩ := readName_eq_ok h
  rw [printedSignature, Signature.outline, Signature.outlineAt_eq (Name.writable_of_read hr)]
  cases json <;> exact ⟨_, rfl⟩

/-- A pair is not reported if it cannot be resolved, and not shown as it was given. -/
theorem describe_eq_error_iff {settings : Settings} {limit : Limit} {v w : Value} {e : Failure} :
    (describe settings limit v w).result = .error e ↔
      (resolve limit (.given v) (.given w)).result = .error e ∧
        (isNameFault e = true → settings.fallbackToRaw = false) := by
  rw [describe_result]
  cases (resolve limit (.given v) (.given w)).result with
  | ok p => exact ⟨nofun, nofun⟩
  | error e' =>
    rw [Except.error.injEq]
    cases e' with
    | name f source =>
      dsimp only
      split
      · rename_i raw
        refine ⟨nofun, ?_⟩
        rintro ⟨rfl, hf⟩
        exact absurd (hf rfl) (by rw [raw]; decide)
      · rename_i raw
        exact ⟨fun h => ⟨Except.error.inj h, fun _ => Bool.eq_false_iff.2 raw⟩,
          fun h => congrArg _ h.1⟩
    | _ =>
      refine ⟨fun h => ⟨Except.error.inj h, fun hf => ?_⟩, fun h => congrArg _ h.1⟩
      obtain rfl := Except.error.inj h
      cases hf

/-- Of a pair the first name that cannot be read is the expected one, or the actual one behind an
expected one that can be read. -/
theorem reads_compare_iff {limit : Limit} {expected actual : Option String} {json : Bool}
    {e : Failure} :
    (∃ name, Reads limit (.compare expected actual json) name ∧ Unread limit name e) ↔
      Unread limit expected e ∨
        ∃ a, (readName limit (operandValue expected)).result = .ok a ∧ Unread limit actual e := by
  constructor
  · rintro ⟨_, _ | _ | _ | ha, h⟩
    · exact .inl h
    · exact .inr ⟨_, readName_ok ha, h⟩
  · rintro (h | ⟨a, ha, h⟩)
    · exact ⟨expected, .expected, h⟩
    · cases expected with
      | none => cases ha
      | some source =>
        obtain ⟨_, hs, hr⟩ := readName_eq_ok ha
        cases hs
        exact ⟨actual, .actual hr, h⟩

/-- **A task fails as the first name that it cannot read**, unless that name is at fault and shown
as it was given. -/
theorem perform_eq_error_iff {settings : Settings} {task : Task} {e : Failure} :
    (perform settings task).result = .error e ↔
      (∃ name, Reads settings.limit task name ∧ Unread settings.limit name e) ∧
        (isNameFault e = true → showsRaw settings task = false) := by
  cases task with
  | compare expected actual json =>
    rw [perform, result_bind_eq_error_iff fun _ _ => ⟨_, rfl⟩, describe_eq_error_iff,
      resolve_eq_error_iff, reads_compare_iff, unread_iff, unread_iff]
    rfl
  | parse name json =>
    have printed : ∀ s, (readName settings.limit (operandValue name)).result = .ok s →
        ∃ text, (do
          let text ← Traced.of (printedSignature s json)
          pure (Text.points text) : Traced (List Text.Point)).result = .ok text := by
      intro s hs
      obtain ⟨text, ht⟩ := exists_printedSignature hs json
      rw [ht]
      exact ⟨_, rfl⟩
    rw [perform, result_bind_eq_error_iff printed, unread_iff]
    constructor
    · exact fun h => ⟨⟨name, .parse, h⟩, fun _ => rfl⟩
    · rintro ⟨⟨_, ⟨⟩, h⟩, -⟩
      exact h
  | shorten name =>
    rw [perform, result_bind_eq_error_iff fun _ _ => ⟨_, rfl⟩, shortenName_eq_error_iff, unread_iff]
    constructor
    · exact fun h => ⟨⟨name, .shorten, h⟩, fun _ => rfl⟩
    · rintro ⟨⟨_, ⟨⟩, h⟩, -⟩
      exact h

/-! ### Records -/

/-- The fault of a handler over the records of a task. -/
def outletFault? (log : Log) (settings : Settings) (task : Task) : Option OutletFault :=
  ((applyLevel log settings).shownUntilFault (perform settings task).records).2

/-- The outcomes of a request. -/
inductive Ends (machine : Machine) (files : Files) (log : Log) (r : Request) : Outcome → Prop
  /-- The task is done, and what it gives is printed. -/
  | done {s text} : settingsOf machine files r = .ok s → outletFault? log s r.task = none →
      (perform s r.task).result = .ok (Text.points text) →
      Ends machine files log r ⟨0, text ++ "\n", ""⟩
  /-- The task is done, but what it gives has no encoding. -/
  | unprintable {s text fault} : settingsOf machine files r = .ok s →
      outletFault? log s r.task = none → (perform s r.task).result = .ok text →
      Text.encode text = .error fault →
      Ends machine files log r ⟨1, "", "[typediff] error: " ++ fault.message ++ "\n"⟩
  /-- A name is at fault, and not shown as it was given. -/
  | misread {s name f source} : settingsOf machine files r = .ok s →
      outletFault? log s r.task = none → Reads s.limit r.task name →
      Unread s.limit name (.name f source) → showsRaw s r.task = false →
      Ends machine files log r ⟨2, "", "[typediff] parse error: " ++ f.message source ++ "\n"⟩
  /-- An arity of a name has too many digits. -/
  | tooLong {s name digits} : settingsOf machine files r = .ok s →
      outletFault? log s r.task = none → Reads s.limit r.task name →
      Unread s.limit name (.numeralTooLong digits) →
      Ends machine files log r ⟨1, "", "[typediff] error: " ++ Text.tooManyToRead digits ++ "\n"⟩
  /-- A handler cannot open its file for a record of the task. -/
  | outlet {s fault} : settingsOf machine files r = .ok s →
      outletFault? log s r.task = some fault → fault.isForeseen = true →
      Ends machine files log r ⟨1, "", "[typediff] error: " ++ fault.message ++ "\n"⟩
  /-- The overrides, the file or the settings are refused. -/
  | refused {e} : settingsOf machine files r = .error e → ¬Unforeseen machine files r e →
      Ends machine files log r ⟨1, "", "[typediff] error: " ++ e.message ++ "\n"⟩

/-- The failures that leave the command. -/
inductive Escapes (machine : Machine) (files : Files) (log : Log) (r : Request) : Failure → Prop
  /-- What goes wrong before the task is unforeseen. -/
  | unforeseen {e} : Unforeseen machine files r e → Escapes machine files log r e
  /-- A handler fails on a record of the task, and not because it cannot open its file. -/
  | outlet {s fault} : settingsOf machine files r = .ok s →
      outletFault? log s r.task = some fault → fault.isForeseen = false →
      Escapes machine files log r (.log (.outlet fault))
  /-- A name was lost. -/
  | lost {s} : settingsOf machine files r = .ok s → outletFault? log s r.task = none →
      Reads s.limit r.task none → Escapes machine files log r (.notText "list")

/-- A failure that is not told leaves the command. -/
theorem failed_of_untold {e : Failure} (h : isTold e = false) : failed e = .error e := by
  unfold failed
  split
  · cases h
  · exact if_neg (Bool.eq_false_iff.1 h)

/-- A failure that is told and is not one of a name ends the command with status one. -/
theorem failed_of_told {e : Failure} (name : isNameFault e = false) (h : isTold e = true) :
    failed e = .ok ⟨1, "", "[typediff] error: " ++ e.message ++ "\n"⟩ := by
  unfold failed
  split
  · cases name
  · exact if_pos h

section
variable {machine : Machine} {files : Files} {log : Log} {r : Request}

/-- Without settings the command ends as their failure says. -/
theorem carryOut_of_error {e : Failure} (h : settingsOf machine files r = .error e) :
    (carryOut machine files log r).result = failed e := by
  rw [carryOut, h]

/-- With settings, the task is done unless a handler fails. -/
theorem carryOut_of_ok {s : Settings} (h : settingsOf machine files r = .ok s) :
    (∀ fault, outletFault? log s r.task = some fault →
      (carryOut machine files log r).result = failed (.log (.outlet fault))) ∧
    (outletFault? log s r.task = none →
      (carryOut machine files log r).result = printed (perform s r.task).result) := by
  rw [carryOut, h]
  unfold outletFault?
  dsimp only
  rw [Traced.shownIn]
  cases hs : (applyLevel log s).shownUntilFault (perform s r.task).records with
  | mk shown fault =>
    cases fault with
    | none => exact ⟨nofun, fun _ => rfl⟩
    | some fault =>
      refine ⟨fun _ h => ?_, nofun⟩
      obtain rfl := Option.some.inj h
      rfl

/-- What has an encoding is printed. -/
theorem printed_points (text : String) :
    printed (.ok (Text.points text)) = .ok ⟨0, text ++ "\n", ""⟩ := by
  rw [printed, Text.encode_eq_ok_iff.2 rfl]

/-- What has no encoding is told. -/
theorem printed_of_error {text : List Text.Point} {fault : Text.EncodeFault}
    (h : Text.encode text = .error fault) :
    printed (.ok text) = .ok ⟨1, "", "[typediff] error: " ++ fault.message ++ "\n"⟩ := by
  rw [printed, h]
  rfl

/-- The ways in which the command ends are ways in which it ends. -/
theorem Ends.result {o : Outcome} (h : Ends machine files log r o) :
    (carryOut machine files log r).result = .ok o := by
  cases h with
  | done hs hf hp => rw [(carryOut_of_ok hs).2 hf, hp, printed_points]
  | unprintable hs hf hp he => rw [(carryOut_of_ok hs).2 hf, hp, printed_of_error he]
  | misread hs hf hr hu raw =>
    rw [(carryOut_of_ok hs).2 hf, perform_eq_error_iff.2 ⟨⟨_, hr, hu⟩, fun _ => raw⟩]
    rfl
  | tooLong hs hf hr hu =>
    rw [(carryOut_of_ok hs).2 hf, perform_eq_error_iff.2 ⟨⟨_, hr, hu⟩, nofun⟩]
    rfl
  | @outlet s fault hs hf foreseen =>
    have told : isTold (.log (.outlet fault)) = true := foreseen
    rw [(carryOut_of_ok hs).1 _ hf, failed_of_told rfl told]
    rfl
  | @refused e hs hu =>
    have told : isTold e = true := by
      by_contra untold
      exact hu (unforeseen_iff.2 ⟨hs, Bool.eq_false_iff.2 untold⟩)
    rw [carryOut_of_error hs, failed_of_told (settingsOf_not_name hs) told]

/-- The failures that leave the command leave it. -/
theorem Escapes.result {e : Failure} (h : Escapes machine files log r e) :
    (carryOut machine files log r).result = .error e := by
  cases h with
  | unforeseen h =>
    obtain ⟨hs, untold⟩ := unforeseen_iff.1 h
    rw [carryOut_of_error hs, failed_of_untold untold]
  | @outlet s fault hs hf unforeseen =>
    have untold : isTold (.log (.outlet fault)) = false := unforeseen
    rw [(carryOut_of_ok hs).1 _ hf, failed_of_untold untold]
  | lost hs hf hr =>
    rw [(carryOut_of_ok hs).2 hf, perform_eq_error_iff.2 ⟨⟨_, hr, .lost⟩, nofun⟩]
    rfl

end

end Command
end TypeMismatch
