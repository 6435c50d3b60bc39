import TypeMismatch.Log

/-!
# The level of the package

A logger that is changed exists afterwards and has been changed (`Places.logger?_change`), whatever
stood under its name before: a logger, a gap above other loggers, or nothing.  So the package's
logger has the level that `set_level` gave it last (`Log.level_withLevel`), and every name of a
level can be given (`Log.setLevel_text`).
-/

namespace TypeMismatch
namespace Places

variable (places : Places) (name : String)

/-- Under the name of the first place stands the first place. -/
theorem get?_cons (e : String × Place) (other : String) :
    get? (e :: places) other = if other = e.1 then some e.2 else get? places other := by
  obtain ⟨key, place⟩ := e
  unfold get?
  rw [List.lookup_cons]
  by_cases h : other = key
  · rw [if_pos h, h, beq_self_eq_true]
  · rw [if_neg h, beq_false_of_ne h]

/-- A place that is added stands under its name unless another one did. -/
theorem get?_append (e : String × Place) (other : String) :
    get? (places ++ [e]) other =
      (get? places other).or (if other = e.1 then some e.2 else none) := by
  have single : get? [e] other = if other = e.1 then some e.2 else none := get?_cons [] e other
  rw [← single]
  exact List.lookup_append

/-- Where something stands under a name it can be replaced. -/
theorem get?_map_replace (place : Place) (other : String) :
    get? (places.map fun e => if e.1 = name then (name, place) else e) other =
      if other = name then (places.get? name).map fun _ => place else places.get? other := by
  induction places with
  | nil => exact (ite_self _).symm
  | cons e places ih =>
    rw [List.map_cons, get?_cons, get?_cons, get?_cons, ih]
    by_cases hk : e.1 = name
    · subst hk
      by_cases ho : other = e.1 <;> simp [ho]
    · by_cases ho : other = name
      · simp [ho, hk, Ne.symm hk]
      · simp [ho, hk]

/-- **What is put under a name is found there**, and nothing else changes. -/
theorem get?_put (place : Place) (other : String) :
    (places.put name place).get? other =
      if other = name then some place else places.get? other := by
  unfold put
  split
  · rename_i h
    obtain ⟨found, hf⟩ := Option.isSome_iff_exists.1 h
    rw [get?_map_replace, hf, Option.map_some]
  · rename_i h
    rw [Option.not_isSome_iff_eq_none] at h
    rw [get?_append]
    by_cases ho : other = name
    · rw [ho, h, Option.none_or]
    · rw [if_neg ho, if_neg ho, Option.or_none]

/-- A logger that was put under a name is found there. -/
theorem logger?_put (l : Logger) : (places.put name (.logger l)).logger? name = some l := by
  rw [logger?, get?_put, if_pos rfl]

/-- A name that has been asked for has a logger. -/
theorem exists_logger?_create : ∃ l, (places.create name).logger? name = some l := by
  unfold create
  split
  · rename_i l h
    exact ⟨l, by rw [logger?, h]⟩
  · exact ⟨_, logger?_put _ _ _⟩
  · exact ⟨_, logger?_put _ _ _⟩

/-- **A changed logger has been changed.** -/
theorem logger?_change (f : Logger → Logger) :
    ∃ l, (places.create name).logger? name = some l ∧
      (places.change name f).logger? name = some (f l) := by
  obtain ⟨l, h⟩ := places.exists_logger?_create name
  refine ⟨l, h, ?_⟩
  rw [change]
  simp only [h]
  exact logger?_put _ _ _

end Places

namespace Log

/-- The package has the level that it was given. -/
theorem level_withLevel (log : Log) (level : Level) : (log.withLevel level).level = level := by
  obtain ⟨l, -, h⟩ := log.places.logger?_change package fun l => { l with level := level }
  rw [Log.level, withLevel, changeLogger, h]
  rfl

/-- **Every name of a level can be given**, in the spelling in which it is kept. -/
theorem setLevel_text (log : Log) (name : LevelName) :
    log.setLevel (.text name.text) = .ok (log.withLevel (.ofName name)) := by
  have known : levelOf (upper (.text name.text)) = .ok (.ofName name) := by
    cases name <;> rfl
  rw [setLevel, known]
  rfl

end Log
end TypeMismatch
