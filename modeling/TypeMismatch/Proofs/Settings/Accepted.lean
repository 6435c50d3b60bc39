import TypeMismatch.Proofs.Log.Level
import TypeMismatch.Proofs.Settings

/-!
# Accepted settings

Whatever a mapping holds, its settings (`from_mapping`) are the standard ones with the mapping laid
over them, or it is refused for the same reason (`ofMapping_eq_merge`).  What has been accepted is
accepted ever after (`accepted_settings`): given again as a mapping (`to_dict`) the settings are the
same, with the same limit of at least one level, and the level that they name can be set
(`apply_telemetry`), which the package then has.  That holds behind any number of mappings that were
laid over them in turn, since all that can be refused has been made a limit, a text or a name of a
level before.
-/

namespace TypeMismatch
namespace Settings
open Mapping

/-! ### Settings of a mapping -/

/-- **Settings of a mapping are the standard ones with the mapping laid over them**, and so are
their faults. -/
theorem ofMapping_eq_merge {m : Mapping} (h : m.Proper) : ofMapping m = standard.merge m := by
  rw [ofMapping_eq_update, merge_eq_update standard h]

/-- Settings are read again from their mapping. -/
theorem ofMapping_toMapping (s : Settings) : ofMapping s.toMapping = .ok s := by
  rw [ofMapping_eq_update, update_toMapping]

/-- Settings as a mapping have every key once. -/
theorem proper_toMapping (s : Settings) : s.toMapping.Proper := by
  have parser : [Value.text "max_depth"].Pairwise fun k l => k.isSameKey l = false := by decide
  have message : [Value.text "expected_label", .text "actual_label",
      .text "fallback_to_raw"].Pairwise fun k l => k.isSameKey l = false := by decide
  have telemetry : [Value.text "log_level"].Pairwise fun k l => k.isSameKey l = false := by decide
  have names : [Value.text "parser", .text "message", .text "telemetry"].Pairwise fun k l =>
      k.isSameKey l = false := by decide
  exact proper_of_forall (distinct_iff_keys.2 names)
    (List.forall_mem_cons.2 ⟨distinct_iff_keys.2 parser, List.forall_mem_cons.2
      ⟨distinct_iff_keys.2 message, List.forall_mem_singleton.2 (distinct_iff_keys.2 telemetry)⟩⟩)

/-! ### What lasts -/

/-- **The level that settings name can be set**, and then it is the level of the package; settings
that name none leave the log as it is. -/
theorem applyLevel_eq (log : Log) (s : Settings) :
    s.logLevel = none ∧ Command.applyLevel log s = log ∨
      ∃ name, s.logLevel = some name ∧
        log.setLevel (.text name.text) = .ok (Command.applyLevel log s) ∧
        (Command.applyLevel log s).level = .number name.number := by
  rw [Command.applyLevel]
  cases s.logLevel with
  | none => exact .inl ⟨rfl, rfl⟩
  | some name => exact .inr ⟨name, rfl, log.setLevel_text name, log.level_withLevel _⟩

/-- **Accepted settings are normalised and stay accepted.**  The settings of a mapping are the
standard ones with the mapping laid over them, or both have the same fault.  Settings that were
accepted, with any mappings laid over them in turn, are accepted again as they are, alone and over
the standard ones; their limit is one that a reader takes; and the level that they name, if any, is
one that the log takes, and then the package has it. -/
theorem accepted_settings {m : Mapping} (h : m.Proper) :
    ofMapping m = standard.merge m ∧
      ∀ (c s : Settings) (layers : List Mapping), ofMapping m = .ok c →
        layers.foldlM merge c = .ok s →
        ofMapping s.toMapping = .ok s ∧ standard.merge s.toMapping = .ok s ∧
        1 ≤ s.limit.levels ∧ Limit.ofInt? s.limit.levels = some s.limit ∧
        ∀ log : Log, s.logLevel = none ∧ Command.applyLevel log s = log ∨
          ∃ name, s.logLevel = some name ∧ LevelName.ofText? name.text = some name ∧
            log.setLevel (.text name.text) = .ok (Command.applyLevel log s) ∧
            (Command.applyLevel log s).level = .number name.number := by
  refine ⟨ofMapping_eq_merge h, fun c s layers _ _ => ?_⟩
  have again : ofMapping s.toMapping = .ok s := ofMapping_toMapping s
  refine ⟨again, ?_, s.limit.one_le, ofInt?_levels s.limit, fun log => ?_⟩
  · rw [← ofMapping_eq_merge s.proper_toMapping, again]
  · rcases applyLevel_eq log s with none | ⟨name, hn, set, level⟩
    · exact .inl none
    · exact .inr ⟨name, hn, name.ofText?_text, set, level⟩

/-- A level in lower case. -/
def levelLayer : Mapping := [("telemetry", .map [("log_level", "debug")])]

/-- The hypotheses are satisfiable, by a mapping with two more laid over it, of which the first one
takes the level away and the second one names another. -/
theorem accepted_settings_layers :
    firstLayer.Proper ∧ ofMapping firstLayer = standard.merge firstLayer ∧
      ∃ c s, ofMapping firstLayer = .ok c ∧ [secondLayer, levelLayer].foldlM merge c = .ok s ∧
        ofMapping s.toMapping = .ok s ∧
        Log.standard.setLevel (.text "DEBUG") = .ok (Command.applyLevel .standard s) ∧
        (Command.applyLevel .standard s).level = .number 10 := by
  have proper : firstLayer.Proper := proper_of_forall (by decide) (by decide)
  obtain ⟨alike, lasts⟩ := accepted_settings proper
  refine ⟨proper, alike, _, _, rfl, rfl, ?_⟩
  obtain ⟨again, -, -, -, level⟩ := lasts _ _ [secondLayer, levelLayer] rfl rfl
  rcases level .standard with ⟨none, -⟩ | ⟨name, named, -, set, level⟩
  · cases none
  · cases named
    exact ⟨again, set, level⟩

end Settings
end TypeMismatch
