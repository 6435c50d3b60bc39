import Mathlib.Control.Monad.Basic
import TypeMismatch.Command.Run
import TypeMismatch.Proofs.Result
import TypeMismatch.Proofs.Text
import TypeMismatch.Proofs.Value.Section

/-!
# Overrides laid over each other

Settings with two mappings laid over them one after the other (`merge`) are the settings with the
second mapping laid over the first one (`deep_update`), and the result laid over them (`merge_lay`).
In between the settings have been read: limits have been made numbers, labels texts, and what is not
understood has its standard value.  So what counts is, for every single setting, what a mapping says
about it (`asked`), nothing or a value or that there is none, and how the value is read (`reread`).
Laying mappings over each other composes what they say (`asked_lay`), with one exception: where both
say that a setting is a mapping, the two are combined.  No setting but a label tells one mapping
from another one, and a level that is a mapping is refused.
-/

namespace TypeMismatch

/-! ### How a mapping is read -/

namespace Value

/-- A mapping in writing begins with a brace. -/
theorem written_eq_of_map {v : Value} {es : List (Value × Value)} (h : v.expanded = map es) :
    ∃ rest, v.written.toList = '\x7b' :: rest := by
  rw [written, h, writtenFinite, bracketed, String.toList_append, String.toList_append]
  exact ⟨_, rfl⟩

/-- A mapping is written with a brace at its start. -/
theorem exists_written {v : Value} (h : v.isMapping = true) :
    ∃ rest, v.written.toList = '\x7b' :: rest := by
  cases v with
  | map es => exact written_eq_of_map (by rw [expanded, replaceAgain])
  | again isMap n parts =>
    rw [isMapping] at h
    cases hl : parts.lookup n with
    | none => rw [opened, hl] at h; cases h
    | some w =>
      cases parts with
      | nil => cases hl
      | cons p parts =>
        cases w with
        | map es =>
          have ring : (again isMap n (p :: parts)).expanded = map (replaceEntries
              (fun isMap m _ => expand (p :: parts) parts.length [n] isMap m) es) := by
            rw [expanded, replaceAgain, List.length_cons, expand, List.contains_nil,
              if_neg (by decide), hl]
            dsimp only
            rw [replaceAgain]
          exact written_eq_of_map ring
        | _ => rw [opened, hl] at h; cases h
  | _ => cases h

end Value

namespace Settings
open Mapping

variable {v : Value}

/-- A label is shown as itself. -/
theorem shown_ofPoints (ps : List Text.Point) : shown (.ofPoints ps) = .ok ps := by
  rw [shown, if_pos (Value.isWritable_ofPoints ps), Value.shown_ofPoints]

/-- A mapping in the place of the limit gives the standard limit. -/
theorem readLimit_of_isMapping (h : v.isMapping = true) : readLimit v = .ok .standard := by
  cases v with
  | map es => rfl
  | again isMap n parts => rfl
  | _ => cases h

/-- A mapping in the place of a flag leaves the flag. -/
theorem flag_of_isMapping (h : v.isMapping = true) (fallback : Bool) :
    flag v fallback = fallback := by
  cases v with
  | map es => rfl
  | again isMap n parts => rfl
  | _ => cases h

/-- No level has a name that begins with a brace. -/
theorem ofText?_brace (rest : List Char) :
    LevelName.ofText? (String.ofList ('\x7b' :: rest)) = none := by
  unfold LevelName.ofText?
  rw [List.find?_eq_none]
  intro n _ h
  have first := congrArg String.toList (eq_of_beq h)
  rw [String.toList_ofList] at first
  cases n <;> cases first

/-- The name of a level in a string. -/
theorem levelNamed?_points (s : String) : levelNamed? (Text.points s) =
    LevelName.ofText? (String.ofList (Text.upper (Text.trim s.toList))) := by
  rw [levelNamed?, Text.points, Text.chars?_pointsOf]
  rfl

/-- A level is read from null, from the empty text, or from a name of a level. -/
theorem readLevel_eq_ok {level : Option LevelName} (h : readLevel v = .ok level) :
    v = .null ∨ v = .text "" ∨ (levelNamed? v.shown).isSome := by
  unfold readLevel at h
  split at h
  · exact .inl rfl
  · exact .inr (.inl rfl)
  · obtain ⟨s, hs, h⟩ := ok_of_bind h
    rw [shown] at hs
    split at hs
    · obtain rfl := Except.ok.inj hs
      split at h
      · rename_i name
        exact .inr (.inr (by rw [name]; rfl))
      · cases h
    · cases hs

/-- A mapping is no level. -/
theorem readLevel_of_isMapping (h : v.isMapping = true) (level : Option LevelName) :
    readLevel v ≠ .ok level := by
  intro hr
  rcases readLevel_eq_ok hr with rfl | rfl | named
  · cases h
  · cases h
  obtain ⟨rest, hw⟩ := Value.exists_written h
  have shown : v.shown = Text.points v.written := by
    cases v with
    | map es => rfl
    | again isMap n parts => rfl
    | _ => cases h
  have brace : Text.upperChar '\x7b' = ['\x7b'] := by decide
  have trimmed := Text.trimEnd_append_cons [] rest (show Text.isBlank '\x7b' = false by decide)
  rw [shown, levelNamed?_points, hw, Text.trim_eq_trimEnd (by rintro _ ⟨⟩; decide),
    ← List.nil_append ('\x7b' :: rest), trimmed, List.nil_append, Text.upper, List.flatMap_cons,
    brace, List.singleton_append, ofText?_brace] at named
  cases named

/-! ### Settings one by one -/

/-- A setting when a mapping with something asked of it is laid over: it stays if nothing is, and
else it is read from the value, or from a standard value if there is none. -/
def reread {α : Type} (read : Value → Except SettingsFault α) (fallback : Value) (old : α) :
    Option (Option Value) → Except SettingsFault α
  | none => .ok old
  | some v => read (v.getD fallback)

/-- The truth value of a setting, true if it has none. -/
def readFlag (v : Value) : Except SettingsFault Bool := .ok (flag v standard.fallbackToRaw)

/-- Settings of which something is asked. -/
def update (s : Settings) (asks : String → String → Option (Option Value)) :
    Except SettingsFault Settings := do
  let limit ← reread readLimit .null s.limit (asks "parser" "max_depth")
  let expectedLabel ←
    reread shown (.ofPoints standard.expectedLabel) s.expectedLabel
      (asks "message" "expected_label")
  let actualLabel ←
    reread shown (.ofPoints standard.actualLabel) s.actualLabel (asks "message" "actual_label")
  let fallbackToRaw ← reread readFlag .null s.fallbackToRaw (asks "message" "fallback_to_raw")
  let logLevel ← reread readLevel .null s.logLevel (asks "telemetry" "log_level")
  pure ⟨limit, expectedLabel, actualLabel, fallbackToRaw, logLevel⟩

/-- A setting is read from a mapping alone as from what the mapping asks of the standard one. -/
theorem reread_asked {α : Type} {read : Value → Except SettingsFault α} {fallback : Value} {old : α}
    (h : read fallback = .ok old) (m : Mapping) (name key : String) :
    reread read fallback old (asked m name key) = read (getD (sectionAt m name) key fallback) := by
  rw [getD_sectionAt]
  cases asked m name key with
  | none => exact h.symm
  | some v => rfl

/-- **Settings of a mapping are the standard ones with the mapping laid over them.** -/
theorem ofMapping_eq_update (m : Mapping) : ofMapping m = standard.update (asked m) := by
  have limit : readLimit .null = .ok standard.limit := rfl
  have expected := shown_ofPoints standard.expectedLabel
  have actual := shown_ofPoints standard.actualLabel
  have fallback : readFlag .null = .ok standard.fallbackToRaw := rfl
  have level : readLevel .null = .ok standard.logLevel := rfl
  rw [update, reread_asked limit, reread_asked expected, reread_asked actual, reread_asked fallback,
    reread_asked level]
  rfl

/-- What of one setting is asked later can be asked at once, if the setting is read alike from any
mapping. -/
theorem reread_composes {α : Type} {read : Value → Except SettingsFault α} {fallback : Value}
    {old new : α} {a b c : Option (Option Value)} (h : Composes a b c)
    (first : reread read fallback old a = .ok new)
    (alike : ∀ u v w, a = some (some u) → b = some (some v) → u.isMapping = true →
      v.isMapping = true → w.isMapping = true → read v = read w) :
    reread read fallback new b = reread read fallback old c := by
  cases h with
  | kept => exact first.symm
  | replaced => rfl
  | combined hu hv hw => exact alike _ _ _ rfl rfl hu hv hw

/-- The sections that are read. -/
def sectionNames : List String := ["parser", "message", "telemetry"]

/-- The settings that are labels. -/
def labelKeys : List String := ["expected_label", "actual_label"]

/-- **What is asked of settings later can be asked at once**, unless mappings are asked for as one
label twice. -/
theorem update_update {s s' : Settings} {a b c : String → String → Option (Option Value)}
    (h : ∀ name ∈ sectionNames, ∀ key, Composes (a name key) (b name key) (c name key))
    (labels : ∀ key ∈ labelKeys, ∀ u v, a "message" key = some (some u) →
      b "message" key = some (some v) → ¬(u.isMapping = true ∧ v.isMapping = true))
    (first : s.update a = .ok s') : s'.update b = s.update c := by
  obtain ⟨limit, hlimit, first⟩ := ok_of_bind first
  obtain ⟨expected, hexpected, first⟩ := ok_of_bind first
  obtain ⟨actual, hactual, first⟩ := ok_of_bind first
  obtain ⟨fallback, hfallback, first⟩ := ok_of_bind first
  obtain ⟨level, hlevel, first⟩ := ok_of_bind first
  obtain rfl := Except.ok.inj first
  have parser := h "parser" (by decide)
  have message := h "message" (by decide)
  have telemetry := h "telemetry" (by decide)
  unfold update
  rw [reread_composes (parser "max_depth") hlimit,
    reread_composes (message "expected_label") hexpected,
    reread_composes (message "actual_label") hactual,
    reread_composes (message "fallback_to_raw") hfallback,
    reread_composes (telemetry "log_level") hlevel]
  · intro u v w ha _ hu _ _
    rw [ha] at hlevel
    exact absurd hlevel (readLevel_of_isMapping hu level)
  · intro u v w _ _ _ hv hw
    rw [readFlag, readFlag, flag_of_isMapping hv, flag_of_isMapping hw]
  · exact fun u v w ha hb hu hv _ => absurd ⟨hu, hv⟩ (labels "actual_label" (by decide) u v ha hb)
  · exact fun u v w ha hb hu hv _ => absurd ⟨hu, hv⟩ (labels "expected_label" (by decide) u v ha hb)
  · intro u v w _ _ _ hv hw
    rw [readLimit_of_isMapping hv, readLimit_of_isMapping hw]

/-! ### Settings given again -/

/-- The number of levels of a limit is read as that limit. -/
theorem ofInt?_levels (limit : Limit) : Limit.ofInt? limit.levels = some limit := by
  have one_le : (1 : Int) ≤ limit.levels := by exact_mod_cast limit.one_le
  rw [Limit.ofInt?, dif_pos one_le]
  rfl

/-- The spelling of a level is read as that level. -/
theorem readLevel_text (name : LevelName) : readLevel name.text = .ok (some name) := by
  cases name <;> rfl

/-- What is asked by the mapping of settings: every setting, by a value from which it is read. -/
theorem asked_toMapping (s : Settings) :
    asked s.toMapping "parser" "max_depth" = some (some (.int s.limit.levels)) ∧
      asked s.toMapping "message" "expected_label" = some (some (.ofPoints s.expectedLabel)) ∧
      asked s.toMapping "message" "actual_label" = some (some (.ofPoints s.actualLabel)) ∧
      asked s.toMapping "message" "fallback_to_raw" = some (some (.bool s.fallbackToRaw)) ∧
      ∃ v, asked s.toMapping "telemetry" "log_level" = some (some v) ∧
        readLevel v = .ok s.logLevel := by
  refine ⟨rfl, rfl, rfl, rfl, ?_⟩
  obtain ⟨limit, expected, actual, fallback, level⟩ := s
  cases level with
  | none => exact ⟨.null, rfl, rfl⟩
  | some name => exact ⟨name.text, rfl, readLevel_text name⟩

/-- **Settings given again as a mapping are the same settings.** -/
theorem update_toMapping (s : Settings) : standard.update (asked s.toMapping) = .ok s := by
  obtain ⟨limit, expected, actual, fallback, v, level, hv⟩ := asked_toMapping s
  have own : readLimit (.int s.limit.levels) = .ok s.limit := by
    simp [readLimit, Value.isInfinite, Value.whole?, ofInt?_levels]
  rw [update, limit, expected, actual, fallback, level]
  simp only [reread, Option.getD_some, own, hv, shown_ofPoints]
  rfl

/-- **Laying a mapping over settings asks it of each of them.** -/
theorem merge_eq_update (s : Settings) {m : Mapping} (h : m.Proper) :
    s.merge m = s.update (asked m) := by
  cases m with
  | nil => rfl
  | cons e m =>
    have laid : s.merge (e :: m) = ofMapping (lay s.toMapping (e :: m)) := rfl
    obtain ⟨-, expected, actual, -⟩ := asked_toMapping s
    have sections : ∀ name ∈ sectionNames, ∀ u, get? s.toMapping name = some u →
        u.isMapping = true := by
      intro name hn u hu
      simp only [sectionNames, List.mem_cons, List.not_mem_nil, or_false] at hn
      rcases hn with rfl | rfl | rfl <;> obtain rfl := Option.some.inj hu <;> rfl
    have composes : ∀ name ∈ sectionNames, ∀ key, Composes (asked s.toMapping name key)
        (asked (e :: m) name key) (asked (lay s.toMapping (e :: m)) name key) :=
      fun name hn => asked_lay h fun u _ hu _ _ => sections name hn u hu
    rw [laid, ofMapping_eq_update]
    refine (update_update composes (fun key hk u v hu _ => ?_) (update_toMapping s)).symm
    simp only [labelKeys, List.mem_cons, List.not_mem_nil, or_false] at hk
    rcases hk with rfl | rfl
    · rw [expected] at hu
      obtain rfl := Option.some.inj (Option.some.inj hu)
      exact fun h => absurd h.1 (by rw [Value.isMapping_ofPoints]; decide)
    · rw [actual] at hu
      obtain rfl := Option.some.inj (Option.some.inj hu)
      exact fun h => absurd h.1 (by rw [Value.isMapping_ofPoints]; decide)

/-! ### Overrides that compose -/

/-- Where one mapping can be laid over another one before both are laid over settings: no section
that is a mapping is laid over something else, and no label that is a mapping over another one. -/
structure Apart (first second : Mapping) : Prop where
  sections : ∀ name ∈ sectionNames, ∀ u v, get? first (.text name) = some u →
    get? second (.text name) = some v → v.isMapping = true → u.isMapping = true
  labels : ∀ key ∈ labelKeys, ∀ u v,
    get? (sectionAt first (.text "message")) (.text key) = some u →
    get? (sectionAt second (.text "message")) (.text key) = some v →
    ¬(u.isMapping = true ∧ v.isMapping = true)

instance (first second : Mapping) : Decidable (Apart first second) :=
  decidable_of_iff ((sectionNames.all fun name => (get? second name).all fun v =>
      !v.isMapping || (get? first name).all Value.isMapping) = true ∧
    (labelKeys.all fun key => (get? (sectionAt first "message") key).all fun u =>
      (get? (sectionAt second "message") key).all fun v =>
        !(u.isMapping && v.isMapping)) = true) <| by
    simp only [List.all_eq_true, Option.all_eq_true, Bool.or_eq_true, Bool.not_eq_true',
      Bool.and_eq_false_iff]
    constructor
    · rintro ⟨sections, labels⟩
      refine ⟨fun name hn u v hu hv hm => ?_, fun key hk u v hu hv hm => ?_⟩
      · exact ((sections name hn v hv).resolve_left (by rw [hm]; decide)) u hu
      · rcases labels key hk u hu v hv with h | h
        · exact absurd hm.1 (by rw [h]; decide)
        · exact absurd hm.2 (by rw [h]; decide)
    · intro apart
      refine ⟨fun name hn v hv => ?_, fun key hk u hu v hv => ?_⟩
      · cases hm : v.isMapping with
        | false => exact .inl rfl
        | true => exact .inr fun u hu => apart.sections name hn u v hu hv hm
      · cases hm : u.isMapping with
        | false => exact .inl rfl
        | true => exact .inr (Bool.eq_false_iff.2 fun h => apart.labels key hk u v hu hv ⟨hm, h⟩)

/-- What is asked of a key is under the key of the section. -/
theorem get?_of_asked {m : Mapping} {name key : String} {v : Value}
    (h : asked m name key = some (some v)) : get? (sectionAt m name) key = some v := by
  cases hs : get? m name with
  | none => rw [asked_of_none hs] at h; cases h
  | some w =>
    rw [sectionAt_eq hs]
    cases hw : w.isMapping with
    | false => rw [asked_of_not_isMapping hs hw] at h; cases h
    | true =>
      rw [asked_of_isMapping hs hw] at h
      obtain ⟨u, hu, he⟩ := Option.map_eq_some_iff.1 h
      rw [hu, Option.some.inj he]

/-- Layers that are apart update settings one after the other as they do together. -/
theorem Apart.update {first second : Mapping} (apart : Apart first second) (h : second.Proper)
    {s s' : Settings} (hs : s.update (asked first) = .ok s') :
    s'.update (asked second) = s.update (asked (lay first second)) :=
  update_update (fun name hn => asked_lay h (apart.sections name hn))
    (fun key hk u v hu hv => apart.labels key hk u v (get?_of_asked hu) (get?_of_asked hv)) hs

/-- **Override layers compose.**  If settings are accepted with a first mapping laid over them, a
second one laid over the result gives the same settings, or the same fault, as the second mapping
laid over the first and both laid over the settings at once.  So it is with a configuration file
whose settings are accepted and the overrides of a command: they are read as one mapping. -/
theorem merge_lay :
    (∀ (c s : Settings) (first second : Mapping), first.Proper → second.Proper →
      Apart first second → c.merge first = .ok s → s.merge second = c.merge (lay first second)) ∧
    ∀ (files : Files) (path : String) (m overrides : Mapping) (s : Settings), overrides.Proper →
      Apart m overrides → files.configuration (Path.ofString path) = .ok m → ofMapping m = .ok s →
      Command.loadSettings files (some path) (.map overrides) =
        (ofMapping (lay m overrides)).mapError .settings := by
  refine ⟨fun c s first second h₁ h₂ apart hs => ?_,
    fun files path m overrides s h apart hm hs => ?_⟩
  · rw [merge_eq_update c h₁] at hs
    rw [merge_eq_update s h₂, merge_eq_update c (h₁.lay h₂), apart.update h₂ hs]
  · have base : Command.baseSettings files (some path) = .ok s := by
      rw [Command.baseSettings, hm]
      exact congrArg (Except.mapError Failure.settings) hs
    have merged : s.merge overrides = ofMapping (lay m overrides) := by
      rw [ofMapping_eq_update] at hs
      rw [merge_eq_update s h, ofMapping_eq_update, apart.update h hs]
    rw [Command.loadSettings, base]
    exact congrArg (Except.mapError _) merged

/-! ### An instance -/

/-- A limit in writing, a label that is a mapping, and a level with blanks around it. -/
def firstLayer : Mapping :=
  [("parser", .map [("max_depth", "8"), ("other", .map [("a", .int 1)])]),
   ("message", .map [("expected_label", .map [("a", .int 1)])]),
   ("telemetry", .map [("log_level", " warn ")])]

/-- A limit that is a mapping, another label, and no mapping where there was one. -/
def secondLayer : Mapping :=
  [("parser", .map [("max_depth", .map []), ("other", .map [("b", .int 2)])]),
   ("message", .map [("expected_label", .int 5), ("fallback_to_raw", "off")]),
   ("telemetry", .null)]

/-- Files of which every one sets the limit to five. -/
def limitFiles : Files :=
  { Files.none with locate := fun _ => .file "parser: \x7bmax_depth: 5\x7d\n".toUTF8.toList }

/-- The hypotheses are satisfiable, by layers that compose to other settings than the first ones,
and by a file with overrides. -/
theorem merge_lay_layers :
    (∃ s t, standard.merge firstLayer = .ok s ∧ s.merge secondLayer = .ok t ∧
      s.merge secondLayer = standard.merge (lay firstLayer secondLayer)) ∧
    ∃ m s, limitFiles.configuration (Path.ofString "a.yaml") = .ok m ∧ ofMapping m = .ok s ∧
      Command.loadSettings limitFiles (some "a.yaml") (.map secondLayer) =
        (ofMapping (lay m secondLayer)).mapError .settings := by
  obtain ⟨layers, file⟩ := merge_lay
  have first_proper : firstLayer.Proper := proper_of_forall (by decide) (by decide)
  have second_proper : secondLayer.Proper := proper_of_forall (by decide) (by decide)
  have apart : Apart firstLayer secondLayer := by decide
  refine ⟨⟨_, _, rfl, rfl, layers standard _ firstLayer secondLayer first_proper second_proper apart
    rfl⟩, ?_⟩
  have read : (limitFiles.configuration (Path.ofString "a.yaml")).toOption.any (fun m =>
      Apart m secondLayer &&
        ofMapping m = .ok { standard with limit := ⟨5, by decide⟩ }) = true := by
    decide +kernel
  obtain ⟨m, hm, holds⟩ := (Option.any_eq_true _ _).1 read
  rw [Bool.and_eq_true, decide_eq_true_eq, decide_eq_true_eq] at holds
  have configuration : limitFiles.configuration (Path.ofString "a.yaml") = .ok m := by
    cases hc : limitFiles.configuration (Path.ofString "a.yaml") with
    | error e => rw [hc] at hm; cases hm
    | ok m' => rw [hc] at hm; exact congrArg Except.ok (Option.some.inj hm)
  exact ⟨m, _, configuration, holds.2, file limitFiles "a.yaml" m secondLayer _ second_proper
    holds.1 configuration holds.2⟩

end Settings
end TypeMismatch
