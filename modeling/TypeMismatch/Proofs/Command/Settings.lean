import TypeMismatch.Command.Run
import TypeMismatch.Proofs.Result

/-!
# What goes wrong before the task

The settings of a request come from its overrides (`parse_overrides`) and its file
(`load_configuration`), and most of what is wrong with these is told.  What is not told is said by
what was asked for (`Unforeseen`, `unforeseen_iff`): a literal that has no value or on which the
machine gives up, an override or a file name that was lost, a document with an unforeseen fault, and
an infinite limit, in the file or once the overrides are laid over its settings.  Overrides are
taken in order and the first failure counts (`overridesOf_eq_error_iff`), and the file is read after
them, so each of these is reached only if what comes before it has been passed.
-/

namespace TypeMismatch
namespace Command

variable {machine : Machine}

/-! ### Overrides -/

/-- How overrides fail: one of them, behind others that were taken, fails or was lost. -/
inductive OverridesFail (machine : Machine) (items : List (Option String)) : Failure → Prop
  | item {before item after m fault} : items = before.map some ++ some item :: after →
      Override.mapping machine before = .ok m → Override.placeItem machine m item = .error fault →
      OverridesFail machine items (.override fault)
  | lost {before after m} : items = before.map some ++ none :: after →
      Override.mapping machine before = .ok m →
      OverridesFail machine items .lostOverride

/-- The overrides before the first that was lost. -/
def textsOf (items : List (Option String)) : List String :=
  (items.takeWhile (·.isSome)).filterMap id

/-- The texts before the first word that was lost are those of the words. -/
theorem textsOf_append (texts : List String) (rest : List (Option String)) :
    textsOf (texts.map some ++ rest) = texts ++ textsOf rest := by
  induction texts with
  | nil => rfl
  | cons text texts ih => exact congrArg (text :: ·) ih

/-- Overrides are texts up to the first that was lost, if there is one. -/
theorem eq_map_textsOf (items : List (Option String)) :
    items = (textsOf items).map some ∨
      ∃ after, items = (textsOf items).map some ++ none :: after := by
  induction items with
  | nil => exact .inl rfl
  | cons item items ih =>
    cases item with
    | none => exact .inr ⟨items, rfl⟩
    | some text =>
      rcases ih with h | ⟨after, h⟩
      · exact .inl (congrArg (some text :: ·) h)
      · exact .inr ⟨after, congrArg (some text :: ·) h⟩

/-- Overrides are placed up to the first one that is lost, and if one is, that is the failure. -/
theorem overridesOf_eq (items : List (Option String)) :
    overridesOf machine items =
      (Override.mapping machine (textsOf items)).mapError .override >>= fun m =>
      if (textsOf items).length = items.length then .ok m else .error .lostOverride := rfl

/-- **Overrides are taken in order, and fail as the first that cannot be taken.** -/
theorem overridesOf_eq_error_iff {items : List (Option String)} {e : Failure} :
    overridesOf machine items = .error e ↔ OverridesFail machine items e := by
  rw [overridesOf_eq, bind_eq_error_iff, mapError_eq_error_iff]
  constructor
  · rintro (⟨fault, h, rfl⟩ | ⟨m, hm, h⟩)
    · obtain ⟨before, item, after, m, ht, hm, hp⟩ := foldlM_eq_error_iff.1 h
      have split := eq_map_textsOf items
      rw [ht, List.map_append, List.map_cons] at split
      rcases split with he | ⟨rest, he⟩
      · exact .item he hm hp
      · rw [List.append_assoc, List.cons_append] at he
        exact .item he hm hp
    · split at h
      · cases h
      · rename_i hl
        obtain rfl := Except.error.inj h
        rcases eq_map_textsOf items with he | ⟨after, he⟩
        · refine absurd ?_ hl
          rw [he, List.length_map, ← he]
        · exact .lost he (mapError_eq_ok_iff.1 hm)
  · rintro (⟨rfl, hm, hp⟩ | @⟨before, after, m, rfl, hm⟩)
    · refine .inl ⟨_, ?_, rfl⟩
      rw [textsOf_append]
      exact foldlM_eq_error_iff.2 ⟨_, _, _, _, rfl, hm, hp⟩
    · have texts : textsOf (before.map some ++ none :: after) = before := by
        rw [textsOf_append]
        exact List.append_nil before
      rw [texts]
      refine .inr ⟨m, mapError_eq_ok_iff.2 hm, if_neg ?_⟩
      rw [List.length_append, List.length_map, List.length_cons]
      omega

/-! ### Settings -/

/-- The value that a mapping gives for the nesting limit. -/
def limitIn (m : Mapping) : Value := Mapping.getD (Mapping.sectionAt m "parser") "max_depth" .null

/-- What goes wrong before the task without being foreseen. -/
inductive Unforeseen (machine : Machine) (files : Files) (r : Request) : Failure → Prop
  /-- The text of an override that could be placed is a literal without a value, or the machine
  gives up on it. -/
  | literal {before item after m o fault} :
      r.overrides = before.map some ++ some item :: after →
      Override.mapping machine before = .ok m →
      Override.ofItem item = .ok o → Mapping.isBlocked m o.path = false →
      Override.valueOf machine o.text = .error fault → Unforeseen machine files r (.override fault)
  /-- An override was lost. -/
  | lostOverride {before after m} : r.overrides = before.map some ++ none :: after →
      Override.mapping machine before = .ok m → Unforeseen machine files r .lostOverride
  /-- The name of the file was lost. -/
  | lostPath {m} : overridesOf machine r.overrides = .ok m → r.config = some none →
      Unforeseen machine files r .lostPath
  /-- A part of the document has no value, for a cause that is not told. -/
  | contents {m path fault} : overridesOf machine r.overrides = .ok m →
      r.config = some (some path) →
      files.document (Path.ofString path) = .error (.contents fault) → isForeseen fault = false →
      Unforeseen machine files r (.file (.contents fault))
  /-- The limit in the file is infinite. -/
  | limit {m path c} : overridesOf machine r.overrides = .ok m → r.config = some (some path) →
      files.configuration (Path.ofString path) = .ok c → (limitIn c).isInfinite = true →
      Unforeseen machine files r (.settings .infiniteLimit)
  /-- The limit is infinite once the overrides are laid over the settings of the file. -/
  | laidLimit {m path s} : overridesOf machine r.overrides = .ok m →
      r.config = Option.map some path →
      baseSettings files path = .ok s → m ≠ [] →
      (limitIn (Mapping.lay s.toMapping m)).isInfinite = true →
      Unforeseen machine files r (.settings .infiniteLimit)

/-- An item without a path is told. -/
theorem ofItem_told {item : String} {fault : OverrideFault}
    (h : Override.ofItem item = .error fault) : isTold (.override fault) = true := by
  unfold Override.ofItem at h
  split at h
  · cases h
    rfl
  · split at h
    · cases h
      rfl
    · cases h

/-- A literal without a value is not told, nor is that the machine gives up. -/
theorem valueOf_untold {text : String} {fault : OverrideFault}
    (h : Override.valueOf machine text = .error fault) : isTold (.override fault) = false := by
  unfold Override.valueOf at h
  split at h
  · cases h
    rfl
  · split at h <;> cases h <;> rfl

/-- An item leaves the command exactly if it has its place and its value is not read. -/
theorem placeItem_untold_iff {m : Mapping} {item : String} {fault : OverrideFault} :
    Override.placeItem machine m item = .error fault ∧ isTold (.override fault) = false ↔
      ∃ o, Override.ofItem item = .ok o ∧ Mapping.isBlocked m o.path = false ∧
        Override.valueOf machine o.text = .error fault := by
  unfold Override.placeItem
  rw [bind_eq_error_iff]
  constructor
  · rintro ⟨h | ⟨o, ho, h⟩, untold⟩
    · rw [ofItem_told h] at untold
      cases untold
    · split at h
      · cases h
        cases untold
      · rename_i free
        rcases bind_eq_error_iff.1 h with hv | ⟨_, _, ⟨⟩⟩
        exact ⟨o, ho, Bool.eq_false_iff.2 free, hv⟩
  · rintro ⟨o, ho, free, hv⟩
    refine ⟨.inr ⟨o, ho, ?_⟩, valueOf_untold hv⟩
    rw [free, hv]
    rfl

/-- A file is refused without being told for what its document holds. -/
theorem configuration_untold_iff {files : Files} {path : Path} {fault : FileFault} :
    files.configuration path = .error fault ∧ isTold (.file fault) = false ↔
      ∃ f, fault = .contents f ∧ files.document path = .error (.contents f) ∧
        isForeseen f = false := by
  unfold Files.configuration
  rw [bind_eq_error_iff]
  constructor
  · rintro ⟨h | ⟨v, -, h⟩, untold⟩
    · cases fault with
      | contents f => exact ⟨f, rfl, h, untold⟩
      | _ => cases untold
    · split at h <;> cases h
      cases untold
  · rintro ⟨f, rfl, h, hf⟩
    exact ⟨.inl h, hf⟩

/-- Of the faults of settings only an infinite limit is not told. -/
theorem settingsFault_untold_iff {fault : SettingsFault} :
    isTold (.settings fault) = false ↔ fault = .infiniteLimit := by
  cases fault <;> simp [isTold]

/-- A limit is infinite exactly if the value for it is an infinity. -/
theorem readLimit_infinite_iff {v : Value} :
    Settings.readLimit v = .error .infiniteLimit ↔ v.isInfinite = true := by
  unfold Settings.readLimit
  split
  · rename_i h
    simp [h]
  · rename_i h
    refine ⟨fun hr => ?_, fun hi => absurd hi h⟩
    split at hr
    · cases hr
    · split at hr <;> cases hr

/-- Only an infinite limit is refused without being told. -/
theorem ofMapping_infinite_iff {m : Mapping} :
    Settings.ofMapping m = .error .infiniteLimit ↔ (limitIn m).isInfinite = true := by
  have shown : ∀ v, Settings.shown v ≠ .error .infiniteLimit := fun v => by
    unfold Settings.shown
    split <;> nofun
  have level : ∀ v, Settings.readLevel v ≠ .error .infiniteLimit := fun v h => by
    unfold Settings.readLevel at h
    split at h
    · cases h
    · cases h
    · rcases bind_eq_error_iff.1 h with h | ⟨s, -, h⟩
      · exact shown _ h
      · split at h <;> cases h
  unfold Settings.ofMapping
  rw [bind_eq_error_iff, readLimit_infinite_iff]
  refine ⟨?_, .inl⟩
  rintro (h | ⟨limit, -, h⟩)
  · exact h
  rcases bind_eq_error_iff.1 h with h | ⟨expected, -, h⟩
  · exact absurd h (shown _)
  rcases bind_eq_error_iff.1 h with h | ⟨actual, -, h⟩
  · exact absurd h (shown _)
  rcases bind_eq_error_iff.1 h with h | ⟨name, -, h⟩
  · exact absurd h (level _)
  · cases h

/-- Settings are refused without being told only over an infinite limit. -/
theorem settings_untold_iff {result : Except SettingsFault Settings} {e : Failure} :
    result.mapError .settings = .error e ∧ isTold e = false ↔
      result = .error .infiniteLimit ∧ e = .settings .infiniteLimit := by
  rw [mapError_eq_error_iff]
  constructor
  · rintro ⟨⟨fault, h, rfl⟩, untold⟩
    obtain rfl := settingsFault_untold_iff.1 untold
    exact ⟨h, rfl⟩
  · rintro ⟨h, rfl⟩
    exact ⟨⟨_, h, rfl⟩, rfl⟩

/-- Overrides that are laid over settings are refused without being told only if they change them
to an infinite limit. -/
theorem merge_infinite_iff {s : Settings} {m : Mapping} :
    s.merge m = .error .infiniteLimit ↔
      m ≠ [] ∧ (limitIn (Mapping.lay s.toMapping m)).isInfinite = true := by
  unfold Settings.merge
  cases m with
  | nil => exact ⟨nofun, fun h => absurd rfl h.1⟩
  | cons entry m => exact ofMapping_infinite_iff.trans (and_iff_right nofun).symm

/-- A configuration file leaves the command for a fault of its document that was not foreseen, or
for an infinite limit. -/
theorem baseSettings_untold_iff {files : Files} {path : String} {e : Failure} :
    baseSettings files (some path) = .error e ∧ isTold e = false ↔
      (∃ fault, files.document (Path.ofString path) = .error (.contents fault) ∧
        isForeseen fault = false ∧ e = .file (.contents fault)) ∨
      ∃ c, files.configuration (Path.ofString path) = .ok c ∧ (limitIn c).isInfinite = true ∧
        e = .settings .infiniteLimit := by
  have unfolded : baseSettings files (some path) =
      (files.configuration (Path.ofString path)).mapError .file >>= fun c =>
        (Settings.ofMapping c).mapError .settings := rfl
  rw [unfolded, bind_eq_error_iff, mapError_eq_error_iff]
  constructor
  · rintro ⟨⟨fault, h, rfl⟩ | ⟨c, hc, h⟩, untold⟩
    · obtain ⟨fault, rfl, hd, hf⟩ := configuration_untold_iff.1 ⟨h, untold⟩
      exact .inl ⟨fault, hd, hf, rfl⟩
    · obtain ⟨infinite, rfl⟩ := settings_untold_iff.1 ⟨h, untold⟩
      exact .inr ⟨c, mapError_eq_ok_iff.1 hc, ofMapping_infinite_iff.1 infinite, rfl⟩
  · rintro (⟨fault, hd, hf, rfl⟩ | ⟨c, hc, h, rfl⟩)
    · obtain ⟨hc, untold⟩ := configuration_untold_iff.2 ⟨fault, rfl, hd, hf⟩
      exact ⟨.inl ⟨_, hc, rfl⟩, untold⟩
    · obtain ⟨hr, untold⟩ := settings_untold_iff.2 ⟨ofMapping_infinite_iff.2 h, rfl⟩
      exact ⟨.inr ⟨c, mapError_eq_ok_iff.2 hc, hr⟩, untold⟩

/-- Settings fail over the overrides, over a name of a file that was lost, over the file, or where
the overrides are laid over what it gives. -/
theorem settingsOf_eq_error_iff {files : Files} {r : Request} {e : Failure} :
    settingsOf machine files r = .error e ↔ overridesOf machine r.overrides = .error e ∨
      ∃ m, overridesOf machine r.overrides = .ok m ∧
        (r.config = some none ∧ e = .lostPath ∨
          ∃ path : Option String, r.config = path.map some ∧
            (baseSettings files path = .error e ∨
              ∃ s, baseSettings files path = .ok s ∧
                (s.merge m).mapError .settings = .error e)) := by
  have load (path : Option String) (m : Mapping) : loadSettings files path (.map m) = .error e ↔
      baseSettings files path = .error e ∨
        ∃ s, baseSettings files path = .ok s ∧ (s.merge m).mapError .settings = .error e :=
    bind_eq_error_iff
  unfold settingsOf
  rw [bind_eq_error_iff]
  refine or_congr_right (exists_congr fun m => and_congr_right fun _ => ?_)
  rcases r with ⟨_ | _ | path, _, _⟩
  · refine (load none m).trans ⟨fun h => .inr ⟨none, rfl, h⟩, ?_⟩
    rintro (⟨⟨⟩, -⟩ | ⟨_ | _, ⟨⟩, h⟩)
    exact h
  · refine ⟨fun h => .inl ⟨rfl, (Except.error.inj h).symm⟩, ?_⟩
    rintro (⟨-, rfl⟩ | ⟨_ | _, ⟨⟩, -⟩)
    rfl
  · refine (load (some path) m).trans ⟨fun h => .inr ⟨some path, rfl, h⟩, ?_⟩
    rintro (⟨⟨⟩, -⟩ | ⟨_ | _, ⟨⟩, h⟩)
    exact h

/-- **What is unforeseen is what is not told.** -/
theorem unforeseen_iff {files : Files} {r : Request} {e : Failure} :
    Unforeseen machine files r e ↔ settingsOf machine files r = .error e ∧ isTold e = false := by
  rw [settingsOf_eq_error_iff]
  constructor
  · rintro (⟨hs, hm, ho, free, hv⟩ | ⟨hs, hm⟩ | ⟨hm, hc⟩ | ⟨hm, hc, hd, hf⟩ | ⟨hm, hc, hd, hi⟩ |
      ⟨hm, hc, hb, hne, hi⟩)
    · obtain ⟨hp, untold⟩ := placeItem_untold_iff.2 ⟨_, ho, free, hv⟩
      exact ⟨.inl (overridesOf_eq_error_iff.2 (.item hs hm hp)), untold⟩
    · exact ⟨.inl (overridesOf_eq_error_iff.2 (.lost hs hm)), rfl⟩
    · exact ⟨.inr ⟨_, hm, .inl ⟨hc, rfl⟩⟩, rfl⟩
    · obtain ⟨hb, untold⟩ := baseSettings_untold_iff.2 (.inl ⟨_, hd, hf, rfl⟩)
      exact ⟨.inr ⟨_, hm, .inr ⟨some _, hc, .inl hb⟩⟩, untold⟩
    · obtain ⟨hb, untold⟩ := baseSettings_untold_iff.2 (.inr ⟨_, hd, hi, rfl⟩)
      exact ⟨.inr ⟨_, hm, .inr ⟨some _, hc, .inl hb⟩⟩, untold⟩
    · obtain ⟨hr, untold⟩ := settings_untold_iff.2 ⟨merge_infinite_iff.2 ⟨hne, hi⟩, rfl⟩
      exact ⟨.inr ⟨_, hm, .inr ⟨_, hc, .inr ⟨_, hb, hr⟩⟩⟩, untold⟩
  · rintro ⟨h | ⟨m, hm, ⟨hc, rfl⟩ | ⟨path, hc, hb | ⟨s, hb, hr⟩⟩⟩, untold⟩
    · rcases overridesOf_eq_error_iff.1 h with ⟨hs, hm, hp⟩ | ⟨hs, hm⟩
      · obtain ⟨o, ho, free, hv⟩ := placeItem_untold_iff.1 ⟨hp, untold⟩
        exact .literal hs hm ho free hv
      · exact .lostOverride hs hm
    · exact .lostPath hm hc
    · cases path with
      | none => cases hb
      | some path =>
        rcases baseSettings_untold_iff.1 ⟨hb, untold⟩ with ⟨fault, hd, hf, rfl⟩ | ⟨c, hd, hi, rfl⟩
        · exact .contents hm hc hd hf
        · exact .limit hm hc hd hi
    · obtain ⟨infinite, rfl⟩ := settings_untold_iff.1 ⟨hr, untold⟩
      obtain ⟨hne, hi⟩ := merge_infinite_iff.1 infinite
      exact .laidLimit hm hc hb hne hi

/-- Whether a failure is a fault of a name. -/
def isNameFault : Failure → Bool
  | .name _ _ => true
  | _ => false

/-- Settings fail over no name. -/
theorem settingsOf_not_name {files : Files} {r : Request} {e : Failure}
    (h : settingsOf machine files r = .error e) : isNameFault e = false := by
  rcases settingsOf_eq_error_iff.1 h with h | ⟨m, -, ⟨-, rfl⟩ | ⟨path, -, h | ⟨s, -, h⟩⟩⟩
  · rcases overridesOf_eq_error_iff.1 h with _ | _ <;> rfl
  · rfl
  · cases path with
    | none => cases h
    | some path =>
      rcases bind_eq_error_iff.1 h with h | ⟨c, -, h⟩
      · obtain ⟨_, -, rfl⟩ := mapError_eq_error_iff.1 h
        rfl
      · obtain ⟨_, -, rfl⟩ := mapError_eq_error_iff.1 h
        rfl
  · obtain ⟨_, -, rfl⟩ := mapError_eq_error_iff.1 h
    rfl

end Command
end TypeMismatch
