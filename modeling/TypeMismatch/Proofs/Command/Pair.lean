import TypeMismatch.Command.Run
import TypeMismatch.Proofs.Command.Options
import TypeMismatch.Proofs.Files

/-!
# Comparing with the other command

The command that only compares (`main` of the pair command) passes on what it is given: it writes
new words for the main command (`main` of the package), which reads them again (`pairWords_eq`).
The main command reads its options with their values, and leaves everything behind the name of the
task to the task (`readRequest_task_iff`).  So each value must be an operand where it is read again
(`Passes`): the name of a file and an override for the main command, a name for the comparing task.
Nothing else can stand in for a name that is no operand, since the word that asks for JSON is an
operand only where JSON is not asked for (`isOperand_of_read`).

Then the other command does what the main command does with the same values (`runPair_eq_carryOut`);
otherwise, as with a name that begins with a dash, it does not (`runPair_dash`).
-/

namespace TypeMismatch
namespace Command
open CommandSpec

/-! ### The words that are passed on -/

/-- The options that are passed on: a configuration file in normal form, and the overrides. -/
def passedOptions (r : Reading) : List (String × Option String) :=
  ((valuesOf r "--config").getLast?.join.map fun path =>
      ("--config", some (Path.ofString path).text)).toList
    ++ (valuesOf r "--set").map fun item => ("--set", item)

/-- The words that ask for JSON, or not. -/
def jsonWords (json : Bool) : List (Option String) := if json then [some "--json"] else []

/-- The words that are passed on are the options, the task, both operands, and the wish for JSON. -/
theorem pairWords_eq (r : Reading) :
    pairWords r = wordsOf (passedOptions r) ++
      some "compare" :: operandAt r 0 :: operandAt r 1 :: jsonWords (isGiven r "--json") := by
  have items : ∀ vs : List (Option String),
      wordsOf (vs.map fun item => ("--set", item)) = vs.flatMap fun item => [some "--set", item] :=
    fun vs => by rw [wordsOf, List.flatMap_map]
  rw [pairWords, passedOptions, wordsOf, List.flatMap_append, ← wordsOf, ← wordsOf, items,
    jsonWords]
  cases (valuesOf r "--config").getLast?.join with
  | none => simp [wordsOf]
  | some path => simp [wordsOf]

/-- Both commands know the option for the configuration file, which takes a value. -/
theorem takes_config : spec.Takes "--config" := ⟨by decide, configOption, rfl, rfl⟩

/-- Both know the option for overrides, which takes a value. -/
theorem takes_set : spec.Takes "--set" := ⟨by decide, setOption, rfl, rfl⟩

/-- Every option that is passed on takes a value. -/
theorem takes_passedOptions (r : Reading) : ∀ g ∈ passedOptions r, spec.Takes g.1 := by
  intro g hg
  rw [passedOptions, List.mem_append, Option.mem_toList, Option.map_eq_some_iff] at hg
  rcases hg with ⟨path, -, rfl⟩ | hg
  · exact takes_config
  · obtain ⟨item, -, rfl⟩ := List.mem_map.1 hg
    exact takes_set

/-! ### Reading them again -/

/-- The name of the task looks like no option. -/
theorem isOperand_compare (spec : CommandSpec) : spec.IsOperand (some "compare") :=
  isOperand_of_head? (by rintro _ ⟨⟩; decide)

section
variable {given : List (String × Option String)} {rest : List (Option String)}

/-- The main command reads its options, and takes everything behind the name of the task as it
is. -/
theorem read_task_iff (takes : ∀ g ∈ given, spec.Takes g.1) {r : Reading} :
    spec.read (wordsOf given ++ some "compare" :: rest) = .ok r ↔
      (∀ g ∈ given, spec.IsOperand g.2) ∧ (∃ ws, spec.classifyAll rest = .ok ws) ∧
        r = ⟨given, some "compare" :: rest, []⟩ := by
  have reads : (∀ g ∈ given, spec.IsOperand g.2) → (∃ ws, spec.classifyAll rest = .ok ws) →
      spec.read (wordsOf given ++ some "compare" :: rest) =
        .ok ⟨given, some "compare" :: rest, []⟩ := by
    rintro operands ⟨ws, hws⟩
    have task : spec.classifyAll (some "compare" :: rest) =
        .ok (.operand (some "compare") :: ws) := by
      rw [(isOperand_compare spec).classifyAll_cons, hws]
      rfl
    obtain ⟨vs, hvs, length, readWords⟩ :=
      readWords_given (fun g hg => ⟨takes g hg, operands g hg⟩) task
    rw [List.length_cons] at length
    have fuel : vs.length + 1 = vs.length - given.length - 1 + 2 + given.length := by omega
    have texts := map_text_of_classifyAll task
    refine read_eq_ok_iff.2 ⟨vs, hvs, ?_, Nat.le_add_left 1 rest.length⟩
    rw [fuel, readWords, show spec.positions.length = 1 from rfl, readWords_rest rfl, texts]
    rfl
  refine ⟨fun h => ?_, fun ⟨operands, found, hr⟩ => hr ▸ reads operands found⟩
  obtain ⟨vs, hvs, read⟩ := ok_of_bind h
  obtain ⟨r', hr', -⟩ := ok_of_bind read
  have length := congrArg List.length (map_text_of_classifyAll hvs)
  rw [List.length_map, List.length_append, length_wordsOf] at length
  obtain ⟨operands, ws, hws⟩ := isOperand_of_readWords takes hvs (by omega) hr'
  rw [(isOperand_compare spec).classifyAll_cons] at hws
  obtain ⟨ws', found, -⟩ := ok_of_map hws
  exact ⟨operands, ⟨ws', found⟩, Except.ok.inj (h.symm.trans (reads operands ⟨ws', found⟩))⟩

/-- The words of the comparing task are read as a command line of their own. -/
theorem readRequest_task_iff (takes : ∀ g ∈ given, spec.Takes g.1) {q : Request} :
    readRequest (wordsOf given ++ some "compare" :: rest) = .ok q ↔
      (∀ g ∈ given, spec.IsOperand g.2) ∧ (∃ ws, spec.classifyAll rest = .ok ws) ∧
        ∃ t, compareSpec.read rest = .ok t ∧ t.extras = [] ∧
          q = ⟨(valuesOf ⟨given, [], []⟩ "--config").getLast?, valuesOf ⟨given, [], []⟩ "--set",
            taskOf "compare" t⟩ := by
  have after : ∀ r : Reading, r = ⟨given, some "compare" :: rest, []⟩ →
      spec.read (wordsOf given ++ some "compare" :: rest) = .ok r →
      readRequest (wordsOf given ++ some "compare" :: rest) = compareSpec.read rest >>= fun t =>
        refuseExtras spec t.extras >>= fun _ =>
          .ok ⟨(valuesOf ⟨given, [], []⟩ "--config").getLast?, valuesOf ⟨given, [], []⟩ "--set",
            taskOf "compare" t⟩ := by
    rintro r rfl hr
    rw [readRequest, hr]
    rfl
  constructor
  · intro h
    obtain ⟨r, hr, -⟩ := ok_of_bind h
    obtain ⟨operands, found, he⟩ := (read_task_iff takes).1 hr
    rw [after r he hr] at h
    obtain ⟨t, ht, h⟩ := ok_of_bind h
    obtain ⟨⟨⟩, refused, h⟩ := ok_of_bind h
    refine ⟨operands, found, t, ht, ?_, (Except.ok.inj h).symm⟩
    unfold refuseExtras at refused
    split at refused
    · rename_i none
      exact List.isEmpty_iff.1 none
    · cases refused
  · rintro ⟨operands, found, t, ht, extras, rfl⟩
    rw [after _ rfl ((read_task_iff takes).2 ⟨operands, found, rfl⟩), ht]
    change (refuseExtras spec t.extras >>= _) = _
    rw [extras]
    rfl

end

/-! ### The two names -/

/-- A word could mean one option of the main command at most, if it is neither two dashes alone nor
has an equals sign behind them. -/
theorem length_candidates_le {word : String} {c : Char} {cs : List Char}
    (hw : word.toList = '-' :: c :: cs) (h : c = '-' → ∃ d ds, cs = d :: ds ∧ d ≠ '=') :
    (spec.candidates word).length ≤ 1 := by
  have names : spec.names = [("-h", helpOption), ("--help", helpOption), ("--config", configOption),
    ("--set", setOption)] := rfl
  have le_one : ∀ (p : Prop) [Decidable p], (if p then 1 else 0) ≤ 1 := fun p _ => by
    split <;> decide
  by_cases hc : c = '-'
  · obtain ⟨d, ds, rfl, ne⟩ := h hc
    subst hc
    obtain ⟨start, attached, hs⟩ := candidates_long spec hw ne
    rw [hs, names, List.length_map, ← List.countP_eq_length_filter]
    -- The names differ in the character behind their two dashes.
    by_cases help : d = 'h'
    · subst help
      simpa [List.countP_cons, List.isPrefixOf] using le_one _
    · by_cases config : d = 'c'
      · subst config
        simpa [List.countP_cons, List.isPrefixOf] using le_one _
      · simpa [List.countP_cons, List.isPrefixOf, help, config] using le_one _
  · rw [candidates_short hw hc, names]
    by_cases help : c = 'h'
    · subst help
      simp [List.filterMap, List.isPrefixOf]
    · simp [List.filterMap, List.isPrefixOf, help, Ne.symm help, hc]

/-- What is an operand to the comparing task is understood by the main command: it could mean
several options only where it could mean several of the task as well. -/
theorem exists_classify_of_isOperand {word : String} (h : compareSpec.IsOperand (some word)) :
    ∃ w, spec.classify word = .ok w := by
  obtain ⟨ne, operand⟩ := h word rfl
  refine exists_classify fun c cs hw => length_candidates_le hw fun hc => ?_
  subst hc
  cases cs with
  | nil => exact absurd (String.toList_inj.1 hw) ne
  | cons d ds =>
    refine ⟨d, ds, rfl, ?_⟩
    rintro rfl
    have none := candidates_of_operand hw operand
    unfold candidates at none
    rw [hw] at none
    exact absurd none (List.cons_ne_nil _ _)

/-- The main command understands the words of the comparing task. -/
theorem exists_classifyAll_names {a b : Option String} (ha : compareSpec.IsOperand a)
    (hb : compareSpec.IsOperand b) (json : Bool) :
    ∃ ws, spec.classifyAll (a :: b :: jsonWords json) = .ok ws := by
  have word : ∀ v, compareSpec.IsOperand v → ∀ word ∈ v, ∃ w, spec.classify word = .ok w := by
    rintro _ hv word ⟨⟩
    exact exists_classify_of_isOperand hv
  refine exists_classifyAll (List.forall_mem_cons.2 ⟨word a ha, List.forall_mem_cons.2
    ⟨word b hb, fun v hv w hw => ?_⟩⟩)
  cases json with
  | false => exact absurd hv List.not_mem_nil
  | true =>
    obtain rfl := List.mem_singleton.1 hv
    obtain rfl := Option.some.inj hw
    exact ⟨_, rfl⟩

/-- What the word that asks for JSON is to the comparing task. -/
def jsonRead (json : Bool) : List Word :=
  if json then [.option "--json" (some ⟨jsonOption, "--json", none⟩)] else []

/-- The comparing task reads the wish for JSON from the word for it. -/
theorem classifyAll_jsonWords (json : Bool) :
    compareSpec.classifyAll (jsonWords json) = .ok (jsonRead json) := by
  cases json <;> rfl

/-- **Two operands are read as the two names.** -/
theorem read_names {a b : Option String} (ha : compareSpec.IsOperand a)
    (hb : compareSpec.IsOperand b) (json : Bool) :
    compareSpec.read (a :: b :: jsonWords json) =
      .ok ⟨if json then [("--json", none)] else [], [a, b], []⟩ := by
  have words : compareSpec.classifyAll (a :: b :: jsonWords json) =
      .ok (.operand a :: .operand b :: jsonRead json) := by
    rw [ha.classifyAll_cons, hb.classifyAll_cons, classifyAll_jsonWords]
    rfl
  have no_separator : ∀ v, compareSpec.IsOperand v → v ≠ some "--" :=
    fun v hv he => (hv "--" he).1 rfl
  have behind : (jsonRead json).head? ≠ some .separator := by cases json <;> exact nofun
  have names : compareSpec.takePositions 2 (.operand a :: .operand b :: jsonRead json) =
      ([a, b], jsonRead json) := by
    rw [takePositions, if_neg (by decide), takeOperands_cons (no_separator a ha) (by simp),
      takeOperands_cons (no_separator b hb) behind]
    rfl
  refine read_eq_ok_iff.2 ⟨_, words, ?_, Nat.le_refl 2⟩
  rw [readWords, show compareSpec.positions.length = 2 from rfl, names]
  cases json with
  | false => rfl
  | true =>
    change compareSpec.readWords 3 0 ⟨[], [a, b], []⟩ (jsonRead true) = _
    rw [jsonRead, if_pos rfl, readWords_option]
    rfl

/-- **Names of which one is no operand are not read as these names.** -/
theorem isOperand_of_read {a b : Option String} {json : Bool} {t : Reading}
    (h : compareSpec.read (a :: b :: jsonWords json) = .ok t) (hj : isGiven t "--json" = json) :
    compareSpec.IsOperand a ∧ compareSpec.IsOperand b := by
  obtain ⟨ws, hws, count, hr⟩ := length_le_of_read rfl h
  change 2 ≤ operandCount ws at count
  have no_option : ws.any Word.isOption = false → json = false := by
    intro none
    rw [← hj, isGiven, given_of_not_isOption none hr]
    rfl
  have json_read : ∀ vs, compareSpec.classifyAll (jsonWords json) = .ok vs → vs = jsonRead json :=
    fun vs hvs => Except.ok.inj (hvs.symm.trans (classifyAll_jsonWords json))
  -- What stands for a name must be one of two operands, and asking for JSON is none unless a name
  -- is the separator; then nothing is an option, and JSON has not been asked for.
  rcases classifyAll_cons_cases hws with
    ⟨ws, rfl, ha, hws⟩ | ⟨rfl, rfl⟩ | ⟨text, m, ws, rfl, rfl, -, hws⟩
  · rcases classifyAll_cons_cases hws with
      ⟨ws, rfl, hb, -⟩ | ⟨rfl, rfl⟩ | ⟨text, m, ws, rfl, rfl, -, hws⟩
    · exact ⟨ha, hb⟩
    · obtain rfl : json = false := no_option (by cases json <;> rfl)
      exact absurd count (show ¬2 ≤ 1 by decide)
    · obtain rfl := json_read ws hws
      cases json <;> exact absurd count (show ¬2 ≤ 1 by decide)
  · obtain rfl : json = false := no_option (by cases json <;> rfl)
    exact absurd count (show ¬2 ≤ 1 by decide)
  · rcases classifyAll_cons_cases hws with
      ⟨ws, rfl, -, hws⟩ | ⟨rfl, rfl⟩ | ⟨text, m, ws, rfl, rfl, -, hws⟩
    · obtain rfl := json_read ws hws
      cases json <;> exact absurd count (show ¬2 ≤ 1 by decide)
    · cases json
      · exact absurd count (show ¬2 ≤ 0 by decide)
      · exact absurd count (show ¬2 ≤ 1 by decide)
    · obtain rfl := json_read ws hws
      cases json <;> exact absurd count (show ¬2 ≤ 0 by decide)

/-! ### What is carried out -/

/-- The request that is made of the other command: the values that it was given. -/
def pairRequest (r : Reading) : Request :=
  ⟨(valuesOf r "--config").getLast?.join.map some, valuesOf r "--set",
    .compare (operandAt r 0) (operandAt r 1) (isGiven r "--json")⟩

/-- The request with the name of the configuration file in normal form. -/
def normalRequest (r : Reading) : Request :=
  { pairRequest r with
    config := (valuesOf r "--config").getLast?.join.map fun path =>
      some (Path.ofString path).text }

/-- Whether what the other command was given passes as it is: no value looks like an option where
the main command reads it. -/
structure Passes (r : Reading) : Prop where
  config : ∀ path ∈ (valuesOf r "--config").getLast?.join,
    spec.IsOperand (some (Path.ofString path).text)
  overrides : ∀ item ∈ valuesOf r "--set", spec.IsOperand item
  expected : compareSpec.IsOperand (operandAt r 0)
  actual : compareSpec.IsOperand (operandAt r 1)

section
variable (r : Reading)

/-- What is given for one option is found again under it, and under no other. -/
theorem valuesOf_append (name other : String) (first rest : List (Option String)) :
    valuesOf ⟨(first.map fun v => (name, v)) ++ rest.map fun v => (other, v), [], []⟩ =
      fun asked => (if name = asked then first else []) ++ if other = asked then rest else [] := by
  have one : ∀ (name asked : String) (vs : List (Option String)),
      ((vs.map fun v => (name, v)).filter fun g => g.1 == asked).map Prod.snd =
        if name = asked then vs else [] := by
    intro name asked vs
    by_cases h : name = asked <;> simp [List.filter_map, Function.comp_def, h]
  funext asked
  rw [← one, ← one, ← List.map_append, ← List.filter_append]
  rfl

/-- The configuration file is passed on in normal form, once and first; the overrides are passed on
as they come. -/
theorem passedOptions_eq : passedOptions r =
    (((valuesOf r "--config").getLast?.join.map fun path =>
        some (Path.ofString path).text).toList.map fun v => ("--config", v)) ++
      (valuesOf r "--set").map fun v => ("--set", v) := by
  rw [passedOptions]
  cases (valuesOf r "--config").getLast?.join <;> rfl

/-- From the options that are passed on the same file is read, in normal form. -/
theorem config_passedOptions :
    (valuesOf ⟨passedOptions r, [], []⟩ "--config").getLast? =
      (valuesOf r "--config").getLast?.join.map fun path => some (Path.ofString path).text := by
  rw [passedOptions_eq, valuesOf_append]
  cases (valuesOf r "--config").getLast?.join <;> rfl

/-- So are the same overrides. -/
theorem overrides_passedOptions :
    valuesOf ⟨passedOptions r, [], []⟩ "--set" = valuesOf r "--set" := by
  rw [passedOptions_eq, valuesOf_append]
  exact List.nil_append _

/-- A reading is passed on unharmed if no value of an option and no operand looks like an option. -/
theorem passes_iff : Passes r ↔ (∀ g ∈ passedOptions r, spec.IsOperand g.2) ∧
    compareSpec.IsOperand (operandAt r 0) ∧ compareSpec.IsOperand (operandAt r 1) := by
  have options : (∀ g ∈ passedOptions r, spec.IsOperand g.2) ↔
      (∀ path ∈ (valuesOf r "--config").getLast?.join,
        spec.IsOperand (some (Path.ofString path).text)) ∧
      ∀ item ∈ valuesOf r "--set", spec.IsOperand item := by
    rw [passedOptions, List.forall_mem_append, List.forall_mem_map]
    cases (valuesOf r "--config").getLast?.join <;> simp
  rw [options]
  exact ⟨fun h => ⟨⟨h.config, h.overrides⟩, h.expected, h.actual⟩,
    fun h => ⟨h.1.1, h.1.2, h.2.1, h.2.2⟩⟩

/-- **The main command reads what was passed on as it was given, if it passes**, and not
otherwise. -/
theorem readRequest_pairWords_iff :
    readRequest (pairWords r) = .ok (normalRequest r) ↔ Passes r := by
  rw [pairWords_eq, readRequest_task_iff (takes_passedOptions r), passes_iff,
    config_passedOptions, overrides_passedOptions]
  constructor
  · rintro ⟨operands, -, t, ht, -, he⟩
    obtain ⟨expected, actual, json⟩ := Task.compare.inj (congrArg Request.task he)
    exact ⟨operands, isOperand_of_read ht json.symm⟩
  · rintro ⟨operands, expected, actual⟩
    refine ⟨operands, exists_classifyAll_names expected actual _, _,
      read_names expected actual _, rfl, ?_⟩
    have json : isGiven ⟨if isGiven r "--json" then [("--json", none)] else [],
        [operandAt r 0, operandAt r 1], []⟩ "--json" = isGiven r "--json" := by
      cases isGiven r "--json" <;> rfl
    rw [taskOf, if_pos rfl, json]
    rfl

/-- A configuration file is the same by its name in normal form. -/
theorem carryOut_normalRequest (machine : Machine) (files : Files) (log : Log) :
    carryOut machine files log (normalRequest r) = carryOut machine files log (pairRequest r) := by
  have settings : settingsOf machine files (normalRequest r) =
      settingsOf machine files (pairRequest r) := by
    unfold normalRequest pairRequest settingsOf
    cases (valuesOf r "--config").getLast?.join with
    | none => rfl
    | some path =>
      have base : baseSettings files (some (Path.ofString path).text) =
          baseSettings files (some path) := by
        rw [baseSettings, baseSettings, Path.ofString_text]
      simp only [Option.map_some, loadSettings, base]
  rw [carryOut, carryOut, settings]
  rfl

end

/-- **The other command does what the main command does with the values that it was given**, if
none of them looks like an option where it is read again.  They are read again as they were given if
and only if this is so. -/
theorem runPair_eq_carryOut {words : List String} {r : Reading}
    (h : pairSpec.read (words.map some) = .ok r) (complete : r.extras = []) :
    (readRequest (pairWords r) = .ok (normalRequest r) ↔ Passes r) ∧
      ∀ machine files log, Passes r →
        runPair machine files log words = carryOut machine files log (pairRequest r) := by
  refine ⟨readRequest_pairWords_iff r, fun machine files log passes => ?_⟩
  have forwards : runPair machine files log words = runWords machine files log (pairWords r) := by
    unfold runPair
    simp only [h, refuseExtras, complete, bind, Except.bind]
    rfl
  rw [forwards, runWords, (readRequest_pairWords_iff r).2 passes]
  exact carryOut_normalRequest r machine files log

/-- The hypotheses are satisfiable, by values of all kinds, one of which begins with a dash and is a
number. -/
theorem runPair_eq_carryOut_number :
    pairSpec.read (["--json", "A", "--set", "a=b", "--config", "./a.yaml", "-5"].map some) =
        .ok ⟨[("--json", none), ("--set", some "a=b"), ("--config", some "./a.yaml")],
          [some "A", some "-5"], []⟩ ∧
      runPair .ample Files.none Log.standard
          ["--json", "A", "--set", "a=b", "--config", "./a.yaml", "-5"] =
        carryOut .ample Files.none Log.standard
          ⟨some (some "./a.yaml"), [some "a=b"], .compare (some "A") (some "-5") true⟩ := by
  have read : pairSpec.read
      (["--json", "A", "--set", "a=b", "--config", "./a.yaml", "-5"].map some) =
        .ok ⟨[("--json", none), ("--set", some "a=b"), ("--config", some "./a.yaml")],
          [some "A", some "-5"], []⟩ := rfl
  refine ⟨read, (runPair_eq_carryOut read rfl).2 .ample Files.none Log.standard ?_⟩
  exact
    { config := by rintro _ ⟨⟩; exact isOperand_of_head? (by rintro _ ⟨⟩; decide)
      overrides := List.forall_mem_singleton.2 (isOperand_of_head? (by rintro _ ⟨⟩; decide))
      expected := isOperand_of_head? (by rintro _ ⟨⟩; decide)
      actual := by rintro _ ⟨⟩; exact ⟨by decide, rfl⟩ }

/-- A name that begins with a dash is given to the other command behind the separator, but passed
on without it: the name is read as an option, and the other command ends as misuse. -/
theorem runPair_dash :
    pairSpec.read (["--", "-x", "B"].map some) = .ok ⟨[], [some "-x", some "B"], []⟩ ∧
      (carryOut .ample Files.none Log.standard
        ⟨none, [], .compare (some "-x") (some "B") false⟩).result =
        .ok ⟨0, "Expected: -x\nBut was:  B\n", ""⟩ ∧
      (runPair .ample Files.none Log.standard ["--", "-x", "B"]).result =
        .ok ⟨2, "", compareUsage ++
          "typediff compare: error: the following arguments are required: actual\n"⟩ :=
  ⟨rfl, rfl, rfl⟩

end Command
end TypeMismatch
