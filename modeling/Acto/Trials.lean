import Acto.Gates
import Acto.Checker

/-!
# The trial loop

Port of the `__main__` loop of `checker.py`: every trial builds a `Checker` from the one cached
context and its own input model, then checks the snapshots of its generations one after another,
each against the newest snapshot of the history, which starts at `EmptySnapshot(seed)`. A generation
whose verdict is `ConnectionRefused` or `InvalidInput` is popped from the history again.

The script enables analysis (`Context.forTrials`) before its first trial (`runScript`), and
`Checker.__init__` then adopts the context's `analysis_result['field_conditions_map']` itself rather
than a copy: `helper` and `check_condition` write into the one map every later trial starts from.
`runTrial` returns the context as the trial leaves it, and `runTrials` threads it from trial to trial.
Every trial runs `helper` again on the map the last one left, so each key that was there gets one
more copy of the condition of every gate above it (`runTrial_conditions`). Over the whole script the
trial after `k` others runs from `k` such copies under every cached key (`runScript_conditions`).

Within a trial the generation loop keeps the history above `EmptySnapshot(seed)` and only rewrites
the checker's condition records in place (`TrialState.generations_invariant`). The history is the
checked snapshots whose verdicts kept them, newest first, each only widened by the empty entries
`get_deltas` writes into a previous snapshot (`TrialState.generations_snapshots`).

Reading the trial directory is not modelled: a generation is the snapshot its files give, or `none`
when its operator log is missing (`continue`), and the list ends at the first missing mutated file
(`break`). `count_num_fields` runs as the loop runs it, for its write into the previous snapshot; the
statistics it feeds are only logged.
-/

namespace Acto

/-- `EmptySnapshot(seed)`. Modelled from the spec: the input is the seed and the cluster state is
empty; the CLI output and the log, which no oracle reads from a previous snapshot, are empty. -/
def emptySnapshot (seed : Value) : Snapshot := ⟨seed, ⟨"", ""⟩, [], []⟩

/-- The context the script runs its trials with: analysis enabled and the first atom of every
control-flow gate dropped (`path.pop(0)`, `IndexError` on an empty gate); `KeyError` when the cached
context has no analysis result. -/
def Context.forTrials (c : Context) : Except PyExc Context :=
  match c.analysisResult with
  | none => .error .keyError
  | some r =>
    if r.controlFlowFields.any List.isEmpty then .error .indexError
    else .ok ⟨true, some { r with controlFlowFields := r.controlFlowFields.map List.tail }⟩

/-- The context as a checker leaves it: with analysis enabled the checker's map is the context's
map, so the context holds whatever the checker wrote. -/
def Checker.sharedContext (ck : Checker) (context : Context) : Context :=
  if context.enableAnalysis then
    { context with analysisResult := context.analysisResult.map fun r =>
        { r with fieldConditionsMap := ck.fieldConditionsMap } }
  else context

/-- The state of the generation loop of one trial: the checker, the snapshot history with the newest
first (`snapshots[-1]` is its head), and the verdicts so far. -/
structure TrialState where
  checker : Checker
  snapshots : List Snapshot
  results : List RunResult

/-- The verdicts after which the checked snapshot stays in the history. -/
def RunResult.keepsSnapshot : RunResult → Bool
  | .connectionRefused | .invalidInput _ => false
  | _ => true

namespace TrialState

/-- One generation of the loop: check the snapshot against the newest of the history, which `check`
writes into, and push it; pop it again after `ConnectionRefused` or `InvalidInput`, and run
`count_num_fields` on the same pair after `Pass` or an error. -/
def generation (env : Env) (s : TrialState) (snap : Snapshot) : Except PyExc TrialState :=
  match s.snapshots with
  | [] => .error .indexError
  | prev :: older =>
    (Checker.check env s.checker snap prev).map fun (result, ck, prev) =>
      let results := s.results ++ [result]
      match result with
      | .connectionRefused | .invalidInput _ => ⟨ck, prev :: older, results⟩
      | .unchanged => ⟨ck, snap :: prev :: older, results⟩
      | _ => ⟨ck, snap :: (Checker.countNumFields env snap prev).2 :: older, results⟩

/-- The loop over the generations, skipping those without an operator log. -/
def generations (env : Env) (s : TrialState) (gens : List (Option Snapshot)) :
    Except PyExc TrialState :=
  gens.foldlM (fun s gen => match gen with
    | some snap => s.generation env snap
    | none => .ok s) s

/-- The history holds the empty snapshot and one snapshot per kept verdict. -/
def HistoryInv (s : TrialState) : Prop :=
  s.snapshots.length = s.results.countP RunResult.keepsSnapshot + 1

/-- A generation records its verdict and pushes a snapshot exactly when the verdict keeps it. -/
lemma generation_history {env : Env} {s s' : TrialState} {snap : Snapshot}
    (h : s.generation env snap = .ok s') : ∃ r, s'.results = s.results ++ [r] ∧
      s'.snapshots.length = s.snapshots.length + if r.keepsSnapshot then 1 else 0 := by
  unfold generation at h
  split at h
  · cases h
  · rcases hc : Checker.check env s.checker snap _ with e | ⟨r, ck, prev⟩ <;>
      rw [hc] at h <;> cases h
    refine ⟨r, ?_⟩
    cases r <;> simp [RunResult.keepsSnapshot, *]

/-- Every generation keeps `HistoryInv`. -/
lemma generation_historyInv {env : Env} {s s' : TrialState} {snap : Snapshot}
    (h : s.generation env snap = .ok s') (hs : s.HistoryInv) : s'.HistoryInv := by
  obtain ⟨r, hr, hlen⟩ := generation_history h
  unfold HistoryInv at *
  cases hk : r.keepsSnapshot <;> simp_all [List.countP_append]

/-- The whole loop keeps `HistoryInv`: the history is never popped below the empty snapshot. -/
lemma generations_historyInv {env : Env} :
    ∀ {s s' : TrialState} (gens : List (Option Snapshot)),
      s.generations env gens = .ok s' → s.HistoryInv → s'.HistoryInv
  | _, _, [], h, hs => by cases h; exact hs
  | _, _, none :: gens, h, hs => generations_historyInv gens h hs
  | s, _, some snap :: gens, h, hs => by
    simp only [generations, List.foldlM_cons] at h
    rcases hg : s.generation env snap with e | t <;> simp only [hg, bind, Except.bind] at h
    · cases h
    · exact generations_historyInv gens h (generation_historyInv hg hs)

lemma generation_rewrites {env : Env} {s s' : TrialState} {snap : Snapshot}
    (h : s.generation env snap = .ok s') : s.checker.Rewrites s'.checker := by
  unfold generation at h
  split at h
  · cases h
  · rcases hc : Checker.check env s.checker snap _ with e | ⟨r, ck, prev⟩ <;>
      rw [hc] at h <;> cases h
    cases r <;> exact Checker.check_rewrites hc

/-- Over every run of generations the checker keeps its context and input model, and its map keeps
its keys and, under each key, its records, each rewritten in place. -/
theorem generations_rewrites {env : Env} :
    ∀ {s s' : TrialState} (gens : List (Option Snapshot)),
      s.generations env gens = .ok s' → s.checker.Rewrites s'.checker
  | _, _, [], h => by cases h; exact .refl _
  | _, _, none :: gens, h => generations_rewrites gens h
  | s, _, some snap :: gens, h => by
    simp only [generations, List.foldlM_cons] at h
    rcases hg : s.generation env snap with e | t <;> simp only [hg, bind, Except.bind] at h
    · cases h
    · exact (generation_rewrites hg).trans (generations_rewrites gens h)

/-- A generation records its verdict, and pushes the snapshot it checked exactly when the verdict
keeps it; the snapshots below are only widened. -/
lemma generation_widens {env : Env} {s s' : TrialState} {snap : Snapshot} {exp : List Snapshot}
    (h : s.generation env snap = .ok s') (hexp : List.Forall₂ Snapshot.Widens exp s.snapshots) :
    ∃ r, s'.results = s.results ++ [r] ∧
      List.Forall₂ Snapshot.Widens (if r.keepsSnapshot then snap :: exp else exp) s'.snapshots := by
  unfold generation at h
  split at h
  · cases h
  · rename_i prev older hsn
    obtain ⟨e, exp', he, hexp', rfl⟩ := List.forall₂_cons_right_iff.mp (hsn ▸ hexp)
    rcases hc : Checker.check env s.checker snap prev with _ | ⟨r, ck, prev'⟩ <;>
      rw [hc] at h <;> cases h
    have hw : e.Widens prev' := he.trans (Checker.check_prev hc ▸ getDeltas_widens env snap prev)
    have hn : e.Widens (Checker.countNumFields env snap prev').2 :=
      hw.trans (Checker.countNumFields_prev env snap prev' ▸ getDeltas_widens env snap prev')
    cases r
    case connectionRefused | invalidInput => exact ⟨_, rfl, .cons hw hexp'⟩
    case unchanged => exact ⟨_, rfl, .cons (.refl snap) (.cons hw hexp')⟩
    all_goals exact ⟨_, rfl, .cons (.refl snap) (.cons hn hexp')⟩

/-- Over a run of generations the history grows by the checked snapshots whose verdicts keep them,
newest first, and what was below is only widened. -/
lemma generations_widens {env : Env} :
    ∀ {s s' : TrialState} (gens : List (Option Snapshot)) {exp : List Snapshot},
      s.generations env gens = .ok s' → List.Forall₂ Snapshot.Widens exp s.snapshots →
      ∃ rs, s'.results = s.results ++ rs ∧ rs.length = (gens.filterMap id).length ∧
        List.Forall₂ Snapshot.Widens
          ((((gens.filterMap id).zip rs).filter (·.2.keepsSnapshot)).reverse.map Prod.fst ++ exp)
          s'.snapshots
  | _, _, [], _, h, hexp => by cases h; exact ⟨[], by simp, rfl, hexp⟩
  | _, _, none :: gens, _, h, hexp => generations_widens gens h hexp
  | s, _, some snap :: gens, _, h, hexp => by
    simp only [generations, List.foldlM_cons] at h
    rcases hg : s.generation env snap with e | t <;> simp only [hg, bind, Except.bind] at h
    · cases h
    obtain ⟨r, hr, ht⟩ := generation_widens hg hexp
    obtain ⟨rs, hrs, hlen, hs'⟩ := generations_widens gens h ht
    refine ⟨r :: rs, by simp [hrs, hr], by simp [hlen], ?_⟩
    cases hk : r.keepsSnapshot <;> simpa [List.filter_cons, hk] using hs'

end TrialState

/-- One trial: build the checker from the context and the trial's input model, run the first twenty
generations from `EmptySnapshot(seed)`, and return the verdicts with the context as the trial leaves
it. -/
def runTrial (env : Env) (context : Context) (im : InputModel) (seed : Value)
    (gens : List (Option Snapshot)) : Except PyExc (List RunResult × Context) :=
  (Checker.init context im).bind fun ck =>
    (TrialState.generations env ⟨ck, [emptySnapshot seed], []⟩ (gens.take 20)).map fun s =>
      (s.results, s.checker.sharedContext context)

/-- The loop over the trial directories, each with its input model and generations, threading the
context from trial to trial. -/
def runTrials (env : Env) (seed : Value) :
    Context → List (InputModel × List (Option Snapshot)) → Except PyExc (List (List RunResult))
  | _, [] => .ok []
  | context, (im, gens) :: trials =>
    (runTrial env context im seed gens).bind fun (results, context) =>
      (runTrials env seed context trials).map (results :: ·)

/-- The script after loading the cached context: enable analysis (`Context.forTrials`), then run the
trials from that context. -/
def runScript (env : Env) (seed : Value) (context : Context)
    (trials : List (InputModel × List (Option Snapshot))) : Except PyExc (List (List RunResult)) :=
  context.forTrials.bind fun context => runTrials env seed context trials

/-- The invariant of the generation loop of a trial: the history holds `EmptySnapshot(seed)` and one
snapshot per kept verdict above it, so the loop never pops it empty, and the checker is the trial's
checker with its records rewritten in place. -/
theorem TrialState.generations_invariant {env : Env} {ck : Checker} {seed : Value}
    {gens : List (Option Snapshot)} {s : TrialState}
    (hs : TrialState.generations env ⟨ck, [emptySnapshot seed], []⟩ gens = .ok s) :
    s.snapshots.length = s.results.countP RunResult.keepsSnapshot + 1 ∧ ck.Rewrites s.checker :=
  ⟨TrialState.generations_historyInv _ hs rfl, TrialState.generations_rewrites _ hs⟩

/-- `TrialState.generations_invariant` on three generations below the gate `spec.enabled`, which is
false: the first changes `spec.replicas`, whose skip rewrites the gate's record to `True`, and is kept;
the second has no operator log; the third has no cluster state and is popped again. -/
theorem TrialState.generations_invariant_gate :
    let spec : Path := [.key "spec"]
    let ck (v : Value) : Checker := ⟨⟨false, none⟩,
      ⟨.object spec [("enabled", .other (spec ++ [.key "enabled"])),
        ("replicas", .other (spec ++ [.key "replicas"]))], fun _ => some .none⟩,
      ⟨[(spec, [⟨spec ++ [.key "enabled"], .eq, v⟩])], List.nodup_singleton spec⟩⟩
    let state : List (String × Value) := [("custom_resource_spec", .dict []), ("pod", .dict [])]
    let snapshot (n : Int) (state : List (String × Value)) : Snapshot :=
      ⟨.dict [("spec", .dict [("enabled", .bool false), ("replicas", .int n)])], ⟨"", ""⟩,
        state, []⟩
    let seed := (snapshot 3 []).input
    let s : TrialState := ⟨ck (.bool true),
      [snapshot 5 state, { emptySnapshot seed with systemState := state }],
      [.pass, .invalidInput none]⟩
    TrialState.generations Env.reference ⟨ck (.str "true"), [emptySnapshot seed], []⟩
        [some (snapshot 5 state), none, some (snapshot 7 [])] = .ok s ∧
      s.snapshots.length = s.results.countP RunResult.keepsSnapshot + 1 ∧
      (ck (.str "true")).Rewrites s.checker := by
  intro spec ck state snapshot seed s
  have h : TrialState.generations Env.reference ⟨ck (.str "true"), [emptySnapshot seed], []⟩
      [some (snapshot 5 state), none, some (snapshot 7 [])] = .ok s := rfl
  exact ⟨h, TrialState.generations_invariant h⟩

/-- Within a trial the history is `EmptySnapshot(seed)` under the checked snapshots whose verdicts
kept them, newest first, each changed only by empty entries for the resource kinds it lacked: every
generation is checked against the newest snapshot kept before it, and reads it as it was checked. -/
theorem TrialState.generations_snapshots {env : Env} {ck : Checker} {seed : Value}
    {gens : List (Option Snapshot)} {s : TrialState}
    (hs : TrialState.generations env ⟨ck, [emptySnapshot seed], []⟩ gens = .ok s) :
    s.results.length = (gens.filterMap id).length ∧
      List.Forall₂ Snapshot.Widens
        ((((gens.filterMap id).zip s.results).filter (·.2.keepsSnapshot)).reverse.map Prod.fst ++
          [emptySnapshot seed]) s.snapshots := by
  obtain ⟨rs, hrs, hlen, h⟩ := TrialState.generations_widens gens hs (.cons (.refl _) .nil)
  rw [hrs, List.nil_append]
  exact ⟨hlen, h⟩

/-- `TrialState.generations_snapshots` on the run of `TrialState.generations_invariant_gate`: the
first snapshot is kept, and the empty snapshot below it is widened by the two resource kinds of the
first; the third snapshot is popped again. -/
theorem TrialState.generations_snapshots_gate :
    let spec : Path := [.key "spec"]
    let ck (v : Value) : Checker := ⟨⟨false, none⟩,
      ⟨.object spec [("enabled", .other (spec ++ [.key "enabled"])),
        ("replicas", .other (spec ++ [.key "replicas"]))], fun _ => some .none⟩,
      ⟨[(spec, [⟨spec ++ [.key "enabled"], .eq, v⟩])], List.nodup_singleton spec⟩⟩
    let state : List (String × Value) := [("custom_resource_spec", .dict []), ("pod", .dict [])]
    let snapshot (n : Int) (state : List (String × Value)) : Snapshot :=
      ⟨.dict [("spec", .dict [("enabled", .bool false), ("replicas", .int n)])], ⟨"", ""⟩,
        state, []⟩
    let seed := (snapshot 3 []).input
    let gens := [some (snapshot 5 state), none, some (snapshot 7 [])]
    let s : TrialState := ⟨ck (.bool true),
      [snapshot 5 state, { emptySnapshot seed with systemState := state }],
      [.pass, .invalidInput none]⟩
    TrialState.generations Env.reference ⟨ck (.str "true"), [emptySnapshot seed], []⟩ gens = .ok s ∧
      s.results.length = (gens.filterMap id).length ∧
      List.Forall₂ Snapshot.Widens
        ((((gens.filterMap id).zip s.results).filter (·.2.keepsSnapshot)).reverse.map Prod.fst ++
          [emptySnapshot seed]) s.snapshots := by
  intro spec ck state snapshot seed gens s
  have h : TrialState.generations Env.reference ⟨ck (.str "true"), [emptySnapshot seed], []⟩ gens =
      .ok s := rfl
  exact ⟨h, TrialState.generations_snapshots h⟩

/-- A trial with analysis enabled leaves in the context the map of the trial's checker, which is the
checker `Checker.__init__` builds with its records rewritten in place. -/
lemma runTrial_analysis {env : Env} {r : AnalysisResult} {im : InputModel} {seed : Value}
    {gens : List (Option Snapshot)} {results : List RunResult} {context' : Context}
    (h : runTrial env ⟨true, some r⟩ im seed gens = .ok (results, context')) :
    ∃ ck', context' = ⟨true, some { r with fieldConditionsMap := ck'.fieldConditionsMap }⟩ ∧
      (⟨⟨true, some r⟩, im, helper im.rootSchema r.fieldConditionsMap⟩ : Checker).Rewrites ck' := by
  have hinit : Checker.init ⟨true, some r⟩ im =
      .ok ⟨⟨true, some r⟩, im, helper im.rootSchema r.fieldConditionsMap⟩ := rfl
  rw [runTrial, hinit, Except.bind] at h
  rcases hg : TrialState.generations env ⟨⟨⟨true, some r⟩, im, helper im.rootSchema
    r.fieldConditionsMap⟩, [emptySnapshot seed], []⟩ (gens.take 20) with e | t <;>
    rw [hg] at h <;> cases h
  exact ⟨t.checker, rfl, TrialState.generations_rewrites _ hg⟩

/-- With analysis enabled, a trial leaves in the context a map with the keys `helper` gives the map it
found, and under every key that map had, the old records followed by one more copy of the condition
of every reached gate above the key, each rewritten in place. -/
theorem runTrial_conditions {env : Env} {r : AnalysisResult} {im : InputModel} {seed : Value}
    {gens : List (Option Snapshot)} {results : List RunResult} {context' : Context}
    (h : runTrial env ⟨true, some r⟩ im seed gens = .ok (results, context')) :
    ∃ r', context' = ⟨true, some r'⟩ ∧ r'.controlFlowFields = r.controlFlowFields ∧
      r'.fieldConditionsMap.keys = (helper im.rootSchema r.fieldConditionsMap).keys ∧
      ∀ k ∈ r.fieldConditionsMap.keys, List.Forall₂ Condition.Rewrites
        ((r.fieldConditionsMap.get? k).getD [] ++
          ((gatedPaths im.rootSchema).filter (·.isPrefixOf k)).map gateCondition)
        ((r'.fieldConditionsMap.get? k).getD []) := by
  obtain ⟨ck', rfl, hrw⟩ := runTrial_analysis h
  refine ⟨{ r with fieldConditionsMap := ck'.fieldConditionsMap }, rfl, rfl, hrw.map.keys,
    fun k hk => ?_⟩
  rw [← getD_foldl_encodeGate_of_mem k _ _ hk, ← helper_eq_foldl]
  exact hrw.map.conditions k

/-- `runTrial_conditions` on a map that already holds the gate of `spec` under `spec.replicas`: the
trial adds a second copy, and its one generation, a change of `spec.replicas` with `spec.enabled`
false, rewrites the first copy to `True` and is skipped. -/
theorem runTrial_conditions_replicas :
    let spec : Path := [.key "spec"]
    let replicas : Path := spec ++ [.key "replicas"]
    let im : InputModel := ⟨.object spec [("enabled", .other (spec ++ [.key "enabled"])),
      ("replicas", .other replicas)], fun _ => none⟩
    let r : AnalysisResult := ⟨⟨[(replicas, [gateCondition spec])], by decide⟩, []⟩
    let r' : AnalysisResult := ⟨⟨[(replicas, [{ gateCondition spec with value := .bool true },
      gateCondition spec]), (spec, [gateCondition spec])], by decide⟩, []⟩
    let snapshot (n : Int) : Snapshot :=
      ⟨.dict [("spec", .dict [("enabled", .bool false), ("replicas", .int n)])], ⟨"", ""⟩,
        [("custom_resource_spec", .dict []), ("pod", .dict [])], []⟩
    runTrial Env.reference ⟨true, some r⟩ im (snapshot 3).input [some (snapshot 5)] =
        .ok ([.pass], ⟨true, some r'⟩) ∧
      ∃ r'', (⟨true, some r'⟩ : Context) = ⟨true, some r''⟩ ∧
        r''.controlFlowFields = r.controlFlowFields ∧
        r''.fieldConditionsMap.keys = (helper im.rootSchema r.fieldConditionsMap).keys ∧
        ∀ k ∈ r.fieldConditionsMap.keys, List.Forall₂ Condition.Rewrites
          ((r.fieldConditionsMap.get? k).getD [] ++
            ((gatedPaths im.rootSchema).filter (·.isPrefixOf k)).map gateCondition)
          ((r''.fieldConditionsMap.get? k).getD []) := by
  intro spec replicas im r r' snapshot
  have h : runTrial Env.reference ⟨true, some r⟩ im (snapshot 3).input [some (snapshot 5)] =
      .ok ([.pass], ⟨true, some r'⟩) := rfl
  exact ⟨h, runTrial_conditions h⟩

/-- One trial changes the verdicts of the next: the first trial evaluates the gate
`spec.enabled == 'true'` on `enabled = False` twice, which leaves the shared record as `== False`,
and the second trial, on `enabled = True`, then skips the change of `spec.replicas` that a checker
built from an unused copy of the context reports. -/
theorem runTrials_shared_context :
    let spec : Path := [.key "spec"]
    let im : InputModel := ⟨.object spec [("enabled", .other (spec ++ [.key "enabled"])),
      ("replicas", .other (spec ++ [.key "replicas"]))], fun _ => some .none⟩
    let context : Context := ⟨true, some ⟨.empty, []⟩⟩
    let state : List (String × Value) :=
      [("custom_resource_spec", .dict []), ("stateful_set", .dict [("db", .dict [("ready", .int 1)])])]
    let snapshot (enabled : Bool) (n : Int) : Snapshot :=
      ⟨.dict [("spec", .dict [("enabled", .bool enabled), ("replicas", .int n)])], ⟨"", ""⟩, state, []⟩
    let seed := (snapshot false 3).input
    (·.map (·.map RunResult.isStateError)) <$> runTrials Env.reference seed context
        [(im, [some (snapshot false 5), some (snapshot false 7)]), (im, [some (snapshot true 5)])] =
        .ok [[false, true], [false]] ∧
      (·.1.map RunResult.isStateError) <$> runTrial Env.reference context im seed
        [some (snapshot true 5)] = .ok [true] :=
  ⟨rfl, rfl⟩

/-! ## The script -/

/-- The records the script's trials leave under the keys of the cached map `m`: each key is still a
key, and holds its cached records followed by `j` copies of the conditions of the gates of `s` above
it, each rewritten in place. -/
def TrialMapInv (s : Schema) (m : FieldConditionsMap) (j : Nat) (m' : FieldConditionsMap) : Prop :=
  ∀ k ∈ m.keys, k ∈ m'.keys ∧ List.Forall₂ Condition.Rewrites
    ((m.get? k).getD [] ++
      (List.replicate j (((gatedPaths s).filter (·.isPrefixOf k)).map gateCondition)).flatten)
    ((m'.get? k).getD [])

/-- A trial on the schema `s` adds one copy of the gate conditions to the map it starts from, and keeps
the control-flow gates. -/
lemma runTrial_mapInv {env : Env} {r : AnalysisResult} {im : InputModel} {seed : Value}
    {gens : List (Option Snapshot)} {results : List RunResult} {context' : Context} {s : Schema}
    {m : FieldConditionsMap} {j : Nat} (hs : im.rootSchema = s)
    (hinv : TrialMapInv s m j r.fieldConditionsMap)
    (h : runTrial env ⟨true, some r⟩ im seed gens = .ok (results, context')) :
    ∃ r', context' = ⟨true, some r'⟩ ∧ r'.controlFlowFields = r.controlFlowFields ∧
      TrialMapInv s m (j + 1) r'.fieldConditionsMap := by
  obtain ⟨ck', rfl, hrw⟩ := runTrial_analysis h
  subst hs
  refine ⟨_, rfl, rfl, fun k hk => ?_⟩
  obtain ⟨hk', hcs⟩ := hinv k hk
  have hcs' := hrw.map.conditions k
  rw [helper_eq_foldl, getD_foldl_encodeGate_of_mem k _ _ hk'] at hcs'
  refine ⟨hrw.map.keys ▸ ?_, ?_⟩
  · rw [helper_eq_foldl, mem_keys_foldl_encodeGate]
    exact .inl hk'
  · rw [List.replicate_succ', List.flatten_append, List.flatten_singleton, ← List.append_assoc]
    exact Condition.Rewrites.forall₂_trans
      (List.rel_append hcs (Condition.Rewrites.forall₂_refl _)) hcs'

/-- Over the trials that follow `j` earlier ones, the trial after `pre` runs from a map with
`j + pre.length` copies and the control-flow gates the first started from, and its verdicts are the
result at its position. -/
lemma runTrials_mapInv {env : Env} {seed : Value} {s : Schema} {m : FieldConditionsMap} :
    ∀ {trials : List (InputModel × List (Option Snapshot))} {r : AnalysisResult} {j : Nat}
      {results : List (List RunResult)},
      (∀ t ∈ trials, t.1.rootSchema = s) → TrialMapInv s m j r.fieldConditionsMap →
      runTrials env seed ⟨true, some r⟩ trials = .ok results →
      ∀ pre t post, trials = pre ++ t :: post → ∃ rₜ resT, results[pre.length]? = some resT ∧
        Prod.fst <$> runTrial env ⟨true, some rₜ⟩ t.1 seed t.2 = .ok resT ∧
        rₜ.controlFlowFields = r.controlFlowFields ∧
        TrialMapInv s m (j + pre.length) rₜ.fieldConditionsMap
  | [], _, _, _, _, _, _, pre, _, _, htr => by simp at htr
  | (im, gens) :: trials, r, j, results, hs, hinv, h, pre, t, post, htr => by
    rw [runTrials] at h
    rcases hrt : runTrial env ⟨true, some r⟩ im seed gens with e | ⟨res, c'⟩ <;>
      simp only [hrt, Except.bind] at h
    · cases h
    rcases hrest : runTrials env seed c' trials with e | rs <;> simp only [hrest, Except.map] at h
    · cases h
    cases h
    obtain ⟨r', rfl, hcf, hinv'⟩ := runTrial_mapInv (hs _ (List.mem_cons_self _ _)) hinv hrt
    cases pre with
    | nil =>
      cases htr
      exact ⟨r, res, by simp, by rw [hrt]; rfl, rfl, hinv⟩
    | cons _ pre =>
      cases htr
      obtain ⟨rₜ, resT, hget, hrun, hcf', hinvₜ⟩ := runTrials_mapInv
        (fun t ht => hs t (List.mem_cons_of_mem _ ht)) hinv' hrest pre t post rfl
      refine ⟨rₜ, resT, by simpa using hget, hrun, hcf'.trans hcf, ?_⟩
      rw [List.length_cons, show j + (pre.length + 1) = j + 1 + pre.length by omega]
      exact hinvₜ

/-- The script's trials share one map. With every trial on the schema `s`, the trial after the trials
`pre` runs from the control-flow gates of the cached context and a map in which every key of the
cached map holds its cached records followed by one copy of the condition of every gate of `s` above
it per earlier trial, each rewritten in place; its verdicts are the script's result at its
position. -/
theorem runScript_conditions {env : Env} {seed : Value} {context : Context} {s : Schema}
    {trials : List (InputModel × List (Option Snapshot))} {results : List (List RunResult)}
    (hs : ∀ t ∈ trials, t.1.rootSchema = s) (h : runScript env seed context trials = .ok results) :
    ∃ r, context.forTrials = .ok ⟨true, some r⟩ ∧
      ∀ pre t post, trials = pre ++ t :: post → ∃ rₜ resT, results[pre.length]? = some resT ∧
        Prod.fst <$> runTrial env ⟨true, some rₜ⟩ t.1 seed t.2 = .ok resT ∧
        rₜ.controlFlowFields = r.controlFlowFields ∧
        ∀ k ∈ r.fieldConditionsMap.keys, k ∈ rₜ.fieldConditionsMap.keys ∧
          List.Forall₂ Condition.Rewrites
            ((r.fieldConditionsMap.get? k).getD [] ++ (List.replicate pre.length
              (((gatedPaths s).filter (·.isPrefixOf k)).map gateCondition)).flatten)
            ((rₜ.fieldConditionsMap.get? k).getD []) := by
  rw [runScript] at h
  rcases hc : context.forTrials with e | c <;> rw [hc] at h
  · cases h
  obtain ⟨r, rfl⟩ : ∃ r, c = ⟨true, some r⟩ := by
    unfold Context.forTrials at hc
    split at hc
    · cases hc
    · split_ifs at hc
      cases hc
      exact ⟨_, rfl⟩
  have h0 : TrialMapInv s r.fieldConditionsMap 0 r.fieldConditionsMap := fun k hk =>
    ⟨hk, by simpa using Condition.Rewrites.forall₂_refl _⟩
  refine ⟨r, rfl, fun pre t post htr => ?_⟩
  obtain ⟨rₜ, resT, hget, hrun, hcf, hinv⟩ := runTrials_mapInv hs h0 h pre t post htr
  exact ⟨rₜ, resT, hget, hrun, hcf, Nat.zero_add pre.length ▸ hinv⟩

/-- `runScript_conditions` on two trials of one change of `spec.replicas` with `spec.enabled` false,
from a cached map that holds `spec.replicas` alone: each trial adds a copy of the gate of `spec`, the
first rewrites its copy to `True`, and the second finds that copy, rewrites it to `False`, and then
rewrites its own. -/
theorem runScript_conditions_twoTrials :
    let spec : Path := [.key "spec"]
    let replicas : Path := spec ++ [.key "replicas"]
    let s : Schema := .object spec
      [("enabled", .other (spec ++ [.key "enabled"])), ("replicas", .other replicas)]
    let context : Context := ⟨false, some ⟨⟨[(replicas, [])], by decide⟩, []⟩⟩
    let snapshot (n : Int) : Snapshot :=
      ⟨.dict [("spec", .dict [("enabled", .bool false), ("replicas", .int n)])], ⟨"", ""⟩,
        [("custom_resource_spec", .dict []), ("pod", .dict [])], []⟩
    let trials : List (InputModel × List (Option Snapshot)) :=
      [(⟨s, fun _ => none⟩, [some (snapshot 5)]), (⟨s, fun _ => none⟩, [some (snapshot 5)])]
    (∀ t ∈ trials, t.1.rootSchema = s) ∧
      runScript Env.reference (snapshot 3).input context trials = .ok [[.pass], [.pass]] ∧
      ∃ r, context.forTrials = .ok ⟨true, some r⟩ ∧
        ∀ pre t post, trials = pre ++ t :: post → ∃ rₜ resT,
          ([[.pass], [.pass]] : List (List RunResult))[pre.length]? = some resT ∧
          Prod.fst <$> runTrial Env.reference ⟨true, some rₜ⟩ t.1 (snapshot 3).input t.2 = .ok resT ∧
          rₜ.controlFlowFields = r.controlFlowFields ∧
          ∀ k ∈ r.fieldConditionsMap.keys, k ∈ rₜ.fieldConditionsMap.keys ∧
            List.Forall₂ Condition.Rewrites
              ((r.fieldConditionsMap.get? k).getD [] ++ (List.replicate pre.length
                (((gatedPaths s).filter (·.isPrefixOf k)).map gateCondition)).flatten)
              ((rₜ.fieldConditionsMap.get? k).getD []) := by
  intro spec replicas s context snapshot trials
  have hs : ∀ t ∈ trials, t.1.rootSchema = s := by
    intro t ht
    simp only [trials, List.mem_cons, List.mem_singleton, List.not_mem_nil, or_false] at ht
    rcases ht with rfl | rfl <;> rfl
  have h : runScript Env.reference (snapshot 3).input context trials = .ok [[.pass], [.pass]] := rfl
  exact ⟨hs, h, runScript_conditions hs h⟩

end Acto
