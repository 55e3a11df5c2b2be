import Acto.StateOracle

/-!
# The checker

Port of `Checker.check_input`, `Checker.check_operator_log`, `Checker.check` and
`Checker.count_num_fields` (`checker.py`). `check` answers `InvalidInput` for an empty cluster
state, then runs the input oracle and stops at any verdict but `Pass`; otherwise it runs the state
oracle and the log oracle and combines them (the health oracle is disabled in the source and always
passes). The log oracle's exclusion patterns and its error verdict are commented out in the source,
so a log line only ever yields `InvalidInput` or nothing. `check_cases` says once what a call can do;
`check` raises `KeyError` exactly when the state oracle does (`check_keyError`).

Every call returns the checker, whose condition records the skip engine rewrites, and the previous
snapshot, into which `get_deltas` writes. A run of the checker threads both from call to call.
-/

namespace Acto

namespace Checker

/-- `Checker.check_input(snapshot, input_delta)`: connection loss, then a rejected input (any
`stderr` at all counts), then an unchanged resource. -/
def checkInput (env : Env) (snap : Snapshot) (inputDelta : DeltaSet) : RunResult :=
  let stdout := snap.cliResult.stdout
  let stderr := snap.cliResult.stderr
  if strContains stderr "connection refused" then .connectionRefused
  else
    let (isInvalid, path) := env.invalidInputMessage stderr inputDelta
    if isInvalid || stderr.length > 0 then .invalidInput path
    else if strContains stdout "unchanged" || strContains stderr "unchanged" then .unchanged
    else .pass

/-- The first invalid-input report among the string values of a parsed log line. -/
def invalidValue (env : Env) (inputDelta : DeltaSet) : List Value → Option (Option Path)
  | [] => none
  | .str s :: vs =>
    if s = "" then invalidValue env inputDelta vs
    else match env.invalidInputMessage s inputDelta with
      | (true, path) => some path
      | (false, _) => invalidValue env inputDelta vs
  | _ :: vs => invalidValue env inputDelta vs

/-- The loop of `check_operator_log` over the log lines: a `warn`, `error` or `fatal` line with an
invalid-input value gives `InvalidInput`; every other line is passed over. -/
def logLoop (env : Env) (inputDelta : DeltaSet) : List String → RunResult
  | [] => .pass
  | line :: lines =>
    match env.parseLog line with
    | none => logLoop env inputDelta lines
    | some parsed =>
      let level := lower parsed.level
      if level ≠ "warn" ∧ level ≠ "error" ∧ level ≠ "fatal" then logLoop env inputDelta lines
      else match invalidValue env inputDelta parsed.values with
        | some path => .invalidInput path
        | none => logLoop env inputDelta lines

/-- The log oracle gives no error verdict: its error branch is commented out in the source. -/
lemma logLoop_isError (env : Env) (inputDelta : DeltaSet) :
    ∀ lines, (logLoop env inputDelta lines).isError = false
  | [] => rfl
  | _ :: lines => by
    have ih := logLoop_isError env inputDelta lines
    rw [logLoop]
    split
    · exact ih
    · dsimp only
      split_ifs
      · exact ih
      · split
        · rfl
        · exact ih

/-- `Checker.check_operator_log(snapshot, prev_snapshot)`. -/
def checkOperatorLog (env : Env) (snap prev : Snapshot) : RunResult × Snapshot :=
  let deltas := getDeltas env snap prev
  (logLoop env deltas.1.1 snap.operatorLog, deltas.2)

/-- `Checker.check(snapshot, prev_snapshot, generation)`: the verdict, the checker and the previous
snapshot as the call leaves them. The generation only names the delta-log file. -/
def check (env : Env) (ck : Checker) (snap prev : Snapshot) :
    Except PyExc (RunResult × Checker × Snapshot) :=
  if snap.systemState.isEmpty then .ok (.invalidInput none, ck, prev)
  else
    let deltas := getDeltas env snap prev
    match checkInput env snap deltas.1.1 with
    | .pass => do
      let (stateResult, ck, prev) ← checkResources env ck snap deltas.2
      let (logResult, prev) := checkOperatorLog env snap prev
      if logResult.isInvalidInput then pure (logResult, ck, prev)
      else if stateResult.isError then pure (stateResult, ck, prev)
      else if logResult.isError then pure (logResult, ck, prev)
      else pure (.pass, ck, prev)
    | r => .ok (r, ck, deltas.2)

/-- What a call of `check` that returns did: answer `InvalidInput` on an empty cluster state, stop at
a verdict of the input oracle other than `Pass`, or run the state oracle and then the log oracle,
whose `InvalidInput` comes first and which gives no error of its own. -/
lemma check_cases {env : Env} {ck ck' : Checker} {snap prev prev' : Snapshot} {r : RunResult}
    (h : check env ck snap prev = .ok (r, ck', prev')) :
    (snap.systemState = [] ∧ r = .invalidInput none ∧ ck' = ck ∧ prev' = prev) ∨
    (r = checkInput env snap (getDeltas env snap prev).1.1 ∧ r ≠ .pass ∧ ck' = ck ∧
      prev' = (getDeltas env snap prev).2) ∨
    ∃ s p, checkResources env ck snap (getDeltas env snap prev).2 = .ok (s, ck', p) ∧
      prev' = (getDeltas env snap p).2 ∧
      r = let log := logLoop env (getDeltas env snap p).1.1 snap.operatorLog
        if log.isInvalidInput then log else if s.isError then s else .pass := by
  unfold check at h
  split at h
  · cases h; exact .inl ⟨List.isEmpty_iff.mp ‹_›, rfl, rfl, rfl⟩
  · dsimp only at h
    split at h
    · rcases hs : checkResources env ck snap (getDeltas env snap prev).2 with e | ⟨s, ck₁, p₁⟩
      · simp [hs, bind, Except.bind] at h
      · simp only [hs, bind, Except.bind, checkOperatorLog, pure, Except.pure] at h
        have hlog := logLoop_isError env (getDeltas env snap p₁).1.1 snap.operatorLog
        refine .inr (.inr ⟨s, p₁, ?_⟩)
        split_ifs at h <;> cases h <;> simp_all
    · cases h; exact .inr (.inl ⟨rfl, ‹_›, rfl, rfl⟩)

/-- `check` raises `KeyError` exactly when the cluster state is not empty, the input oracle passes,
and the state has no `custom_resource_spec` kind (`checkResources_keyError`). -/
theorem check_keyError (env : Env) (ck : Checker) (snap prev : Snapshot) :
    check env ck snap prev = .error .keyError ↔ snap.systemState ≠ [] ∧
      checkInput env snap (getDeltas env snap prev).1.1 = .pass ∧
      "custom_resource_spec" ∉ snap.systemState.map Prod.fst := by
  unfold check
  by_cases hempty : snap.systemState = []
  · simp [hempty]
  rw [if_neg (by simpa [List.isEmpty_iff] using hempty)]
  dsimp only
  split
  · rename_i hpass
    rw [← checkResources_keyError env ck snap (getDeltas env snap prev).2]
    simp only [ne_eq, hempty, not_false_eq_true, hpass, true_and]
    rcases checkResources env ck snap (getDeltas env snap prev).2 with e | ⟨s, ck₁, p₁⟩
    · simp only [bind, Except.bind, Except.error.injEq]
    · simp only [bind, Except.bind, pure, Except.pure, reduceCtorEq, iff_false]
      split_ifs <;> simp
  · rename_i hnpass
    simp only [reduceCtorEq, false_iff, not_and]
    exact fun _ hpass => (hnpass hpass).elim

/-- `check` rewrites the checker in place. -/
lemma check_rewrites {env : Env} {ck ck' : Checker} {snap prev prev' : Snapshot}
    {r : RunResult} (h : check env ck snap prev = .ok (r, ck', prev')) : ck.Rewrites ck' := by
  rcases check_cases h with ⟨-, -, rfl, -⟩ | ⟨-, -, rfl, -⟩ | ⟨s, p, hs, -, -⟩
  · exact .refl _
  · exact .refl _
  · exact checkResources_rewrites hs

/-- Two identical calls on one checker disagree: the gate `spec.enabled` is false, so the first call
skips the change of `spec.replicas` and passes, rewriting the gate's record; the second call finds the
gate satisfied, checks the change, and reports that no system field shows it. -/
theorem check_repeated_call :
    let spec : Path := [.key "spec"]
    let schema : Schema := .object spec
      [("enabled", .other (spec ++ [.key "enabled"])), ("replicas", .other (spec ++ [.key "replicas"]))]
    let state : List (String × Value) :=
      [("custom_resource_spec", .dict []), ("stateful_set", .dict [("db", .dict [("ready", .int 1)])])]
    let snapshot (n : Int) : Snapshot :=
      ⟨.dict [("spec", .dict [("enabled", .bool false), ("replicas", .int n)])], ⟨"", ""⟩, state, []⟩
    ((Checker.init ⟨false, none⟩ ⟨schema, fun _ => some .none⟩).bind fun ck =>
      (check Env.reference ck (snapshot 5) (snapshot 3)).bind fun (r₁, ck₁, prev₁) =>
        (fun r₂ => (r₁.isError, r₂.1.isStateError)) <$>
          check Env.reference ck₁ (snapshot 5) prev₁) = .ok (false, true) :=
  rfl

/-- Enabling analysis adds an alarm: the seed map lists the gated key `spec.tls` before `spec`, so the
nearest parent of `spec.tls.cert` is `spec`, whose conditions hold, while without analysis it is
`spec.tls`, whose `enabled` flag is false. -/
theorem check_analysis_adds_alarm :
    let spec : Path := [.key "spec"]
    let tls : Path := spec ++ [.key "tls"]
    let schema : Schema := .object spec
      [("tls", .object tls [("enabled", .other (tls ++ [.key "enabled"])),
        ("cert", .other (tls ++ [.key "cert"]))])]
    let seed : FieldConditionsMap := ⟨[(tls, []), (spec, [])], by decide⟩
    let state : List (String × Value) :=
      [("custom_resource_spec", .dict []), ("secret", .dict [("tls", .dict [("type", .str "x")])])]
    let snapshot (cert : String) : Snapshot :=
      ⟨.dict [("spec", .dict [("tls", .dict [("enabled", .bool false), ("cert", .str cert)])])],
        ⟨"", ""⟩, state, []⟩
    (Checker.init ⟨true, some ⟨seed, []⟩⟩ ⟨schema, fun _ => some .none⟩).bind
        (fun ck => (·.1.isStateError) <$> check Env.reference ck (snapshot "b") (snapshot "a")) =
        .ok true ∧
      (Checker.init ⟨false, none⟩ ⟨schema, fun _ => some .none⟩).bind
        (fun ck => (·.1.isStateError) <$> check Env.reference ck (snapshot "b") (snapshot "a")) =
        .ok false :=
  ⟨rfl, rfl⟩

/-- A seeded condition on `spec.list[INDEX]` with `spec.list` empty makes `check` raise
`IndexError`: the descent indexes past the end of the list, which `check_condition` does not
catch. -/
theorem check_index_error :
    let spec : Path := [.key "spec"]
    let schema : Schema := .object spec
      [("a", .other (spec ++ [.key "a"])), ("list", .other (spec ++ [.key "list"]))]
    let seed : FieldConditionsMap :=
      ⟨[(spec ++ [.key "a"], [⟨spec ++ [.key "list", .key "INDEX"], .eq, .int 1⟩])], by decide⟩
    let state : List (String × Value) := [("custom_resource_spec", .dict []), ("pod", .dict [])]
    let snapshot (a : Int) : Snapshot :=
      ⟨.dict [("spec", .dict [("a", .int a), ("list", .list [])])], ⟨"", ""⟩, state, []⟩
    (Checker.init ⟨true, some ⟨seed, []⟩⟩ ⟨schema, fun _ => some .none⟩).bind
      (fun ck => (·.1) <$> check Env.reference ck (snapshot 2) (snapshot 1)) = .error .indexError :=
  rfl

/-- `Checker.count_num_fields(snapshot, prev_snapshot)`: the number of fields of the cluster state
and of system deltas when the input oracle passes and the input changed, and the previous snapshot as
`get_deltas` leaves it. -/
def countNumFields (env : Env) (snap prev : Snapshot) : Option (Nat × Nat) × Snapshot :=
  let deltas := getDeltas env snap prev
  let count := match checkInput env snap deltas.1.1 with
    | .pass =>
      if deltas.1.1.length > 0 then some (env.flattenCount snap.systemState, deltas.1.2.deltas.length)
      else none
    | _ => none
  (count, deltas.2)

lemma checkResources_prev {env : Env} {ck ck' : Checker} {snap prev prev' : Snapshot}
    {r : RunResult} (h : checkResources env ck snap prev = .ok (r, ck', prev')) :
    prev' = (getDeltas env snap prev).2 := by
  simp only [checkResources, Except.bind] at h
  split at h
  · cases h
  · revert h
    cases checkInputDeltas env snap _ ck (inputDeltas env snap prev) <;> simp [Except.map]
    rintro _ _ rfl; rfl

/-- A call of `check` that returns leaves the previous snapshot as one `get_deltas` leaves it: its
input, CLI output and log untouched, and an empty entry for each resource kind of the current
snapshot that it lacked (`getDeltas_eq`). -/
lemma check_prev {env : Env} {ck ck' : Checker} {snap prev prev' : Snapshot} {r : RunResult}
    (h : check env ck snap prev = .ok (r, ck', prev')) : prev' = (getDeltas env snap prev).2 := by
  unfold check at h
  split at h
  · cases h
    simp_all [getDeltas_eq, ensureKinds, List.isEmpty_iff]
  · dsimp only at h
    split at h
    · rcases hr : checkResources env ck snap (getDeltas env snap prev).2 with e | ⟨s, ck₁, p₁⟩
      · simp [hr, bind, Except.bind] at h
      · rw [checkResources_prev hr, getDeltas_snd_idem] at hr
        simp only [hr, bind, Except.bind, checkOperatorLog, getDeltas_snd_idem] at h
        split_ifs at h <;> cases h <;> rfl
    · cases h; rfl

/-- `count_num_fields` leaves the previous snapshot as `get_deltas` leaves it. -/
lemma countNumFields_prev (env : Env) (snap prev : Snapshot) :
    (countNumFields env snap prev).2 = (getDeltas env snap prev).2 := rfl

/-- A call of `check` that returns, and every call of `count_num_fields`, leave the previous snapshot
as it was but for an empty entry, after the others, for each resource kind of the current snapshot
that it lacked; the current snapshot is only read. -/
theorem check_prev_state (env : Env) (ck : Checker) (snap prev : Snapshot) :
    (∀ {r : RunResult} {ck' : Checker} {prev' : Snapshot},
      check env ck snap prev = .ok (r, ck', prev') →
        prev' = { prev with systemState := ensureKinds prev.systemState snap.systemState }) ∧
      (countNumFields env snap prev).2 =
        { prev with systemState := ensureKinds prev.systemState snap.systemState } := by
  refine ⟨fun h => ?_, ?_⟩
  · rw [check_prev h, getDeltas_eq]
  · rw [countNumFields_prev, getDeltas_eq]

/-- Against a snapshot without cluster state, `check` passes on a state with the kinds
`custom_resource_spec` and `pod`, and adds both to the previous snapshot; on a state with `pod` alone
it raises `KeyError`, while `count_num_fields` on the same pair still adds `pod`. -/
theorem check_prev_state_pod :
    let snapshot (a : Int) (state : List (String × Value)) : Snapshot :=
      ⟨.dict [("a", .int a)], ⟨"", ""⟩, state, []⟩
    let prev := snapshot 1 []
    let curr := snapshot 1 [("custom_resource_spec", .dict []), ("pod", .dict [])]
    let ck : Checker := ⟨⟨false, none⟩, ⟨.other [], fun _ => none⟩, .empty⟩
    check Env.reference ck curr prev = .ok (.pass, ck, snapshot 1 curr.systemState) ∧
      snapshot 1 curr.systemState =
        { prev with systemState := ensureKinds prev.systemState curr.systemState } ∧
      check Env.reference ck (snapshot 2 [("pod", .dict [])]) prev = .error .keyError ∧
      (countNumFields Env.reference (snapshot 2 [("pod", .dict [])]) prev).2 =
        { prev with systemState := ensureKinds prev.systemState [("pod", .dict [])] } := by
  intro snapshot prev curr ck
  have h : check Env.reference ck curr prev = .ok (.pass, ck, snapshot 1 curr.systemState) := rfl
  exact ⟨h, (check_prev_state Env.reference ck curr prev).1 h, rfl,
    (check_prev_state Env.reference ck (snapshot 2 [("pod", .dict [])]) prev).2⟩

/-- `check` and `count_num_fields` write into the previous snapshot: against the empty snapshot
that starts a trial, both leave it with an empty entry for each resource kind of the current one. -/
theorem check_writes_prev_state :
    let curr : Snapshot := ⟨.dict [("spec", .dict [])], ⟨"", ""⟩,
      [("custom_resource_spec", .dict []), ("pod", .dict [])], []⟩
    let prev : Snapshot := ⟨.dict [("spec", .dict [])], ⟨"", ""⟩, [], []⟩
    let ck : Checker := ⟨⟨false, none⟩, ⟨.other [], fun _ => none⟩, .empty⟩
    (·.2.2.systemState) <$> check Env.reference ck curr prev =
        .ok [("custom_resource_spec", .dict []), ("pod", .dict [])] ∧
      (countNumFields Env.reference curr prev).2.systemState =
        [("custom_resource_spec", .dict []), ("pod", .dict [])] :=
  ⟨rfl, rfl⟩

end Checker

end Acto
