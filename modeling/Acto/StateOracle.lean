import Acto.Records
import Acto.Match

/-!
# The system-state oracle

Port of `Checker.get_deltas` and `Checker.check_resources` (`checker.py`). `get_deltas` diffs the
inputs and, resource kind by resource kind, the cluster states of two snapshots; it also writes an
empty entry into the previous snapshot's state for every kind it lacks, so the model returns that
snapshot too. `check_resources` drops `custom_resource_spec` from the system delta and walks the
input deltas in order (`checkInputDeltas`): an equivalent or skipped delta is passed over, a delta
whose longest-suffix matches disagree with it is an alarm, and a delta without matches needs some
consistent system delta anywhere (the wildcard fallback). The delta-log file it writes is not
modelled.

A second `get_deltas` on the snapshot the first one left gives the same deltas (`getDeltas_idem`).
Every alarm of the oracle names an input delta that is neither equivalent nor skipped, with its
evidence (`checkResources_verdict`), and its only `KeyError` is that of a cluster state without
`custom_resource_spec` (`checkResources_keyError`).

The skip engine rewrites condition records as it goes, so the verdict depends on the order of the
input deltas (`checkResources_order_dependent`). Excluding more system paths can turn a pass into an
alarm (`checkResources_exclude_counterexample`); it cannot when the excluded deltas leave every input
delta one of its longest matches and one consistent delta (`checkResources_exclude_alarm`).
-/

namespace Acto

/-- `prev_system_state[resource] = {}` when `resource not in prev_system_state`. -/
def ensureKind (state : List (String × Value)) (resource : String) : List (String × Value) :=
  if state.any (·.1 == resource) then state else state ++ [(resource, .dict [])]

/-- `ensureKind` for every kind of `entries`, in order. -/
def ensureKinds (state entries : List (String × Value)) : List (String × Value) :=
  entries.foldl (fun state e => ensureKind state e.1) state

/-- One resource kind of `get_deltas`: make sure the previous state has the kind, then diff it. -/
def getDeltasStep (env : Env) (acc : SystemDelta × List (String × Value)) (entry : String × Value) :
    SystemDelta × List (String × Value) :=
  let prevState := ensureKind acc.2 entry.1
  (acc.1 ++ [(entry.1, env.systemDiff ((prevState.lookup entry.1).getD (.dict [])) entry.2)],
    prevState)

/-- `Checker.get_deltas(snapshot, prev_snapshot)`: the input delta, the system delta by resource
kind, and the previous snapshot as the call leaves it. -/
def getDeltas (env : Env) (snap prev : Snapshot) : (DeltaSet × SystemDelta) × Snapshot :=
  let (systemStateDelta, prevState) := snap.systemState.foldl (getDeltasStep env) ([], prev.systemState)
  ((env.inputDiff prev.input snap.input, systemStateDelta), { prev with systemState := prevState })

/-- Adding a missing kind leaves every lookup, read with the default `{}`, unchanged. -/
lemma lookup_ensureKind (state : List (String × Value)) (resource k : String) :
    ((ensureKind state resource).lookup k).getD (.dict []) = (state.lookup k).getD (.dict []) := by
  unfold ensureKind
  split
  · rfl
  · rw [List.lookup_append]
    cases state.lookup k
    · simp only [List.lookup_cons, List.lookup_nil, Option.none_or]
      split <;> rfl
    · rfl

lemma foldl_getDeltasStep (env : Env) (base : List (String × Value)) :
    ∀ (entries : List (String × Value)) (acc : SystemDelta × List (String × Value)),
      (∀ k, (acc.2.lookup k).getD (.dict []) = (base.lookup k).getD (.dict [])) →
      entries.foldl (getDeltasStep env) acc =
        (acc.1 ++ entries.map fun e => (e.1, env.systemDiff ((base.lookup e.1).getD (.dict [])) e.2),
          ensureKinds acc.2 entries)
  | [], _, _ => by simp [ensureKinds]
  | e :: es, acc, h => by
    rw [List.foldl_cons, foldl_getDeltasStep env base es _
      (fun k => by simp only [getDeltasStep, lookup_ensureKind, h])]
    simp [getDeltasStep, ensureKinds, lookup_ensureKind, h]

/-- What `get_deltas` computes: each kind of the snapshot diffed against the previous state's entry
for it (`{}` when missing), and the previous snapshot with an empty entry for each kind it lacked. -/
lemma getDeltas_eq (env : Env) (snap prev : Snapshot) :
    getDeltas env snap prev =
      ((env.inputDiff prev.input snap.input, snap.systemState.map fun e =>
          (e.1, env.systemDiff ((prev.systemState.lookup e.1).getD (.dict [])) e.2)),
        { prev with systemState := ensureKinds prev.systemState snap.systemState }) := by
  simp only [getDeltas, foldl_getDeltasStep env prev.systemState _ ([], prev.systemState)
    (fun _ => rfl), List.nil_append]

/-- `ensureKinds` leaves every lookup, read with the default `{}`, unchanged: the entries it writes
are invisible to a reader that treats a missing kind as `{}`. -/
lemma lookup_ensureKinds (state entries : List (String × Value)) (k : String) :
    ((ensureKinds state entries).lookup k).getD (.dict []) = (state.lookup k).getD (.dict []) := by
  induction entries generalizing state with
  | nil => rfl
  | cons e es ih => rw [ensureKinds, List.foldl_cons, ← ensureKinds, ih, lookup_ensureKind]

lemma any_ensureKind {state : List (String × Value)} {p : String × Value → Bool} (resource : String)
    (h : state.any p) : (ensureKind state resource).any p := by
  unfold ensureKind; split
  · exact h
  · simp only [List.any_append, h, Bool.true_or]

lemma any_ensureKinds_of_any {state : List (String × Value)} {p : String × Value → Bool}
    (entries : List (String × Value)) (h : state.any p) : (ensureKinds state entries).any p := by
  induction entries generalizing state with
  | nil => exact h
  | cons e es ih => rw [ensureKinds, List.foldl_cons, ← ensureKinds]; exact ih (any_ensureKind e.1 h)

lemma any_ensureKind_self (state : List (String × Value)) (resource : String) :
    (ensureKind state resource).any (·.1 == resource) := by
  unfold ensureKind; split
  · assumption
  · simp

/-- After `ensureKinds`, every kind of `entries` is present. -/
lemma any_ensureKinds (state entries : List (String × Value)) :
    ∀ e ∈ entries, (ensureKinds state entries).any (·.1 == e.1) := by
  induction entries generalizing state with
  | nil => simp
  | cons e es ih =>
    intro e' he'
    rw [ensureKinds, List.foldl_cons, ← ensureKinds]
    rcases List.mem_cons.mp he' with rfl | he'
    · exact any_ensureKinds_of_any es (any_ensureKind_self _ _)
    · exact ih _ e' he'

/-- `ensureKinds` does nothing when every kind is present. -/
lemma ensureKinds_of_any {state entries : List (String × Value)}
    (h : ∀ e ∈ entries, state.any (·.1 == e.1)) : ensureKinds state entries = state := by
  induction entries with
  | nil => rfl
  | cons e es ih =>
    rw [ensureKinds, List.foldl_cons, show ensureKind state e.1 = state by
      simp [ensureKind, h e (List.mem_cons_self e es)], ← ensureKinds,
      ih fun e' he' => h e' (List.mem_cons_of_mem e he')]

/-- `t` is `s` with empty entries added to its cluster state, as `get_deltas` adds them to the previous
snapshot for the resource kinds it lacks. -/
def Snapshot.Widens (s t : Snapshot) : Prop :=
  ∃ entries, t = { s with systemState := ensureKinds s.systemState entries }

lemma ensureKinds_append (state entries entries' : List (String × Value)) :
    ensureKinds (ensureKinds state entries) entries' = ensureKinds state (entries ++ entries') :=
  (List.foldl_append ..).symm

namespace Snapshot.Widens

lemma refl (s : Snapshot) : s.Widens s := ⟨[], rfl⟩

lemma trans {s t u : Snapshot} : s.Widens t → t.Widens u → s.Widens u
  | ⟨es, ht⟩, ⟨es', hu⟩ => ⟨es ++ es', by subst ht hu; rw [ensureKinds_append]⟩

end Snapshot.Widens

/-- `get_deltas` only widens the previous snapshot. -/
lemma getDeltas_widens (env : Env) (snap prev : Snapshot) : prev.Widens (getDeltas env snap prev).2 :=
  ⟨snap.systemState, by rw [getDeltas_eq]⟩

/-- A second `get_deltas` on the same pair writes nothing more into the previous snapshot. -/
lemma getDeltas_snd_idem (env : Env) (snap prev : Snapshot) :
    (getDeltas env snap (getDeltas env snap prev).2).2 = (getDeltas env snap prev).2 := by
  simp only [getDeltas_eq]
  rw [ensureKinds_of_any (any_ensureKinds _ _)]

/-- A second `get_deltas` on the previous snapshot the first one left returns the same deltas and
writes nothing more: the three calls of one `check` see one change. -/
theorem getDeltas_idem (env : Env) (snap prev : Snapshot) :
    getDeltas env snap (getDeltas env snap prev).2 = getDeltas env snap prev := by
  rw [getDeltas_eq env snap (getDeltas env snap prev).2, getDeltas_eq env snap prev]
  simp only [lookup_ensureKinds, ensureKinds_of_any (any_ensureKinds _ _)]

/-- The input deltas `check_resources` walks, in order. -/
def inputDeltas (env : Env) (snap prev : Snapshot) : List Diff :=
  (getDeltas env snap prev).1.1.deltas

/-- The system delta without `custom_resource_spec` (`KeyError` when it is missing). -/
def workingSystemDelta (env : Env) (snap prev : Snapshot) : Except PyExc SystemDelta :=
  (getDeltas env snap prev).1.2.pop "custom_resource_spec"

/-- The alarm `check_resources` raises for an input delta it checks, given the delta's longest-suffix
matches: a match that disagrees, or no match and no agreeing system delta at all. -/
def matchAlarm (env : Env) (system : SystemDelta) (d : Diff) (matchDeltas : List Diff) :
    Option RunResult :=
  match matchDeltas.find? (fun m => !env.compare d.prev d.curr m.prev m.curr) with
  | some m =>
    some (.error .systemState "Matched delta inconsistent with input delta" (some d) (some m))
  | none =>
    if matchDeltas.isEmpty && !system.deltas.any (fun s => env.compare d.prev d.curr s.prev s.curr)
    then some (.error .systemState "Found no matching fields for input" (some d) none)
    else none

/-- The alarm `matchAlarm` raises: a longest match that disagrees, or no match and no system delta
that agrees. -/
lemma matchAlarm_eq_some {env : Env} {system : SystemDelta} {d : Diff} {ms : List Diff}
    {r : RunResult} (h : matchAlarm env system d ms = some r) :
    (∃ m ∈ ms, env.compare d.prev d.curr m.prev m.curr = false ∧
      r = .error .systemState "Matched delta inconsistent with input delta" (some d) (some m)) ∨
    (ms = [] ∧ (∀ s ∈ system.deltas, env.compare d.prev d.curr s.prev s.curr = false) ∧
      r = .error .systemState "Found no matching fields for input" (some d) none) := by
  unfold matchAlarm at h
  split at h
  · rename_i m hm
    cases h
    exact .inl ⟨m, List.mem_of_find?_eq_some hm, by simpa using List.find?_some hm, rfl⟩
  · split at h
    · rename_i hc
      cases h
      simp only [Bool.and_eq_true, List.isEmpty_iff, Bool.not_eq_true', List.any_eq_false] at hc
      exact .inr ⟨hc.1, fun s hs => by simpa using hc.2 s hs, rfl⟩
    · cases h

/-- The loop of `check_resources` over the input deltas. -/
def checkInputDeltas (env : Env) (snap : Snapshot) (system : SystemDelta) :
    Checker → List Diff → Except PyExc (RunResult × Checker)
  | ck, [] => .ok (.pass, ck)
  | ck, d :: ds =>
    if env.inputCompare d.prev d.curr then checkInputDeltas env snap system ck ds
    else do
      let (skip, ck) ← ck.shouldSkipInputDelta d snap
      if skip then checkInputDeltas env snap system ck ds
      else
        let matchDeltas ← listMatchedFields env d.path system
        match matchAlarm env system d matchDeltas with
        | some r => .ok (r, ck)
        | none => checkInputDeltas env snap system ck ds

/-- `Checker.check_resources(snapshot, prev_snapshot)`: the verdict, the checker with its rewritten
conditions, and the previous snapshot as `get_deltas` leaves it. -/
def checkResources (env : Env) (ck : Checker) (snap prev : Snapshot) :
    Except PyExc (RunResult × Checker × Snapshot) :=
  (workingSystemDelta env snap prev).bind fun system =>
    (checkInputDeltas env snap system ck (inputDeltas env snap prev)).map fun (r, ck) =>
      (r, ck, (getDeltas env snap prev).2)

/-- The order of the input deltas decides the verdict: two changes below the gate `spec.enabled`
(false) evaluate its condition twice, the first skip rewrites the record so that the second change is
checked. With `spec.a` first, `spec.b` is checked and has no consistent system delta; with `spec.b`
first, `spec.a` is checked and matches. -/
theorem checkResources_order_dependent :
    let spec : Path := [.key "spec"]
    let schema : Schema := .object spec
      [("enabled", .other (spec ++ [.key "enabled"])), ("a", .other (spec ++ [.key "a"])),
       ("b", .other (spec ++ [.key "b"]))]
    let input (a : Int) (b : String) : Value :=
      .dict [("spec", .dict [("enabled", .bool false), ("a", .int a), ("b", .str b)])]
    let state (a : Int) : List (String × Value) :=
      [("custom_resource_spec", .dict []),
       ("stateful_set", .dict [("db", .dict [("spec", .dict [("a", .int a)])])])]
    let prev : Snapshot := ⟨input 1 "x", ⟨"", ""⟩, state 1, []⟩
    let curr : Snapshot := ⟨input 2 "y", ⟨"", ""⟩, state 2, []⟩
    let reversed : Env := { Env.reference with
      inputDiff := fun a b => (Env.reference.inputDiff a b).map fun kind => (kind.1, kind.2.reverse) }
    (Checker.init ⟨false, none⟩ ⟨schema, fun _ => some .none⟩).bind
        (fun ck => (·.1.isStateError) <$> checkResources Env.reference ck curr prev) = .ok true ∧
      (Checker.init ⟨false, none⟩ ⟨schema, fun _ => some .none⟩).bind
        (fun ck => (·.1.isStateError) <$> checkResources reversed ck curr prev) = .ok false :=
  ⟨rfl, rfl⟩

/-! ## The records -/

/-- The loop of `check_resources` rewrites the checker in place. -/
lemma checkInputDeltas_rewrites {env : Env} {snap : Snapshot} {system : SystemDelta} :
    ∀ {ck ck' : Checker} {ds : List Diff} {r : RunResult},
      checkInputDeltas env snap system ck ds = .ok (r, ck') → ck.Rewrites ck'
  | _, _, [], _, h => by cases h; exact .refl _
  | ck, ck', d :: ds, r, h => by
    simp only [checkInputDeltas] at h
    split at h
    · exact checkInputDeltas_rewrites h
    rcases hs : ck.shouldSkipInputDelta d snap with e | ⟨skip, ck₁⟩ <;>
      simp only [hs, bind, Except.bind] at h
    · cases h
    have h₁ := Checker.shouldSkipInputDelta_rewrites hs
    split at h
    · exact h₁.trans (checkInputDeltas_rewrites h)
    rcases hl : listMatchedFields env d.path system with e | ms <;> simp only [hl] at h
    · cases h
    split at h
    · cases h; exact h₁
    · exact h₁.trans (checkInputDeltas_rewrites h)

/-- What one delta of the loop can do: let the loop go on with the next delta, from the checker the
delta's skip left (the same step for any later deltas), or raise the alarm of a delta that is not
equivalent and that the checker does not skip. -/
lemma checkInputDeltas_cons {env : Env} {snap : Snapshot} {system : SystemDelta} {ck ck' : Checker}
    {d : Diff} {ds : List Diff} {r : RunResult}
    (h : checkInputDeltas env snap system ck (d :: ds) = .ok (r, ck')) :
    (∃ ck₁, (∀ l, checkInputDeltas env snap system ck (d :: l) =
        checkInputDeltas env snap system ck₁ l) ∧
        checkInputDeltas env snap system ck₁ ds = .ok (r, ck')) ∨
      env.inputCompare d.prev d.curr = false ∧ ck.shouldSkipInputDelta d snap = .ok (false, ck') ∧
        ∃ ms, listMatchedFields env d.path system = .ok ms ∧ matchAlarm env system d ms = some r := by
  rw [checkInputDeltas] at h
  by_cases hc : env.inputCompare d.prev d.curr
  · rw [if_pos hc] at h
    exact .inl ⟨ck, fun l => by rw [checkInputDeltas, if_pos hc], h⟩
  rw [if_neg hc] at h
  rcases hs : ck.shouldSkipInputDelta d snap with e | ⟨skip, ck₁⟩ <;>
    simp only [hs, bind, Except.bind] at h
  · cases h
  cases skip
  swap
  · exact .inl ⟨ck₁, fun l => by simp [checkInputDeltas, hc, hs, bind, Except.bind], h⟩
  rcases hl : listMatchedFields env d.path system with e | ms <;>
    simp only [hl, Bool.false_eq_true, if_false] at h
  · cases h
  rcases ha : matchAlarm env system d ms with _ | r' <;> simp only [ha] at h
  · exact .inl ⟨ck₁, fun l => by simp [checkInputDeltas, hc, hs, hl, ha, bind, Except.bind], h⟩
  · cases h
    exact .inr ⟨by simpa using hc, rfl, ms, rfl, ha⟩

/-- Each verdict of the loop is `Pass`, or the alarm of an input delta `d` of the list: the loop passes
the deltas before `d`, which leave the checker `ck₀`; `d` is not equivalent, `ck₀` does not skip it,
and its longest matches give the alarm. -/
lemma checkInputDeltas_verdict {env : Env} {snap : Snapshot} {system : SystemDelta} :
    ∀ {ck ck' : Checker} {ds : List Diff} {r : RunResult},
      checkInputDeltas env snap system ck ds = .ok (r, ck') → r = .pass ∨
        ∃ pre d post ck₀, ds = pre ++ d :: post ∧
          checkInputDeltas env snap system ck pre = .ok (.pass, ck₀) ∧
          env.inputCompare d.prev d.curr = false ∧ ck₀.shouldSkipInputDelta d snap = .ok (false, ck') ∧
          ∃ ms, listMatchedFields env d.path system = .ok ms ∧ matchAlarm env system d ms = some r
  | _, _, [], _, h => by cases h; exact .inl rfl
  | ck, _, d :: ds, _, h => by
    rcases checkInputDeltas_cons h with ⟨ck₁, hcont, h⟩ | hstop
    · exact (checkInputDeltas_verdict h).imp_right fun ⟨pre, d', post, ck₀, hds, hpre, hrest⟩ =>
        ⟨d :: pre, d', post, ck₀, by rw [hds]; rfl, (hcont pre).trans hpre, hrest⟩
    · exact .inr ⟨[], d, ds, ck, rfl, rfl, hstop⟩

lemma checkResources_rewrites {env : Env} {ck ck' : Checker} {snap prev prev' : Snapshot}
    {r : RunResult} (h : checkResources env ck snap prev = .ok (r, ck', prev')) : ck.Rewrites ck' := by
  simp only [checkResources, Except.bind] at h
  split at h
  · cases h
  · revert h
    rcases hc : checkInputDeltas env snap _ ck (inputDeltas env snap prev) with e | ⟨r₁, ck₁⟩ <;>
      simp [Except.map]
    rintro - rfl -
    exact checkInputDeltas_rewrites hc

/-- Each verdict of the state oracle is `Pass`, or the alarm of an input delta `d` of the change: the
loop passes the deltas before `d`, whose skips leave the checker `ck₀`; `d` is not equivalent, `ck₀`
does not skip it, and `d` has a longest match that disagrees with it, or no match and no system delta
that agrees with it. -/
theorem checkResources_verdict {env : Env} {ck ck' : Checker} {snap prev prev' : Snapshot}
    {r : RunResult} (h : checkResources env ck snap prev = .ok (r, ck', prev')) :
    r = .pass ∨ ∃ system, workingSystemDelta env snap prev = .ok system ∧
      ∃ pre d post ck₀, inputDeltas env snap prev = pre ++ d :: post ∧
        checkInputDeltas env snap system ck pre = .ok (.pass, ck₀) ∧
        env.inputCompare d.prev d.curr = false ∧ ck₀.shouldSkipInputDelta d snap = .ok (false, ck') ∧
        ∃ ms, listMatchedFields env d.path system = .ok ms ∧
          ((∃ m ∈ ms, env.compare d.prev d.curr m.prev m.curr = false ∧
            r = .error .systemState "Matched delta inconsistent with input delta" (some d) (some m)) ∨
          (ms = [] ∧ (∀ s ∈ system.deltas, env.compare d.prev d.curr s.prev s.curr = false) ∧
            r = .error .systemState "Found no matching fields for input" (some d) none)) := by
  simp only [checkResources, Except.bind] at h
  split at h
  · cases h
  rename_i system hsystem
  rcases hc : checkInputDeltas env snap system ck (inputDeltas env snap prev) with e | ⟨r₁, ck₁⟩ <;>
    rw [hc] at h <;> cases h
  exact (checkInputDeltas_verdict hc).imp_right
    fun ⟨pre, d, post, ck₀, hds, hpre, hcmp, hskip, ms, hl, ha⟩ =>
      ⟨system, hsystem, pre, d, post, ck₀, hds, hpre, hcmp, hskip, ms, hl, matchAlarm_eq_some ha⟩

/-- `checkResources_verdict` on changes of `spec.a` and `spec.b` below the gate `spec.enabled`, which
is false: the skip of `spec.a` rewrites the gate's record to `True`, so the checker it leaves lets
`spec.b` through (rewriting the record to `False`), and no system field shows `spec.b`. -/
theorem checkResources_verdict_after_skip :
    let spec : Path := [.key "spec"]
    let schema : Schema := .object spec
      [("enabled", .other (spec ++ [.key "enabled"])), ("a", .other (spec ++ [.key "a"])),
       ("b", .other (spec ++ [.key "b"]))]
    let gate (v : Value) : Condition := ⟨spec ++ [.key "enabled"], .eq, v⟩
    let ck (v : Value) : Checker := ⟨⟨false, none⟩, ⟨schema, fun _ => some .none⟩,
      ⟨[(spec, [gate v])], List.nodup_singleton spec⟩⟩
    let input (a : Int) (b : String) : Value :=
      .dict [("spec", .dict [("enabled", .bool false), ("a", .int a), ("b", .str b)])]
    let state (a : Int) : List (String × Value) :=
      [("custom_resource_spec", .dict []),
       ("stateful_set", .dict [("db", .dict [("spec", .dict [("a", .int a)])])])]
    let prev : Snapshot := ⟨input 1 "x", ⟨"", ""⟩, state 1, []⟩
    let curr : Snapshot := ⟨input 2 "y", ⟨"", ""⟩, state 2, []⟩
    let db : Diff := ⟨spec ++ [.key "b"], .present (.str "x"), .present (.str "y")⟩
    let r : RunResult := .error .systemState "Found no matching fields for input" (some db) none
    checkResources Env.reference (ck (.str "true")) curr prev = .ok (r, ck (.bool false), prev) ∧
      (r = .pass ∨ ∃ system, workingSystemDelta Env.reference curr prev = .ok system ∧
        ∃ pre d post ck₀, inputDeltas Env.reference curr prev = pre ++ d :: post ∧
          checkInputDeltas Env.reference curr system (ck (.str "true")) pre = .ok (.pass, ck₀) ∧
          Env.reference.inputCompare d.prev d.curr = false ∧
          ck₀.shouldSkipInputDelta d curr = .ok (false, ck (.bool false)) ∧
          ∃ ms, listMatchedFields Env.reference d.path system = .ok ms ∧
            ((∃ m ∈ ms, Env.reference.compare d.prev d.curr m.prev m.curr = false ∧
              r = .error .systemState "Matched delta inconsistent with input delta" (some d)
                (some m)) ∨
            (ms = [] ∧
              (∀ s ∈ system.deltas, Env.reference.compare d.prev d.curr s.prev s.curr = false) ∧
              r = .error .systemState "Found no matching fields for input" (some d) none))) := by
  intro spec schema gate ck input state prev curr db r
  have h : checkResources Env.reference (ck (.str "true")) curr prev =
      .ok (r, ck (.bool false), prev) := rfl
  exact ⟨h, checkResources_verdict h⟩

/-- The loop of `check_resources` raises `IndexError` or `TypeError`, never `KeyError`. -/
lemma checkInputDeltas_error {env : Env} {snap : Snapshot} {system : SystemDelta} :
    ∀ {ck : Checker} {ds : List Diff} {e : PyExc},
      checkInputDeltas env snap system ck ds = .error e → e = .indexError ∨ e = .typeError
  | _, [], _, h => by cases h
  | ck, d :: ds, e, h => by
    simp only [checkInputDeltas] at h
    split at h
    · exact checkInputDeltas_error h
    rcases hs : ck.shouldSkipInputDelta d snap with e' | ⟨skip, ck₁⟩ <;>
      simp only [hs, bind, Except.bind] at h
    · cases h; exact Checker.shouldSkipInputDelta_error hs
    cases skip
    case true => exact checkInputDeltas_error h
    rcases hl : listMatchedFields env d.path system with e' | ms <;>
      simp only [hl, Bool.false_eq_true, if_false] at h
    · cases h; exact .inl (listMatchedFields_error hl)
    split at h
    · cases h
    · exact checkInputDeltas_error h

/-- The state oracle raises `KeyError` exactly when the current cluster state has no
`custom_resource_spec` kind: a missing input field only fails a condition, and matching raises no
`KeyError`. -/
theorem checkResources_keyError (env : Env) (ck : Checker) (snap prev : Snapshot) :
    checkResources env ck snap prev = .error .keyError ↔
      "custom_resource_spec" ∉ snap.systemState.map Prod.fst := by
  have hpop : workingSystemDelta env snap prev = .error .keyError ↔
      "custom_resource_spec" ∉ snap.systemState.map Prod.fst := by
    simp only [workingSystemDelta, getDeltas_eq, SystemDelta.pop]
    split
    · rename_i h
      simp only [reduceCtorEq, false_iff, not_not]
      obtain ⟨_, hx, hk⟩ := List.any_eq_true.mp h
      obtain ⟨e, he, rfl⟩ := List.mem_map.mp hx
      exact List.mem_map.mpr ⟨e, he, by simpa using hk⟩
    · rename_i h
      simp only [true_iff]
      intro hm
      obtain ⟨e, he, hk⟩ := List.mem_map.mp hm
      exact h (List.any_eq_true.mpr ⟨_, List.mem_map_of_mem _ he, by simp [hk]⟩)
  rw [← hpop, checkResources]
  rcases workingSystemDelta env snap prev with e | system
  · simp only [Except.bind, Except.error.injEq]
  · simp only [Except.bind, reduceCtorEq, iff_false]
    intro h
    rcases hc : checkInputDeltas env snap system ck (inputDeltas env snap prev) with e | _ <;>
      rw [hc] at h <;> cases h
    rcases checkInputDeltas_error hc with h | h <;> cases h

/-! ## Excluding system paths -/

/-- The deltas of a post-processed diff whose path no pattern of `excl` matches. -/
def DeltaSet.exclude (excl : Path → Bool) (d : DeltaSet) : DeltaSet :=
  d.map fun kind => (kind.1, kind.2.filter fun e => !excl e.2.path)

/-- The collaborators with `excl` added to `EXCLUDE_PATH_REGEX`. -/
def Env.excluding (env : Env) (excl : Path → Bool) : Env :=
  { env with systemDiff := fun a b => (env.systemDiff a b).exclude excl }

/-- The system delta with `excl` applied to every resource kind. -/
def SystemDelta.excludeAll (excl : Path → Bool) (d : SystemDelta) : SystemDelta :=
  d.map fun resource => (resource.1, resource.2.exclude excl)

/-- For the input delta `d`, the patterns `excl` leave one of its longest-suffix matches in `system`
if it has any, and one system delta consistent with it if there is any. -/
def KeepsEvidence (env : Env) (excl : Path → Bool) (system : SystemDelta) (d : Diff) : Prop :=
  (∀ ms, listMatchedFields env d.path system = .ok ms → ms ≠ [] → ∃ m ∈ ms, excl m.path = false) ∧
  ((∃ s ∈ system.deltas, env.compare d.prev d.curr s.prev s.curr = true) →
    ∃ s ∈ system.deltas, excl s.path = false ∧ env.compare d.prev d.curr s.prev s.curr = true)

lemma SystemDelta.deltas_excludeAll (excl : Path → Bool) (d : SystemDelta) :
    (d.excludeAll excl).deltas = d.deltas.filter fun e => !excl e.path := by
  simp [SystemDelta.excludeAll, SystemDelta.deltas, DeltaSet.exclude, DeltaSet.deltas,
    List.filter_flatMap, List.filter_map, List.flatMap_map, Function.comp_def]

lemma SystemDelta.pop_excludeAll (excl : Path → Bool) (d : SystemDelta) (key : String) :
    (d.excludeAll excl).pop key = (d.pop key).map (excludeAll excl) := by
  simp only [SystemDelta.pop, SystemDelta.excludeAll, List.any_map, List.filter_map,
    Function.comp_def]
  split <;> rfl

lemma getDeltas_excluding (env : Env) (excl : Path → Bool) (snap prev : Snapshot) :
    getDeltas (env.excluding excl) snap prev =
      (((getDeltas env snap prev).1.1, (getDeltas env snap prev).1.2.excludeAll excl),
        (getDeltas env snap prev).2) := by
  simp [getDeltas_eq, Env.excluding, SystemDelta.excludeAll]

lemma checkInputDeltas_excluding (env : Env) (excl : Path → Bool) (snap : Snapshot)
    (system : SystemDelta) : ∀ ck ds,
    checkInputDeltas (env.excluding excl) snap system ck ds = checkInputDeltas env snap system ck ds
  | _, [] => rfl
  | ck, d :: ds => by
    simp only [checkInputDeltas, checkInputDeltas_excluding env excl snap system _ ds]
    rfl

/-- With the excluded deltas leaving one longest match, the matches after exclusion are the matches
before it that survive. -/
lemma listMatchedFields_excludeAll (env : Env) (excl : Path → Bool) {path : Path}
    {system : SystemDelta} {ms : List Diff} (hpath : path ≠ [])
    (hdeltas : ∀ d ∈ system.deltas, d.path ≠ []) (h : listMatchedFields env path system = .ok ms)
    (hkeep : ms ≠ [] → ∃ m ∈ ms, excl m.path = false) :
    listMatchedFields env path (system.excludeAll excl) = .ok (ms.filter fun m => !excl m.path) := by
  have hdeltas' : ∀ d ∈ (system.excludeAll excl).deltas, d.path ≠ [] := by
    simp only [SystemDelta.deltas_excludeAll, List.mem_filter]
    exact fun d hd => hdeltas d hd.1
  rw [listMatchedFields_of_ne_nil env path system hpath, any_path_isEmpty_eq_false hdeltas,
    Bool.and_false, if_neg Bool.false_ne_true, Except.ok.injEq] at h
  rw [listMatchedFields_of_ne_nil env path _ hpath, any_path_isEmpty_eq_false hdeltas',
    Bool.and_false, if_neg Bool.false_ne_true, SystemDelta.deltas_excludeAll, ← h]
  have hle : maxSuffixOverlap env.canonicalize path (system.deltas.filter fun e => !excl e.path) ≤
      maxSuffixOverlap env.canonicalize path system.deltas :=
    maxSuffixOverlap_le_of_subset path fun d hd => (List.mem_filter.mp hd).1
  congr 1
  by_cases hg : env.genericField (path.getLast hpath).str
  · simp [hg]
  simp only [hg, if_false, Bool.false_eq_true]
  by_cases h0 : maxSuffixOverlap env.canonicalize path system.deltas = 0
  · simp [h0, show maxSuffixOverlap env.canonicalize path
      (system.deltas.filter fun e => !excl e.path) = 0 by omega]
  obtain ⟨d, hd, he⟩ := exists_eq_maxSuffixOverlap path h0
  obtain ⟨m, hm, hk⟩ := hkeep (h ▸ by simpa [hg, h0] using ⟨d, hd, he⟩)
  rw [← h] at hm
  simp only [hg, h0, if_false, Bool.false_eq_true, List.mem_filter, decide_eq_true_eq] at hm
  rw [maxSuffixOverlap_filter path hm.1 (by rw [hk]; rfl) hm.2, if_neg h0, if_neg h0,
    List.filter_filter, List.filter_filter]
  simp only [Bool.and_comm]

/-- `matchAlarm` raises an alarm exactly for a disagreeing match, or for no match and no agreeing
system delta. -/
lemma matchAlarm_isSome (env : Env) (system : SystemDelta) (d : Diff) (ms : List Diff) :
    (matchAlarm env system d ms).isSome ↔
      (∃ m ∈ ms, env.compare d.prev d.curr m.prev m.curr = false) ∨
      (ms = [] ∧ ∀ s ∈ system.deltas, env.compare d.prev d.curr s.prev s.curr = false) := by
  unfold matchAlarm
  cases h : ms.find? (fun m => !env.compare d.prev d.curr m.prev m.curr) with
  | some m =>
    simp only [Option.isSome_some, true_iff]
    exact .inl ⟨m, List.mem_of_find?_eq_some h, by simpa using List.find?_some h⟩
  | none =>
    simp only [List.find?_eq_none, Bool.not_eq_true', Bool.not_eq_false] at h
    have hno : ¬∃ m ∈ ms, env.compare d.prev d.curr m.prev m.curr = false :=
      fun ⟨m, hm, hc⟩ => by simp [h m hm] at hc
    simp only [hno, false_or]
    split <;> rename_i hc <;> simp_all [List.isEmpty_iff]

lemma matchAlarm_isStateError {env : Env} {system : SystemDelta} {d : Diff} {ms : List Diff}
    {r : RunResult} (h : matchAlarm env system d ms = some r) : r.isStateError := by
  unfold matchAlarm at h
  split at h
  · cases h; rfl
  · split at h <;> cases h; rfl

/-- An alarm on an input delta after excluding is an alarm before it, when the exclusion keeps one
longest match and one agreeing delta. -/
lemma matchAlarm_excludeAll (env : Env) (excl : Path → Bool) {system : SystemDelta} {d : Diff}
    {ms : List Diff} (hkeep : KeepsEvidence env excl system d)
    (hms : ms ≠ [] → ∃ m ∈ ms, excl m.path = false)
    (h : (matchAlarm env (system.excludeAll excl) d (ms.filter fun m => !excl m.path)).isSome) :
    (matchAlarm env system d ms).isSome := by
  rw [matchAlarm_isSome] at h ⊢
  rcases h with ⟨m, hm, hc⟩ | ⟨hnil, hall⟩
  · exact .inl ⟨m, (List.mem_filter.mp hm).1, hc⟩
  · refine .inr ⟨?_, fun s hs => ?_⟩
    · by_contra hne
      obtain ⟨m, hm, hk⟩ := hms hne
      exact List.ne_nil_of_mem (List.mem_filter.mpr ⟨hm, by rw [hk]; rfl⟩) hnil
    · by_contra hc
      obtain ⟨s', hs', hk, hc'⟩ := hkeep.2 ⟨s, hs, by simpa using hc⟩
      have := hall s' (by
        rw [SystemDelta.deltas_excludeAll]; exact List.mem_filter.mpr ⟨hs', by rw [hk]; rfl⟩)
      simp [hc'] at this

/-- The loop of `check_resources` keeps an alarm when system deltas are put back, as long as the
excluded ones leave every input delta one longest match and one agreeing delta. -/
lemma checkInputDeltas_excludeAll (env : Env) (excl : Path → Bool) (snap : Snapshot)
    (system : SystemDelta) (hpaths : ∀ s ∈ system.deltas, s.path ≠ []) :
    ∀ (ds : List Diff) (ck : Checker), (∀ d ∈ ds, KeepsEvidence env excl system d) →
      (·.1.isStateError) <$> checkInputDeltas env snap (system.excludeAll excl) ck ds = .ok true →
      (·.1.isStateError) <$> checkInputDeltas env snap system ck ds = .ok true
  | [], _, _, h => by cases h
  | d :: ds, ck, hkeep, h => by
    have ih := checkInputDeltas_excludeAll env excl snap system hpaths ds
    have hds := fun d' hd' => hkeep d' (List.mem_cons_of_mem d hd')
    simp only [checkInputDeltas] at h ⊢
    split
    · rw [if_pos ‹_›] at h; exact ih ck hds h
    rw [if_neg ‹_›] at h
    rcases hs : ck.shouldSkipInputDelta d snap with e | ⟨_ | _, ck₁⟩ <;>
      simp only [hs, bind, Except.bind, Bool.false_eq_true, if_false, if_true] at h ⊢
    · cases h
    swap
    · exact ih ck₁ hds h
    have hpath : d.path ≠ [] := fun hnil => by
      simp only [hnil, listMatchedFields, List.getLast?_nil] at h
      cases h
    obtain ⟨ms, hl⟩ : ∃ ms, listMatchedFields env d.path system = .ok ms := by
      rw [listMatchedFields_of_ne_nil env d.path system hpath, any_path_isEmpty_eq_false hpaths,
        Bool.and_false, if_neg Bool.false_ne_true]
      exact ⟨_, rfl⟩
    have hms := (hkeep d (List.mem_cons_self d ds)).1 ms hl
    rw [listMatchedFields_excludeAll env excl hpath hpaths hl hms] at h
    rw [hl]
    simp only at h ⊢
    rcases ha : matchAlarm env system d ms with _ | r
    · rcases ha' : matchAlarm env (system.excludeAll excl) d (ms.filter fun m => !excl m.path)
        with _ | r'
      · rw [ha'] at h; exact ih ck₁ hds h
      · have := matchAlarm_excludeAll env excl (hkeep d (List.mem_cons_self d ds)) hms
          (by rw [ha']; rfl)
        rw [ha] at this; cases this
    · show Except.ok r.isStateError = Except.ok true
      rw [matchAlarm_isStateError ha]

/-- Whether `check_resources` raises a state alarm is decided by its loop over the input deltas. -/
lemma checkResources_isStateError {env : Env} {ck : Checker} {snap prev : Snapshot}
    {system : SystemDelta} (h : workingSystemDelta env snap prev = .ok system) :
    (·.1.isStateError) <$> checkResources env ck snap prev =
      (·.1.isStateError) <$> checkInputDeltas env snap system ck (inputDeltas env snap prev) := by
  simp only [checkResources, h, Except.bind]
  cases checkInputDeltas env snap system ck (inputDeltas env snap prev) <;> rfl

/-- Excluding more system paths cannot create an alarm of the state oracle when, for every input
delta, the newly excluded deltas leave one of its longest-suffix matches (if it has any) and one
system delta consistent with it (if there is any), and no system delta has an empty path. -/
theorem checkResources_exclude_alarm (env : Env) (excl : Path → Bool) (ck : Checker)
    (snap prev : Snapshot) (system : SystemDelta)
    (hsystem : workingSystemDelta env snap prev = .ok system)
    (hpaths : ∀ s ∈ system.deltas, s.path ≠ [])
    (hkeep : ∀ d ∈ inputDeltas env snap prev, KeepsEvidence env excl system d)
    (halarm : (·.1.isStateError) <$> checkResources (env.excluding excl) ck snap prev = .ok true) :
    (·.1.isStateError) <$> checkResources env ck snap prev = .ok true := by
  have hsystem' : workingSystemDelta (env.excluding excl) snap prev = .ok (system.excludeAll excl) := by
    rw [workingSystemDelta, getDeltas_excluding]
    simp only [SystemDelta.pop_excludeAll]
    rw [← workingSystemDelta, hsystem]; rfl
  have hinput : inputDeltas (env.excluding excl) snap prev = inputDeltas env snap prev := by
    simp [inputDeltas, getDeltas_excluding]
  rw [checkResources_isStateError hsystem', hinput, checkInputDeltas_excluding] at halarm
  rw [checkResources_isStateError hsystem]
  exact checkInputDeltas_excludeAll env excl snap system hpaths _ ck hkeep halarm

/-- `checkResources_exclude_alarm` when the excluded path is the stateful set's `resourceVersion`:
the inconsistent replicas delta stays and both runs raise the alarm. -/
theorem checkResources_exclude_alarm_resourceVersion :
    let spec : Path := [.key "spec"]
    let ck : Checker := ⟨⟨false, none⟩,
      ⟨.object spec [("replicas", .other (spec ++ [.key "replicas"]))], fun _ => some .none⟩,
      .empty⟩
    let snapshot (n m : Int) (v : String) : Snapshot :=
      ⟨.dict [("spec", .dict [("replicas", .int n)])], ⟨"", ""⟩,
        [("custom_resource_spec", .dict []),
         ("stateful_set", .dict [("db", .dict [("spec", .dict [("replicas", .int m)]),
            ("metadata", .dict [("resourceVersion", .str v)])])])], []⟩
    let replicas : Diff := ⟨[.key "db", .key "spec", .key "replicas"], .present (.int 3),
      .present (.int 2)⟩
    let version : Diff := ⟨[.key "db", .key "metadata", .key "resourceVersion"], .present (.str "1"),
      .present (.str "2")⟩
    let system : SystemDelta := [("stateful_set", [("values_changed",
      [(replicas.path.render, replicas), (version.path.render, version)])])]
    let excl : Path → Bool := (· == version.path)
    workingSystemDelta Env.reference (snapshot 5 2 "2") (snapshot 3 3 "1") = .ok system ∧
      (∀ s ∈ system.deltas, s.path ≠ []) ∧
      (∀ d ∈ inputDeltas Env.reference (snapshot 5 2 "2") (snapshot 3 3 "1"),
        KeepsEvidence Env.reference excl system d) ∧
      (·.1.isStateError) <$> checkResources (Env.reference.excluding excl) ck (snapshot 5 2 "2")
        (snapshot 3 3 "1") = .ok true ∧
      (·.1.isStateError) <$> checkResources Env.reference ck (snapshot 5 2 "2") (snapshot 3 3 "1") =
        .ok true := by
  intro spec ck snapshot replicas version system excl
  have hsystem : workingSystemDelta Env.reference (snapshot 5 2 "2") (snapshot 3 3 "1") =
      .ok system := rfl
  have hpaths : ∀ s ∈ system.deltas, s.path ≠ [] := by decide
  have hkeep : ∀ d ∈ inputDeltas Env.reference (snapshot 5 2 "2") (snapshot 3 3 "1"),
      KeepsEvidence Env.reference excl system d := by
    have hin : inputDeltas Env.reference (snapshot 5 2 "2") (snapshot 3 3 "1") =
        [⟨spec ++ [.key "replicas"], .present (.int 3), .present (.int 5)⟩] := rfl
    simp only [hin, List.mem_singleton, forall_eq]
    constructor
    · intro ms hms _
      have : listMatchedFields Env.reference (spec ++ [.key "replicas"]) system = .ok [replicas] :=
        rfl
      rw [this, Except.ok.injEq] at hms
      exact ⟨replicas, hms ▸ List.mem_singleton_self _, rfl⟩
    · rintro ⟨s, hs, hc⟩
      have hno : ∀ s ∈ system.deltas,
          Env.reference.compare (.present (.int 3)) (.present (.int 5)) s.prev s.curr = false := by
        decide
      simp [hno s hs] at hc
  have halarm : (·.1.isStateError) <$> checkResources (Env.reference.excluding excl) ck
      (snapshot 5 2 "2") (snapshot 3 3 "1") = .ok true := rfl
  exact ⟨hsystem, hpaths, hkeep, halarm,
    checkResources_exclude_alarm _ _ _ _ _ _ hsystem hpaths hkeep halarm⟩

/-- Excluding the stateful-set replicas path turns a pass into an alarm: the input change of
`spec.replicas` loses the only system delta that shows it. -/
theorem checkResources_exclude_counterexample :
    let spec : Path := [.key "spec"]
    let schema : Schema := .object spec [("replicas", .other (spec ++ [.key "replicas"]))]
    let snapshot (n : Int) : Snapshot :=
      ⟨.dict [("spec", .dict [("replicas", .int n)])], ⟨"", ""⟩,
        [("custom_resource_spec", .dict []),
         ("stateful_set", .dict [("db", .dict [("spec", .dict [("replicas", .int n)])])])], []⟩
    let excl : Path → Bool := (· == [.key "db", .key "spec", .key "replicas"])
    (Checker.init ⟨false, none⟩ ⟨schema, fun _ => some .none⟩).bind
        (fun ck => (·.1.isStateError) <$> checkResources Env.reference ck (snapshot 5) (snapshot 3)) =
        .ok false ∧
      (Checker.init ⟨false, none⟩ ⟨schema, fun _ => some .none⟩).bind
        (fun ck => (·.1.isStateError) <$>
          checkResources (Env.reference.excluding excl) ck (snapshot 5) (snapshot 3)) = .ok true :=
  ⟨rfl, rfl⟩

end Acto
