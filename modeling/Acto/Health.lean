import Acto.Snapshot

/-!
# The system-health oracle

Port of `Checker.check_health` (`checker.py`). `check` does not call it (the source disables the
health check and takes `PassResult()` in its place), but the oracle is there to be turned back on.
It walks the stateful sets, the deployments and the pods of the cluster state and collects, kind by
kind, the names of those that have not converged; any name makes the verdict
`Error(SYSTEM_HEALTH, msg)`, where `msg` has one line `kind: name, name` per kind with names.

Each test is a chain of `==` joined by `and`, so its reads stop at its first failed comparison
(`eqAnd`): a deployment scaled to zero is healthy whatever its status, and a stateful set whose
`spec.replicas` differs from `status.replicas` is unhealthy without the rest of its status being
read. A read raises as `operator.getitem` does, `.values()` on a kind that is not a mapping raises
`AttributeError`, and `', '.join` raises `TypeError` on a name that is not a string.

`checkHealth_verdict` states the verdict: `Pass` when every resource of the three kinds passes its
test, and otherwise the error, with a resource whose test failed.
-/

namespace Acto

/-- The exceptions of `check_health`: those of the reads, and `AttributeError` from `.values()` on a
value that is not a mapping. -/
inductive HealthExc where
  | py (e : PyExc)
  | attributeError
  deriving DecidableEq, Repr

namespace Health

/-- `v[k₁][k₂]…` for string keys. -/
def read (v : Value) (keys : List String) : Except HealthExc Value :=
  (v.descend (keys.map .key)).mapError .py

/-- `a == b and rest`, left to right: `rest` runs only when the comparison holds. -/
def eqAnd (a b : Except HealthExc Value) (rest : Except HealthExc Bool) : Except HealthExc Bool := do
  if (← a).pyEq (← b) then rest else pure false

/-- The test of a stateful set. -/
def statefulSetHealthy (sfs : Value) : Except HealthExc Bool :=
  eqAnd (read sfs ["spec", "replicas"]) (read sfs ["status", "replicas"]) <|
    eqAnd (read sfs ["status", "replicas"]) (read sfs ["status", "ready_replicas"]) <|
      eqAnd (read sfs ["status", "current_revision"]) (read sfs ["status", "update_revision"]) <|
        pure true

/-- The test of a deployment; one scaled to zero passes. -/
def deploymentHealthy (dp : Value) : Except HealthExc Bool := do
  if (← read dp ["spec", "replicas"]).pyEq (.int 0) then pure true
  else
    eqAnd (read dp ["spec", "replicas"]) (read dp ["status", "replicas"]) <|
      eqAnd (read dp ["status", "replicas"]) (read dp ["status", "ready_replicas"]) <|
        eqAnd (read dp ["status", "ready_replicas"]) (read dp ["status", "updated_replicas"]) <|
          pure true

/-- The test of a pod: its phase is `Running`, `Completed` or `Succeeded`. -/
def podHealthy (pod : Value) : Except HealthExc Bool := do
  let phase ← read pod ["status", "phase"]
  pure (["Running", "Completed", "Succeeded"].any fun p => phase.pyEq (.str p))

/-- `state[kind].values()`. -/
def resources (state : List (String × Value)) (kind : String) : Except HealthExc (List Value) :=
  match state.lookup kind with
  | some (.dict kvs) => .ok (kvs.map Prod.snd)
  | some _ => .error .attributeError
  | none => .error (.py .keyError)

/-- One resource of the loop over a kind: its name is appended when its test fails. -/
def unhealthyStep (healthy : Value → Except HealthExc Bool) (names : List Value) (r : Value) :
    Except HealthExc (List Value) := do
  if ← healthy r then pure names else pure (names ++ [← read r ["metadata", "name"]])

/-- The loop over the resources of one kind: the names of those its test rejects, in order. -/
def unhealthyNames (healthy : Value → Except HealthExc Bool) (state : List (String × Value))
    (kind : String) : Except HealthExc (List Value) := do
  (← resources state kind).foldlM (unhealthyStep healthy) []

/-- `', '.join(names)`. -/
def joinNames (names : List Value) : Except HealthExc String :=
  String.intercalate ", " <$> names.mapM fun
    | .str s => pure s
    | _ => .error (.py .typeError)

/-- The line of one kind in the message, `f"{kind}: {', '.join(resources)}\n"`, or nothing for a
kind without names. -/
def kindLine (msg : String) (entry : String × List Value) : Except HealthExc String :=
  if entry.2.length ≠ 0 then (fun joined => msg ++ entry.1 ++ ": " ++ joined ++ "\n") <$>
    joinNames entry.2
  else pure msg

/-- The kinds `check_health` walks, each with the key of `unhealthy_resources` and its test. -/
def healthTests : List (String × String × (Value → Except HealthExc Bool)) :=
  [("stateful_set", "statefulset", statefulSetHealthy), ("deployment", "deployment", deploymentHealthy),
    ("pod", "pod", podHealthy)]

/-- `Checker.check_health(snapshot)`. -/
def checkHealth (snap : Snapshot) : Except HealthExc RunResult := do
  let unhealthyResources ← healthTests.mapM fun (kind, key, healthy) =>
    (key, ·) <$> unhealthyNames healthy snap.systemState kind
  let errorMsg ← unhealthyResources.foldlM kindLine ""
  if errorMsg ≠ "" then pure (.error .systemHealth errorMsg none none) else pure .pass

/-- The loop over a kind appends one name per resource whose test fails: nothing when every test
passes, and otherwise some names, with a test that failed. -/
lemma foldlM_unhealthyStep (healthy : Value → Except HealthExc Bool) :
    ∀ (vs names out : List Value), vs.foldlM (unhealthyStep healthy) names = .ok out →
      ∃ rejected, out = names ++ rejected ∧
        ((rejected = [] ∧ ∀ v ∈ vs, healthy v = .ok true) ∨
          (rejected ≠ [] ∧ ∃ v ∈ vs, healthy v = .ok false))
  | [], names, out, h => by cases h; exact ⟨[], by simp, .inl ⟨rfl, by simp⟩⟩
  | v :: vs, names, out, h => by
    rw [List.foldlM_cons] at h
    rcases hs : unhealthyStep healthy names v with e | names' <;>
      simp only [hs, bind, Except.bind] at h
    · cases h
    obtain ⟨rejected, rfl, hrej⟩ := foldlM_unhealthyStep healthy vs names' out h
    unfold unhealthyStep at hs
    rcases hv : healthy v with e | _ | _ <;> simp only [hv, bind, Except.bind] at hs
    · cases hs
    · rcases hn : read v ["metadata", "name"] with e | n <;>
        simp only [hn, Bool.false_eq_true, ↓reduceIte, pure, Except.pure, reduceCtorEq,
          Except.ok.injEq] at hs
      subst hs
      exact ⟨n :: rejected, by simp, .inr ⟨by simp, v, List.mem_cons_self v vs, hv⟩⟩
    · cases hs
      refine ⟨rejected, rfl, hrej.imp (fun ⟨hnil, hall⟩ => ⟨hnil, ?_⟩)
        (fun ⟨hne, w, hw, hfail⟩ => ⟨hne, w, List.mem_cons_of_mem v hw, hfail⟩)⟩
      exact fun w hw => (List.mem_cons.mp hw).elim (· ▸ hv) (hall w)

/-- A kind's names: those of the resources of `state[kind].values()` whose test fails. -/
lemma unhealthyNames_ok {healthy : Value → Except HealthExc Bool} {state : List (String × Value)}
    {kind : String} {names : List Value} (h : unhealthyNames healthy state kind = .ok names) :
    ∃ vs, resources state kind = .ok vs ∧
      ((names = [] ∧ ∀ v ∈ vs, healthy v = .ok true) ∨
        (names ≠ [] ∧ ∃ v ∈ vs, healthy v = .ok false)) := by
  unfold unhealthyNames at h
  rcases hr : resources state kind with e | vs <;> simp only [hr, bind, Except.bind] at h
  · cases h
  obtain ⟨rejected, rfl, hrej⟩ := foldlM_unhealthyStep healthy vs [] names h
  exact ⟨vs, rfl, by simpa using hrej⟩

/-- The line of a kind with names is not empty; a kind without names adds none. -/
lemma kindLine_ok {msg out : String} {entry : String × List Value}
    (h : kindLine msg entry = .ok out) :
    (entry.2 = [] ∧ out = msg) ∨ (entry.2 ≠ [] ∧ ∃ line, line ≠ "" ∧ out = msg ++ line) := by
  unfold kindLine at h
  split at h
  · rename_i hlen
    rcases hj : joinNames entry.2 with e | joined <;> rw [hj] at h <;> cases h
    refine .inr ⟨fun hnil => hlen (by simp [hnil]), entry.1 ++ ": " ++ joined ++ "\n", ?_,
      by simp only [String.append_assoc]⟩
    intro hline
    have hdata : (entry.1 ++ ": " ++ joined ++ "\n").data = [] := congrArg String.data hline
    rw [String.data_append, List.append_eq_nil] at hdata
    exact List.cons_ne_nil _ _ hdata.2
  · rename_i hlen
    cases h
    exact .inl ⟨List.length_eq_zero.mp (not_not.mp hlen), rfl⟩

/-- A string that is not empty stays so when appended to. -/
lemma append_ne_empty {line : String} (hline : line ≠ "") (rest : String) : line ++ rest ≠ "" := by
  intro hempty
  have hdata : (line ++ rest).data = [] := congrArg String.data hempty
  rw [String.data_append, List.append_eq_nil] at hdata
  exact hline (String.ext hdata.1)

/-- The message grows by a non-empty line for each kind with names, and by nothing else. -/
lemma foldlM_kindLine : ∀ (entries : List (String × List Value)) (msg out : String),
    entries.foldlM kindLine msg = .ok out → ∃ extra, out = msg ++ extra ∧
      ((extra = "" ∧ ∀ e ∈ entries, e.2 = []) ∨ (extra ≠ "" ∧ ∃ e ∈ entries, e.2 ≠ []))
  | [], msg, out, h => by cases h; exact ⟨"", by simp, .inl ⟨rfl, by simp⟩⟩
  | e :: es, msg, out, h => by
    rw [List.foldlM_cons] at h
    rcases hk : kindLine msg e with err | msg' <;> simp only [hk, bind, Except.bind] at h
    · cases h
    obtain ⟨extra, rfl, hextra⟩ := foldlM_kindLine es msg' out h
    rcases kindLine_ok hk with ⟨hnil, rfl⟩ | ⟨hne, line, hline, rfl⟩
    · refine ⟨extra, rfl, hextra.imp (fun ⟨hempty, hall⟩ => ⟨hempty, ?_⟩)
        (fun ⟨hempty, e', he', hne⟩ => ⟨hempty, e', List.mem_cons_of_mem e he', hne⟩)⟩
      exact List.forall_mem_cons.mpr ⟨hnil, hall⟩
    · exact ⟨line ++ extra, by simp only [String.append_assoc],
        .inr ⟨append_ne_empty hline extra, e, List.mem_cons_self e es, hne⟩⟩

/-- A `mapM` that succeeds has an output for every input and an input for every output. -/
lemma mapM_ok {α β : Type} {f : α → Except HealthExc β} :
    ∀ {l : List α} {out : List β}, l.mapM f = .ok out →
      (∀ a ∈ l, ∃ b ∈ out, f a = .ok b) ∧ ∀ b ∈ out, ∃ a ∈ l, f a = .ok b
  | [], _, h => by cases h; simp
  | a :: l, out, h => by
    rw [List.mapM_cons] at h
    rcases ha : f a with e | b <;> simp only [ha, bind, Except.bind] at h
    · cases h
    rcases hl : l.mapM f with e | bs <;> simp only [hl, pure, Except.pure] at h
    · cases h
    cases h
    obtain ⟨hl₁, hl₂⟩ := mapM_ok hl
    refine ⟨fun a' ha' => ?_, fun b' hb' => ?_⟩
    · rcases List.mem_cons.mp ha' with rfl | ha'
      · exact ⟨b, List.mem_cons_self b bs, ha⟩
      · obtain ⟨b', hb', hf⟩ := hl₁ a' ha'
        exact ⟨b', List.mem_cons_of_mem b hb', hf⟩
    · rcases List.mem_cons.mp hb' with rfl | hb'
      · exact ⟨a, List.mem_cons_self a l, ha⟩
      · obtain ⟨a', ha', hf⟩ := hl₂ b' hb'
        exact ⟨a', List.mem_cons_of_mem a ha', hf⟩

/-- The entry of one kind in `unhealthy_resources` holds that kind's names. -/
lemma healthEntry_ok {state : List (String × Value)}
    {t : String × String × (Value → Except HealthExc Bool)} {entry : String × List Value}
    (h : (match t with
      | (kind, key, healthy) => (key, ·) <$> unhealthyNames healthy state kind) = .ok entry) :
    unhealthyNames t.2.2 state t.1 = .ok entry.2 := by
  obtain ⟨kind, key, healthy⟩ := t
  dsimp only at h
  rcases hn : unhealthyNames healthy state kind with e | names <;> rw [hn] at h <;> cases h
  rfl

/-- The verdict of the health oracle: `Pass` when every stateful set, deployment and pod passes its
test, and otherwise `Error(SYSTEM_HEALTH, msg)` with a message that is not empty and a resource of
the three kinds whose test failed. -/
theorem checkHealth_verdict {snap : Snapshot} {r : RunResult} (h : checkHealth snap = .ok r) :
    (r = .pass ∧ ∀ t ∈ healthTests, ∀ vs, resources snap.systemState t.1 = .ok vs →
        ∀ v ∈ vs, t.2.2 v = .ok true) ∨
      ∃ msg, msg ≠ "" ∧ r = .error .systemHealth msg none none ∧
        ∃ t ∈ healthTests, ∃ vs, resources snap.systemState t.1 = .ok vs ∧
          ∃ v ∈ vs, t.2.2 v = .ok false := by
  unfold checkHealth at h
  rcases hm : healthTests.mapM (fun (kind, key, healthy) =>
      (key, ·) <$> unhealthyNames healthy snap.systemState kind) with e | entries <;>
    simp only [hm, bind, Except.bind] at h
  · cases h
  rcases hmsg : entries.foldlM kindLine "" with e | errorMsg <;> simp only [hmsg] at h
  · cases h
  obtain ⟨hin, hout⟩ := mapM_ok hm
  obtain ⟨extra, rfl, ⟨rfl, hall⟩ | ⟨hextra, entry, hentry, hnames⟩⟩ :=
    foldlM_kindLine entries "" errorMsg hmsg
  · cases h
    refine .inl ⟨rfl, fun t ht vs hvs => ?_⟩
    obtain ⟨entry, hentry, he⟩ := hin t ht
    obtain ⟨vs', hvs', ⟨-, hok⟩ | ⟨hne, -⟩⟩ := unhealthyNames_ok (healthEntry_ok he)
    · cases hvs.symm.trans hvs'
      exact hok
    · exact (hne (hall entry hentry)).elim
  · rw [String.empty_append, if_pos hextra] at h
    cases h
    obtain ⟨t, ht, he⟩ := hout entry hentry
    obtain ⟨vs, hvs, ⟨hnil, -⟩ | ⟨-, hfail⟩⟩ := unhealthyNames_ok (healthEntry_ok he)
    · exact (hnames hnil).elim
    · exact .inr ⟨extra, hextra, rfl, t, ht, vs, hvs, hfail⟩

/-- `checkHealth_verdict` on a cluster state with one pending pod. -/
theorem checkHealth_verdict_pending :
    let pod : Value := .dict [("metadata", .dict [("name", .str "web")]),
      ("status", .dict [("phase", .str "Pending")])]
    let snap : Snapshot := ⟨.none, ⟨"", ""⟩, [("stateful_set", .dict []), ("deployment", .dict []),
      ("pod", .dict [("web", pod)])], []⟩
    checkHealth snap = .ok (.error .systemHealth "pod: web\n" none none) ∧
      ((RunResult.error .systemHealth "pod: web\n" none none = .pass ∧
        ∀ t ∈ healthTests, ∀ vs, resources snap.systemState t.1 = .ok vs →
          ∀ v ∈ vs, t.2.2 v = .ok true) ∨
      ∃ msg, msg ≠ "" ∧ RunResult.error .systemHealth "pod: web\n" none none =
          .error .systemHealth msg none none ∧
        ∃ t ∈ healthTests, ∃ vs, resources snap.systemState t.1 = .ok vs ∧
          ∃ v ∈ vs, t.2.2 v = .ok false) := by
  intro pod snap
  have h : checkHealth snap = .ok (.error .systemHealth "pod: web\n" none none) := rfl
  exact ⟨h, checkHealth_verdict h⟩

end Health

end Acto
