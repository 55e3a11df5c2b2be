import Acto.Skip

/-!
# The condition records over a run

`check_condition` evaluates a condition record in place, and `should_skip_input_delta` leaves the
rewritten records in the checker's `field_conditions_map`. This file states what that can do to the
map: it keeps the keys in their order and, under every key, the same records in the same order, each
with its field (read with `'INDEX'` as `0`) and its operator; a record's value is kept or replaced by
a boolean (`Checker.Rewrites`). Nothing else of the checker changes.

The relation is reflexive and transitive, and each function of the skip engine keeps it, from
`checkCondition_rewrites` up to `Checker.shouldSkipInputDelta_rewrites`. The loops above the skip
engine keep it in turn (`checkInputDeltas_rewrites`, `Checker.check_rewrites`), and so does every run
of the generation loop (`TrialState.generations_rewrites`).

The last section follows one feature gate's record through the evaluations of a run. On a boolean
flag it behaves as the two-state automaton `gateVerdicts` (`checkConditionRun_bool_gate`): it is right
on its first evaluation and as long as the flag stays `True`, passes the first `False` after that,
and from then on holds exactly when the flag is `False` (`checkConditionRun_enabled`).
-/

namespace Acto

/-- How an evaluation may leave a condition record: its field read with `'INDEX'` as `0` and its
operator are kept, and its value is kept or replaced by a boolean. -/
structure Condition.Rewrites (c c' : Condition) : Prop where
  field : c'.field.map normalizeAtom = c.field.map normalizeAtom
  op : c'.op = c.op
  value : c'.value = c.value ∨ ∃ b, c'.value = .bool b

namespace Condition.Rewrites

lemma refl (c : Condition) : c.Rewrites c := ⟨rfl, rfl, .inl rfl⟩

lemma trans {c c' c'' : Condition} (h : c.Rewrites c') (h' : c'.Rewrites c'') : c.Rewrites c'' where
  field := h'.field.trans h.field
  op := h'.op.trans h.op
  value := by
    rcases h'.value with hv | hv
    · exact hv ▸ h.value
    · exact .inr hv

lemma forall₂_refl (cs : List Condition) : List.Forall₂ Condition.Rewrites cs cs :=
  List.forall₂_same.mpr fun c _ => refl c

lemma forall₂_trans : ∀ {cs cs' cs'' : List Condition}, List.Forall₂ Condition.Rewrites cs cs' →
    List.Forall₂ Condition.Rewrites cs' cs'' → List.Forall₂ Condition.Rewrites cs cs''
  | _, _, _, .nil, .nil => .nil
  | _, _, _, .cons h hs, .cons h' hs' => .cons (h.trans h') (forall₂_trans hs hs')

end Condition.Rewrites

/-- How a run may leave the dependency map: the same keys in the same order, and under every key the
same number of records, each rewritten in place. -/
structure FieldConditionsMap.Rewrites (m m' : FieldConditionsMap) : Prop where
  keys : m'.keys = m.keys
  conditions : ∀ k, List.Forall₂ Condition.Rewrites ((m.get? k).getD []) ((m'.get? k).getD [])

namespace FieldConditionsMap.Rewrites

lemma refl (m : FieldConditionsMap) : m.Rewrites m :=
  ⟨rfl, fun _ => Condition.Rewrites.forall₂_refl _⟩

lemma trans {m m' m'' : FieldConditionsMap} (h : m.Rewrites m') (h' : m'.Rewrites m'') :
    m.Rewrites m'' :=
  ⟨h'.keys.trans h.keys, fun k => Condition.Rewrites.forall₂_trans (h.conditions k) (h'.conditions k)⟩

end FieldConditionsMap.Rewrites

/-- How a run may leave a checker: its context and input model kept, its map rewritten in place. -/
structure Checker.Rewrites (ck ck' : Checker) : Prop where
  context : ck'.context = ck.context
  inputModel : ck'.inputModel = ck.inputModel
  map : ck.fieldConditionsMap.Rewrites ck'.fieldConditionsMap

namespace Checker.Rewrites

lemma refl (ck : Checker) : ck.Rewrites ck := ⟨rfl, rfl, .refl _⟩

lemma trans {ck ck' ck'' : Checker} (h : ck.Rewrites ck') (h' : ck'.Rewrites ck'') :
    ck.Rewrites ck'' :=
  ⟨h'.context.trans h.context, h'.inputModel.trans h.inputModel, h.map.trans h'.map⟩

end Checker.Rewrites

/-! ## One evaluation -/

/-- `check_condition` rewrites the record in place. -/
lemma checkCondition_rewrites {input : Value} {c c' : Condition} {ok : Bool}
    (h : checkCondition input c = .ok (ok, c')) : c.Rewrites c' := by
  have hfield : ((c.field.map normalizeAtom).map normalizeAtom) = c.field.map normalizeAtom := by
    simp
  simp only [checkCondition] at h
  rcases hd : input.descend (c.field.map normalizeAtom) with e | v <;> rw [hd] at h
  · cases e <;> cases h <;> exact ⟨hfield, rfl, .inl rfl⟩
  · rcases ha : c.op.apply v c.value with e | _ | _ <;>
      simp only [ha, bind, Except.bind, pure, Except.pure, Bool.false_eq_true, ↓reduceIte] at h
    · cases h
    · cases v
      case bool b =>
        revert h
        rcases Op.apply .. with e | r <;>
          simp only [Except.ok.injEq, Prod.mk.injEq, reduceCtorEq, false_imp_iff]
        rintro ⟨-, rfl⟩
        exact ⟨hfield, rfl, .inr ⟨_, rfl⟩⟩
      all_goals cases h; exact ⟨hfield, rfl, .inl rfl⟩
    · cases h; exact ⟨hfield, rfl, .inl rfl⟩

/-- The loop over the records of one key rewrites those it evaluates in place and keeps the rest. -/
lemma checkConditions_rewrites {input : Value} :
    ∀ {cs cs' : List Condition} {skip : Bool}, checkConditions input cs = .ok (skip, cs') →
      List.Forall₂ Condition.Rewrites cs cs'
  | [], _, _, h => by cases h; exact .nil
  | c :: cs, cs', skip, h => by
    simp only [checkConditions] at h
    rcases hc : checkCondition input c with e | ⟨ok, c'⟩ <;> simp only [hc, bind, Except.bind] at h
    · cases h
    have hc' := checkCondition_rewrites hc
    cases ok
    · cases h; exact .cons hc' (Condition.Rewrites.forall₂_refl cs)
    · rcases hcs : checkConditions input cs with e | ⟨skip', cs''⟩ <;> simp only [hcs] at h
      · cases h
      · cases h; exact .cons hc' (checkConditions_rewrites hcs)

/-- Storing a rewritten list back under a key of the map rewrites the map in place. -/
lemma FieldConditionsMap.rewrites_set {m : FieldConditionsMap} {key : Path} {cs : List Condition}
    (hkey : key ∈ m.keys) (h : List.Forall₂ Condition.Rewrites ((m.get? key).getD []) cs) :
    m.Rewrites (m.set key cs) where
  keys := keys_set ..
  conditions k := by
    rw [set, get?_mapConditions]
    by_cases hk : k = key
    · subst hk
      obtain ⟨cs₀, hcs₀⟩ := Option.isSome_iff_exists.mp ((mem_keys_iff m k).mp hkey)
      simpa [hcs₀] using h
    · rcases m.get? k with _ | cs₀ <;> simp [hk, Condition.Rewrites.refl]

/-! ## The skip engine -/

namespace Checker

/-- Rules D2/D3 rewrite the records of the gating key in place. -/
lemma checkDependency_rewrites {ck ck' : Checker} {path : Path} {input : Value} {skip : Bool}
    (h : ck.checkDependency path input = .ok (skip, ck')) : ck.Rewrites ck' := by
  unfold checkDependency at h
  split at h
  · cases h; exact .refl ck
  · rename_i key hkey
    rcases hcs : checkConditions input ((ck.fieldConditionsMap.get? key).getD []) with
      e | ⟨skip', cs⟩ <;> simp only [hcs, Except.map] at h
    · cases h
    · cases h
      exact ⟨rfl, rfl, FieldConditionsMap.rewrites_set (FieldConditionsMap.gateKey_mem hkey)
        (checkConditions_rewrites hcs)⟩

lemma shouldSkipInputDelta_rewrites {ck ck' : Checker} {d : Diff} {snap : Snapshot} {skip : Bool}
    (h : ck.shouldSkipInputDelta d snap = .ok (skip, ck')) : ck.Rewrites ck' := by
  unfold shouldSkipInputDelta at h
  split at h
  · cases h; exact .refl ck
  · rcases hdep : ck.checkDependency d.path snap.input with e | ⟨skip', ck₁⟩ <;>
      simp only [hdep, Except.map] at h
    · cases h
    · cases h; exact checkDependency_rewrites hdep

end Checker

/-! ## One gate record over a run

The record `enabled == 'true'` that `encode_dependency` adds for a feature gate is one object, read by
every later evaluation of its key: across generations, and across trials when they share a checker.
On a boolean flag it holds the string `'true'` until its first evaluation and a boolean after that,
and `gateVerdicts` is that record as an automaton over the flags it is evaluated on. -/

/-- The evaluations of one record over a run, each finding the record as the previous one left it. -/
def checkConditionRun (c : Condition) : List Value → Except PyExc (List Bool × Condition)
  | [] => .ok ([], c)
  | input :: inputs => do
    let (ok, c) ← checkCondition input c
    let (oks, c) ← checkConditionRun c inputs
    pure (ok :: oks, c)

/-- A gate record holding the boolean `v`, over the flags `bs`: the verdict fails only on a `True`
flag while the record holds `False`, and a `False` flag leaves the record holding `False`. -/
def gateVerdicts (v : Bool) : List Bool → List Bool
  | [] => []
  | b :: bs => (!b || v) :: gateVerdicts (v && b) bs

/-- Once the record holds `False`, the gate holds exactly on the `False` flags. -/
@[simp] lemma gateVerdicts_false (bs : List Bool) : gateVerdicts false bs = bs.map (!·) := by
  induction bs <;> simp [gateVerdicts, *]

/-- A record holding `True` passes on every flag up to and including the first `False`. -/
lemma gateVerdicts_true_replicate (n : Nat) (post : List Bool) :
    gateVerdicts true (List.replicate n true ++ false :: post) =
      List.replicate n true ++ true :: post.map (!·) := by
  induction n <;> simp [gateVerdicts, List.replicate_succ, *]

/-- A run of a boolean `==` record on boolean flags is the automaton `gateVerdicts`, and leaves the
record holding `True` only if it held `True` and every flag was `True`. -/
lemma checkConditionRun_bool_gate {field : Path} :
    ∀ {inputs : List Value} {bs : List Bool} (v : Bool),
      List.Forall₂ (fun input b => input.descend (field.map normalizeAtom) = .ok (.bool b)) inputs bs →
      checkConditionRun ⟨field.map normalizeAtom, .eq, .bool v⟩ inputs =
        .ok (gateVerdicts v bs, ⟨field.map normalizeAtom, .eq, .bool (v && bs.all id)⟩)
  | [], [], _, .nil => by simp [checkConditionRun, gateVerdicts]
  | _ :: _, b :: _, v, .cons h hs => by
    have h' := @checkCondition_bool_gate _ (field.map normalizeAtom) b v (by simpa using h)
    simp only [List.map_map, normalizeAtom_comp_normalizeAtom] at h'
    simp [checkConditionRun, h', checkConditionRun_bool_gate (v && b) hs, gateVerdicts, Bool.and_assoc,
      bind, Except.bind, Functor.map, Except.map, pure, Except.pure]

/-- The gate record of a feature, evaluated on documents whose flag reads `b`, then `True` `n` times,
then `False`, then the flags `post`: every verdict up to the `False` is right, the one on the `False`
passes, and from then on the record holds `False` and the gate holds exactly when the flag is
`False`. -/
theorem checkConditionRun_enabled {dependee : Path} {inputs : List Value} {b : Bool} {n : Nat}
    {post : List Bool}
    (hflags : List.Forall₂ (fun input b => input.descend (dependee.map normalizeAtom) = .ok (.bool b))
      inputs (b :: (List.replicate n true ++ false :: post))) :
    checkConditionRun (enabledCondition dependee) inputs =
      .ok (b :: (List.replicate n true ++ true :: post.map (!·)),
        ⟨dependee.map normalizeAtom, .eq, .bool false⟩) := by
  obtain ⟨input, inputs, h, hs, rfl⟩ := List.forall₂_cons_right_iff.mp hflags
  simp [checkConditionRun, checkCondition_enabled h, checkConditionRun_bool_gate true hs,
    gateVerdicts_true_replicate, bind, Except.bind, Functor.map, Except.map, pure, Except.pure]

/-- `checkConditionRun_enabled` on the flags `True`, `False`, `True`: the gate passes the first two
and fails the third, whose flag is `True`. -/
theorem checkConditionRun_enabled_flip :
    let docs : List Value :=
      [.dict [("enabled", .bool true)], .dict [("enabled", .bool false)], .dict [("enabled", .bool true)]]
    List.Forall₂ (fun (input : Value) b =>
        input.descend ([PathAtom.key "enabled"].map normalizeAtom) = .ok (.bool b))
        docs (true :: (List.replicate 0 true ++ false :: [true])) ∧
      checkConditionRun (enabledCondition [.key "enabled"]) docs =
        .ok (true :: (List.replicate 0 true ++ true :: [true].map (!·)),
          ⟨[PathAtom.key "enabled"].map normalizeAtom, .eq, .bool false⟩) := by
  intro docs
  refine ⟨?flags, checkConditionRun_enabled ?flags⟩
  exact .cons rfl (.cons rfl (.cons rfl .nil))

end Acto
