import Acto.Dependency

/-!
# Condition evaluation

Port of `Checker.check_condition` (`checker.py`): a condition record `{field, op, value}` is checked
by descending the input document along `field`. The source evaluates the record in place: it
rewrites every `'INDEX'` atom of `field` to `0`, and when the first comparison fails on a boolean it
overwrites `value` with `True if value == 'true' else False` before comparing again. The model
therefore returns the record as the call leaves it next to the verdict, and the callers store it back
into the dependency map.

`conditionVerdict` states the verdict on a record as stored, in the spec's words; the rewrite of
`value` is what makes a later evaluation of the same record differ: on a boolean flag the record
`enabled == 'true'` is left holding `True` (`checkCondition_enabled`) and then `False`
(`checkCondition_bool_gate`).
-/

namespace Acto

/-- `'INDEX'` read as the index `0`. -/
def normalizeAtom (a : PathAtom) : PathAtom :=
  if a = .key "INDEX" then .index 0 else a

@[simp] lemma normalizeAtom_idem (a : PathAtom) : normalizeAtom (normalizeAtom a) = normalizeAtom a := by
  unfold normalizeAtom; split <;> simp_all

@[simp] lemma normalizeAtom_comp_normalizeAtom : normalizeAtom ∘ normalizeAtom = normalizeAtom :=
  funext normalizeAtom_idem

/-- `Checker.check_condition(input, condition)`: the verdict, and the record as the call leaves it. -/
def checkCondition (input : Value) (c : Condition) : Except PyExc (Bool × Condition) :=
  let c := { c with field := c.field.map normalizeAtom }
  match input.descend c.field with
  | .error .keyError | .error .typeError => .ok (c.op = .eq && c.value.pyEq .none, c)
  | .error e => .error e
  | .ok v => do
    if ← c.op.apply v c.value then pure (true, c)
    else match v with
      | .bool _ =>
        let c := { c with value := .bool (c.value.pyEq (.str "true")) }
        let r ← c.op.apply v c.value
        pure (r, c)
      | _ => pure (false, c)

/-- `check_condition` raises `IndexError` from the descent or `TypeError` from the comparison, never
`KeyError`: a missing field is a failed descent. -/
lemma checkCondition_error {input : Value} {c : Condition} {e : PyExc}
    (h : checkCondition input c = .error e) : e = .indexError ∨ e = .typeError := by
  simp only [checkCondition] at h
  rcases hd : input.descend (c.field.map normalizeAtom) with e' | v <;> rw [hd] at h
  · cases e' <;> cases h; exact .inl rfl
  · rcases ha : c.op.apply v c.value with e' | _ | _ <;>
      simp only [ha, bind, Except.bind, pure, Except.pure, Bool.false_eq_true, ↓reduceIte] at h
    · cases h; exact .inr (Op.apply_error ha)
    · cases v
      case bool b =>
        revert h
        rcases hb : Op.apply .. with e' | r <;> simp only [reduceCtorEq, false_imp_iff, Except.error.injEq]
        rintro rfl
        exact .inr (Op.apply_error hb)
      all_goals cases h
    · cases h

/-- The loop of `should_skip_input_delta` over the conditions of one key: `true` as soon as one
condition fails, with the records rewritten by the evaluations that ran. -/
def checkConditions (input : Value) : List Condition → Except PyExc (Bool × List Condition)
  | [] => .ok (false, [])
  | c :: cs => do
    let (ok, c) ← checkCondition input c
    if ok then
      let (skip, cs) ← checkConditions input cs
      pure (skip, c :: cs)
    else pure (true, c :: cs)

/-- The loop over the records of one key raises only what `check_condition` raises. -/
lemma checkConditions_error {input : Value} :
    ∀ {cs : List Condition} {e : PyExc}, checkConditions input cs = .error e →
      e = .indexError ∨ e = .typeError
  | [], _, h => by cases h
  | c :: cs, e, h => by
    simp only [checkConditions] at h
    rcases hc : checkCondition input c with e' | ⟨ok, c'⟩ <;> simp only [hc, bind, Except.bind] at h
    · cases h; exact checkCondition_error hc
    cases ok
    · cases h
    · rcases hcs : checkConditions input cs with e' | ⟨skip', cs''⟩ <;> simp only [hcs] at h
      · cases h; exact checkConditions_error hcs
      · cases h

/-- The verdict of a condition record as stored: a failed descent (missing key or wrong type)
satisfies it iff it is `== None`; otherwise the comparison holds, or, when it fails on a boolean, the
comparison with the value coerced by `== 'true'` holds. -/
def conditionVerdict (input : Value) (c : Condition) : Except PyExc Bool :=
  match input.descend (c.field.map normalizeAtom) with
  | .ok v => do
    if ← c.op.apply v c.value then pure true
    else match v with
      | .bool _ => c.op.apply v (.bool (c.value.pyEq (.str "true")))
      | _ => pure false
  | .error _ => .ok (c.op = .eq && c.value.pyEq .none)

/-- The verdict `check_condition` returns: `IndexError` when the descent indexes past the end of a
list or string, and `conditionVerdict` otherwise. -/
lemma fst_checkCondition (input : Value) (c : Condition) :
    Prod.fst <$> checkCondition input c =
      match input.descend (c.field.map normalizeAtom) with
      | .error .indexError => .error .indexError
      | _ => conditionVerdict input c := by
  simp only [checkCondition, conditionVerdict]
  rcases input.descend (c.field.map normalizeAtom) with e | v
  · cases e <;> rfl
  · simp only [map_bind]
    congr 1; funext r
    cases r <;> cases v <;> simp [map_bind]

/-- The verdict of `check_condition` on a record is `conditionVerdict`, whatever earlier calls did
to the record's field, as long as the descent does not index past the end of a list or string. -/
theorem checkCondition_verdict (input : Value) (c : Condition)
    (h : input.descend (c.field.map normalizeAtom) ≠ .error .indexError) :
    Prod.fst <$> checkCondition input c = conditionVerdict input c := by
  rw [fst_checkCondition]
  split
  exacts [(h ‹_›).elim, rfl]

/-- `checkCondition_verdict` on a disabled flag. -/
theorem checkCondition_verdict_disabled :
    (Value.dict [("enabled", .bool false)]).descend ([PathAtom.key "enabled"].map normalizeAtom) ≠
        .error .indexError ∧
      Prod.fst <$> checkCondition (.dict [("enabled", .bool false)]) (enabledCondition [.key "enabled"]) =
        conditionVerdict (.dict [("enabled", .bool false)]) (enabledCondition [.key "enabled"]) :=
  ⟨(fun h => by cases h), checkCondition_verdict _ _ (fun h => by cases h)⟩

/-- Three records on which `check_condition` does not return the comparison retried with the value
coerced by `== 'true'`: `!=` against `'true'` on `True` passes without a retry, although the coerced
comparison fails; a second evaluation of `== 'true'` on `False` passes, because the first one rewrote
the value to `True`; and an index past the end of a list raises `IndexError`. -/
theorem checkCondition_counterexample :
    (Prod.fst <$> checkCondition (.dict [("a", .bool true)]) ⟨[.key "a"], .ne, .str "true"⟩ =
        .ok true ∧
      Op.ne.apply (.bool true) (.bool ((Value.str "true").pyEq (.str "true"))) = .ok false) ∧
    (checkCondition (.dict [("a", .bool false)]) ⟨[.key "a"], .eq, .str "true"⟩ =
        .ok (false, ⟨[.key "a"], .eq, .bool true⟩) ∧
      Prod.fst <$> checkCondition (.dict [("a", .bool false)]) ⟨[.key "a"], .eq, .bool true⟩ =
        .ok true) ∧
    checkCondition (.dict [("a", .list [])]) ⟨[.key "a", .key "INDEX"], .eq, .none⟩ =
      .error .indexError :=
  ⟨⟨rfl, rfl⟩, ⟨rfl, rfl⟩, rfl⟩

/-- The loop over the conditions of a key skips exactly when some stored condition's verdict is
false, read left to right: the rewrite of a record never reaches the records after it. -/
theorem checkConditions_verdict (input : Value) :
    ∀ cs : List Condition, (∀ c ∈ cs, input.descend (c.field.map normalizeAtom) ≠ .error .indexError) →
      Prod.fst <$> checkConditions input cs = cs.anyM fun c => (!·) <$> conditionVerdict input c
  | [], _ => rfl
  | c :: cs, h => by
    have hc : Prod.fst <$> checkCondition input c = conditionVerdict input c := by
      rw [fst_checkCondition]
      split
      exacts [(h c (List.mem_cons_self c cs) ‹_›).elim, rfl]
    have ih := checkConditions_verdict input cs fun c' hc' => h c' (List.mem_cons_of_mem c hc')
    rcases hcc : checkCondition input c with e | ⟨ok, c'⟩ <;> rw [hcc] at hc <;>
      simp only [List.anyM, ← hc, checkConditions, hcc, ← ih]
    · rfl
    · cases ok
      · rfl
      · cases checkConditions input cs <;> rfl

/-- `checkConditions_verdict` on two gate records: the first is rewritten by its retry and holds, so
the loop goes on to the second, which fails and makes the delta skipped. -/
theorem checkConditions_verdict_two_gates :
    let input : Value := .dict [("a", .bool true), ("b", .bool false)]
    let cs : List Condition := [enabledCondition [.key "a"], enabledCondition [.key "b"]]
    (∀ c ∈ cs, input.descend (c.field.map normalizeAtom) ≠ .error .indexError) ∧
      Prod.fst <$> checkConditions input cs = cs.anyM (fun c => (!·) <$> conditionVerdict input c) ∧
      Prod.fst <$> checkConditions input cs = .ok true := by
  intro input cs
  refine ⟨?hcs, checkConditions_verdict input cs ?hcs, rfl⟩
  simp only [cs, List.mem_cons, List.mem_singleton, List.not_mem_nil, or_false]
  rintro c (rfl | rfl) h <;> cases h

/-- The `enabled == 'true'` record on its first evaluation against a boolean flag: the verdict is the
flag, and the comparison with the string fails, so the record is left holding `True`. -/
lemma checkCondition_enabled {input : Value} {dependee : Path} {b : Bool}
    (h : input.descend (dependee.map normalizeAtom) = .ok (.bool b)) :
    checkCondition input (enabledCondition dependee) =
      .ok (b, ⟨dependee.map normalizeAtom, .eq, .bool true⟩) := by
  cases b <;> simp [checkCondition, enabledCondition, h, Op.apply, Value.pyEq, Value.asInt?, pure,
    Except.pure, bind, Except.bind]

/-- A `==` record holding the boolean `v`, evaluated against the boolean flag `b`: it fails only on a
`True` flag while it holds `False`, and when the flags differ the retry leaves it holding `False`
(`True == 'true'` is false in Python). -/
lemma checkCondition_bool_gate {input : Value} {field : Path} {b v : Bool}
    (h : input.descend (field.map normalizeAtom) = .ok (.bool b)) :
    checkCondition input ⟨field, .eq, .bool v⟩ =
      .ok (!b || v, ⟨field.map normalizeAtom, .eq, .bool (v && b)⟩) := by
  cases b <;> cases v <;> simp [checkCondition, h, Op.apply, Value.pyEq, Value.asInt?, pure,
    Except.pure, bind, Except.bind]

end Acto
