import Mathlib.Data.Nat.Digits
import Acto.Condition

/-!
# The skip engine

Port of `Checker.should_skip_input_delta` (`checker.py`): an input delta is skipped when it is a
default-value no-op (D1), when a condition of the key gating its path fails (D2 for the path itself,
D3 for `find_nearest_parent`), or, with analysis enabled, when its path matches a control-flow gate
(D4). The condition evaluations rewrite the records of the gating key, so the engine returns the
checker with its map updated.

The gate pattern `^\d$` of D4 matches one character of Unicode category Nd, as Python's `re` reads
`\d` in a `str` pattern, optionally followed by a newline, before which `$` also matches. The
category is given by the zeros of its runs of ten code points (`decimalZeros`, Unicode 14.0 as in
Python 3.11). On a list index the pattern holds exactly below `10` (`isSingleDigit_index`), which
`shouldSkipInputDelta_controlFlow` states with rule D4.
-/

namespace Acto

/-- Rule D1: the delta sets the field to its schema default from nothing, or clears it from its
default. A failed schema lookup (`none`) skips nothing. -/
def isDefaultNoop (defaultAt : Path → Option Value) (d : Diff) : Bool :=
  match defaultAt d.path with
  | some dv => (d.prev.pyEq dv && d.curr.isAbsent) || (d.curr.pyEq dv && d.prev.isAbsent)
  | none => false

/-- The zeros of the runs of ten code points that make up Unicode category Nd. -/
def decimalZeros : List Nat :=
  [0x30, 0x660, 0x6F0, 0x7C0, 0x966, 0x9E6, 0xA66, 0xAE6, 0xB66, 0xBE6, 0xC66, 0xCE6, 0xD66, 0xDE6,
   0xE50, 0xED0, 0xF20, 0x1040, 0x1090, 0x17E0, 0x1810, 0x1946, 0x19D0, 0x1A80, 0x1A90, 0x1B50,
   0x1BB0, 0x1C40, 0x1C50, 0xA620, 0xA8D0, 0xA900, 0xA9D0, 0xA9F0, 0xAA50, 0xABF0, 0xFF10, 0x104A0,
   0x10D30, 0x11066, 0x110F0, 0x11136, 0x111D0, 0x112F0, 0x11450, 0x114D0, 0x11650, 0x116C0,
   0x11730, 0x118E0, 0x11950, 0x11C50, 0x11D50, 0x11DA0, 0x16A60, 0x16AC0, 0x16B50, 0x1D7CE,
   0x1D7D8, 0x1D7E2, 0x1D7EC, 0x1D7F6, 0x1E140, 0x1E2F0, 0x1E950, 0x1FBF0]

/-- `\d`: a character of Unicode category Nd. -/
def isDecimalChar (c : Char) : Bool :=
  decimalZeros.any fun z => z ≤ c.toNat && c.toNat < z + 10

/-- `re.match(r"^\d$", s)`: one decimal digit, optionally followed by a newline. -/
def isSingleDigit (s : String) : Bool :=
  match s.toList with
  | [c] => isDecimalChar c
  | [c, '\n'] => isDecimalChar c
  | _ => false

/-- `Nat.toDigitsCore` puts its digits in front of the accumulator. -/
lemma toDigitsCore_append (b : Nat) : ∀ (fuel n : Nat) (ds : List Char),
    Nat.toDigitsCore b fuel n ds = Nat.toDigitsCore b fuel n [] ++ ds
  | 0, _, _ => rfl
  | fuel + 1, n, ds => by
    simp only [Nat.toDigitsCore]
    split
    · rfl
    · rw [toDigitsCore_append b fuel _ (_ :: ds), toDigitsCore_append b fuel _ [_]]
      simp

/-- The last digit `Nat.toDigitsCore` writes is that of `n % b`. -/
lemma toDigitsCore_last (b fuel n : Nat) :
    ∃ ds, Nat.toDigitsCore b (fuel + 1) n [] = ds ++ [Nat.digitChar (n % b)] := by
  simp only [Nat.toDigitsCore]
  split
  · exact ⟨[], rfl⟩
  · exact ⟨_, toDigitsCore_append b fuel _ _⟩

/-- The string of a list index is one decimal digit exactly when the index is below `10`. -/
lemma isSingleDigit_index (n : Nat) : isSingleDigit (PathAtom.index n).str = true ↔ n < 10 := by
  refine ⟨fun h => Nat.lt_of_not_le fun hn => ?_, fun h => by revert n; decide⟩
  have hdigit : ∀ k < 10, Nat.digitChar k ≠ '\n' := by decide
  obtain ⟨m, rfl⟩ : ∃ m, n = m + 1 := ⟨n - 1, by omega⟩
  obtain ⟨ds, hds⟩ := toDigitsCore_last 10 m ((m + 1) / 10)
  have hrepr : (PathAtom.index (m + 1)).str.data =
      ds ++ [Nat.digitChar ((m + 1) / 10 % 10), Nat.digitChar ((m + 1) % 10)] := by
    show Nat.toDigitsCore 10 (m + 2) (m + 1) [] = _
    rw [Nat.toDigitsCore, if_neg (by omega), toDigitsCore_append, hds]
    simp
  rcases ds with _ | ⟨a, _ | ⟨b, ds⟩⟩ <;>
    simp [isSingleDigit, hrepr, hdigit _ (Nat.mod_lt _ (by omega : 10 > 0))] at h

/-- The control-flow gate `field` matches `path`: same length, and atom by atom equal, or `'INDEX'`
against a single digit. -/
def matchesControlFlowField (path field : Path) : Bool :=
  path.length == field.length &&
    (path.zip field).all fun (a, g) => (g == .key "INDEX" && isSingleDigit a.str) || a == g

/-- A gate matches a path exactly when they agree atom by atom, `'INDEX'` matching any atom whose
string is one decimal digit. -/
lemma matchesControlFlowField_iff (path field : Path) :
    matchesControlFlowField path field = true ↔ List.Forall₂
      (fun a g => a = g ∨ g = .key "INDEX" ∧ isSingleDigit a.str = true) path field := by
  induction path generalizing field with
  | nil => cases field <;> simp [matchesControlFlowField]
  | cons a path ih =>
    cases field with
    | nil => simp [matchesControlFlowField]
    | cons g field =>
      rw [List.forall₂_cons, ← ih]
      simp only [matchesControlFlowField, List.length_cons, List.zip_cons_cons, List.all_cons,
        Bool.and_eq_true, beq_iff_eq, Bool.or_eq_true, decide_eq_true_eq, Nat.add_right_cancel_iff]
      exact ⟨fun ⟨hlen, ha, hrest⟩ => ⟨ha.symm, hlen, hrest⟩,
        fun ⟨ha, hlen, hrest⟩ => ⟨hlen, ha.symm, hrest⟩⟩

/-- The key whose conditions gate `path`: the path itself if it is a key (D2), else
`find_nearest_parent` (D3). -/
def FieldConditionsMap.gateKey (m : FieldConditionsMap) (path : Path) : Option Path :=
  if path ∈ m.keys then some path else findNearestParent path m.keys

/-- The gating key is a key of the map. -/
lemma FieldConditionsMap.gateKey_mem {m : FieldConditionsMap} {path key : Path}
    (h : m.gateKey path = some key) : key ∈ m.keys := by
  unfold gateKey at h
  split at h
  · cases h; assumption
  · rw [findNearestParent_eq] at h
    exact (List.mem_filter.mp (List.mem_of_getLast?_eq_some h)).1

namespace Checker

/-- Rules D2/D3: evaluate the conditions of the gating key on the input; `true` when one fails. -/
def checkDependency (ck : Checker) (path : Path) (input : Value) : Except PyExc (Bool × Checker) :=
  match ck.fieldConditionsMap.gateKey path with
  | none => .ok (false, ck)
  | some key =>
    (checkConditions input ((ck.fieldConditionsMap.get? key).getD [])).map fun (skip, cs) =>
      (skip, { ck with fieldConditionsMap := ck.fieldConditionsMap.set key cs })

/-- Rules D2/D3 change the map alone. -/
lemma checkDependency_context {ck ck' : Checker} {path : Path} {input : Value} {skip : Bool}
    (h : ck.checkDependency path input = .ok (skip, ck')) : ck'.context = ck.context := by
  unfold checkDependency at h
  split at h
  · cases h; rfl
  · revert h
    cases checkConditions .. <;> simp [Except.map]
    rintro - rfl; rfl

/-- Rules D2/D3 raise only what `check_condition` raises. -/
lemma checkDependency_error {ck : Checker} {path : Path} {input : Value} {e : PyExc}
    (h : ck.checkDependency path input = .error e) : e = .indexError ∨ e = .typeError := by
  unfold checkDependency at h
  split at h
  · cases h
  · rename_i key _
    rcases hcs : checkConditions input ((ck.fieldConditionsMap.get? key).getD []) with e' | _ <;>
      rw [hcs] at h <;> cases h
    exact checkConditions_error hcs

/-- Rule D4: with analysis enabled, some control-flow gate matches the path. -/
def controlFlowSkip (ck : Checker) (path : Path) : Bool :=
  ck.context.enableAnalysis &&
    match ck.context.analysisResult with
    | some r => r.controlFlowFields.any (matchesControlFlowField path)
    | none => false

/-- `Checker.should_skip_input_delta(input_delta, snapshot)`. -/
def shouldSkipInputDelta (ck : Checker) (d : Diff) (snap : Snapshot) :
    Except PyExc (Bool × Checker) :=
  if isDefaultNoop ck.inputModel.defaultAt d then .ok (true, ck)
  else (ck.checkDependency d.path snap.input).map fun (skip, ck) =>
    (skip || ck.controlFlowSkip d.path, ck)

/-- The skip engine raises only what `check_condition` raises. -/
lemma shouldSkipInputDelta_error {ck : Checker} {d : Diff} {snap : Snapshot} {e : PyExc}
    (h : ck.shouldSkipInputDelta d snap = .error e) : e = .indexError ∨ e = .typeError := by
  unfold shouldSkipInputDelta at h
  split at h
  · cases h
  · rcases hdep : ck.checkDependency d.path snap.input with e' | _ <;> rw [hdep] at h <;> cases h
    exact checkDependency_error hdep

/-- A nested gate declared after its parent's `enabled` flag does not inherit the parent's
condition, and the nearest parent of a field below both is the nested gate: with
`spec.tls.enabled = False` and `spec.tls.client.enabled = True`, a change of
`spec.tls.client.cert` is not skipped by a fresh checker. -/
theorem shouldSkipInputDelta_nested_gate :
    let tls : Path := [.key "spec", .key "tls"]
    let client : Path := tls ++ [.key "client"]
    let schema : Schema := .object [.key "spec"] [("tls", .object tls
      [("enabled", .other (tls ++ [.key "enabled"])),
       ("client", .object client
        [("enabled", .other (client ++ [.key "enabled"])),
         ("cert", .other (client ++ [.key "cert"]))])])]
    let input : Value := .dict [("spec", .dict [("tls", .dict
      [("enabled", .bool false), ("client", .dict [("enabled", .bool true), ("cert", .str "b")])])])]
    let snap : Snapshot := ⟨input, ⟨"", ""⟩, [], []⟩
    input.descend (tls ++ [.key "enabled"]) = .ok (.bool false) ∧
      ((Checker.init ⟨false, none⟩ ⟨schema, fun _ => some .none⟩).bind fun ck =>
        Prod.fst <$> ck.shouldSkipInputDelta ⟨client ++ [.key "cert"], .present (.str "a"),
          .present (.str "b")⟩ snap) = .ok false :=
  ⟨rfl, rfl⟩

/-- Rule D4 once rules D1 to D3 have let the delta through: with analysis enabled, the delta is
skipped exactly when its path matches a control-flow gate atom by atom, `'INDEX'` matching an atom
whose string is one decimal digit; so `'INDEX'` matches a list index exactly when it is below `10`. -/
theorem shouldSkipInputDelta_controlFlow {ck ck' : Checker} {d : Diff} {snap : Snapshot}
    {r : AnalysisResult} (hanalysis : ck.context = ⟨true, some r⟩)
    (hnoop : isDefaultNoop ck.inputModel.defaultAt d = false)
    (hdep : ck.checkDependency d.path snap.input = .ok (false, ck')) :
    (ck.shouldSkipInputDelta d snap = .ok (true, ck') ↔ ∃ gate ∈ r.controlFlowFields,
      List.Forall₂ (fun a g => a = g ∨ g = .key "INDEX" ∧ isSingleDigit a.str = true) d.path gate) ∧
      ∀ n : Nat, isSingleDigit (PathAtom.index n).str = true ↔ n < 10 := by
  refine ⟨?_, isSingleDigit_index⟩
  simp only [shouldSkipInputDelta, hnoop, hdep, controlFlowSkip, checkDependency_context hdep,
    hanalysis, Bool.false_eq_true, if_false, Except.map, Bool.false_or, Bool.true_and,
    Except.ok.injEq, Prod.mk.injEq, and_true, List.any_eq_true, matchesControlFlowField_iff]

/-- `shouldSkipInputDelta_controlFlow` on the gate `spec.list.INDEX` and the path `spec.list[3]`. -/
theorem shouldSkipInputDelta_controlFlow_index :
    let gate : Path := [.key "spec", .key "list", .key "INDEX"]
    let r : AnalysisResult := ⟨.empty, [gate]⟩
    let ck : Checker := ⟨⟨true, some r⟩, ⟨.other [], fun _ => none⟩, .empty⟩
    let d : Diff := ⟨[.key "spec", .key "list", .index 3], .present (.int 1), .present (.int 2)⟩
    let snap : Snapshot := ⟨.none, ⟨"", ""⟩, [], []⟩
    ck.context = ⟨true, some r⟩ ∧ isDefaultNoop ck.inputModel.defaultAt d = false ∧
      ck.checkDependency d.path snap.input = .ok (false, ck) ∧
      (ck.shouldSkipInputDelta d snap = .ok (true, ck) ↔ ∃ gate ∈ r.controlFlowFields,
        List.Forall₂ (fun a g => a = g ∨ g = .key "INDEX" ∧ isSingleDigit a.str = true) d.path gate) ∧
      ∀ n : Nat, isSingleDigit (PathAtom.index n).str = true ↔ n < 10 := by
  intro gate r ck d snap
  exact ⟨rfl, rfl, rfl, shouldSkipInputDelta_controlFlow rfl rfl rfl⟩

/-- The gate `spec.list.INDEX` does not match the list index `10`, whose string has two digits: a
fresh checker with analysis enabled skips the change of `spec.list[9]` and checks that of
`spec.list[10]`. -/
theorem shouldSkipInputDelta_index_ten :
    let gate : Path := [.key "spec", .key "list", .key "INDEX"]
    let delta (i : Nat) : Diff :=
      ⟨[.key "spec", .key "list", .index i], .present (.int 1), .present (.int 2)⟩
    let snap : Snapshot := ⟨.none, ⟨"", ""⟩, [], []⟩
    (Checker.init ⟨true, some ⟨.empty, [gate]⟩⟩ ⟨.object [.key "spec"] [], fun _ => none⟩).bind
        (fun ck => Prod.fst <$> ck.shouldSkipInputDelta (delta 10) snap) = .ok false ∧
      (Checker.init ⟨true, some ⟨.empty, [gate]⟩⟩ ⟨.object [.key "spec"] [], fun _ => none⟩).bind
        (fun ck => Prod.fst <$> ck.shouldSkipInputDelta (delta 9) snap) = .ok true :=
  ⟨rfl, rfl⟩

end Checker

end Acto
