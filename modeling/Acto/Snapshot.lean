import Acto.Python.Value

/-!
# Snapshots, deltas and verdicts

The data `Checker.check` consumes and produces: the snapshot of one generation (input document, CLI
output, cluster state, operator log), the deltas between two snapshots as `postprocess_diff` shapes
them, and the `RunResult` verdict. The collaborators `checker.py` imports but does not define
(`DeepDiff` with `postprocess_diff`, `CompareMethods`, `canonicalize`, the regex tables of `common`,
`invalid_input_message`, `parse_log`, `flatten_dict`) are the fields of `Env`; every oracle is
parametric in them.

`Env.reference` is one concrete choice of those collaborators, a small structural differ and
equality-based comparisons, used to run the model on concrete snapshots.
-/

namespace Acto

/-- One side of a delta: a document value, or the `NotPresent` sentinel of an inserted or removed
field. -/
inductive Side where
  | notPresent
  | present (v : Value)

/-- Python's `side == value`: a `NotPresent` sentinel equals no document value. -/
def Side.pyEq : Side → Value → Bool
  | .notPresent, _ => false
  | .present v, w => v.pyEq w

/-- `side == None or isinstance(side, NotPresent)`. -/
def Side.isAbsent : Side → Bool
  | .notPresent => true
  | .present v => v.pyEq .none

/-- A delta `{path, prev, curr}` (`Diff` of `common`). -/
structure Diff where
  path : Path
  prev : Side
  curr : Side

/-- A post-processed diff: change kind → path key → delta. -/
abbrev DeltaSet := List (String × List (String × Diff))

/-- The deltas of a `DeltaSet` in iteration order (`for l in d.values(): for x in l.values()`). -/
def DeltaSet.deltas (d : DeltaSet) : List Diff :=
  d.flatMap fun kind => kind.2.map Prod.snd

/-- The system delta: resource kind → post-processed diff of that kind's resources. -/
abbrev SystemDelta := List (String × DeltaSet)

/-- The deltas of a `SystemDelta` in the order of the three nested loops of the state oracle. -/
def SystemDelta.deltas (d : SystemDelta) : List Diff :=
  d.flatMap fun resource => DeltaSet.deltas resource.2

/-- `dict.pop(key)`: the mapping without `key`, or `KeyError`. -/
def SystemDelta.pop (d : SystemDelta) (key : String) : Except PyExc SystemDelta :=
  if d.any (·.1 == key) then .ok (d.filter (·.1 != key)) else .error .keyError

/-- The output of the apply command. -/
structure CliResult where
  stdout : String
  stderr : String

/-- The snapshot of one generation (`Snapshot`): the mutated input, the CLI output, the cluster state
by resource kind, and the operator log lines. -/
structure Snapshot where
  input : Value
  cliResult : CliResult
  systemState : List (String × Value)
  operatorLog : List String

/-- The tag of the oracle that raised an error. -/
inductive Oracle where
  | systemState
  | systemHealth
  deriving DecidableEq, Repr

/-- The verdict of one generation (`RunResult` and its subclasses). -/
inductive RunResult where
  | pass
  | unchanged
  | connectionRefused
  | invalidInput (path : Option Path)
  | error (oracle : Oracle) (msg : String) (inputDelta : Option Diff) (matchDelta : Option Diff)

/-- `isinstance(result, ErrorResult)` with the `SYSTEM_STATE` tag. -/
def RunResult.isStateError : RunResult → Bool
  | .error .systemState _ _ _ => true
  | _ => false

/-- `isinstance(result, ErrorResult)`. -/
def RunResult.isError : RunResult → Bool
  | .error .. => true
  | _ => false

/-- `isinstance(result, InvalidInputResult)`. -/
def RunResult.isInvalidInput : RunResult → Bool
  | .invalidInput _ => true
  | _ => false

/-- A parsed operator-log line: its level and the values of all its fields, in order. -/
structure ParsedLog where
  level : String
  values : List Value

/-- The collaborators of the checker. -/
structure Env where
  /-- `postprocess_diff(DeepDiff(prev, curr, ignore_order=True, report_repetition=True))`. -/
  inputDiff : Value → Value → DeltaSet
  /-- `postprocess_diff(DeepDiff(prev, curr, exclude_regex_paths=EXCLUDE_PATH_REGEX, ..))`. -/
  systemDiff : Value → Value → DeltaSet
  /-- `CompareMethods.input_compare(prev, curr)`: the two input values are equivalent. -/
  inputCompare : Side → Side → Bool
  /-- `CompareMethods.compare(in_prev, in_curr, prev, curr)`: the system change agrees. -/
  compare : Side → Side → Side → Side → Bool
  /-- `canonicalize` of a path atom. -/
  canonicalize : PathAtom → String
  /-- Some pattern of the (non-empty) `GENERIC_FIELDS` is found in the string. -/
  genericField : String → Bool
  /-- `invalid_input_message(text, input_delta)`. -/
  invalidInputMessage : String → DeltaSet → Bool × Option Path
  /-- `parse_log(line)`, `none` for the empty result. -/
  parseLog : String → Option ParsedLog
  /-- `len(flatten_dict(system_state, []))`. -/
  flattenCount : List (String × Value) → Nat

/-! ## A reference environment -/

/-- The rendered key of a path in a post-processed diff. -/
def Path.render (p : Path) : String :=
  "root" ++ String.join (p.map fun a => "[" ++ a.str ++ "]")

mutual
/-- The changes between two documents at path `p`, each with its change kind: mappings are compared
key by key, any other pair is a changed value unless equal. -/
def diffChanges (p : Path) : Value → Value → List (String × Diff)
  | .dict a, .dict b =>
    diffEntries p b a ++ b.filterMap fun kw =>
      if (a.lookup kw.1).isSome then none
      else some ("dictionary_item_added", ⟨p ++ [.key kw.1], .notPresent, .present kw.2⟩)
  | x, y => if x.pyEq y then [] else [("values_changed", ⟨p, .present x, .present y⟩)]
  termination_by structural x => x
/-- `diffChanges` over the entries of the old mapping. -/
def diffEntries (p : Path) (b : List (String × Value)) : List (String × Value) → List (String × Diff)
  | [] => []
  | kv :: rest => diffEntry p b kv ++ diffEntries p b rest
  termination_by structural a => a
/-- One entry of `diffEntries`. -/
def diffEntry (p : Path) (b : List (String × Value)) : String × Value → List (String × Diff)
  | (k, v) => match b.lookup k with
    | some w => diffChanges (p ++ [.key k]) v w
    | none => [("dictionary_item_removed", ⟨p ++ [.key k], .present v, .notPresent⟩)]
  termination_by structural kv => kv
end

/-- Group changes by kind, in the order `values_changed`, `dictionary_item_added`,
`dictionary_item_removed`, keyed by rendered path. -/
def groupChanges (cs : List (String × Diff)) : DeltaSet :=
  (["values_changed", "dictionary_item_added", "dictionary_item_removed"].map fun kind =>
    (kind, (cs.filter (·.1 == kind)).map fun c => (c.2.path.render, c.2))).filter (!·.2.isEmpty)

/-- Equality of two delta sides. -/
def Side.sideEq : Side → Side → Bool
  | .notPresent, .notPresent => true
  | .present v, .present w => v.pyEq w
  | _, _ => false

/-- The reference collaborators: the structural differ, equal inputs are equivalent, a system change
agrees when it is the same transition, atoms are compared lower-cased, `name` is the generic field,
nothing is reported invalid, no log line parses, and the flattened state is counted by kind. -/
def Env.reference : Env where
  inputDiff a b := groupChanges (diffChanges [] a b)
  systemDiff a b := groupChanges (diffChanges [] a b)
  inputCompare a b := a.sideEq b
  compare ip ic p c := ip.sideEq p && ic.sideEq c
  canonicalize a := lower a.str
  genericField s := s == "name"
  invalidInputMessage _ _ := (false, none)
  parseLog _ := none
  flattenCount state := state.length

end Acto
