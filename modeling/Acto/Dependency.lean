import Mathlib.Data.List.Nodup
import Acto.Snapshot

/-!
# The dependency index

Port of the construction half of `Checker` (`checker.py`, `__init__`, `helper`,
`encode_dependency`, `find_nearest_parent`): the `field_conditions_map` that gates an input field on
the `enabled` flags of the objects above it.

The map is a Python dict from json-encoded paths to lists of condition records; `json.dumps` is
injective on paths, so the keys are modelled by the paths themselves, and the dict by an association
list with distinct keys in insertion order (`FieldConditionsMap`, which carries the distinctness).
`helper` walks the schema with the properties of every object in declaration order; the walk is a
structural recursion through `helperProperties`/`helperProperty`.

`is_subfield` comes from `common`, which is not part of the sources; it is modelled from the spec
(`isSubfield`).
-/

namespace Acto

/-- A node of the input schema: an object with its properties in declaration order, an array with
its item schema, or any other schema, each with the path the schema loader gave it. -/
inductive Schema where
  | object (path : Path) (properties : List (String × Schema))
  | array (path : Path) (item : Schema)
  | other (path : Path)

/-- The input model: the root schema and `get_schema_by_path(path).default`, which is `none` when
the lookup raises. -/
structure InputModel where
  rootSchema : Schema
  defaultAt : Path → Option Value

/-- A condition record `{field, op, value}`. -/
structure Condition where
  field : Path
  op : Op
  value : Value

/-- `field_conditions_map`: dependent path → conditions, with distinct keys in insertion order. -/
structure FieldConditionsMap where
  entries : List (Path × List Condition)
  nodup : (entries.map Prod.fst).Nodup

namespace FieldConditionsMap

/-- The empty map `{}`. -/
def empty : FieldConditionsMap := ⟨[], List.nodup_nil⟩

/-- The keys, in insertion order (`.keys()`). -/
def keys (m : FieldConditionsMap) : List Path := m.entries.map Prod.fst

/-- `m[key]`, `none` when `key not in m`. -/
def get? (m : FieldConditionsMap) (key : Path) : Option (List Condition) := m.entries.lookup key

/-- `m[key] = []` for a key not in `m`. -/
def insertEmpty (m : FieldConditionsMap) (key : Path) (h : key ∉ m.keys) : FieldConditionsMap :=
  ⟨m.entries ++ [(key, [])], by simpa using m.nodup.concat h⟩

/-- Rewrite the condition list of every key in place. -/
def mapConditions (m : FieldConditionsMap) (f : Path → List Condition → List Condition) :
    FieldConditionsMap :=
  ⟨m.entries.map fun e => (e.1, f e.1 e.2), by
    simpa [List.map_map, Function.comp_def] using m.nodup⟩

/-- Replace the condition list of `key`. -/
def set (m : FieldConditionsMap) (key : Path) (cs : List Condition) : FieldConditionsMap :=
  m.mapConditions fun k cs' => if k = key then cs else cs'

@[simp] lemma keys_empty : empty.keys = [] := rfl

@[simp] lemma keys_insertEmpty (m : FieldConditionsMap) (key : Path) (h : key ∉ m.keys) :
    (m.insertEmpty key h).keys = m.keys ++ [key] := by
  simp [insertEmpty, keys]

@[simp] lemma keys_mapConditions (m : FieldConditionsMap) (f : Path → List Condition → List Condition) :
    (m.mapConditions f).keys = m.keys := by
  simp [mapConditions, keys, Function.comp_def]

@[simp] lemma keys_set (m : FieldConditionsMap) (key : Path) (cs : List Condition) :
    (m.set key cs).keys = m.keys := keys_mapConditions ..

/-- Rewriting the condition lists rewrites what a lookup finds. -/
lemma get?_mapConditions (m : FieldConditionsMap) (f : Path → List Condition → List Condition)
    (k : Path) : (m.mapConditions f).get? k = (m.get? k).map (f k) := by
  simp only [get?, mapConditions]
  induction m.entries with
  | nil => rfl
  | cons e es ih =>
    obtain ⟨p, cs⟩ := e
    by_cases h : k = p
    · subst h; simp
    · simp [List.lookup_cons, beq_false_of_ne h, ih]

/-- A lookup after `insertEmpty` finds the old entry, else `[]` at the new key. -/
lemma get?_insertEmpty (m : FieldConditionsMap) (key : Path) (h : key ∉ m.keys) (k : Path) :
    (m.insertEmpty key h).get? k = (m.get? k).or (if k = key then some [] else none) := by
  simp only [get?, insertEmpty, List.lookup_append, List.lookup_cons, List.lookup_nil]
  by_cases hk : k = key
  · simp [hk]
  · simp [beq_false_of_ne hk, hk]

/-- The keys are the paths a lookup finds. -/
lemma mem_keys_iff (m : FieldConditionsMap) (k : Path) : k ∈ m.keys ↔ (m.get? k).isSome := by
  simp [keys, get?, List.lookup_isSome_iff]

end FieldConditionsMap

/-- `is_subfield(subpath, path)`. Modelled from the spec: `path` is a prefix of `subpath`. -/
def isSubfield (subpath path : Path) : Bool := path.isPrefixOf subpath

/-- The condition `encode_dependency` appends: `{field: dependee, op: '==', value: 'true'}`. -/
def enabledCondition (dependee : Path) : Condition := ⟨dependee, .eq, .str "true"⟩

/-- `Checker.encode_dependency(depender, dependee)`: make `depender` a key, then append the
condition on `dependee` to every key that is a subfield of `depender`. -/
def encodeDependency (depender dependee : Path) (m : FieldConditionsMap) : FieldConditionsMap :=
  let m := if h : depender ∈ m.keys then m else m.insertEmpty depender h
  m.mapConditions fun path cs =>
    if isSubfield path depender then cs ++ [enabledCondition dependee] else cs

/-- What a lookup finds after `encode_dependency`: the old list, or `[]` at a new `depender`, with
the condition on `dependee` appended below `depender`. -/
lemma get?_encodeDependency (depender dependee : Path) (m : FieldConditionsMap) (k : Path) :
    (encodeDependency depender dependee m).get? k =
      ((m.get? k).or (if k = depender then some [] else none)).map fun cs =>
        if isSubfield k depender then cs ++ [enabledCondition dependee] else cs := by
  rw [encodeDependency]
  split
  · rename_i hd
    rw [FieldConditionsMap.get?_mapConditions]
    congr 1
    by_cases hk : k = depender
    · subst hk
      obtain ⟨cs, hcs⟩ := Option.isSome_iff_exists.mp ((FieldConditionsMap.mem_keys_iff _ _).mp hd)
      simp [hcs]
    · simp [hk]
  · rw [FieldConditionsMap.get?_mapConditions, FieldConditionsMap.get?_insertEmpty]

mutual
/-- `Checker.helper(schema)`: walk an object schema's properties in order. -/
def helper : Schema → FieldConditionsMap → FieldConditionsMap
  | .object path properties, m => helperProperties path properties m
  | _, m => m
  termination_by structural s => s
/-- The loop of `helper` over the properties of the object at `path`. -/
def helperProperties (path : Path) : List (String × Schema) → FieldConditionsMap → FieldConditionsMap
  | [], m => m
  | p :: ps, m => helperProperties path ps (helperProperty path p m)
  termination_by structural ps => ps
/-- One property: encode the object's `enabled` flag, then descend into an object or an array's
item schema. -/
def helperProperty (path : Path) : String × Schema → FieldConditionsMap → FieldConditionsMap
  | (key, value), m =>
    let m := if key = "enabled" then encodeDependency path (path ++ [.key key]) m else m
    match value with
    | .object path' properties => helperProperties path' properties m
    | .array _ item => helper item m
    | .other _ => m
  termination_by structural p => p
end

/-- One key of the loop of `find_nearest_parent` on the state `(length, ret)`: a key longer than
`path` or not a prefix of it is passed over, and one longer than `length` replaces `ret`; `length`
itself is never assigned. -/
def nearestParentStep (path : Path) (s : Nat × Option Path) (p : Path) : Nat × Option Path :=
  if p.length > path.length then s
  else if !p.isPrefixOf path then s
  else if p.length > s.1 then (s.1, some p)
  else s

/-- `Checker.find_nearest_parent(path, keys)`: the loop from `length = 0` and `ret = None`. -/
def findNearestParent (path : Path) (encodedPathList : List Path) : Option Path :=
  (encodedPathList.foldl (nearestParentStep path) (0, none)).2

/-- Since `length` stays `0`, `find_nearest_parent` returns the last non-empty key of the list that is
a prefix of the path, not the longest one. -/
lemma findNearestParent_eq (path : Path) (encodedPathList : List Path) :
    findNearestParent path encodedPathList =
      (encodedPathList.filter fun p => p.isPrefixOf path && 0 < p.length).getLast? := by
  suffices encodedPathList.foldl (nearestParentStep path) (0, none) =
      (0, (encodedPathList.filter fun p => p.isPrefixOf path && 0 < p.length).getLast?) by
    rw [findNearestParent, this]
  induction encodedPathList using List.reverseRecOn with
  | nil => rfl
  | append_singleton ps p ih =>
    rw [List.foldl_concat, ih, List.filter_append, List.getLast?_append]
    by_cases hpre : p.isPrefixOf path
    · have hlen := (List.isPrefixOf_iff_prefix.mp hpre).length_le
      by_cases h0 : 0 < p.length <;> simp [nearestParentStep, hpre, h0, Nat.not_lt.mpr hlen]
    · simp [nearestParentStep, hpre]

/-- `find_nearest_parent` is not the longest prefix key: for `spec.tls.cert` it returns `spec` from
the keys `spec.tls`, `spec` and `spec.tls` from the same keys in the other order, and it never
returns the empty path, which is a prefix of every path. -/
theorem findNearestParent_last_prefix :
    let tls : Path := [.key "spec", .key "tls"]
    findNearestParent (tls ++ [.key "cert"]) [tls, [.key "spec"]] = some [.key "spec"] ∧
      findNearestParent (tls ++ [.key "cert"]) [[.key "spec"], tls] = some tls ∧
      findNearestParent (tls ++ [.key "cert"]) [[]] = none :=
  ⟨rfl, rfl, rfl⟩

/-- The analysis result of the context: the seed dependency map and the control-flow gates. -/
structure AnalysisResult where
  fieldConditionsMap : FieldConditionsMap
  controlFlowFields : List Path

/-- The checker's context: `enable_analysis` and `analysis_result` (absent when `none`). -/
structure Context where
  enableAnalysis : Bool
  analysisResult : Option AnalysisResult

/-- The map `__init__` starts from: the context's seed map when analysis is enabled (`KeyError`
when the context has none), `{}` otherwise. -/
def Context.seedMap (c : Context) : Except PyExc FieldConditionsMap :=
  if c.enableAnalysis then
    match c.analysisResult with
    | some r => .ok r.fieldConditionsMap
    | none => .error .keyError
  else .ok .empty

/-- The state of a `Checker`: its context, its input model and its dependency map. -/
structure Checker where
  context : Context
  inputModel : InputModel
  fieldConditionsMap : FieldConditionsMap

/-- `Checker.__init__(context, trial_dir, input_model)`. -/
def Checker.init (context : Context) (inputModel : InputModel) : Except PyExc Checker :=
  context.seedMap.map fun seed => ⟨context, inputModel, helper inputModel.rootSchema seed⟩

/-- The index a fresh checker builds misses gates in two ways: `helper` returns at once on the item
schema of an array whose items are arrays, so the gated object `spec.matrix[][]` gets no key; and
`spec.tls.enabled` is encoded before the key `spec.tls.client` exists, so that key carries only its
own gate and not the one of `spec.tls` above it. -/
theorem Checker.init_missed_gates :
    let spec : Path := [.key "spec"]
    let tls : Path := spec ++ [.key "tls"]
    let client : Path := tls ++ [.key "client"]
    let matrix : Path := spec ++ [.key "matrix"]
    let cell : Path := matrix ++ [.key "ITEM", .key "ITEM"]
    let schema : Schema := .object spec
      [("tls", .object tls [("enabled", .other (tls ++ [.key "enabled"])),
        ("client", .object client [("enabled", .other (client ++ [.key "enabled"]))])]),
       ("matrix", .array matrix (.array (matrix ++ [.key "ITEM"])
        (.object cell [("enabled", .other (cell ++ [.key "enabled"]))])))]
    (Checker.init ⟨false, none⟩ ⟨schema, fun _ => none⟩).map (·.fieldConditionsMap.entries) =
      .ok [(tls, [enabledCondition (tls ++ [.key "enabled"])]),
        (client, [enabledCondition (client ++ [.key "enabled"])])] :=
  rfl

end Acto
