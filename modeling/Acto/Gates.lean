import Acto.Dependency

/-!
# The gates of the dependency index

What `Checker.helper` builds, stated over the whole schema tree. The walk of `helper` encodes one
gate for every object with an `enabled` property that it reaches, in the order it reaches them:
`gatedPaths` lists those objects' paths, and `helper_eq_foldl` shows that `helper` is the left fold of
`encodeGate` (one `encode_dependency(path, path + ['enabled'])`) over that list. Every invariant of
the index is then a step lemma about `encodeGate` and a run lemma over the list.

The walk reaches an object through objects and through arrays whose items are objects; it stops at
an array whose items are arrays, since `helper` returns at once on a schema that is not an object.
The results: the keys are the seeded keys and the reached gates (`helper_keys`); beyond its seeded
conditions a key carries only conditions of gates above it (`helper_conditions`); and a seeded key
gets exactly its seeded conditions followed by those of all the gates above it
(`helper_seeded_conditions`), while a key created after a gate above it was encoded misses that
gate.
-/

namespace Acto

mutual
/-- The paths of the objects with an `enabled` property that `helper` reaches, in the order it
encodes them. -/
def gatedPaths : Schema → List Path
  | .object path properties => gatedPathsProperties path properties
  | _ => []
  termination_by structural s => s
/-- `gatedPaths` over the properties of the object at `path`. -/
def gatedPathsProperties (path : Path) : List (String × Schema) → List Path
  | [] => []
  | p :: ps => gatedPathsProperty path p ++ gatedPathsProperties path ps
  termination_by structural ps => ps
/-- `gatedPaths` of one property: the object itself for `enabled`, then what lies below. -/
def gatedPathsProperty (path : Path) : String × Schema → List Path
  | (key, value) =>
    (if key = "enabled" then [path] else []) ++
      match value with
      | .object path' properties => gatedPathsProperties path' properties
      | .array _ item => gatedPaths item
      | .other _ => []
  termination_by structural p => p
end

/-- The encoding of the gate of the object at `path`: `encode_dependency(path, path + ['enabled'])`. -/
def encodeGate (m : FieldConditionsMap) (path : Path) : FieldConditionsMap :=
  encodeDependency path (path ++ [.key "enabled"]) m

/-- The condition the gate of the object at `path` puts on the paths below it. -/
def gateCondition (path : Path) : Condition := enabledCondition (path ++ [.key "enabled"])

/-- The encoding `helper` does at one property, as a run of gates. -/
lemma foldl_encodeGate_enabled (path : Path) (key : String) (m : FieldConditionsMap) :
    (if key = "enabled" then [path] else []).foldl encodeGate m =
      if key = "enabled" then encodeDependency path (path ++ [.key key]) m else m := by
  split <;> simp_all [encodeGate]

mutual
/-- `helper` is the fold of `encodeGate` over the gates it reaches. -/
theorem helper_eq_foldl : ∀ (s : Schema) (m : FieldConditionsMap),
    helper s m = (gatedPaths s).foldl encodeGate m
  | .object path properties, m => by
    have ih := helperProperties_eq_foldl path properties
    rw [helper, gatedPaths, ih]
  | .array _ _, _ => rfl
  | .other _, _ => rfl
  termination_by structural s => s
/-- `helper_eq_foldl` over the properties of an object. -/
theorem helperProperties_eq_foldl (path : Path) :
    ∀ (ps : List (String × Schema)) (m : FieldConditionsMap),
      helperProperties path ps m = (gatedPathsProperties path ps).foldl encodeGate m
  | [], _ => rfl
  | p :: ps, m => by
    have ih₁ := helperProperty_eq_foldl path p
    have ih₂ := helperProperties_eq_foldl path ps
    rw [helperProperties, gatedPathsProperties, List.foldl_append, ih₁, ih₂]
  termination_by structural ps => ps
/-- `helper_eq_foldl` for one property. -/
theorem helperProperty_eq_foldl (path : Path) : ∀ (p : String × Schema) (m : FieldConditionsMap),
    helperProperty path p m = (gatedPathsProperty path p).foldl encodeGate m
  | (key, .object path' properties), m => by
    have ih := helperProperties_eq_foldl path' properties
    simp only [helperProperty, gatedPathsProperty, List.foldl_append, ih, foldl_encodeGate_enabled]
  | (key, .array _ item), m => by
    have ih := helper_eq_foldl item
    simp only [helperProperty, gatedPathsProperty, List.foldl_append, ih, foldl_encodeGate_enabled]
  | (key, .other _), m => by
    simp only [helperProperty, gatedPathsProperty, List.foldl_append, foldl_encodeGate_enabled,
      List.foldl_nil]
  termination_by structural p => p
end

/-! ## One gate -/

section
variable (m : FieldConditionsMap) (gate k : Path)

/-- Encoding a gate adds its path to the keys. -/
lemma mem_keys_encodeGate : k ∈ (encodeGate m gate).keys ↔ k ∈ m.keys ∨ k = gate := by
  simp only [FieldConditionsMap.mem_keys_iff, encodeGate, get?_encodeDependency, Option.isSome_map]
  rcases m.get? k with _ | cs <;> by_cases hg : k = gate <;> simp [hg]

/-- Encoding a gate appends its condition to the keys below it, itself included. -/
lemma getD_encodeGate : ((encodeGate m gate).get? k).getD [] = (m.get? k).getD [] ++
    if gate.isPrefixOf k && ((m.get? k).isSome || k = gate) then [gateCondition gate] else [] := by
  rw [encodeGate, get?_encodeDependency]
  rcases hk : m.get? k with _ | cs
  · by_cases hg : k = gate
    · subst hg; simp [isSubfield, gateCondition, List.isPrefixOf_iff_prefix]
    · simp [hg]
  · by_cases hs : isSubfield k gate <;> simp_all [isSubfield, gateCondition]

end

/-! ## A run of gates -/

section
variable (k : Path)

/-- The keys after a run are the keys before it and the gates it encodes. -/
lemma mem_keys_foldl_encodeGate : ∀ (gates : List Path) (m : FieldConditionsMap),
    k ∈ (gates.foldl encodeGate m).keys ↔ k ∈ m.keys ∨ k ∈ gates
  | [], _ => by simp
  | g :: gs, m => by
    rw [List.foldl_cons, mem_keys_foldl_encodeGate gs, mem_keys_encodeGate, List.mem_cons, or_assoc]

/-- A run only appends, and only conditions of encoded gates above the key. -/
lemma getD_foldl_encodeGate : ∀ (gates : List Path) (m : FieldConditionsMap),
    ∃ extra, ((gates.foldl encodeGate m).get? k).getD [] = (m.get? k).getD [] ++ extra ∧
      ∀ c ∈ extra, ∃ gate ∈ gates, gate.isPrefixOf k ∧ c = gateCondition gate
  | [], _ => ⟨[], by simp, by simp⟩
  | g :: gs, m => by
    obtain ⟨extra, h, hextra⟩ := getD_foldl_encodeGate gs (encodeGate m g)
    refine ⟨(if g.isPrefixOf k && ((m.get? k).isSome || k = g) then [gateCondition g] else []) ++
      extra, by rw [List.foldl_cons, h, getD_encodeGate, List.append_assoc], fun c hc => ?_⟩
    rcases List.mem_append.mp hc with hc | hc
    · split at hc
      · rename_i hg
        exact ⟨g, List.mem_cons_self g gs, (Bool.and_eq_true _ _ ▸ hg).1, List.mem_singleton.mp hc⟩
      · cases hc
    · obtain ⟨gate, hgate, hp, rfl⟩ := hextra c hc
      exact ⟨gate, List.mem_cons_of_mem g hgate, hp, rfl⟩

/-- A key present before a run gets exactly the conditions of the gates of the run above it, in
order. -/
lemma getD_foldl_encodeGate_of_mem : ∀ (gates : List Path) (m : FieldConditionsMap), k ∈ m.keys →
    ((gates.foldl encodeGate m).get? k).getD [] =
      (m.get? k).getD [] ++ (gates.filter (·.isPrefixOf k)).map gateCondition
  | [], _, _ => by simp
  | g :: gs, m, hk => by
    rw [List.foldl_cons,
      getD_foldl_encodeGate_of_mem gs _ ((mem_keys_encodeGate m g k).mpr (.inl hk)),
      getD_encodeGate, (FieldConditionsMap.mem_keys_iff m k).mp hk, List.filter_cons]
    by_cases hp : g.isPrefixOf k <;> simp [hp]

end

/-! ## The index `helper` builds -/

section
variable (s : Schema) (m : FieldConditionsMap) (k : Path)

/-- The keys after construction are the seeded keys and the gated objects the walk reaches. -/
theorem helper_keys : k ∈ (helper s m).keys ↔ k ∈ m.keys ∨ k ∈ gatedPaths s := by
  rw [helper_eq_foldl, mem_keys_foldl_encodeGate]

/-- Beyond its seeded conditions a key carries only the conditions of reached gates above it. -/
theorem helper_conditions :
    ∃ extra, ((helper s m).get? k).getD [] = (m.get? k).getD [] ++ extra ∧
      ∀ c ∈ extra, ∃ gate ∈ gatedPaths s, gate.isPrefixOf k ∧ c = gateCondition gate := by
  rw [helper_eq_foldl]
  exact getD_foldl_encodeGate k _ m

/-- A seeded key ends with its seeded conditions followed by the condition of every reached gate
above it, in the order of the walk. -/
theorem helper_seeded_conditions (hk : k ∈ m.keys) :
    ((helper s m).get? k).getD [] =
      (m.get? k).getD [] ++ ((gatedPaths s).filter (·.isPrefixOf k)).map gateCondition := by
  rw [helper_eq_foldl]
  exact getD_foldl_encodeGate_of_mem k _ m hk

/-- `helper_seeded_conditions` on a seed map that holds `spec.replicas` below the gate `spec`. -/
theorem helper_seeded_conditions_replicas :
    let spec : Path := [.key "spec"]
    let replicas : Path := spec ++ [.key "replicas"]
    let s : Schema := .object spec [("enabled", .other (spec ++ [.key "enabled"])),
      ("replicas", .other replicas)]
    let m : FieldConditionsMap := ⟨[(replicas, [])], by decide⟩
    replicas ∈ m.keys ∧ ((helper s m).get? replicas).getD [] =
      (m.get? replicas).getD [] ++ ((gatedPaths s).filter (·.isPrefixOf replicas)).map gateCondition :=
  have hk : [PathAtom.key "spec", .key "replicas"] ∈
      (⟨[([.key "spec", .key "replicas"], [])], by decide⟩ : FieldConditionsMap).keys := by decide
  ⟨hk, helper_seeded_conditions _ _ _ hk⟩

end

end Acto
