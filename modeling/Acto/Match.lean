import Acto.Snapshot

/-!
# Longest-suffix matching

Port of `Checker._list_matched_fields` (`checker.py`): the system deltas whose path shares the most
trailing atoms, under `canonicalize`, with an input delta's path. The `while` loop compares the two
paths from their ends and stops at a mismatch or when the shorter path is used up; it is modelled on
the reversed paths (`matchLoop`). The three nested loops over the system delta carry `results` and
`max_match` (`matchUpdate`); `matchStep` adds the `IndexError` an empty delta path raises.

`listMatchedFields_of_ne_nil` states what the loops compute: nothing for a generic field name,
`IndexError` at a delta with an empty path, and otherwise every delta of maximal positive overlap, in
iteration order.
-/

namespace Acto

section
variable (canonicalize : PathAtom → String)

/-- The `while` loop: `position` trailing atoms already agree; stop at a mismatch, or once either
(reversed) path is used up, which is `position == min(len(path), len(delta.path))`. -/
def matchLoop : List PathAtom → List PathAtom → Nat → Nat
  | a :: p, b :: q, position =>
    if canonicalize a = canonicalize b then
      if p = [] ∨ q = [] then position + 1 else matchLoop p q (position + 1)
    else position
  | _, _, position => position

/-- One delta of the nested loops: the new `(results, max_match)`. -/
def matchUpdate (path : Path) (acc : List Diff × Nat) (delta : Diff) : List Diff × Nat :=
  let position := matchLoop canonicalize path.reverse delta.path.reverse 0
  if position = acc.2 ∧ position ≠ 0 then (acc.1 ++ [delta], acc.2)
  else if position > acc.2 then ([delta], position)
  else acc

/-- `matchUpdate`, raising `IndexError` at `delta.path[-1]` for an empty path. -/
def matchStep (path : Path) (acc : List Diff × Nat) (delta : Diff) : Except PyExc (List Diff × Nat) :=
  if delta.path = [] then .error .indexError else .ok (matchUpdate canonicalize path acc delta)

/-- The length of the longest common prefix of two atom lists under `canonicalize`. -/
def commonPrefixLength : List PathAtom → List PathAtom → Nat
  | a :: p, b :: q => if canonicalize a = canonicalize b then commonPrefixLength p q + 1 else 0
  | _, _ => 0

/-- The number of trailing atoms two paths share under `canonicalize`. -/
def suffixOverlap (p q : Path) : Nat :=
  commonPrefixLength canonicalize p.reverse q.reverse

/-- The largest overlap of `path` with the path of a delta of `ds`, `0` for none. -/
def maxSuffixOverlap (path : Path) (ds : List Diff) : Nat :=
  ds.foldl (fun m d => max m (suffixOverlap canonicalize path d.path)) 0

end

/-- `Checker._list_matched_fields(path, delta_dict)`. -/
def listMatchedFields (env : Env) (path : Path) (deltaDict : SystemDelta) :
    Except PyExc (List Diff) :=
  match path.getLast? with
  | none => .error .indexError
  | some last =>
    if env.genericField last.str then .ok []
    else Prod.fst <$> deltaDict.foldlM (fun acc resource =>
      resource.2.foldlM (fun acc kind =>
        kind.2.foldlM (fun acc delta => matchStep env.canonicalize path acc delta.2) acc) acc) ([], 0)

section
variable {canonicalize : PathAtom → String}

/-- The loop counts the common prefix of two non-empty lists. -/
lemma matchLoop_eq : ∀ {p q : List PathAtom} (position : Nat), p ≠ [] → q ≠ [] →
    matchLoop canonicalize p q position = position + commonPrefixLength canonicalize p q
  | [], _, _, hp, _ => absurd rfl hp
  | _ :: _, [], _, _, hq => absurd rfl hq
  | a :: p, b :: q, position, _, _ => by
    unfold matchLoop commonPrefixLength
    by_cases hab : canonicalize a = canonicalize b
    · simp only [hab, if_true]
      rcases p with _ | ⟨a', p⟩
      · simp [commonPrefixLength]
      rcases q with _ | ⟨b', q⟩
      · simp [commonPrefixLength]
      simp [matchLoop_eq (position + 1) (List.cons_ne_nil a' p) (List.cons_ne_nil b' q)]
      omega
    · simp [hab]

/-- On non-empty paths the loop computes the suffix overlap. -/
lemma matchLoop_reverse {p q : Path} (hp : p ≠ []) (hq : q ≠ []) :
    matchLoop canonicalize p.reverse q.reverse 0 = suffixOverlap canonicalize p q := by
  rw [matchLoop_eq 0 (by simpa using hp) (by simpa using hq), Nat.zero_add, suffixOverlap]

lemma maxSuffixOverlap_append (path : Path) (ds : List Diff) (d : Diff) :
    maxSuffixOverlap canonicalize path (ds ++ [d]) =
      max (maxSuffixOverlap canonicalize path ds) (suffixOverlap canonicalize path d.path) := by
  simp [maxSuffixOverlap]

/-- Every delta's overlap is at most the maximum. -/
lemma le_maxSuffixOverlap (path : Path) {ds : List Diff} {d : Diff} (hd : d ∈ ds) :
    suffixOverlap canonicalize path d.path ≤ maxSuffixOverlap canonicalize path ds := by
  induction ds using List.reverseRecOn with
  | nil => cases hd
  | append_singleton ds x ih =>
    rw [maxSuffixOverlap_append]
    rcases List.mem_append.mp hd with h | h
    · have := ih h; omega
    · rw [List.mem_singleton.mp h]; omega

/-- A positive maximum is reached by some delta. -/
lemma exists_eq_maxSuffixOverlap (path : Path) {ds : List Diff}
    (h : maxSuffixOverlap canonicalize path ds ≠ 0) :
    ∃ d ∈ ds, suffixOverlap canonicalize path d.path = maxSuffixOverlap canonicalize path ds := by
  induction ds using List.reverseRecOn with
  | nil => exact absurd rfl h
  | append_singleton ds x ih =>
    rw [maxSuffixOverlap_append] at h ⊢
    by_cases hx : suffixOverlap canonicalize path x.path ≤ maxSuffixOverlap canonicalize path ds
    · obtain ⟨d, hd, he⟩ := ih (by omega)
      exact ⟨d, List.mem_append_left _ hd, by omega⟩
    · exact ⟨x, by simp, by omega⟩

/-- Fewer deltas have a smaller maximum. -/
lemma maxSuffixOverlap_le_of_subset (path : Path) {ds ds' : List Diff} (h : ∀ d ∈ ds, d ∈ ds') :
    maxSuffixOverlap canonicalize path ds ≤ maxSuffixOverlap canonicalize path ds' := by
  by_cases h0 : maxSuffixOverlap canonicalize path ds = 0
  · omega
  · obtain ⟨d, hd, he⟩ := exists_eq_maxSuffixOverlap path h0
    exact he ▸ le_maxSuffixOverlap path (h d hd)

/-- Filtering keeps the maximum when a delta reaching it survives. -/
lemma maxSuffixOverlap_filter (path : Path) {ds : List Diff} {p : Diff → Bool} {d : Diff}
    (hd : d ∈ ds) (hp : p d = true)
    (he : suffixOverlap canonicalize path d.path = maxSuffixOverlap canonicalize path ds) :
    maxSuffixOverlap canonicalize path (ds.filter p) = maxSuffixOverlap canonicalize path ds :=
  Nat.le_antisymm (maxSuffixOverlap_le_of_subset path fun _ hx => (List.mem_filter.mp hx).1)
    (he ▸ le_maxSuffixOverlap path (List.mem_filter.mpr ⟨hd, hp⟩))

/-- The invariant of the nested loops: after a prefix of the deltas, `max_match` is the largest
overlap so far and `results` the deltas reaching it, or nothing while it is `0`. -/
lemma foldl_matchUpdate (path : Path) (hpath : path ≠ []) :
    ∀ ds : List Diff, (∀ d ∈ ds, d.path ≠ []) →
      ds.foldl (matchUpdate canonicalize path) ([], 0) =
        (if maxSuffixOverlap canonicalize path ds = 0 then []
          else ds.filter (suffixOverlap canonicalize path ·.path = maxSuffixOverlap canonicalize path ds),
         maxSuffixOverlap canonicalize path ds) := by
  intro ds
  induction ds using List.reverseRecOn with
  | nil => intro; rfl
  | append_singleton ds x ih =>
    intro hds
    rw [List.foldl_append, ih fun d hd => hds d (List.mem_append_left _ hd),
      maxSuffixOverlap_append]
    have hle : ∀ d ∈ ds, suffixOverlap canonicalize path d.path ≤
        maxSuffixOverlap canonicalize path ds := fun d hd => le_maxSuffixOverlap path hd
    simp only [List.foldl_cons, List.foldl_nil, matchUpdate,
      matchLoop_reverse hpath (hds x (by simp)), List.filter_append, List.filter_singleton]
    generalize maxSuffixOverlap canonicalize path ds = M at hle ⊢
    generalize suffixOverlap canonicalize path x.path = p
    rcases Nat.lt_trichotomy p M with h | rfl | h
    · simp [max_eq_left h.le, h.ne, Nat.not_lt.mpr h.le, show M ≠ 0 by omega]
    · by_cases hp : p = 0 <;> simp [hp]
    · have hnil : ds.filter (suffixOverlap canonicalize path ·.path = p) = [] :=
        List.filter_eq_nil_iff.mpr fun d hd => by have := hle d hd; simp; omega
      simp [max_eq_right h.le, h.ne', h, hnil, show p ≠ 0 by omega]

/-- The loop over the deltas raises `IndexError` at a delta with an empty path, and is otherwise the
`foldl` of `matchUpdate`. -/
lemma foldlM_matchStep (path : Path) : ∀ (ds : List Diff) (acc : List Diff × Nat),
    ds.foldlM (matchStep canonicalize path) acc =
      if ds.any (·.path.isEmpty) then .error .indexError
      else .ok (ds.foldl (matchUpdate canonicalize path) acc)
  | [], _ => rfl
  | d :: ds, acc => by
    by_cases hd : d.path = [] <;> simp [matchStep, hd, foldlM_matchStep path ds, bind, Except.bind]

end

/-- No delta path is empty. -/
lemma any_path_isEmpty_eq_false {ds : List Diff} (h : ∀ d ∈ ds, d.path ≠ []) :
    ds.any (·.path.isEmpty) = false := by
  simpa using h

/-- `foldlM` over a flattened list is the nested `foldlM`. -/
lemma foldlM_flatMap {α β γ : Type} (g : α → List β) (f : γ → β → Except PyExc γ) :
    ∀ (l : List α) (init : γ),
      (l.flatMap g).foldlM f init = l.foldlM (fun acc a => (g a).foldlM f acc) init
  | [], _ => rfl
  | a :: l, init => by
    simp only [List.flatMap_cons, List.foldlM_append, List.foldlM_cons]
    exact congrArg _ (funext fun acc => foldlM_flatMap g f l acc)

/-- A `foldlM` raises only what its steps raise. -/
lemma foldlM_error {α γ : Type} (f : γ → α → Except PyExc γ) (p : PyExc → Prop)
    (hf : ∀ acc a e, f acc a = .error e → p e) :
    ∀ (l : List α) (init : γ) (e : PyExc), l.foldlM f init = .error e → p e
  | [], _, _, h => by cases h
  | a :: l, init, e, h => by
    rw [List.foldlM_cons] at h
    rcases hfa : f init a with e' | acc <;> rw [hfa] at h
    · cases h; exact hf _ _ _ hfa
    · exact foldlM_error f p hf l acc e h

/-- `_list_matched_fields` raises nothing but the `IndexError` of an empty path, its own or a
delta's. -/
lemma listMatchedFields_error {env : Env} {path : Path} {deltaDict : SystemDelta} {e : PyExc}
    (h : listMatchedFields env path deltaDict = .error e) : e = .indexError := by
  have hstep : ∀ acc (d : String × Diff) e,
      matchStep env.canonicalize path acc d.2 = .error e → e = .indexError := by
    intro acc d e h
    unfold matchStep at h
    split at h <;> cases h; rfl
  rw [listMatchedFields] at h
  split at h
  · cases h; rfl
  split at h
  · cases h
  rcases hloop : deltaDict.foldlM (fun acc resource => resource.2.foldlM (fun acc kind =>
      kind.2.foldlM (fun acc delta => matchStep env.canonicalize path acc delta.2) acc) acc)
        ([], 0) with e' | acc <;> rw [hloop] at h <;> cases h
  exact foldlM_error _ _ (fun _ _ _ h => foldlM_error _ _
    (fun _ _ _ h => foldlM_error _ _ hstep _ _ _ h) _ _ _ h) _ _ _ hloop

/-- What `_list_matched_fields` computes on a non-empty path: unless the last atom is a generic field
name, `IndexError` when some delta has an empty path; otherwise nothing for a generic name, nothing
when no delta shares a trailing atom, and else every delta of maximal overlap, in iteration order. -/
lemma listMatchedFields_of_ne_nil (env : Env) (path : Path) (deltaDict : SystemDelta)
    (hpath : path ≠ []) :
    listMatchedFields env path deltaDict =
      if !env.genericField (path.getLast hpath).str && deltaDict.deltas.any (·.path.isEmpty) then
        .error .indexError
      else .ok (if env.genericField (path.getLast hpath).str then []
        else if maxSuffixOverlap env.canonicalize path deltaDict.deltas = 0 then []
        else deltaDict.deltas.filter fun d =>
          suffixOverlap env.canonicalize path d.path =
            maxSuffixOverlap env.canonicalize path deltaDict.deltas) := by
  have hflat : deltaDict.foldlM (fun acc resource => resource.2.foldlM (fun acc kind =>
      kind.2.foldlM (fun acc delta => matchStep env.canonicalize path acc delta.2) acc) acc)
        ([], 0) = deltaDict.deltas.foldlM (matchStep env.canonicalize path) ([], 0) := by
    simp only [SystemDelta.deltas, DeltaSet.deltas, foldlM_flatMap, List.foldlM_map]
  rw [listMatchedFields, List.getLast?_eq_getLast path hpath, hflat, foldlM_matchStep]
  dsimp only
  cases hg : env.genericField (path.getLast hpath).str
  · cases hany : deltaDict.deltas.any (·.path.isEmpty)
    · rw [foldl_matchUpdate path hpath _ (by simpa using hany)]
      rfl
    · rfl
  · rfl

/-- `_list_matched_fields` on a non-empty path and deltas with non-empty paths: nothing when the
last atom is a generic field name; otherwise nothing when no delta shares a trailing atom, and else
every delta of maximal overlap, once each and in iteration order. -/
theorem listMatchedFields_eq (env : Env) (path : Path) (deltaDict : SystemDelta)
    (hpath : path ≠ []) (hdeltas : ∀ d ∈ deltaDict.deltas, d.path ≠ []) :
    listMatchedFields env path deltaDict =
      .ok (if env.genericField (path.getLast hpath).str then []
        else if maxSuffixOverlap env.canonicalize path deltaDict.deltas = 0 then []
        else deltaDict.deltas.filter fun d =>
          suffixOverlap env.canonicalize path d.path =
            maxSuffixOverlap env.canonicalize path deltaDict.deltas) := by
  rw [listMatchedFields_of_ne_nil env path deltaDict hpath, any_path_isEmpty_eq_false hdeltas,
    Bool.and_false, if_neg Bool.false_ne_true]

/-- `listMatchedFields_eq` on `spec.replicas` against one stateful-set delta and one unrelated
delta: the replicas delta is the only longest match. -/
theorem listMatchedFields_eq_replicas :
    let replicas : Diff := ⟨[.key "db", .key "spec", .key "replicas"], .present (.int 3),
      .present (.int 5)⟩
    let version : Diff := ⟨[.key "db", .key "status", .key "version"], .present (.str "1"),
      .present (.str "2")⟩
    let deltaDict : SystemDelta :=
      [("stateful_set", [("values_changed", [("r", replicas), ("v", version)])])]
    [PathAtom.key "spec", .key "replicas"] ≠ [] ∧ (∀ d ∈ deltaDict.deltas, d.path ≠ []) ∧
      listMatchedFields Env.reference [.key "spec", .key "replicas"] deltaDict = .ok [replicas] :=
  have hpath : [PathAtom.key "spec", .key "replicas"] ≠ [] := by decide
  have hdeltas : ∀ d ∈ SystemDelta.deltas [("stateful_set", [("values_changed",
      [("r", ⟨[.key "db", .key "spec", .key "replicas"], .present (.int 3), .present (.int 5)⟩),
       ("v", ⟨[.key "db", .key "status", .key "version"], .present (.str "1"),
          .present (.str "2")⟩)])])], d.path ≠ [] := by decide
  ⟨hpath, hdeltas, (listMatchedFields_eq _ _ _ hpath hdeltas).trans rfl⟩

end Acto
