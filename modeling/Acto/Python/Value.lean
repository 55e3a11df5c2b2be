import Mathlib.Data.List.Basic

/-!
# Python values

The documents `checker.py` reads (the custom-resource input, the cluster state, condition values)
are JSON/YAML values, and the oracle touches them only through a handful of Python operations:
`==` and the other comparators of `translate_op`, `operator.getitem` (folded along a path by
`reduce` in `Checker.check_condition`) and `str.find`. This file models the values and those
operations with Python's semantics, including the exceptions they raise: a comparison raises
nothing but `TypeError` (`Op.apply_error`).

Paths are lists of atoms, each a string key or a non-negative index. Numbers are integers; `bool` is
a subtype of `int` in Python, so `True == 1` and `False < 1` hold here as well (`Value.asInt?`).
Mapping keys are strings, as in a JSON object. Floats, and the non-string keys a YAML mapping may
have, are not modelled: every result is about documents without them.
-/

namespace Acto

/-- A path atom: a mapping key or a sequence index. -/
inductive PathAtom where
  | key (s : String)
  | index (i : Nat)
  deriving DecidableEq, Repr

/-- A field path, outermost atom first. -/
abbrev Path := List PathAtom

/-- Python's `str` of a path atom. -/
def PathAtom.str : PathAtom → String
  | .key s => s
  | .index i => toString i

/-- The exceptions the modelled code can raise. -/
inductive PyExc where
  | keyError
  | typeError
  | indexError
  deriving DecidableEq, Repr

/-- A JSON/YAML document value. -/
inductive Value where
  | none
  | bool (b : Bool)
  | int (i : Int)
  | str (s : String)
  | list (vs : List Value)
  | dict (kvs : List (String × Value))
  deriving Repr

/-- Python's `<` on strings: lexicographic by code point, a proper prefix first. -/
def strLt : List Char → List Char → Bool
  | [], [] => false
  | [], _ :: _ => true
  | _ :: _, [] => false
  | a :: as, b :: bs => if a = b then strLt as bs else decide (a.toNat < b.toNat)

namespace Value

/-- The integer a value stands for in arithmetic comparisons (`bool` is a subclass of `int`). -/
def asInt? : Value → Option Int
  | .bool b => some (if b then 1 else 0)
  | .int i => some i
  | _ => Option.none

mutual
/-- Python's `==` on documents. -/
def pyEq : Value → Value → Bool
  | .none, .none => true
  | .str a, .str b => a == b
  | .list as, .list bs => listEq as bs
  | .dict as, .dict bs => as.length == bs.length && dictEq as bs
  | a, b => match a.asInt?, b.asInt? with
    | some x, some y => x == y
    | _, _ => false
  termination_by structural a => a
/-- `pyEq` on the items of two lists, position by position. -/
def listEq : List Value → List Value → Bool
  | [], [] => true
  | a :: as, b :: bs => pyEq a b && listEq as bs
  | _, _ => false
  termination_by structural as => as
/-- Every entry of the first mapping is found, with an equal value, in the second. -/
def dictEq : List (String × Value) → List (String × Value) → Bool
  | [], _ => true
  | kv :: as, bs => entryEq kv bs && dictEq as bs
  termination_by structural as => as
/-- One entry of `dictEq`. -/
def entryEq : String × Value → List (String × Value) → Bool
  | (k, v), bs => match bs.lookup k with
    | some w => pyEq v w
    | Option.none => false
  termination_by structural kv => kv
end

/-- Only `None` is equal to `None`. -/
@[simp] lemma pyEq_none_iff (v : Value) : v.pyEq .none = true ↔ v = .none := by
  cases v <;> simp [pyEq, asInt?]

/-- Only the string `'true'` is equal to `'true'`. -/
@[simp] lemma pyEq_str_iff (v : Value) (s : String) : v.pyEq (.str s) = true ↔ v = .str s := by
  cases v <;> simp [pyEq, asInt?]

mutual
/-- Python's `<`: numbers and strings compare as such, lists lexicographically by the first pair of
unequal items; any other pair raises `TypeError`. -/
def pyLt : Value → Value → Except PyExc Bool
  | .str a, .str b => pure (strLt a.toList b.toList)
  | .list as, .list bs => listLt as bs
  | a, b => match a.asInt?, b.asInt? with
    | some x, some y => pure (decide (x < y))
    | _, _ => throw .typeError
  termination_by structural a => a
/-- `pyLt` on lists. -/
def listLt : List Value → List Value → Except PyExc Bool
  | [], [] => pure false
  | [], _ :: _ => pure true
  | _ :: _, [] => pure false
  | a :: as, b :: bs => if pyEq a b then listLt as bs else pyLt a b
  termination_by structural as => as
end

mutual
/-- Python's `<=`, with the same cases as `pyLt`. -/
def pyLe : Value → Value → Except PyExc Bool
  | .str a, .str b => pure (!strLt b.toList a.toList)
  | .list as, .list bs => listLe as bs
  | a, b => match a.asInt?, b.asInt? with
    | some x, some y => pure (decide (x ≤ y))
    | _, _ => throw .typeError
  termination_by structural a => a
/-- `pyLe` on lists. -/
def listLe : List Value → List Value → Except PyExc Bool
  | [], _ => pure true
  | _ :: _, [] => pure false
  | a :: as, b :: bs => if pyEq a b then listLe as bs else pyLe a b
  termination_by structural as => as
end

/-- `<` on a pair that is not two lists raises nothing but `TypeError`. -/
lemma pyLt_error_of_not_list {a b : Value} (hab : ∀ as bs, a = .list as → b = .list bs → False)
    {e : PyExc} (h : a.pyLt b = .error e) : e = .typeError := by
  unfold pyLt at h
  split at h
  · cases h
  · exact (hab _ _ rfl rfl).elim
  · split at h <;> cases h; rfl

/-- `<=` on a pair that is not two lists raises nothing but `TypeError`. -/
lemma pyLe_error_of_not_list {a b : Value} (hab : ∀ as bs, a = .list as → b = .list bs → False)
    {e : PyExc} (h : a.pyLe b = .error e) : e = .typeError := by
  unfold pyLe at h
  split at h
  · cases h
  · exact (hab _ _ rfl rfl).elim
  · split at h <;> cases h; rfl

mutual
/-- `<` raises nothing but `TypeError`. -/
theorem pyLt_error : ∀ (a b : Value) {e : PyExc}, a.pyLt b = .error e → e = .typeError
  | .none, _, _, h | .bool _, _, _, h | .int _, _, _, h | .str _, _, _, h | .dict _, _, _, h =>
    pyLt_error_of_not_list (fun _ _ ha _ => by cases ha) h
  | .list as, b, _, h => by
    cases b
    case list bs => exact listLt_error as bs (by rwa [pyLt] at h)
    all_goals exact pyLt_error_of_not_list (fun _ _ _ hb => by cases hb) h
  termination_by structural a => a
/-- `listLt_error` on lists. -/
theorem listLt_error : ∀ (as bs : List Value) {e : PyExc}, listLt as bs = .error e → e = .typeError
  | [], [], _, h | [], _ :: _, _, h | _ :: _, [], _, h => by cases h
  | a :: as, b :: bs, _, h => by
    have ih₁ := @pyLt_error a b
    have ih₂ := @listLt_error as bs
    rw [listLt] at h
    split at h
    exacts [ih₂ h, ih₁ h]
  termination_by structural as => as
end

mutual
/-- `<=` raises nothing but `TypeError`. -/
theorem pyLe_error : ∀ (a b : Value) {e : PyExc}, a.pyLe b = .error e → e = .typeError
  | .none, _, _, h | .bool _, _, _, h | .int _, _, _, h | .str _, _, _, h | .dict _, _, _, h =>
    pyLe_error_of_not_list (fun _ _ ha _ => by cases ha) h
  | .list as, b, _, h => by
    cases b
    case list bs => exact listLe_error as bs (by rwa [pyLe] at h)
    all_goals exact pyLe_error_of_not_list (fun _ _ _ hb => by cases hb) h
  termination_by structural a => a
/-- `pyLe_error` on lists. -/
theorem listLe_error : ∀ (as bs : List Value) {e : PyExc}, listLe as bs = .error e → e = .typeError
  | [], _, _, h | _ :: _, [], _, h => by cases h
  | a :: as, b :: bs, _, h => by
    have ih₁ := @pyLe_error a b
    have ih₂ := @listLe_error as bs
    rw [listLe] at h
    split at h
    exacts [ih₂ h, ih₁ h]
  termination_by structural as => as
end

end Value

/-- Whether the characters `n` occur contiguously in `s`. -/
def isInfixChars (n : List Char) : List Char → Bool
  | [] => n.isEmpty
  | c :: cs => n.isPrefixOf (c :: cs) || isInfixChars n cs

/-- Python's `s.find(sub) != -1`. -/
def strContains (s sub : String) : Bool :=
  isInfixChars sub.toList s.toList

/-- Python's `str.lower` on the ASCII letters. -/
def lower (s : String) : String :=
  ⟨s.toList.map Char.toLower⟩

namespace Value

/-- Python's `item in container`: membership in a list, substring of a string, key of a mapping
(an unhashable item raises); any other container raises `TypeError`. -/
def pyContains : Value → Value → Except PyExc Bool
  | .list vs, v => pure (vs.any v.pyEq)
  | .str s, .str t => pure (strContains s t)
  | .dict _, .list _ => throw .typeError
  | .dict _, .dict _ => throw .typeError
  | .dict kvs, .str k => pure (kvs.any (·.1 == k))
  | .dict _, _ => pure false
  | _, _ => throw .typeError

/-- `in` raises nothing but `TypeError`. -/
lemma pyContains_error {a b : Value} {e : PyExc} (h : a.pyContains b = .error e) :
    e = .typeError := by
  unfold pyContains at h
  split at h <;> cases h <;> rfl

/-- `operator.getitem(container, atom)`: a key of a mapping, an index of a list or of a string. -/
def getItem : Value → PathAtom → Except PyExc Value
  | .dict kvs, .key k => match kvs.lookup k with
    | some v => .ok v
    | Option.none => .error .keyError
  | .dict _, .index _ => .error .keyError
  | .list vs, .index i => match vs.get? i with
    | some v => .ok v
    | Option.none => .error .indexError
  | .str s, .index i => match s.toList.get? i with
    | some c => .ok (.str (String.singleton c))
    | Option.none => .error .indexError
  | _, _ => .error .typeError

/-- `reduce(operator.getitem, path, value)`. -/
def descend (v : Value) (path : Path) : Except PyExc Value :=
  path.foldlM getItem v

@[simp] lemma descend_nil (v : Value) : v.descend [] = .ok v := rfl

lemma descend_cons (v : Value) (a : PathAtom) (p : Path) :
    v.descend (a :: p) = (v.getItem a >>= fun w => w.descend p) := rfl

end Value

/-- A comparison operator of a condition record, as `translate_op` maps its string. -/
inductive Op where
  | eq
  | ne
  | lt
  | le
  | gt
  | ge
  | isIn
  | notIn
  deriving DecidableEq, Repr

/-- The comparator `translate_op(op)` applied to `(a, b)`. -/
def Op.apply : Op → Value → Value → Except PyExc Bool
  | .eq, a, b => pure (a.pyEq b)
  | .ne, a, b => pure (!a.pyEq b)
  | .lt, a, b => a.pyLt b
  | .le, a, b => a.pyLe b
  | .gt, a, b => b.pyLt a
  | .ge, a, b => b.pyLe a
  | .isIn, a, b => b.pyContains a
  | .notIn, a, b => (!·) <$> b.pyContains a

/-- A comparator raises nothing but `TypeError`. -/
lemma Op.apply_error {op : Op} {a b : Value} {e : PyExc} (h : op.apply a b = .error e) :
    e = .typeError := by
  cases op <;> simp only [Op.apply] at h
  case eq | ne => cases h
  case lt => exact Value.pyLt_error a b h
  case le => exact Value.pyLe_error a b h
  case gt => exact Value.pyLt_error b a h
  case ge => exact Value.pyLe_error b a h
  case isIn => exact Value.pyContains_error h
  case notIn =>
    rcases hc : b.pyContains a with e' | _ <;> rw [hc] at h <;> cases h
    exact Value.pyContains_error hc

end Acto
