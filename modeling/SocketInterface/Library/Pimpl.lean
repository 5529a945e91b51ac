import SocketInterface.Library.Heap

/-!
# Values behind a unique pointer

A class whose only member is a unique pointer to an implementation on the heap, copied
by copy-and-swap. Programs over its variables do what programs over plain values do.
-/

open scoped Pointwise
open Heap

abbrev Ptr := Option Loc

def deref {O : Type} : Ptr → Program O Loc
  | some l => pure l
  | none => .halt .undefined

structure Pimpl (O : Type) where
  copy : Loc → Program O Loc
  dispose : Loc → Program O Unit

/-- The variables that exist, by number. A variable outside its lifetime is `none`. -/
abbrev Vars := List (Option Ptr)

/-- What is done to variables of one class. A new variable has the next number. -/
inductive VarOp where
  | copyConstruct (rhs : Nat)
  | moveConstruct (rhs : Nat)
  | copyAssign (this rhs : Nat)
  | moveAssign (this rhs : Nat)
  | swap (lhs rhs : Nat)
  | destroy (this : Nat)

def readVar {O : Type} (vs : Vars) (i : Nat) : Program O Ptr :=
  match vs[i]? with
  | some (some p) => pure p
  | _ => .halt .undefined

namespace Pimpl

/-- The new pointer, and what is left of `rhs`. -/
def moveConstruct (rhs : Ptr) : Ptr × Ptr := (rhs, none)

def swap (lhs rhs : Ptr) : Ptr × Ptr := (rhs, lhs)

section Class

variable {O : Type} (c : Pimpl O)

def destroy : Ptr → Program O Unit
  | some l => c.dispose l
  | none => pure ()

def copyConstruct (rhs : Ptr) : Program O Ptr := do
  let l ← deref rhs
  let l' ← c.copy l
  return some l'

def copyAssign (this rhs : Ptr) : Program O Ptr := do
  let temp ← c.copyConstruct rhs
  let (this, temp) := swap this temp
  c.destroy temp
  return this

/-- `reset(rhs.release())` -/
def moveAssign (this rhs : Ptr) : Program O (Ptr × Ptr) := do
  let (new, rhs) := moveConstruct rhs
  c.destroy this
  return (new, rhs)

def run : VarOp → Vars → Program O Vars
  | .copyConstruct j, vs => do
    let rhs ← readVar vs j
    let new ← c.copyConstruct rhs
    return vs ++ [some new]
  | .moveConstruct j, vs => do
    let rhs ← readVar vs j
    let (new, rhs) := moveConstruct rhs
    return vs.set j (some rhs) ++ [some new]
  | .copyAssign i j, vs => do
    let this ← readVar vs i
    let rhs ← readVar vs j
    let this ← c.copyAssign this rhs
    return vs.set i (some this)
  | .moveAssign i j, vs =>
    if i = j then .halt .aborted else do
      let this ← readVar vs i
      let rhs ← readVar vs j
      let (this, rhs) ← c.moveAssign this rhs
      return (vs.set i (some this)).set j (some rhs)
  | .swap i j, vs => do
    let lhs ← readVar vs i
    let rhs ← readVar vs j
    let (lhs, rhs) := swap lhs rhs
    return (vs.set i (some lhs)).set j (some rhs)
  | .destroy i, vs => do
    let this ← readVar vs i
    c.destroy this
    return vs.set i none

end Class

end Pimpl

/-! ## Plain values -/

section Values

variable {V : Type}

/-- Variables that hold values: `none` outside the lifetime, `some none` once moved from. -/
abbrev Values (V : Type) : Type := List (Option (Option V))

def Values.alive (rs : Values V) (i : Nat) : Option (Option V) := rs[i]?.join

def Values.live (rs : Values V) (i : Nat) : Option V := (rs.alive i).join

/-- `none` when a variable outside its lifetime is used, or one that was moved from is read. -/
def VarOp.apply : VarOp → Values V → Option (Values V)
  | .copyConstruct j, rs => do
    let v ← rs.live j
    return rs ++ [some (some v)]
  | .moveConstruct j, rs => do
    let v ← rs.live j
    return rs.set j (some none) ++ [some (some v)]
  | .copyAssign i j, rs => do
    let _ ← rs.alive i
    let v ← rs.live j
    return rs.set i (some (some v))
  | .moveAssign i j, rs =>
    if i = j then none else do
      let _ ← rs.alive i
      let v ← rs.live j
      return (rs.set i (some (some v))).set j (some none)
  | .swap i j, rs => do
    let u ← rs.alive i
    let v ← rs.alive j
    return (rs.set i (some v)).set j (some u)
  | .destroy i, rs => do
    let _ ← rs.alive i
    return rs.set i none

def Values.lives (rs : Values V) : Nat := rs.countP fun r => r.join.isSome

theorem Values.alive_eq {rs : Values V} {i : Nat} {u : Option V} :
    rs.alive i = some u ↔ rs[i]? = some (some u) := Option.join_eq_some_iff

theorem Values.live_eq {rs : Values V} {i : Nat} {v : V} :
    rs.live i = some v ↔ rs[i]? = some (some (some v)) := by
  rw [Values.live, Option.join_eq_some_iff, Values.alive_eq]

end Values

namespace Pimpl

/-! ## The cells behind the variables -/

section Held

variable {O V : Type} (rep : V → Loc → Assertion O)

/-- The cells of a variable that was moved from, or of one that holds a value. -/
def held : Option V → Ptr → Assertion O
  | some v, some l => rep v l
  | none, none => 0
  | _, _ => ∅

def slotHeld : Option (Option V) → Option Ptr → Assertion O
  | some u, some p => held rep u p
  | none, none => 0
  | _, _ => ∅

def allHeld : Values V → Vars → Assertion O
  | r :: rs, x :: vs => slotHeld rep r x + allHeld rs vs
  | [], [] => 0
  | _, _ => ∅

variable {rep} {rs : Values V} {vs : Vars} {i j : Nat} {r : Option (Option V)} {x : Option Ptr}

@[simp] theorem slotHeld_some {u : Option V} {p : Ptr} :
    slotHeld rep (some u) (some p) = held rep u p := rfl

theorem slotHeld_none : slotHeld rep none none = 0 := rfl

theorem mem_slotHeld {v : V} {c : Multiset (Loc × O)} (h : c ∈ slotHeld rep (some (some v)) x) :
    ∃ l, x = some (some l) ∧ c ∈ rep v l := by
  rcases x with _ | _ | l
  · exact absurd h (Set.notMem_empty _)
  · exact absurd h (Set.notMem_empty _)
  · exact ⟨l, rfl, h⟩

theorem mem_slotHeld_at {l : Loc} {c : Multiset (Loc × O)}
    (h : c ∈ slotHeld rep r (some (some l))) : ∃ v, c ∈ rep v l := by
  rcases r with _ | _ | v
  · exact absurd h (Set.notMem_empty _)
  · exact absurd h (Set.notMem_empty _)
  · exact ⟨v, h⟩

theorem allHeld_ne (h : rs.length ≠ vs.length) : allHeld rep rs vs = ∅ := by
  induction rs generalizing vs with
  | nil =>
    cases vs with
    | nil => exact absurd rfl h
    | cons => rfl
  | cons r rs ih =>
    cases vs with
    | nil => rfl
    | cons x vs => rw [allHeld, ih (fun he => h (congrArg Nat.succ he)), Set.add_empty]

theorem allHeld_split (rs : Values V) (vs : Vars) (i : Nat) : allHeld rep rs vs =
    slotHeld rep (rs.getD i none) (vs.getD i none) +
      allHeld rep (rs.set i none) (vs.set i none) := by
  induction rs generalizing vs i with
  | nil =>
    cases vs with
    | nil => exact (zero_add _).symm
    | cons x vs => rw [allHeld_ne (by simp), allHeld_ne (by simp), Set.add_empty]
  | cons r rs ih =>
    cases vs with
    | nil => rw [allHeld_ne (by simp), allHeld_ne (by simp), Set.add_empty]
    | cons x vs =>
      cases i with
      | zero =>
        rw [List.set_cons_zero, List.set_cons_zero, allHeld, allHeld, slotHeld_none, zero_add]
        rfl
      | succ i =>
        rw [List.set_cons_succ, List.set_cons_succ, allHeld, allHeld, ih vs i, add_left_comm]
        rfl

theorem allHeld_take (hr : rs[i]? = some r) (hx : vs[i]? = some x) :
    allHeld rep rs vs = slotHeld rep r x + allHeld rep (rs.set i none) (vs.set i none) := by
  rw [allHeld_split rs vs i, List.getD_eq_getElem?_getD, List.getD_eq_getElem?_getD, hr, hx,
    Option.getD_some, Option.getD_some]

theorem allHeld_append : slotHeld rep r x + allHeld rep rs vs ⊆
    allHeld rep (rs ++ [r]) (vs ++ [x]) := by
  induction rs generalizing vs with
  | nil =>
    cases vs with
    | nil => exact Set.Subset.refl _
    | cons => rw [allHeld_ne (by simp), Set.add_empty]; exact Set.empty_subset _
  | cons r0 rs ih =>
    cases vs with
    | nil => rw [allHeld_ne (by simp), Set.add_empty]; exact Set.empty_subset _
    | cons x0 vs =>
      rw [allHeld, add_left_comm]
      exact Set.add_subset_add_left ih

theorem allHeld_put (hr : rs[i]? = some r) (hx : vs[i]? = some x) (u : Option V) (p : Ptr) :
    held rep u p + allHeld rep (rs.set i none) (vs.set i none) =
      allHeld rep (rs.set i (some u)) (vs.set i (some p)) := by
  obtain ⟨hi, -⟩ := List.getElem?_eq_some_iff.mp hr
  obtain ⟨hi', -⟩ := List.getElem?_eq_some_iff.mp hx
  have h : allHeld rep (rs.set i (some u)) (vs.set i (some p)) = _ :=
    allHeld_take (List.getElem?_set_self hi) (List.getElem?_set_self hi')
  rw [h, List.set_set, List.set_set, slotHeld_some]

theorem allHeld_put_two (hij : i ≠ j) {r' : Option (Option V)} {x' : Option Ptr}
    (hi : rs[i]? = some r) (hj : rs[j]? = some r') (hx : vs[i]? = some x) (hy : vs[j]? = some x')
    (u v : Option V) (p q : Ptr) :
    held rep u p + held rep v q +
        allHeld rep ((rs.set i none).set j none) ((vs.set i none).set j none) =
      allHeld rep ((rs.set i (some u)).set j (some v)) ((vs.set i (some p)).set j (some q)) := by
  have hj' : (rs.set i none)[j]? = some r' := by rw [List.getElem?_set_ne hij, hj]
  have hy' : (vs.set i none)[j]? = some x' := by rw [List.getElem?_set_ne hij, hy]
  have hi' : (rs.set j (some v))[i]? = some r := by rw [List.getElem?_set_ne hij.symm, hi]
  have hx' : (vs.set j (some q))[i]? = some x := by rw [List.getElem?_set_ne hij.symm, hx]
  rw [add_assoc, allHeld_put hj' hy', List.set_comm _ _ hij, List.set_comm _ _ hij,
    allHeld_put hi' hx', List.set_comm _ _ hij, List.set_comm _ _ hij]

theorem card_slotHeld {n : Nat} (hrep : ∀ v l c, c ∈ rep v l → c.card = n)
    {c : Multiset (Loc × O)} (h : c ∈ slotHeld rep r x) :
    c.card = n * if r.join.isSome then 1 else 0 := by
  rcases r with _ | _ | v
  · cases x with
    | none => simp [Set.mem_zero.mp h]
    | some p => exact absurd h (Set.notMem_empty _)
  · rcases x with _ | _ | l
    · exact absurd h (Set.notMem_empty _)
    · simp [Set.mem_zero.mp h]
    · exact absurd h (Set.notMem_empty _)
  · obtain ⟨l, -, hc⟩ := mem_slotHeld h
    simp [hrep v l c hc]

theorem card_allHeld {n : Nat} (hrep : ∀ v l c, c ∈ rep v l → c.card = n)
    {c : Multiset (Loc × O)} (h : c ∈ allHeld rep rs vs) : c.card = n * rs.lives := by
  induction rs generalizing vs c with
  | nil =>
    cases vs with
    | nil => simp [Set.mem_zero.mp h, Values.lives]
    | cons => exact absurd h (Set.notMem_empty _)
  | cons r rs ih =>
    cases vs with
    | nil => exact absurd h (Set.notMem_empty _)
    | cons x vs =>
      obtain ⟨d, hd, e, he, rfl⟩ := h
      have hrest := ih he
      unfold Values.lives at hrest ⊢
      rw [Multiset.card_add, card_slotHeld hrep hd, hrest, List.countP_cons, Nat.mul_add,
        Nat.add_comm]

theorem set_self {α : Type} {l : List α} {a : α} (h : l[i]? = some a) : l.set i a = l := by
  obtain ⟨hi, rfl⟩ := List.getElem?_eq_some_iff.mp h
  exact List.set_getElem_self hi

theorem readVar_eq {p : Ptr} (h : vs[i]? = some (some p)) :
    (readVar vs i : Program O Ptr) = pure p := by
  rw [readVar, h]

/-- A variable in its lifetime may be read, and its cells are apart from the others'. -/
theorem readVar_spec {A : Assertion O} {α : Type} {f : Ptr → Program O α} {Q : α → Assertion O}
    {ws : Vars} {u : Option V} (hw : ws[i]? = vs[i]?) (hr : rs[i]? = some (some u))
    (h : ∀ p, vs[i]? = some (some p) →
      Triple (A + (held rep u p + allHeld rep (rs.set i none) (vs.set i none))) (f p) Q) :
    Triple (A + allHeld rep rs vs) (readVar ws i >>= f) Q := by
  by_cases hlen : rs.length = vs.length
  · obtain ⟨hi, -⟩ := List.getElem?_eq_some_iff.mp hr
    obtain ⟨x, hx⟩ : ∃ x, vs[i]? = some x := ⟨_, List.getElem?_eq_getElem (hlen ▸ hi)⟩
    rw [allHeld_take hr hx]
    cases x with
    | none =>
      rw [slotHeld, Set.empty_add, Set.add_empty]
      · exact triple_empty
      all_goals simp
    | some p =>
      rw [readVar_eq (hw.trans hx)]
      exact h p hx
  · rw [allHeld_ne hlen, Set.add_empty]
    exact triple_empty

theorem readVar_two_spec {α : Type} {f : Ptr → Ptr → Program O α} {Q : α → Assertion O}
    {u v : Option V} (hij : i ≠ j) (hi : rs[i]? = some (some u)) (hj : rs[j]? = some (some v))
    (h : ∀ p q, vs[i]? = some (some p) → vs[j]? = some (some q) →
      Triple (held rep u p + held rep v q +
        allHeld rep ((rs.set i none).set j none) ((vs.set i none).set j none)) (f p q) Q) :
    Triple (allHeld rep rs vs) (readVar vs i >>= fun p => readVar vs j >>= f p) Q := by
  rw [← zero_add (allHeld rep rs vs)]
  refine readVar_spec rfl hi fun p hp => ?_
  rw [zero_add]
  refine readVar_spec (by rw [List.getElem?_set_ne hij]) (by rw [List.getElem?_set_ne hij, hj])
    fun q hq => ?_
  rw [← add_assoc]
  exact h p q hp (by rwa [List.getElem?_set_ne hij] at hq)

/-! ## The class functions -/

/-- The copy of an implementation stands for the same value, and nothing is left of one that is
disposed of. -/
structure Stands (c : Pimpl O) (rep : V → Loc → Assertion O) : Prop where
  copy : ∀ v l, Triple (rep v l) (c.copy l) fun l' => rep v l' + rep v l
  dispose : ∀ v l, Triple (rep v l) (c.dispose l) fun _ => 0

variable {c : Pimpl O} (hc : c.Stands rep) {u : Option V} {v : V} {p q : Ptr}

theorem triple_destroy_none {α : Type} {P : Assertion O} {f : Unit → Program O α}
    {Q : α → Assertion O} (h : Triple P (f ()) Q) : Triple P (c.destroy none >>= f) Q := h

include hc

theorem destroy_spec : Triple (held rep u p) (c.destroy p) fun _ => 0 := by
  cases u with
  | none =>
    cases p with
    | none => exact triple_done (Set.Subset.refl _)
    | some l => exact triple_empty
  | some v =>
    cases p with
    | none => exact triple_empty
    | some l => exact hc.dispose v l

theorem copyConstruct_spec : Triple (held rep (some v) p) (c.copyConstruct p) fun q =>
    held rep (some v) q + held rep (some v) p := by
  cases p with
  | none => exact triple_empty
  | some l => exact (hc.copy v l).bind fun l' => triple_done (Set.Subset.refl _)

/-- `rhs` may be the object itself. -/
theorem copyAssign_spec {A B : Assertion O}
    (h : held rep (some v) q + A = held rep u p + B) :
    Triple (held rep (some v) q + A) (c.copyAssign p q) fun p' => held rep (some v) p' + B := by
  unfold copyAssign
  refine ((copyConstruct_spec hc).frame A).bind fun temp => ?_
  rw [add_assoc, h, add_left_comm]
  refine ((destroy_spec hc).frame _).bind fun _ => triple_done ?_
  rw [zero_add]

theorem moveAssign_spec : Triple (held rep u p + held rep (some v) q) (c.moveAssign p q) fun x =>
    held rep (some v) x.1 + held rep none x.2 := by
  unfold moveAssign
  refine ((destroy_spec hc).frame _).bind fun _ => triple_done ?_
  rw [zero_add]
  exact (add_zero _).ge

/-! ## The programs -/

theorem run_copyAssign (hi : rs[i]? = some (some u)) (hj : rs[j]? = some (some (some v))) :
    Triple (allHeld rep rs vs) (c.run (.copyAssign i j) vs)
      (allHeld rep (rs.set i (some (some v)))) := by
  rw [run]
  by_cases hij : i = j
  · subst hij
    rw [← zero_add (allHeld rep rs vs)]
    refine readVar_spec rfl hj fun p hp => ?_
    rw [readVar_eq hp, zero_add]
    have hcopy : Triple (held rep (some v) p + 0) (c.copyAssign p p) fun p' =>
        held rep (some v) p' + 0 := copyAssign_spec hc rfl
    rw [add_zero] at hcopy
    refine (hcopy.frame _).bind fun p' => triple_done ?_
    rw [add_zero, allHeld_put hj hp]
  · refine readVar_two_spec hij hi hj fun p q hp hq => ?_
    have hcopy := copyAssign_spec hc (add_comm (held rep (some v) q) (held rep u p))
    rw [add_comm (held rep u p)]
    refine (hcopy.frame _).bind fun p' => triple_done ?_
    have hj' : (rs.set i (some (some v)))[j]? = some (some (some v)) := by
      rw [List.getElem?_set_ne hij, hj]
    have hq' : (vs.set i (some p'))[j]? = some (some q) := by rw [List.getElem?_set_ne hij, hq]
    rw [allHeld_put_two hij hi hj hp hq, set_self hj', set_self hq']

theorem run_copyConstruct (hj : rs[j]? = some (some (some v))) :
    Triple (allHeld rep rs vs) (c.run (.copyConstruct j) vs)
      (allHeld rep (rs ++ [some (some v)])) := by
  rw [run, ← zero_add (allHeld rep rs vs)]
  refine readVar_spec rfl hj fun q hq => ?_
  rw [zero_add]
  refine ((copyConstruct_spec hc).frame _).bind fun new => triple_done ?_
  rw [add_assoc, allHeld_put hj hq, set_self hj, set_self hq, ← slotHeld_some]
  exact allHeld_append

omit hc in
theorem run_moveConstruct (hj : rs[j]? = some (some (some v))) :
    Triple (allHeld rep rs vs) (c.run (.moveConstruct j) vs)
      (allHeld rep (rs.set j (some none) ++ [some (some v)])) := by
  rw [run, ← zero_add (allHeld rep rs vs)]
  refine readVar_spec rfl hj fun q hq => triple_done ?_
  have hput : 0 + allHeld rep (rs.set j none) (vs.set j none) = _ := allHeld_put hj hq none none
  rw [zero_add, ← zero_add (allHeld rep (rs.set j none) _), hput, ← slotHeld_some]
  exact allHeld_append

theorem run_moveAssign (hij : i ≠ j) (hi : rs[i]? = some (some u))
    (hj : rs[j]? = some (some (some v))) :
    Triple (allHeld rep rs vs) (c.run (.moveAssign i j) vs)
      (allHeld rep ((rs.set i (some (some v))).set j (some none))) := by
  rw [run, if_neg hij]
  refine readVar_two_spec hij hi hj fun p q hp hq => ?_
  refine ((moveAssign_spec hc).frame _).bind fun x => triple_done ?_
  rw [allHeld_put_two hij hi hj hp hq]

omit hc in
theorem run_swap {w : Option V} (hi : rs[i]? = some (some u)) (hj : rs[j]? = some (some w)) :
    Triple (allHeld rep rs vs) (c.run (.swap i j) vs)
      (allHeld rep ((rs.set i (some w)).set j (some u))) := by
  rw [run]
  by_cases hij : i = j
  · subst hij
    rw [← zero_add (allHeld rep rs vs)]
    refine readVar_spec rfl hi fun p hp => ?_
    rw [readVar_eq hp]
    refine triple_done ?_
    rw [zero_add, allHeld_put hi hp, set_self hi, set_self hp, List.set_set, set_self hi]
    exact (congrArg (allHeld rep rs) (set_self hp)).ge
  · refine readVar_two_spec hij hi hj fun p q hp hq => triple_done ?_
    rw [add_comm (held rep u p)]
    exact (allHeld_put_two hij hi hj hp hq _ _ _ _).le

theorem run_destroy (hi : rs[i]? = some (some u)) :
    Triple (allHeld rep rs vs) (c.run (.destroy i) vs) (allHeld rep (rs.set i none)) := by
  rw [run, ← zero_add (allHeld rep rs vs)]
  refine readVar_spec rfl hi fun p hp => ?_
  rw [zero_add]
  refine ((destroy_spec hc).frame _).bind fun _ => triple_done ?_
  rw [zero_add]

/-- The program on the heap does to the variables what the values say. -/
theorem run_spec {op : VarOp} {rs' : Values V} (h : op.apply rs = some rs') :
    Triple (allHeld rep rs vs) (c.run op vs) (allHeld rep rs') := by
  unfold VarOp.apply at h
  cases op with
  | copyConstruct j =>
    obtain ⟨v, hv, ⟨⟩⟩ := Option.bind_eq_some_iff.mp h
    exact run_copyConstruct hc (Values.live_eq.mp hv)
  | moveConstruct j =>
    obtain ⟨v, hv, ⟨⟩⟩ := Option.bind_eq_some_iff.mp h
    exact run_moveConstruct (Values.live_eq.mp hv)
  | copyAssign i j =>
    obtain ⟨u, hu, h⟩ := Option.bind_eq_some_iff.mp h
    obtain ⟨v, hv, ⟨⟩⟩ := Option.bind_eq_some_iff.mp h
    exact run_copyAssign hc (Values.alive_eq.mp hu) (Values.live_eq.mp hv)
  | moveAssign i j =>
    obtain ⟨hij, h⟩ := Option.ite_none_left_eq_some.mp h
    obtain ⟨u, hu, h⟩ := Option.bind_eq_some_iff.mp h
    obtain ⟨v, hv, ⟨⟩⟩ := Option.bind_eq_some_iff.mp h
    exact run_moveAssign hc hij (Values.alive_eq.mp hu) (Values.live_eq.mp hv)
  | swap i j =>
    obtain ⟨u, hu, h⟩ := Option.bind_eq_some_iff.mp h
    obtain ⟨w, hw, ⟨⟩⟩ := Option.bind_eq_some_iff.mp h
    exact run_swap (Values.alive_eq.mp hu) (Values.alive_eq.mp hw)
  | destroy i =>
    obtain ⟨u, hu, ⟨⟩⟩ := Option.bind_eq_some_iff.mp h
    exact run_destroy hc (Values.alive_eq.mp hu)

end Held

end Pimpl
