import Mathlib.Tactic.Abel
import SocketInterface.SocketsRuns

/-!
# The fds of a program with guards

For a kernel in which a `close` that fails has closed the fd, as on Linux.
-/

namespace Snl

open Method

/-! ## Programs -/

/-- The guards in the order in which they were made. A slot is empty after the destruction. -/
structure Guards where
  slots : List (Option FdGuard) := []
  terminated : Bool := false

abbrev FdConstructor := { c : Call // c.MakesFd }

inductive GuardOp where
  | construct (fdConstructor : FdConstructor)
  | moveConstruct (rhs : Nat)
  | moveAssign (lhs rhs : Nat)
  | release (i : Nat)
  | reset (i : Nat) (fdConstructor : FdConstructor)
  | close (i : Nat)
  | destroy (i : Nat)

namespace Guards

def setSlot (this : Guards) (i : Nat) (slot : Option FdGuard) : Guards :=
  { this with slots := this.slots.set i slot }

def onGuard {α : Type} (i : Nat) (m : M FdGuard α) : M Guards α := fun this =>
  match this.slots[i]? with
  | some (some guard) => (m guard).map fun x => (x.1, this.setSlot i (some x.2))
  | _ => .halt .undefined

def construct (fdConstructor : Call) : M Guards Unit := do
  let guard ← makeFdGuard fdConstructor
  update fun this => { this with slots := this.slots ++ [some guard] }

def moveConstruct (rhs : Nat) : M Guards Unit := fun this =>
  match this.slots[rhs]? with
  | some (some guard) =>
    .done (.ok (), { this with slots := this.slots.set rhs (some ⟨FdGuard.NO_FD⟩) ++ [some guard] })
  | _ => .halt .undefined

def moveAssign (lhs rhs : Nat) : M Guards Unit := fun this =>
  if lhs = rhs then .halt .aborted
  else
    match this.slots[lhs]?, this.slots[rhs]? with
    | some (some l), some (some r) =>
      (FdGuard.moveAssign (l, r)).map fun x =>
        (x.1, (this.setSlot lhs (some x.2.1)).setSlot rhs (some x.2.2))
    | _, _ => .halt .undefined

/-- The caller obtains an fd and hands it to the guard. -/
def reset (i : Nat) (fdConstructor : Call) : M Guards Unit := do
  let reply ← executeSyscall fdConstructor (-1)
  onGuard i (FdGuard.reset reply.status)

/-- An exception that leaves the destructor terminates the program. -/
def destroy (i : Nat) : M Guards Unit := fun this =>
  match this.slots[i]? with
  | some (some guard) => (FdGuard.close guard).map fun
    | (.ok _, _) => (.ok (), this.setSlot i none)
    | (.error e, _) => (.error e, { this with terminated := true })
  | _ => .halt .undefined

def noValue (m : M Guards Unit) : M Guards (Option Fd) := do
  m
  pure none

def perform (op : GuardOp) : M Guards (Option Fd) := do
  let this ← self
  if this.terminated then halt .terminated
  else
    match op with
    | .construct fdConstructor => noValue (construct fdConstructor)
    | .moveConstruct rhs => noValue (moveConstruct rhs)
    | .moveAssign lhs rhs => noValue (moveAssign lhs rhs)
    | .release i => do
      let fd ← onGuard i FdGuard.release
      pure (some fd)
    | .reset i fdConstructor => noValue (reset i fdConstructor)
    | .close i => noValue (onGuard i FdGuard.close)
    | .destroy i => noValue (destroy i)

end Guards

abbrev GuardsConfig := Config Guards

abbrev GuardsLabel := Label GuardOp (Option Fd)

abbrev GuardsMove := Move GuardsConfig GuardsLabel

abbrev GuardsStep := OpStep .frees Guards.perform

/-! ## The book of a run -/

/-- The fds that were obtained are numbered in order. `current` is the last of them that has a
number as its fd, `released` and `passed` are those given to the caller and to `close`. -/
structure Book where
  made : Nat := 0
  current : Fd → Option Nat := fun _ => none
  released : List Nat := []
  passed : List Nat := []

namespace Book

def obtain (b : Book) (fd : Fd) : Book :=
  { b with made := b.made + 1, current := Function.update b.current fd (some b.made) }

def pass (b : Book) (fd : Fd) : Book := { b with passed := b.passed ++ (b.current fd).toList }

def release (b : Book) (fd : Fd) : Book :=
  { b with released := b.released ++ (b.current fd).toList }

def call (b : Book) (e : Ev) : Book :=
  match e.call with
  | .socket .. | .accept .. => if Failed e then b else b.obtain e.reply.status
  | .close fd => b.pass fd
  | _ => b

def give (b : Book) : Except SnlException (Option Fd) → Book
  | .ok (some fd) => b.release fd
  | _ => b

def move (b : Book) (x : GuardsMove) : Book := (x.label.evs.foldl call b).give x.label.result

def owned (b : Book) (own : Multiset Fd) : Multiset Nat := own.filterMap b.current

end Book

def bookOf (t : List GuardsMove) : Book := t.foldl Book.move {}

@[simp] theorem bookOf_nil : bookOf [] = {} := rfl

@[simp] theorem bookOf_snoc (t : List GuardsMove) (x : GuardsMove) :
    bookOf (t ++ [x]) = (bookOf t).move x := by simp [bookOf]

def guardHeld (slot : Option FdGuard) : Multiset Fd := slot.elim 0 FdGuard.held

def Guards.held (this : Guards) : Multiset Fd := heldBy guardHeld this.slots

structure SoleOwners (t : List GuardsMove) (c : GuardsConfig) : Prop where
  passed_once : (bookOf t).passed.Nodup
  passed_not_owned : ∀ n ∈ (bookOf t).passed, n ∉ (bookOf t).owned c.fsm.held
  /-- Every fd has one guard, or the caller has it, or it was closed. -/
  one_place : ∀ n < (bookOf t).made, ((bookOf t).owned c.fsm.held).count n +
    (bookOf t).released.count n + (bookOf t).passed.count n = 1
  destructors : ∀ x ∈ t, ∀ i, x.label.op = .destroy i → ∃ v, x.label.result = .ok v

def ClosesFds (evs : List Ev) : Prop := ∀ e ∈ evs, ∀ fd, e.call = .close fd → ¬ Failed e

/-! ## The invariant -/

/-- The guards own the fds `own`, all of them are open, and the book balances. -/
structure Balanced (b : Book) (own : Multiset Fd) (k : Kernel) : Prop where
  no_fd : b.current (-1) = none
  nodup : own.Nodup
  isOpen : ∀ fd ∈ own, k.files fd ≠ none
  known : ∀ fd ∈ own, ∃ n, b.current fd = some n
  balance : b.owned own + (b.released : Multiset Nat) + b.passed = Multiset.range b.made

theorem FdGuard.held_owner {fd : Fd} (h : fd ≠ -1) : FdGuard.held ⟨fd⟩ = {fd} := if_neg h

theorem filterMap_congr {α β : Type} {f g : α → Option β} {s : Multiset α}
    (h : ∀ a ∈ s, f a = g a) : s.filterMap f = s.filterMap g := by
  induction s using Multiset.induction with
  | empty => rfl
  | cons a s ih =>
    rw [Multiset.filterMap_cons, Multiset.filterMap_cons, h a (Multiset.mem_cons_self ..),
      ih fun x hx => h x (Multiset.mem_cons_of_mem hx)]

section

variable {b : Book} {own rest : Multiset Fd} {k k' : Kernel} {fd : Fd} {evs : List Ev}

theorem Balanced.obtain (h : Balanced b own k) (hfresh : Fresh k fd)
    {peer : Option (SockaddrStorage × Nat)} :
    Balanced (b.obtain fd) (FdGuard.held ⟨fd⟩ + own) (k.opened fd peer) := by
  obtain ⟨h0, hnone⟩ := hfresh
  have hne : fd ≠ -1 := by
    rintro rfl
    exact absurd h0 (by decide)
  have hmem : fd ∉ own := fun hmem => h.isOpen fd hmem hnone
  have hother : ∀ x ∈ own, x ≠ fd := by
    rintro x hx rfl
    exact hmem hx
  have howned : (b.obtain fd).owned own = b.owned own := by
    unfold Book.owned
    refine filterMap_congr fun x hx => ?_
    exact Function.update_of_ne (hother x hx) ..
  rw [FdGuard.held_owner hne, Multiset.singleton_add]
  constructor
  · exact (Function.update_of_ne hne.symm ..).trans h.no_fd
  · exact Multiset.nodup_cons.mpr ⟨hmem, h.nodup⟩
  · intro x hx
    rcases Multiset.mem_cons.mp hx with rfl | hx
    · simp
    · simpa [hother x hx] using h.isOpen x hx
  · intro x hx
    rcases Multiset.mem_cons.mp hx with rfl | hx
    · exact ⟨b.made, Function.update_self ..⟩
    · obtain ⟨n, hn⟩ := h.known x hx
      exact ⟨n, (Function.update_of_ne (hother x hx) ..).trans hn⟩
  · have hnew : (b.obtain fd).owned (fd ::ₘ own) = b.made ::ₘ b.owned own := by
      rw [← howned]
      exact Multiset.filterMap_cons_some _ _ _ (Function.update_self ..)
    rw [hnew, Multiset.cons_add, Multiset.cons_add]
    show b.made ::ₘ (b.owned own + b.released + b.passed) = Multiset.range (b.made + 1)
    rw [h.balance, Multiset.range_succ]

theorem Balanced.owned_eq (h : Balanced b (FdGuard.held ⟨fd⟩ + rest) k) :
    b.owned (FdGuard.held ⟨fd⟩ + rest) = (b.current fd).toList + b.owned rest := by
  unfold Book.owned
  rw [Multiset.filterMap_add]
  congr 1
  by_cases hfd : fd = -1
  · rw [hfd, FdGuard.held_empty, h.no_fd]
    rfl
  · obtain ⟨n, hn⟩ := h.known fd (by simp [hfd])
    rw [FdGuard.held_owner hfd, ← Multiset.cons_zero, Multiset.filterMap_cons_some _ _ _ hn, hn]
    rfl

theorem Balanced.release (h : Balanced b (FdGuard.held ⟨fd⟩ + rest) k) :
    Balanced (b.release fd) rest k where
  no_fd := h.no_fd
  nodup := (Multiset.nodup_add.mp h.nodup).2.1
  isOpen x hx := h.isOpen x (by simp [hx])
  known x hx := h.known x (by simp [hx])
  balance := by
    have hbalance := h.balance
    rw [h.owned_eq] at hbalance
    show b.owned rest + ((b.released ++ (b.current fd).toList : List Nat) : Multiset Nat) +
      b.passed = Multiset.range b.made
    rw [← hbalance, ← Multiset.coe_add]
    abel

theorem Balanced.pass (h : Balanced b (FdGuard.held ⟨fd⟩ + rest) k)
    (hk : Closes k fd evs k') : Balanced (b.pass fd) rest k' where
  no_fd := h.no_fd
  nodup := (Multiset.nodup_add.mp h.nodup).2.1
  isOpen x hx := by
    have hopen := h.isOpen x (by simp [hx])
    rcases hk with ⟨-, -, rfl⟩ | ⟨hfd, -, -, -, rfl⟩
    · exact hopen
    · have hne : x ≠ fd := by
        rintro rfl
        exact Multiset.disjoint_left.mp (Multiset.nodup_add.mp h.nodup).2.2 (by simp [hfd]) hx
      simpa [hne] using hopen
  known x hx := h.known x (by simp [hx])
  balance := by
    have hbalance := h.balance
    rw [h.owned_eq] at hbalance
    show b.owned rest + b.released +
      ((b.passed ++ (b.current fd).toList : List Nat) : Multiset Nat) = Multiset.range b.made
    rw [← hbalance, ← Multiset.coe_add]
    abel

/-! ## One call -/

@[simp] theorem closesFds_nil : ClosesFds [] := by simp [ClosesFds]

@[simp] theorem closesFds_append {evs' : List Ev} :
    ClosesFds (evs ++ evs') ↔ ClosesFds evs ∧ ClosesFds evs' := by
  simp [ClosesFds, or_imp, forall_and]

theorem Balanced.makes {m : CloseFailure} {c : Call} {rep : Reply} (hb : Balanced b own k)
    (hc : c.MakesFd) (ha : Kernel.Answers m k c rep k') :
    ClosesFds [⟨k, c, rep⟩] ∧
      Balanced (b.call ⟨k, c, rep⟩) (FdGuard.held ⟨rep.status⟩ + own) k' ∧
      (rep.status ≠ -1 → rep.status ∉ own) := by
  have hcloses : ClosesFds [⟨k, c, rep⟩] := by
    intro e he fd hfd
    obtain rfl := List.mem_singleton.mp he
    obtain rfl : c = .close fd := hfd
    exact hc.elim
  have hcall : b.call ⟨k, c, rep⟩ = if rep.status = -1 then b else b.obtain rep.status := by
    cases c <;> first | rfl | exact hc.elim
  refine ⟨hcloses, ?_⟩
  rw [hcall]
  cases Kernel.answers_effect ha with
  | failed hr =>
    rw [if_pos hr, hr, FdGuard.held_empty, zero_add]
    exact ⟨hb, fun h => absurd rfl h⟩
  | kept hp | updated hp => cases c <;> first | exact hp.elim | exact hc.elim
  | closed => exact hc.elim
  | opened _ h0 hn =>
    rw [if_neg (by omega)]
    exact ⟨hb.obtain ⟨h0, hn⟩, fun _ hmem => hb.isOpen _ hmem hn⟩

theorem Balanced.closes (hb : Balanced b (FdGuard.held ⟨fd⟩ + rest) k)
    (hk : Closes k fd evs k') : ClosesFds evs ∧ Balanced (evs.foldl Book.call b) rest k' := by
  have hpass := hb.pass hk
  rcases hk with ⟨rfl, rfl, -⟩ | ⟨-, rep, hs, rfl, -⟩
  · have hbook : b.pass (-1) = b := by
      unfold Book.pass
      rw [hb.no_fd, Option.toList_none, List.append_nil]
    rw [hbook] at hpass
    exact ⟨closesFds_nil, hpass⟩
  · refine ⟨?_, hpass⟩
    intro e he x _
    obtain rfl := List.mem_singleton.mp he
    unfold Failed
    rw [hs]
    decide

/-- The fd of a `close` that fails was passed, and a guard may still have its number. -/
theorem Balanced.closeFails {m : CloseFailure} (hb : Balanced b (FdGuard.held ⟨fd⟩ + rest) k)
    (hk : CloseFails m k fd evs k') : ¬ ClosesFds evs ∧ fd ≠ -1 ∧
      ∃ n, n ∈ (evs.foldl Book.call b).passed ∧ (evs.foldl Book.call b).current fd = some n := by
  obtain ⟨hfd, rep, hs, rfl, -⟩ := hk
  obtain ⟨n, hn⟩ := hb.known fd (by simp [hfd])
  refine ⟨fun h => h _ (List.mem_singleton_self _) fd rfl hs, hfd, n, ?_, hn⟩
  show n ∈ b.passed ++ (b.current fd).toList
  simp [hn]

/-! ## One move -/

namespace Guards

variable {this this' : Guards} {guard : FdGuard} {i : Nat} {m : CloseFailure}

theorem held_split {slot : Option FdGuard} (h : this.slots[i]? = some slot) :
    ∃ rest, this.held = guardHeld slot + rest ∧
      ∀ slot', (this.setSlot i slot').held = guardHeld slot' + rest :=
  ⟨_, heldBy_eq h, fun slot' => heldBy_set h slot'⟩

theorem held_append (this : Guards) (slot : Option FdGuard) :
    heldBy guardHeld (this.slots ++ [slot]) = guardHeld slot + this.held := by
  unfold held
  rw [heldBy_append, heldBy_cons, heldBy_nil, add_zero, add_comm]

theorem onGuard_runs {α : Type} {act : M FdGuard α} {r : Except SnlException α}
    (h : Runs (Kernel.Answers m) (onGuard i act) this k evs r this' k') :
    ∃ guard guard', this.slots[i]? = some (some guard) ∧
      Runs (Kernel.Answers m) act guard k evs r guard' k' ∧
      this' = this.setSlot i (some guard') := by
  unfold Runs onGuard at h
  split at h
  · rename_i guard hslot
    obtain ⟨⟨r', guard'⟩, k1, evs1, evs2, h1, h2, rfl⟩ := Prog.exec_bind.mp h
    obtain ⟨rfl, heq, rfl⟩ := Prog.exec_done.mp h2
    obtain ⟨rfl, rfl⟩ := Prod.mk.inj heq
    rw [List.append_nil]
    exact ⟨guard, guard', hslot, h1, rfl⟩
  · exact absurd h Prog.exec_halt

end Guards

/-- What comes of a move: no `close` fails and the book balances, or one fails and its fd is still
owned, or the destructor throws. -/
inductive Settled (b : Book) (op : GuardOp) (evs : List Ev)
    (r : Except SnlException (Option Fd)) (this' : Guards) (k' : Kernel) : Prop
  | fine (hc : ClosesFds evs) (hrun : this'.terminated = false)
      (hr : ∀ i, op = .destroy i → ∃ v, r = .ok v) {own : Multiset Fd} (hown : this'.held = own)
      (hb : Balanced (Book.give (evs.foldl Book.call b) r) own k')
  | owned (hc : ¬ ClosesFds evs) {n : Nat} (hp : n ∈ (Book.give (evs.foldl Book.call b) r).passed)
      (ho : n ∈ (Book.give (evs.foldl Book.call b) r).owned this'.held)
  | threw (hc : ¬ ClosesFds evs) {i : Nat} {e : SnlException} (hop : op = .destroy i)
      (hr : r = .error e)

section

variable {op : GuardOp} {r : Except SnlException Unit} {this this' : Guards} {m : CloseFailure}
  {i : Nat} {guard guard' next : FdGuard} {loose : Multiset Fd}

@[simp] theorem give_noValue : b.give (r.map fun _ => none) = b := by cases r <;> rfl

theorem Settled.cons {e : Ev} {v : Except SnlException (Option Fd)} (he : ClosesFds [e])
    (h : Settled (b.call e) op evs v this' k') : Settled b op (e :: evs) v this' k' := by
  have hiff : ClosesFds (e :: evs) ↔ ClosesFds evs := by
    rw [← List.singleton_append, closesFds_append]
    exact and_iff_right he
  cases h with
  | fine hc hrun hr hown hb => exact .fine (hiff.mpr hc) hrun hr hown hb
  | owned hc hp ho => exact .owned (mt hiff.mp hc) hp ho
  | threw hc hop hr => exact .threw (mt hiff.mp hc) hop hr

theorem Balanced.settles (hb : Balanced b (loose + this.held) k)
    (hrun : this.terminated = false) (hslot : this.slots[i]? = some (some guard))
    (hnext : next.held = loose) (hop : ∀ j, op ≠ .destroy j)
    (h : (r = .ok () ∧ guard' = next ∧ Closes k guard.fd evs k') ∨
      ((∃ e, r = .error e) ∧ guard' = guard ∧ CloseFails m k guard.fd evs k')) :
    Settled b op evs (r.map fun _ => none) (this.setSlot i (some guard')) k' := by
  obtain ⟨rest, hheld, hset⟩ := Guards.held_split hslot
  rw [hheld, add_left_comm] at hb
  rcases h with ⟨rfl, rfl, hk⟩ | ⟨-, rfl, hk⟩
  · obtain ⟨hc, hb⟩ := hb.closes hk
    refine .fine hc hrun (fun j h => absurd h (hop j)) ((hset _).trans (congrArg (· + rest) hnext)) ?_
    rwa [give_noValue]
  · obtain ⟨hc, hfd, n, hp, hn⟩ := hb.closeFails hk
    refine .owned hc (by rwa [give_noValue]) ?_
    rw [give_noValue, hset]
    refine (Multiset.mem_filterMap _ _).mpr ⟨guard'.fd, ?_, hn⟩
    simp [guardHeld, hfd]

theorem construct_settled {c : Call} (hb : Balanced b this.held k)
    (hrun : this.terminated = false) (hc : c.MakesFd) (hop : ∀ j, op ≠ .destroy j)
    (h : Runs (Kernel.Answers m) (Guards.construct c) this k evs r this' k') :
    Settled b op evs (r.map fun _ => none) this' k' := by
  unfold Guards.construct at h
  rcases runs_bind.mp h with ⟨e, rfl, h1⟩ | ⟨guard, s1, k1, evs1, evs2, h1, h2, rfl⟩
  · obtain ⟨rfl, rep, ha, rfl, hr⟩ := makeFdGuard_runs.mp h1
    obtain ⟨hs, -⟩ : rep.status = -1 ∧ _ := by simpa using hr
    obtain ⟨hcloses, hb, -⟩ := hb.makes hc ha
    rw [hs, FdGuard.held_empty, zero_add] at hb
    exact .fine hcloses hrun (fun j h => absurd h (hop j)) rfl hb
  · obtain ⟨rfl, rep, ha, rfl, hr⟩ := makeFdGuard_runs.mp h1
    obtain ⟨-, rfl⟩ : rep.status ≠ -1 ∧ guard = ⟨rep.status⟩ := by simpa using hr
    obtain ⟨rfl, rfl, rfl, rfl⟩ := runs_update.mp h2
    obtain ⟨hcloses, hb, -⟩ := hb.makes hc ha
    exact .fine hcloses hrun (fun j h => absurd h (hop j)) (Guards.held_append _ _) hb

theorem reset_settled {c : Call} (hb : Balanced b this.held k) (hrun : this.terminated = false)
    (hc : c.MakesFd) (hop : ∀ j, op ≠ .destroy j)
    (h : Runs (Kernel.Answers m) (Guards.reset i c) this k evs r this' k') :
    Settled b op evs (r.map fun _ => none) this' k' := by
  unfold Guards.reset at h
  rcases runs_bind.mp h with ⟨e, rfl, h1⟩ | ⟨reply, s1, k1, evs1, evs2, h1, h2, rfl⟩
  · obtain ⟨rfl, rep, ha, rfl, hr⟩ := executeSyscall_runs.mp h1
    obtain ⟨hs, -⟩ : rep.status = -1 ∧ _ := by simpa using hr
    obtain ⟨hcloses, hb, -⟩ := hb.makes hc ha
    rw [hs, FdGuard.held_empty, zero_add] at hb
    exact .fine hcloses hrun (fun j h => absurd h (hop j)) rfl hb
  · obtain ⟨rfl, hs, -, rfl, ha⟩ := executeSyscall_returned h1
    obtain ⟨hcloses, hb, hfresh⟩ := hb.makes hc ha
    obtain ⟨guard, guard', hslot, hreset, rfl⟩ := Guards.onGuard_runs h2
    refine .cons hcloses (hb.settles (m := m) hrun hslot rfl hop ?_)
    unfold FdGuard.reset at hreset
    rw [runs_self_bind, runs_ite] at hreset
    rcases hreset with ⟨heq, -⟩ | ⟨-, hreset⟩
    · -- the fd is new, so the guard does not have it yet
      obtain ⟨rest, hheld, -⟩ := Guards.held_split hslot
      refine absurd ?_ (hfresh hs)
      rw [hheld, ← heq]
      simp [guardHeld, heq, hs]
    · exact closeThen_cases hreset

theorem destroy_settled (hb : Balanced b this.held k) (hrun : this.terminated = false)
    (h : Runs (Kernel.Answers m) (Guards.destroy i) this k evs r this' k') :
    Settled b (.destroy i) evs (r.map fun _ => none) this' k' := by
  unfold Runs Guards.destroy at h
  split at h
  · rename_i guard hslot
    obtain ⟨⟨r', guard'⟩, k1, evs1, evs2, h1, h2, rfl⟩ := Prog.exec_bind.mp h
    obtain ⟨rest, hheld, hset⟩ := Guards.held_split hslot
    rw [hheld] at hb
    rcases close_cases h1 with ⟨rfl, rfl, hk⟩ | ⟨⟨e, rfl⟩, rfl, hk⟩
    · obtain ⟨rfl, heq, rfl⟩ := Prog.exec_done.mp h2
      obtain ⟨rfl, rfl⟩ := Prod.mk.inj heq
      obtain ⟨hc, hb⟩ := hb.closes hk
      rw [List.append_nil]
      exact .fine hc hrun (fun _ _ => ⟨none, rfl⟩) ((hset none).trans (zero_add rest)) hb
    · obtain ⟨rfl, heq, rfl⟩ := Prog.exec_done.mp h2
      obtain ⟨rfl, rfl⟩ := Prod.mk.inj heq
      rw [List.append_nil]
      exact .threw (hb.closeFails hk).1 rfl rfl
  · exact absurd h Prog.exec_halt

theorem moveConstruct_settled (hb : Balanced b this.held k) (hrun : this.terminated = false)
    (hop : ∀ j, op ≠ .destroy j)
    (h : Runs (Kernel.Answers m) (Guards.moveConstruct i) this k evs r this' k') :
    Settled b op evs (r.map fun _ => none) this' k' := by
  unfold Runs Guards.moveConstruct at h
  split at h
  · rename_i guard hslot
    obtain ⟨rfl, heq, rfl⟩ := Prog.exec_done.mp h
    obtain ⟨rfl, rfl⟩ := Prod.mk.inj heq
    obtain ⟨rest, hheld, hset⟩ := Guards.held_split hslot
    refine .fine closesFds_nil hrun (fun j h => absurd h (hop j)) ?_ hb
    calc heldBy guardHeld (this.slots.set i (some ⟨FdGuard.NO_FD⟩) ++ [some guard])
        = guard.held + (this.setSlot i (some ⟨FdGuard.NO_FD⟩)).held :=
          Guards.held_append (this.setSlot i (some ⟨FdGuard.NO_FD⟩)) _
      _ = guard.held + rest := by rw [hset]; exact congrArg _ (zero_add rest)
      _ = this.held := hheld.symm
  · exact absurd h Prog.exec_halt

theorem moveAssign_settled {rhs : Nat} (hb : Balanced b this.held k)
    (hrun : this.terminated = false) (hop : ∀ j, op ≠ .destroy j)
    (h : Runs (Kernel.Answers m) (Guards.moveAssign i rhs) this k evs r this' k') :
    Settled b op evs (r.map fun _ => none) this' k' := by
  unfold Runs Guards.moveAssign at h
  split at h
  · exact absurd h Prog.exec_halt
  rename_i hne
  split at h
  · rename_i lhs' rhs' hlhs hrhs
    obtain ⟨⟨r', l, g⟩, k1, evs1, evs2, h1, h2, rfl⟩ := Prog.exec_bind.mp h
    obtain ⟨rfl, heq, rfl⟩ := Prog.exec_done.mp h2
    obtain ⟨rfl, rfl⟩ := Prod.mk.inj heq
    rw [List.append_nil]
    obtain ⟨rest, hheld, hset⟩ := Guards.held_split hlhs
    have hslot : (this.setSlot i (some l)).slots[rhs]? = some (some rhs') :=
      (List.getElem?_set_ne hne).trans hrhs
    obtain ⟨rest', hheld', hset'⟩ := Guards.held_split hslot
    have hsame := hheld'.symm.trans (hset _)
    rw [hheld] at hb
    rcases moveAssign_cases h1 with ⟨rfl, heq, hk⟩ | ⟨⟨e, rfl⟩, heq, hk⟩
    · obtain ⟨rfl, rfl⟩ := Prod.mk.inj heq
      obtain ⟨hc, hb⟩ := hb.closes hk
      -- the source has one guard less, the target has it now
      obtain rfl : rest' = rest := add_left_cancel hsame
      exact .fine hc hrun (fun j h => absurd h (hop j)) ((hset' _).trans (zero_add rest')) hb
    · obtain ⟨rfl, rfl⟩ := Prod.mk.inj heq
      obtain ⟨hc, hfd, n, hp, hn⟩ := hb.closeFails hk
      refine .owned hc (by rwa [give_noValue]) ?_
      rw [give_noValue, hset']
      have hmem : l.fd ∈ guardHeld (some g) + rest' := by
        rw [hsame]
        simp [guardHeld, hfd]
      exact (Multiset.mem_filterMap _ _).mpr ⟨l.fd, hmem, hn⟩
  · exact absurd h Prog.exec_halt

theorem release_settled {v : Except SnlException Fd} (hb : Balanced b this.held k)
    (hrun : this.terminated = false)
    (h : Runs (Kernel.Answers m) (Guards.onGuard i FdGuard.release) this k evs v this' k') :
    Settled b (.release i) evs (v.map some) this' k' := by
  obtain ⟨guard, guard', hslot, hrelease, rfl⟩ := Guards.onGuard_runs h
  obtain ⟨rest, hheld, hset⟩ := Guards.held_split hslot
  rw [hheld] at hb
  unfold FdGuard.release at hrelease
  rw [runs_self_bind, runs_update_bind] at hrelease
  obtain ⟨rfl, rfl, rfl, rfl⟩ := runs_pure.mp hrelease
  exact .fine closesFds_nil hrun (by simp) ((hset _).trans (zero_add rest)) hb.release

theorem perform_settled {v : Except SnlException (Option Fd)} (hb : Balanced b this.held k)
    (hrun : this.terminated = false)
    (h : Runs (Kernel.Answers m) (Guards.perform op) this k evs v this' k') :
    Settled b op evs v this' k' := by
  unfold Guards.perform at h
  rw [runs_self_bind, if_neg (by simp [hrun])] at h
  cases op with
  | release i =>
    obtain ⟨v, hop, rfl⟩ := runs_bind_pure.mp h
    exact release_settled hb hrun hop
  | construct c =>
    obtain ⟨r, hop, rfl⟩ := runs_bind_pure.mp h
    exact construct_settled hb hrun c.2 (by simp) hop
  | moveConstruct rhs =>
    obtain ⟨r, hop, rfl⟩ := runs_bind_pure.mp h
    exact moveConstruct_settled hb hrun (by simp) hop
  | moveAssign lhs rhs =>
    obtain ⟨r, hop, rfl⟩ := runs_bind_pure.mp h
    exact moveAssign_settled hb hrun (by simp) hop
  | reset i c =>
    obtain ⟨r, hop, rfl⟩ := runs_bind_pure.mp h
    exact reset_settled hb hrun c.2 (by simp) hop
  | close i =>
    obtain ⟨r, hop, rfl⟩ := runs_bind_pure.mp h
    obtain ⟨guard, guard', hslot, hclose, rfl⟩ := Guards.onGuard_runs hop
    exact Balanced.settles ((zero_add this.held).symm ▸ hb) hrun hslot rfl (by simp)
      (close_cases hclose)
  | destroy i =>
    obtain ⟨r, hop, rfl⟩ := runs_bind_pure.mp h
    exact destroy_settled hb hrun hop

end

/-! ## Runs -/

theorem Balanced.soleOwners {t : List GuardsMove} {c : GuardsConfig}
    (h : Balanced (bookOf t) c.fsm.held c.kernel)
    (hd : ∀ x ∈ t, ∀ i, x.label.op = .destroy i → ∃ v, x.label.result = .ok v) :
    SoleOwners t c := by
  have hcount : ∀ n, ((bookOf t).owned c.fsm.held).count n + (bookOf t).released.count n +
      (bookOf t).passed.count n = (Multiset.range (bookOf t).made).count n := by
    intro n
    rw [← h.balance, Multiset.count_add, Multiset.count_add, Multiset.coe_count,
      Multiset.coe_count]
  have hle : ∀ n, (Multiset.range (bookOf t).made).count n ≤ 1 :=
    Multiset.nodup_iff_count_le_one.mp (Multiset.nodup_range _)
  refine ⟨List.nodup_iff_count_le_one.mpr fun n => ?_, fun n hpassed howned => ?_, fun n hn => ?_,
    hd⟩
  · have := hcount n
    have := hle n
    omega
  · have := hcount n
    have := hle n
    have := List.count_pos_iff.mpr hpassed
    have := Multiset.count_pos.mpr howned
    omega
  · rw [hcount]
    exact Multiset.count_eq_one_of_mem (Multiset.nodup_range _) (Multiset.mem_range.mpr hn)

end

structure GuardsInv (t : List GuardsMove) (c : GuardsConfig) : Prop where
  running : c.fsm.terminated = false
  balanced : Balanced (bookOf t) c.fsm.held c.kernel
  destructors : ∀ x ∈ t, ∀ i, x.label.op = .destroy i → ∃ v, x.label.result = .ok v

/-- The guards are sole owners at every moment of a run exactly when no `close` fails in it. -/
theorem soleOwners_iff {c0 c : GuardsConfig} {t : List GuardsMove} (h0 : c0.fsm = {})
    (h : StepPath GuardsStep c0 t c) :
    (∀ t1, t1 <+: t → SoleOwners t1 (endState c0 t1)) ↔ ∀ x ∈ t, ClosesFds x.label.evs := by
  have hinv : GuardsInv [] c0 := by
    have hheld : c0.fsm.held = 0 := by
      rw [h0]
      rfl
    refine ⟨by rw [h0], ?_, by simp⟩
    rw [hheld]
    exact ⟨rfl, Multiset.nodup_zero, by simp, by simp, rfl⟩
  refine h.always_iff (I := GuardsInv) hinv (hinv.balanced.soleOwners hinv.destructors) ?_
  intro t c l c' hi hs
  have hlast : ∀ P : GuardsMove → Prop, (∀ x ∈ t ++ [⟨c, l, c'⟩], P x) ↔
      (∀ x ∈ t, P x) ∧ P ⟨c, l, c'⟩ := by
    simp [or_imp, forall_and]
  have hsettled : Settled (bookOf t) l.op l.evs l.result c'.fsm c'.kernel :=
    perform_settled hi.balanced hi.running hs
  cases hsettled with
  | fine hc hrun hr hown hb =>
    have hnext : GuardsInv (t ++ [⟨c, l, c'⟩]) c' :=
      ⟨hrun, by rw [bookOf_snoc, hown]; exact hb, (hlast _).mpr ⟨hi.destructors, hr⟩⟩
    exact ⟨iff_of_true (hnext.balanced.soleOwners hnext.destructors) hc, fun _ => hnext⟩
  | owned hc hp ho =>
    refine ⟨iff_of_false (fun hsole => ?_) hc, fun h => absurd h hc⟩
    have hnot := hsole.passed_not_owned
    rw [bookOf_snoc] at hnot
    exact hnot _ hp ho
  | threw hc hop hr =>
    refine ⟨iff_of_false (fun hsole => ?_) hc, fun h => absurd h hc⟩
    obtain ⟨v, hv⟩ := hsole.destructors _ (List.mem_append_right _ (List.mem_singleton_self _)) _ hop
    simp [hr] at hv

def noGuards : GuardsConfig := ⟨{}, emptyKernel⟩

def aSocket : FdConstructor := ⟨.socket 2 SOCK_STREAM 0, trivial⟩

def replaced : List (GuardOp × List Reply) :=
  [(.construct aSocket, [⟨3, 0, .zero, []⟩]), (.reset 0 aSocket, [⟨4, 0, .zero, []⟩, okReply]),
    (.moveConstruct 0, []), (.release 1, []), (.destroy 0, []), (.destroy 1, [])]

theorem soleOwners_replaced : ∃ (t : List GuardsMove) (c : GuardsConfig),
    StepPath GuardsStep noGuards t c ∧ t.length = 6 ∧
    ∀ t1, t1 <+: t → SoleOwners t1 (endState noGuards t1) := by
  have h := path_of_session (rfl : follow (nextOp .frees Guards.perform) noGuards replaced =
    some (_, _))
  refine ⟨_, _, h, rfl, (soleOwners_iff rfl h).mpr ?_⟩
  intro x hx e he fd hfd
  clear hfd fd
  revert x e
  decide

/-- The `close` that fails closes its fd. The next fd has the same number, and is closed in place
of the first one while its guard still owns it. -/
def closedAgain : List (GuardOp × List Reply) :=
  [(.construct aSocket, [⟨3, 0, .zero, []⟩]), (.close 0, [failReply 5]),
    (.construct aSocket, [⟨3, 0, .zero, []⟩]), (.destroy 0, [okReply])]

theorem closedAgain_notSole : ∃ (t : List GuardsMove) (c : GuardsConfig),
    StepPath GuardsStep noGuards t c ∧ ¬ SoleOwners t c := by
  have h := path_of_session (rfl : follow (nextOp .frees Guards.perform) noGuards closedAgain =
    some (_, _))
  exact ⟨_, _, h, fun hsole => hsole.passed_not_owned 1 (by decide) (by decide)⟩

end Snl
