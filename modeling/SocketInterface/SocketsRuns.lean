import SocketInterface.Sockets

/-!
# Every fd has one owner

Whole runs of the sockets of a program, for a kernel in which every call but `close` may fail.
-/

namespace Snl

open Method Handles

/-! ## The ledger of a kernel -/

/-- The fd that a call hands out: its number, and which of all fds it is. -/
def obtainedBy (e : Ev) : Option (Fd × Nat) :=
  match e.call with
  | .socket .. | .accept .. => if Failed e then none else some (e.reply.status, e.before.born)
  | _ => none

def closedBy (e : Ev) : Option Nat :=
  match e.call with
  | .close fd => (e.before.files fd).map (·.serial)
  | _ => none

def obtained (T : List Ev) : List (Fd × Nat) := T.filterMap obtainedBy

def closed (T : List Ev) : List Nat := T.filterMap closedBy

def Kernel.serialAt (k : Kernel) (fd : Fd) : Option Nat := (k.files fd).map (·.serial)

theorem Kernel.serialAt_eq_some {k : Kernel} {fd : Fd} {n : Nat} :
    k.serialAt fd = some n ↔ ∃ f, k.files fd = some f ∧ f.serial = n := Option.map_eq_some_iff

inductive Entry (k : Kernel) (e : Ev) (k' : Kernel) : Prop
  | quiet (ho : obtainedBy e = none) (hc : closedBy e = none) (hb : k'.born = k.born)
      (hk : k'.serialAt = k.serialAt)
  | obtains {fd} (ho : obtainedBy e = some (fd, k.born)) (hc : closedBy e = none)
      (hb : k'.born = k.born + 1) (hfd : k.serialAt fd = none)
      (hk : k'.serialAt = Function.update k.serialAt fd (some k.born))
  | closes {fd n} (ho : obtainedBy e = none) (hc : closedBy e = some n) (hb : k'.born = k.born)
      (hfd : k.serialAt fd = some n) (hk : k'.serialAt = Function.update k.serialAt fd none)

theorem Kernel.serialAt_setFile (k : Kernel) (fd : Fd) (f : Option OpenFile) :
    (k.setFile fd f).serialAt = Function.update k.serialAt fd (f.map (·.serial)) := by
  funext x
  by_cases hx : x = fd
  · simp [serialAt, hx]
  · simp [serialAt, hx]

theorem entry_of_answer {k k' : Kernel} {c : Call} {r : Reply}
    (h : Kernel.Answers .never k c r k') : Entry k ⟨k, c, r⟩ k' := by
  cases hc : c with
  | close fd =>
    subst hc
    rcases Kernel.answers_close.mp h with ⟨-, h⟩ | ⟨⟨f, hf⟩, -, rfl⟩
    · cases hf : k.files fd with
      | none =>
        obtain rfl : k = k' := by simpa [Kernel.afterFailedClose, hf] using h
        exact .quiet rfl (by simp [closedBy, hf]) rfl rfl
      | some f => simp [Kernel.afterFailedClose, hf] at h
    · exact .closes rfl (by simp [closedBy, hf]) rfl
        (Kernel.serialAt_eq_some.mpr ⟨f, hf, rfl⟩) (k.serialAt_setFile fd none)
  | socket | accept =>
    subst hc
    cases Kernel.answers_effect h with
    | failed hr => exact .quiet (if_pos hr) rfl rfl rfl
    | kept hp | updated hp => exact hp.elim
    | opened _ h0 hn =>
      have hr : ¬ r.status = -1 := by omega
      exact .obtains (if_neg hr) rfl rfl (by simp [Kernel.serialAt, hn])
        (k.serialAt_setFile r.status _)
  | _ =>
    subst hc
    cases Kernel.answers_effect h with
    | failed | kept => exact .quiet rfl rfl rfl rfl
    | opened hm => exact hm.elim
    | @updated _ _ fd f f' _ _ hf hs =>
      refine .quiet rfl rfl rfl ?_
      rw [k.serialAt_setFile, Option.map_some, hs]
      exact Function.update_eq_self_iff.mpr (Kernel.serialAt_eq_some.mpr ⟨f, hf, rfl⟩).symm

/-- The calls `T` lead from `k0` to `k`: what they obtained and did not close is open in `k`. -/
structure Ledger (k0 k : Kernel) (T : List Ev) : Prop where
  born : k0.born ≤ k.born
  lt : ∀ {fd n}, k.serialAt fd = some n → n < k.born
  inj : ∀ {fd fd' n}, k.serialAt fd = some n → k.serialAt fd' = some n → fd = fd'
  /-- A number that was free before has a new fd. -/
  old : ∀ {fd n}, k.serialAt fd = some n → n < k0.born → k0.files fd ≠ none
  open_iff : ∀ {fd n}, (fd, n) ∈ obtained T ∧ n ∉ closed T ↔
    k0.born ≤ n ∧ k.serialAt fd = some n
  gone : ∀ {fd n}, k.serialAt fd = some n → n ∉ closed T
  closed_lt : ∀ n ∈ closed T, n < k.born
  once : (closed T).Nodup

theorem ledger_nil {k : Kernel} (hk : k.Wf) : Ledger k k [] where
  born := le_rfl
  lt h := by
    obtain ⟨f, hf, rfl⟩ := Kernel.serialAt_eq_some.mp h
    exact hk.serial_lt hf
  inj h h' := by
    obtain ⟨f, hf, rfl⟩ := Kernel.serialAt_eq_some.mp h
    obtain ⟨f', hf', heq⟩ := Kernel.serialAt_eq_some.mp h'
    exact hk.serial_inj hf hf' heq.symm
  old h _ := by
    obtain ⟨f, hf, -⟩ := Kernel.serialAt_eq_some.mp h
    simp [hf]
  open_iff := by
    intro fd n
    constructor
    · rintro ⟨h, -⟩
      simp [obtained] at h
    · rintro ⟨hle, h⟩
      obtain ⟨f, hf, rfl⟩ := Kernel.serialAt_eq_some.mp h
      exact absurd (hk.serial_lt hf) (not_lt.mpr hle)
  gone _ := by simp [closed]
  closed_lt := by simp [closed]
  once := .nil

section

variable {k0 k k' : Kernel} {T : List Ev} {e : Ev} {fd : Fd} {n : Nat}

theorem ledger_obtains (h : Ledger k0 k T) (ho : obtainedBy e = some (fd, k.born))
    (hc : closedBy e = none) (hb : k'.born = k.born + 1) (hfd : k.serialAt fd = none)
    (hk : k'.serialAt = Function.update k.serialAt fd (some k.born)) :
    Ledger k0 k' (T ++ [e]) := by
  obtain ⟨hborn, hlt, hinj, hold, hopen, hgone, hclt, honce⟩ := h
  have hO : obtained (T ++ [e]) = obtained T ++ [(fd, k.born)] := by simp [obtained, ho]
  have hC : closed (T ++ [e]) = closed T := by simp [closed, hc]
  have hlook : ∀ {fd' n}, k'.serialAt fd' = some n →
      (fd' = fd ∧ n = k.born) ∨ k.serialAt fd' = some n := by
    intro fd' n hn
    by_cases hx : fd' = fd
    · exact .inl ⟨hx, by simpa [hk, hx, eq_comm] using hn⟩
    · exact .inr (by simpa [hk, hx] using hn)
  have hkeep : ∀ {fd' n}, k.serialAt fd' = some n → k'.serialAt fd' = some n := by
    intro fd' n hn
    have hne : fd' ≠ fd := by
      rintro rfl
      simp [hfd] at hn
    simpa [hk, hne] using hn
  have hfresh : k.born ∉ closed T := fun hmem => lt_irrefl _ (hclt _ hmem)
  constructor
  · omega
  · intro fd' n hn
    rw [hb]
    rcases hlook hn with ⟨-, rfl⟩ | hn
    · omega
    · have := hlt hn
      omega
  · intro fd1 fd2 n h1 h2
    rcases hlook h1 with ⟨rfl, rfl⟩ | h1
    · rcases hlook h2 with ⟨rfl, -⟩ | h2
      · rfl
      · exact absurd (hlt h2) (lt_irrefl _)
    · rcases hlook h2 with ⟨rfl, rfl⟩ | h2
      · exact absurd (hlt h1) (lt_irrefl _)
      · exact hinj h1 h2
  · intro fd' n hn hlt0
    rcases hlook hn with ⟨-, rfl⟩ | hn
    · omega
    · exact hold hn hlt0
  · intro fd' n
    rw [hO, hC]
    constructor
    · rintro ⟨hmem, hn⟩
      rcases List.mem_append.mp hmem with hmem | hmem
      · obtain ⟨hle, hs⟩ := hopen.mp ⟨hmem, hn⟩
        exact ⟨hle, hkeep hs⟩
      · obtain ⟨rfl, rfl⟩ : fd' = fd ∧ n = k.born := by simpa using hmem
        exact ⟨hborn, by simp [hk]⟩
    · rintro ⟨hle, hs⟩
      rcases hlook hs with ⟨rfl, rfl⟩ | hs
      · exact ⟨by simp, hfresh⟩
      · obtain ⟨hmem, hn⟩ := hopen.mpr ⟨hle, hs⟩
        exact ⟨List.mem_append_left _ hmem, hn⟩
  · intro fd' n hn
    rw [hC]
    rcases hlook hn with ⟨-, rfl⟩ | hn
    · exact hfresh
    · exact hgone hn
  · intro n hmem
    rw [hC] at hmem
    have := hclt n hmem
    omega
  · rw [hC]
    exact honce

theorem ledger_closes (h : Ledger k0 k T) (ho : obtainedBy e = none) (hc : closedBy e = some n)
    (hb : k'.born = k.born) (hfd : k.serialAt fd = some n)
    (hk : k'.serialAt = Function.update k.serialAt fd none) : Ledger k0 k' (T ++ [e]) := by
  obtain ⟨hborn, hlt, hinj, hold, hopen, hgone, hclt, honce⟩ := h
  have hO : obtained (T ++ [e]) = obtained T := by simp [obtained, ho]
  have hC : closed (T ++ [e]) = closed T ++ [n] := by simp [closed, hc]
  have hlook : ∀ {fd' n'}, k'.serialAt fd' = some n' → n' ≠ n ∧ k.serialAt fd' = some n' := by
    intro fd' n' hn
    have hne : fd' ≠ fd := by
      rintro rfl
      simp [hk] at hn
    have hn' : k.serialAt fd' = some n' := by simpa [hk, hne] using hn
    refine ⟨?_, hn'⟩
    rintro rfl
    exact hne (hinj hn' hfd)
  have hkeep : ∀ {fd' n'}, n' ≠ n → k.serialAt fd' = some n' → k'.serialAt fd' = some n' := by
    intro fd' n' hne hn
    have hx : fd' ≠ fd := by
      rintro rfl
      exact hne (Option.some.inj (hn.symm.trans hfd))
    simpa [hk, hx] using hn
  constructor
  · rw [hb]
    exact hborn
  · intro fd' n' hn
    rw [hb]
    exact hlt (hlook hn).2
  · intro fd1 fd2 n' h1 h2
    exact hinj (hlook h1).2 (hlook h2).2
  · intro fd' n' hn
    exact hold (hlook hn).2
  · intro fd' n'
    rw [hO, hC, List.mem_append, List.mem_singleton, not_or]
    constructor
    · rintro ⟨hmem, hn, hne⟩
      obtain ⟨hle, hs⟩ := hopen.mp ⟨hmem, hn⟩
      exact ⟨hle, hkeep hne hs⟩
    · rintro ⟨hle, hs⟩
      obtain ⟨hne, hs⟩ := hlook hs
      obtain ⟨hmem, hn⟩ := hopen.mpr ⟨hle, hs⟩
      exact ⟨hmem, hn, hne⟩
  · intro fd' n' hn
    rw [hC, List.mem_append, List.mem_singleton, not_or]
    obtain ⟨hne, hn⟩ := hlook hn
    exact ⟨hgone hn, hne⟩
  · intro n' hmem
    rw [hC, List.mem_append, List.mem_singleton] at hmem
    rw [hb]
    rcases hmem with hmem | rfl
    · exact hclt n' hmem
    · exact hlt hfd
  · rw [hC, List.nodup_append_comm]
    exact List.nodup_cons.mpr ⟨hgone hfd, honce⟩

theorem ledger_snoc (h : Ledger k0 k T) (he : Entry k e k') : Ledger k0 k' (T ++ [e]) := by
  cases he with
  | quiet ho hc hb hk =>
    have hO : obtained (T ++ [e]) = obtained T := by simp [obtained, ho]
    have hC : closed (T ++ [e]) = closed T := by simp [closed, hc]
    obtain ⟨hborn, hlt, hinj, hold, hopen, hgone, hclt, honce⟩ := h
    constructor <;> simp only [hO, hC, hb, hk]
    exacts [hborn, hlt, hinj, hold, hopen, hgone, hclt, honce]
  | obtains ho hc hb hfd hk => exact ledger_obtains h ho hc hb hfd hk
  | closes ho hc hb hfd hk => exact ledger_closes h ho hc hb hfd hk

end

theorem ledger_exec {k0 k k' : Kernel} {α : Type} {p : Prog Call Reply α} {a : α} {T evs : List Ev}
    (h : Ledger k0 k T) (hx : Prog.Exec (Kernel.Answers .never) p k evs a k') :
    Ledger k0 k' (T ++ evs) :=
  hx.invariant (I := fun k T => Ledger k0 k T)
    (fun _ _ _ _ _ ha hl => ledger_snoc hl (entry_of_answer ha)) T h

/-! ## Owners -/

abbrev SocketsConfig := Config Sockets

abbrev SocketsMove := Move SocketsConfig (Label SocketsOp Unit)

abbrev SocketsStep [Host] := OpStep .never Sockets.perform

def OwnsFd (this : Sockets) (i : Nat) (fd : Fd) : Prop :=
  ∃ sock, this[i]? = some (some sock) ∧ fd ∈ sock.held

theorem mem_slotHeld {slot : Option Socket} {fd : Fd} :
    fd ∈ slotHeld slot ↔ ∃ sock, slot = some sock ∧ fd ∈ sock.held := by
  cases slot <;> simp [slotHeld]

theorem mem_held {this : Sockets} {fd : Fd} : fd ∈ this.held ↔ ∃ i, OwnsFd this i fd := by
  unfold Sockets.held OwnsFd
  rw [mem_heldBy]
  constructor
  · rintro ⟨i, slot, hi, hfd⟩
    obtain ⟨sock, rfl, hfd⟩ := mem_slotHeld.mp hfd
    exact ⟨i, sock, hi, hfd⟩
  · rintro ⟨i, sock, hi, hfd⟩
    exact ⟨i, some sock, hi, hfd⟩

theorem OwnsFd.unique {this : Sockets} (hn : this.held.Nodup) {i j : Nat} {fd : Fd}
    (hi : OwnsFd this i fd) (hj : OwnsFd this j fd) : i = j := by
  obtain ⟨x, hx, hfd⟩ := hi
  obtain ⟨y, hy, hfd'⟩ := hj
  exact one_holder hn hx hy hfd hfd'

theorem SocketsOp.mem_held {op : SocketsOp} {this : Sockets} {fd : Fd} (h : fd ∈ op.held this) :
    ∃ i, op.target = some i ∧ OwnsFd this i fd := by
  unfold SocketsOp.held at h
  split at h
  · rename_i i hi
    cases hslot : this[i]? with
    | none => simp [hslot] at h
    | some slot =>
      rw [hslot] at h
      obtain ⟨sock, rfl, hfd⟩ := mem_slotHeld.mp h
      exact ⟨i, hi, sock, hslot, hfd⟩
  · simp at h

/-- Every fd that the sockets obtained and did not close is owned by one of them. -/
structure FdsOwned [Host] (t : List SocketsMove) (c : SocketsConfig) : Prop where
  owned_iff : ∀ fd, (∃ n, (fd, n) ∈ obtained (callsOf t) ∧ n ∉ closed (callsOf t)) ↔
    ∃ i, OwnsFd c.fsm i fd
  one_owner : ∀ fd i j, OwnsFd c.fsm i fd → OwnsFd c.fsm j fd → i = j
  /-- `close` is called on open fds only, at most once on each. -/
  closes_open : ∀ e ∈ callsOf t, ∀ fd, e.call = .close fd → e.before.files fd ≠ none
  closed_once : (closed (callsOf t)).Nodup
  all_closed : (∀ slot ∈ c.fsm, slot = none) →
    ∀ x ∈ obtained (callsOf t), x.2 ∈ closed (callsOf t)
  /-- An operation leaves the fds of the other sockets alone. -/
  own_calls : ∀ x ∈ t, ∀ e ∈ x.label.evs, ∀ fd, e.call.fd? = some fd →
    ∀ i, OwnsFd x.before.fsm i fd → x.label.op.target = some i
  /-- No destructor throws, whatever is done next. -/
  survives : ∀ op, ¬ Prog.Halts (Kernel.Answers .never) (Sockets.perform op c.fsm) c.kernel
    .terminated

section

variable [Host] {c0 c c' : SocketsConfig} {l : Label SocketsOp Unit} {t : List SocketsMove}

theorem step_handover (ho : fds.Owns c.kernel c.fsm.held) (h : SocketsStep c l c') :
    (∃ own', fds.Handover c.kernel (l.op.held c.fsm) l.evs c'.kernel own') ∧
      fds.Handover c.kernel c.fsm.held l.evs c'.kernel c'.fsm.held := by
  have hsplit := l.op.held_add_others c.fsm
  rw [hsplit] at ho ⊢
  obtain ⟨own', hover, heq⟩ := (Sockets.perform_keeps l.op _ ho.left).2 _ _ _ h
  refine ⟨⟨own', hover⟩, ?_⟩
  rw [show c'.fsm.held = own' + l.op.others c.fsm from heq]
  exact hover.frame ho

theorem step_survives (ho : fds.Owns c.kernel c.fsm.held) (op : SocketsOp) :
    ¬ Prog.Halts (Kernel.Answers .never) (Sockets.perform op c.fsm) c.kernel .terminated := by
  have hsplit := op.held_add_others c.fsm
  rw [hsplit] at ho
  exact (Sockets.perform_keeps op _ ho.left).1

theorem step_own_calls (ho : fds.Owns c.kernel c.fsm.held) (h : SocketsStep c l c') :
    ∀ e ∈ l.evs, ∀ fd, e.call.fd? = some fd → ∀ i, OwnsFd c.fsm i fd → l.op.target = some i := by
  intro e he fd hfd i hi
  obtain ⟨⟨own', hover⟩, -⟩ := step_handover ho h
  have hout : fds.Out c.kernel fd := ho.out fd (mem_held.mpr ⟨i, hi⟩)
  have hmem : fd ∈ l.op.held c.fsm :=
    (hover.calls e he fd hfd).resolve_right (not_not.mpr hout)
  obtain ⟨j, hj, hown⟩ := SocketsOp.mem_held hmem
  obtain rfl := hown.unique ho.nodup hi
  exact hj

/-- A whole run as one operation of an owner that had nothing. -/
structure OwnersInv (k0 : Kernel) (t : List SocketsMove) (c : SocketsConfig) : Prop where
  handover : fds.Handover k0 0 (callsOf t) c.kernel c.fsm.held
  ledger : Ledger k0 c.kernel (callsOf t)
  own_calls : ∀ x ∈ t, ∀ e ∈ x.label.evs, ∀ fd, e.call.fd? = some fd →
    ∀ i, OwnsFd x.before.fsm i fd → x.label.op.target = some i

theorem ownersInv_step {k0 : Kernel} (hi : OwnersInv k0 t c) (h : SocketsStep c l c') :
    OwnersInv k0 (t ++ [⟨c, l, c'⟩]) c' := by
  have ho := hi.handover.owns
  constructor
  · rw [callsOf_snoc]
    exact hi.handover.trans (step_handover ho h).2
  · rw [callsOf_snoc]
    exact ledger_exec hi.ledger h
  · intro x hx
    rcases List.mem_append.mp hx with hx | hx
    · exact hi.own_calls x hx
    · obtain rfl := List.mem_singleton.mp hx
      exact step_own_calls ho h

omit [Host] in
theorem OwnersInv.open_iff {k0 : Kernel} (hk0 : k0.Wf) (hi : OwnersInv k0 t c) {fd : Fd} :
    (∃ n, k0.born ≤ n ∧ c.kernel.serialAt fd = some n) ↔ fd ∈ c.fsm.held := by
  constructor
  · rintro ⟨n, hle, hn⟩
    obtain ⟨f, hf, rfl⟩ := Kernel.serialAt_eq_some.mp hn
    have hout : fds.Out c.kernel fd := by simp [Out, fds, hf]
    rcases hi.handover.rest fd hout with hmem | ⟨-, hout0⟩
    · exact hmem
    · -- it was open at first: then it is the fd it was
      have hsame : c.kernel.files fd = k0.files fd :=
        (hi.handover.others fd (Multiset.notMem_zero fd) hout0).2
      have hlt := hk0.serial_lt (hsame ▸ hf)
      omega
  · intro hmem
    obtain ⟨f, hf⟩ := Option.ne_none_iff_exists'.mp (hi.handover.owns.out fd hmem)
    have hn : c.kernel.serialAt fd = some f.serial := Kernel.serialAt_eq_some.mpr ⟨f, hf, rfl⟩
    refine ⟨f.serial, ?_, hn⟩
    by_contra hlt
    have hout0 : fds.Out k0 fd := hi.ledger.old hn (not_le.mp hlt)
    exact (hi.handover.others fd (Multiset.notMem_zero fd) hout0).1 hmem

theorem ownersInv_of_path (h0 : c0.fsm = []) (hk : c0.kernel.Wf)
    (h : StepPath SocketsStep c0 t c) : OwnersInv c0.kernel t c := by
  refine h.invariant (I := OwnersInv c0.kernel) ?_ fun t c l c' hi hs => ownersInv_step hi hs
  have hnone : c0.fsm.held = 0 := by
    rw [h0]
    rfl
  refine ⟨?_, ledger_nil hk, by simp⟩
  rw [hnone]
  exact .refl ⟨hk, Multiset.nodup_zero, by simp⟩

/-- No fd is lost, shared or closed twice. -/
theorem fdsOwned_of_path (h0 : c0.fsm = []) (hk : c0.kernel.Wf) (h : StepPath SocketsStep c0 t c) :
    FdsOwned t c := by
  have hi : OwnersInv c0.kernel t c := ownersInv_of_path h0 hk h
  have ho := hi.handover.owns
  have howned : ∀ fd, (∃ n, (fd, n) ∈ obtained (callsOf t) ∧ n ∉ closed (callsOf t)) ↔
      ∃ i, OwnsFd c.fsm i fd := by
    intro fd
    rw [← mem_held, ← hi.open_iff hk]
    exact exists_congr fun n => hi.ledger.open_iff
  refine ⟨howned, fun fd i j h h' => h.unique ho.nodup h', ?_, hi.ledger.once, ?_, hi.own_calls,
    step_survives ho⟩
  · intro e he fd hc
    exact hi.handover.givesBack e he fd (by simp [fds, hc, Call.fd?]) ⟨fd, hc⟩
  · rintro hnone ⟨fd, n⟩ hx
    by_contra hn
    obtain ⟨i, sock, hi, -⟩ := (howned fd).mp ⟨n, hx, hn⟩
    have := hnone _ (List.mem_of_getElem? hi)
    simp at this

end

def acceptedAndMoved [Host] : List (SocketsOp × List Reply) :=
  [(.newListening ⟨.default, {}, 0, false, .INIT⟩ someAddress 5, setupReplies 3 ++ [okReply]),
    (.server 0 .accept, [⟨4, 0, someAddress.getSockaddrStorage, []⟩]), (.moveConstruct 1, []),
    (.destroy 1, []), (.destroy 0, [okReply]), (.destroy 2, [okReply])]

theorem fdsOwned_acceptedAndMoved : ∃ (_ : Host) (t : List SocketsMove) (c : SocketsConfig),
    t.length = 6 ∧ obtained (callsOf t) = [(3, 0), (4, 1)] ∧ FdsOwned t c := by
  have h := path_of_session (m := .never) (c := ⟨[], emptyKernel⟩)
    (rfl : follow (nextOp .never (@Sockets.perform littleHost)) _
      (@acceptedAndMoved littleHost) = some (_, _))
  exact ⟨littleHost, _, _, rfl, rfl, @fdsOwned_of_path littleHost _ _ _ rfl emptyKernel_wf h⟩

end Snl
