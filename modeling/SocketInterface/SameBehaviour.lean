import SocketInterface.Twins
import SocketInterface.Session

/-!
# The storage of a new server socket

Neither constructor sets `fsmState`, so the checks read what the storage held until the first
transition writes it.
-/

namespace Snl

open Method Prog

/-! ## The same behaviour -/

def bindRefusal : SnlException := .plain "ServerSocket error: binding to already bound socket"

section

variable [Host]

/-- The first `bind` on the object, unless a `close` or a `reset` is called before it, is not the
one that `bindCheck` refuses. -/
def BindAdmitted : List ServerOp → ServerSocketFsm → List Reply → Prop
  | [], _, _ => True
  | .bind sockAddr :: _, this, _ =>
    ServerSocketFsm.perform (.bind sockAddr) this ≠ .done (.error bindRefusal, this)
  | .close :: _, _, _ | .reset :: _, _, _ => True
  | op :: ops, this, replies => ∀ x replies',
    runOn (ServerSocketFsm.perform op this) replies = some (x, replies') →
      BindAdmitted ops x.2 replies'

abbrev ServerPlaysLike (ρ : FdRenaming) : List ServerOp → ServerSocketFsm → ServerSocketFsm →
    List Reply → Prop :=
  PlaysLike ρ.onCalls (ServerValue.rename ρ) ServerSocketFsm.perform

/-- Objects built by `ServerSocketFsm()`, with the same calls and results on all replies. -/
def SameBehaviour (prior prior' : ServerSocketFsm) (ops : List ServerOp) : Prop :=
  ∀ replies, ServerPlaysLike .same ops (.construct prior) (.construct prior') replies ∧
    BindAdmitted ops (.construct prior) replies ∧ BindAdmitted ops (.construct prior') replies

def SameListening (prior prior' : ServerSocketFsm) (sockAddr : SocketAddress) (backlog : Int)
    (ops : List ServerOp) : Prop :=
  (∀ replies, InStep FdRenaming.same.onCalls (fun replies r r' => match r, r' with
      | .ok this, .ok this' => ServerPlaysLike .same ops this this' replies
      | .error e, .error e' => e' = e
      | _, _ => False)
    (ServerSocketFsm.constructListening prior sockAddr backlog)
    (ServerSocketFsm.constructListening prior' sockAddr backlog) replies) ∧
  ServerSocketFsm.constructListening prior sockAddr backlog ≠ .done (.error bindRefusal) ∧
  ServerSocketFsm.constructListening prior' sockAddr backlog ≠ .done (.error bindRefusal)

end

/-! ## When the storage is seen -/

/-- The checks of the operation find no difference between the two states. -/
def ServerOp.SameBranch (b b' : ServerFsmState) : ServerOp → Prop
  | .bind _ => b = .INIT ↔ b' = .INIT
  | .listen _ => (b = .BOUND ↔ b' = .BOUND) ∧ (b < .BOUND ↔ b' < .BOUND)
  | .accept => b = .LISTENING ∨ b = .ACCEPTING ↔ b' = .LISTENING ∨ b' = .ACCEPTING
  | .close | .isClosed => b = .CLOSED ↔ b' = .CLOSED
  | .getSockAddr | .getIpAddress | .getTcpPort | .isBound => .BOUND ≤ b ↔ .BOUND ≤ b'
  | .isListening => .LISTENING ≤ b ∧ b < .CLOSED ↔ .LISTENING ≤ b' ∧ b' < .CLOSED
  | .isAccepting => b = .ACCEPTING ↔ b' = .ACCEPTING
  | .reset | ServerOp.setNonBlockIO _ | ServerOp.getNonBlockIO => True

/-- No operation before the first `close` or `reset`, and no such `close`, tells the states apart. -/
def Unseen (b b' : ServerFsmState) : List ServerOp → Prop
  | [] => True
  | op :: ops => b = b' ∨
    (op.SameBranch b b' ∧ (op = .close ∨ op = .reset ∨ Unseen b b' ops))

def BindsFirst : List ServerOp → Prop
  | [] | .close :: _ | .reset :: _ => False
  | .bind _ :: _ => True
  | _ :: ops => BindsFirst ops

namespace ServerSocketFsm

variable {this : ServerSocketFsm}

/-! What the operations of an object without an fd do. -/

section

variable [Host]

theorem perform_bind_refused (sockAddr : SocketAddress) (h : this.fsmState ≠ .INIT) :
    perform (.bind sockAddr) this = .done (.error bindRefusal, this) := by
  simp [perform, bind, bindCheck, Bind.bind, self, raise, h, bindRefusal]

theorem perform_bind_calls (sockAddr : SocketAddress) (h : this.fsmState = .INIT) :
    ∃ c k, perform (.bind sockAddr) this = .call c k := by
  simp [perform, bind, bindCheck, Bind.bind, self, Pure.pure, h, makeSockFdAndBind, makeFdGuard,
    issue]

theorem perform_listen (this : ServerSocketFsm) (listenBacklog : Int) :
    perform (.listen listenBacklog) this =
    if this.fsmState = .BOUND then .call (.listen this.servSockFd.fd listenBacklog) fun r =>
      if r.status = -1 then .done (.error (.errno "System call error: " r.errno), this)
      else .done (.ok .unit, { this with backlog := listenBacklog, fsmState := .LISTENING })
    else .done (.error (.plain (if this.fsmState < .BOUND then
      "ServerSocket error: trying to listen with unbound socket"
      else "ServerSocker error: trying to listen with already listening socket")), this) := by
  by_cases h : this.fsmState = .BOUND
  · have hcheck : (listenCheck this.fsmState : M ServerSocketFsm Unit) = pure () :=
      if_neg (not_not.mpr h)
    simp only [perform, listen, Bind.bind, self, hcheck, Pure.pure, executeSyscall, issue,
      FdGuard.get, done_bind, call_bind, if_pos h]
    refine congrArg _ (funext fun r => ?_)
    by_cases hr : r.status = -1
    · simp [hr, raise]
    · simp [hr, update]
  · simp [perform, listen, listenCheck_eq, Bind.bind, self, raise, h]

theorem perform_accept (this : ServerSocketFsm) : perform .accept this =
    if this.fsmState = .LISTENING ∨ this.fsmState = .ACCEPTING then
      .call (.accept this.servSockFd.fd clientAddrlen) fun r =>
        if r.status = -1 then .done (.error (.errno "System call error: " r.errno), this)
        else .done (.ok (.client ⟨r.status⟩ r.sockaddr), { this with fsmState := .ACCEPTING })
    else .done (.error (.plain
      "ServerSocket error: trying to accept with socket that is either unbound or already closed"),
      this) := by
  by_cases h : this.fsmState = .LISTENING ∨ this.fsmState = .ACCEPTING
  · have hcheck : (acceptCheck this.fsmState : M ServerSocketFsm Unit) = pure () :=
      if_neg (not_and_or.mpr (h.imp not_not.mpr not_not.mpr))
    simp only [perform, accept, Bind.bind, self, hcheck, Pure.pure, executeSyscall, issue,
      FdGuard.get, done_bind, call_bind, if_pos h]
    refine congrArg _ (funext fun r => ?_)
    by_cases hr : r.status = -1
    · simp [hr, raise]
    · simp [hr, Ne.symm hr, onLocal, FdGuard.reset, FdGuard.closeFd, Prog.map, Bind.bind, self,
        update, Pure.pure, Except.map]
  · rw [if_neg h]
    simp [perform, accept, acceptCheck, Bind.bind, self, raise, not_or.mp h]

theorem perform_close_empty (h : this.servSockFd = ⟨-1⟩) : perform .close this =
    if this.fsmState = .CLOSED then
      .done (.error (.plain "ServerSocket error: trying to close an already closed socket"), this)
    else .done (.ok .unit, { this with fsmState := .CLOSED }) := by
  by_cases hs : this.fsmState = .CLOSED
  · simp [perform, close, closeCheck, Bind.bind, self, raise, hs]
  · simp [perform, close, closeCheck, Bind.bind, self, hs, onFd, zoom, FdGuard.close,
      FdGuard.closeFd, h, Pure.pure, update, Prog.map, FdGuard.NO_FD, FdGuard.isOwnableFd]

theorem perform_reset_empty (h : this.servSockFd = ⟨-1⟩) : perform .reset this =
    .done (.ok .unit, { this with nonBlockingIo := false, fsmState := .INIT }) := by
  simp [perform, reset, Bind.bind, self, onFd, zoom, FdGuard.close, FdGuard.closeFd, h, Pure.pure,
    update, Prog.map, FdGuard.NO_FD, FdGuard.isOwnableFd, defaultIOBehav]

theorem perform_setNonBlock_empty {b : Bool} (h : this.servSockFd = ⟨-1⟩) :
    perform (ServerOp.setNonBlockIO b) this =
      .done (.ok .unit, { this with nonBlockingIo := b }) := by
  by_cases hb : b = this.nonBlockingIo
  · simp [perform, ServerSocketFsm.setNonBlockIO, Bind.bind, self, Pure.pure, hb]
  · simp [perform, ServerSocketFsm.setNonBlockIO, Bind.bind, self, Pure.pure, hb, h, update]

def unboundRefusal : SnlException :=
  .plain "ServerSocket exception: trying to get the socket address of an unbound socket"

omit [Host] in
theorem getSockAddr_apply : getSockAddr this =
    .done (if this.isBound then .ok this.socketAddr else .error unboundRefusal, this) := by
  by_cases h : this.isBound <;>
    simp [getSockAddr, Bind.bind, self, Pure.pure, raise, h, unboundRefusal]

/-- The three getters of the address, with the member each of them returns. -/
theorem perform_getter (this : ServerSocketFsm) {op : ServerOp} {g : SocketAddress → ServerValue}
    (hop : ∀ addr, op = .getSockAddr ∧ g addr = .address addr ∨
      op = .getIpAddress ∧ g addr = .ip addr.getIpAddress ∨
      op = .getTcpPort ∧ g addr = .port addr.getTcpPort) :
    perform op this =
      .done (if this.isBound then .ok (g this.socketAddr) else .error unboundRefusal, this) := by
  rcases hop this.socketAddr with ⟨rfl, hg⟩ | ⟨rfl, hg⟩ | ⟨rfl, hg⟩ <;>
    by_cases h : this.isBound <;>
    simp [perform, getIpAddress, getTcpPort, Bind.bind, getSockAddr_apply, Pure.pure, h, hg]

end

end ServerSocketFsm

/-! ## Objects that differ in the state -/

structure Apart (b b' : ServerFsmState) (s s' : ServerSocketFsm) : Prop where
  addr : s'.socketAddr = s.socketAddr
  guard : s.servSockFd = ⟨-1⟩
  guard' : s'.servSockFd = ⟨-1⟩
  mode : s'.nonBlockingIo = s.nonBlockingIo
  state : s.fsmState = b
  state' : s'.fsmState = b'

theorem Apart.alike {b : ServerFsmState} {s s' : ServerSocketFsm} (h : Apart b b s s') :
    ∃ a, ServerTwin .same a a s s' := by
  refine ⟨s.socketAddr, rfl, h.addr, ?_, h.mode, h.state'.trans h.state.symm⟩
  rw [FdRenaming.Guards, h.guard, h.guard']
  rfl

theorem construct_apart (prior prior' : ServerSocketFsm) : Apart prior.fsmState prior'.fsmState
    (.construct prior) (.construct prior') := ⟨rfl, rfl, rfl, rfl, rfl, rfl⟩

theorem map_rename_same (r : Except SnlException ServerValue) :
    r.map (ServerValue.rename .same) = r := by
  rcases r with _ | v
  · rfl
  · cases v <;> rfl

section

variable [Host] {b b' : ServerFsmState} {s s' : ServerSocketFsm} {op : ServerOp}

inductive Meets (b b' : ServerFsmState) (s s' : ServerSocketFsm) (op : ServerOp) : Prop
  | kept {r t t'} (hp : ServerSocketFsm.perform op s = .done (r, t))
      (hp' : ServerSocketFsm.perform op s' = .done (r, t')) (h : Apart b b' t t')
      (hop : op ≠ .close ∧ op ≠ .reset) (hb : op.SameBranch b b') : Meets b b' s s' op
  | joined {r t t' c} (hp : ServerSocketFsm.perform op s = .done (r, t))
      (hp' : ServerSocketFsm.perform op s' = .done (r, t')) (h : Apart c c t t')
      (hop : op = .close ∨ op = .reset) (hb : op.SameBranch b b') : Meets b b' s s' op
  | accepts (hop : op = .accept) (h : b = .LISTENING ∨ b = .ACCEPTING)
      (h' : b' = .LISTENING ∨ b' = .ACCEPTING) : Meets b b' s s' op
  | split (hp : ¬ InStep FdRenaming.same.onCalls
        (fun _ x x' => x'.1 = x.1.map (ServerValue.rename .same))
        (ServerSocketFsm.perform op s) (ServerSocketFsm.perform op s') [])
      (hb : ¬ op.SameBranch b b') : Meets b b' s s' op

theorem meets_of_reads {r r' : Except SnlException ServerValue} (h : Apart b b' s s')
    (hp : ServerSocketFsm.perform op s = .done (r, s))
    (hp' : ServerSocketFsm.perform op s' = .done (r', s')) (hop : op ≠ .close ∧ op ≠ .reset)
    (hb : op.SameBranch b b' ↔ r' = r) : Meets b b' s s' op := by
  by_cases hr : r' = r
  · subst hr
    exact .kept hp hp' h hop (hb.mpr rfl)
  · refine .split ?_ (mt hb.mp hr)
    rw [hp, hp']
    exact fun heq => hr (heq.trans (map_rename_same r))

theorem meets_of_call {x : Except SnlException ServerValue × ServerSocketFsm}
    (hp : ∃ c k, ServerSocketFsm.perform op s = .call c k)
    (hp' : ServerSocketFsm.perform op s' = .done x) (hb : ¬ op.SameBranch b b') :
    Meets b b' s s' op := by
  obtain ⟨c, k, hp⟩ := hp
  refine .split ?_ hb
  rw [hp, hp']
  exact id

theorem meets_of_call_right {x : Except SnlException ServerValue × ServerSocketFsm}
    (hp : ServerSocketFsm.perform op s = .done x)
    (hp' : ∃ c k, ServerSocketFsm.perform op s' = .call c k) (hb : ¬ op.SameBranch b b') :
    Meets b b' s s' op := by
  obtain ⟨c, k, hp'⟩ := hp'
  refine .split ?_ hb
  rw [hp, hp']
  exact id

omit [Host] in
theorem isBound_congr {α : Type} {x : α} {e : SnlException} :
    (s.isBound = true ↔ s'.isBound = true) ↔
      (if s'.isBound = true then Except.ok x else .error e) =
        if s.isBound = true then .ok x else .error e := by
  by_cases h : s.isBound <;> by_cases h' : s'.isBound <;> simp [h, h']

theorem meets_getter {g : SocketAddress → ServerValue} (h : Apart b b' s s')
    (hop : ∀ addr, op = .getSockAddr ∧ g addr = .address addr ∨
      op = .getIpAddress ∧ g addr = .ip addr.getIpAddress ∨
      op = .getTcpPort ∧ g addr = .port addr.getTcpPort) : Meets b b' s s' op := by
  have hp := ServerSocketFsm.perform_getter s hop
  have hp' := ServerSocketFsm.perform_getter s' hop
  refine meets_of_reads h hp hp' ?_ ?_
  · rcases hop .default with ⟨rfl, -⟩ | ⟨rfl, -⟩ | ⟨rfl, -⟩ <;> simp
  · have hb : op.SameBranch b b' ↔ (s.isBound = true ↔ s'.isBound = true) := by
      simp only [ServerSocketFsm.isBound, decide_eq_true_eq, h.state, h.state']
      rcases hop .default with ⟨rfl, -⟩ | ⟨rfl, -⟩ | ⟨rfl, -⟩ <;> rfl
    rw [hb, h.addr]
    exact isBound_congr

theorem meets_bind {sockAddr : SocketAddress} (hne : b ≠ b') (h : Apart b b' s s') :
    Meets b b' s s' (.bind sockAddr) := by
  have hstate := h.state
  have hstate' := h.state'
  have hboth : ∀ {c}, b = c → b' ≠ c := fun hc hc' => hne (hc.trans hc'.symm)
  by_cases hs : s.fsmState = .INIT
  · have hs' : s'.fsmState ≠ .INIT := hstate' ▸ hboth (hstate ▸ hs)
    exact meets_of_call (ServerSocketFsm.perform_bind_calls sockAddr hs)
      (ServerSocketFsm.perform_bind_refused sockAddr hs')
      fun hb => hs' (hstate' ▸ hb.mp (hstate ▸ hs))
  · by_cases hs' : s'.fsmState = .INIT
    · exact meets_of_call_right (ServerSocketFsm.perform_bind_refused sockAddr hs)
        (ServerSocketFsm.perform_bind_calls sockAddr hs')
        fun hb => hs (hstate ▸ hb.mpr (hstate' ▸ hs'))
    · exact .kept (ServerSocketFsm.perform_bind_refused sockAddr hs)
        (ServerSocketFsm.perform_bind_refused sockAddr hs') h (by simp)
        (iff_of_false (hstate ▸ hs) (hstate' ▸ hs'))

theorem meets_listen {listenBacklog : Int} (hne : b ≠ b') (h : Apart b b' s s') :
    Meets b b' s s' (.listen listenBacklog) := by
  have hstate := h.state
  have hstate' := h.state'
  have hboth : ∀ {c}, b = c → b' ≠ c := fun hc hc' => hne (hc.trans hc'.symm)
  have hp := ServerSocketFsm.perform_listen s listenBacklog
  have hp' := ServerSocketFsm.perform_listen s' listenBacklog
  rw [hstate] at hp
  rw [hstate'] at hp'
  by_cases hs : b = .BOUND
  · rw [if_pos hs] at hp
    rw [if_neg (hboth hs)] at hp'
    exact meets_of_call ⟨_, _, hp⟩ hp' fun hb => hboth hs (hb.1.mp hs)
  · rw [if_neg hs] at hp
    by_cases hs' : b' = .BOUND
    · rw [if_pos hs'] at hp'
      exact meets_of_call_right hp ⟨_, _, hp'⟩ fun hb => hs (hb.1.mpr hs')
    · rw [if_neg hs'] at hp'
      refine meets_of_reads h hp hp' (by simp) ?_
      simp only [ServerOp.SameBranch, hs, hs', true_and]
      by_cases hlt : b < .BOUND <;> by_cases hlt' : b' < .BOUND <;> simp [hlt, hlt']

theorem meets_accept (h : Apart b b' s s') : Meets b b' s s' .accept := by
  have hstate := h.state
  have hstate' := h.state'
  have hp := ServerSocketFsm.perform_accept s
  have hp' := ServerSocketFsm.perform_accept s'
  rw [hstate] at hp
  rw [hstate'] at hp'
  by_cases hs : b = .LISTENING ∨ b = .ACCEPTING
  · by_cases hs' : b' = .LISTENING ∨ b' = .ACCEPTING
    · exact .accepts rfl hs hs'
    · rw [if_pos hs] at hp
      rw [if_neg hs'] at hp'
      exact meets_of_call ⟨_, _, hp⟩ hp' fun hb => hs' (hb.mp hs)
  · rw [if_neg hs] at hp
    by_cases hs' : b' = .LISTENING ∨ b' = .ACCEPTING
    · rw [if_pos hs'] at hp'
      exact meets_of_call_right hp ⟨_, _, hp'⟩ fun hb => hs (hb.mpr hs')
    · rw [if_neg hs'] at hp'
      exact meets_of_reads h hp hp' (by simp) (iff_of_true (iff_of_false hs hs') rfl)

theorem meets_close (hne : b ≠ b') (h : Apart b b' s s') : Meets b b' s s' .close := by
  have hstate := h.state
  have hstate' := h.state'
  have hboth : ∀ {c}, b = c → b' ≠ c := fun hc hc' => hne (hc.trans hc'.symm)
  have hp := ServerSocketFsm.perform_close_empty h.guard
  have hp' := ServerSocketFsm.perform_close_empty h.guard'
  rw [hstate] at hp
  rw [hstate'] at hp'
  by_cases hs : b = .CLOSED
  · refine .split ?_ fun hb => hboth hs (hb.mp hs)
    rw [hp, hp', if_pos hs, if_neg (hboth hs)]
    exact fun heq => by cases heq
  · by_cases hs' : b' = .CLOSED
    · refine .split ?_ fun hb => hs (hb.mpr hs')
      rw [hp, hp', if_pos hs', if_neg hs]
      exact fun heq => by cases heq
    · rw [if_neg hs] at hp
      rw [if_neg hs'] at hp'
      exact .joined hp hp' ⟨h.addr, h.guard, h.guard', h.mode, rfl, rfl⟩ (.inl rfl)
        (iff_of_false hs hs')

theorem meets (op : ServerOp) (hne : b ≠ b') (h : Apart b b' s s') : Meets b b' s s' op := by
  have hstate := h.state
  have hstate' := h.state'
  cases op with
  | bind => exact meets_bind hne h
  | listen => exact meets_listen hne h
  | accept => exact meets_accept h
  | close => exact meets_close hne h
  | getSockAddr => exact meets_getter h fun _ => .inl ⟨rfl, rfl⟩
  | getIpAddress => exact meets_getter h fun _ => .inr (.inl ⟨rfl, rfl⟩)
  | getTcpPort => exact meets_getter h fun _ => .inr (.inr ⟨rfl, rfl⟩)
  | reset =>
    exact .joined (ServerSocketFsm.perform_reset_empty h.guard)
      (ServerSocketFsm.perform_reset_empty h.guard')
      ⟨h.addr, h.guard, h.guard', rfl, rfl, rfl⟩ (.inr rfl) trivial
  | setNonBlockIO nonBlockVal =>
    exact .kept (ServerSocketFsm.perform_setNonBlock_empty h.guard)
      (ServerSocketFsm.perform_setNonBlock_empty h.guard')
      ⟨h.addr, h.guard, h.guard', rfl, hstate, hstate'⟩ (by simp) trivial
  | getNonBlockIO =>
    refine meets_of_reads h rfl rfl (by simp) (iff_of_true trivial ?_)
    simp only [ServerSocketFsm.getNonBlockIO, h.mode]
  | isBound =>
    refine meets_of_reads h rfl rfl (by simp) ?_
    simp [ServerOp.SameBranch, ServerSocketFsm.isBound, hstate, hstate', iff_comm]
  | isListening =>
    refine meets_of_reads h rfl rfl (by simp) ?_
    simp [ServerOp.SameBranch, ServerSocketFsm.isListening, hstate, hstate', ← Bool.decide_and,
      iff_comm]
  | isAccepting =>
    refine meets_of_reads h rfl rfl (by simp) ?_
    simp [ServerOp.SameBranch, ServerSocketFsm.isAccepting, hstate, hstate', eq_comm]
  | isClosed =>
    refine meets_of_reads h rfl rfl (by simp) ?_
    simp [ServerOp.SameBranch, ServerSocketFsm.isClosed, hstate, hstate', eq_comm]

/-! ## The two behaviours -/

/-- Equal but for the backlog and the numbers of the fds. -/
def Alike (ρ : FdRenaming) (s s' : ServerSocketFsm) : Prop := ∃ a, ServerTwin ρ a a s s'

omit [Host] in
theorem ends_alike {ρ : FdRenaming} {α α' : Type} {A : α → α' → Prop} {a a' : SocketAddress}
    {x : Except SnlException α × ServerSocketFsm} {x' : Except SnlException α' × ServerSocketFsm}
    (h : Ends A (ServerTwin ρ a a) (ServerTwin ρ a' a') x x') :
    Ends A (Alike ρ) (Alike ρ) x x' := by
  obtain ⟨e, t, t', rfl, rfl, ht⟩ | ⟨v, v', t, t', rfl, rfl, hv, ht⟩ := ends_cases h
  · exact ⟨rfl, a, ht⟩
  · exact ⟨hv, a', ht⟩

theorem playsLike_of_alike {ρ : FdRenaming} (h : Alike ρ s s') (ops : List ServerOp)
    (replies : List Reply) : ServerPlaysLike ρ ops s s' replies := by
  refine playsLike_of_twins (T := Alike ρ) ?_ ops h replies
  rintro op s s' ⟨a, h⟩
  refine (ServerSocketFsm.perform_twin h fun _ => ?_).mono fun _ _ => ends_alike
  cases op <;> simp [ServerOp.Distinguishes]

theorem playsLike_cons_of_done {ops : List ServerOp} {t t' : ServerSocketFsm}
    {r : Except SnlException ServerValue} {replies : List Reply}
    (hp : ServerSocketFsm.perform op s = .done (r, t))
    (hp' : ServerSocketFsm.perform op s' = .done (r, t')) :
    ServerPlaysLike .same (op :: ops) s s' replies ↔ ServerPlaysLike .same ops t t' replies := by
  show InStep _ _ (ServerSocketFsm.perform op s) (ServerSocketFsm.perform op s') replies ↔ _
  rw [hp, hp']
  exact and_iff_right (map_rename_same r).symm

/-- Two objects that wait for a client: when `accept` fails they stay apart. -/
theorem playsLike_accept {ops : List ServerOp} (h : Apart b b' s s')
    (hs : b = .LISTENING ∨ b = .ACCEPTING) (hs' : b' = .LISTENING ∨ b' = .ACCEPTING) :
    (∀ replies, ServerPlaysLike .same (.accept :: ops) s s' replies) ↔
      ∀ replies, ServerPlaysLike .same ops s s' replies := by
  have hp := ServerSocketFsm.perform_accept s
  have hp' := ServerSocketFsm.perform_accept s'
  rw [h.state, if_pos hs] at hp
  rw [h.state', if_pos hs'] at hp'
  have hcons : ∀ replies, ServerPlaysLike .same (.accept :: ops) s s' replies ↔ InStep _ _
      (ServerSocketFsm.perform .accept s) (ServerSocketFsm.perform .accept s') replies :=
    fun _ => Iff.rfl
  simp only [hcons, hp, hp', h.guard, h.guard']
  constructor
  · intro hall replies
    exact (hall ({ status := -1 } :: replies)).2.2
  · intro hall replies
    cases replies with
    | nil => rfl
    | cons r replies =>
      refine ⟨rfl, ?_⟩
      show InStep _ _ (if r.status = -1 then _ else _) (if r.status = -1 then _ else _) replies
      split
      · exact ⟨rfl, hall replies⟩
      · refine ⟨rfl, playsLike_of_alike (Apart.alike (b := .ACCEPTING) ?_) ops replies⟩
        exact ⟨h.addr, rfl, rfl, h.mode, rfl, rfl⟩

theorem playsLike_iff_unseen (hne : b ≠ b') {ops : List ServerOp} (h : Apart b b' s s') :
    (∀ replies, ServerPlaysLike .same ops s s' replies) ↔ Unseen b b' ops := by
  induction ops generalizing s s' with
  | nil => exact iff_of_true (fun _ => trivial) trivial
  | cons op ops ih =>
    have hunseen : Unseen b b' (op :: ops) ↔
        op.SameBranch b b' ∧ (op = .close ∨ op = .reset ∨ Unseen b b' ops) := or_iff_right hne
    rw [hunseen]
    cases meets op hne h with
    | kept hp hp' h hop hb =>
      simp only [playsLike_cons_of_done hp hp', ih h, hb, true_and, hop, false_or]
    | joined hp hp' h hop hb =>
      refine iff_of_true (fun replies => ?_) ⟨hb, hop.elim .inl fun h => .inr (.inl h)⟩
      exact (playsLike_cons_of_done hp hp').mpr (playsLike_of_alike h.alike ops replies)
    | accepts hop hs hs' =>
      subst hop
      have hb : ServerOp.SameBranch b b' .accept := iff_of_true hs hs'
      simp only [playsLike_accept h hs hs', ih h, hb, true_and, reduceCtorEq, false_or]
    | split hp hb =>
      refine iff_of_false (fun hall => hp ?_) fun h => hb h.1
      exact InStep.mono (hall []) fun _ _ _ hx => hx.1

/-! ## The first `bind` -/

/-- The operation gives the object no fd and does not leave `INIT`, and on some replies it leaves
the state as it was. -/
structure StaysUnbound (op : ServerOp) (s : ServerSocketFsm) : Prop where
  ends : ∀ {x replies replies'}, runOn (ServerSocketFsm.perform op s) replies = some (x, replies') →
    x.2.servSockFd = ⟨-1⟩ ∧ (s.fsmState = .INIT → x.2.fsmState = .INIT)
  reaches : ∃ replies x, x.2.servSockFd = ⟨-1⟩ ∧ x.2.fsmState = s.fsmState ∧ ∀ replies',
    runOn (ServerSocketFsm.perform op s) (replies ++ replies') = some (x, replies')

theorem staysUnbound_of_done {r : Except SnlException ServerValue} {t : ServerSocketFsm}
    (hp : ServerSocketFsm.perform op s = .done (r, t)) (ht : t.servSockFd = ⟨-1⟩)
    (hstate : t.fsmState = s.fsmState) : StaysUnbound op s := by
  constructor
  · intro x replies replies' hrun
    rw [hp] at hrun
    obtain ⟨rfl, rfl⟩ := Prod.mk.inj (Option.some.inj hrun)
    exact ⟨ht, fun hs => hstate.trans hs⟩
  · exact ⟨[], (r, t), ht, hstate, fun replies' => by rw [hp]; rfl⟩

theorem staysUnbound_of_call {c : Call} {e : Reply → SnlException} {v : Reply → ServerValue}
    {t : ServerSocketFsm} (hp : ServerSocketFsm.perform op s = .call c fun r =>
      if r.status = -1 then .done (.error (e r), s) else .done (.ok (v r), t))
    (hs : s.servSockFd = ⟨-1⟩) (ht : t.servSockFd = ⟨-1⟩) (hstate : s.fsmState ≠ .INIT) :
    StaysUnbound op s := by
  constructor
  · intro x replies replies' hrun
    rw [hp] at hrun
    cases replies with
    | nil => cases hrun
    | cons r replies =>
      replace hrun : runOn (if r.status = -1 then .done (.error (e r), s) else .done (.ok (v r), t))
        replies = some (x, replies') := hrun
      split at hrun
      · obtain ⟨rfl, rfl⟩ := Prod.mk.inj (Option.some.inj hrun)
        exact ⟨hs, id⟩
      · obtain ⟨rfl, rfl⟩ := Prod.mk.inj (Option.some.inj hrun)
        exact ⟨ht, fun h => absurd h hstate⟩
  · exact ⟨[{ status := -1 }], (.error (e _), s), hs, rfl, fun replies' => by rw [hp]; rfl⟩

theorem staysUnbound (op : ServerOp) (h : s.servSockFd = ⟨-1⟩)
    (hbind : ∀ sockAddr, op ≠ .bind sockAddr) (hclose : op ≠ .close) (hreset : op ≠ .reset) :
    StaysUnbound op s := by
  have hgetter := @ServerSocketFsm.perform_getter _ s op
  cases op with
  | bind sockAddr => exact absurd rfl (hbind sockAddr)
  | close => exact absurd rfl hclose
  | reset => exact absurd rfl hreset
  | listen listenBacklog =>
    have hp := ServerSocketFsm.perform_listen s listenBacklog
    by_cases hs : s.fsmState = .BOUND
    · rw [if_pos hs] at hp
      exact staysUnbound_of_call hp h h (by rw [hs]; decide)
    · rw [if_neg hs] at hp
      exact staysUnbound_of_done hp h rfl
  | accept =>
    have hp := ServerSocketFsm.perform_accept s
    by_cases hs : s.fsmState = .LISTENING ∨ s.fsmState = .ACCEPTING
    · rw [if_pos hs] at hp
      refine staysUnbound_of_call hp h h ?_
      rcases hs with hs | hs <;> rw [hs] <;> decide
    · rw [if_neg hs] at hp
      exact staysUnbound_of_done hp h rfl
  | getSockAddr => exact staysUnbound_of_done (hgetter fun _ => .inl ⟨rfl, rfl⟩) h rfl
  | getIpAddress => exact staysUnbound_of_done (hgetter fun _ => .inr (.inl ⟨rfl, rfl⟩)) h rfl
  | getTcpPort => exact staysUnbound_of_done (hgetter fun _ => .inr (.inr ⟨rfl, rfl⟩)) h rfl
  | setNonBlockIO => exact staysUnbound_of_done (ServerSocketFsm.perform_setNonBlock_empty h) h rfl
  | getNonBlockIO | isBound | isListening | isAccepting | isClosed =>
    exact staysUnbound_of_done rfl h rfl

theorem bindAdmitted_cons {ops : List ServerOp} (h : StaysUnbound op s)
    (ih : ∀ t : ServerSocketFsm, t.servSockFd = ⟨-1⟩ →
      ((∀ replies, BindAdmitted ops t replies) ↔ (BindsFirst ops → t.fsmState = .INIT))) :
    (∀ replies x replies', runOn (ServerSocketFsm.perform op s) replies = some (x, replies') →
      BindAdmitted ops x.2 replies') ↔ (BindsFirst ops → s.fsmState = .INIT) := by
  constructor
  · intro hall hbind
    obtain ⟨replies, x, hfd, hstate, hrun⟩ := h.reaches
    rw [← hstate]
    exact (ih x.2 hfd).mp (fun replies' => hall _ x replies' (hrun replies')) hbind
  · intro hbind replies x replies' hrun
    obtain ⟨hfd, hinit⟩ := h.ends hrun
    exact (ih x.2 hfd).mpr (fun h => hinit (hbind h)) replies'

theorem bindAdmitted_iff (ops : List ServerOp) (h : s.servSockFd = ⟨-1⟩) :
    (∀ replies, BindAdmitted ops s replies) ↔ (BindsFirst ops → s.fsmState = .INIT) := by
  induction ops generalizing s with
  | nil => exact iff_of_true (fun _ => trivial) False.elim
  | cons op ops ih =>
    have hother := fun h1 h2 h3 => bindAdmitted_cons (staysUnbound op h h1 h2 h3) @ih
    cases op with
    | bind sockAddr =>
      constructor
      · intro hall _
        by_contra hs
        exact hall [] (ServerSocketFsm.perform_bind_refused sockAddr hs)
      · intro hs _ hdone
        obtain ⟨c, k, hcall⟩ := ServerSocketFsm.perform_bind_calls sockAddr (hs trivial)
        rw [hcall] at hdone
        cases hdone
    | close | reset => exact iff_of_true (fun _ => trivial) False.elim
    | _ => exact hother (by simp) (by simp) (by simp)

/-! ## The constructor that binds -/

variable {prior prior' : ServerSocketFsm} {sockAddr : SocketAddress} {backlog : Int}

theorem constructListening_refused (h : prior.fsmState ≠ .INIT) :
    ServerSocketFsm.constructListening prior sockAddr backlog = .done (.error bindRefusal) := by
  simp [ServerSocketFsm.constructListening, ServerSocketFsm.bind, ServerSocketFsm.bindCheck,
    ServerSocketFsm.construct, Bind.bind, self, raise, h, destroy, FdGuard.close, FdGuard.closeFd,
    FdGuard.isOwnableFd, FdGuard.NO_FD, Pure.pure, update, bindRefusal]

theorem constructListening_calls (sockAddr : SocketAddress) (backlog : Int)
    (h : prior.fsmState = .INIT) :
    ∃ c k, ServerSocketFsm.constructListening prior sockAddr backlog = .call c k := by
  simp [ServerSocketFsm.constructListening, ServerSocketFsm.bind, ServerSocketFsm.bindCheck,
    ServerSocketFsm.construct, Bind.bind, self, Pure.pure, h, ServerSocketFsm.makeSockFdAndBind,
    makeFdGuard, issue]

def BuiltAlike : Except SnlException ServerSocketFsm → Except SnlException ServerSocketFsm → Prop
  | .ok this, .ok this' => Alike .same this this'
  | .error e, .error e' => e' = e
  | _, _ => False

theorem constructListening_twin (h : prior.fsmState = .INIT) (h' : prior'.fsmState = .INIT) :
    Twin FdRenaming.same.onCalls BuiltAlike
      (ServerSocketFsm.constructListening prior sockAddr backlog)
      (ServerSocketFsm.constructListening prior' sockAddr backlog) := by
  have hbind : Twins FdRenaming.same.onCalls (Alike .same) (fun _ _ => True) (Alike .same)
      (ServerSocketFsm.bind sockAddr) (ServerSocketFsm.bind sockAddr) := by
    rintro s s' ⟨a, h⟩
    exact (ServerSocketFsm.bind_twins sockAddr s s' h).mono fun _ _ => ends_alike
  have hlisten : Twins FdRenaming.same.onCalls (Alike .same) (fun _ _ => True) (Alike .same)
      (ServerSocketFsm.listen backlog) (ServerSocketFsm.listen backlog) := by
    rintro s s' ⟨a, h⟩
    exact (ServerSocketFsm.listen_twins backlog s s' h).mono fun _ _ => ends_alike
  have hnew : Alike .same (.construct prior) (.construct prior') :=
    ⟨.default, rfl, rfl, rfl, rfl, h'.trans h.symm⟩
  refine (twins_bind hbind (fun _ _ _ => hlisten) _ _ hnew).bind fun x x' hx => ?_
  obtain ⟨e, t, t', rfl, rfl, a, ht⟩ | ⟨v, v', t, t', rfl, rfl, -, ht⟩ := ends_cases hx
  · -- the destructor of the guard runs, and the exception goes on
    exact (twin_destroy FdRenaming.close_twins ht.guard).bind fun _ _ _ => .done rfl
  · exact .done ht

/-- What the storage held before is not seen, and the first `bind` not refused, exactly when the
operations up to the first `close` or `reset` take the same branches on both bytes, and when there
is a `bind` among them both bytes were `INIT`. -/
theorem priorContent_iff (prior prior' : ServerSocketFsm) :
    (∀ ops, SameBehaviour prior prior' ops ↔ Unseen prior.fsmState prior'.fsmState ops ∧
      (BindsFirst ops → prior.fsmState = .INIT ∧ prior'.fsmState = .INIT)) ∧
    ∀ sockAddr backlog ops, SameListening prior prior' sockAddr backlog ops ↔
      prior.fsmState = .INIT ∧ prior'.fsmState = .INIT := by
  constructor
  · intro ops
    have hplays : (∀ replies, ServerPlaysLike .same ops (.construct prior) (.construct prior')
        replies) ↔ Unseen prior.fsmState prior'.fsmState ops := by
      have hapart := construct_apart prior prior'
      by_cases hne : prior.fsmState = prior'.fsmState
      · rw [hne] at hapart ⊢
        refine iff_of_true (playsLike_of_alike hapart.alike ops) ?_
        cases ops with
        | nil => trivial
        | cons => exact .inl rfl
      · exact playsLike_iff_unseen hne hapart
    have hbind := bindAdmitted_iff (s := .construct prior) ops rfl
    have hbind' := bindAdmitted_iff (s := .construct prior') ops rfl
    unfold SameBehaviour
    rw [forall_and, forall_and, hplays, hbind, hbind', ← imp_and]
    rfl
  · intro sockAddr backlog ops
    constructor
    · rintro ⟨-, h, h'⟩
      exact ⟨not_not.mp (mt constructListening_refused h),
        not_not.mp (mt constructListening_refused h')⟩
    · rintro ⟨h, h'⟩
      refine ⟨fun replies => (constructListening_twin h h').inStep ?_, ?_, ?_⟩
      · rintro (_ | this) (_ | this') replies hx
        · exact hx
        · exact hx.elim
        · exact hx.elim
        · exact playsLike_of_alike hx ops replies
      · obtain ⟨c, k, hcall⟩ := constructListening_calls sockAddr backlog h
        simp [hcall]
      · obtain ⟨c, k, hcall⟩ := constructListening_calls sockAddr backlog h'
        simp [hcall]

end

def storage (byte : UInt8) : ServerSocketFsm := ⟨.default, {}, 0, false, ⟨byte⟩⟩

/-- On storage that held 0 the first `bind` asks for a socket, where it held 1 it is refused. -/
theorem priorContent_matters : ¬ ∀ [Host] (prior prior' : ServerSocketFsm) (ops : List ServerOp)
    (replies : List Reply),
    ServerPlaysLike .same ops (.construct prior) (.construct prior') replies := by
  intro hall
  let host : Host := littleHost
  have hlike := hall (storage 0) (storage 1) [.bind someAddress] []
  have hinit : (ServerSocketFsm.construct (storage 0)).fsmState = .INIT := rfl
  have hbound : (ServerSocketFsm.construct (storage 1)).fsmState ≠ .INIT := by decide
  obtain ⟨c, k, hcall⟩ := ServerSocketFsm.perform_bind_calls someAddress hinit
  unfold ServerPlaysLike PlaysLike at hlike
  rw [hcall, ServerSocketFsm.perform_bind_refused someAddress hbound] at hlike
  exact hlike

end Snl
