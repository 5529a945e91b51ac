import SocketInterface.Library.Twin
import SocketInterface.StreamSocketFsm
import SocketInterface.ServerSocketFsm

/-!
# Fds are names

The code compares an fd with `-1` only. So it runs in step with itself when the kernel
hands out other numbers.
-/

namespace Snl

open Method

structure FdRenaming where
  map : Fd → Fd
  inj : Function.Injective map
  noFd : map (-1) = -1

def FdRenaming.same : FdRenaming := ⟨id, Function.injective_id, rfl⟩

def Call.rename (ρ : FdRenaming) : Call → Call
  | .socket domain type protocol => .socket domain type protocol
  | .bind fd addr addrlen => .bind (ρ.map fd) addr addrlen
  | .listen fd backlog => .listen (ρ.map fd) backlog
  | .accept fd addrlen => .accept (ρ.map fd) addrlen
  | .connect fd addr addrlen => .connect (ρ.map fd) addr addrlen
  | .send fd buffer flags => .send (ρ.map fd) buffer flags
  | .recv fd bufferSize flags => .recv (ρ.map fd) bufferSize flags
  | .shutdown fd how => .shutdown (ρ.map fd) how
  | .fcntl fd cmd arg => .fcntl (ρ.map fd) cmd arg
  | .close fd => .close (ρ.map fd)

/-- `socket` and `accept` return an fd. -/
def Reply.rename (ρ : FdRenaming) (c : Call) (r : Reply) : Reply :=
  match c with
  | .socket .. | .accept .. => { r with status := ρ.map r.status }
  | _ => r

def FdRenaming.onCalls (ρ : FdRenaming) : Prog.Renaming Call Reply :=
  ⟨Call.rename ρ, Reply.rename ρ⟩

namespace FdRenaming

variable (ρ : FdRenaming)

@[simp] theorem map_eq_noFd {fd : Fd} : ρ.map fd = -1 ↔ fd = -1 :=
  ⟨fun h => ρ.inj (h.trans ρ.noFd.symm), fun h => h ▸ ρ.noFd⟩

@[simp] theorem rename_failed {c : Call} {r : Reply} :
    (r.rename ρ c).status = -1 ↔ r.status = -1 := by
  cases c <;> simp [Reply.rename]

@[simp] theorem rename_errno {c : Call} {r : Reply} : (r.rename ρ c).errno = r.errno := by
  cases c <;> rfl

def Guards (g g' : FdGuard) : Prop := g'.fd = ρ.map g.fd

variable {ρ} {σ σ' : Type} {S S' : σ → σ' → Prop} {g g' : FdGuard}

theorem executeSyscall_twins (c : Call) :
    Twins ρ.onCalls S (fun r r' => r' = r.rename ρ c) S
      (executeSyscall c (-1) : M σ Reply) (executeSyscall (c.rename ρ) (-1) : M σ' Reply) := by
  unfold executeSyscall
  apply twins_bind (twins_issue (ν := ρ.onCalls) c)
  intro r r' hr
  subst hr
  refine twins_ite (ρ.rename_failed (c := c)).symm (fun _ => ?_) fun _ => twins_pure rfl
  rw [show (ρ.onCalls.reply c r).errno = r.errno from ρ.rename_errno]
  exact twins_raise _

theorem makeFdGuard_twins (d t p : Int) :
    Twins ρ.onCalls S ρ.Guards S (makeFdGuard (.socket d t p) : M σ FdGuard)
      (makeFdGuard (.socket d t p) : M σ' FdGuard) := by
  unfold makeFdGuard
  apply twins_bind (twins_issue (ν := ρ.onCalls) (.socket d t p))
  intro r r' hr
  subst hr
  refine twins_ite (ρ.rename_failed (c := .socket d t p)).symm (fun _ => ?_)
    fun _ => twins_pure rfl
  exact twins_raise _

theorem closeFd_twins (fd : Fd) :
    Twins ρ.onCalls S (fun _ _ => True) S (FdGuard.closeFd fd : M σ Unit)
      (FdGuard.closeFd (ρ.map fd) : M σ' Unit) := by
  unfold FdGuard.closeFd
  refine twins_ite (by simp) (fun _ => twins_pure trivial) fun _ => ?_
  apply twins_bind (twins_issue (ν := ρ.onCalls) (.close fd))
  intro r r' hr
  subst hr
  exact twins_ite Iff.rfl (fun _ => twins_raise _) fun _ => twins_pure trivial

theorem close_twins :
    Twins ρ.onCalls ρ.Guards (fun _ _ => True) ρ.Guards FdGuard.close FdGuard.close := by
  unfold FdGuard.close
  refine twins_self_bind fun g g' hg => twins_bind (A := fun _ _ => True) ?_ fun _ _ _ => ?_
  · rw [show g'.fd = ρ.map g.fd from hg]
    exact closeFd_twins g.fd
  · exact twins_update fun _ _ _ => ρ.noFd.symm

theorem reset_twins (fd : Fd) :
    Twins ρ.onCalls ρ.Guards (fun _ _ => True) ρ.Guards (FdGuard.reset fd)
      (FdGuard.reset (ρ.map fd)) := by
  unfold FdGuard.reset
  apply twins_self_bind
  intro g g' hg
  rw [show g'.fd = ρ.map g.fd from hg]
  refine twins_ite (ρ.inj.eq_iff).symm (fun _ => twins_pure trivial) fun _ => ?_
  exact twins_bind (closeFd_twins g.fd) fun _ _ _ => twins_update fun _ _ _ => rfl

theorem moveAssign_twins :
    Twins ρ.onCalls (fun l l' => ρ.Guards l.1 l'.1 ∧ ρ.Guards l.2 l'.2) (fun _ _ => True)
      (fun l l' => ρ.Guards l.1 l'.1 ∧ ρ.Guards l.2 l'.2) FdGuard.moveAssign
      FdGuard.moveAssign := by
  unfold FdGuard.moveAssign
  refine twins_self_bind fun l l' hl => twins_bind (A := fun _ _ => True) ?_ fun _ _ _ => ?_
  · rw [show l'.1.fd = ρ.map l.1.fd from hl.1]
    exact closeFd_twins l.1.fd
  · exact twins_update fun _ _ h => ⟨h.2, ρ.noFd.symm⟩

theorem fcntlBlockingBehav_twins (hg : ρ.Guards g g') (nonBlockVal : Bool) :
    Twins ρ.onCalls S (fun _ _ => True) S (fcntlBlockingBehav g nonBlockVal : M σ Unit)
      (fcntlBlockingBehav g' nonBlockVal : M σ' Unit) := by
  simp only [fcntlBlockingBehav, FdGuard.get, show g'.fd = ρ.map g.fd from hg]
  apply twins_bind (executeSyscall_twins (.fcntl g.fd .F_GETFL 0))
  intro r r' hr
  subst hr
  exact twins_bind (executeSyscall_twins (.fcntl g.fd .F_SETFL _)) fun _ _ _ => twins_pure trivial

end FdRenaming

/-! ## `ServerSocketFsm`

The backlog is not compared: it is never read. The addresses are `a` and `a'`.
-/

structure ServerTwin (ρ : FdRenaming) (a a' : SocketAddress) (s s' : ServerSocketFsm) :
    Prop where
  addr : s.socketAddr = a
  addr' : s'.socketAddr = a'
  guard : ρ.Guards s.servSockFd s'.servSockFd
  mode : s'.nonBlockingIo = s.nonBlockingIo
  state : s'.fsmState = s.fsmState

def ServerValue.rename (ρ : FdRenaming) : ServerValue → ServerValue
  | .client clientFd clientSockaddr => .client ⟨ρ.map clientFd.fd⟩ clientSockaddr
  | v => v

/-- The operation reads the address, and the two addresses differ in what it reads. -/
def ServerOp.Distinguishes (a a' : SocketAddress) : ServerOp → Prop
  | .getSockAddr => a ≠ a'
  | .getIpAddress => a.getIpAddress ≠ a'.getIpAddress
  | .getTcpPort => a.getTcpPort ≠ a'.getTcpPort
  | _ => False

def ServerOp.addressAfter (a : SocketAddress) : ServerOp → SocketAddress
  | .bind sockAddr => sockAddr
  | _ => a

namespace ServerSocketFsm

variable {ρ : FdRenaming} {a a' : SocketAddress} {σ σ' : Type} {S S' : σ → σ' → Prop}

theorem onFd_close_twins : Twins ρ.onCalls (ServerTwin ρ a a') (fun _ _ => True)
    (ServerTwin ρ a a') (onFd FdGuard.close) (onFd FdGuard.close) :=
  twins_zoom (T := ρ.Guards) (fun _ _ hs => hs.guard)
    (fun _ _ _ _ hs hg => ⟨hs.addr, hs.addr', hg, hs.mode, hs.state⟩) FdRenaming.close_twins

theorem close_twins : Twins ρ.onCalls (ServerTwin ρ a a') (fun _ _ => True)
    (ServerTwin ρ a a') close close := by
  unfold close closeCheck
  apply twins_self_bind
  intro s s' hs
  refine twins_check_bind (by rw [hs.state]) ?_
  apply twins_bind onFd_close_twins
  intro _ _ _
  apply twins_update
  intro _ _ h
  exact ⟨h.addr, h.addr', h.guard, h.mode, rfl⟩

theorem reset_twins : Twins ρ.onCalls (ServerTwin ρ a a') (fun _ _ => True)
    (ServerTwin ρ a a') reset reset :=
  twins_bind onFd_close_twins fun _ _ _ =>
    twins_update fun _ _ h => ⟨h.addr, h.addr', h.guard, rfl, rfl⟩

theorem setNonBlockIO_twins (nonBlockVal : Bool) : Twins ρ.onCalls (ServerTwin ρ a a')
    (fun _ _ => True) (ServerTwin ρ a a') (ServerSocketFsm.setNonBlockIO nonBlockVal)
    (ServerSocketFsm.setNonBlockIO nonBlockVal) := by
  have hstore : Twins ρ.onCalls (ServerTwin ρ a a') (fun _ _ => True) (ServerTwin ρ a a')
      (update fun this => { this with nonBlockingIo := nonBlockVal } : M ServerSocketFsm Unit)
      (update fun this => { this with nonBlockingIo := nonBlockVal } : M ServerSocketFsm Unit) :=
    twins_update fun _ _ h => ⟨h.addr, h.addr', h.guard, rfl, h.state⟩
  apply twins_self_bind
  intro s s' hs
  refine twins_ite (by rw [hs.mode]) (fun _ => twins_pure trivial) fun _ => ?_
  refine twins_ite ?_ (fun _ => hstore) fun _ => ?_
  · rw [FdGuard.ownsFd_iff, FdGuard.ownsFd_iff, show s'.servSockFd.fd = _ from hs.guard]
    simp
  · exact twins_bind (FdRenaming.fcntlBlockingBehav_twins hs.guard _) fun _ _ _ => hstore

theorem listen_twins (listenBacklog : Int) : Twins ρ.onCalls (ServerTwin ρ a a')
    (fun _ _ => True) (ServerTwin ρ a a') (listen listenBacklog) (listen listenBacklog) := by
  unfold listen
  apply twins_self_bind
  intro s s' hs
  refine twins_bind (A := fun _ _ => True) ?_ fun _ _ _ => ?_
  · rw [listenCheck_eq, listenCheck_eq, hs.state]
    exact twins_ite Iff.rfl (fun _ => twins_raise _) fun _ => twins_pure trivial
  · rw [show s'.servSockFd.get = ρ.map s.servSockFd.get from hs.guard]
    apply twins_bind (FdRenaming.executeSyscall_twins (.listen _ _))
    intro _ _ _
    apply twins_update
    intro _ _ h
    exact ⟨h.addr, h.addr', h.guard, h.mode, rfl⟩

theorem accept_twins : Twins ρ.onCalls (ServerTwin ρ a a')
    (fun got got' => ρ.Guards got.1 got'.1 ∧ got'.2 = got.2) (ServerTwin ρ a a') (accept {})
    (accept {}) := by
  unfold accept acceptCheck
  apply twins_self_bind
  intro s s' hs
  refine twins_check_bind (by rw [hs.state]) ?_
  rw [show s'.servSockFd.get = ρ.map s.servSockFd.get from hs.guard]
  apply twins_bind (FdRenaming.executeSyscall_twins (.accept _ _))
  intro r r' hr
  subst hr
  refine twins_bind (twins_onLocal ρ.noFd.symm (FdRenaming.reset_twins r.status))
    fun g g' hg => ?_
  refine twins_bind (A := fun _ _ => True) ?_ fun _ _ _ => twins_pure ⟨hg, rfl⟩
  apply twins_update
  intro _ _ h
  exact ⟨h.addr, h.addr', h.guard, h.mode, rfl⟩

theorem makeSockFdAndBind_twins [Host] (sockAddr : SocketAddress) :
    Twins ρ.onCalls S ρ.Guards S (makeSockFdAndBind sockAddr : M σ FdGuard)
      (makeSockFdAndBind sockAddr : M σ' FdGuard) := by
  unfold makeSockFdAndBind
  apply twins_bind (FdRenaming.makeFdGuard_twins _ _ _)
  intro g g' hg
  refine twins_bind (A := fun _ _ => True) ?_ fun _ _ _ => twins_pure hg
  refine twins_unwinding FdRenaming.close_twins hg ?_
  rw [show g'.get = ρ.map g.get from hg]
  exact twins_bind (FdRenaming.executeSyscall_twins (.bind _ _ _)) fun _ _ _ => twins_pure trivial

theorem assignFd_twins : Twins ρ.onCalls
    (fun l l' => ρ.Guards l.1 l'.1 ∧ ServerTwin ρ a a' l.2 l'.2) (fun _ _ => True)
    (fun l l' => ρ.Guards l.1 l'.1 ∧ ServerTwin ρ a a' l.2 l'.2) assignFd assignFd :=
  twins_zoom (T := fun g g' => ρ.Guards g.1 g'.1 ∧ ρ.Guards g.2 g'.2)
    (fun _ _ h => ⟨h.2.guard, h.1⟩)
    (fun _ _ _ _ h hg => ⟨hg.2, h.2.addr, h.2.addr', hg.1, h.2.mode, h.2.state⟩)
    FdRenaming.moveAssign_twins

theorem bind_twins [Host] (sockAddr : SocketAddress) : Twins ρ.onCalls (ServerTwin ρ a a')
    (fun _ _ => True) (ServerTwin ρ sockAddr sockAddr) (bind sockAddr) (bind sockAddr) := by
  unfold bind bindCheck
  apply twins_self_bind
  intro s s' hs
  refine twins_check_bind (by rw [hs.state]) ?_
  apply twins_bind (makeSockFdAndBind_twins sockAddr)
  intro g g' hg
  refine twins_withLocal FdRenaming.close_twins hg ?_
  refine twins_bind (A := fun _ _ => True) ?_ fun _ _ _ => ?_
  · rw [show s'.getNonBlockIO = s.getNonBlockIO from hs.mode]
    exact FdRenaming.fcntlBlockingBehav_twins hg _
  apply twins_bind assignFd_twins
  intro _ _ _
  apply twins_update
  intro _ _ h
  exact ⟨h.1, rfl, rfl, h.2.guard, h.2.mode, rfl⟩

theorem getSockAddr_twin {s s' : ServerSocketFsm} (hs : ServerTwin ρ a a' s s') :
    Prog.Twin ρ.onCalls (Ends (fun v v' => s.isBound = true ∧ v = a ∧ v' = a')
      (ServerTwin ρ a a') (ServerTwin ρ a a')) (getSockAddr s) (getSockAddr s') := by
  have hbound : s'.isBound = s.isBound := by simp only [isBound, hs.state]
  refine (show Twins ρ.onCalls (fun t t' => t = s ∧ t' = s')
    (fun v v' => s.isBound = true ∧ v = a ∧ v' = a') (fun t t' => t = s ∧ t' = s') _ _ from
    twins_ite (by rw [hbound]) (fun _ => twins_raise _)
      fun h => twins_pure ⟨by simpa using h, hs.addr, hs.addr'⟩) s s' ⟨rfl, rfl⟩ |>.mono ?_
  rintro ⟨_ | v, t⟩ ⟨_ | v', t'⟩ h
  · exact ⟨h.1, by rw [h.2.1, h.2.2]; exact hs⟩
  · exact h.elim
  · exact h.elim
  · exact ⟨h.1, by rw [h.2.1, h.2.2]; exact hs⟩

/-- Every operation runs in step with itself, unless it reads what differs. -/
theorem perform_twin [Host] {s s' : ServerSocketFsm} {op : ServerOp}
    (hs : ServerTwin ρ a a' s s') (hread : s.isBound = true → ¬ op.Distinguishes a a') :
    Prog.Twin ρ.onCalls (Ends (fun v v' => v' = v.rename ρ) (ServerTwin ρ a a')
      (ServerTwin ρ (op.addressAfter a) (op.addressAfter a'))) (perform op s) (perform op s') := by
  cases op with
  | bind sockAddr => exact twin_bind_pure (bind_twins sockAddr s s' hs) fun _ _ _ => rfl
  | listen listenBacklog =>
    exact twin_bind_pure (listen_twins listenBacklog s s' hs) fun _ _ _ => rfl
  | accept =>
    refine twin_bind_pure (accept_twins s s' hs) fun got got' h => ?_
    rw [h.2, show got'.1 = ⟨ρ.map got.1.fd⟩ from congrArg FdGuard.mk h.1]
    rfl
  | close => exact twin_bind_pure (close_twins s s' hs) fun _ _ _ => rfl
  | reset => exact twin_bind_pure (reset_twins s s' hs) fun _ _ _ => rfl
  | setNonBlockIO nonBlockVal =>
    exact twin_bind_pure (setNonBlockIO_twins nonBlockVal s s' hs) fun _ _ _ => rfl
  | getSockAddr =>
    refine twin_bind_pure (getSockAddr_twin hs) fun v v' h => ?_
    rw [h.2.1, h.2.2, not_not.mp (hread h.1)]
    rfl
  | getIpAddress =>
    refine twin_bind_pure (twin_bind_pure (B := fun v v' => v' = v) (getSockAddr_twin hs)
      fun v v' h => ?_) fun v v' h => by rw [h]; rfl
    rw [h.2.1, h.2.2, not_not.mp (hread h.1)]
  | getTcpPort =>
    refine twin_bind_pure (twin_bind_pure (B := fun v v' => v' = v) (getSockAddr_twin hs)
      fun v v' h => ?_) fun v v' h => by rw [h]; rfl
    rw [h.2.1, h.2.2, not_not.mp (hread h.1)]
  | getNonBlockIO => exact .done ⟨by simp only [hs.mode, getNonBlockIO]; rfl, hs⟩
  | isBound => exact .done ⟨by simp only [isBound, hs.state]; rfl, hs⟩
  | isListening => exact .done ⟨by simp only [isListening, hs.state]; rfl, hs⟩
  | isAccepting => exact .done ⟨by simp only [isAccepting, hs.state]; rfl, hs⟩
  | isClosed => exact .done ⟨by simp only [isClosed, hs.state]; rfl, hs⟩

end ServerSocketFsm

/-! ## `StreamSocketFsm` -/

structure StreamTwin (ρ : FdRenaming) (s s' : StreamSocketFsm) : Prop where
  addr : s'.socketAddress = s.socketAddress
  guard : ρ.Guards s.strSoFd s'.strSoFd
  mode : s'.nonBlock = s.nonBlock
  state : s'.fsmState = s.fsmState

namespace StreamSocketFsm

variable {ρ : FdRenaming} {σ σ' : Type} {S S' : σ → σ' → Prop}

theorem onFd_close_twins : Twins ρ.onCalls (StreamTwin ρ) (fun _ _ => True) (StreamTwin ρ)
    (onFd FdGuard.close) (onFd FdGuard.close) :=
  twins_zoom (T := ρ.Guards) (fun _ _ hs => hs.guard)
    (fun _ _ _ _ hs hg => ⟨hs.addr, hg, hs.mode, hs.state⟩) FdRenaming.close_twins

theorem assignFd_twins : Twins ρ.onCalls
    (fun l l' => ρ.Guards l.1 l'.1 ∧ StreamTwin ρ l.2 l'.2) (fun _ _ => True)
    (fun l l' => ρ.Guards l.1 l'.1 ∧ StreamTwin ρ l.2 l'.2) assignFd assignFd :=
  twins_zoom (T := fun g g' => ρ.Guards g.1 g'.1 ∧ ρ.Guards g.2 g'.2)
    (fun _ _ h => ⟨h.2.guard, h.1⟩)
    (fun _ _ _ _ h hg => ⟨hg.2, h.2.addr, hg.1, h.2.mode, h.2.state⟩)
    FdRenaming.moveAssign_twins

theorem getSockAddress_twins : Twins ρ.onCalls (StreamTwin ρ) (fun v v' => v' = v)
    (StreamTwin ρ) getSockAddress getSockAddress := by
  unfold getSockAddress
  apply twins_self_bind
  intro s s' hs
  refine twins_ite (by simp only [isConnected, hs.state]) (fun _ => twins_raise _) fun _ => ?_
  exact twins_pure hs.addr

theorem createSockAndConnect_twins [Host] (address : SocketAddress) (nonBlockVal : Bool) :
    Twins ρ.onCalls S ρ.Guards S (createSockAndConnect address nonBlockVal : M σ FdGuard)
      (createSockAndConnect address nonBlockVal : M σ' FdGuard) := by
  unfold createSockAndConnect
  apply twins_bind (FdRenaming.makeFdGuard_twins _ _ _)
  intro g g' hg
  refine twins_bind (A := fun _ _ => True) ?_ fun _ _ _ => twins_pure hg
  refine twins_unwinding FdRenaming.close_twins hg ?_
  rw [show g'.get = ρ.map g.get from hg]
  exact twins_bind (FdRenaming.executeSyscall_twins (.connect _ _ _)) fun _ _ _ =>
    FdRenaming.fcntlBlockingBehav_twins hg _

theorem connect_twins [Host] (socketAddress : SocketAddress) : Twins ρ.onCalls (StreamTwin ρ)
    (fun _ _ => True) (StreamTwin ρ) (connect socketAddress) (connect socketAddress) := by
  unfold connect connectCheck
  apply twins_self_bind
  intro s s' hs
  refine twins_check_bind (by rw [hs.state]) ?_
  rw [show s'.isNonBlock = s.isNonBlock from hs.mode]
  apply twins_bind (createSockAndConnect_twins _ _)
  intro g g' hg
  refine twins_withLocal FdRenaming.close_twins hg ?_
  refine twins_bind (A := fun _ _ => True) ?_ fun _ _ _ => ?_
  · exact twins_update fun _ _ h => ⟨h.1, rfl, h.2.guard, h.2.mode, h.2.state⟩
  apply twins_bind assignFd_twins
  intro _ _ _
  apply twins_update
  intro _ _ h
  exact ⟨h.1, h.2.addr, h.2.guard, h.2.mode, rfl⟩

theorem send_twins (buffer : List Byte) (flags : Int) : Twins ρ.onCalls (StreamTwin ρ)
    (fun v v' => v' = v) (StreamTwin ρ) (send buffer flags) (send buffer flags) := by
  unfold send sendCheck
  apply twins_self_bind
  intro s s' hs
  refine twins_check_bind (by rw [hs.state]) ?_
  rw [show s'.strSoFd.get = ρ.map s.strSoFd.get from hs.guard]
  apply twins_bind (FdRenaming.executeSyscall_twins (.send _ _ _))
  intro r r' hr
  subst hr
  exact twins_pure rfl

theorem receive_twins (bufferSize : Nat) (flags : Int) : Twins ρ.onCalls (StreamTwin ρ)
    (fun v v' => v' = v) (StreamTwin ρ) (receive bufferSize flags) (receive bufferSize flags) := by
  unfold receive receiveCheck
  apply twins_self_bind
  intro s s' hs
  refine twins_check_bind (by rw [hs.state]) ?_
  rw [show s'.strSoFd.get = ρ.map s.strSoFd.get from hs.guard]
  apply twins_bind (FdRenaming.executeSyscall_twins (.recv _ _ _))
  intro r r' hr
  subst hr
  exact twins_ite Iff.rfl (fun _ => twins_raise _) fun _ => twins_pure rfl

theorem close_twins : Twins ρ.onCalls (StreamTwin ρ) (fun _ _ => True) (StreamTwin ρ)
    close close := by
  unfold close closeCheck
  apply twins_self_bind
  intro s s' hs
  refine twins_check_bind (by rw [hs.state]) ?_
  apply twins_bind onFd_close_twins
  intro _ _ _
  apply twins_update
  intro _ _ h
  exact ⟨h.addr, h.guard, h.mode, rfl⟩

theorem closeDirection_twins {check : StrSoFsmState → M StreamSocketFsm Unit} (how : Int)
    (next : StrSoFsmState) (hcheck : ∀ current, Twins ρ.onCalls (StreamTwin ρ) (fun _ _ => True)
      (StreamTwin ρ) (check current) (check current)) :
    Twins ρ.onCalls (StreamTwin ρ) (fun _ _ => True) (StreamTwin ρ)
      (closeDirection check how next) (closeDirection check how next) := by
  unfold closeDirection
  apply twins_self_bind
  intro s s' hs
  rw [hs.state]
  apply twins_bind (hcheck _)
  intro _ _ _
  refine twins_ite Iff.rfl (fun _ => ?_) fun _ => close_twins
  rw [show s'.strSoFd.get = ρ.map s.strSoFd.get from hs.guard]
  apply twins_bind (FdRenaming.executeSyscall_twins (.shutdown _ _))
  intro _ _ _
  apply twins_update
  intro _ _ h
  exact ⟨h.addr, h.guard, h.mode, rfl⟩

theorem closeUpstream_twins : Twins ρ.onCalls (StreamTwin ρ) (fun _ _ => True) (StreamTwin ρ)
    closeUpstream closeUpstream :=
  closeDirection_twins _ _ fun _ =>
    twins_ite Iff.rfl (fun _ => twins_raise _) fun _ => twins_pure trivial

theorem closeDownstream_twins : Twins ρ.onCalls (StreamTwin ρ) (fun _ _ => True) (StreamTwin ρ)
    closeDownstream closeDownstream :=
  closeDirection_twins _ _ fun _ =>
    twins_ite Iff.rfl (fun _ => twins_raise _) fun _ => twins_pure trivial

theorem reset_twins : Twins ρ.onCalls (StreamTwin ρ) (fun _ _ => True) (StreamTwin ρ)
    reset reset :=
  twins_bind onFd_close_twins fun _ _ _ => twins_update fun _ _ h => ⟨rfl, h.guard, rfl, rfl⟩

theorem resetConnection_twins [Host] : Twins ρ.onCalls (StreamTwin ρ) (fun _ _ => True)
    (StreamTwin ρ) resetConnection resetConnection := by
  unfold resetConnection resetConnectCheck
  apply twins_self_bind
  intro s s' hs
  refine twins_check_bind (by rw [hs.state]) ?_
  apply twins_bind onFd_close_twins
  intro _ _ _
  apply twins_bind getSockAddress_twins
  intro address address' ha
  rw [ha, show s'.isNonBlock = s.isNonBlock from hs.mode]
  apply twins_bind (createSockAndConnect_twins _ _)
  intro g g' hg
  apply twins_bind (twins_withLocal FdRenaming.close_twins hg assignFd_twins)
  intro _ _ _
  apply twins_update
  intro _ _ h
  exact ⟨h.addr, h.guard, h.mode, rfl⟩

theorem setNonBlock_twins (nonBlockVal : Bool) : Twins ρ.onCalls (StreamTwin ρ)
    (fun _ _ => True) (StreamTwin ρ) (setNonBlock nonBlockVal) (setNonBlock nonBlockVal) := by
  unfold setNonBlock
  apply twins_self_bind
  intro s s' hs
  refine twins_ite (by rw [hs.mode]) (fun _ => twins_pure trivial) fun _ => ?_
  refine twins_ite (by rw [hs.state]) (fun _ => twins_pure trivial) fun _ => ?_
  exact FdRenaming.fcntlBlockingBehav_twins hs.guard _

theorem perform_twin [Host] {s s' : StreamSocketFsm} {op : StrSoOp} (hs : StreamTwin ρ s s') :
    Prog.Twin ρ.onCalls (Ends (fun v v' => v' = v) (StreamTwin ρ) (StreamTwin ρ))
      (perform op s) (perform op s') := by
  cases op with
  | connect socketAddress =>
    exact twin_bind_pure (connect_twins socketAddress s s' hs) fun _ _ _ => rfl
  | send buffer flags =>
    exact twin_bind_pure (send_twins buffer flags s s' hs) fun _ _ h => congrArg _ h
  | receive bufferSize flags =>
    exact twin_bind_pure (receive_twins bufferSize flags s s' hs) fun _ _ h => by rw [h]
  | closeUpstream => exact twin_bind_pure (closeUpstream_twins s s' hs) fun _ _ _ => rfl
  | closeDownstream => exact twin_bind_pure (closeDownstream_twins s s' hs) fun _ _ _ => rfl
  | close => exact twin_bind_pure (close_twins s s' hs) fun _ _ _ => rfl
  | reset => exact twin_bind_pure (reset_twins s s' hs) fun _ _ _ => rfl
  | resetConnection => exact twin_bind_pure (resetConnection_twins s s' hs) fun _ _ _ => rfl
  | setNonBlock nonBlockVal =>
    exact twin_bind_pure (setNonBlock_twins nonBlockVal s s' hs) fun _ _ _ => rfl
  | getSockAddress =>
    exact twin_bind_pure (getSockAddress_twins s s' hs) fun _ _ h => congrArg _ h
  | isNonBlock => exact .done ⟨by simp only [isNonBlock, hs.mode], hs⟩
  | isConnected => exact .done ⟨by simp only [isConnected, hs.state], hs⟩
  | upstreamClosed => exact .done ⟨by simp only [upstreamClosed, hs.state], hs⟩
  | downStreamClosed => exact .done ⟨by simp only [downStreamClosed, hs.state], hs⟩
  | isClosed => exact .done ⟨by simp only [isClosed, hs.state], hs⟩

end StreamSocketFsm

end Snl
