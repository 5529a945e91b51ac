import SocketInterface.FdGuard

/-! # `ServerSocketFsm` -/

namespace Snl

open Method

/-- `enum class ServerFsmState : uint8_t`: a member that nothing has set may hold any byte. -/
structure ServerFsmState where
  val : UInt8
  deriving DecidableEq, Repr

namespace ServerFsmState

def INIT : ServerFsmState := ⟨0⟩
def BOUND : ServerFsmState := ⟨1⟩
def LISTENING : ServerFsmState := ⟨2⟩
def ACCEPTING : ServerFsmState := ⟨3⟩
def CLOSED : ServerFsmState := ⟨4⟩

instance : LT ServerFsmState := ⟨fun lhs rhs => lhs.val < rhs.val⟩
instance : LE ServerFsmState := ⟨fun lhs rhs => lhs.val ≤ rhs.val⟩

instance (lhs rhs : ServerFsmState) : Decidable (lhs < rhs) :=
  inferInstanceAs (Decidable (lhs.val < rhs.val))
instance (lhs rhs : ServerFsmState) : Decidable (lhs ≤ rhs) :=
  inferInstanceAs (Decidable (lhs.val ≤ rhs.val))

end ServerFsmState

structure ServerSocketFsm where
  socketAddr : SocketAddress
  servSockFd : FdGuard
  backlog : Int
  nonBlockingIo : Bool
  fsmState : ServerFsmState

namespace ServerSocketFsm

variable {σ : Type}

def defaultIOBehav : Bool := false

/-- `ServerSocketFsm()`, on storage with the content `prior`. -/
def construct (prior : ServerSocketFsm) : ServerSocketFsm :=
  { prior with socketAddr := .default, servSockFd := {}, nonBlockingIo := defaultIOBehav }

/-! ## Checks and inspection -/

def bindCheck (current : ServerFsmState) : M σ Unit :=
  if current ≠ .INIT then raise (.plain "ServerSocket error: binding to already bound socket")
  else pure ()

def listenCheck (current : ServerFsmState) : M σ Unit :=
  if current ≠ .BOUND then
    if current < .BOUND then
      raise (.plain "ServerSocket error: trying to listen with unbound socket")
    else raise (.plain "ServerSocker error: trying to listen with already listening socket")
  else pure ()

def acceptCheck (current : ServerFsmState) : M σ Unit :=
  if current ≠ .LISTENING ∧ current ≠ .ACCEPTING then
    raise (.plain
      "ServerSocket error: trying to accept with socket that is either unbound or already closed")
  else pure ()

def closeCheck (current : ServerFsmState) : M σ Unit :=
  if current = .CLOSED then
    raise (.plain "ServerSocket error: trying to close an already closed socket")
  else pure ()

def getNonBlockIO (this : ServerSocketFsm) : Bool := this.nonBlockingIo

def isBound (this : ServerSocketFsm) : Bool := decide (ServerFsmState.BOUND ≤ this.fsmState)

def isListening (this : ServerSocketFsm) : Bool :=
  decide (ServerFsmState.LISTENING ≤ this.fsmState) && decide (this.fsmState < .CLOSED)

def isAccepting (this : ServerSocketFsm) : Bool := decide (.ACCEPTING = this.fsmState)

def isClosed (this : ServerSocketFsm) : Bool := decide (.CLOSED = this.fsmState)

def getSockAddr : M ServerSocketFsm SocketAddress := do
  let this ← self
  if ¬ this.isBound then
    raise (.plain
      "ServerSocket exception: trying to get the socket address of an unbound socket")
  else pure this.socketAddr

def getIpAddress : M ServerSocketFsm IpAddress := do
  let socketAddr ← getSockAddr
  pure socketAddr.getIpAddress

def getTcpPort : M ServerSocketFsm TcpPort := do
  let socketAddr ← getSockAddr
  pure socketAddr.getTcpPort

/-! ## Transitions -/

def onFd {α : Type} (m : M FdGuard α) : M ServerSocketFsm α :=
  zoom (·.servSockFd) (fun servSockFd this => { this with servSockFd }) m

/-- `servSockFd = std::move(guard)`, for a local `guard`. -/
def assignFd : M (FdGuard × ServerSocketFsm) Unit :=
  zoom (fun l => (l.2.servSockFd, l.1)) (fun g l => (g.2, { l.2 with servSockFd := g.1 }))
    FdGuard.moveAssign

def setFdBlockingBehav (guard : FdGuard) (nonBlockVal : Bool) : M σ Unit :=
  fcntlBlockingBehav guard nonBlockVal

def makeSockFdAndBind [Host] (sockAddr : SocketAddress) : M σ FdGuard := do
  let guard ← makeFdGuard (.socket sockAddr.getAddressFamily SOCK_STREAM 0)
  unwinding FdGuard.close guard do
    let _ ← executeSyscall
      (.bind guard.get sockAddr.getSockaddrStorage sockAddr.getAddrlen) (-1)
    pure ()
  pure guard

def bind [Host] (sockAddr : SocketAddress) : M ServerSocketFsm Unit := do
  let this ← self
  bindCheck this.fsmState
  let guard ← makeSockFdAndBind sockAddr
  withLocal FdGuard.close guard do
    setFdBlockingBehav guard this.getNonBlockIO
    assignFd
    update fun l => (l.1, { l.2 with socketAddr := sockAddr, fsmState := .BOUND })

def listen (listenBacklog : Int) : M ServerSocketFsm Unit := do
  let this ← self
  listenCheck this.fsmState
  let _ ← executeSyscall (.listen this.servSockFd.get listenBacklog) (-1)
  update fun this => { this with backlog := listenBacklog, fsmState := .LISTENING }

def clientAddrlen : Nat := 128

/-- Returns `clientFd` and `clientSockaddr`, which the source takes by reference. -/
def accept (clientFd : FdGuard) : M ServerSocketFsm (FdGuard × SockaddrStorage) := do
  let this ← self
  acceptCheck this.fsmState
  let reply ← executeSyscall (.accept this.servSockFd.get clientAddrlen) (-1)
  let clientFd ← onLocal clientFd (FdGuard.reset reply.status)
  update fun this => { this with fsmState := .ACCEPTING }
  pure (clientFd, reply.sockaddr)

def close : M ServerSocketFsm Unit := do
  let this ← self
  closeCheck this.fsmState
  onFd FdGuard.close
  update fun this => { this with fsmState := .CLOSED }

def reset : M ServerSocketFsm Unit := do
  onFd FdGuard.close
  -- the address and the backlog stay
  update fun this => { this with nonBlockingIo := defaultIOBehav, fsmState := .INIT }

def setNonBlockIO (nonBlockVal : Bool) : M ServerSocketFsm Unit := do
  let this ← self
  if nonBlockVal = this.nonBlockingIo then pure ()
  else if ¬ this.servSockFd.ownsFd then
    update fun this => { this with nonBlockingIo := nonBlockVal }
  else do
    setFdBlockingBehav this.servSockFd nonBlockVal
    update fun this => { this with nonBlockingIo := nonBlockVal }

/-- `ServerSocketFsm(sockAddr, backlog)`: the delegated constructor is done, so the destructor runs
when one of the transitions throws. -/
def constructListening [Host] (prior : ServerSocketFsm) (sockAddr : SocketAddress)
    (backlog : Int) : Prog Call Reply (Except SnlException ServerSocketFsm) :=
  ((do bind sockAddr; listen backlog : M ServerSocketFsm Unit) (construct prior)).bind fun
    | (.ok _, this) => .done (.ok this)
    | (.error e, this) => (destroy FdGuard.close this.servSockFd).bind fun _ => .done (.error e)

end ServerSocketFsm

/-! ## Operations -/

inductive ServerOp where
  | bind (sockAddr : SocketAddress)
  | listen (listenBacklog : Int)
  | accept
  | close
  | reset
  | setNonBlockIO (nonBlockVal : Bool)
  | getNonBlockIO
  | getSockAddr
  | getIpAddress
  | getTcpPort
  | isBound
  | isListening
  | isAccepting
  | isClosed

inductive ServerValue where
  | unit
  | client (clientFd : FdGuard) (clientSockaddr : SockaddrStorage)
  | address (socketAddr : SocketAddress)
  | ip (ipAddress : IpAddress)
  | port (tcpPort : TcpPort)
  | bool (b : Bool)

/-- `accept` is called as `ServerSocket::accept` does, with an empty guard. -/
def ServerSocketFsm.perform [Host] : ServerOp → M ServerSocketFsm ServerValue
  | .bind sockAddr => do bind sockAddr; pure .unit
  | .listen listenBacklog => do listen listenBacklog; pure .unit
  | .accept => do
    let got ← accept {}
    pure (.client got.1 got.2)
  | .close => do close; pure .unit
  | .reset => do reset; pure .unit
  | ServerOp.setNonBlockIO nonBlockVal => do setNonBlockIO nonBlockVal; pure .unit
  | ServerOp.getNonBlockIO => do let this ← self; pure (.bool this.getNonBlockIO)
  | .getSockAddr => do pure (.address (← getSockAddr))
  | .getIpAddress => do pure (.ip (← getIpAddress))
  | .getTcpPort => do pure (.port (← getTcpPort))
  | .isBound => do pure (.bool (← self).isBound)
  | .isListening => do pure (.bool (← self).isListening)
  | .isAccepting => do pure (.bool (← self).isAccepting)
  | .isClosed => do pure (.bool (← self).isClosed)

/-! ## What an operation does -/

namespace ServerSocketFsm

def Touches (s : ServerSocketFsm) : ServerOp → Prop
  | .listen _ => s.fsmState = .BOUND
  | .accept => s.fsmState = .LISTENING ∨ s.fsmState = .ACCEPTING
  | ServerOp.setNonBlockIO nonBlockVal => nonBlockVal ≠ s.nonBlockingIo ∧ s.servSockFd.fd ≠ -1
  | _ => False

def OwnCall (s : ServerSocketFsm) : ServerOp → Call → Prop
  | .listen listenBacklog, c => c = .listen s.servSockFd.fd listenBacklog
  | .accept, c => c = .accept s.servSockFd.fd clientAddrlen
  | ServerOp.setNonBlockIO _, c => ∃ cmd arg, c = .fcntl s.servSockFd.fd cmd arg
  | _, _ => False

def BindCall (n : Fd) (k1 : Kernel) (evs : List Ev) : Prop :=
  ∃ addr len rep, evs = [⟨k1, .bind n addr len, rep⟩]

def BindCalls (n : Fd) (k1 : Kernel) (evs : List Ev) : Prop :=
  ∃ addr len rep evs', evs = ⟨k1, .bind n addr len, rep⟩ :: evs' ∧
    ∀ e ∈ evs', (∃ cmd arg, e.call = .fcntl n cmd arg) ∧
      ∃ f f1, e.before.files n = some f ∧ k1.files n = some f1 ∧ f.serial = f1.serial

def Binds [Host] (k : Kernel) (sockAddr : SocketAddress) (nonBlockVal : Bool) (n : Fd)
    (k' : Kernel) : Prop :=
  Fresh k n ∧ k' = (k.opened n none).setFile n (some { k.newFile none with
    bound := some (sockAddr.getSockaddrStorage, sockAddr.getAddrlen)
    flags := blockingFlags (k.initFlags k.born) nonBlockVal })

def Refuses (s : ServerSocketFsm) : ServerOp → Prop
  | .bind _ => s.fsmState ≠ .INIT
  | .listen _ => s.fsmState ≠ .BOUND
  | .accept => s.fsmState ≠ .LISTENING ∧ s.fsmState ≠ .ACCEPTING
  | .close => s.fsmState = .CLOSED
  | .getSockAddr | .getIpAddress | .getTcpPort => s.isBound = false
  | _ => False

def Returns (s : ServerSocketFsm) : ServerOp → ServerValue → Prop
  | ServerOp.getNonBlockIO, v => v = .bool s.getNonBlockIO
  | .getSockAddr, v => v = .address s.socketAddr ∧ s.isBound = true
  | .getIpAddress, v => v = .ip s.socketAddr.getIpAddress ∧ s.isBound = true
  | .getTcpPort, v => v = .port s.socketAddr.getTcpPort ∧ s.isBound = true
  | .isBound, v => v = .bool s.isBound
  | .isListening, v => v = .bool s.isListening
  | .isAccepting, v => v = .bool s.isAccepting
  | .isClosed, v => v = .bool s.isClosed
  | _, _ => False

/-- Everything an operation can do to the state machine and the kernel. -/
inductive Step [Host] (m : CloseFailure) (s : ServerSocketFsm) (k : Kernel) :
    ServerOp → List Ev → Except SnlException ServerValue → ServerSocketFsm → Kernel → Prop
  | refused {op e} (h : s.Refuses op) : Step m s k op [] (.error e) s k
  | returned {op v} (h : s.Returns op v) : Step m s k op [] (.ok v) s k
  | modeStored {nonBlockVal} (h : nonBlockVal = s.nonBlockingIo ∨ s.servSockFd.fd = -1) :
      Step m s k (ServerOp.setNonBlockIO nonBlockVal) [] (.ok .unit)
        { s with nonBlockingIo := nonBlockVal } k
  | failed {op evs e} (h : s.Touches op) (hc : ∀ e ∈ evs, e.before = k ∧ s.OwnCall op e.call)
      (hf : AnyFailed evs) (hl : (∃ e, evs = [e]) ∨ ∃ b, op = ServerOp.setNonBlockIO b) :
      Step m s k op evs (.error e) s k
  | modeSet {nonBlockVal evs f} (h : s.Touches (ServerOp.setNonBlockIO nonBlockVal))
      (hc : ∀ e ∈ evs, e.before = k ∧ s.OwnCall (ServerOp.setNonBlockIO nonBlockVal) e.call)
      (hf : ¬ AnyFailed evs) (hopen : k.files s.servSockFd.fd = some f) :
      Step m s k (ServerOp.setNonBlockIO nonBlockVal) evs (.ok .unit)
        { s with nonBlockingIo := nonBlockVal } (k.setFile s.servSockFd.fd
          (some { f with flags := blockingFlags f.flags nonBlockVal }))
  | listening {listenBacklog rep f} (h : s.fsmState = .BOUND) (hr : rep.status = 0)
      (hopen : k.files s.servSockFd.fd = some f) :
      Step m s k (.listen listenBacklog) [⟨k, .listen s.servSockFd.fd listenBacklog, rep⟩]
        (.ok .unit) { s with backlog := listenBacklog, fsmState := .LISTENING }
        (k.setFile s.servSockFd.fd (some { f with listening := true }))
  | accepted {rep f} (h : s.fsmState = .LISTENING ∨ s.fsmState = .ACCEPTING)
      (hopen : k.files s.servSockFd.fd = some f) (hn : Fresh k rep.status) :
      Step m s k .accept [⟨k, .accept s.servSockFd.fd clientAddrlen, rep⟩]
        (.ok (.client ⟨rep.status⟩ rep.sockaddr)) { s with fsmState := .ACCEPTING }
        (k.opened rep.status (some (rep.sockaddr, clientAddrlen)))
  | bindFailed {sockAddr evs e k'} (h : s.fsmState = .INIT) (hc : ∃ o, MakesFd BindCalls k o evs)
      (hf : AnyFailed evs) (hk : k'.files = k.files) :
      Step m s k (.bind sockAddr) evs (.error e) s k'
  | bound {sockAddr evs n k'} (h : s.fsmState = .INIT) (hc : ∃ o, MakesFd BindCalls k o evs)
      (hf : ¬ AnyFailed evs) (hk : Binds k sockAddr s.nonBlockingIo n k') :
      Step m s k (.bind sockAddr) evs (.ok .unit)
        { s with socketAddr := sockAddr, servSockFd := ⟨n⟩, fsmState := .BOUND } k'
  | closed {evs k'} (h : s.fsmState ≠ .CLOSED) (hk : Closes k s.servSockFd.fd evs k') :
      Step m s k .close evs (.ok .unit) { s with servSockFd := ⟨-1⟩, fsmState := .CLOSED } k'
  | closeFailed {op evs e k'} (h : (op = .close ∧ s.fsmState ≠ .CLOSED) ∨ op = .reset)
      (hk : CloseFails m k s.servSockFd.fd evs k') : Step m s k op evs (.error e) s k'
  | wasReset {evs k'} (hk : Closes k s.servSockFd.fd evs k') :
      Step m s k .reset evs (.ok .unit)
        { s with servSockFd := ⟨-1⟩, nonBlockingIo := false, fsmState := .INIT } k'

section

variable {m : CloseFailure} {s s' : ServerSocketFsm} {k k' : Kernel} {evs : List Ev}

theorem assignFd_runs {t t' : FdGuard × ServerSocketFsm} {r : Except SnlException Unit}
    (ht : t.2.servSockFd.fd = -1) (h : Runs (Kernel.Answers m) assignFd t k evs r t' k') :
    evs = [] ∧ r = .ok () ∧ t' = (⟨-1⟩, { t.2 with servSockFd := t.1 }) ∧ k' = k := by
  obtain ⟨g', hg, rfl⟩ := runs_zoom.mp h
  obtain ⟨rfl, rfl, rfl, rfl⟩ := moveAssignEmpty_runs ht hg
  exact ⟨rfl, rfl, rfl, rfl⟩

theorem getSockAddr_runs {r : Except SnlException SocketAddress}
    (h : Runs (Kernel.Answers m) getSockAddr s k evs r s' k') :
    evs = [] ∧ s' = s ∧ k' = k ∧ ((s.isBound = true ∧ r = .ok s.socketAddr) ∨
      (s.isBound = false ∧ ∃ e, r = .error e)) := by
  unfold getSockAddr at h
  rw [runs_self_bind, runs_ite, runs_raise, runs_pure] at h
  rcases h with ⟨hc, rfl, rfl, rfl, rfl⟩ | ⟨hc, rfl, rfl, rfl, rfl⟩ <;> simp_all

theorem listenCheck_eq {σ : Type} (current : ServerFsmState) :
    (listenCheck current : M σ Unit) = if current ≠ .BOUND then
      raise (.plain (if current < .BOUND then
        "ServerSocket error: trying to listen with unbound socket"
        else "ServerSocker error: trying to listen with already listening socket"))
      else pure () := by
  unfold listenCheck
  split
  · split <;> rfl
  · rfl

variable [Host]

theorem makeSockFdAndBind_runs {σ : Type} {s s' : σ} {sockAddr : SocketAddress}
    {r : Except SnlException FdGuard}
    (h : Runs (Kernel.Answers m) (makeSockFdAndBind sockAddr : M σ FdGuard) s k evs r s' k') :
    s' = s ∧ ∃ o, MakesFd BindCall k o evs ∧
      ((AnyFailed evs ∧ (∃ e, r = .error e) ∧ k'.files = k.files) ∨
        (¬ AnyFailed evs ∧ ∃ n, o = some n ∧ r = .ok ⟨n⟩ ∧ Fresh k n ∧
          k' = (k.opened n none).setFile n (some { k.newFile none with
            bound := some (sockAddr.getSockaddrStorage, sockAddr.getAddrlen) }))) := by
  refine socketGuard_runs (g := fun f => { f with
      bound := some (sockAddr.getSockaddrStorage, sockAddr.getAddrlen) })
    (fun n k1 evs r s1 k2 f hf hb => ?_) h
  obtain ⟨r0, hx, rfl⟩ := runs_bind_pure.mp hb
  cases r0 with
  | error e =>
    obtain ⟨rfl, rfl, hfail, ⟨rep, rfl⟩, -⟩ := executeSyscall_threw (by simp) hx
    exact ⟨rfl, ⟨_, _, _, rfl⟩, .inl ⟨hfail, ⟨e, rfl⟩, fun _ _ => rfl⟩⟩
  | ok reply =>
    obtain ⟨rfl, hs, hok, rfl, ha⟩ := executeSyscall_returned hx
    rw [Kernel.answers_bind] at ha
    obtain ⟨f', hf', -, rfl⟩ := ha.resolve_left fun h => hs h.1
    obtain rfl : f = f' := by simpa [FdGuard.get, hf] using hf'
    exact ⟨rfl, ⟨_, _, _, rfl⟩, .inr ⟨hok, rfl, rfl⟩⟩

omit [Host] in
theorem bindCall_calls {n : Fd} {k1 : Kernel} (h : BindCall n k1 evs) : BindCalls n k1 evs := by
  obtain ⟨addr, len, rep, rfl⟩ := h
  exact ⟨_, _, _, [], rfl, by simp⟩

omit [Host] in
theorem bindCall_mode {n : Fd} {k1 k2 : Kernel} {evs1 : List Ev} {f : OpenFile}
    (h : BindCall n (k1.opened n none) evs) (hf : k2.files n = some f) (hs : f.serial = k1.born)
    (hcalls : ∀ e ∈ evs1, e.before = k2 ∧ ∃ cmd arg, e.call = .fcntl n cmd arg) :
    BindCalls n (k1.opened n none) (evs ++ evs1) := by
  obtain ⟨addr, len, rep, rfl⟩ := h
  refine ⟨_, _, _, evs1, rfl, fun e he => ?_⟩
  obtain ⟨rfl, hcall⟩ := hcalls e he
  exact ⟨hcall, f, k1.newFile none, hf, by simp, hs⟩

theorem bind_step {sockAddr : SocketAddress} {r : Except SnlException Unit}
    (hinit : s.fsmState = .INIT → s.servSockFd.fd = -1)
    (h : Runs (Kernel.Answers m) (bind sockAddr) s k evs r s' k') :
    Step m s k (.bind sockAddr) evs (r.map fun _ => .unit) s' k' := by
  unfold bind bindCheck at h
  rw [runs_self_bind, runs_check_bind] at h
  rcases h with ⟨hs, rfl, rfl, rfl, rfl⟩ | ⟨hs, h⟩
  · exact .refused hs
  have hs : s.fsmState = .INIT := not_not.mp hs
  rcases runs_bind.mp h with ⟨e, rfl, hm⟩ | ⟨guard, s1, k1, evs1, evs2, hm, hl, rfl⟩
  · obtain ⟨rfl, o, hmakes, hr⟩ := makeSockFdAndBind_runs hm
    obtain ⟨hf, -, hk⟩ := hr.resolve_right (by simp)
    exact .bindFailed hs ⟨o, hmakes.mono fun _ _ _ => bindCall_calls⟩ hf hk
  obtain ⟨rfl, o, hmakes, hr⟩ := makeSockFdAndBind_runs hm
  obtain ⟨hf, n, rfl, hn, hfresh, rfl⟩ := hr.resolve_left (by simp)
  obtain rfl : guard = ⟨n⟩ := by simpa using hn
  have hne : n ≠ -1 := by
    have := hfresh.1
    rintro rfl
    simp at this
  obtain ⟨g1, g2, k2, evs3, evs4, hbody, hd, rfl⟩ := runs_withLocal.mp hl
  rcases runs_bind.mp hbody with ⟨e, rfl, hx⟩ | ⟨_, l, k3, evs5, evs6, hx, hrest, rfl⟩
  · -- the mode cannot be set: the local guard closes the new fd
    obtain ⟨heq, hcalls, hr⟩ := fcntlBlockingBehav_runs hx
    simp only [Prod.mk.injEq] at heq
    obtain ⟨rfl, rfl⟩ := heq
    obtain ⟨hf2, -, rfl⟩ := hr.resolve_right (by simp)
    obtain ⟨rfl, hclose⟩ := close_owned hd hne
    refine .bindFailed hs ⟨_, hmakes.extend hf (fun evs0 h => bindCall_mode h
      (Function.update_self ..) rfl hcalls) hclose fun _ => hf2⟩ (by simp [hf2]) ?_
    funext fd
    by_cases hfd : fd = n
    · simp [hfd, hfresh.2]
    · simp [hfd]
  · obtain ⟨rfl, hcalls, hr⟩ := fcntlBlockingBehav_runs hx
    obtain ⟨hf2, -, -, f, hopen, rfl⟩ := hr.resolve_left (by simp)
    obtain rfl : _ = f := by simpa using hopen
    -- the local guard gives its fd away: nothing is left for its destructor
    rcases runs_bind.mp hrest with ⟨e, rfl, ha⟩ | ⟨_, _, k4, _, _, ha, hu, rfl⟩
    · obtain ⟨-, h, -⟩ := assignFd_runs (by exact hinit hs) ha
      simp at h
    · obtain ⟨rfl, -, rfl, rfl⟩ := assignFd_runs (by exact hinit hs) ha
      simp only [runs_update, Prod.mk.injEq] at hu
      obtain ⟨rfl, rfl, ⟨rfl, rfl⟩, rfl⟩ := hu
      obtain ⟨rfl, -, -, rfl⟩ := closeEmpty_runs rfl hd
      have hall : MakesFd BindCalls k (some n) (evs1 ++ (evs5 ++ [])) :=
        hmakes.extend hf (fun evs0 h => bindCall_mode h (Function.update_self ..) rfl hcalls)
          (by simp) (by simp)
      have hstep := Step.bound (m := m) (s := s1) hs ⟨_, hall⟩ (by simp [hf, hf2])
        (show Binds k sockAddr s1.nonBlockingIo n _ from ⟨hfresh, rfl⟩)
      simpa [Except.map, Kernel.setFile, Kernel.newFile, getNonBlockIO] using hstep

theorem listen_step {listenBacklog : Int} {r : Except SnlException Unit}
    (h : Runs (Kernel.Answers m) (listen listenBacklog) s k evs r s' k') :
    Step m s k (.listen listenBacklog) evs (r.map fun _ => .unit) s' k' := by
  unfold listen FdGuard.get at h
  rw [runs_self_bind, listenCheck_eq, runs_check_bind] at h
  rcases h with ⟨hs, rfl, rfl, rfl, rfl⟩ | ⟨hs, h⟩
  · exact .refused hs
  have hs : s.fsmState = .BOUND := not_not.mp hs
  rcases runs_bind.mp h with ⟨e, rfl, hx⟩ | ⟨reply, _, k1, _, _, hx, hu, rfl⟩
  · obtain ⟨rfl, rfl, hf, ⟨rep, rfl⟩, -⟩ := executeSyscall_threw (by simp) hx
    exact .failed hs (by simp [OwnCall]) hf (.inl ⟨_, rfl⟩)
  · obtain ⟨rfl, hf, -, rfl, ha⟩ := executeSyscall_returned hx
    rw [Kernel.answers_listen] at ha
    obtain ⟨f, hopen, h0, rfl⟩ := ha.resolve_left fun h => hf h.1
    obtain ⟨rfl, rfl, rfl, rfl⟩ := runs_update.mp hu
    exact .listening hs h0 hopen

theorem accept_step {r : Except SnlException (FdGuard × SockaddrStorage)}
    (h : Runs (Kernel.Answers m) (accept {}) s k evs r s' k') :
    Step m s k .accept evs (r.map fun got => .client got.1 got.2) s' k' := by
  unfold accept acceptCheck FdGuard.get at h
  rw [runs_self_bind, runs_check_bind] at h
  rcases h with ⟨hs, rfl, rfl, rfl, rfl⟩ | ⟨hs, h⟩
  · exact .refused hs
  have hs : s.fsmState = .LISTENING ∨ s.fsmState = .ACCEPTING := by tauto
  rcases runs_bind.mp h with ⟨e, rfl, hx⟩ | ⟨reply, s1, k1, _, _, hx, hrest, rfl⟩
  · obtain ⟨rfl, rfl, hf, ⟨rep, rfl⟩, -⟩ := executeSyscall_threw (by simp) hx
    exact .failed hs (by simp [OwnCall]) hf (.inl ⟨_, rfl⟩)
  · obtain ⟨rfl, hf, -, rfl, ha⟩ := executeSyscall_returned hx
    rw [Kernel.answers_accept] at ha
    obtain ⟨⟨f, hopen⟩, h0, hn, rfl⟩ := ha.resolve_left fun h => hf h.1
    have hstep : Step m s1 k .accept _ _ _ _ := .accepted hs hopen ⟨h0, hn⟩
    -- the client's guard is empty: nothing is closed
    rcases runs_bind.mp hrest with ⟨e, rfl, hl⟩ | ⟨guard, _, k2, _, _, hl, hrest, rfl⟩
    · obtain ⟨rfl, r0, g, hg, hr0⟩ := runs_onLocal.mp hl
      obtain ⟨-, rfl, -⟩ := resetEmpty_runs hf hg
      simp [Except.map] at hr0
    · obtain ⟨rfl, r0, g, hg, hr0⟩ := runs_onLocal.mp hl
      obtain ⟨rfl, rfl, rfl, rfl⟩ := resetEmpty_runs hf hg
      obtain rfl : guard = ⟨reply.status⟩ := by simpa [Except.map] using hr0
      rw [runs_update_bind, runs_pure] at hrest
      obtain ⟨rfl, rfl, rfl, rfl⟩ := hrest
      simpa [Except.map] using hstep

theorem close_step {r : Except SnlException Unit}
    (h : Runs (Kernel.Answers m) close s k evs r s' k') :
    Step m s k .close evs (r.map fun _ => .unit) s' k' := by
  unfold close closeCheck at h
  rw [runs_self_bind, runs_check_bind] at h
  rcases h with ⟨hs, rfl, rfl, rfl, rfl⟩ | ⟨hs, h⟩
  · exact .refused hs
  rcases runs_bind.mp h with ⟨e, rfl, hc⟩ | ⟨_, _, k1, _, _, hc, hu, rfl⟩
  · obtain ⟨rfl, hk⟩ := zoomClose_threw hc
    exact .closeFailed (.inl ⟨rfl, hs⟩) hk
  · obtain ⟨rfl, hk⟩ := zoomClose_returned hc
    obtain ⟨rfl, rfl, rfl, rfl⟩ := runs_update.mp hu
    simpa [Except.map] using Step.closed hs hk

theorem reset_step {r : Except SnlException Unit}
    (h : Runs (Kernel.Answers m) reset s k evs r s' k') :
    Step m s k .reset evs (r.map fun _ => .unit) s' k' := by
  rcases runs_bind.mp h with ⟨e, rfl, hc⟩ | ⟨_, _, k1, _, _, hc, hu, rfl⟩
  · obtain ⟨rfl, hk⟩ := zoomClose_threw hc
    exact .closeFailed (.inr rfl) hk
  · obtain ⟨rfl, hk⟩ := zoomClose_returned hc
    obtain ⟨rfl, rfl, rfl, rfl⟩ := runs_update.mp hu
    simpa [Except.map, defaultIOBehav] using Step.wasReset hk

theorem setNonBlockIO_step {nonBlockVal : Bool} {r : Except SnlException Unit}
    (h : Runs (Kernel.Answers m) (ServerSocketFsm.setNonBlockIO nonBlockVal) s k evs r s' k') :
    Step m s k (ServerOp.setNonBlockIO nonBlockVal) evs (r.map fun _ => .unit) s' k' := by
  simp only [runs_self_bind, setNonBlockIO, FdGuard.ownsFd_iff] at h
  rcases runs_ite.mp h with ⟨hb, h⟩ | ⟨hb, h⟩
  · obtain ⟨rfl, rfl, rfl, rfl⟩ := runs_pure.mp h
    have hstep := Step.modeStored (m := m) (k := k') (.inl hb)
    rw [hb] at hstep ⊢
    exact hstep
  rcases runs_ite.mp h with ⟨hfd, h⟩ | ⟨hfd, h⟩
  · obtain ⟨rfl, rfl, rfl, rfl⟩ := runs_update.mp h
    exact .modeStored (.inr (not_not.mp hfd))
  have ht : s.Touches (ServerOp.setNonBlockIO nonBlockVal) := ⟨hb, not_not.mp hfd⟩
  rcases runs_bind.mp h with ⟨e, rfl, hx⟩ | ⟨_, _, k1, _, _, hx, hu, rfl⟩
  · obtain ⟨hs', hcalls, hr⟩ := fcntlBlockingBehav_runs hx
    subst hs'
    obtain ⟨hf, -, rfl⟩ := hr.resolve_right (by simp)
    exact .failed ht hcalls hf (.inr ⟨_, rfl⟩)
  · obtain ⟨hs', hcalls, hr⟩ := fcntlBlockingBehav_runs hx
    subst hs'
    obtain ⟨hf, -, -, f, hopen, rfl⟩ := hr.resolve_left (by simp)
    obtain ⟨rfl, rfl, rfl, rfl⟩ := runs_update.mp hu
    have hstep := Step.modeSet (m := m) ht hcalls hf hopen
    simpa [Except.map] using hstep

/-- The code refines the steps: an operation does nothing but what `Step` lists. -/
theorem perform_step {op : ServerOp} {r : Except SnlException ServerValue}
    (hinit : s.fsmState = .INIT → s.servSockFd.fd = -1)
    (h : Runs (Kernel.Answers m) (perform op) s k evs r s' k') : Step m s k op evs r s' k' := by
  cases op with
  | bind sockAddr =>
    obtain ⟨r0, hx, rfl⟩ := runs_bind_pure.mp h
    exact bind_step hinit hx
  | listen listenBacklog =>
    obtain ⟨r0, hx, rfl⟩ := runs_bind_pure.mp h
    exact listen_step hx
  | accept =>
    obtain ⟨r0, hx, rfl⟩ := runs_bind_pure.mp h
    exact accept_step hx
  | close =>
    obtain ⟨r0, hx, rfl⟩ := runs_bind_pure.mp h
    exact close_step hx
  | reset =>
    obtain ⟨r0, hx, rfl⟩ := runs_bind_pure.mp h
    exact reset_step hx
  | setNonBlockIO nonBlockVal =>
    obtain ⟨r0, hx, rfl⟩ := runs_bind_pure.mp h
    exact setNonBlockIO_step hx
  | getSockAddr =>
    obtain ⟨r0, hx, rfl⟩ := runs_bind_pure.mp h
    obtain ⟨rfl, rfl, rfl, ⟨hc, rfl⟩ | ⟨hc, e, rfl⟩⟩ := getSockAddr_runs hx
    · exact .returned ⟨rfl, hc⟩
    · exact .refused hc
  | getIpAddress =>
    obtain ⟨r0, hx, rfl⟩ := runs_bind_pure.mp h
    obtain ⟨r1, hg, rfl⟩ := runs_bind_pure.mp hx
    obtain ⟨rfl, rfl, rfl, ⟨hc, rfl⟩ | ⟨hc, e, rfl⟩⟩ := getSockAddr_runs hg
    · exact .returned ⟨rfl, hc⟩
    · exact .refused hc
  | getTcpPort =>
    obtain ⟨r0, hx, rfl⟩ := runs_bind_pure.mp h
    obtain ⟨r1, hg, rfl⟩ := runs_bind_pure.mp hx
    obtain ⟨rfl, rfl, rfl, ⟨hc, rfl⟩ | ⟨hc, e, rfl⟩⟩ := getSockAddr_runs hg
    · exact .returned ⟨rfl, hc⟩
    · exact .refused hc
  | getNonBlockIO | isBound | isListening | isAccepting | isClosed =>
    unfold perform at h
    rw [runs_self_bind, runs_pure] at h
    obtain ⟨rfl, rfl, rfl, rfl⟩ := h
    exact .returned rfl

end

end ServerSocketFsm

end Snl
