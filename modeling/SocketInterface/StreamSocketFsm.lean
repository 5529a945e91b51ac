import SocketInterface.FdGuard

/-! # `StreamSocketFsm` -/

namespace Snl

open Method

inductive StrSoFsmState where
  | INIT
  | CONNECTED
  | UCLOSED
  | DCLOSED
  | CLOSED
  deriving DecidableEq, Repr

def StrSoFsmState.val : StrSoFsmState → Nat
  | INIT => 0
  | CONNECTED => 1
  | UCLOSED => 2
  | DCLOSED => 3
  | CLOSED => 4

/-- The member initialisers are those of `StreamSocketFsm()`. -/
structure StreamSocketFsm where
  socketAddress : SocketAddress := .default
  strSoFd : FdGuard := {}
  nonBlock : Bool := false
  fsmState : StrSoFsmState := .INIT

namespace StreamSocketFsm

variable {σ : Type}

def upstreamShutdown : Int := 1
def downstreamShutdown : Int := 0
def defaultNonBlock : Bool := false

/-- `StreamSocketFsm(FdGuard&&, SocketAddress)`, for an accepted connection. -/
def accepted (fdGuard : FdGuard) (socketAddress : SocketAddress) : StreamSocketFsm :=
  { socketAddress, strSoFd := fdGuard, fsmState := .CONNECTED }

/-! ## Checks and inspection -/

def connectCheck (current : StrSoFsmState) : M σ Unit :=
  if current ≠ .INIT then raise (.plain "StreamSocket error: connect fail") else pure ()

def sendCheck (current : StrSoFsmState) : M σ Unit :=
  if current ≠ .CONNECTED ∧ current ≠ .DCLOSED then
    raise (.plain "StreamSocket error: Send fail")
  else pure ()

def receiveCheck (current : StrSoFsmState) : M σ Unit :=
  if current ≠ .CONNECTED ∧ current ≠ .UCLOSED then
    raise (.plain "StreamSocket error: Receive fail")
  else pure ()

def upstreamCloseCheck (current : StrSoFsmState) : M σ Unit :=
  if current ≠ .DCLOSED ∧ current ≠ .CONNECTED then
    raise (.plain "StreamSocket error: upstream close fail")
  else pure ()

def downsreamCloseCheck (current : StrSoFsmState) : M σ Unit :=
  if current ≠ .UCLOSED ∧ current ≠ .CONNECTED then
    raise (.plain "StreamSocket error: downstream close fail")
  else pure ()

def closeCheck (current : StrSoFsmState) : M σ Unit :=
  if current = .CLOSED then
    raise (.plain "StreamSocket error: close fail, the socket is already closed")
  else pure ()

def resetConnectCheck (current : StrSoFsmState) : M σ Unit :=
  if current = .INIT then
    raise (.plain "StreamSocket error: connection reset fail, the socket has no specified host")
  else pure ()

def isNonBlock (this : StreamSocketFsm) : Bool := this.nonBlock

def isConnected (this : StreamSocketFsm) : Bool :=
  decide (StrSoFsmState.CONNECTED.val ≤ this.fsmState.val) &&
    decide (this.fsmState.val < StrSoFsmState.CLOSED.val)

def upstreamClosed (this : StreamSocketFsm) : Bool :=
  decide (this.fsmState = .UCLOSED) || decide (this.fsmState = .CLOSED)

def downStreamClosed (this : StreamSocketFsm) : Bool :=
  decide (this.fsmState = .DCLOSED) || decide (this.fsmState = .CLOSED)

def isClosed (this : StreamSocketFsm) : Bool := decide (this.fsmState = .CLOSED)

def getSockAddress : M StreamSocketFsm SocketAddress := do
  let this ← self
  if ¬ this.isConnected then
    raise (.plain
      "ServerSocket error: trying to get the socket address from unconnected socket")
  else pure this.socketAddress

/-! ## Transitions -/

def onFd {α : Type} (m : M FdGuard α) : M StreamSocketFsm α :=
  zoom (·.strSoFd) (fun strSoFd this => { this with strSoFd }) m

/-- `strSoFd = std::move(guard)`, for a local `guard`. -/
def assignFd : M (FdGuard × StreamSocketFsm) Unit :=
  zoom (fun l => (l.2.strSoFd, l.1)) (fun g l => (g.2, { l.2 with strSoFd := g.1 }))
    FdGuard.moveAssign

def setFdBlockingBehav (guard : FdGuard) (nonBlockVal : Bool) : M σ Unit :=
  fcntlBlockingBehav guard nonBlockVal

def createSockAndConnect [Host] (address : SocketAddress) (nonBlockVal : Bool) :
    M σ FdGuard := do
  let guard ← makeFdGuard (.socket address.getAddressFamily SOCK_STREAM 0)
  unwinding FdGuard.close guard do
    let _ ← executeSyscall
      (.connect guard.get address.getSockaddrStorage address.getAddrlen) (-1)
    setFdBlockingBehav guard nonBlockVal
  pure guard

def connect [Host] (socketAddress : SocketAddress) : M StreamSocketFsm Unit := do
  let this ← self
  connectCheck this.fsmState
  let guard ← createSockAndConnect socketAddress this.isNonBlock
  withLocal FdGuard.close guard do
    update fun l => (l.1, { l.2 with socketAddress })
    assignFd
    update fun l => (l.1, { l.2 with fsmState := .CONNECTED })

def send (buffer : List Byte) (flags : Int) : M StreamSocketFsm Nat := do
  let this ← self
  sendCheck this.fsmState
  let reply ← executeSyscall (.send this.strSoFd.get buffer flags) (-1)
  pure reply.status.toNat

/-- Returns `bytesReceived` and the bytes written to the buffer. -/
def receive (bufferSize : Nat) (flags : Int) : M StreamSocketFsm (Nat × List Byte) := do
  let this ← self
  receiveCheck this.fsmState
  let reply ← executeSyscall (.recv this.strSoFd.get bufferSize flags) (-1)
  let bytesReceived := reply.status.toNat
  if bytesReceived = 0 ∧ bufferSize ≠ 0 then raise (.eof "End of file reached")
  else pure (bytesReceived, reply.data)

def close : M StreamSocketFsm Unit := do
  let this ← self
  closeCheck this.fsmState
  onFd FdGuard.close
  update fun this => { this with fsmState := .CLOSED }

/-- The body of `closeUpstream` and `closeDownstream`: shuts one direction down, or closes the
socket when the other one is closed already. -/
def closeDirection (check : StrSoFsmState → M StreamSocketFsm Unit) (how : Int)
    (next : StrSoFsmState) : M StreamSocketFsm Unit := do
  let this ← self
  check this.fsmState
  if this.fsmState = .CONNECTED then
    let _ ← executeSyscall (.shutdown this.strSoFd.get how) (-1)
    update fun this => { this with fsmState := next }
  else close

def closeUpstream : M StreamSocketFsm Unit :=
  closeDirection upstreamCloseCheck upstreamShutdown .UCLOSED

def closeDownstream : M StreamSocketFsm Unit :=
  closeDirection downsreamCloseCheck downstreamShutdown .DCLOSED

def reset : M StreamSocketFsm Unit := do
  onFd FdGuard.close
  update fun this => { this with
    socketAddress := .default, nonBlock := defaultNonBlock, fsmState := .INIT }

def resetConnection [Host] : M StreamSocketFsm Unit := do
  let this ← self
  resetConnectCheck this.fsmState
  onFd FdGuard.close
  let address ← getSockAddress
  let temporary ← createSockAndConnect address this.isNonBlock
  withLocal FdGuard.close temporary assignFd
  update fun this => { this with fsmState := .CONNECTED }

def setNonBlock (nonBlockVal : Bool) : M StreamSocketFsm Unit := do
  let this ← self
  if this.nonBlock = nonBlockVal then pure ()
  else if this.fsmState = .INIT then pure ()
  else setFdBlockingBehav this.strSoFd nonBlockVal

end StreamSocketFsm

/-! ## Operations -/

inductive StrSoOp where
  | connect (socketAddress : SocketAddress)
  | send (buffer : List Byte) (flags : Int)
  | receive (bufferSize : Nat) (flags : Int)
  | closeUpstream
  | closeDownstream
  | close
  | reset
  | resetConnection
  | setNonBlock (nonBlockVal : Bool)
  | getSockAddress
  | isNonBlock
  | isConnected
  | upstreamClosed
  | downStreamClosed
  | isClosed

inductive StrSoValue where
  | unit
  | sent (bytesSent : Nat)
  | received (bytesReceived : Nat) (buffer : List Byte)
  | address (socketAddress : SocketAddress)
  | bool (b : Bool)

def StreamSocketFsm.perform [Host] : StrSoOp → M StreamSocketFsm StrSoValue
  | .connect socketAddress => do connect socketAddress; pure .unit
  | .send buffer flags => do pure (.sent (← send buffer flags))
  | .receive bufferSize flags => do
    let got ← receive bufferSize flags
    pure (.received got.1 got.2)
  | .closeUpstream => do closeUpstream; pure .unit
  | .closeDownstream => do closeDownstream; pure .unit
  | .close => do close; pure .unit
  | .reset => do reset; pure .unit
  | .resetConnection => do resetConnection; pure .unit
  | .setNonBlock nonBlockVal => do setNonBlock nonBlockVal; pure .unit
  | .getSockAddress => do pure (.address (← getSockAddress))
  | .isNonBlock => do pure (.bool (← self).isNonBlock)
  | .isConnected => do pure (.bool (← self).isConnected)
  | .upstreamClosed => do pure (.bool (← self).upstreamClosed)
  | .downStreamClosed => do pure (.bool (← self).downStreamClosed)
  | .isClosed => do pure (.bool (← self).isClosed)

/-! ## What an operation does -/

namespace StreamSocketFsm

def Touches (s : StreamSocketFsm) : StrSoOp → Prop
  | .send .. => s.fsmState = .CONNECTED ∨ s.fsmState = .DCLOSED
  | .receive .. => s.fsmState = .CONNECTED ∨ s.fsmState = .UCLOSED
  | .closeUpstream | .closeDownstream => s.fsmState = .CONNECTED
  | .setNonBlock nonBlockVal => s.nonBlock ≠ nonBlockVal ∧ s.fsmState ≠ .INIT
  | _ => False

def OwnCall (s : StreamSocketFsm) : StrSoOp → Call → Prop
  | .send buffer flags, c => c = .send s.strSoFd.fd buffer flags
  | .receive bufferSize flags, c => c = .recv s.strSoFd.fd bufferSize flags
  | .closeUpstream, c => c = .shutdown s.strSoFd.fd upstreamShutdown
  | .closeDownstream, c => c = .shutdown s.strSoFd.fd downstreamShutdown
  | .setNonBlock _, c => ∃ cmd arg, c = .fcntl s.strSoFd.fd cmd arg
  | _, _ => False

def Closing (s : StreamSocketFsm) : StrSoOp → Prop
  | .closeUpstream => s.fsmState = .DCLOSED
  | .closeDownstream => s.fsmState = .UCLOSED
  | .close => s.fsmState ≠ .CLOSED
  | _ => False

def ConnectCall (k : Kernel) (c : Call) : Prop :=
  (∃ d t p, c = .socket d t p) ∨ ∃ n, Fresh k n ∧
    (c = .close n ∨ (∃ addr len, c = .connect n addr len) ∨ ∃ cmd arg, c = .fcntl n cmd arg)

/-- The new fd `n` is connected to `address`, in the mode `nonBlockVal`. -/
def Connects [Host] (k : Kernel) (address : SocketAddress) (nonBlockVal : Bool) (n : Fd)
    (k' : Kernel) : Prop :=
  Fresh k n ∧ k' = (k.opened n none).setFile n (some { k.newFile none with
    peer := some (address.getSockaddrStorage, address.getAddrlen)
    flags := blockingFlags (k.initFlags k.born) nonBlockVal })

def Refuses (s : StreamSocketFsm) : StrSoOp → Prop
  | .connect _ => s.fsmState ≠ .INIT
  | .send .. => s.fsmState ≠ .CONNECTED ∧ s.fsmState ≠ .DCLOSED
  | .receive .. => s.fsmState ≠ .CONNECTED ∧ s.fsmState ≠ .UCLOSED
  | .closeUpstream => s.fsmState ≠ .DCLOSED ∧ s.fsmState ≠ .CONNECTED
  | .closeDownstream => s.fsmState ≠ .UCLOSED ∧ s.fsmState ≠ .CONNECTED
  | .close => s.fsmState = .CLOSED
  | .resetConnection => s.fsmState = .INIT
  | .getSockAddress => s.isConnected = false
  | _ => False

def Returns (s : StreamSocketFsm) : StrSoOp → StrSoValue → Prop
  | .setNonBlock nonBlockVal, v => v = .unit ∧ (s.nonBlock = nonBlockVal ∨ s.fsmState = .INIT)
  | .getSockAddress, v => v = .address s.socketAddress ∧ s.isConnected = true
  | .isNonBlock, v => v = .bool s.isNonBlock
  | .isConnected, v => v = .bool s.isConnected
  | .upstreamClosed, v => v = .bool s.upstreamClosed
  | .downStreamClosed, v => v = .bool s.downStreamClosed
  | .isClosed, v => v = .bool s.isClosed
  | _, _ => False

def halfClosed : StrSoOp → StrSoFsmState
  | .closeUpstream => .UCLOSED
  | _ => .DCLOSED

/-- Everything an operation can do to the state machine and the kernel. -/
inductive Step [Host] (m : CloseFailure) (s : StreamSocketFsm) (k : Kernel) :
    StrSoOp → List Ev → Except SnlException StrSoValue → StreamSocketFsm → Kernel → Prop
  | refused {op e} (h : s.Refuses op) : Step m s k op [] (.error e) s k
  | returned {op v} (h : s.Returns op v) : Step m s k op [] (.ok v) s k
  | sent {buffer flags evs r} (h : s.Touches (.send buffer flags))
      (hc : ∀ e ∈ evs, s.OwnCall (.send buffer flags) e.call) :
      Step m s k (.send buffer flags) evs r s k
  | received {bufferSize flags evs r} (h : s.Touches (.receive bufferSize flags))
      (hc : ∀ e ∈ evs, s.OwnCall (.receive bufferSize flags) e.call) :
      Step m s k (.receive bufferSize flags) evs r s k
  | failed {op evs e} (h : s.Touches op) (hc : ∀ e ∈ evs, s.OwnCall op e.call)
      (hf : AnyFailed evs) : Step m s k op evs (.error e) s k
  | halfClosed {op evs} (hop : op = .closeUpstream ∨ op = .closeDownstream)
      (h : s.fsmState = .CONNECTED) (hc : ∀ e ∈ evs, s.OwnCall op e.call)
      (hf : ¬ AnyFailed evs) (hopen : ∃ f, k.files s.strSoFd.fd = some f) :
      Step m s k op evs (.ok .unit) { s with fsmState := halfClosed op } k
  | modeSet {nonBlockVal evs f} (h : s.Touches (.setNonBlock nonBlockVal))
      (hc : ∀ e ∈ evs, s.OwnCall (.setNonBlock nonBlockVal) e.call) (hne : evs ≠ [])
      (hf : ¬ AnyFailed evs) (hopen : k.files s.strSoFd.fd = some f) :
      Step m s k (.setNonBlock nonBlockVal) evs (.ok .unit) s (k.setFile s.strSoFd.fd
        (some { f with flags := blockingFlags f.flags nonBlockVal }))
  | closed {op evs k'} (h : s.Closing op) (hk : Closes k s.strSoFd.fd evs k') :
      Step m s k op evs (.ok .unit) { s with strSoFd := ⟨-1⟩, fsmState := .CLOSED } k'
  | closeFailed {op evs e k'}
      (h : s.Closing op ∨ op = .reset ∨ (op = .resetConnection ∧ s.fsmState ≠ .INIT))
      (hk : CloseFails m k s.strSoFd.fd evs k') : Step m s k op evs (.error e) s k'
  | wasReset {evs k'} (hk : Closes k s.strSoFd.fd evs k') : Step m s k .reset evs (.ok .unit) {} k'
  | connectFailed {address evs e k'} (h : s.fsmState = .INIT)
      (hc : ∀ e ∈ evs, ConnectCall k e.call) (hf : AnyFailed evs) (hk : k'.files = k.files) :
      Step m s k (.connect address) evs (.error e) s k'
  | connected {address evs n k'} (h : s.fsmState = .INIT)
      (hc : ∀ e ∈ evs, ConnectCall k e.call) (hf : ¬ AnyFailed evs)
      (hk : Connects k address s.nonBlock n k') :
      Step m s k (.connect address) evs (.ok .unit)
        { s with socketAddress := address, strSoFd := ⟨n⟩, fsmState := .CONNECTED } k'
  | notReconnected {evs e k'} (h : s.fsmState = .CLOSED) (hk : Closes k s.strSoFd.fd evs k') :
      Step m s k .resetConnection evs (.error e) { s with strSoFd := ⟨-1⟩ } k'
  | reconnectFailed {evs evs1 evs2 e k1 k'} (h : s.isConnected = true) (hevs : evs = evs1 ++ evs2)
      (hk1 : Closes k s.strSoFd.fd evs1 k1) (hc : ∀ e ∈ evs2, ConnectCall k1 e.call)
      (hf : AnyFailed evs) (hk : k'.files = k1.files) :
      Step m s k .resetConnection evs (.error e) { s with strSoFd := ⟨-1⟩ } k'
  | reconnected {evs evs1 evs2 k1 n k'} (h : s.isConnected = true) (hevs : evs = evs1 ++ evs2)
      (hk1 : Closes k s.strSoFd.fd evs1 k1) (hc : ∀ e ∈ evs2, ConnectCall k1 e.call)
      (hf : ¬ AnyFailed evs) (hk : Connects k1 s.socketAddress s.nonBlock n k') :
      Step m s k .resetConnection evs (.ok .unit)
        { s with strSoFd := ⟨n⟩, fsmState := .CONNECTED } k'

section

variable {m : CloseFailure} {s s' : StreamSocketFsm} {k k' : Kernel} {evs : List Ev}

theorem assignFd_runs {t t' : FdGuard × StreamSocketFsm} {r : Except SnlException Unit}
    (ht : t.2.strSoFd.fd = -1) (h : Runs (Kernel.Answers m) assignFd t k evs r t' k') :
    evs = [] ∧ r = .ok () ∧ t' = (⟨-1⟩, { t.2 with strSoFd := t.1 }) ∧ k' = k := by
  obtain ⟨g', hg, rfl⟩ := runs_zoom.mp h
  obtain ⟨rfl, rfl, rfl, rfl⟩ := moveAssignEmpty_runs ht hg
  exact ⟨rfl, rfl, rfl, rfl⟩

theorem isConnected_iff : s.isConnected = true ↔ s.fsmState ≠ .INIT ∧ s.fsmState ≠ .CLOSED := by
  cases h : s.fsmState <;> simp [isConnected, StrSoFsmState.val, h]

theorem getSockAddress_runs {r : Except SnlException SocketAddress}
    (h : Runs (Kernel.Answers m) getSockAddress s k evs r s' k') :
    evs = [] ∧ s' = s ∧ k' = k ∧ ((s.isConnected = true ∧ r = .ok s.socketAddress) ∨
      (s.isConnected = false ∧ ∃ e, r = .error e)) := by
  unfold getSockAddress at h
  rw [runs_self_bind, runs_ite, runs_raise, runs_pure] at h
  rcases h with ⟨hc, rfl, rfl, rfl, rfl⟩ | ⟨hc, rfl, rfl, rfl, rfl⟩ <;> simp_all

variable [Host]

theorem createSockAndConnect_runs {σ : Type} {s s' : σ} {address : SocketAddress}
    {nonBlockVal : Bool} {r : Except SnlException FdGuard}
    (h : Runs (Kernel.Answers m) (createSockAndConnect address nonBlockVal : M σ FdGuard)
      s k evs r s' k') :
    s' = s ∧ (∀ e ∈ evs, ConnectCall k e.call) ∧
      ((AnyFailed evs ∧ (∃ e, r = .error e) ∧ k'.files = k.files) ∨
        (¬ AnyFailed evs ∧ ∃ n, r = .ok ⟨n⟩ ∧ Connects k address nonBlockVal n k')) := by
  have hs := socketGuard_runs (B := fun n _ evs => ∀ e ∈ evs,
      (∃ addr len, e.call = .connect n addr len) ∨ ∃ cmd arg, e.call = .fcntl n cmd arg)
    (g := fun f => { f with
      peer := some (address.getSockaddrStorage, address.getAddrlen)
      flags := blockingFlags f.flags nonBlockVal })
    (fun n k1 evs r s1 k2 f hf hb => ?_) h
  · obtain ⟨rfl, o, hmakes, hr⟩ := hs
    refine ⟨rfl, ?_, ?_⟩
    · intro e he
      rcases hmakes.mem he with h | ⟨n, hn, h | ⟨evs1, hbody, he⟩⟩
      · exact .inl h
      · exact .inr ⟨n, hn, .inl h⟩
      · exact .inr ⟨n, hn, .inr (hbody e he)⟩
    · rcases hr with h | ⟨hf, n, -, rfl, hn, hk⟩
      · exact .inl h
      · exact .inr ⟨hf, n, rfl, hn, hk⟩
  · rcases runs_bind.mp hb with ⟨e, rfl, hx⟩ | ⟨_, _, k3, _, _, hx, hrest, rfl⟩
    · obtain ⟨rfl, rfl, hfail, ⟨rep, rfl⟩, -⟩ := executeSyscall_threw (by simp) hx
      exact ⟨rfl, by simp [FdGuard.get], .inl ⟨hfail, ⟨_, rfl⟩, fun _ _ => rfl⟩⟩
    · obtain ⟨rfl, hs, -, rfl, ha⟩ := executeSyscall_returned hx
      rw [Kernel.answers_connect] at ha
      obtain ⟨f', hf', -, rfl⟩ := ha.resolve_left fun h => hs h.1
      obtain rfl : f' = f := by simpa [FdGuard.get, hf] using hf'.symm
      obtain ⟨rfl, hcalls, hr⟩ := fcntlBlockingBehav_runs hrest
      refine ⟨rfl, ?_, ?_⟩
      · intro e he
        simp only [List.cons_append, List.nil_append, List.mem_cons] at he
        rcases he with rfl | he
        · exact .inl ⟨_, _, rfl⟩
        · exact .inr (hcalls e he).2
      · rcases hr with ⟨hf, ⟨_, rfl⟩, rfl⟩ | ⟨hf, -, rfl, f1, hf1, rfl⟩
        · exact .inl ⟨by simp [hf], ⟨_, rfl⟩, fun fd hfd => by simp [FdGuard.get, hfd]⟩
        · obtain rfl : _ = f1 := by simpa [FdGuard.get] using hf1
          refine .inr ⟨by simp [hs, hf], rfl, ?_⟩
          simp [Kernel.setFile, FdGuard.get]

/-! One lemma for each operation that issues calls. -/

theorem connect_step {address : SocketAddress} {r : Except SnlException Unit}
    (hinit : s.fsmState = .INIT → s.strSoFd.fd = -1)
    (h : Runs (Kernel.Answers m) (connect address) s k evs r s' k') :
    Step m s k (.connect address) evs (r.map fun _ => .unit) s' k' := by
  unfold connect connectCheck at h
  rw [runs_self_bind, runs_check_bind] at h
  rcases h with ⟨hs, rfl, rfl, rfl, rfl⟩ | ⟨hs, h⟩
  · exact .refused hs
  have hs : s.fsmState = .INIT := not_not.mp hs
  rcases runs_bind.mp h with ⟨e, rfl, hc⟩ | ⟨guard, _, k1, evs1, evs2, hc, hl, rfl⟩
  · obtain ⟨rfl, hcalls, hr⟩ := createSockAndConnect_runs hc
    obtain ⟨hf, -, hk⟩ := hr.resolve_right (by simp)
    exact .connectFailed hs hcalls hf hk
  · obtain ⟨rfl, hcalls, hr⟩ := createSockAndConnect_runs hc
    obtain ⟨hf, n, hn, hk⟩ := hr.resolve_left (by simp)
    obtain rfl : guard = ⟨n⟩ := by simpa using hn
    -- the local guard gives its fd away: nothing is left for its destructor
    obtain ⟨g1, g2, k2, evs3, evs4, hbody, hd, rfl⟩ := runs_withLocal.mp hl
    rw [runs_update_bind] at hbody
    rcases runs_bind.mp hbody with ⟨e, rfl, ha⟩ | ⟨_, _, k3, _, _, ha, hu, rfl⟩
    · obtain ⟨-, h, -⟩ := assignFd_runs (by exact hinit hs) ha
      simp at h
    · obtain ⟨rfl, -, rfl, rfl⟩ := assignFd_runs (by exact hinit hs) ha
      simp only [runs_update, Prod.mk.injEq] at hu
      obtain ⟨rfl, rfl, ⟨rfl, rfl⟩, rfl⟩ := hu
      obtain ⟨rfl, -, -, rfl⟩ := closeEmpty_runs rfl hd
      simpa [Except.map] using Step.connected hs hcalls hf hk

theorem send_step {buffer : List Byte} {flags : Int} {r : Except SnlException Nat}
    (h : Runs (Kernel.Answers m) (send buffer flags) s k evs r s' k') :
    Step m s k (.send buffer flags) evs (r.map .sent) s' k' := by
  unfold send sendCheck FdGuard.get at h
  rw [runs_self_bind, runs_check_bind] at h
  rcases h with ⟨hs, rfl, rfl, rfl, rfl⟩ | ⟨hs, h⟩
  · exact .refused hs
  obtain ⟨r0, h0, rfl⟩ := runs_bind_pure.mp h
  obtain ⟨rfl, rep, ha, rfl, -⟩ := executeSyscall_runs.mp h0
  obtain rfl : k' = k := by rw [Kernel.answers_send] at ha; tauto
  exact .sent (by unfold Touches; tauto) (by simp [OwnCall])

theorem receive_step {bufferSize : Nat} {flags : Int} {r : Except SnlException (Nat × List Byte)}
    (h : Runs (Kernel.Answers m) (receive bufferSize flags) s k evs r s' k') :
    Step m s k (.receive bufferSize flags) evs (r.map fun got => .received got.1 got.2) s' k' := by
  unfold receive receiveCheck FdGuard.get at h
  rw [runs_self_bind, runs_check_bind] at h
  rcases h with ⟨hs, rfl, rfl, rfl, rfl⟩ | ⟨hs, h⟩
  · exact .refused hs
  have ht : s.Touches (.receive bufferSize flags) := by unfold Touches; tauto
  rcases runs_bind.mp h with ⟨e, rfl, hx⟩ | ⟨reply, _, k1, _, _, hx, hr, rfl⟩
  · obtain ⟨rfl, rep, ha, rfl, -⟩ := executeSyscall_runs.mp hx
    obtain rfl : k' = k := by rw [Kernel.answers_recv] at ha; tauto
    exact .received ht (by simp [OwnCall])
  · obtain ⟨rfl, rep, ha, rfl, -⟩ := executeSyscall_runs.mp hx
    obtain rfl : k1 = k := by rw [Kernel.answers_recv] at ha; tauto
    rw [runs_ite, runs_raise, runs_pure] at hr
    obtain ⟨-, rfl, rfl, rfl, rfl⟩ | ⟨-, rfl, rfl, rfl, rfl⟩ := hr <;>
      exact .received ht (by simp [OwnCall])

theorem close_step {op : StrSoOp} {r : Except SnlException Unit}
    (hop : s.fsmState ≠ .CLOSED → s.Closing op) (href : s.fsmState = .CLOSED → s.Refuses op)
    (h : Runs (Kernel.Answers m) close s k evs r s' k') :
    Step m s k op evs (r.map fun _ => .unit) s' k' := by
  unfold close closeCheck at h
  rw [runs_self_bind, runs_check_bind] at h
  rcases h with ⟨hs, rfl, rfl, rfl, rfl⟩ | ⟨hs, h⟩
  · exact .refused (href hs)
  rcases runs_bind.mp h with ⟨e, rfl, hc⟩ | ⟨_, _, k1, _, _, hc, hu, rfl⟩
  · obtain ⟨rfl, hk⟩ := zoomClose_threw hc
    exact .closeFailed (.inl (hop hs)) hk
  · obtain ⟨rfl, hk⟩ := zoomClose_returned hc
    obtain ⟨rfl, rfl, rfl, rfl⟩ := runs_update.mp hu
    simpa [Except.map] using Step.closed (hop hs) hk

theorem closeDirection_step {check : StrSoFsmState → M StreamSocketFsm Unit} {how : Int}
    {next : StrSoFsmState} {op : StrSoOp} {r : Except SnlException Unit} {p : Prop} [Decidable p]
    {e : SnlException} (hcheck : check s.fsmState = if p then raise e else pure ())
    (hop : op = .closeUpstream ∨ op = .closeDownstream) (hnext : halfClosed op = next)
    (how_eq : s.OwnCall op (.shutdown s.strSoFd.fd how)) (href : p → s.Refuses op)
    (hclosing : ¬ p → s.fsmState ≠ .CONNECTED → s.Closing op)
    (hclosed : s.fsmState = .CLOSED → s.Refuses op)
    (h : Runs (Kernel.Answers m) (closeDirection check how next) s k evs r s' k') :
    Step m s k op evs (r.map fun _ => .unit) s' k' := by
  unfold closeDirection FdGuard.get at h
  rw [runs_self_bind, hcheck, runs_check_bind] at h
  rcases h with ⟨hs, rfl, rfl, rfl, rfl⟩ | ⟨hs, h⟩
  · exact .refused (href hs)
  rcases runs_ite.mp h with ⟨hconn, h⟩ | ⟨hconn, h⟩
  · have ht : s.Touches op := by rcases hop with rfl | rfl <;> exact hconn
    rcases runs_bind.mp h with ⟨e, rfl, hx⟩ | ⟨reply, _, k1, _, _, hx, hu, rfl⟩
    · obtain ⟨rfl, rfl, hf, ⟨rep, rfl⟩, -⟩ := executeSyscall_threw (by simp) hx
      exact .failed ht (by simpa using how_eq) hf
    · obtain ⟨rfl, hs, hf, rfl, ha⟩ := executeSyscall_returned hx
      rw [Kernel.answers_shutdown] at ha
      obtain ⟨hopen, -, rfl⟩ := ha.resolve_left fun h => hs h.1
      obtain ⟨rfl, rfl, rfl, rfl⟩ := runs_update.mp hu
      subst hnext
      simpa [Except.map] using
        Step.halfClosed hop hconn (by simpa using how_eq) hf hopen
  · exact close_step (fun _ => hclosing hs hconn) hclosed h

theorem reset_step {r : Except SnlException Unit}
    (h : Runs (Kernel.Answers m) reset s k evs r s' k') :
    Step m s k .reset evs (r.map fun _ => .unit) s' k' := by
  rcases runs_bind.mp h with ⟨e, rfl, hc⟩ | ⟨_, _, k1, _, _, hc, hu, rfl⟩
  · obtain ⟨rfl, hk⟩ := zoomClose_threw hc
    exact .closeFailed (.inr (.inl rfl)) hk
  · obtain ⟨rfl, hk⟩ := zoomClose_returned hc
    obtain ⟨rfl, rfl, rfl, rfl⟩ := runs_update.mp hu
    simpa [Except.map, defaultNonBlock] using Step.wasReset hk

theorem resetConnection_step {r : Except SnlException Unit}
    (h : Runs (Kernel.Answers m) resetConnection s k evs r s' k') :
    Step m s k .resetConnection evs (r.map fun _ => .unit) s' k' := by
  unfold resetConnection resetConnectCheck at h
  rw [runs_self_bind, runs_check_bind] at h
  rcases h with ⟨hs, rfl, rfl, rfl, rfl⟩ | ⟨hs, h⟩
  · exact .refused hs
  rcases runs_bind.mp h with ⟨e, rfl, hc⟩ | ⟨_, s1, k1, evs1, evs2, hc, h, rfl⟩
  · obtain ⟨rfl, hk⟩ := zoomClose_threw hc
    exact .closeFailed (.inr (.inr ⟨rfl, hs⟩)) hk
  obtain ⟨rfl, hk⟩ := zoomClose_returned hc
  rcases runs_bind.mp h with ⟨e, rfl, ha⟩ | ⟨address, _, _, _, evs3, ha, hrest, rfl⟩
  · obtain ⟨rfl, rfl, rfl, hr⟩ := getSockAddress_runs ha
    obtain ⟨hcon, -⟩ := hr.resolve_left (by simp)
    have hclosed : s.fsmState = .CLOSED := by
      by_contra hne
      have hcon' := isConnected_iff (s := { s with strSoFd := ⟨-1⟩ }).mpr ⟨hs, hne⟩
      rw [hcon] at hcon'
      simp at hcon'
    simpa [Except.map] using Step.notReconnected hclosed hk
  obtain ⟨rfl, rfl, rfl, hr⟩ := getSockAddress_runs ha
  obtain ⟨hcon, haddr⟩ := hr.resolve_right (by simp)
  replace hcon : s.isConnected = true := hcon
  obtain rfl : address = s.socketAddress := by simpa using haddr
  rcases runs_bind.mp hrest with ⟨e, rfl, hcr⟩ | ⟨temp, _, k2, evs4, evs5, hcr, hl, rfl⟩
  · obtain ⟨rfl, hcalls, hr⟩ := createSockAndConnect_runs hcr
    obtain ⟨hf, -, hk2⟩ := hr.resolve_right (by simp)
    exact Step.reconnectFailed (s := s) hcon (by simp) hk hcalls (by simp [hf]) hk2
  obtain ⟨rfl, hcalls, hr⟩ := createSockAndConnect_runs hcr
  obtain ⟨hf, n, hn, hk2⟩ := hr.resolve_left (by simp)
  obtain rfl : temp = ⟨n⟩ := by simpa using hn
  have hclean : ¬ AnyFailed evs1 := by
    rcases hk with ⟨-, rfl, -⟩ | ⟨-, rep, h0, rfl, -⟩ <;> simp_all
  -- the temporary gives its fd away
  rcases runs_bind.mp hl with ⟨e, rfl, hw⟩ | ⟨_, _, k3, _, _, hw, hu, rfl⟩
  · obtain ⟨g1, g2, k4, evs6, evs7, hbody, hd, rfl⟩ := runs_withLocal.mp hw
    obtain ⟨-, h, -⟩ := assignFd_runs rfl hbody
    simp at h
  · obtain ⟨g1, g2, k4, evs6, evs7, hbody, hd, rfl⟩ := runs_withLocal.mp hw
    obtain ⟨rfl, -, ht, rfl⟩ := assignFd_runs rfl hbody
    simp only [Prod.mk.injEq] at ht
    obtain ⟨rfl, rfl⟩ := ht
    obtain ⟨rfl, -, -, rfl⟩ := closeEmpty_runs rfl hd
    obtain ⟨rfl, rfl, rfl, rfl⟩ := runs_update.mp hu
    have hf' : ¬ AnyFailed (evs1 ++ evs4) := by simp [hf, hclean]
    simpa [Except.map] using Step.reconnected (s := s) hcon rfl hk hcalls hf' hk2

theorem setNonBlock_step {nonBlockVal : Bool} {r : Except SnlException Unit}
    (h : Runs (Kernel.Answers m) (setNonBlock nonBlockVal) s k evs r s' k') :
    Step m s k (.setNonBlock nonBlockVal) evs (r.map fun _ => .unit) s' k' := by
  unfold setNonBlock at h
  rw [runs_self_bind, runs_ite, runs_ite, runs_pure] at h
  rcases h with ⟨hb, rfl, rfl, rfl, rfl⟩ | ⟨hb, ⟨hs, rfl, rfl, rfl, rfl⟩ | ⟨hs, h⟩⟩
  · exact .returned ⟨rfl, .inl hb⟩
  · exact .returned ⟨rfl, .inr hs⟩
  · obtain ⟨hs', hcalls, hr⟩ := fcntlBlockingBehav_runs h
    subst hs'
    have hc : ∀ e ∈ evs, s'.OwnCall (.setNonBlock nonBlockVal) e.call :=
      fun e he => (hcalls e he).2
    obtain ⟨hf, ⟨no, rfl⟩, rfl⟩ | ⟨hf, hne, rfl, f, hopen, rfl⟩ := hr
    · exact .failed ⟨hb, hs⟩ hc hf
    · exact .modeSet ⟨hb, hs⟩ hc hne hf hopen

/-- The code refines the steps: an operation does nothing but what `Step` lists. -/
theorem perform_step {op : StrSoOp} {r : Except SnlException StrSoValue}
    (hinit : s.fsmState = .INIT → s.strSoFd.fd = -1)
    (h : Runs (Kernel.Answers m) (perform op) s k evs r s' k') : Step m s k op evs r s' k' := by
  cases op with
  | connect address =>
    obtain ⟨r0, hx, rfl⟩ := runs_bind_pure.mp h
    exact connect_step hinit hx
  | send buffer flags =>
    obtain ⟨r0, hx, rfl⟩ := runs_bind_pure.mp h
    exact send_step hx
  | receive bufferSize flags =>
    obtain ⟨r0, hx, rfl⟩ := runs_bind_pure.mp h
    exact receive_step hx
  | closeUpstream =>
    obtain ⟨r0, hx, rfl⟩ := runs_bind_pure.mp h
    exact closeDirection_step (p := s.fsmState ≠ .DCLOSED ∧ s.fsmState ≠ .CONNECTED) rfl (.inl rfl)
      rfl rfl id (by simp only [Closing]; tauto) (by simp +contextual [Refuses]) hx
  | closeDownstream =>
    obtain ⟨r0, hx, rfl⟩ := runs_bind_pure.mp h
    exact closeDirection_step (p := s.fsmState ≠ .UCLOSED ∧ s.fsmState ≠ .CONNECTED) rfl (.inr rfl)
      rfl rfl id (by simp only [Closing]; tauto) (by simp +contextual [Refuses]) hx
  | close =>
    obtain ⟨r0, hx, rfl⟩ := runs_bind_pure.mp h
    exact close_step id id hx
  | reset =>
    obtain ⟨r0, hx, rfl⟩ := runs_bind_pure.mp h
    exact reset_step hx
  | resetConnection =>
    obtain ⟨r0, hx, rfl⟩ := runs_bind_pure.mp h
    exact resetConnection_step hx
  | setNonBlock nonBlockVal =>
    obtain ⟨r0, hx, rfl⟩ := runs_bind_pure.mp h
    exact setNonBlock_step hx
  | getSockAddress =>
    obtain ⟨r0, hx, rfl⟩ := runs_bind_pure.mp h
    obtain ⟨rfl, rfl, rfl, ⟨hc, rfl⟩ | ⟨hc, e, rfl⟩⟩ := getSockAddress_runs hx
    · exact .returned ⟨rfl, hc⟩
    · exact .refused hc
  | isNonBlock | isConnected | upstreamClosed | downStreamClosed | isClosed =>
    unfold perform at h
    rw [runs_self_bind, runs_pure] at h
    obtain ⟨rfl, rfl, rfl, rfl⟩ := h
    exact .returned rfl

end

/-! ## When no call fails -/

theorem createSockAndConnect_succeeds [Host] {m : CloseFailure} {σ : Type} {s : σ} {k : Kernel}
    {address : SocketAddress} {nonBlockVal : Bool} (hk : k.Wf)
    (hflags : k.initFlags k.born ≠ -1#32) :
    Method.Returns (Kernel.Succeeds m)
      (createSockAndConnect address nonBlockVal : M σ FdGuard) s k fun r s' k' =>
        s' = s ∧ ∃ n, r = .ok ⟨n⟩ ∧ Connects k address nonBlockVal n k' := by
  unfold createSockAndConnect
  refine returns_bind (makeFdGuard_succeeds hk) ?_ ?_
  · rintro guard s1 k1 ⟨rfl, n, hguard, hfresh, rfl⟩
    obtain rfl := Except.ok.inj hguard
    have hopen : (k.opened n none).files n = some (k.newFile none) := Function.update_self ..
    refine returns_bind (returns_unwinding_ok (a := ()) (Q := fun s' k' => s' = s1 ∧
      Connects k address nonBlockVal n k') ?_) ?_ ?_
    · refine returns_bind (Q := fun r s' k' => (∃ v, r = .ok v) ∧ s' = s1 ∧
        k' = (k.opened n none).setFile n (some { k.newFile none with
          peer := some (address.getSockaddrStorage, address.getAddrlen) }))
        (executeSyscall_returns ?_ ?_) ?_ ?_
      · exact ⟨{ status := 0 }, _, by simp, Kernel.answers_connect.mpr (.inr ⟨_, hopen, rfl, rfl⟩)⟩
      · rintro r k' ⟨hr, ha⟩
        obtain ⟨f, hf, -, rfl⟩ := (Kernel.answers_connect.mp ha).resolve_left fun h => hr h.1
        obtain rfl : _ = f := Option.some.inj (hopen.symm.trans hf)
        exact ⟨hr, ⟨r, rfl⟩, rfl, rfl⟩
      · rintro _ s2 k2 ⟨-, rfl, rfl⟩
        refine returns_mono (fcntlBlockingBehav_succeeds (Function.update_self ..) hflags) ?_
        rintro r s' k' ⟨rfl, rfl, rfl⟩
        exact ⟨rfl, rfl, hfresh, by simp [Kernel.setFile, Kernel.newFile]⟩
      · rintro e _ _ ⟨⟨_, he⟩, -⟩
        simp at he
    · rintro _ s2 k2 ⟨-, rfl, hk2⟩
      exact returns_pure ⟨rfl, n, rfl, hk2⟩
    · rintro e _ _ ⟨he, -⟩
      simp at he
  · rintro e _ _ ⟨-, n, he, -⟩
    simp at he

theorem getSockAddress_returns {W : Type} {env : W → Call → Reply → W → Prop} {s : StreamSocketFsm}
    {w : W} (hs : s.isConnected = true) : Method.Returns env getSockAddress s w fun r s' w' =>
      r = .ok s.socketAddress ∧ s' = s ∧ w' = w := by
  unfold getSockAddress
  refine returns_self_bind ?_
  rw [if_neg (not_not.mpr hs)]
  exact returns_pure ⟨rfl, rfl, rfl⟩

theorem resetConnection_succeeds [Host] {m : CloseFailure} {s : StreamSocketFsm} {k : Kernel}
    (hk : k.Wf) (hflags : k.initFlags k.born ≠ -1#32) (hheld : s.strSoFd.Held k)
    (hs : s.isConnected = true) :
    Method.Returns (Kernel.Succeeds m) resetConnection s k fun r s' k' => r = .ok () ∧
      ∃ n k1, s' = { s with strSoFd := ⟨n⟩, fsmState := .CONNECTED } ∧ k1.born = k.born ∧
        Connects k1 s.socketAddress s.nonBlock n k' := by
  have hstate := isConnected_iff.mp hs
  unfold resetConnection resetConnectCheck
  refine returns_self_bind (returns_check_bind hstate.1 ?_)
  refine returns_bind (returns_zoom (close_succeeds hheld)) ?_ ?_
  · rintro _ s1 k1 ⟨_, rfl, -, rfl, hk1⟩
    have hwf : k1.Wf ∧ k1.born = k.born ∧ k1.initFlags = k.initFlags := by
      rw [hk1]
      split
      · exact ⟨hk, rfl, rfl⟩
      · obtain ⟨f, hf⟩ := hheld ‹_›
        exact ⟨Kernel.wf_effect hk (.closed (r := { status := 0 }) hf), rfl, rfl⟩
    obtain ⟨hwf, hborn, hinit⟩ := hwf
    refine returns_then (getSockAddress_returns (s := { s with strSoFd := ⟨-1⟩ }) hs) ?_
    refine returns_bind (createSockAndConnect_succeeds hwf (by rwa [hinit, hborn])) ?_ ?_
    · rintro temporary s2 k2 ⟨rfl, n, htemp, hk2⟩
      obtain rfl := Except.ok.inj htemp
      -- the temporary gives its fd away
      exact .done ⟨rfl, n, k1, rfl, hborn, hk2⟩
    · rintro e _ _ ⟨-, n, he, -⟩
      simp at he
  · rintro e _ _ ⟨_, -, he, -⟩
    simp at he

end StreamSocketFsm

end Snl
