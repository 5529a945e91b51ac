import SocketInterface.StreamSocketFsm
import SocketInterface.Session

/-! # Runs of `StreamSocketFsm` -/

namespace Snl

open Method

abbrev StrSoConfig := Config StreamSocketFsm

abbrev StrSoLabel := Label StrSoOp StrSoValue

abbrev StrSoMove := Move StrSoConfig StrSoLabel

abbrev StrSoStep [Host] (m : CloseFailure) := OpStep m StreamSocketFsm.perform

inductive StrSoBuilt : StrSoConfig → Prop
  | default {kernel} (hk : kernel.Wf) : StrSoBuilt ⟨{}, kernel⟩
  | accepted {kernel fd f} (socketAddress : SocketAddress) (hk : kernel.Wf)
      (hf : kernel.files fd = some f) :
      StrSoBuilt ⟨.accepted ⟨fd⟩ socketAddress, kernel⟩

/-! ## What the user asked for -/

def modeAsked (b : Bool) (x : StrSoMove) : Bool :=
  match x.label.op, x.label.result with
  | .setNonBlock nonBlockVal, .ok _ => nonBlockVal
  | .reset, .ok _ => false
  | _, _ => b

/-- The argument of the last `setNonBlock` that returned, since the last `reset`. -/
def lastMode (t : List StrSoMove) : Bool := t.foldl modeAsked false

def addressAfter (a : Option SocketAddress) (x : StrSoMove) : Option SocketAddress :=
  match x.label.op, x.label.result with
  | .connect socketAddress, .ok _ => some socketAddress
  | .reset, .ok _ => none
  | _, _ => a

def acceptedFrom (c : StrSoConfig) : Option SocketAddress :=
  if c.fsm.fsmState = .INIT then none else some c.fsm.socketAddress

/-- The address of the last successful `connect` or `accept`, since the last `reset`. -/
def lastPeer (c0 : StrSoConfig) (t : List StrSoMove) : Option SocketAddress :=
  t.foldl addressAfter (acceptedFrom c0)

@[simp] theorem lastMode_nil : lastMode [] = false := rfl

@[simp] theorem lastMode_snoc (t : List StrSoMove) (x : StrSoMove) :
    lastMode (t ++ [x]) = modeAsked (lastMode t) x := by simp [lastMode]

@[simp] theorem lastPeer_nil (c0 : StrSoConfig) : lastPeer c0 [] = acceptedFrom c0 := rfl

@[simp] theorem lastPeer_snoc (c0 : StrSoConfig) (t : List StrSoMove) (x : StrSoMove) :
    lastPeer c0 (t ++ [x]) = addressAfter (lastPeer c0 t) x := by simp [lastPeer]

def newStrSo : StrSoConfig := ⟨{}, emptyKernel⟩

theorem newStrSo_built : StrSoBuilt newStrSo := .default emptyKernel_wf

/-! ## The state -/

def Connected (c : StrSoConfig) : Prop :=
  c.fsm.fsmState = .CONNECTED ∨ c.fsm.fsmState = .UCLOSED ∨ c.fsm.fsmState = .DCLOSED

theorem connected_iff {c : StrSoConfig} :
    Connected c ↔ c.fsm.fsmState ≠ .INIT ∧ c.fsm.fsmState ≠ .CLOSED := by
  unfold Connected
  cases c.fsm.fsmState <;> simp

def OwnsOpenFd (c : StrSoConfig) : Prop :=
  c.fsm.strSoFd.ownsFd = true ∧ ∃ f, c.kernel.files c.fsm.strSoFd.fd = some f

def Call.ioFd : Call → Option Fd
  | .send fd .. | .recv fd .. | .shutdown fd _ | .fcntl fd .. => some fd
  | _ => none

def StreamSocketFsm.Idle (s : StreamSocketFsm) : Prop :=
  (s.fsmState = .INIT → s.strSoFd.fd = -1) ∧ s.nonBlock = false

theorem StrSoBuilt.idle {c : StrSoConfig} (h : StrSoBuilt c) : c.fsm.Idle := by
  cases h with
  | default => exact ⟨fun _ => rfl, rfl⟩
  | accepted => exact ⟨by simp [StreamSocketFsm.accepted], rfl⟩

theorem StrSoBuilt.wf {c : StrSoConfig} (h : StrSoBuilt c) : c.kernel.Wf := by
  cases h <;> assumption

section

variable [Host] {m : CloseFailure} {c0 c c' : StrSoConfig} {l : StrSoLabel} {t : List StrSoMove}

theorem StreamSocketFsm.step_idle {s s' : StreamSocketFsm} {k k' : Kernel} {op : StrSoOp}
    {evs : List Ev} {r : Except SnlException StrSoValue} (h : Step m s k op evs r s' k')
    (hs : s.Idle) : s'.Idle := by
  obtain ⟨hfd, hmode⟩ := hs
  cases h with
  | refused | returned | sent | received | failed | modeSet | closeFailed | connectFailed =>
    exact ⟨hfd, hmode⟩
  | halfClosed hop =>
    exact ⟨by rcases hop with rfl | rfl <;> simp [StreamSocketFsm.halfClosed], hmode⟩
  | closed | connected | reconnected => exact ⟨by simp, hmode⟩
  | wasReset => exact ⟨fun _ => rfl, rfl⟩
  | notReconnected | reconnectFailed => exact ⟨fun _ => rfl, hmode⟩

theorem step_of_idle (hs : c.fsm.Idle) (h : StrSoStep m c l c') :
    StreamSocketFsm.Step m c.fsm c.kernel l.op l.evs l.result c'.fsm c'.kernel :=
  StreamSocketFsm.perform_step hs.1 h

theorem idle_of_path (hb : StrSoBuilt c0) (h : StepPath (StrSoStep m) c0 t c) : c.fsm.Idle :=
  h.invariant (I := fun _ c => c.fsm.Idle) hb.idle
    fun _ _ _ _ hs h => StreamSocketFsm.step_idle (step_of_idle hs h) hs

end

/-! ## The fd and the state

`resetConnection` closes the fd before it makes the new one, and `setNonBlock` asks for the state
`INIT` where it means an empty guard.
-/

/-- The socket owns an open fd exactly when it is connected, and `-1` is never used. -/
def FdMatchesState (t : List StrSoMove) (c : StrSoConfig) : Prop :=
  (OwnsOpenFd c ↔ Connected c) ∧ ∀ x ∈ t, ∀ e ∈ x.label.evs, e.call.ioFd ≠ some (-1)

def LosesFd (x : StrSoMove) : Prop :=
  (x.label.op = .resetConnection ∧ Connected x.before ∧ AnyFailed x.label.evs) ∨
    (x.label.op = .setNonBlock true ∧ x.before.fsm.fsmState = .CLOSED)

structure FdInv (t : List StrSoMove) (c : StrSoConfig) : Prop where
  wf : c.kernel.Wf
  idle : c.fsm.Idle
  empty : ¬ Connected c → c.fsm.strSoFd.fd = -1
  isOpen : Connected c → ∃ f, c.kernel.files c.fsm.strSoFd.fd = some f
  calls : ∀ x ∈ t, ∀ e ∈ x.label.evs, e.call.ioFd ≠ some (-1)

theorem FdInv.matches {t : List StrSoMove} {c : StrSoConfig} (h : FdInv t c) : FdMatchesState t c := by
  refine ⟨⟨fun ⟨ho, _⟩ => ?_, fun hc => ?_⟩, h.calls⟩
  · by_contra hc
    simp [h.empty hc] at ho
  · obtain ⟨f, hf⟩ := h.isOpen hc
    exact ⟨by simpa using h.wf.ne_none hf, f, hf⟩

theorem StrSoBuilt.fdInv {c : StrSoConfig} (h : StrSoBuilt c) : FdInv [] c := by
  refine ⟨h.wf, h.idle, ?_, ?_, by simp⟩
  · cases h <;> simp [Connected, StreamSocketFsm.accepted]
  · cases h with
    | default => simp [Connected]
    | accepted _ _ hf => exact fun _ => ⟨_, hf⟩

section

variable [Host] {c0 c c' : StrSoConfig} {l : StrSoLabel} {t : List StrSoMove}

omit [Host] in
/-- A call on its own fd is one on an open fd, but for `setNonBlock` after `close`. -/
theorem connected_of_touches {s : StreamSocketFsm} {k : Kernel} {op : StrSoOp} (hs : s.Idle)
    (h : s.Touches op) :
    Connected ⟨s, k⟩ ∨ (op = .setNonBlock true ∧ s.fsmState = .CLOSED) := by
  rw [connected_iff]
  cases op with
  | setNonBlock nonBlockVal =>
    obtain ⟨hne, hinit⟩ := h
    obtain rfl : nonBlockVal = true := by simpa [hs.2] using hne
    tauto
  | send | receive | closeUpstream | closeDownstream =>
    unfold StreamSocketFsm.Touches at h
    grind
  | _ => exact h.elim

omit [Host] in
theorem ownCall_ioFd {s : StreamSocketFsm} {op : StrSoOp} {call : Call} (h : s.OwnCall op call) :
    call.ioFd = some s.strSoFd.fd := by
  cases op with
  | setNonBlock =>
    obtain ⟨cmd, arg, rfl⟩ := h
    rfl
  | send | receive | closeUpstream | closeDownstream =>
    simp only [StreamSocketFsm.OwnCall] at h
    rw [h]
    rfl
  | _ => exact h.elim

omit [Host] in
theorem connectCall_ioFd {k : Kernel} {call : Call} (h : StreamSocketFsm.ConnectCall k call) :
    call.ioFd ≠ some (-1) := by
  rcases h with ⟨_, _, _, rfl⟩ | ⟨n, hn, rfl | ⟨_, _, rfl⟩ | ⟨_, _, rfl⟩⟩
  · simp [Call.ioFd]
  · simp [Call.ioFd]
  · simp [Call.ioFd]
  · simpa [Call.ioFd] using fun h : n = -1 => absurd hn.1 (by simp [h])

omit [Host] in
theorem closes_ioFd {k k' : Kernel} {fd : Fd} {evs : List Ev} (h : Closes k fd evs k') :
    ∀ e ∈ evs, e.call.ioFd ≠ some (-1) := by
  intro e he
  simp [(h.calls.2 e he).1, Call.ioFd]

theorem fdInv_step (hi : FdInv t c) (h : StrSoStep .never c l c')
    (hl : ¬ LosesFd ⟨c, l, c'⟩) : FdInv (t ++ [⟨c, l, c'⟩]) c' := by
  obtain ⟨s, k⟩ := c
  obtain ⟨op, evs, r⟩ := l
  obtain ⟨s', k'⟩ := c'
  have hs : StreamSocketFsm.Step .never s k op evs r s' k' := step_of_idle hi.idle h
  have hwf : k'.Wf := exec_wf h hi.wf
  have hidle : s'.Idle := StreamSocketFsm.step_idle hs hi.idle
  -- on its own fd the socket issues calls while it is connected
  have hown : s.Touches op → (∀ e ∈ evs, s.OwnCall op e.call) →
      ∀ e ∈ evs, e.call.ioFd ≠ some (-1) := by
    intro ht hc e he
    rw [ownCall_ioFd (hc e he)]
    have hcon := (connected_of_touches (k := k) hi.idle ht).resolve_right fun h => hl (.inr h)
    obtain ⟨f, hf⟩ := hi.isOpen hcon
    simpa using hi.wf.ne_none hf
  suffices hnew : (¬ Connected ⟨s', k'⟩ → s'.strSoFd.fd = -1) ∧
      (Connected ⟨s', k'⟩ → ∃ f, k'.files s'.strSoFd.fd = some f) ∧
      ∀ e ∈ evs, e.call.ioFd ≠ some (-1) by
    refine ⟨hwf, hidle, hnew.1, hnew.2.1, ?_⟩
    intro x hx
    rcases List.mem_append.mp hx with hx | hx
    · exact hi.calls x hx
    · obtain rfl := List.mem_singleton.mp hx
      exact hnew.2.2
  cases hs with
  | refused | returned => exact ⟨hi.empty, hi.isOpen, by simp⟩
  | sent ht hc | received ht hc | failed ht hc _ => exact ⟨hi.empty, hi.isOpen, hown ht hc⟩
  | halfClosed hop hcon hc _ hopen =>
    have ht : s.Touches op := by rcases hop with rfl | rfl <;> exact hcon
    refine ⟨?_, fun _ => hopen, hown ht hc⟩
    rcases hop with rfl | rfl <;> simp [Connected, StreamSocketFsm.halfClosed]
  | modeSet ht hc _ _ _ => exact ⟨hi.empty, fun _ => ⟨_, Function.update_self ..⟩, hown ht hc⟩
  | closed _ hk | wasReset hk =>
    exact ⟨fun _ => rfl, by simp [Connected], closes_ioFd hk⟩
  | closeFailed _ hk =>
    by_cases hcon : Connected ⟨s, k⟩
    · obtain ⟨f, hf⟩ := hi.isOpen hcon
      exact absurd hk (CloseFails.not_never hf)
    · exact absurd (hi.empty hcon) hk.1
  | connectFailed hinit hc _ _ =>
    exact ⟨hi.empty, by simp [Connected, hinit], fun e he => connectCall_ioFd (hc e he)⟩
  | connected _ hc _ hk =>
    refine ⟨by simp [Connected], fun _ => ?_, fun e he => connectCall_ioFd (hc e he)⟩
    simp [hk.2]
  | notReconnected hclosed hk =>
    exact ⟨fun _ => rfl, by simp [Connected, hclosed], closes_ioFd hk⟩
  | reconnectFailed hcon _ _ _ hf _ =>
    have hcon : Connected ⟨s, k⟩ := connected_iff.mpr (StreamSocketFsm.isConnected_iff.mp hcon)
    exact absurd (.inl ⟨rfl, hcon, hf⟩) hl
  | reconnected _ hevs hk1 hc _ hk =>
    subst hevs
    refine ⟨by simp [Connected], fun _ => by simp [hk.2], fun e he => ?_⟩
    rcases List.mem_append.mp he with he | he
    · exact closes_ioFd hk1 e he
    · exact connectCall_ioFd (hc e he)

theorem not_fdMatches_of_losesFd (hi : FdInv t c) (h : StrSoStep .never c l c')
    (hl : LosesFd ⟨c, l, c'⟩) : ¬ FdMatchesState (t ++ [⟨c, l, c'⟩]) c' := by
  obtain ⟨s, k⟩ := c
  obtain ⟨op, evs, r⟩ := l
  obtain ⟨s', k'⟩ := c'
  have hs : StreamSocketFsm.Step .never s k op evs r s' k' := step_of_idle hi.idle h
  rintro ⟨howns, hcalls⟩
  replace hcalls : ∀ e ∈ evs, e.call.ioFd ≠ some (-1) := hcalls ⟨⟨s, k⟩, ⟨op, evs, r⟩, ⟨s', k'⟩⟩ (by simp)
  rcases hl with ⟨rfl, hcon, hf⟩ | ⟨rfl, hclosed⟩
  · simp only at hcon hf
    cases hs with
    | reconnectFailed => simpa [OwnsOpenFd] using howns.mpr hcon
    | closeFailed _ hk =>
      obtain ⟨f, hf⟩ := hi.isOpen hcon
      exact absurd hk (CloseFails.not_never hf)
    | reconnected => contradiction
    | notReconnected hclosed => simp [Connected, hclosed] at hcon
    | refused hs => simp_all [Connected, StreamSocketFsm.Refuses]
    | returned hs | failed hs | closed hs => exact hs.elim
    | halfClosed hop => simp at hop
  · simp only at hclosed
    have hfd : s.strSoFd.fd = -1 := hi.empty (by simp [Connected, hclosed])
    -- the guard is empty: a call would be issued on `-1`
    have hnone : (∀ e ∈ evs, s.OwnCall (.setNonBlock true) e.call) → evs ≠ [] → False := by
      intro hc hne
      obtain ⟨e, he⟩ := List.exists_mem_of_ne_nil _ hne
      exact hcalls e he (hfd ▸ ownCall_ioFd (hc e he))
    cases hs with
    | refused hs => exact hs.elim
    | returned hs =>
      have hmode : s.nonBlock = false := hi.idle.2
      simp_all [StreamSocketFsm.Returns]
    | failed _ hc hf => exact hnone hc (by rintro rfl; simp at hf)
    | modeSet _ hc hne _ _ => exact hnone hc hne
    | closed hs => exact hs.elim
    | halfClosed hop => simp at hop
    | closeFailed hs => simp [StreamSocketFsm.Closing] at hs

/-- In a run the socket owns an open fd exactly when it is connected, and no call is issued on
`-1`, exactly when no `resetConnection` of a connected socket meets a failing call and
`setNonBlock(true)` is never called after `close`. -/
theorem fdMatchesState_iff (hb : StrSoBuilt c0) (h : StepPath (StrSoStep .never) c0 t c) :
    (∀ t1, t1 <+: t → FdMatchesState t1 (endState c0 t1)) ↔ ∀ x ∈ t, ¬ LosesFd x := by
  refine h.always_iff (P := FdMatchesState) (I := FdInv) hb.fdInv hb.fdInv.matches ?_
  intro t c l c' hi hs
  refine ⟨⟨?_, fun hl => (fdInv_step hi hs hl).matches⟩, fdInv_step hi hs⟩
  exact fun hp hl => not_fdMatches_of_losesFd hi hs hl hp

end

def lostFd : List (StrSoOp × List Reply) :=
  [(.connect someAddress, setupReplies 3), (.resetConnection, [okReply, failReply 24])]

theorem fdMatchesState_not_always : ¬ ∀ [Host] {c0 c : StrSoConfig} {t : List StrSoMove},
    StrSoBuilt c0 → StepPath (StrSoStep .never) c0 t c →
    ∀ t1, t1 <+: t → FdMatchesState t1 (endState c0 t1) := by
  intro hall
  let host : Host := littleHost
  have hrun := path_of_session (rfl : follow (nextOp .never StreamSocketFsm.perform)
    newStrSo lostFd = some (_, _))
  have h := (hall newStrSo_built hrun _ List.prefix_rfl).1
  rw [hrun.endState_eq] at h
  exact absurd (h.mpr (.inl rfl)).1 (by decide)

def closedOff : List (StrSoOp × List Reply) :=
  [(.connect someAddress, setupReplies 3), (.closeUpstream, [okReply]), (.close, [okReply])]

theorem fdMatchesState_closedOff : ∃ (_ : Host) (t : List StrSoMove) (c : StrSoConfig),
    StepPath (StrSoStep .never) newStrSo t c ∧ t.length = 3 ∧
    ∀ t1, t1 <+: t → FdMatchesState t1 (endState newStrSo t1) := by
  let host : Host := littleHost
  have hrun := path_of_session (rfl : follow (nextOp .never StreamSocketFsm.perform)
    newStrSo closedOff = some (_, _))
  refine ⟨host, _, _, hrun, rfl, (fdMatchesState_iff newStrSo_built hrun).mpr ?_⟩
  simp only [List.forall_mem_cons]
  refine ⟨?_, ?_, ?_, by simp⟩ <;> rintro (⟨h, -⟩ | ⟨h, -⟩) <;> cases h

/-! ## The blocking mode

`setNonBlock` never stores the mode.
-/

def ModeMatches (t : List StrSoMove) (c : StrSoConfig) : Prop :=
  c.fsm.isNonBlock = lastMode t ∧ (c.fsm.strSoFd.ownsFd = true →
    ∃ f, c.kernel.files c.fsm.strSoFd.fd = some f ∧ f.nonBlock = c.fsm.isNonBlock)

def AsksNonBlock (x : StrSoMove) : Prop :=
  x.label.op = .setNonBlock true ∧ ¬ AnyFailed x.label.evs

structure ModeInv (t : List StrSoMove) (c : StrSoConfig) : Prop where
  idle : c.fsm.Idle
  asked : lastMode t = false
  blocking : c.fsm.strSoFd.fd ≠ -1 →
    ∃ f, c.kernel.files c.fsm.strSoFd.fd = some f ∧ f.nonBlock = false

theorem ModeInv.matches {t : List StrSoMove} {c : StrSoConfig} (h : ModeInv t c) :
    ModeMatches t c := by
  refine ⟨h.idle.2.trans h.asked.symm, fun ho => ?_⟩
  obtain ⟨f, hf, hmode⟩ := h.blocking (by simpa using ho)
  exact ⟨f, hf, hmode.trans h.idle.2.symm⟩

theorem StrSoBuilt.modeInv {c : StrSoConfig} (h : StrSoBuilt c)
    (hblocking : ∀ f, c.kernel.files c.fsm.strSoFd.fd = some f → f.nonBlock = false) :
    ModeInv [] c := by
  refine ⟨h.idle, rfl, ?_⟩
  cases h with
  | default => simp
  | accepted _ _ hf => exact fun _ => ⟨_, hf, hblocking _ hf⟩

section

variable [Host] {m : CloseFailure} {c0 c c' : StrSoConfig} {l : StrSoLabel} {t : List StrSoMove}

theorem setNonBlock_ok_iff (hs : c.fsm.Idle) (h : StrSoStep m c l c')
    (hop : l.op = .setNonBlock true) : (∃ v, l.result = .ok v) ↔ ¬ AnyFailed l.evs := by
  obtain ⟨s, k⟩ := c
  obtain ⟨op, evs, r⟩ := l
  obtain ⟨s', k'⟩ := c'
  obtain rfl : op = .setNonBlock true := hop
  have hstep : StreamSocketFsm.Step m s k (.setNonBlock true) evs r s' k' := step_of_idle hs h
  cases hstep with
  | refused hs | closed hs => exact hs.elim
  | returned => simp
  | failed _ _ hf => simp [hf]
  | halfClosed hop => simp at hop
  | modeSet _ _ _ hf => simp [hf]
  | closeFailed hs => simp [StreamSocketFsm.Closing] at hs

omit [Host] in
theorem modeAsked_eq {x : StrSoMove} (h : modeAsked false x = true) :
    x.label.op = .setNonBlock true ∧ ∃ v, x.label.result = .ok v := by
  unfold modeAsked at h
  split at h <;> simp_all

theorem modeAsked_iff (hs : c.fsm.Idle) (h : StrSoStep m c l c') :
    modeAsked false ⟨c, l, c'⟩ = true ↔ AsksNonBlock ⟨c, l, c'⟩ := by
  constructor
  · intro hm
    obtain ⟨hop, hok⟩ := modeAsked_eq hm
    exact ⟨hop, (setNonBlock_ok_iff hs h hop).mp hok⟩
  · rintro ⟨hop, hf⟩
    obtain ⟨v, hv⟩ := (setNonBlock_ok_iff hs h hop).mpr hf
    simp only at hop
    simp [modeAsked, hop, hv]

omit [Host] in
theorem connects_blocking [Host] {k k' : Kernel} {address : SocketAddress} {n : Fd}
    (h : StreamSocketFsm.Connects k address false n k') :
    ∃ f, k'.files n = some f ∧ f.nonBlock = false := by
  refine ⟨_, by rw [h.2]; exact Function.update_self .., ?_⟩
  exact blockingFlags_nonBlock (k.newFile none) false

theorem modeInv_step (hi : ModeInv t c) (h : StrSoStep .never c l c')
    (hl : ¬ AsksNonBlock ⟨c, l, c'⟩) : ModeInv (t ++ [⟨c, l, c'⟩]) c' := by
  have hasked := mt (modeAsked_iff hi.idle h).mp hl
  refine ⟨StreamSocketFsm.step_idle (step_of_idle hi.idle h) hi.idle,
    by simpa [hi.asked] using hasked, ?_⟩
  obtain ⟨s, k⟩ := c
  obtain ⟨op, evs, r⟩ := l
  obtain ⟨s', k'⟩ := c'
  have hs : StreamSocketFsm.Step .never s k op evs r s' k' := step_of_idle hi.idle h
  have hmode : s.nonBlock = false := hi.idle.2
  have hold := hi.blocking
  simp only at hold ⊢
  cases hs with
  | refused | returned | sent | received | failed | halfClosed => exact hold
  | @modeSet nonBlockVal _ _ ht _ _ hf =>
    obtain rfl : nonBlockVal = true := by simpa [hmode] using ht.1
    exact absurd ⟨rfl, hf⟩ hl
  | closed | wasReset | notReconnected | reconnectFailed => simp
  | closeFailed _ hk =>
    obtain ⟨f, hf, -⟩ := hold hk.1
    exact absurd hk (CloseFails.not_never hf)
  | connectFailed _ _ _ hk => rwa [hk]
  | connected _ _ _ hk => exact fun _ => connects_blocking (hmode ▸ hk)
  | reconnected _ _ _ _ _ hk => exact fun _ => connects_blocking (hmode ▸ hk)

/-- In a run the mode is what the user asked for last exactly when non-blocking mode is never
asked for with success. -/
theorem modeMatches_iff (hb : StrSoBuilt c0)
    (hblocking : ∀ f, c0.kernel.files c0.fsm.strSoFd.fd = some f → f.nonBlock = false)
    (h : StepPath (StrSoStep .never) c0 t c) :
    (∀ t1, t1 <+: t → ModeMatches t1 (endState c0 t1)) ↔ ∀ x ∈ t, ¬ AsksNonBlock x := by
  have h0 := hb.modeInv hblocking
  refine h.always_iff (P := ModeMatches) (I := ModeInv) h0 h0.matches ?_
  intro t c l c' hi hs
  refine ⟨⟨?_, fun hl => (modeInv_step hi hs hl).matches⟩, modeInv_step hi hs⟩
  intro hp hl
  have hasked := (modeAsked_iff hi.idle hs).mpr hl
  have hstored : c'.fsm.nonBlock = false :=
    (StreamSocketFsm.step_idle (step_of_idle hi.idle hs) hi.idle).2
  simpa [StreamSocketFsm.isNonBlock, hstored, hi.asked, hasked] using hp.1

end

def askedEarly : List (StrSoOp × List Reply) :=
  [(.setNonBlock true, []), (.connect someAddress, setupReplies 3)]

theorem modeMatches_not_always : ¬ ∀ [Host] {c0 c : StrSoConfig} {t : List StrSoMove},
    StrSoBuilt c0 → (∀ f, c0.kernel.files c0.fsm.strSoFd.fd = some f → f.nonBlock = false) →
    StepPath (StrSoStep .never) c0 t c →
    ∀ t1, t1 <+: t → ModeMatches t1 (endState c0 t1) := by
  intro hall
  let host : Host := littleHost
  have hrun := path_of_session (rfl : follow (nextOp .never StreamSocketFsm.perform)
    newStrSo askedEarly = some (_, _))
  have h := (hall newStrSo_built (by simp [newStrSo, emptyKernel]) hrun _ List.prefix_rfl).1
  rw [hrun.endState_eq] at h
  exact absurd h (by decide)

def notChanged : List (StrSoOp × List Reply) :=
  [(.connect someAddress, setupReplies 3), (.setNonBlock true, [failReply 9])]

theorem modeMatches_notChanged : ∃ (_ : Host) (t : List StrSoMove) (c : StrSoConfig),
    StepPath (StrSoStep .never) newStrSo t c ∧ t.length = 2 ∧
    ∀ t1, t1 <+: t → ModeMatches t1 (endState newStrSo t1) := by
  let host : Host := littleHost
  have hrun := path_of_session (rfl : follow (nextOp .never StreamSocketFsm.perform)
    newStrSo notChanged = some (_, _))
  refine ⟨host, _, _, hrun, rfl,
    (modeMatches_iff newStrSo_built (by simp [newStrSo, emptyKernel]) hrun).mpr ?_⟩
  simp only [List.forall_mem_cons]
  refine ⟨?_, ?_, by simp⟩
  · rintro ⟨h, -⟩
    cases h
  · rintro ⟨-, h⟩
    exact h ⟨_, List.mem_singleton.mpr rfl, rfl⟩

/-! ## `resetConnection`

`getSockAddress` refuses `CLOSED`, which `resetConnectCheck` admits.
-/

def Reconnected [Host] (address : SocketAddress) (nonBlockVal : Bool) (k : Kernel)
    (c' : StrSoConfig) : Prop :=
  c'.fsm.fsmState = .CONNECTED ∧
    StreamSocketFsm.getSockAddress c'.fsm = .done (.ok address, c'.fsm) ∧
    c'.fsm.isNonBlock = nonBlockVal ∧
    ∃ f, c'.kernel.files c'.fsm.strSoFd.fd = some f ∧ f.serial = k.born ∧
      f.peer = some (address.getSockaddrStorage, address.getAddrlen) ∧ f.nonBlock = nonBlockVal

/-- `resetConnection` comes to an end with that, whatever the calls return that do not fail. -/
def Reconnects [Host] (m : CloseFailure) (address : SocketAddress) (nonBlockVal : Bool)
    (c : StrSoConfig) : Prop :=
  Returns (Kernel.Succeeds m) (StreamSocketFsm.perform .resetConnection) c.fsm c.kernel
    fun r s' k' => (∃ v, r = .ok v) ∧ Reconnected address nonBlockVal c.kernel ⟨s', k'⟩

section

variable [Host] {m : CloseFailure} {c0 c c' : StrSoConfig} {l : StrSoLabel} {t : List StrSoMove}

omit [Host] in
theorem addressAfter_error {a : Option SocketAddress} {op : StrSoOp} {evs : List Ev}
    {e : SnlException} : addressAfter a ⟨c, ⟨op, evs, .error e⟩, c'⟩ = a := by
  cases op <;> rfl

theorem lastPeer_stored (hb : StrSoBuilt c0) (h : StepPath (StrSoStep m) c0 t c) :
    ∀ a, lastPeer c0 t = some a → c.fsm.socketAddress = a := by
  refine (h.invariant (I := fun t c => c.fsm.Idle ∧
    ∀ a, lastPeer c0 t = some a → c.fsm.socketAddress = a) ⟨hb.idle, ?_⟩ ?_).2
  · cases hb <;> simp [acceptedFrom, StreamSocketFsm.accepted]
  · rintro t ⟨s, k⟩ ⟨op, evs, r⟩ ⟨s', k'⟩ ⟨hs, ha⟩ hx
    have hstep : StreamSocketFsm.Step m s k op evs r s' k' := step_of_idle hs hx
    refine ⟨StreamSocketFsm.step_idle hstep hs, ?_⟩
    rw [lastPeer_snoc]
    cases hstep with
    | refused | failed | closeFailed | connectFailed | notReconnected | reconnectFailed =>
      rwa [addressAfter_error]
    | sent | received => cases r <;> exact ha
    | modeSet | reconnected => exact ha
    | returned hr => cases op <;> first | exact ha | exact hr.elim
    | closed hr => cases op <;> first | exact ha | exact hr.elim
    | halfClosed hop => rcases hop with rfl | rfl <;> exact ha
    | wasReset | connected => simp [addressAfter]

theorem StreamSocketFsm.step_held {s s' : StreamSocketFsm} {k k' : Kernel} {op : StrSoOp}
    {evs : List Ev} {r : Except SnlException StrSoValue} (hm : m ≠ .frees)
    (h : Step m s k op evs r s' k') (hs : s.strSoFd.Held k) : s'.strSoFd.Held k' := by
  cases h with
  | refused | returned | sent | received | failed | halfClosed => exact hs
  | modeSet => exact fun _ => ⟨_, Function.update_self ..⟩
  | closed | wasReset | notReconnected | reconnectFailed => exact fun h => absurd rfl h
  | closeFailed _ hk => rwa [hk.unchanged hm]
  | connectFailed _ _ _ hk => exact fun h => hk ▸ hs h
  | connected _ _ _ hk | reconnected _ _ _ _ _ hk =>
    rw [hk.2]
    exact fun _ => ⟨_, Function.update_self ..⟩

theorem held_of_path (hm : m ≠ .frees) (hb : StrSoBuilt c0) (h : StepPath (StrSoStep m) c0 t c) :
    c.fsm.strSoFd.Held c.kernel := by
  refine (h.invariant (I := fun _ c => c.fsm.Idle ∧ c.fsm.strSoFd.Held c.kernel)
    ⟨hb.idle, ?_⟩ ?_).2
  · cases hb with
    | default => exact fun h => absurd rfl h
    | accepted _ _ hf => exact fun _ => ⟨_, hf⟩
  · rintro t c l c' ⟨hidle, hheld⟩ hx
    have hstep := step_of_idle hidle hx
    exact ⟨StreamSocketFsm.step_idle hstep hidle, StreamSocketFsm.step_held hm hstep hheld⟩

theorem wf_of_path (hb : StrSoBuilt c0) (h : StepPath (StrSoStep m) c0 t c) : c.kernel.Wf :=
  h.invariant (I := fun _ c => c.kernel.Wf) hb.wf fun _ _ _ _ hk hx => exec_wf hx hk

theorem reconnects_of_connected (hk : c.kernel.Wf)
    (hflags : c.kernel.initFlags c.kernel.born ≠ -1#32) (hheld : c.fsm.strSoFd.Held c.kernel)
    (hcon : c.fsm.isConnected = true) :
    Reconnects m c.fsm.socketAddress c.fsm.isNonBlock c := by
  refine returns_bind (StreamSocketFsm.resetConnection_succeeds hk hflags hheld hcon) ?_ ?_
  · rintro _ s' k' ⟨-, n, k1, rfl, hborn, -, rfl⟩
    refine returns_pure ⟨⟨_, rfl⟩, rfl, rfl, rfl, _, Function.update_self .., hborn, rfl, ?_⟩
    exact blockingFlags_nonBlock (k1.newFile none) _
  · rintro e _ _ ⟨he, -⟩
    simp at he

/-- After a successful connection `resetConnection` does what it is for, when the kernel can answer
its calls with success, exactly when the socket is not closed and blocking mode was asked for last. -/
theorem reconnected_iff (hb : StrSoBuilt c0) (h : StepPath (StrSoStep m) c0 t c)
    (hinit : c.fsm.fsmState ≠ .INIT) {a : SocketAddress} (ha : lastPeer c0 t = some a)
    (hflags : c.kernel.initFlags c.kernel.born ≠ -1#32)
    (hheld : m = .frees → c.fsm.strSoFd.Held c.kernel) :
    Reconnects m a (lastMode t) c ↔ c.fsm.fsmState ≠ .CLOSED ∧ lastMode t = false := by
  have hidle := idle_of_path hb h
  obtain rfl : c.fsm.socketAddress = a := lastPeer_stored hb h a ha
  have hmode : c.fsm.isNonBlock = false := hidle.2
  constructor
  · intro hr
    obtain ⟨evs, ⟨r, s'⟩, k', hx⟩ := Prog.Returns.exists_exec hr
    obtain ⟨⟨v, rfl⟩, -, -, hm, -⟩ := Prog.Returns.exec hr hx
    have hstep := StreamSocketFsm.perform_step hidle.1 (hx.mono fun _ _ _ _ ha => ha.2)
    have hkept : s'.nonBlock = false := (StreamSocketFsm.step_idle hstep hidle).2
    refine ⟨?_, hm.symm.trans hkept⟩
    cases hstep with
    | returned hr | closed hr => exact hr.elim
    | halfClosed hop => simp at hop
    | reconnected hcon => exact (StreamSocketFsm.isConnected_iff.mp hcon).2
  · rintro ⟨hclosed, hm⟩
    have hopen : c.fsm.strSoFd.Held c.kernel := by
      by_cases hfrees : m = .frees
      · exact hheld hfrees
      · exact held_of_path hfrees hb h
    rw [hm, ← hmode]
    exact reconnects_of_connected (wf_of_path hb h) hflags hopen
      (StreamSocketFsm.isConnected_iff.mpr ⟨hinit, hclosed⟩)

end

theorem reconnected_not_always : ¬ ∀ [Host] {m : CloseFailure} {c0 c : StrSoConfig}
    {t : List StrSoMove} {a : SocketAddress}, StrSoBuilt c0 → StepPath (StrSoStep m) c0 t c →
    c.fsm.fsmState ≠ .INIT → lastPeer c0 t = some a →
    c.kernel.initFlags c.kernel.born ≠ -1#32 → (m = .frees → c.fsm.strSoFd.Held c.kernel) →
    Reconnects m a (lastMode t) c := by
  intro hall
  let host : Host := littleHost
  have hrun := path_of_session (rfl : follow (nextOp .never StreamSocketFsm.perform)
    newStrSo closedOff = some (_, _))
  have hends := hall newStrSo_built hrun (by decide) rfl (by decide) (by simp)
  -- the getter refuses, and no call is made before it
  obtain ⟨⟨v, hv⟩, -⟩ := Prog.Returns.exec hends (.done _ _)
  cases hv

theorem reconnected_everyState : ∃ _ : Host,
    ∀ state ∈ [StrSoFsmState.CONNECTED, .UCLOSED, .DCLOSED], ∃ t c,
      StepPath (StrSoStep .never) newStrSo t c ∧ c.fsm.fsmState = state ∧
      Reconnects .never someAddress false c := by
  let host : Host := littleHost
  have hconnect := path_of_session (rfl : follow (nextOp .never StreamSocketFsm.perform)
    newStrSo [(.connect someAddress, setupReplies 3)] = some (_, _))
  have hup := path_of_session (rfl : follow (nextOp .never StreamSocketFsm.perform)
    newStrSo [(.connect someAddress, setupReplies 3), (.closeUpstream, [okReply])] = some (_, _))
  have hdown := path_of_session (rfl : follow (nextOp .never StreamSocketFsm.perform)
    newStrSo [(.connect someAddress, setupReplies 3), (.closeDownstream, [okReply])] =
      some (_, _))
  refine ⟨host, ?_⟩
  simp only [List.forall_mem_cons]
  refine ⟨⟨_, _, hconnect, rfl, ?_⟩, ⟨_, _, hup, rfl, ?_⟩, ⟨_, _, hdown, rfl, ?_⟩, by simp⟩
  · exact (reconnected_iff newStrSo_built hconnect (by decide) rfl (by decide) (by simp)).mpr
      ⟨by decide, rfl⟩
  · exact (reconnected_iff newStrSo_built hup (by decide) rfl (by decide) (by simp)).mpr
      ⟨by decide, rfl⟩
  · exact (reconnected_iff newStrSo_built hdown (by decide) rfl (by decide) (by simp)).mpr
      ⟨by decide, rfl⟩

end Snl
