import SocketInterface.StreamRuns

/-! # The half-close protocol of `StreamSocketFsm` -/

namespace Snl

open Method

/-! ## Sessions -/

/-- The part of a run on one connection: whom it was opened to, on which fd, and which of the
directions were closed with success since. -/
structure Session where
  address : SocketAddress
  fd : Fd
  upClosed : Bool := false
  downClosed : Bool := false

namespace Session

def state (s : Session) : StrSoFsmState :=
  match s.upClosed, s.downClosed with
  | false, false => .CONNECTED
  | true, false => .UCLOSED
  | false, true => .DCLOSED
  | true, true => .CLOSED

section

variable {s : Session}

theorem state_connected : s.state = .CONNECTED ↔ s.upClosed = false ∧ s.downClosed = false := by
  cases hup : s.upClosed <;> cases hdown : s.downClosed <;> simp [state, hup, hdown]

theorem state_uclosed : s.state = .UCLOSED ↔ s.upClosed = true ∧ s.downClosed = false := by
  cases hup : s.upClosed <;> cases hdown : s.downClosed <;> simp [state, hup, hdown]

theorem state_dclosed : s.state = .DCLOSED ↔ s.upClosed = false ∧ s.downClosed = true := by
  cases hup : s.upClosed <;> cases hdown : s.downClosed <;> simp [state, hup, hdown]

theorem state_closed : s.state = .CLOSED ↔ s.upClosed = true ∧ s.downClosed = true := by
  cases hup : s.upClosed <;> cases hdown : s.downClosed <;> simp [state, hup, hdown]

end

/-- `connect` and `resetConnection` open a session, `close`, `reset` and `resetConnection` end the
one that is open, when they return. -/
def after (s : Option Session) (x : StrSoMove) : Option Session :=
  match x.label.op, x.label.result with
  | .connect address, .ok _ => some { address, fd := x.after.fsm.strSoFd.fd }
  | .resetConnection, .ok _ =>
    s.map fun s => { address := s.address, fd := x.after.fsm.strSoFd.fd }
  | .closeUpstream, .ok _ => s.map fun s => { s with upClosed := true }
  | .closeDownstream, .ok _ => s.map fun s => { s with downClosed := true }
  | .close, .ok _ | .reset, .ok _ => none
  | _, _ => s

def ofBuilt (c : StrSoConfig) : Option Session :=
  if c.fsm.fsmState = .INIT then none
  else some { address := c.fsm.socketAddress, fd := c.fsm.strSoFd.fd }

end Session

def sessionOf (c0 : StrSoConfig) (t : List StrSoMove) : Option Session :=
  t.foldl Session.after (Session.ofBuilt c0)

@[simp] theorem sessionOf_nil (c0 : StrSoConfig) : sessionOf c0 [] = Session.ofBuilt c0 := rfl

@[simp] theorem sessionOf_snoc (c0 : StrSoConfig) (t : List StrSoMove) (x : StrSoMove) :
    sessionOf c0 (t ++ [x]) = Session.after (sessionOf c0 t) x := by simp [sessionOf]

/-! ## The protocol -/

def Opens (x : StrSoMove) : Prop :=
  ((∃ address, x.label.op = .connect address) ∨ x.label.op = .resetConnection) ∧
    ∃ v, x.label.result = .ok v

def MovesIn (s : Option Session) (closed : Session → Bool) : Prop :=
  ∃ s1, s = some s1 ∧ closed s1 = false

/-- What a move of the run does while `o` is the session: it sends and receives in a direction that
was not closed, leaves `CLOSED` by `reset` or `resetConnection` only, and connects to the address of
the session it opens. -/
structure LegalMove [Host] (o : Option Session) (x : StrSoMove) : Prop where
  sends : ∀ e ∈ x.label.evs, (∃ fd buffer flags, e.call = .send fd buffer flags) →
    MovesIn o Session.upClosed
  receives : ∀ e ∈ x.label.evs, (∃ fd bufferSize flags, e.call = .recv fd bufferSize flags) →
    MovesIn o Session.downClosed
  leaves : x.before.fsm.fsmState = .CLOSED → x.after.fsm.fsmState ≠ .CLOSED →
    (x.label.op = .reset ∨ x.label.op = .resetConnection) ∧ ∃ v, x.label.result = .ok v
  opened : Opens x → ∃ s f, Session.after o x = some s ∧ x.after.kernel.files s.fd = some f ∧
    f.peer = some (s.address.getSockaddrStorage, s.address.getAddrlen)

structure HalfClose (o : Option Session) (c : StrSoConfig) : Prop where
  up : ∀ s, o = some s → (c.fsm.fsmState = .UCLOSED ↔ s.upClosed = true ∧ s.downClosed = false)
  down : ∀ s, o = some s → (c.fsm.fsmState = .DCLOSED ↔ s.upClosed = false ∧ s.downClosed = true)
  both : ∀ s, o = some s → s.upClosed = true → s.downClosed = true →
    c.fsm.fsmState = .CLOSED ∧ c.fsm.strSoFd.ownsFd = false ∧ c.kernel.files s.fd = none
  address : c.fsm.isConnected = true → ∃ s, o = some s ∧
    StreamSocketFsm.getSockAddress c.fsm = .done (.ok s.address, c.fsm)

/-! ## The invariant -/

/-- The socket has the state of the session. It still has its fd, unless that was closed. -/
structure InSession (s : Session) (c : StrSoConfig) : Prop where
  state : c.fsm.fsmState = s.state
  address : c.fsm.socketAddress = s.address
  fd : (s.state ≠ .CLOSED ∧ c.fsm.strSoFd.fd = s.fd ∧ ∃ f, c.kernel.files s.fd = some f) ∨
    (c.fsm.strSoFd.fd = -1 ∧ c.kernel.files s.fd = none)

def Fits : Option Session → StrSoConfig → Prop
  | none, c => c.fsm.fsmState = .INIT ∨ c.fsm.fsmState = .CLOSED
  | some s, c => InSession s c

structure SessionInv (o : Option Session) (c : StrSoConfig) : Prop where
  wf : c.kernel.Wf
  idle : c.fsm.Idle
  fits : Fits o c

theorem StrSoBuilt.sessionInv {c : StrSoConfig} (h : StrSoBuilt c) :
    SessionInv (Session.ofBuilt c) c := by
  refine ⟨h.wf, h.idle, ?_⟩
  cases h with
  | default => exact .inl rfl
  | accepted _ _ hf => exact ⟨rfl, rfl, .inl ⟨by simp [Session.state], rfl, _, hf⟩⟩

section

variable [Host] {m : CloseFailure} {c0 c c' : StrSoConfig} {l : StrSoLabel} {t : List StrSoMove}
  {o : Option Session} {s : Session} {fsm fsm' : StreamSocketFsm} {k k' : Kernel} {op : StrSoOp}
  {evs : List Ev} {r : Except SnlException StrSoValue}

omit [Host] in
theorem after_error {e : SnlException} : Session.after o ⟨c, ⟨op, evs, .error e⟩, c'⟩ = o := by
  cases op <;> rfl

omit [Host] in
theorem closes_files {fd : Fd} (h : Closes k fd evs k') (n : Fd) :
    k'.files n = if n = fd ∧ fd ≠ -1 then none else k.files n := by
  rcases h with ⟨rfl, -, rfl⟩ | ⟨hne, -, -, -, rfl⟩
  · simp
  · by_cases hn : n = fd <;> simp [hn, hne]

omit [Host] in
theorem InSession.closed (hi : InSession s ⟨fsm, k⟩) (hwf : k.Wf)
    (h : Closes k fsm.strSoFd.fd evs k') : k'.files s.fd = none := by
  rw [closes_files h]
  rcases hi.fd with ⟨-, hfd, f, hf⟩ | ⟨-, hnone⟩
  · exact if_pos ⟨hfd.symm, fun h => hwf.ne_none hf (hfd ▸ h)⟩
  · split
    · rfl
    · exact hnone

omit [Host] in
theorem Fits.of_files (h : Fits o ⟨fsm, k⟩) (hk : k'.files = k.files) : Fits o ⟨fsm, k'⟩ := by
  cases o with
  | none => exact h
  | some s => exact ⟨h.state, h.address, by simpa only [hk] using h.fd⟩

omit [Host] in
theorem Fits.session (h : Fits o ⟨fsm, k⟩) (hinit : fsm.fsmState ≠ .INIT)
    (hclosed : fsm.fsmState ≠ .CLOSED) : ∃ s, o = some s ∧ InSession s ⟨fsm, k⟩ := by
  cases o with
  | none => exact absurd h (by simp [Fits, hinit, hclosed])
  | some s => exact ⟨s, rfl, h⟩

omit [Host] in
theorem Fits.of_setFile {f f' : OpenFile} (h : Fits o ⟨fsm, k⟩) (hwf : k.Wf)
    (hopen : k.files fsm.strSoFd.fd = some f) :
    Fits o ⟨fsm, k.setFile fsm.strSoFd.fd (some f')⟩ := by
  cases o with
  | none => exact h
  | some s =>
    refine ⟨h.state, h.address, ?_⟩
    rcases h.fd with ⟨hstate, hfd, -⟩ | ⟨hfd, -⟩
    · exact .inl ⟨hstate, hfd, f', by simp only at hfd; simp [hfd]⟩
    · exact absurd hfd (hwf.ne_none hopen)

theorem sessionInv_step (hi : SessionInv o c) (h : StrSoStep .never c l c') :
    SessionInv (Session.after o ⟨c, l, c'⟩) c' := by
  obtain ⟨fsm, k⟩ := c
  obtain ⟨op, evs, r⟩ := l
  obtain ⟨fsm', k'⟩ := c'
  have hs : StreamSocketFsm.Step .never fsm k op evs r fsm' k' := step_of_idle hi.idle h
  refine ⟨exec_wf h hi.wf, StreamSocketFsm.step_idle hs hi.idle, ?_⟩
  have hold := hi.fits
  cases hs with
  | refused | failed =>
    rw [after_error]
    exact hold
  | returned hr => cases op <;> first | exact hold | exact hr.elim
  | sent | received => cases r <;> exact hold
  | modeSet _ _ _ _ hopen => exact hold.of_setFile hi.wf hopen
  | halfClosed hop hcon _ _ hopen =>
    obtain ⟨s, rfl, hin⟩ := hold.session (by simp [hcon]) (by simp [hcon])
    obtain ⟨hup, hdown⟩ := Session.state_connected.mp (hin.state.symm.trans hcon)
    have hfd : fsm.strSoFd.fd = s.fd ∧ ∃ f, k.files s.fd = some f := by
      rcases hin.fd with ⟨-, hfd⟩ | ⟨hfd, -⟩
      · exact hfd
      · obtain ⟨f, hf⟩ := hopen
        exact absurd hfd (hi.wf.ne_none hf)
    rcases hop with rfl | rfl
    · refine ⟨?_, hin.address, .inl ⟨?_, hfd⟩⟩ <;>
        simp [Session.state, hdown, StreamSocketFsm.halfClosed]
    · refine ⟨?_, hin.address, .inl ⟨?_, hfd⟩⟩ <;>
        simp [Session.state, hup, StreamSocketFsm.halfClosed]
  | closed hclosing hk =>
    cases op with
    | close => exact .inr rfl
    | closeUpstream =>
      have hstate : fsm.fsmState = .DCLOSED := hclosing
      obtain ⟨s, rfl, hin⟩ := hold.session (by simp [hstate]) (by simp [hstate])
      obtain ⟨-, hdown⟩ := Session.state_dclosed.mp (hin.state.symm.trans hstate)
      refine ⟨?_, hin.address, .inr ⟨rfl, hin.closed hi.wf hk⟩⟩
      simp [Session.state, hdown]
    | closeDownstream =>
      have hstate : fsm.fsmState = .UCLOSED := hclosing
      obtain ⟨s, rfl, hin⟩ := hold.session (by simp [hstate]) (by simp [hstate])
      obtain ⟨hup, -⟩ := Session.state_uclosed.mp (hin.state.symm.trans hstate)
      refine ⟨?_, hin.address, .inr ⟨rfl, hin.closed hi.wf hk⟩⟩
      simp [Session.state, hup]
    | _ => exact hclosing.elim
  | closeFailed _ hk =>
    rw [after_error, hk.unchanged (by decide)]
    exact hold
  | wasReset => exact .inl rfl
  | connectFailed _ _ _ hk =>
    rw [after_error]
    exact hold.of_files hk
  | connected _ _ _ hk => exact ⟨rfl, rfl, .inl ⟨by simp [Session.state], rfl, by simp [hk.2]⟩⟩
  | notReconnected hclosed hk =>
    rw [after_error]
    cases o with
    | none => exact .inr hclosed
    | some s => exact ⟨hold.state, hold.address, .inr ⟨rfl, hold.closed hi.wf hk⟩⟩
  | reconnectFailed hcon _ hk1 _ _ hk =>
    obtain ⟨hinit, hclosed⟩ := StreamSocketFsm.isConnected_iff.mp hcon
    obtain ⟨s, rfl, hin⟩ := hold.session hinit hclosed
    rw [after_error]
    have hnone := hin.closed hi.wf hk1
    rw [← hk] at hnone
    exact ⟨hin.state, hin.address, .inr ⟨rfl, hnone⟩⟩
  | reconnected hcon _ _ _ _ hk =>
    obtain ⟨hinit, hclosed⟩ := StreamSocketFsm.isConnected_iff.mp hcon
    obtain ⟨s, rfl, hin⟩ := hold.session hinit hclosed
    exact ⟨rfl, hin.address, .inl ⟨by simp [Session.state], rfl, by simp [hk.2]⟩⟩

/-! ## Runs -/

omit [Host] in
theorem Fits.halfClose (h : Fits o c) : HalfClose o c := by
  cases o with
  | none =>
    refine ⟨by simp, by simp, by simp, fun hcon => ?_⟩
    obtain ⟨hinit, hclosed⟩ := StreamSocketFsm.isConnected_iff.mp hcon
    rcases h with h | h
    · exact absurd h hinit
    · exact absurd h hclosed
  | some s =>
    obtain ⟨hstate, haddress, hfd⟩ := h
    constructor
    · rintro s1 hs
      obtain rfl := Option.some.inj hs
      rw [hstate, Session.state_uclosed]
    · rintro s1 hs
      obtain rfl := Option.some.inj hs
      rw [hstate, Session.state_dclosed]
    · rintro s1 hs hup hdown
      obtain rfl := Option.some.inj hs
      have hclosed := Session.state_closed.mpr ⟨hup, hdown⟩
      obtain ⟨hnone, hfile⟩ := hfd.resolve_left fun h => h.1 hclosed
      exact ⟨hstate.trans hclosed, by simp [FdGuard.ownsFd, FdGuard.NO_FD, hnone], hfile⟩
    · intro hcon
      refine ⟨s, rfl, ?_⟩
      rw [← haddress]
      show (if ¬ c.fsm.isConnected = true then raise _ else pure c.fsm.socketAddress :
        M StreamSocketFsm SocketAddress) c.fsm = _
      rw [if_neg (not_not.mpr hcon)]
      rfl

theorem step_call (h : StreamSocketFsm.Step m fsm k op evs r fsm' k') {e : Ev} (he : e ∈ evs) :
    (fsm.Touches op ∧ fsm.OwnCall op e.call) ∨ (∃ k1, StreamSocketFsm.ConnectCall k1 e.call) ∨
      ∃ fd, e.call = .close fd := by
  cases h with
  | refused | returned => simp at he
  | sent ht hc | received ht hc | failed ht hc | modeSet ht hc => exact .inl ⟨ht, hc e he⟩
  | halfClosed hop hcon hc =>
    refine .inl ⟨?_, hc e he⟩
    rcases hop with rfl | rfl <;> exact hcon
  | closed _ hk | wasReset hk | notReconnected _ hk => exact .inr (.inr ⟨_, (hk.calls.2 e he).1⟩)
  | closeFailed _ hk =>
    obtain ⟨-, rep, -, rfl, -⟩ := hk
    obtain rfl := List.mem_singleton.mp he
    exact .inr (.inr ⟨_, rfl⟩)
  | connectFailed _ hc | connected _ hc => exact .inr (.inl ⟨_, hc e he⟩)
  | reconnectFailed _ hevs hk1 hc | reconnected _ hevs hk1 hc =>
    subst hevs
    rcases List.mem_append.mp he with he | he
    · exact .inr (.inr ⟨_, (hk1.calls.2 e he).1⟩)
    · exact .inr (.inl ⟨_, hc e he⟩)

theorem send_touches (h : StreamSocketFsm.Step m fsm k op evs r fsm' k') {e : Ev} (he : e ∈ evs)
    {fd : Fd} {buffer : List Byte} {flags : Int} (hcall : e.call = .send fd buffer flags) :
    fsm.fsmState = .CONNECTED ∨ fsm.fsmState = .DCLOSED := by
  rcases step_call h he with ⟨ht, hown⟩ | ⟨k1, hc⟩ | ⟨fd', hc⟩
  · rw [hcall] at hown
    cases op with
    | send => exact ht
    | _ => simp [StreamSocketFsm.OwnCall] at hown
  · simp [StreamSocketFsm.ConnectCall, hcall] at hc
  · simp [hcall] at hc

theorem recv_touches (h : StreamSocketFsm.Step m fsm k op evs r fsm' k') {e : Ev} (he : e ∈ evs)
    {fd : Fd} {bufferSize : Nat} {flags : Int} (hcall : e.call = .recv fd bufferSize flags) :
    fsm.fsmState = .CONNECTED ∨ fsm.fsmState = .UCLOSED := by
  rcases step_call h he with ⟨ht, hown⟩ | ⟨k1, hc⟩ | ⟨fd', hc⟩
  · rw [hcall] at hown
    cases op with
    | receive => exact ht
    | _ => simp [StreamSocketFsm.OwnCall] at hown
  · simp [StreamSocketFsm.ConnectCall, hcall] at hc
  · simp [hcall] at hc

theorem step_leaves (h : StreamSocketFsm.Step .never fsm k op evs r fsm' k')
    (hclosed : fsm.fsmState = .CLOSED) (hafter : fsm'.fsmState ≠ .CLOSED) :
    op = .reset ∧ r = .ok .unit := by
  cases h with
  | wasReset => exact ⟨rfl, rfl⟩
  | closed => exact absurd rfl hafter
  | halfClosed _ hcon => simp [hclosed] at hcon
  | connected hinit => simp [hclosed] at hinit
  | reconnected hcon => simp [StreamSocketFsm.isConnected_iff, hclosed] at hcon
  | _ => exact absurd hclosed hafter

theorem step_opens (h : StreamSocketFsm.Step m fsm k op evs r fsm' k')
    (hop : (∃ address, op = .connect address) ∨ op = .resetConnection) {v : StrSoValue}
    (hr : r = .ok v) :
    fsm'.fsmState = .CONNECTED ∧ ∃ f, k'.files fsm'.strSoFd.fd = some f ∧
      f.peer = some (fsm'.socketAddress.getSockaddrStorage, fsm'.socketAddress.getAddrlen) := by
  cases h with
  | connected _ _ _ hk | reconnected _ _ _ _ _ hk =>
    obtain ⟨-, rfl⟩ := hk
    exact ⟨rfl, _, Function.update_self .., rfl⟩
  | returned h | closed h =>
    rcases hop with ⟨address, rfl⟩ | rfl <;> exact h.elim
  | halfClosed hclose =>
    rcases hclose with rfl | rfl <;> simp at hop
  | _ => simp at hr hop

theorem legalMove (hi : SessionInv o c) (h : StrSoStep .never c l c') :
    LegalMove o ⟨c, l, c'⟩ := by
  obtain ⟨fsm, k⟩ := c
  obtain ⟨op, evs, r⟩ := l
  obtain ⟨fsm', k'⟩ := c'
  have hs : StreamSocketFsm.Step .never fsm k op evs r fsm' k' := step_of_idle hi.idle h
  constructor
  · rintro e he ⟨fd, buffer, flags, hcall⟩
    have hstate := send_touches hs he hcall
    obtain ⟨s, rfl, hin⟩ := hi.fits.session (by rcases hstate with h | h <;> simp [h])
      (by rcases hstate with h | h <;> simp [h])
    have hin' : fsm.fsmState = s.state := hin.state
    rw [hin', Session.state_connected, Session.state_dclosed] at hstate
    exact ⟨s, rfl, by tauto⟩
  · rintro e he ⟨fd, bufferSize, flags, hcall⟩
    have hstate := recv_touches hs he hcall
    obtain ⟨s, rfl, hin⟩ := hi.fits.session (by rcases hstate with h | h <;> simp [h])
      (by rcases hstate with h | h <;> simp [h])
    have hin' : fsm.fsmState = s.state := hin.state
    rw [hin', Session.state_connected, Session.state_uclosed] at hstate
    exact ⟨s, rfl, by tauto⟩
  · intro hbefore hafter
    obtain ⟨hop, hr⟩ := step_leaves hs hbefore hafter
    exact ⟨.inl hop, _, hr⟩
  · rintro ⟨hop, v, hr⟩
    have hnew := sessionInv_step hi h
    obtain ⟨hstate, f, hf, hpeer⟩ := step_opens hs hop hr
    obtain ⟨s, hsession, hin⟩ := hnew.fits.session (by simp [hstate]) (by simp [hstate])
    obtain ⟨-, hfd, -⟩ := hin.fd.resolve_right fun h => hnew.wf.ne_none hf h.1
    refine ⟨s, f, hsession, hfd ▸ hf, ?_⟩
    rw [hpeer, ← hin.address]

/-- In every run each move keeps to the half-close protocol, and the state tells what is closed. -/
theorem halfClose_of_path (hb : StrSoBuilt c0) (h : StepPath (StrSoStep .never) c0 t c) :
    Along (fun t1 x => LegalMove (sessionOf c0 t1) x) t ∧ HalfClose (sessionOf c0 t) c := by
  have hrun : SessionInv (sessionOf c0 t) c ∧
      Along (fun t1 x => LegalMove (sessionOf c0 t1) x) t := by
    refine h.invariant (I := fun t c => SessionInv (sessionOf c0 t) c ∧
      Along (fun t1 x => LegalMove (sessionOf c0 t1) x) t) ⟨hb.sessionInv, along_nil _⟩ ?_
    rintro t c l c' ⟨hi, hmoves⟩ hs
    rw [sessionOf_snoc]
    exact ⟨sessionInv_step hi hs, along_snoc.mpr ⟨hmoves, legalMove hi hs⟩⟩
  exact ⟨hrun.2, hrun.1.fits.halfClose⟩

end

def shutDown : List (StrSoOp × List Reply) :=
  [(.connect someAddress, setupReplies 3), (.closeUpstream, [failReply 4]),
    (.send [97] 0, [⟨1, 0, .zero, []⟩]), (.closeUpstream, [okReply]),
    (.receive 1 0, [⟨1, 0, .zero, [98]⟩]), (.closeDownstream, [okReply])]

theorem halfClose_shutDown : ∃ (_ : Host) (t : List StrSoMove) (c : StrSoConfig),
    StepPath (StrSoStep .never) newStrSo t c ∧ t.length = 6 ∧ c.fsm.fsmState = .CLOSED ∧
    Along (fun t1 x => LegalMove (sessionOf newStrSo t1) x) t ∧
    HalfClose (sessionOf newStrSo t) c := by
  let host : Host := littleHost
  have hrun := path_of_session (rfl : follow (nextOp .never StreamSocketFsm.perform)
    newStrSo shutDown = some (_, _))
  exact ⟨host, _, _, hrun, rfl, rfl, halfClose_of_path newStrSo_built hrun⟩

end Snl
