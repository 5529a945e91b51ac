import SocketInterface.ServerSocketFsm
import SocketInterface.Session

/-! # Runs of `ServerSocketFsm` -/

namespace Snl

open Method

abbrev ServerConfig := Config ServerSocketFsm

abbrev ServerLabel := Label ServerOp ServerValue

abbrev ServerMove := Move ServerConfig ServerLabel

abbrev ServerStep [Host] (m : CloseFailure) := OpStep m ServerSocketFsm.perform

structure ServerStart (c : ServerConfig) : Prop where
  init : c.fsm.fsmState = .INIT
  noFd : c.fsm.servSockFd.fd = -1
  wf : c.kernel.Wf

def newServer : ServerConfig :=
  ⟨ServerSocketFsm.construct ⟨.default, {}, 0, false, .INIT⟩, emptyKernel⟩

theorem newServer_start : ServerStart newServer := ⟨rfl, rfl, emptyKernel_wf⟩

section

variable [Host] {m : CloseFailure} {c0 c c' : ServerConfig} {l : ServerLabel}
  {t : List ServerMove}

theorem ServerSocketFsm.step_idle {s s' : ServerSocketFsm} {k k' : Kernel} {op : ServerOp}
    {evs : List Ev} {r : Except SnlException ServerValue} (h : Step m s k op evs r s' k')
    (hs : s.fsmState = .INIT → s.servSockFd.fd = -1) :
    s'.fsmState = .INIT → s'.servSockFd.fd = -1 := by
  cases h with
  | refused | returned | failed | modeStored | modeSet | closeFailed | bindFailed => exact hs
  | listening => exact fun h => absurd (show ServerFsmState.LISTENING = .INIT from h) (by decide)
  | accepted => exact fun h => absurd (show ServerFsmState.ACCEPTING = .INIT from h) (by decide)
  | bound => exact fun h => absurd (show ServerFsmState.BOUND = .INIT from h) (by decide)
  | closed | wasReset => exact fun _ => rfl

theorem ServerStart.idle_of_path (h0 : ServerStart c0) (h : StepPath (ServerStep m) c0 t c) :
    c.fsm.fsmState = .INIT → c.fsm.servSockFd.fd = -1 := by
  refine h.invariant (I := fun _ c => c.fsm.fsmState = .INIT → c.fsm.servSockFd.fd = -1)
    (fun _ => h0.noFd) ?_
  exact fun _ _ _ _ hs h => ServerSocketFsm.step_idle (ServerSocketFsm.perform_step hs h) hs

end

/-! ## The address

`close` is admitted in `INIT` and leads to `CLOSED`, which counts as bound.
-/

def boundAfter (a : Option SocketAddress) (x : ServerMove) : Option SocketAddress :=
  match x.label.op, x.label.result with
  | .bind sockAddr, .ok _ => some sockAddr
  | .reset, .ok _ => none
  | _, _ => a

/-- The argument of the last successful `bind`, since the last successful `reset`. -/
def lastBind (t : List ServerMove) : Option SocketAddress := t.foldl boundAfter none

@[simp] theorem lastBind_nil : lastBind [] = none := rfl

@[simp] theorem lastBind_snoc (t : List ServerMove) (x : ServerMove) :
    lastBind (t ++ [x]) = boundAfter (lastBind t) x := by simp [lastBind]

namespace ServerSocketFsm

theorem isBound_iff {s : ServerSocketFsm} : s.isBound = true ↔ s.fsmState ≠ .INIT := by
  have h : s.isBound = true ↔ (1 : UInt8) ≤ s.fsmState.val := by
    unfold isBound
    exact decide_eq_true_iff
  have hinit : s.fsmState = .INIT ↔ s.fsmState.val = 0 := by
    cases s.fsmState
    simp [ServerFsmState.INIT]
  rw [h, ne_eq, hinit, UInt8.le_iff_toNat_le, ← UInt8.toNat_inj]
  simp only [UInt8.toNat_one, UInt8.toNat_zero]
  omega

def Reports (s : ServerSocketFsm) (a : SocketAddress) : Prop :=
  getSockAddr s = .done (.ok a, s) ∧ getIpAddress s = .done (.ok a.getIpAddress, s) ∧
    getTcpPort s = .done (.ok a.getTcpPort, s)

def ReportsNothing (s : ServerSocketFsm) : Prop :=
  (∃ e, getSockAddr s = .done (.error e, s)) ∧ (∃ e, getIpAddress s = .done (.error e, s)) ∧
    ∃ e, getTcpPort s = .done (.error e, s)

theorem reports_of_bound {s : ServerSocketFsm} (h : s.isBound = true) :
    s.Reports s.socketAddr := by
  have hget : getSockAddr s = .done (.ok s.socketAddr, s) := by
    simp [getSockAddr, self, h, Bind.bind, pure]
  refine ⟨hget, ?_, ?_⟩
  · simp [getIpAddress, hget, Bind.bind, pure]
  · simp [getTcpPort, hget, Bind.bind, pure]

theorem reportsNothing_of_not_bound {s : ServerSocketFsm} (h : s.isBound = false) :
    s.ReportsNothing := by
  have hget : ∃ e, getSockAddr s = .done (.error e, s) := by
    simp [getSockAddr, self, h, Bind.bind, raise]
  obtain ⟨e, hget⟩ := hget
  refine ⟨⟨e, hget⟩, ⟨e, ?_⟩, e, ?_⟩
  · simp [getIpAddress, hget, Bind.bind]
  · simp [getTcpPort, hget, Bind.bind]

end ServerSocketFsm

def ReportsLastBind (t : List ServerMove) (c : ServerConfig) : Prop :=
  match lastBind t with
  | some a => c.fsm.isBound = true ∧ c.fsm.Reports a
  | none => c.fsm.isBound = false ∧ c.fsm.ReportsNothing

def ClosesUnbound (x : ServerMove) : Prop :=
  x.label.op = .close ∧ x.before.fsm.fsmState = .INIT

structure AddressInv (t : List ServerMove) (c : ServerConfig) : Prop where
  noFd : c.fsm.fsmState = .INIT → c.fsm.servSockFd.fd = -1
  unbound : c.fsm.fsmState = .INIT ↔ lastBind t = none
  stored : ∀ a, lastBind t = some a → c.fsm.socketAddr = a

theorem AddressInv.reports {t : List ServerMove} {c : ServerConfig} (h : AddressInv t c) :
    ReportsLastBind t c := by
  unfold ReportsLastBind
  cases hb : lastBind t with
  | none =>
    have hnot : c.fsm.isBound = false := by
      rw [← Bool.not_eq_true, ServerSocketFsm.isBound_iff, not_not]
      exact h.unbound.mpr hb
    exact ⟨hnot, ServerSocketFsm.reportsNothing_of_not_bound hnot⟩
  | some a =>
    have hbound : c.fsm.isBound = true := by
      rw [ServerSocketFsm.isBound_iff, ne_eq, h.unbound, hb]
      simp
    exact ⟨hbound, h.stored a hb ▸ ServerSocketFsm.reports_of_bound hbound⟩

section

variable [Host] {m : CloseFailure} {c0 c c' : ServerConfig} {l : ServerLabel}
  {t : List ServerMove}

omit [Host] in
theorem ServerStart.addressInv (h : ServerStart c) : AddressInv [] c :=
  ⟨fun _ => h.noFd, by simp [h.init], by simp⟩

omit [Host] in
theorem boundAfter_error {a : Option SocketAddress} {op : ServerOp} {evs : List Ev}
    {e : SnlException} : boundAfter a ⟨c, ⟨op, evs, .error e⟩, c'⟩ = a := by
  cases op <;> rfl

theorem addressInv_step (hi : AddressInv t c) (h : ServerStep m c l c')
    (hl : ¬ ClosesUnbound ⟨c, l, c'⟩) : AddressInv (t ++ [⟨c, l, c'⟩]) c' := by
  obtain ⟨s, k⟩ := c
  obtain ⟨op, evs, r⟩ := l
  obtain ⟨s', k'⟩ := c'
  have hs : ServerSocketFsm.Step m s k op evs r s' k' :=
    ServerSocketFsm.perform_step hi.noFd h
  obtain ⟨hfd, hunbound, hstored⟩ := hi
  suffices hnew : (s'.fsmState = .INIT ↔
      boundAfter (lastBind t) ⟨⟨s, k⟩, ⟨op, evs, r⟩, ⟨s', k'⟩⟩ = none) ∧
      ∀ a, boundAfter (lastBind t) ⟨⟨s, k⟩, ⟨op, evs, r⟩, ⟨s', k'⟩⟩ = some a → s'.socketAddr = a by
    refine ⟨ServerSocketFsm.step_idle hs hfd, ?_, ?_⟩
    · rw [lastBind_snoc]
      exact hnew.1
    · rw [lastBind_snoc]
      exact hnew.2
  simp only at hunbound hstored
  -- a bound state that stays bound
  have hkeep : ∀ state : ServerFsmState, s.fsmState ≠ .INIT → state ≠ .INIT →
      (state = .INIT ↔ lastBind t = none) :=
    fun state h h' => iff_of_false h' (mt hunbound.mpr h)
  cases hs with
  | refused | failed | closeFailed | bindFailed =>
    rw [boundAfter_error]
    exact ⟨hunbound, hstored⟩
  | returned hr =>
    cases op with
    | bind | listen | accept | close | reset | setNonBlockIO => exact hr.elim
    | _ => exact ⟨hunbound, hstored⟩
  | modeStored | modeSet => exact ⟨hunbound, hstored⟩
  | listening hb => exact ⟨hkeep .LISTENING (by rw [hb]; decide) (by decide), hstored⟩
  | accepted hb =>
    exact ⟨hkeep .ACCEPTING (by rcases hb with hb | hb <;> rw [hb] <;> decide) (by decide), hstored⟩
  | bound =>
    refine ⟨iff_of_false (show ServerFsmState.BOUND ≠ .INIT by decide) (by simp [boundAfter]), ?_⟩
    simp [boundAfter]
  | closed => exact ⟨hkeep .CLOSED (fun h => hl ⟨rfl, h⟩) (by decide), hstored⟩
  | wasReset => simp [boundAfter]

theorem not_reports_of_closesUnbound (hi : AddressInv t c) (h : ServerStep m c l c')
    (hl : ClosesUnbound ⟨c, l, c'⟩) : ¬ ReportsLastBind (t ++ [⟨c, l, c'⟩]) c' := by
  obtain ⟨s, k⟩ := c
  obtain ⟨op, evs, r⟩ := l
  obtain ⟨s', k'⟩ := c'
  have hs : ServerSocketFsm.Step m s k op evs r s' k' :=
    ServerSocketFsm.perform_step hi.noFd h
  obtain ⟨rfl, hinit⟩ : op = .close ∧ s.fsmState = .INIT := hl
  have hnone : lastBind t = none := hi.unbound.mp hinit
  cases hs with
  | refused hr => exact absurd (hinit.symm.trans hr) (by decide)
  | returned hr | failed hr => exact hr.elim
  | closeFailed _ hk => exact absurd (hi.noFd hinit) hk.1
  | closed =>
    simp only [ReportsLastBind, lastBind_snoc, boundAfter, hnone]
    rintro ⟨hbound, -⟩
    exact absurd hbound (by simp [ServerSocketFsm.isBound_iff]; decide)

/-- In a run the getters report what was bound last, and throw when nothing was, exactly when the
socket is never closed in `INIT`. -/
theorem reportsLastBind_iff (h0 : ServerStart c0) (h : StepPath (ServerStep m) c0 t c) :
    (∀ t1, t1 <+: t → ReportsLastBind t1 (endState c0 t1)) ↔ ∀ x ∈ t, ¬ ClosesUnbound x := by
  refine h.always_iff (P := ReportsLastBind) (I := AddressInv) h0.addressInv
    h0.addressInv.reports ?_
  intro t c l c' hi hs
  refine ⟨⟨?_, fun hl => (addressInv_step hi hs hl).reports⟩, addressInv_step hi hs⟩
  exact fun hp hl => not_reports_of_closesUnbound hi hs hl hp

end

theorem reportsLastBind_not_always : ¬ ∀ [Host] {m : CloseFailure} {c0 c : ServerConfig}
    {t : List ServerMove}, ServerStart c0 → StepPath (ServerStep m) c0 t c →
    ∀ t1, t1 <+: t → ReportsLastBind t1 (endState c0 t1) := by
  intro hall
  let host : Host := littleHost
  have hrun := path_of_session (rfl : follow (nextOp .never ServerSocketFsm.perform) newServer
    [(.close, [])] = some (_, _))
  have h := (hall newServer_start hrun _ List.prefix_rfl).1
  rw [hrun.endState_eq] at h
  exact absurd h (by decide)

def boundAndClosed : List (ServerOp × List Reply) :=
  [(.bind someAddress, setupReplies 3), (.close, [okReply])]

theorem reportsLastBind_boundAndClosed : ∃ (_ : Host) (t : List ServerMove) (c : ServerConfig),
    StepPath (ServerStep .never) newServer t c ∧ t.length = 2 ∧
    ∀ t1, t1 <+: t → ReportsLastBind t1 (endState newServer t1) := by
  let host : Host := littleHost
  have hrun := path_of_session (rfl : follow (nextOp .never ServerSocketFsm.perform) newServer
    boundAndClosed = some (_, _))
  refine ⟨host, _, _, hrun, rfl, (reportsLastBind_iff newServer_start hrun).mpr ?_⟩
  simp only [List.forall_mem_cons]
  refine ⟨?_, ?_, by simp⟩
  · rintro ⟨h, -⟩
    cases h
  · rintro ⟨-, h⟩
    exact absurd h (by decide)

/-! ## The kernel socket

The state machine follows the life of the kernel socket.
-/

def OnSerial (e : Ev) (n : Nat) : Prop :=
  ∃ fd f, e.call.fd? = some fd ∧ e.before.files fd = some f ∧ f.serial = n

def IsBind (c : Call) : Prop := ∃ fd addr len, c = .bind fd addr len

def IsListen (c : Call) : Prop := ∃ fd backlog, c = .listen fd backlog

def Call.serverFd : Call → Option Fd
  | .bind fd .. | .listen fd _ | .accept fd _ | .fcntl fd .. => some fd
  | _ => none

def Created (T : List Ev) (n : Nat) : Prop :=
  ∃ e ∈ T, (∃ d t p, e.call = .socket d t p) ∧ e.reply.status ≠ -1 ∧ e.before.born = n

/-- What holds of the calls of a run: they are issued on open fds that the state machine made,
`bind` at most once and `listen` never again after it succeeded, and `accept` on a listening one. -/
structure CallsInOrder (T : List Ev) : Prop where
  created : ∀ e ∈ T, ∀ fd, e.call.serverFd = some fd →
    ∃ f, e.before.files fd = some f ∧ Created T f.serial
  bindOnce : T.Pairwise fun e1 e2 => ∀ n, IsBind e1.call → OnSerial e1 n →
    IsBind e2.call → ¬ OnSerial e2 n
  listenOnce : T.Pairwise fun e1 e2 => ∀ n, IsListen e1.call → ¬ Failed e1 → OnSerial e1 n →
    IsListen e2.call → ¬ OnSerial e2 n
  accepting : ∀ e ∈ T, ∀ fd len, e.call = .accept fd len →
    ∃ f, e.before.files fd = some f ∧ f.listening = true

def ServerFsmState.HasSocket (state : ServerFsmState) : Prop :=
  state = .BOUND ∨ state = .LISTENING ∨ state = .ACCEPTING

instance (state : ServerFsmState) : Decidable state.HasSocket :=
  inferInstanceAs (Decidable (_ ∨ _ ∨ _))

structure OwnFile [Host] (s : ServerSocketFsm) (f : OpenFile) : Prop where
  bound : f.bound = some (s.socketAddr.getSockaddrStorage, s.socketAddr.getAddrlen)
  listening : f.listening = decide (s.fsmState = .LISTENING ∨ s.fsmState = .ACCEPTING)

structure Agrees [Host] (c : ServerConfig) : Prop where
  owns : (c.fsm.servSockFd.ownsFd = true ∧ ∃ f, c.kernel.files c.fsm.servSockFd.fd = some f) ↔
    c.fsm.fsmState.HasSocket
  file : c.fsm.fsmState.HasSocket →
    ∃ f, c.kernel.files c.fsm.servSockFd.fd = some f ∧ OwnFile c.fsm f

theorem Created.append {T evs : List Ev} {n : Nat} (h : Created T n) : Created (T ++ evs) n := by
  obtain ⟨e, he, h⟩ := h
  exact ⟨e, by simp [he], h⟩

theorem isBind_serverFd {c : Call} (h : IsBind c) : c.serverFd ≠ none := by
  obtain ⟨_, _, _, rfl⟩ := h
  simp [Call.serverFd]

theorem isListen_serverFd {c : Call} (h : IsListen c) : c.serverFd ≠ none := by
  obtain ⟨_, _, rfl⟩ := h
  simp [Call.serverFd]

namespace CallsInOrder

variable {T evs : List Ev}

theorem nil : CallsInOrder [] := ⟨by simp, .nil, .nil, by simp⟩

theorem append (h : CallsInOrder T)
    (hcreated : ∀ e ∈ evs, ∀ fd, e.call.serverFd = some fd →
      ∃ f, e.before.files fd = some f ∧ Created (T ++ evs) f.serial)
    (hbind : evs.Pairwise fun e1 e2 => IsBind e1.call → ¬ IsBind e2.call)
    (hbindT : ∀ e2 ∈ evs, IsBind e2.call → ∀ e1 ∈ T, ∀ n, OnSerial e1 n → ¬ OnSerial e2 n)
    (hlisten : evs.Pairwise fun e1 e2 => IsListen e1.call → ¬ IsListen e2.call)
    (hlistenT : ∀ e2 ∈ evs, IsListen e2.call → ∀ e1 ∈ T, ∀ n, IsListen e1.call → ¬ Failed e1 →
      OnSerial e1 n → ¬ OnSerial e2 n)
    (haccept : ∀ e ∈ evs, ∀ fd len, e.call = .accept fd len →
      ∃ f, e.before.files fd = some f ∧ f.listening = true) : CallsInOrder (T ++ evs) := by
  refine ⟨?_, ?_, ?_, ?_⟩
  · intro e he fd hfd
    rcases List.mem_append.mp he with he | he
    · obtain ⟨f, hf, hc⟩ := h.created e he fd hfd
      exact ⟨f, hf, hc.append⟩
    · exact hcreated e he fd hfd
  · refine List.pairwise_append.mpr ⟨h.bindOnce, ?_, ?_⟩
    · exact hbind.imp fun hb n h1 _ h2 => absurd h2 (hb h1)
    · exact fun e1 he1 e2 he2 n _ h1 h2 => hbindT e2 he2 h2 e1 he1 n h1
  · refine List.pairwise_append.mpr ⟨h.listenOnce, ?_, ?_⟩
    · exact hlisten.imp fun hb n h1 _ _ h2 => absurd h2 (hb h1)
    · exact fun e1 he1 e2 he2 n h1 hf ho h2 => hlistenT e2 he2 h2 e1 he1 n h1 hf ho
  · intro e he fd len hc
    rcases List.mem_append.mp he with he | he
    · exact h.accepting e he fd len hc
    · exact haccept e he fd len hc

theorem append_quiet (h : CallsInOrder T) (hq : ∀ e ∈ evs, e.call.serverFd = none) :
    CallsInOrder (T ++ evs) := by
  have hbind : ∀ e ∈ evs, ¬ IsBind e.call := fun e he hb => isBind_serverFd hb (hq e he)
  have hlisten : ∀ e ∈ evs, ¬ IsListen e.call := fun e he hb => isListen_serverFd hb (hq e he)
  refine h.append ?_ ?_ ?_ ?_ ?_ ?_
  · intro e he fd hfd
    simp [hq e he] at hfd
  · exact List.pairwise_of_forall_mem_list fun _ _ e2 he2 _ => hbind e2 he2
  · exact fun e he hb => absurd hb (hbind e he)
  · exact List.pairwise_of_forall_mem_list fun _ _ e2 he2 _ => hlisten e2 he2
  · exact fun e he hb => absurd hb (hlisten e he)
  · intro e he fd len hc
    simpa [hc, Call.serverFd] using hq e he

theorem append_own (h : CallsInOrder T) {k : Kernel} {fd : Fd} {f : OpenFile}
    (hopen : k.files fd = some f) (hcr : Created T f.serial)
    (hcalls : ∀ e ∈ evs, e.before = k ∧ e.call.serverFd = some fd ∧ e.call.fd? = some fd ∧
      ¬ IsBind e.call)
    (hone : (∃ e, evs = [e]) ∨ ∀ e ∈ evs, ¬ IsListen e.call)
    (hlisten : ∀ e ∈ evs, IsListen e.call → ∀ e1 ∈ T, IsListen e1.call → ¬ Failed e1 →
      ¬ OnSerial e1 f.serial)
    (haccept : ∀ e ∈ evs, ∀ fd len, e.call = .accept fd len → f.listening = true) :
    CallsInOrder (T ++ evs) := by
  refine h.append ?_ ?_ ?_ ?_ ?_ ?_
  · intro e he fd' hfd
    obtain ⟨rfl, hc, -, -⟩ := hcalls e he
    obtain rfl : fd = fd' := by simpa [hc] using hfd
    exact ⟨f, hopen, hcr.append⟩
  · exact List.pairwise_of_forall_mem_list fun _ _ e2 he2 _ => (hcalls e2 he2).2.2.2
  · exact fun e he hb => absurd hb (hcalls e he).2.2.2
  · rcases hone with ⟨e, rfl⟩ | hnone
    · exact List.pairwise_singleton ..
    · exact List.pairwise_of_forall_mem_list fun _ _ e2 he2 _ => hnone e2 he2
  · rintro e he hl e1 he1 n hl1 hok hn ⟨fd', f', hfd, hf', rfl⟩
    obtain ⟨rfl, -, hc, -⟩ := hcalls e he
    obtain rfl : fd = fd' := by simpa [hc] using hfd
    obtain rfl : f = f' := by simpa [hopen] using hf'
    exact hlisten e he hl e1 he1 hl1 hok hn
  · intro e he fd' len hc
    obtain ⟨rfl, hfd, -, -⟩ := hcalls e he
    obtain rfl : fd' = fd := by simpa [hc, Call.serverFd] using hfd
    exact ⟨f, hopen, haccept e he fd' len hc⟩

theorem not_isListen_of_made {k : Kernel} {o : Option Fd}
    (hm : MakesFd ServerSocketFsm.BindCalls k o evs) : ∀ e ∈ evs, ¬ IsListen e.call := by
  rintro e he ⟨_, _, hl⟩
  rcases hm.mem he with ⟨_, _, _, hc⟩ | ⟨n, -, hc | ⟨_, ⟨_, _, _, _, rfl, hmode⟩, he⟩⟩
  · simp [hc] at hl
  · simp [hc] at hl
  · rcases List.mem_cons.mp he with rfl | he
    · simp at hl
    · obtain ⟨⟨_, _, hc⟩, -⟩ := hmode e he
      simp [hc] at hl

theorem created_of_made {B : Fd → Kernel → List Ev → Prop} {k : Kernel} {o : Option Fd}
    (hm : MakesFd B k o evs) (hf : ¬ AnyFailed evs) : Created (T ++ evs) k.born := by
  cases hm with
  | @noSocket e0 hk hc => exact ⟨e0, by simp, hc, by simpa using hf, by rw [hk]⟩
  | @made e0 _ _ _ hk hc => exact ⟨e0, by simp, hc, fun h => hf (by simp [h]), by rw [hk]⟩

theorem append_made (h : CallsInOrder T) {k : Kernel} {o : Option Fd}
    (hm : MakesFd ServerSocketFsm.BindCalls k o evs)
    (hpast : ∀ e ∈ T, ∀ n, OnSerial e n → n < k.born) : CallsInOrder (T ++ evs) := by
  have hlisten := not_isListen_of_made hm
  cases hm with
  | noSocket _ hc =>
    obtain ⟨_, _, _, hc⟩ := hc
    exact h.append_quiet (by simp [hc, Call.serverFd])
  | @made e0 n evs1 evs2 hk hc hn hfresh hB hclose _ =>
    obtain ⟨_, _, _, hsock⟩ := hc
    obtain ⟨addr, len, rep, evs', rfl, hmode⟩ := hB
    have hne : n ≠ -1 := fun h => absurd hfresh.1 (by rw [h]; decide)
    have hcr : Created (T ++ e0 :: (⟨k.opened n none, .bind n addr len, rep⟩ :: evs' ++ evs2))
        k.born := ⟨e0, by simp, ⟨_, _, _, hsock⟩, by rwa [hn], by rw [hk]⟩
    -- after the `bind` there are only `fcntl` and `close` calls
    have hrest : ∀ e ∈ evs' ++ evs2, (∃ cmd arg, e.call = .fcntl n cmd arg) ∧
        (∃ f, e.before.files n = some f ∧ f.serial = k.born) ∨ e.call = .close n := by
      intro e he
      rcases List.mem_append.mp he with he | he
      · obtain ⟨hcall, f, f1, hf, hf1, hs⟩ := hmode e he
        obtain rfl : k.newFile none = f1 := by simpa using hf1
        exact .inl ⟨hcall, f, hf, hs⟩
      · exact .inr (hclose e he)
    have hrestBind : ∀ e ∈ evs' ++ evs2, ¬ IsBind e.call := by
      rintro e he ⟨_, _, _, hb⟩
      rcases hrest e he with ⟨⟨_, _, hcall⟩, -⟩ | hcall <;> simp [hcall] at hb
    refine h.append ?_ ?_ ?_ ?_ ?_ ?_
    · intro e he fd hfd
      simp only [List.cons_append, List.mem_cons] at he
      rcases he with rfl | rfl | he
      · simp [hsock, Call.serverFd] at hfd
      · obtain rfl : n = fd := by simpa [Call.serverFd] using hfd
        exact ⟨k.newFile none, by simp, hcr⟩
      · rcases hrest e he with ⟨⟨_, _, hcall⟩, f, hf, hs⟩ | hcall
        · obtain rfl : n = fd := by simpa [hcall, Call.serverFd] using hfd
          exact ⟨f, hf, hs ▸ hcr⟩
        · simp [hcall, Call.serverFd] at hfd
    · refine .cons (fun _ _ hb => ?_) (.cons (fun e he _ => hrestBind e he) ?_)
      · obtain ⟨_, _, _, hb⟩ := hb
        simp [hsock] at hb
      · exact List.pairwise_of_forall_mem_list fun _ _ e2 he2 _ => hrestBind e2 he2
    · rintro e he hb e1 he1 m hm ⟨fd, f, hfd, hf, rfl⟩
      simp only [List.cons_append, List.mem_cons] at he
      rcases he with rfl | rfl | he
      · obtain ⟨_, _, _, hb⟩ := hb
        simp [hsock] at hb
      · obtain rfl : n = fd := by simpa [Call.fd?] using hfd
        obtain rfl : k.newFile none = f := by simpa using hf
        exact absurd (hpast e1 he1 _ hm) (lt_irrefl _)
      · exact absurd hb (hrestBind e he)
    · exact List.pairwise_of_forall_mem_list fun _ _ e2 he2 _ => hlisten e2 he2
    · exact fun e he hl => absurd hl (hlisten e he)
    · intro e he fd len' hacc
      simp only [List.cons_append, List.mem_cons] at he
      rcases he with rfl | rfl | he
      · simp [hsock] at hacc
      · simp at hacc
      · rcases hrest e he with ⟨⟨_, _, hcall⟩, -⟩ | hcall <;> simp [hcall] at hacc

end CallsInOrder

structure LifeInv [Host] (t : List ServerMove) (c : ServerConfig) : Prop where
  wf : c.kernel.Wf
  noFd : ¬ c.fsm.fsmState.HasSocket → c.fsm.servSockFd.fd = -1
  file : c.fsm.fsmState.HasSocket → ∃ f, c.kernel.files c.fsm.servSockFd.fd = some f ∧
    OwnFile c.fsm f ∧ Created (callsOf t) f.serial ∧
    (f.listening = false → ∀ e ∈ callsOf t, IsListen e.call → ¬ Failed e → ¬ OnSerial e f.serial)
  past : ∀ e ∈ callsOf t, ∀ n, OnSerial e n → n < c.kernel.born
  calls : CallsInOrder (callsOf t)

section

variable [Host] {c0 c c' : ServerConfig} {l : ServerLabel} {t : List ServerMove}

theorem LifeInv.agrees (h : LifeInv t c) : Agrees c := by
  refine ⟨⟨fun ⟨ho, _⟩ => ?_, fun hs => ?_⟩, fun hs => ?_⟩
  · by_contra hs
    simp [h.noFd hs] at ho
  · obtain ⟨f, hf, -⟩ := h.file hs
    exact ⟨by simpa using h.wf.ne_none hf, f, hf⟩
  · obtain ⟨f, hf, hown, -⟩ := h.file hs
    exact ⟨f, hf, hown⟩

theorem ServerStart.lifeInv (h : ServerStart c) : LifeInv [] c :=
  ⟨h.wf, fun _ => h.noFd, fun hs => absurd (h.init ▸ hs) (by decide), by simp, .nil⟩

omit [Host] in
theorem ownCall_facts {s : ServerSocketFsm} {op : ServerOp} {call : Call}
    (h : s.OwnCall op call) : call.serverFd = some s.servSockFd.fd ∧
      call.fd? = some s.servSockFd.fd ∧ ¬ IsBind call ∧
      (IsListen call → ∃ listenBacklog, op = .listen listenBacklog) ∧
      ((∃ fd len, call = .accept fd len) → op = .accept) := by
  cases op with
  | listen listenBacklog =>
    obtain rfl : call = .listen s.servSockFd.fd listenBacklog := h
    simp [Call.serverFd, Call.fd?, IsBind]
  | accept =>
    obtain rfl : call = .accept s.servSockFd.fd ServerSocketFsm.clientAddrlen := h
    simp [Call.serverFd, Call.fd?, IsBind, IsListen]
  | setNonBlockIO =>
    obtain ⟨cmd, arg, rfl⟩ := h
    simp [Call.serverFd, Call.fd?, IsBind, IsListen]
  | _ => exact h.elim

theorem LifeInv.hasSocket {s : ServerSocketFsm} {k : Kernel} {op : ServerOp}
    (hi : LifeInv t ⟨s, k⟩) (h : s.Touches op) : s.fsmState.HasSocket := by
  cases op with
  | listen => exact .inl h
  | accept => exact .inr h
  | setNonBlockIO =>
    by_contra hs
    exact h.2 (hi.noFd hs)
  | _ => exact h.elim

theorem LifeInv.own_calls {s : ServerSocketFsm} {k : Kernel} {op : ServerOp} {evs : List Ev}
    (hi : LifeInv t ⟨s, k⟩) (ht : s.Touches op)
    (hc : ∀ e ∈ evs, e.before = k ∧ s.OwnCall op e.call)
    (hl : (∃ e, evs = [e]) ∨ ∃ b, op = ServerOp.setNonBlockIO b) : CallsInOrder (callsOf t ++ evs) := by
  obtain ⟨f, hf, hown, hcr, hlisten⟩ := hi.file (hi.hasSocket ht)
  refine hi.calls.append_own hf hcr (fun e he => ?_) ?_ ?_ ?_
  · obtain ⟨h1, h2⟩ := hc e he
    obtain ⟨h3, h4, h5, -⟩ := ownCall_facts h2
    exact ⟨h1, h3, h4, h5⟩
  · refine hl.imp id ?_
    rintro ⟨b, rfl⟩ e he hlis
    obtain ⟨_, h⟩ := (ownCall_facts (hc e he).2).2.2.2.1 hlis
    cases h
  · intro e he hlis
    obtain ⟨_, rfl⟩ := (ownCall_facts (hc e he).2).2.2.2.1 hlis
    have hbound : s.fsmState = .BOUND := ht
    exact hlisten (by rw [hown.listening, hbound]; decide)
  · intro e he fd len hacc
    obtain rfl := (ownCall_facts (hc e he).2).2.2.2.2 ⟨fd, len, hacc⟩
    have hlistening : s.fsmState = .LISTENING ∨ s.fsmState = .ACCEPTING := ht
    rw [hown.listening, decide_eq_true hlistening]

def FileListed (T : List Ev) (s : ServerSocketFsm) (k : Kernel) : Prop :=
  s.fsmState.HasSocket → ∃ f, k.files s.servSockFd.fd = some f ∧ OwnFile s f ∧
    Created T f.serial ∧
    (f.listening = false → ∀ e ∈ T, IsListen e.call → ¬ Failed e → ¬ OnSerial e f.serial)

theorem LifeInv.snoc (hi : LifeInv t c) (h : ServerStep .never c l c')
    (hnoFd : ¬ c'.fsm.fsmState.HasSocket → c'.fsm.servSockFd.fd = -1)
    (hfile : FileListed (callsOf t ++ l.evs) c'.fsm c'.kernel)
    (hcalls : CallsInOrder (callsOf t ++ l.evs)) : LifeInv (t ++ [⟨c, l, c'⟩]) c' := by
  have hevs : callsOf (t ++ [⟨c, l, c'⟩]) = callsOf t ++ l.evs := callsOf_snoc ..
  refine ⟨exec_wf h hi.wf, hnoFd, ?_, ?_, ?_⟩
  · rw [hevs]
    exact hfile
  · rw [hevs]
    intro e he n hn
    rcases List.mem_append.mp he with he | he
    · exact (hi.past e he n hn).trans_le (exec_mono h).1
    · obtain ⟨fd, f, -, hf, rfl⟩ := hn
      obtain ⟨-, hle, hwf⟩ := exec_before h hi.wf e he
      exact (hwf.serial_lt hf).trans_le hle
  · rw [hevs]
    exact hcalls

theorem FileListed.append {T evs : List Ev} {s : ServerSocketFsm} {k : Kernel} {f : OpenFile}
    (hf : k.files s.servSockFd.fd = some f) (hown : OwnFile s f) (hcr : Created T f.serial)
    (h : f.listening = false → ∀ e ∈ T, IsListen e.call → ¬ Failed e → ¬ OnSerial e f.serial)
    (hevs : ∀ e ∈ evs, IsListen e.call → Failed e) : FileListed (T ++ evs) s k := by
  intro _
  refine ⟨f, hf, hown, hcr.append, fun hnot e he hlis hok => ?_⟩
  rcases List.mem_append.mp he with he | he
  · exact h hnot e he hlis hok
  · exact absurd (hevs e he hlis) hok

theorem lifeInv_step (hi : LifeInv t c) (h : ServerStep .never c l c') :
    LifeInv (t ++ [⟨c, l, c'⟩]) c' := by
  obtain ⟨s, k⟩ := c
  obtain ⟨op, evs, r⟩ := l
  obtain ⟨s', k'⟩ := c'
  have hempty : ¬ s.fsmState.HasSocket → s.servSockFd.fd = -1 := hi.noFd
  have hs : ServerSocketFsm.Step .never s k op evs r s' k' :=
    ServerSocketFsm.perform_step (fun hs => hempty (by rw [hs]; decide)) h
  have hfile := hi.file
  have hpast : ∀ e ∈ callsOf t, ∀ n, OnSerial e n → n < k.born := hi.past
  simp only at hfile
  suffices hnew : (¬ s'.fsmState.HasSocket → s'.servSockFd.fd = -1) ∧
      FileListed (callsOf t ++ evs) s' k' ∧ CallsInOrder (callsOf t ++ evs) from
    hi.snoc h hnew.1 hnew.2.1 hnew.2.2
  cases hs with
  | refused | returned =>
    simp only [List.append_nil]
    exact ⟨hempty, hfile, hi.calls⟩
  | modeStored =>
    simp only [List.append_nil]
    refine ⟨hempty, fun hs => ?_, hi.calls⟩
    obtain ⟨f, hf, ⟨h1, h2⟩, hrest⟩ := hfile hs
    exact ⟨f, hf, ⟨h1, h2⟩, hrest⟩
  | failed ht hc hf hl =>
    obtain ⟨f, hopen, hown, hcr, hlisten⟩ := hfile (hi.hasSocket ht)
    refine ⟨hempty, FileListed.append hopen hown hcr hlisten fun e he hlis => ?_,
      hi.own_calls ht hc hl⟩
    -- a listen that is issued here has failed
    obtain ⟨_, rfl⟩ := (ownCall_facts (hc e he).2).2.2.2.1 hlis
    obtain ⟨e1, rfl⟩ := hl.resolve_right (by simp)
    obtain rfl := List.mem_singleton.mp he
    simpa [Failed] using hf
  | modeSet ht hc hf hopen =>
    have hs := hi.hasSocket ht
    obtain ⟨f, hopen', ⟨h1, h2⟩, hcr, hlisten⟩ := hfile hs
    obtain rfl : _ = f := by simpa [hopen'] using hopen.symm
    refine ⟨fun h => absurd hs h, FileListed.append (Function.update_self ..) ⟨h1, h2⟩ hcr hlisten
      fun e he hlis => ?_, hi.own_calls ht hc (.inr ⟨_, rfl⟩)⟩
    obtain ⟨_, h⟩ := (ownCall_facts (hc e he).2).2.2.2.1 hlis
    cases h
  | @listening listenBacklog _ _ hb _ hopen =>
    obtain ⟨f, hopen', ⟨h1, -⟩, hcr, -⟩ := hfile (.inl hb)
    obtain rfl : _ = f := by simpa [hopen'] using hopen.symm
    refine ⟨fun h => absurd (show ServerFsmState.LISTENING.HasSocket by decide) h, fun _ => ?_, ?_⟩
    · refine ⟨_, Function.update_self .., ⟨h1, (decide_eq_true (.inl rfl)).symm⟩, hcr.append, ?_⟩
      simp
    · have ht : s.Touches (.listen listenBacklog) := hb
      exact hi.own_calls ht (by simp [ServerSocketFsm.OwnCall]) (.inl ⟨_, rfl⟩)
  | @accepted rep _ hb hopen hn =>
    obtain ⟨f, hopen', ⟨h1, h2⟩, hcr, -⟩ := hfile (.inr hb)
    have hlistening : f.listening = true := by rw [h2, decide_eq_true hb]
    refine ⟨fun h => absurd (show ServerFsmState.ACCEPTING.HasSocket by decide) h, fun _ => ?_, ?_⟩
    · refine ⟨f, ?_, ⟨h1, ?_⟩, hcr.append, by simp [hlistening]⟩
      · have hne : s.servSockFd.fd ≠ rep.status := fun h => by simp [h, hn.2] at hopen
        simpa [hne] using hopen'
      · rw [hlistening]
        exact (decide_eq_true (.inr rfl)).symm
    · have ht : s.Touches .accept := hb
      exact hi.own_calls ht (by simp [ServerSocketFsm.OwnCall]) (.inl ⟨_, rfl⟩)
  | bindFailed hinit hc hf hk =>
    obtain ⟨o, hc⟩ := hc
    exact ⟨hempty, fun hs => absurd (hinit ▸ hs) (by decide), hi.calls.append_made hc hpast⟩
  | bound hinit hc hf hk =>
    obtain ⟨o, hc⟩ := hc
    obtain ⟨hfresh, rfl⟩ := hk
    refine ⟨fun h => absurd (show ServerFsmState.BOUND.HasSocket by decide) h, fun _ => ?_,
      hi.calls.append_made hc hpast⟩
    refine ⟨_, Function.update_self .., ⟨rfl, rfl⟩, CallsInOrder.created_of_made hc hf, ?_⟩
    intro _ e he hlis _ hon
    rcases List.mem_append.mp he with he | he
    · exact absurd (hpast e he _ hon) (lt_irrefl k.born)
    · exact CallsInOrder.not_isListen_of_made hc e he hlis
  | closed hne hk =>
    refine ⟨fun _ => rfl, fun h => absurd (show ServerFsmState.CLOSED.HasSocket from h) (by decide),
      hi.calls.append_quiet fun e he => ?_⟩
    simp [(hk.calls.2 e he).1, Call.serverFd]
  | closeFailed h hk =>
    by_cases hs : s.fsmState.HasSocket
    · obtain ⟨f, hf, -⟩ := hfile hs
      exact absurd hk (CloseFails.not_never hf)
    · exact absurd (hempty hs) hk.1
  | wasReset hk =>
    refine ⟨fun _ => rfl, fun h => absurd (show ServerFsmState.INIT.HasSocket from h) (by decide),
      hi.calls.append_quiet fun e he => ?_⟩
    simp [(hk.calls.2 e he).1, Call.serverFd]

/-- In every run in which `close` does not fail, the state machine agrees with the kernel and its
calls are in order. -/
theorem agrees_of_path (h0 : ServerStart c0) (h : StepPath (ServerStep .never) c0 t c) :
    Agrees c ∧ CallsInOrder (callsOf t) := by
  have hi : LifeInv t c :=
    h.invariant (I := LifeInv) h0.lifeInv fun _ _ _ _ hi hs => lifeInv_step hi hs
  exact ⟨hi.agrees, hi.calls⟩

end

/-- A `listen` that fails is tried again on the same fd. -/
def listenRetried : List (ServerOp × List Reply) :=
  [(.bind someAddress, setupReplies 3), (.listen 5, [failReply 98]), (.listen 5, [okReply])]

theorem agrees_listenRetried : ∃ (_ : Host) (t : List ServerMove) (c : ServerConfig),
    StepPath (ServerStep .never) newServer t c ∧ t.length = 3 ∧
    Agrees c ∧ CallsInOrder (callsOf t) := by
  let host : Host := littleHost
  have hrun := path_of_session (rfl : follow (nextOp .never ServerSocketFsm.perform) newServer
    listenRetried = some (_, _))
  exact ⟨host, _, _, hrun, rfl, agrees_of_path newServer_start hrun⟩

/-- `listen` is issued at most once on each fd, also when it fails. -/
def ListenAtMostOnce (T : List Ev) : Prop :=
  T.Pairwise fun e1 e2 => ∀ n, IsListen e1.call → OnSerial e1 n → IsListen e2.call →
    ¬ OnSerial e2 n

theorem listenAtMostOnce_not_always : ¬ ∀ [Host] {c0 c : ServerConfig} {t : List ServerMove},
    ServerStart c0 → StepPath (ServerStep .never) c0 t c →
    (Agrees c ∧ CallsInOrder (callsOf t)) ∧ ListenAtMostOnce (callsOf t) := by
  intro hall
  let host : Host := littleHost
  have hrun := path_of_session (rfl : follow (nextOp .never ServerSocketFsm.perform) newServer
    listenRetried = some (_, _))
  have h := (hall newServer_start hrun).2
  -- the fifth and the sixth call
  have hpair := List.pairwise_iff_getElem.mp h 4 5 (by decide) (by decide) (by decide)
  exact hpair 0 ⟨3, 5, rfl⟩ ⟨3, _, rfl, rfl, rfl⟩ ⟨3, 5, rfl⟩ ⟨3, _, rfl, rfl, rfl⟩

end Snl
