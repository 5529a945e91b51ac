import SocketInterface.Library.Crash
import SocketInterface.Sockets
import SocketInterface.StreamSocket

/-!
# What the exceptions say

Every exception with an `errno` is about a system call that failed, and every system call
that failed is thrown: by any operation of any socket, and whatever the kernel answers.
-/

namespace Snl

open Method Blame

variable {σ : Type}

/-! ## System calls -/

/-- A failure, with the text of the wrapper through which the call is made. -/
def thrownFor : Call → Reply → Option SnlException
  | .close _, reply =>
    if reply.status ≠ 0 then some (.errno "FdGuard error: " reply.errno) else none
  | .socket .., reply =>
    if reply.status = -1 then some (.errno "FdGuard Error: " reply.errno) else none
  | _, reply => if reply.status = -1 then some (.errno "System call error: " reply.errno) else none

theorem thrownFor_errno {c : Call} {r : Reply} {e : SnlException} (h : thrownFor c r = some e) :
    ∃ msg no, e = .errno msg no := by
  unfold thrownFor at h
  split at h <;> exact ⟨_, _, (Option.some.inj (Option.ite_none_right_eq_some.mp h).2).symm⟩

def IsRefusal : SnlException → Prop
  | .errno .. => False
  | .plain _ | .eof _ => True

def snlBlame : Blame Call Reply SnlException := ⟨thrownFor, IsRefusal⟩

abbrev Candid {α : Type} (m : M σ α) : Prop := snlBlame.Candid m

abbrev Hardy {α : Type} (m : M σ α) : Prop := snlBlame.Hardy m

abbrev StrictlyHardy {α : Type} (m : M σ α) : Prop := snlBlame.strict.Hardy m

theorem executeSyscall_hardy {c : Call} (hc : ∀ fd, c ≠ .close fd)
    (hs : ∀ d t p, c ≠ .socket d t p) : StrictlyHardy (executeSyscall c (-1) : M σ Reply) := by
  have hthrown : ∀ r, thrownFor c r =
      if r.status = -1 then some (.errno "System call error: " r.errno) else none := by
    intro r
    cases c <;> simp_all [thrownFor]
  unfold executeSyscall
  refine hardy_issue (fun r e hr => ?_) fun r hr => ?_
  · replace hr : thrownFor c r = some e := hr
    rw [hthrown, Option.ite_none_right_eq_some] at hr
    rw [if_pos hr.1, Option.some.inj hr.2]
  · replace hr : thrownFor c r = none := hr
    have hst : ¬ r.status = -1 := by simpa [hthrown] using hr
    rw [if_neg hst]
    exact hardy_pure r

theorem makeFdGuard_hardy {d t p : Int} :
    StrictlyHardy (makeFdGuard (.socket d t p) : M σ FdGuard) := by
  unfold makeFdGuard
  refine hardy_issue (fun r e hr => ?_) fun r hr => ?_
  · obtain ⟨hst, he⟩ := Option.ite_none_right_eq_some.mp hr
    rw [if_pos hst, Option.some.inj he]
  · have hst : ¬ r.status = -1 := by simpa [snlBlame, strict, thrownFor] using hr
    rw [if_neg hst]
    exact hardy_pure _

theorem closeFd_hardy {fd : Fd} : StrictlyHardy (FdGuard.closeFd fd : M σ Unit) := by
  unfold FdGuard.closeFd
  split
  · exact hardy_pure ()
  · refine hardy_issue (fun r e hr => ?_) fun r hr => ?_
    · obtain ⟨hst, he⟩ := Option.ite_none_right_eq_some.mp hr
      rw [if_pos hst, Option.some.inj he]
    · have hst : r.status = 0 := by simpa [snlBlame, strict, thrownFor] using hr
      rw [if_neg (not_not.mpr hst)]
      exact hardy_pure ()

theorem check_hardy {p : Prop} [Decidable p] {e : SnlException} (he : IsRefusal e) :
    Hardy (if p then raise e else pure () : M σ Unit) := by
  split
  · exact hardy_raise he
  · exact hardy_pure ()

namespace FdGuard

theorem close_hardy : StrictlyHardy FdGuard.close :=
  hardy_bind hardy_self fun _ => hardy_bind closeFd_hardy fun _ => hardy_update _

theorem reset_hardy {fd : Fd} : StrictlyHardy (FdGuard.reset fd) := by
  unfold FdGuard.reset
  refine hardy_bind hardy_self fun this => ?_
  split
  · exact hardy_pure ()
  · exact hardy_bind closeFd_hardy fun _ => hardy_update _

/-- The guard that was moved from owns nothing. -/
theorem moveAssign_bears {s : FdGuard × FdGuard} :
    snlBlame.strict.Bears FdGuard.moveAssign s fun g => g.2 = ⟨NO_FD⟩ := by
  unfold FdGuard.moveAssign
  refine bears_self_bind (bears_bind (closeFd_hardy s) fun _ _ _ => ?_)
  exact bears_update rfl

theorem destroy_empty (guard : FdGuard) (h : guard = ⟨NO_FD⟩) :
    destroy FdGuard.close guard = .done () := by
  rw [h]
  rfl

end FdGuard

theorem fcntlBlockingBehav_hardy {guard : FdGuard} {nonBlockVal : Bool} :
    StrictlyHardy (fcntlBlockingBehav guard nonBlockVal : M σ Unit) := by
  unfold fcntlBlockingBehav
  refine hardy_bind (executeSyscall_hardy (by simp) (by simp)) fun reply => ?_
  exact hardy_bind (executeSyscall_hardy (by simp) (by simp)) fun _ => hardy_pure ()

/-! ## `StreamSocketFsm` -/

namespace StreamSocketFsm

theorem send_hardy {buffer : List Byte} {flags : Int} : Hardy (send buffer flags) := by
  unfold send sendCheck
  refine hardy_bind hardy_self fun this => hardy_bind (check_hardy trivial) fun _ => ?_
  refine hardy_bind (executeSyscall_hardy (by simp) (by simp)).relax fun _ => ?_
  exact hardy_pure _

theorem receive_hardy {bufferSize : Nat} {flags : Int} : Hardy (receive bufferSize flags) := by
  unfold receive receiveCheck
  refine hardy_bind hardy_self fun this => hardy_bind (check_hardy trivial) fun _ => ?_
  refine hardy_bind (executeSyscall_hardy (by simp) (by simp)).relax fun reply => ?_
  dsimp only
  split
  · exact hardy_raise trivial
  · exact hardy_pure _

theorem close_hardy : Hardy close := by
  unfold close closeCheck
  refine hardy_bind hardy_self fun this => hardy_bind (check_hardy trivial) fun _ => ?_
  exact hardy_bind (hardy_zoom FdGuard.close_hardy.relax) fun _ => hardy_update _

theorem closeDirection_hardy {check : StrSoFsmState → M StreamSocketFsm Unit} {how : Int}
    {next : StrSoFsmState} (hcheck : ∀ current, Hardy (check current)) :
    Hardy (closeDirection check how next) := by
  unfold closeDirection
  refine hardy_bind hardy_self fun this => hardy_bind (hcheck _) fun _ => ?_
  split
  · refine hardy_bind (executeSyscall_hardy (by simp) (by simp)).relax fun _ => ?_
    exact hardy_update _
  · exact close_hardy

theorem createSockAndConnect_hardy [Host] {address : SocketAddress} {nonBlockVal : Bool} :
    StrictlyHardy (createSockAndConnect address nonBlockVal : M σ FdGuard) := by
  unfold createSockAndConnect
  refine hardy_bind makeFdGuard_hardy fun guard => hardy_bind ?_ fun _ => hardy_pure _
  refine hardy_unwinding FdGuard.close_hardy ?_
  exact hardy_bind (executeSyscall_hardy (by simp) (by simp)) fun _ => fcntlBlockingBehav_hardy

theorem assignFd_bears {s : FdGuard × StreamSocketFsm} :
    snlBlame.strict.Bears assignFd s fun l => l.1 = ⟨FdGuard.NO_FD⟩ :=
  bears_zoom FdGuard.moveAssign_bears

theorem connect_hardy [Host] {socketAddress : SocketAddress} : Hardy (connect socketAddress) := by
  unfold connect connectCheck
  refine hardy_bind hardy_self fun this => hardy_bind (check_hardy trivial) fun _ => ?_
  refine hardy_bind createSockAndConnect_hardy.relax fun guard => Hardy.relax fun s => ?_
  refine bears_withLocal FdGuard.close_hardy FdGuard.destroy_empty ?_
  refine bears_bind (hardy_update _ _) fun _ s _ => bears_bind assignFd_bears fun _ l hl => ?_
  exact bears_update ⟨hl, trivial⟩

theorem reset_hardy : Hardy reset :=
  hardy_bind (hardy_zoom FdGuard.close_hardy.relax) fun _ => hardy_update _

theorem getSockAddress_hardy : Hardy getSockAddress := by
  unfold getSockAddress
  refine hardy_bind hardy_self fun this => ?_
  split
  · exact hardy_raise trivial
  · exact hardy_pure _

theorem resetConnection_hardy [Host] : Hardy resetConnection := by
  unfold resetConnection resetConnectCheck
  refine hardy_bind hardy_self fun this => hardy_bind (check_hardy trivial) fun _ => ?_
  refine hardy_bind (hardy_zoom FdGuard.close_hardy.relax) fun _ => ?_
  refine hardy_bind getSockAddress_hardy fun address => ?_
  refine hardy_bind createSockAndConnect_hardy.relax fun temporary => ?_
  refine hardy_bind (Hardy.relax fun s => ?_) fun _ => hardy_update _
  refine bears_withLocal FdGuard.close_hardy FdGuard.destroy_empty ?_
  exact assignFd_bears.weaken fun _ h => ⟨h, trivial⟩

theorem setNonBlock_hardy {nonBlockVal : Bool} : Hardy (setNonBlock nonBlockVal) := by
  unfold setNonBlock
  refine hardy_bind hardy_self fun this => ?_
  split
  · exact hardy_pure ()
  · split
    · exact hardy_pure ()
    · exact fcntlBlockingBehav_hardy.relax

theorem perform_hardy [Host] (op : StrSoOp) : Hardy (perform op) := by
  cases op with
  | connect => exact hardy_bind connect_hardy fun _ => hardy_pure _
  | send => exact hardy_bind send_hardy fun _ => hardy_pure _
  | receive => exact hardy_bind receive_hardy fun _ => hardy_pure _
  | closeUpstream =>
    exact hardy_bind (closeDirection_hardy fun _ => check_hardy trivial) fun _ => hardy_pure _
  | closeDownstream =>
    exact hardy_bind (closeDirection_hardy fun _ => check_hardy trivial) fun _ => hardy_pure _
  | close => exact hardy_bind close_hardy fun _ => hardy_pure _
  | reset => exact hardy_bind reset_hardy fun _ => hardy_pure _
  | resetConnection => exact hardy_bind resetConnection_hardy fun _ => hardy_pure _
  | setNonBlock => exact hardy_bind setNonBlock_hardy fun _ => hardy_pure _
  | getSockAddress => exact hardy_bind getSockAddress_hardy fun _ => hardy_pure _
  | isNonBlock | isConnected | upstreamClosed | downStreamClosed | isClosed =>
    exact hardy_bind hardy_self fun _ => hardy_pure _

end StreamSocketFsm

/-! ## `ServerSocketFsm` -/

namespace ServerSocketFsm

theorem assignFd_bears {s : FdGuard × ServerSocketFsm} :
    snlBlame.strict.Bears assignFd s fun l => l.1 = ⟨FdGuard.NO_FD⟩ :=
  bears_zoom FdGuard.moveAssign_bears

theorem makeSockFdAndBind_hardy [Host] {sockAddr : SocketAddress} :
    StrictlyHardy (makeSockFdAndBind sockAddr : M σ FdGuard) := by
  unfold makeSockFdAndBind
  refine hardy_bind makeFdGuard_hardy fun guard => hardy_bind ?_ fun _ => hardy_pure _
  refine hardy_unwinding FdGuard.close_hardy ?_
  exact hardy_bind (executeSyscall_hardy (by simp) (by simp)) fun _ => hardy_pure ()

theorem bindGuard_bears {guard : FdGuard} {nonBlockVal : Bool} {sockAddr : SocketAddress}
    {s : ServerSocketFsm} :
    snlBlame.strict.Bears (withLocal FdGuard.close guard do
      setFdBlockingBehav guard nonBlockVal
      assignFd
      update fun l => (l.1, { l.2 with socketAddr := sockAddr, fsmState := .BOUND })) s
      fun s' => s'.fsmState = .BOUND := by
  refine bears_withLocal FdGuard.close_hardy FdGuard.destroy_empty ?_
  refine bears_bind (fcntlBlockingBehav_hardy _) fun _ _ _ => ?_
  exact bears_bind assignFd_bears fun _ l hl => bears_update ⟨hl, rfl⟩

theorem bind_hardy [Host] {sockAddr : SocketAddress} : Hardy (bind sockAddr) := by
  unfold bind bindCheck
  refine hardy_bind hardy_self fun this => hardy_bind (check_hardy trivial) fun _ => ?_
  refine hardy_bind makeSockFdAndBind_hardy.relax fun guard s => ?_
  exact bindGuard_bears.relax.weaken fun _ _ => trivial

theorem bind_bears [Host] {sockAddr : SocketAddress} {s : ServerSocketFsm}
    (h : s.fsmState = .INIT) :
    snlBlame.strict.Bears (bind sockAddr) s fun s' => s'.fsmState = .BOUND := by
  unfold bind bindCheck
  refine bears_self_bind ?_
  rw [if_neg (not_not.mpr h)]
  refine bears_bind (hardy_pure _ _) fun _ s' _ => ?_
  exact bears_bind (makeSockFdAndBind_hardy s') fun _ _ _ => bindGuard_bears

theorem bind_refuses [Host] {sockAddr : SocketAddress} {s : ServerSocketFsm}
    (h : s.fsmState ≠ .INIT) : bind sockAddr s =
      .done (.error (.plain "ServerSocket error: binding to already bound socket"), s) := by
  unfold bind bindCheck
  rw [self_bind_apply, if_pos h]
  rfl

theorem listen_hardy {listenBacklog : Int} : Hardy (listen listenBacklog) := by
  unfold listen listenCheck
  refine hardy_bind hardy_self fun this => hardy_bind ?_ fun _ => ?_
  · split
    · split <;> exact hardy_raise trivial
    · exact hardy_pure ()
  · refine hardy_bind (executeSyscall_hardy (by simp) (by simp)).relax fun _ => ?_
    exact hardy_update _

theorem listen_bears {listenBacklog : Int} {s : ServerSocketFsm} (h : s.fsmState = .BOUND) :
    snlBlame.strict.Bears (listen listenBacklog) s fun _ => True := by
  unfold listen listenCheck
  refine bears_self_bind ?_
  rw [if_neg (not_not.mpr h)]
  refine bears_bind (hardy_pure _ _) fun _ s' _ => ?_
  exact hardy_bind (executeSyscall_hardy (by simp) (by simp)) (fun _ => hardy_update _) s'

theorem accept_hardy {clientFd : FdGuard} : Hardy (accept clientFd) := by
  unfold accept acceptCheck
  refine hardy_bind hardy_self fun this => hardy_bind (check_hardy trivial) fun _ => ?_
  refine hardy_bind (executeSyscall_hardy (by simp) (by simp)).relax fun reply => ?_
  refine hardy_bind (hardy_onLocal FdGuard.reset_hardy.relax) fun clientFd => ?_
  exact hardy_bind (hardy_update _) fun _ => hardy_pure _

theorem close_hardy : Hardy close := by
  unfold close closeCheck
  refine hardy_bind hardy_self fun this => hardy_bind (check_hardy trivial) fun _ => ?_
  exact hardy_bind (hardy_zoom FdGuard.close_hardy.relax) fun _ => hardy_update _

theorem reset_hardy : Hardy reset :=
  hardy_bind (hardy_zoom FdGuard.close_hardy.relax) fun _ => hardy_update _

theorem setNonBlockIO_hardy {nonBlockVal : Bool} :
    Hardy (ServerSocketFsm.setNonBlockIO nonBlockVal) := by
  unfold setNonBlockIO
  refine hardy_bind hardy_self fun this => ?_
  split
  · exact hardy_pure ()
  · split
    · exact hardy_update _
    · exact hardy_bind fcntlBlockingBehav_hardy.relax fun _ => hardy_update _

theorem getSockAddr_hardy : Hardy getSockAddr := by
  unfold getSockAddr
  refine hardy_bind hardy_self fun this => ?_
  split
  · exact hardy_raise trivial
  · exact hardy_pure _

theorem perform_hardy [Host] (op : ServerOp) : Hardy (perform op) := by
  cases op with
  | bind => exact hardy_bind bind_hardy fun _ => hardy_pure _
  | listen => exact hardy_bind listen_hardy fun _ => hardy_pure _
  | accept => exact hardy_bind accept_hardy fun _ => hardy_pure _
  | close => exact hardy_bind close_hardy fun _ => hardy_pure _
  | reset => exact hardy_bind reset_hardy fun _ => hardy_pure _
  | setNonBlockIO => exact hardy_bind setNonBlockIO_hardy fun _ => hardy_pure _
  | getSockAddr => exact hardy_bind getSockAddr_hardy fun _ => hardy_pure _
  | getIpAddress | getTcpPort =>
    exact hardy_bind (hardy_bind getSockAddr_hardy fun _ => hardy_pure _) fun _ => hardy_pure _
  | getNonBlockIO | isBound | isListening | isAccepting | isClosed =>
    exact hardy_bind hardy_self fun _ => hardy_pure _

end ServerSocketFsm

/-! ## Lines and buffers -/

theorem sendRest_hardy {message : List Byte} : Hardy (sendRest message) := by
  unfold sendRest
  refine hardy_bind hardy_self fun l => ?_
  refine hardy_bind (hardy_zoom StreamSocketFsm.send_hardy) fun sent => ?_
  exact hardy_bind (hardy_update _) fun _ => hardy_bind hardy_self fun _ => hardy_pure _

theorem sendBuff_hardy {buffer : List Byte} {fuel : Nat} : Hardy (sendBuff buffer fuel) :=
  hardy_withVar (hardy_doWhile sendRest_hardy fuel)

theorem readByte_hardy {eol : List Byte} : Hardy (readByte eol) := by
  unfold readByte onReader Reader.receive
  refine hardy_bind (hardy_zoom (hardy_zoom StreamSocketFsm.receive_hardy)) fun got => ?_
  refine hardy_bind (hardy_update _) fun _ => hardy_bind hardy_self fun l => ?_
  split
  · exact hardy_halt (by simp)
  · refine hardy_bind (hardy_zoom (hardy_update _)) fun _ => ?_
    exact hardy_bind hardy_self fun _ => hardy_pure _

theorem popBacks_hardy (n : Nat) : Hardy (Reader.popBacks n) := by
  induction n with
  | zero => exact hardy_pure ()
  | succ n ih =>
    unfold Reader.popBacks Reader.popBack
    refine hardy_bind (hardy_bind hardy_self fun this => ?_) fun _ => ih
    split
    · exact hardy_halt (by simp)
    · exact hardy_update _

theorem readline_hardy {eol : List Byte} {fuel : Nat} : Hardy (readline eol fuel) := by
  unfold readline Reader.clear
  refine hardy_bind (hardy_update _) fun _ => ?_
  refine hardy_bind (hardy_withVar (hardy_doWhile readByte_hardy fuel)) fun _ => ?_
  refine hardy_bind (popBacks_hardy _) fun _ => ?_
  exact hardy_bind hardy_self fun _ => hardy_pure _

/-! ## Sockets -/

theorem makeSockAddr_refuses [Host] {storage : SockaddrStorage} {e : SnlException}
    (h : makeSockAddr storage = .error e) : IsRefusal e := by
  unfold makeSockAddr makeIpAddress makeIpImpl makeTcpPort at h
  by_cases h4 : ssFamily storage = AF_INET
  · rw [if_pos h4, if_pos h4] at h
    simp [Bind.bind, Except.bind, pure, Except.pure] at h
  · by_cases h6 : ssFamily storage = AF_INET6
    · rw [if_neg h4, if_neg h4, if_pos h6, if_pos h6] at h
      simp [Bind.bind, Except.bind, pure, Except.pure] at h
    · rw [if_neg h4, if_neg h4, if_neg h6, if_neg h6] at h
      obtain rfl := Except.error.inj h
      trivial

namespace Sockets

variable {α : Type} {i : Nat}

theorem onServer_hardy {m : M ServerSocketFsm α} (hm : Hardy m) : Hardy (onServer i m) := by
  intro this
  unfold Bears onServer
  split
  · exact fares_map ((hm _).mono (fun _ _ h => ⟨h.1, fun _ _ => trivial⟩) fun _ => id)
  · exact fares_halt (by simp)

theorem onStream_hardy {m : M StreamSocketFsm α} (hm : Hardy m) : Hardy (onStream i m) := by
  intro this
  unfold Bears onStream
  split
  · exact fares_map ((hm _).mono (fun _ _ h => ⟨h.1, fun _ _ => trivial⟩) fun _ => id)
  · exact fares_halt (by simp)

theorem moveConstruct_hardy : Hardy (moveConstruct i) := by
  intro this
  unfold Bears moveConstruct
  split
  · exact fares_done ⟨rfl, fun _ _ => trivial⟩
  · exact fares_halt (by simp)

theorem newListening_hardy [Host] {prior : ServerSocketFsm} {sockAddr : SocketAddress}
    {backlog : Int} : Hardy (newListening prior sockAddr backlog) := by
  intro this
  by_cases h : prior.fsmState = .INIT
  · have hlisten : snlBlame.strict.Bears
        (do ServerSocketFsm.bind sockAddr; ServerSocketFsm.listen backlog)
        (ServerSocketFsm.construct prior) fun _ => True :=
      bears_bind (ServerSocketFsm.bind_bears h) fun _ _ hs => ServerSocketFsm.listen_bears hs
    refine Bears.relax (m := newListening prior sockAddr backlog) ?_
    refine fares_map (fares_bind hlisten ?_)
    rintro ⟨e | _, fsm⟩ failures ⟨h, -⟩
    · obtain rfl : failures = [e] := told_strict.mp h
      exact fares_destroy_thrown FdGuard.close_hardy ⟨h, by simp⟩
    · obtain rfl : failures = [] := h
      exact fares_done ⟨rfl, fun _ _ => trivial⟩
  · -- `bind` refuses, and the guard that is destroyed is still empty
    unfold Bears newListening ServerSocketFsm.constructListening
    rw [bind_apply, ServerSocketFsm.bind_refuses (s := .construct prior) h]
    exact fares_done ⟨.inr ⟨rfl, trivial⟩, by simp⟩

/-- An operation that destroys no socket and accepts none. -/
theorem perform_hardy [Host] {op : SocketsOp} (haccept : ∀ i, op ≠ .server i .accept)
    (hassign : ∀ lhs rhs, op ≠ .moveAssign lhs rhs) (hdestroy : ∀ i, op ≠ .destroy i) :
    Hardy (perform op) := by
  unfold perform
  split
  · exact hardy_update _
  · exact newListening_hardy
  · exact hardy_update _
  · exact absurd rfl (haccept _)
  · exact hardy_bind (onServer_hardy (ServerSocketFsm.perform_hardy _)) fun _ => hardy_pure ()
  · exact hardy_bind (onStream_hardy (StreamSocketFsm.perform_hardy _)) fun _ => hardy_pure ()
  · exact moveConstruct_hardy
  · exact absurd rfl (hassign _ _)
  · exact absurd rfl (hdestroy _)

theorem accept_candid [Host] : Candid ServerSocket.accept := by
  unfold ServerSocket.accept
  refine candid_bind ServerSocketFsm.accept_hardy.candid fun client => ?_
  refine candid_unwinding FdGuard.close_hardy.relax.candid ?_
  split
  · exact candid_pure _
  · rename_i h
    exact candid_raise (makeSockAddr_refuses h)

theorem onServer_candid {m : M ServerSocketFsm α} (hm : Candid m) : Candid (onServer i m) := by
  intro this
  unfold onServer
  split
  · exact records_map (hm _)
  · exact records_halt _

theorem destroy_records (sock : Socket) :
    snlBlame.Records (fun _ failures => failures = []) sock.destroy := by
  unfold Socket.destroy
  split
  · exact records_destroy FdGuard.close_hardy.relax.candid _
  · exact records_destroy FdGuard.close_hardy.relax.candid _
  · exact records_done rfl
  · exact records_done rfl

theorem moveAssign_candid {lhs rhs : Nat} : Candid (moveAssign lhs rhs) := by
  intro this
  unfold moveAssign
  split
  · exact records_halt _
  · split
    · split
      · exact records_map (destroy_records _)
      · exact records_halt _
    · exact records_halt _

theorem destroy_candid : Candid (destroy i) := by
  intro this
  unfold destroy
  split
  · exact records_map (destroy_records _)
  · exact records_halt _

theorem perform_candid [Host] (op : SocketsOp) : Candid (perform op) := by
  by_cases haccept : ∃ i, op = .server i .accept
  · obtain ⟨i, rfl⟩ := haccept
    exact candid_bind (onServer_candid accept_candid) fun _ => candid_update _
  by_cases hassign : ∃ lhs rhs, op = .moveAssign lhs rhs
  · obtain ⟨lhs, rhs, rfl⟩ := hassign
    exact moveAssign_candid
  by_cases hdestroy : ∃ i, op = .destroy i
  · obtain ⟨i, rfl⟩ := hdestroy
    exact destroy_candid
  · simp only [not_exists] at haccept hassign hdestroy
    exact (perform_hardy haccept hassign hdestroy).candid

end Sockets

/-- No failure of a system call is lost and none is made up: on every system, an operation of any
socket and a transfer of any size throws exactly the failure that it met. -/
theorem exceptions_tell_failures [Host] : (∀ op, Candid (Sockets.perform op)) ∧
    (∀ eol fuel, Candid (readline eol fuel)) ∧
    (∀ line eol fuel, Candid (sendline line eol fuel)) ∧
    (∀ buffer fuel, Candid (sendBuff buffer fuel)) ∧
    ∀ bufferSize, Candid (receiveBuff bufferSize) :=
  ⟨Sockets.perform_candid, fun _ _ => readline_hardy.candid, fun _ _ _ => sendBuff_hardy.candid,
    fun _ _ => sendBuff_hardy.candid, fun _ => StreamSocketFsm.receive_hardy.candid⟩

end Snl
