import SocketInterface.Exceptions
import SocketInterface.Library.Twin

/-!
# What one failed system call can end

A destructor throws when `close` fails, and a destructor that throws ends the program. One failure
is enough for that in three operations only.
-/

namespace Snl

open Method Blame

def ServerSocketFsm.Accepts (this : ServerSocketFsm) : Prop :=
  this.fsmState = .LISTENING ∨ this.fsmState = .ACCEPTING

namespace SocketsOp

/-- On some system a destructor of the operation throws, when this many of its system calls fail.
What else ends a program (an `assert`, a signal) is not meant. -/
def Ends [Host] (op : SocketsOp) (this : Sockets) (failures : Nat) : Prop :=
  ∃ (W : Type) (env : W → Call → Reply → W → Prop) (w w' : W)
    (evs : List (Prog.Event W Call Reply)),
    Prog.Exec env (Sockets.perform op this).caught w evs (.error .terminated) w' ∧
      (snlBlame.failures evs).length = failures

/-- An fd is closed by a destructor that runs although nothing failed before: that of the socket, or
of the guard of a client whose address is refused. -/
def Fragile (this : Sockets) : SocketsOp → Prop
  | .destroy i => ∃ sock, this[i]? = some (some sock) ∧ sock.held ≠ 0
  | .moveAssign lhs rhs => lhs ≠ rhs ∧ ∃ old sock, this[lhs]? = some (some old) ∧
      this[rhs]? = some (some sock) ∧ old.SameClass sock ∧ old.held ≠ 0
  | .server i .accept => ∃ fsm, this[i]? = some (some (.server (some fsm))) ∧ fsm.Accepts
  | _ => False

end SocketsOp

/-! ## At least one failure, and two outside the fragile operations -/

theorem ne_nil_of_two {failures : List SnlException} (h : 2 ≤ failures.length) : failures ≠ [] :=
  List.ne_nil_of_length_pos (by omega)

theorem FdGuard.held_eq_zero {guard : FdGuard} : guard.held = 0 ↔ guard = ⟨NO_FD⟩ := by
  obtain ⟨fd⟩ := guard
  by_cases h : fd = -1 <;> simp [FdGuard.held, NO_FD, h]

theorem Socket.destroy_fares (sock : Socket) : snlBlame.Fares (fun _ failures => failures = [])
    (fun failures => failures ≠ [] ∧ sock.held ≠ 0) sock.destroy := by
  have hguard : ∀ guard : FdGuard, snlBlame.Fares (fun _ failures => failures = [])
      (fun failures => failures ≠ [] ∧ guard.held ≠ 0) (Method.destroy FdGuard.close guard) := by
    intro guard
    by_cases h : guard.held = 0
    · rw [FdGuard.destroy_empty _ (FdGuard.held_eq_zero.mp h)]
      exact fares_done rfl
    · have hx := fares_strict.mp (fares_destroy FdGuard.close_hardy guard)
      exact hx.mono (fun _ _ => id) fun _ hne => ⟨hne, h⟩
  match sock with
  | .server (some fsm) => exact hguard fsm.servSockFd
  | .stream (some fsm) => exact hguard fsm.strSoFd
  | .server none | .stream none => exact fares_done rfl

namespace ServerSocketFsm

theorem accept_refuses {this : ServerSocketFsm} (h : ¬ this.Accepts) (clientFd : FdGuard) :
    ∃ e, accept clientFd this = .done (.error e, this) := by
  have hcheck : this.fsmState ≠ .LISTENING ∧ this.fsmState ≠ .ACCEPTING := not_or.mp h
  unfold accept acceptCheck
  rw [self_bind_apply, if_pos hcheck]
  exact ⟨_, rfl⟩

end ServerSocketFsm

theorem ServerSocket.accept_fares [Host] (this : ServerSocketFsm) :
    snlBlame.Fares (fun _ _ => True) (fun failures => failures ≠ [] ∧
      (2 ≤ failures.length ∨ this.Accepts)) (ServerSocket.accept this) := by
  unfold ServerSocket.accept
  rw [bind_apply]
  by_cases h : this.Accepts
  · -- the client that is refused is closed, and that may be the only call that fails
    have hne : ∀ {failures : List SnlException}, failures ≠ [] →
        failures ≠ [] ∧ (2 ≤ failures.length ∨ this.Accepts) := fun hne => ⟨hne, .inr h⟩
    have hfsm : Hardy (ServerSocketFsm.accept {}) := ServerSocketFsm.accept_hardy
    refine fares_bind ((hfsm this).mono (fun _ _ hx => hx.1) fun _ hx => hne (ne_nil_of_two hx)) ?_
    rintro ⟨e | client, fsm⟩ failures hx
    · exact fares_done trivial
    · obtain rfl : failures = [] := hx
      have hclose := fares_strict.mp (fares_destroy FdGuard.close_hardy client.1)
      unfold unwinding
      dsimp only
      cases makeSockAddr client.2 with
      | ok sockAddr => exact fares_done trivial
      | error e =>
        show snlBlame.Fares _ _ ((destroy FdGuard.close client.1).bind fun _ => .done _)
        refine fares_bind (hclose.mono (fun _ _ hx => hx) fun _ => hne) fun _ _ _ => ?_
        exact fares_done trivial
  · obtain ⟨e, he⟩ := ServerSocketFsm.accept_refuses h {}
    rw [he]
    exact fares_done trivial

namespace Sockets

theorem perform_fares [Host] (op : SocketsOp) (this : Sockets) :
    snlBlame.Fares (fun _ _ => True) (fun failures => failures ≠ [] ∧
      (2 ≤ failures.length ∨ op.Fragile this)) (perform op this) := by
  by_cases haccept : ∃ i, op = .server i .accept
  · obtain ⟨i, rfl⟩ := haccept
    have hserver : snlBlame.Fares (fun _ _ => True) (fun failures => failures ≠ [] ∧
        (2 ≤ failures.length ∨ SocketsOp.Fragile this (.server i .accept)))
        (onServer i ServerSocket.accept this) := by
      unfold onServer
      split
      · rename_i fsm h
        refine fares_map ((ServerSocket.accept_fares fsm).mono (fun _ _ => id) fun _ hx => ?_)
        exact ⟨hx.1, hx.2.imp_right fun ha => ⟨fsm, h, ha⟩⟩
      · exact fares_halt (by simp)
    refine fares_bind hserver ?_
    rintro ⟨_ | _, _⟩ _ _ <;> exact fares_done trivial
  by_cases hassign : ∃ lhs rhs, op = .moveAssign lhs rhs
  · obtain ⟨lhs, rhs, rfl⟩ := hassign
    show snlBlame.Fares _ _ (moveAssign lhs rhs this)
    unfold moveAssign
    split
    · exact fares_halt (by simp)
    rename_i hne
    split
    · rename_i old sock hold hsock
      split
      · rename_i hclass
        refine fares_map (old.destroy_fares.mono (fun _ _ _ => trivial) fun _ hx => ?_)
        exact ⟨hx.1, .inr ⟨hne, old, sock, hold, hsock, hclass, hx.2⟩⟩
      · exact fares_halt (by simp)
    · exact fares_halt (by simp)
  by_cases hdestroy : ∃ i, op = .destroy i
  · obtain ⟨i, rfl⟩ := hdestroy
    show snlBlame.Fares _ _ (destroy i this)
    unfold destroy
    split
    · rename_i sock h
      refine fares_map (sock.destroy_fares.mono (fun _ _ _ => trivial) fun _ hx => ?_)
      exact ⟨hx.1, .inr ⟨sock, h, hx.2⟩⟩
    · exact fares_halt (by simp)
  · simp only [not_exists] at haccept hassign hdestroy
    refine (perform_hardy haccept hassign hdestroy this).mono (fun _ _ _ => trivial) ?_
    exact fun failures hx => ⟨ne_nil_of_two hx, .inl hx⟩

end Sockets

/-! ## One failure in the fragile operations -/

def EndedByOne {α : Type} (p : Prog Call Reply α) : Prop :=
  ∃ evs, Prog.Exec (Prog.AnyReply Call Reply) p.caught () evs (.error .terminated) () ∧
    (snlBlame.failures evs).length = 1

theorem EndedByOne.bind {α β : Type} {p : Prog Call Reply α} {f : α → Prog Call Reply β}
    (h : EndedByOne p) : EndedByOne (p.bind f) := by
  obtain ⟨evs, hx, hone⟩ := h
  exact ⟨evs, Prog.exec_caught_bind.mpr (.inl hx), hone⟩

theorem FdGuard.destroy_ends {guard : FdGuard} (h : guard.held ≠ 0) :
    EndedByOne (Method.destroy FdGuard.close guard) := by
  have hfd : guard.fd ≠ -1 := fun hfd => h (if_pos hfd)
  have hclose : Runs (Prog.AnyReply Call Reply) FdGuard.close guard ()
      [⟨(), .close guard.fd, { status := -1 }⟩] (.error (.errno "FdGuard error: " 0)) guard () := by
    unfold FdGuard.close FdGuard.closeFd
    rw [runs_self_bind, if_neg (not_not.mpr (FdGuard.isOwnableFd_iff.mpr hfd))]
    simp [runs_bind, Prog.AnyReply]
  refine ⟨_, Prog.exec_caught_bind.mpr (.inr ⟨_, (), _, [], hclose, .done _ _, rfl⟩), ?_⟩
  simp [Blame.failures, snlBlame, thrownFor]

theorem Socket.destroy_ends {sock : Socket} (h : sock.held ≠ 0) : EndedByOne sock.destroy := by
  match sock with
  | .server (some fsm) => exact @FdGuard.destroy_ends fsm.servSockFd h
  | .stream (some fsm) => exact @FdGuard.destroy_ends fsm.strSoFd h
  | .server none | .stream none => exact absurd rfl h

theorem makeSockAddr_zero [Host] : ∃ e, makeSockAddr .zero = .error e := by
  have hfamily : ssFamily .zero = 0 := by
    unfold ssFamily ofHostBytes16
    cases Host.byteOrder <;> rfl
  unfold makeSockAddr makeIpAddress makeIpImpl
  rw [hfamily]
  exact ⟨_, rfl⟩

/-- A client is accepted, its address has no family, and `close` fails. -/
theorem ServerSocket.accept_ends [Host] {this : ServerSocketFsm} (h : this.Accepts) :
    EndedByOne (ServerSocket.accept this) := by
  have hcheck : ¬ (this.fsmState ≠ .LISTENING ∧ this.fsmState ≠ .ACCEPTING) := by
    rw [← not_or]
    exact not_not.mpr h
  have haccept : Runs (Prog.AnyReply Call Reply) (ServerSocketFsm.accept {}) this ()
      [⟨(), .accept this.servSockFd.get ServerSocketFsm.clientAddrlen, { status := 3 }⟩]
      (.ok (⟨3⟩, .zero)) { this with fsmState := .ACCEPTING } () := by
    unfold ServerSocketFsm.accept ServerSocketFsm.acceptCheck
    rw [runs_self_bind, if_neg hcheck]
    simp [executeSyscall, FdGuard.reset, FdGuard.closeFd, runs_bind, runs_onLocal, Except.map,
      Prog.AnyReply]
  obtain ⟨e, he⟩ := makeSockAddr_zero
  obtain ⟨evs, hx, hone⟩ := @FdGuard.destroy_ends ⟨3⟩ (by simp [FdGuard.held])
  unfold ServerSocket.accept
  rw [bind_apply]
  refine ⟨_, Prog.exec_caught_bind.mpr (.inr ⟨_, (), _, evs, haccept, ?_, rfl⟩), ?_⟩
  · unfold unwinding
    dsimp only
    rw [he]
    show Prog.Exec _ (Prog.caught ((destroy FdGuard.close ⟨3⟩).bind fun _ => .done _)) _ _ _ _
    exact Prog.exec_caught_bind.mpr (.inl hx)
  · rw [failures_append, List.length_append, hone]
    simp [Blame.failures, snlBlame, thrownFor]

theorem Sockets.perform_ended [Host] {op : SocketsOp} {this : Sockets} (h : op.Fragile this) :
    EndedByOne (perform op this) := by
  unfold SocketsOp.Fragile at h
  split at h
  · obtain ⟨sock, hsock, hheld⟩ := h
    unfold perform destroy
    dsimp only
    rw [hsock]
    exact (Socket.destroy_ends hheld).bind
  · obtain ⟨hne, old, sock, hold, hsock, hclass, hheld⟩ := h
    unfold perform moveAssign
    dsimp only
    rw [if_neg hne, hold, hsock]
    dsimp only
    rw [if_pos hclass]
    exact (Socket.destroy_ends hheld).bind
  · obtain ⟨fsm, hfsm, haccepts⟩ := h
    unfold perform
    dsimp only
    rw [bind_apply]
    unfold onServer
    rw [hfsm]
    exact (ServerSocket.accept_ends haccepts).bind.bind
  · exact h.elim

/-- No destructor throws unless system calls failed, and one of them is enough just when a socket
that owns an fd is destroyed or assigned to, or a client is accepted. -/
theorem one_failure_ends [Host] (op : SocketsOp) (this : Sockets) :
    ¬ op.Ends this 0 ∧ (op.Ends this 1 ↔ op.Fragile this) := by
  have hends : ∀ n, op.Ends this n → n ≠ 0 ∧ (2 ≤ n ∨ op.Fragile this) := by
    rintro _ ⟨W, env, w, w', evs, hx, rfl⟩
    obtain ⟨hne, h⟩ := Sockets.perform_fares op this hx
    exact ⟨fun h0 => hne (List.eq_nil_of_length_eq_zero h0), h⟩
  refine ⟨fun h => (hends 0 h).1 rfl, fun h => (hends 1 h).2.resolve_left (by omega), fun h => ?_⟩
  obtain ⟨evs, hx, hone⟩ := Sockets.perform_ended h
  exact ⟨Unit, Prog.AnyReply Call Reply, (), (), evs, hx, hone⟩

end Snl
