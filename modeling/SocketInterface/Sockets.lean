import SocketInterface.Custody
import SocketInterface.Session

/-!
# The sockets of a program

`ServerSocket` and `StreamSocket` objects that are made, used, moved and destroyed in
any order.
-/

namespace Snl

open Method Handles

/-- The pointer to the state machine is null after a move. -/
inductive Socket where
  | server (fsmPtr : Option ServerSocketFsm)
  | stream (fsmImpl : Option StreamSocketFsm)

namespace Socket

def movedFrom : Socket → Socket
  | server _ => server none
  | stream _ => stream none

def destroy : Socket → Prog Call Reply Unit
  | server (some fsm) => Method.destroy FdGuard.close fsm.servSockFd
  | stream (some fsm) => Method.destroy FdGuard.close fsm.strSoFd
  | server none | stream none => .done ()

def SameClass : Socket → Socket → Prop
  | server _, server _ | stream _, stream _ => True
  | _, _ => False

instance : DecidableRel SameClass := fun
  | server _, server _ | stream _, stream _ => isTrue trivial
  | server _, stream _ | stream _, server _ => isFalse id

end Socket

/-- `ServerSocket::accept`. The local `guard` is empty until the state machine has a client. -/
def ServerSocket.accept [Host] : M ServerSocketFsm StreamSocketFsm := do
  let client ← ServerSocketFsm.accept {}
  unwinding FdGuard.close client.1 do
    match makeSockAddr client.2 with
    | .ok sockAddr => pure (StreamSocketFsm.accepted client.1 sockAddr)
    | .error e => raise e

/-- The sockets in the order in which they were made. A slot is empty after the destruction. -/
abbrev Sockets := List (Option Socket)

inductive SocketsOp where
  | newServer (prior : ServerSocketFsm)
  | newListening (prior : ServerSocketFsm) (sockAddr : SocketAddress) (backlog : Int)
  | newStream
  | server (i : Nat) (op : ServerOp)
  | stream (i : Nat) (op : StrSoOp)
  | moveConstruct (rhs : Nat)
  | moveAssign (lhs rhs : Nat)
  | destroy (i : Nat)

namespace Sockets

def create (sock : Socket) : M Sockets Unit := update (· ++ [some sock])

/-- A method of the `i`-th socket, a `ServerSocket` that was not moved from. -/
def onServer {α : Type} (i : Nat) (m : M ServerSocketFsm α) : M Sockets α := fun this =>
  match this[i]? with
  | some (some (.server (some fsm))) =>
    (m fsm).map fun x => (x.1, this.set i (some (.server (some x.2))))
  | _ => .halt .undefined

def onStream {α : Type} (i : Nat) (m : M StreamSocketFsm α) : M Sockets α := fun this =>
  match this[i]? with
  | some (some (.stream (some fsm))) =>
    (m fsm).map fun x => (x.1, this.set i (some (.stream (some x.2))))
  | _ => .halt .undefined

def moveConstruct (rhs : Nat) : M Sockets Unit := fun this =>
  match this[rhs]? with
  | some (some sock) => .done (.ok (), this.set rhs (some sock.movedFrom) ++ [some sock])
  | _ => .halt .undefined

/-- The state machine that the target pointed to is destroyed. -/
def moveAssign (lhs rhs : Nat) : M Sockets Unit := fun this =>
  if lhs = rhs then .halt .aborted
  else
    match this[lhs]?, this[rhs]? with
    | some (some old), some (some sock) =>
      if old.SameClass sock then
        old.destroy.map fun _ =>
          (.ok (), (this.set lhs (some sock)).set rhs (some sock.movedFrom))
      else .halt .undefined
    | _, _ => .halt .undefined

def destroy (i : Nat) : M Sockets Unit := fun this =>
  match this[i]? with
  | some (some sock) => sock.destroy.map fun _ => (.ok (), this.set i none)
  | _ => .halt .undefined

def newListening [Host] (prior : ServerSocketFsm) (sockAddr : SocketAddress) (backlog : Int) :
    M Sockets Unit := fun this =>
  (ServerSocketFsm.constructListening prior sockAddr backlog).map fun
    | .ok fsm => (.ok (), this ++ [some (.server (some fsm))])
    | .error e => (.error e, this)

def perform [Host] : SocketsOp → M Sockets Unit
  | .newServer prior => create (.server (some (.construct prior)))
  | .newListening prior sockAddr backlog => newListening prior sockAddr backlog
  | .newStream => create (.stream (some {}))
  | .server i .accept => do
    let client ← onServer i ServerSocket.accept
    create (.stream (some client))
  | .server i op => do
    let _ ← onServer i (ServerSocketFsm.perform op)
    pure ()
  | .stream i op => do
    let _ ← onStream i (StreamSocketFsm.perform op)
    pure ()
  | .moveConstruct rhs => moveConstruct rhs
  | .moveAssign lhs rhs => moveAssign lhs rhs
  | .destroy i => destroy i

end Sockets

/-! ## What the sockets own -/

def Socket.held : Socket → Multiset Fd
  | server (some fsm) => fsm.held
  | stream (some fsm) => fsm.held
  | server none | stream none => 0

@[simp] theorem Socket.held_movedFrom (sock : Socket) : sock.movedFrom.held = 0 := by
  cases sock <;> rfl

def slotHeld (slot : Option Socket) : Multiset Fd := slot.elim 0 Socket.held

def Sockets.held (this : Sockets) : Multiset Fd := heldBy slotHeld this

def SocketsOp.target : SocketsOp → Option Nat
  | .server i _ | .stream i _ | .moveAssign i _ | .destroy i => some i
  | _ => none

def SocketsOp.held (op : SocketsOp) (this : Sockets) : Multiset Fd :=
  match op.target with
  | some i => (this[i]?).elim 0 slotHeld
  | none => 0

def SocketsOp.others (op : SocketsOp) (this : Sockets) : Multiset Fd :=
  match op.target with
  | some i => Sockets.held (this.eraseIdx i)
  | none => this.held

theorem SocketsOp.held_add_others (op : SocketsOp) (this : Sockets) :
    this.held = op.held this + op.others this := by
  unfold SocketsOp.held SocketsOp.others
  split
  · exact heldBy_split this _
  · exact (zero_add _).symm

theorem Socket.destroy_custody (sock : Socket) :
    fds.Custody sock.destroy sock.held fun _ own' => own' = 0 := by
  have hguard : ∀ guard : FdGuard,
      fds.Custody (Method.destroy FdGuard.close guard) guard.held fun _ own' => own' = 0 := by
    intro guard
    have h : fds.Custody _ (guard.held + 0) _ := custody_destroy (close_destroys guard)
    rwa [add_zero] at h
  match sock with
  | .server (some fsm) => exact hguard fsm.servSockFd
  | .stream (some fsm) => exact hguard fsm.strSoFd
  | .server none | .stream none => exact custody_done rfl

theorem ServerSocket.accept_keeps [Host] {s : ServerSocketFsm} :
    fds.Keeps ServerSocket.accept s s.held fun r s' own' =>
      own' = given StreamSocketFsm.held r + s'.held := by
  refine keeps_bind ServerSocketFsm.accept_keeps ?_ fun _ _ _ h => h
  rintro ⟨guard, storage⟩ s' _ rfl
  refine keeps_unwinding (close_destroys guard) ?_
  split
  · exact keeps_pure rfl
  · exact keeps_raise ⟨_, rfl, (zero_add _).symm⟩

namespace Sockets

variable {this : Sockets} {i : Nat}

abbrev KeepsOthers {α : Type} (m : M Sockets α) (this : Sockets) (i : Nat)
    (value : α → Multiset Fd) : Prop :=
  fds.Keeps m this ((this[i]?).elim 0 slotHeld) fun r this' own' =>
    given value r + this'.held = own' + Sockets.held (this.eraseIdx i)

theorem held_set {slot : Option Socket} (h : this[i]? = some slot) (slot' : Option Socket) :
    Sockets.held (this.set i slot') = slotHeld slot' + Sockets.held (this.eraseIdx i) :=
  heldBy_set h slot'

theorem held_append (slot : Option Socket) :
    Sockets.held (this ++ [slot]) = this.held + slotHeld slot := by
  simp [Sockets.held]

theorem onServer_keeps {α : Type} {m : M ServerSocketFsm α} {value : α → Multiset Fd}
    (hm : ∀ fsm, fds.Keeps m fsm fsm.held fun r fsm' own' => own' = given value r + fsm'.held) :
    KeepsOthers (onServer i m) this i value := by
  unfold KeepsOthers Keeps onServer
  split
  · rename_i fsm h
    rw [h]
    refine custody_bind (hm fsm) fun x own' hown => custody_done ?_
    dsimp only at hown ⊢
    rw [held_set h, hown, add_assoc]
    rfl
  · exact custody_halt (by simp)

theorem onStream_keeps {α : Type} {m : M StreamSocketFsm α}
    (hm : ∀ fsm, StreamSocketFsm.KeepsOwn m fsm) :
    KeepsOthers (onStream i m) this i (fun _ => 0) := by
  unfold KeepsOthers Keeps onStream
  split
  · rename_i fsm h
    rw [h]
    refine custody_bind (hm fsm) fun x own' hown => custody_done ?_
    dsimp only at hown ⊢
    rw [given_zero, zero_add, held_set h, hown]
    rfl
  · exact custody_halt (by simp)

theorem moveConstruct_keeps : fds.Keeps (moveConstruct i) this 0 fun _ this' own' =>
    this'.held = own' + this.held := by
  unfold Keeps moveConstruct
  split
  · rename_i sock h
    refine custody_done ?_
    have hold : this.held = sock.held + Sockets.held (this.eraseIdx i) := heldBy_eq h
    dsimp only
    rw [held_append, held_set h, zero_add, hold, add_comm]
    simp [slotHeld]
  · exact custody_halt (by simp)

theorem moveAssign_keeps {rhs : Nat} : fds.Keeps (moveAssign i rhs) this
    ((this[i]?).elim 0 slotHeld) fun _ this' own' =>
      this'.held = own' + Sockets.held (this.eraseIdx i) := by
  unfold Keeps moveAssign
  split
  · exact custody_halt (by simp)
  rename_i hne
  split
  · rename_i old sock hold hsock
    split
    · rw [hold]
      refine custody_bind old.destroy_custody fun _ own' hown => custody_done ?_
      have hsock' : (this.set i (some sock))[rhs]? = some (some sock) := by
        rw [List.getElem?_set_ne hne, hsock]
      -- the source has one guard less, the target has it now
      have htwice := @heldBy_eq _ _ slotHeld _ _ _ hsock'
      have hlhs := held_set hold (some sock)
      have hrest : Sockets.held ((this.set i (some sock)).eraseIdx rhs) =
          Sockets.held (this.eraseIdx i) := add_left_cancel (htwice.symm.trans hlhs)
      dsimp only
      rw [held_set hsock', hrest, hown]
      simp [slotHeld]
    · exact custody_halt (by simp)
  · exact custody_halt (by simp)

theorem destroy_keeps : fds.Keeps (destroy i) this ((this[i]?).elim 0 slotHeld)
    fun _ this' own' => this'.held = own' + Sockets.held (this.eraseIdx i) := by
  unfold Keeps destroy
  split
  · rename_i sock h
    rw [h]
    refine custody_bind sock.destroy_custody fun _ own' hown => custody_done ?_
    dsimp only
    rw [held_set h, hown]
    rfl
  · exact custody_halt (by simp)

variable [Host]

theorem newListening_keeps {prior : ServerSocketFsm} {sockAddr : SocketAddress} {backlog : Int} :
    fds.Keeps (newListening prior sockAddr backlog) this 0 fun _ this' own' =>
      this'.held = own' + this.held := by
  refine custody_bind ServerSocketFsm.constructListening_custody fun r own' hown => ?_
  rw [hown]
  cases r with
  | ok fsm =>
    refine custody_done ?_
    dsimp only
    rw [held_append, add_comm]
    rfl
  | error e => exact custody_done (zero_add _).symm

theorem perform_keeps (op : SocketsOp) : fds.Keeps (perform op) this (op.held this)
    fun _ this' own' => this'.held = own' + op.others this := by
  have hnew : ∀ sock : Socket, sock.held = 0 → fds.Keeps (create sock) this 0
      fun _ this' own' => this'.held = own' + this.held := by
    intro sock h
    refine keeps_update ?_
    rw [held_append, zero_add]
    simp [slotHeld, h]
  have hvalue : ∀ {α : Type} {m : M Sockets α} {i : Nat},
      KeepsOthers m this i (fun _ => 0) → fds.Keeps (do let _ ← m; pure ()) this
        ((this[i]?).elim 0 slotHeld) fun _ this' own' =>
          this'.held = own' + Sockets.held (this.eraseIdx i) := by
    intro α m i h
    refine keeps_bind h (fun _ _ _ h => keeps_pure ?_) fun _ _ _ h => ?_
    · rw [← h]
      exact (zero_add _).symm
    · rw [← h]
      exact (zero_add _).symm
  cases op with
  | newServer prior => exact hnew _ rfl
  | newListening => exact newListening_keeps
  | newStream => exact hnew _ rfl
  | server i op =>
    by_cases hop : op = .accept
    · subst hop
      refine keeps_bind (onServer_keeps fun _ => ServerSocket.accept_keeps) ?_ ?_
      · intro client this' own' h
        refine keeps_update ?_
        rw [held_append, add_comm]
        exact h
      · intro e this' own' h
        exact (zero_add _).symm.trans h
    · have hother : perform (.server i op) =
          (do let _ ← onServer i (ServerSocketFsm.perform op); pure () : M Sockets Unit) := by
        cases op <;> first | rfl | exact absurd rfl hop
      rw [hother]
      refine hvalue (onServer_keeps fun fsm => ?_)
      refine keeps_mono (ServerSocketFsm.perform_keeps hop) fun r fsm' own' h => ?_
      rw [given_zero, zero_add, h]
  | stream i op => exact hvalue (onStream_keeps fun _ => StreamSocketFsm.perform_keeps op)
  | moveConstruct => exact moveConstruct_keeps
  | moveAssign => exact moveAssign_keeps
  | destroy => exact destroy_keeps

end Sockets

end Snl
