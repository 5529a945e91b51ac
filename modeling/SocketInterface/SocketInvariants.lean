import SocketInterface.ServerRuns
import SocketInterface.SocketsRuns
import SocketInterface.StreamRuns

/-!
# Invariants of one socket among others

A property of one socket and of the files behind its fd is kept by a program over many
sockets when it is kept by the steps of that socket alone.
-/

namespace Snl

open Method Handles

/-! ## What an operation does to the sockets -/

/-- Everything an operation can do to the sockets of a program, by the socket it is for. -/
inductive Sockets.Moves [Host] (m : CloseFailure) (this : Sockets) (k : Kernel) :
    SocketsOp → List Ev → Sockets → Kernel → Prop
  | newServer {prior} : Moves m this k (.newServer prior) []
      (this ++ [some (.server (some (.construct prior)))]) k
  | newStream : Moves m this k .newStream [] (this ++ [some (.stream (some {}))]) k
  | listening {prior sockAddr backlog evs s k'} (h : Prog.Exec (Kernel.Answers m)
      (ServerSocketFsm.constructListening prior sockAddr backlog) k evs (.ok s) k') :
      Moves m this k (.newListening prior sockAddr backlog) evs
        (this ++ [some (.server (some s))]) k'
  | notListening {prior sockAddr backlog evs e k'} (h : Prog.Exec (Kernel.Answers m)
      (ServerSocketFsm.constructListening prior sockAddr backlog) k evs (.error e) k') :
      Moves m this k (.newListening prior sockAddr backlog) evs this k'
  | server {i op s s' evs r k'} (hi : this[i]? = some (some (.server (some s))))
      (hop : op ≠ .accept)
      (h : Runs (Kernel.Answers m) (ServerSocketFsm.perform op) s k evs r s' k') :
      Moves m this k (.server i op) evs (this.set i (some (.server (some s')))) k'
  | accepted {i s s' evs client k'} (hi : this[i]? = some (some (.server (some s))))
      (h : Runs (Kernel.Answers m) ServerSocket.accept s k evs (.ok client) s' k') :
      Moves m this k (.server i .accept) evs
        (this.set i (some (.server (some s'))) ++ [some (.stream (some client))]) k'
  | notAccepted {i s s' evs e k'} (hi : this[i]? = some (some (.server (some s))))
      (h : Runs (Kernel.Answers m) ServerSocket.accept s k evs (.error e) s' k') :
      Moves m this k (.server i .accept) evs (this.set i (some (.server (some s')))) k'
  | stream {i op s s' evs r k'} (hi : this[i]? = some (some (.stream (some s))))
      (h : Runs (Kernel.Answers m) (StreamSocketFsm.perform op) s k evs r s' k') :
      Moves m this k (.stream i op) evs (this.set i (some (.stream (some s')))) k'
  | moved {rhs sock} (hi : this[rhs]? = some (some sock)) :
      Moves m this k (.moveConstruct rhs) []
        (this.set rhs (some sock.movedFrom) ++ [some sock]) k
  | assigned {lhs rhs old sock evs k'} (hne : lhs ≠ rhs) (hl : this[lhs]? = some (some old))
      (hr : this[rhs]? = some (some sock))
      (h : Prog.Exec (Kernel.Answers m) old.destroy k evs () k') :
      Moves m this k (.moveAssign lhs rhs) evs
        ((this.set lhs (some sock)).set rhs (some sock.movedFrom)) k'
  | destroyed {i sock evs k'} (hi : this[i]? = some (some sock))
      (h : Prog.Exec (Kernel.Answers m) sock.destroy k evs () k') :
      Moves m this k (.destroy i) evs (this.set i none) k'

namespace Sockets

variable {m : CloseFailure} {this this' : Sockets} {k k' : Kernel} {evs : List Ev} {i : Nat}

theorem onServer_runs {α : Type} {f : M ServerSocketFsm α} {r : Except SnlException α}
    (h : Runs (Kernel.Answers m) (onServer i f) this k evs r this' k') :
    ∃ s s', this[i]? = some (some (.server (some s))) ∧
      Runs (Kernel.Answers m) f s k evs r s' k' ∧
      this' = this.set i (some (.server (some s'))) := by
  unfold Runs onServer at h
  split at h
  · rename_i s hi
    obtain ⟨⟨r0, s'⟩, hx, heq⟩ := Prog.exec_map.mp h
    cases heq
    exact ⟨s, s', hi, hx, rfl⟩
  · exact absurd h Prog.exec_halt

theorem onStream_runs {α : Type} {f : M StreamSocketFsm α} {r : Except SnlException α}
    (h : Runs (Kernel.Answers m) (onStream i f) this k evs r this' k') :
    ∃ s s', this[i]? = some (some (.stream (some s))) ∧
      Runs (Kernel.Answers m) f s k evs r s' k' ∧
      this' = this.set i (some (.stream (some s'))) := by
  unfold Runs onStream at h
  split at h
  · rename_i s hi
    obtain ⟨⟨r0, s'⟩, hx, heq⟩ := Prog.exec_map.mp h
    cases heq
    exact ⟨s, s', hi, hx, rfl⟩
  · exact absurd h Prog.exec_halt

variable [Host]

theorem perform_moves {op : SocketsOp} {r : Except SnlException Unit}
    (h : Runs (Kernel.Answers m) (perform op) this k evs r this' k') :
    Moves m this k op evs this' k' := by
  cases op with
  | newServer prior =>
    obtain ⟨rfl, -, rfl, rfl⟩ := runs_update.mp h
    exact .newServer
  | newListening prior sockAddr backlog =>
    unfold perform Runs newListening at h
    obtain ⟨s | e, hx, heq⟩ := Prog.exec_map.mp h <;> cases heq
    · exact .notListening hx
    · exact .listening hx
  | newStream =>
    obtain ⟨rfl, -, rfl, rfl⟩ := runs_update.mp h
    exact .newStream
  | server i op =>
    by_cases hop : op = .accept
    · subst hop
      rcases runs_bind.mp h with ⟨e, -, hx⟩ | ⟨client, this1, k1, evs1, _, hx, hu, rfl⟩
      · obtain ⟨s, s', hi, hrun, rfl⟩ := onServer_runs hx
        exact .notAccepted hi hrun
      · obtain ⟨s, s', hi, hrun, rfl⟩ := onServer_runs hx
        obtain ⟨rfl, -, rfl, rfl⟩ := runs_update.mp hu
        rw [List.append_nil]
        exact .accepted hi hrun
    · have hother : perform (.server i op) =
          (do let _ ← onServer i (ServerSocketFsm.perform op); pure () : M Sockets Unit) := by
        cases op <;> first | rfl | exact absurd rfl hop
      rw [hother] at h
      obtain ⟨r0, hx, -⟩ := runs_bind_pure.mp h
      obtain ⟨s, s', hi, hrun, rfl⟩ := onServer_runs hx
      exact .server hi hop hrun
  | stream i op =>
    obtain ⟨r0, hx, -⟩ := runs_bind_pure.mp h
    obtain ⟨s, s', hi, hrun, rfl⟩ := onStream_runs hx
    exact .stream hi hrun
  | moveConstruct rhs =>
    change Runs _ (moveConstruct rhs) this k evs r this' k' at h
    unfold Runs moveConstruct at h
    split at h
    · obtain ⟨rfl, heq, rfl⟩ := Prog.exec_done.mp h
      cases heq
      exact .moved ‹_›
    · exact absurd h Prog.exec_halt
  | moveAssign lhs rhs =>
    change Runs _ (moveAssign lhs rhs) this k evs r this' k' at h
    unfold Runs moveAssign at h
    split at h
    · exact absurd h Prog.exec_halt
    split at h
    · split at h
      · obtain ⟨_, hx, heq⟩ := Prog.exec_map.mp h
        cases heq
        exact .assigned ‹_› ‹_› ‹_› hx
      · exact absurd h Prog.exec_halt
    · exact absurd h Prog.exec_halt
  | destroy i =>
    change Runs _ (destroy i) this k evs r this' k' at h
    unfold Runs destroy at h
    split at h
    · obtain ⟨_, hx, heq⟩ := Prog.exec_map.mp h
      cases heq
      exact .destroyed ‹_› hx
    · exact absurd h Prog.exec_halt

end Sockets

/-! ## What `accept` does to its server and to the client -/

section

variable [Host] {s s' : ServerSocketFsm} {k k' : Kernel} {evs : List Ev}

omit [Host] in
theorem Fresh.ne_of_open {fd fd' : Fd} {f : OpenFile} (hn : Fresh k fd)
    (hopen : k.files fd' = some f) : fd' ≠ fd := by
  rintro rfl
  rw [hn.2] at hopen
  simp at hopen

theorem nameClient_runs {client : FdGuard × SockaddrStorage}
    {r : Except SnlException StreamSocketFsm}
    (h : Runs (Kernel.Answers .never) (match makeSockAddr client.2 with
      | .ok sockAddr => pure (StreamSocketFsm.accepted client.1 sockAddr)
      | .error e => raise e) s k evs r s' k') :
    s' = s ∧ k' = k ∧ ((∃ e, r = .error e) ∨
      ∃ sockAddr, makeSockAddr client.2 = .ok sockAddr ∧
        r = .ok (.accepted client.1 sockAddr)) := by
  split at h
  · rename_i sockAddr hsock
    obtain ⟨-, rfl, rfl, rfl⟩ := runs_pure.mp h
    exact ⟨rfl, rfl, .inr ⟨sockAddr, hsock, rfl⟩⟩
  · obtain ⟨-, rfl, rfl, rfl⟩ := runs_raise.mp h
    exact ⟨rfl, rfl, .inl ⟨_, rfl⟩⟩

omit [Host] in
theorem Fresh.ne_none {fd : Fd} (hn : Fresh k fd) : fd ≠ -1 := by
  rintro rfl
  exact absurd hn.1 (by decide)

/-- The server makes its step. A client that it cannot name is closed again, and is not its fd. -/
theorem serverAccept_cases {r : Except SnlException StreamSocketFsm}
    (h : Runs (Kernel.Answers .never) ServerSocket.accept s k evs r s' k') :
    ∃ r1 evs1 k1, ServerSocketFsm.Step .never s k .accept evs1 r1 s' k1 ∧
      k1.initFlags = k.initFlags ∧ (∀ fd ∈ s'.held, k'.files fd = k1.files fd) ∧
      ∀ client, r = .ok client → ∃ fd f storage addrlen sockAddr,
        client = .accepted ⟨fd⟩ sockAddr ∧ k'.files fd = some f ∧
        f.peer = some (storage, addrlen) ∧ makeSockAddr storage = .ok sockAddr := by
  unfold ServerSocket.accept at h
  rcases runs_bind.mp h with ⟨e, rfl, hx⟩ | ⟨client, s1, k1, evs1, evs2, hx, hu, rfl⟩
  · exact ⟨_, _, _, ServerSocketFsm.accept_step hx, (exec_mono hx).2, fun _ _ => rfl, by simp⟩
  have hstep : ServerSocketFsm.Step .never s k .accept evs1 (.ok (.client client.1 client.2)) s1
      k1 := ServerSocketFsm.accept_step hx
  obtain ⟨rep, f, hopen, hn, hclient, rfl, rfl⟩ : ∃ (rep : Reply) (f : OpenFile),
      k.files s.servSockFd.fd = some f ∧ Fresh k rep.status ∧
      client = (⟨rep.status⟩, rep.sockaddr) ∧ s1 = { s with fsmState := .ACCEPTING } ∧
      k1 = k.opened rep.status (some (rep.sockaddr, ServerSocketFsm.clientAddrlen)) := by
    generalize hv : ServerValue.client client.1 client.2 = v at hstep
    cases hstep with
    | returned h => exact absurd (hv ▸ h) (by simp [ServerSocketFsm.Returns])
    | accepted _ hopen hn => exact ⟨_, _, hopen, hn, by simpa [Prod.ext_iff] using hv, rfl, rfl⟩
  rcases runs_unwinding.mp hu with ⟨a, rfl, hbody⟩ | ⟨e, g', k2, _, _, rfl, hbody, hc, -⟩
  · obtain ⟨rfl, rfl, ⟨e, he⟩ | ⟨sockAddr, hsock, ha⟩⟩ := nameClient_runs hbody
    · simp at he
    · refine ⟨_, _, _, hstep, (exec_mono hx).2, fun _ _ => rfl, ?_⟩
      rintro _ ⟨⟩
      rw [hclient] at hsock ha
      exact ⟨_, _, _, _, _, Except.ok.inj ha, Function.update_self .., rfl, hsock⟩
  · obtain ⟨rfl, rfl, -⟩ := nameClient_runs hbody
    rw [hclient] at hc
    obtain ⟨rfl, -⟩ := close_owned hc hn.ne_none
    refine ⟨_, _, _, hstep, (exec_mono hx).2, fun fd hheld => ?_, by simp⟩
    obtain rfl := (FdGuard.mem_held.mp hheld).1
    rw [Kernel.setFile_files, Function.update_of_ne (hn.ne_of_open hopen)]

end

/-! ## From one socket to all of them -/

def Socket.Idle : Socket → Prop
  | server (some fsm) => fsm.fsmState = .INIT → fsm.servSockFd.fd = -1
  | stream (some fsm) => fsm.Idle
  | server none | stream none => True

/-- A property of one socket and of the files behind its fd, kept by each step of the socket. -/
structure SocketInvariant [Host] (Start : ServerSocketFsm → Prop) (P : Socket → Kernel → Prop) :
    Prop where
  frame : ∀ {sock k k'}, k'.initFlags = k.initFlags →
    (∀ fd ∈ sock.held, k'.files fd = k.files fd) → P sock k → P sock k'
  movedFrom : ∀ sock k, P (Socket.movedFrom sock) k
  newServer : ∀ {prior k}, Start prior → P (.server (some (.construct prior))) k
  newStream : ∀ k, P (.stream (some {})) k
  client : ∀ {k fd f storage addrlen sockAddr}, k.files fd = some f →
    f.peer = some (storage, addrlen) → makeSockAddr storage = .ok sockAddr →
    P (.stream (some (.accepted ⟨fd⟩ sockAddr))) k
  server : ∀ {op s k evs r s' k'}, Socket.Idle (.server (some s)) → P (.server (some s)) k →
    k'.initFlags = k.initFlags → ServerSocketFsm.Step .never s k op evs r s' k' →
    P (.server (some s')) k'
  stream : ∀ {op s k evs r s' k'}, Socket.Idle (.stream (some s)) → P (.stream (some s)) k →
    k'.initFlags = k.initFlags → StreamSocketFsm.Step .never s k op evs r s' k' →
    P (.stream (some s')) k'

def SocketsOp.Starts (Start : ServerSocketFsm → Prop) : SocketsOp → Prop
  | .newServer prior | .newListening prior .. => Start prior
  | _ => True

namespace SocketInvariant

variable [Host] {Start : ServerSocketFsm → Prop} {P : Socket → Kernel → Prop} {k k' : Kernel}
  {evs : List Ev}

theorem idle : SocketInvariant (fun _ => True) (fun sock _ => sock.Idle) where
  frame _ _ h := h
  movedFrom sock _ := by cases sock <;> trivial
  newServer _ _ := rfl
  newStream _ := ⟨fun _ => rfl, rfl⟩
  client _ _ _ := ⟨by simp [StreamSocketFsm.accepted], rfl⟩
  server h _ _ hs := ServerSocketFsm.step_idle hs h
  stream h _ _ hs := StreamSocketFsm.step_idle hs h

def Kept (P : Socket → Kernel → Prop) (k : Kernel) (sock : Socket) : Prop := sock.Idle ∧ P sock k

section

variable (hP : SocketInvariant Start P)

include hP

theorem kept_frame {sock : Socket} (hinit : k'.initFlags = k.initFlags)
    (hfiles : ∀ fd ∈ sock.held, k'.files fd = k.files fd) (h : Kept P k sock) : Kept P k' sock :=
  ⟨h.1, hP.frame hinit hfiles h.2⟩

theorem kept_movedFrom (sock : Socket) : Kept P k sock.movedFrom :=
  ⟨idle.movedFrom sock k, hP.movedFrom sock k⟩

theorem kept_server {op : ServerOp} {s s' : ServerSocketFsm} {r : Except SnlException ServerValue}
    (h : Kept P k (.server (some s))) (hinit : k'.initFlags = k.initFlags)
    (hstep : ServerSocketFsm.Step .never s k op evs r s' k') : Kept P k' (.server (some s')) :=
  ⟨ServerSocketFsm.step_idle hstep h.1, hP.server h.1 h.2 hinit hstep⟩

theorem kept_stream {op : StrSoOp} {s s' : StreamSocketFsm} {r : Except SnlException StrSoValue}
    (h : Kept P k (.stream (some s))) (hinit : k'.initFlags = k.initFlags)
    (hstep : StreamSocketFsm.Step .never s k op evs r s' k') : Kept P k' (.stream (some s')) :=
  ⟨StreamSocketFsm.step_idle hstep h.1, hP.stream h.1 h.2 hinit hstep⟩

theorem kept_construct {prior : ServerSocketFsm} (h : Start prior) :
    Kept P k (.server (some (.construct prior))) :=
  ⟨fun _ => rfl, hP.newServer h⟩

theorem kept_newStream : Kept P k (.stream (some {})) := ⟨idle.newStream k, hP.newStream k⟩

theorem kept_constructListening {prior s : ServerSocketFsm} {sockAddr : SocketAddress}
    {backlog : Int} (hstart : Start prior) (h : Prog.Exec (Kernel.Answers .never)
      (ServerSocketFsm.constructListening prior sockAddr backlog) k evs (.ok s) k') :
    Kept P k' (.server (some s)) := by
  unfold ServerSocketFsm.constructListening at h
  obtain ⟨⟨r0, this⟩, k1, _, _, hbody, hend, rfl⟩ := Prog.exec_bind.mp h
  cases r0 with
  | error e =>
    obtain ⟨_, _, _, _, -, hdone, -⟩ := Prog.exec_bind.mp hend
    simp at hdone
  | ok =>
    obtain ⟨-, heq, rfl⟩ := Prog.exec_done.mp hend
    cases heq
    rcases runs_bind.mp hbody with ⟨e, he, -⟩ | ⟨_, s1, k2, _, _, hb, hl, rfl⟩
    · simp at he
    · have hbound := hP.kept_server (hP.kept_construct hstart) (exec_mono hb).2
        (ServerSocketFsm.bind_step (fun _ => rfl) hb)
      exact hP.kept_server hbound (exec_mono hl).2 (ServerSocketFsm.listen_step hl)

theorem kept_accept {s s' : ServerSocketFsm} {r : Except SnlException StreamSocketFsm}
    (hs : Kept P k (.server (some s)))
    (h : Runs (Kernel.Answers .never) ServerSocket.accept s k evs r s' k') :
    Kept P k' (.server (some s')) ∧
      ∀ client, r = .ok client → Kept P k' (.stream (some client)) := by
  obtain ⟨r1, evs1, k1, hstep, hinit, hfiles, hclient⟩ := serverAccept_cases h
  constructor
  · have hk1 := hP.kept_server hs hinit hstep
    exact hP.kept_frame ((exec_mono h).2.trans hinit.symm) hfiles hk1
  · intro client hr
    obtain ⟨fd, f, storage, addrlen, sockAddr, rfl, hf, hpeer, hsock⟩ := hclient client hr
    exact ⟨idle.client hf hpeer hsock, hP.client hf hpeer hsock⟩

end

end SocketInvariant

def AllSockets (Q : Socket → Prop) (this : Sockets) : Prop :=
  ∀ (j : Nat) (sock : Socket), this[j]? = some (some sock) → Q sock

section

variable {Q : Socket → Prop} {this : Sockets} {i : Nat} {slot : Option Socket}

theorem all_append (h : AllSockets Q this) (hslot : ∀ sock, slot = some sock → Q sock) :
    AllSockets Q (this ++ [slot]) := by
  intro j sock hj
  rw [List.getElem?_append] at hj
  split at hj
  · exact h j sock hj
  · obtain rfl := List.mem_singleton.mp (List.mem_of_getElem? hj)
    exact hslot sock rfl

theorem all_set (h : ∀ (j : Nat) (sock : Socket), j ≠ i → this[j]? = some (some sock) → Q sock)
    (hslot : ∀ sock, slot = some sock → Q sock) : AllSockets Q (this.set i slot) := by
  intro j sock hj
  by_cases hji : j = i
  · subst hji
    rw [List.getElem?_set, if_pos rfl, Option.ite_none_right_eq_some] at hj
    exact hslot sock (Option.some.inj hj.2)
  · rw [List.getElem?_set_ne (Ne.symm hji)] at hj
    exact h j sock hji hj

end

section

variable [Host] {c0 c c' : SocketsConfig} {l : Label SocketsOp Unit} {t : List SocketsMove}
  {Start : ServerSocketFsm → Prop} {P : Socket → Kernel → Prop}

theorem step_frame (ho : fds.Owns c.kernel c.fsm.held) (h : SocketsStep c l c') {j : Nat}
    {sock : Socket} (hj : c.fsm[j]? = some (some sock)) (hne : l.op.target ≠ some j) :
    ∀ fd ∈ sock.held, c'.kernel.files fd = c.kernel.files fd := by
  intro fd hfd
  obtain ⟨⟨own', hover⟩, -⟩ := step_handover ho h
  have hown : OwnsFd c.fsm j fd := ⟨sock, hj, hfd⟩
  have hnot : fd ∉ l.op.held c.fsm := by
    intro hmem
    obtain ⟨i, hi, hown'⟩ := SocketsOp.mem_held hmem
    exact hne (hown'.unique ho.nodup hown ▸ hi)
  exact (hover.others fd hnot (ho.out fd (mem_held.mpr ⟨j, hown⟩))).2

theorem SocketInvariant.step (hP : SocketInvariant Start P) (ho : fds.Owns c.kernel c.fsm.held)
    (hstart : l.op.Starts Start) (hall : AllSockets (Kept P c.kernel) c.fsm)
    (h : SocketsStep c l c') : AllSockets (Kept P c'.kernel) c'.fsm := by
  have hkept : ∀ j sock, l.op.target ≠ some j → c.fsm[j]? = some (some sock) →
      Kept P c'.kernel sock := fun j sock hne hj =>
    hP.kept_frame (exec_mono h).2 (step_frame ho h hj hne) (hall j sock hj)
  have hmoves := Sockets.perform_moves h
  obtain ⟨this, k⟩ := c
  obtain ⟨op, evs, r⟩ := l
  obtain ⟨this', k'⟩ := c'
  dsimp only at hmoves hall hkept hstart ⊢
  have hothers : ∀ i, op.target = some i → ∀ j sock, j ≠ i → this[j]? = some (some sock) →
      Kept P k' sock := fun i hi j sock hne =>
    hkept j sock (by rw [hi, ne_eq, Option.some.injEq]; exact Ne.symm hne)
  cases hmoves with
  | newServer => exact all_append hall (by rintro _ ⟨⟩; exact hP.kept_construct hstart)
  | newStream => exact all_append hall (by rintro _ ⟨⟩; exact hP.kept_newStream)
  | listening hx =>
    refine all_append (fun j sock => hkept j sock (by simp [SocketsOp.target])) ?_
    rintro _ ⟨⟩
    exact hP.kept_constructListening hstart hx
  | notListening => exact fun j sock => hkept j sock (by simp [SocketsOp.target])
  | server hi hop hx =>
    have hbefore := hall _ _ hi
    refine all_set (hothers _ rfl) ?_
    rintro _ ⟨⟩
    exact hP.kept_server hbefore (exec_mono hx).2 (ServerSocketFsm.perform_step hbefore.1 hx)
  | accepted hi hx =>
    obtain ⟨hserver, hclient⟩ := hP.kept_accept (hall _ _ hi) hx
    refine all_append (all_set (hothers _ rfl) ?_) ?_
    · rintro _ ⟨⟩
      exact hserver
    · rintro _ ⟨⟩
      exact hclient _ rfl
  | notAccepted hi hx =>
    refine all_set (hothers _ rfl) ?_
    rintro _ ⟨⟩
    exact (hP.kept_accept (hall _ _ hi) hx).1
  | stream hi hx =>
    have hbefore := hall _ _ hi
    refine all_set (hothers _ rfl) ?_
    rintro _ ⟨⟩
    exact hP.kept_stream hbefore (exec_mono hx).2 (StreamSocketFsm.perform_step hbefore.1.1 hx)
  | moved hi =>
    refine all_append (all_set (fun j sock _ => hall j sock) ?_) ?_
    · rintro _ ⟨⟩
      exact hP.kept_movedFrom _
    · rintro _ ⟨⟩
      exact hall _ _ hi
  | @assigned lhs rhs old sock _ _ hne hl hr hx =>
    refine all_set (fun j x hj hx => ?_) ?_
    · have hlhs : AllSockets (Kept P k') (this.set lhs (some sock)) := by
        refine all_set (hothers lhs rfl) ?_
        rintro _ ⟨⟩
        exact hothers lhs rfl rhs sock (Ne.symm hne) hr
      exact hlhs j x hx
    · rintro _ ⟨⟩
      exact hP.kept_movedFrom _
  | destroyed hi hx => exact all_set (hothers _ rfl) (by simp)

end

end Snl
