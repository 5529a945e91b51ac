import SocketInterface.ServerRuns

/-! # Operations of `ServerSocketFsm` that throw -/

namespace Snl

open Method

/-! ## `accept` by reference -/

/-- `accept` with `clientFd` and `clientSockaddr` as the caller sees them, also after a throw. -/
def ServerSocketFsm.acceptInto : M (ServerSocketFsm × FdGuard × SockaddrStorage) Unit := do
  let this ← self
  acceptCheck this.1.fsmState
  let reply ← executeSyscall (.accept this.1.servSockFd.get clientAddrlen) (-1)
  -- the kernel writes the address of the client when it accepts
  update fun this => (this.1, this.2.1, reply.sockaddr)
  zoom (·.2.1) (fun clientFd this => (this.1, clientFd, this.2.2)) (FdGuard.reset reply.status)
  update fun this => ({ this.1 with fsmState := .ACCEPTING }, this.2)

section

variable {m : CloseFailure} {s s' : ServerSocketFsm} {guard : FdGuard} {storage : SockaddrStorage}
  {x' : ServerSocketFsm × FdGuard × SockaddrStorage} {k k' : Kernel} {evs : List Ev}

theorem acceptInto_accept {r : Except SnlException Unit}
    (h : Runs (Kernel.Answers m) ServerSocketFsm.acceptInto (s, guard, storage) k evs r x' k') :
    Runs (Kernel.Answers m) (ServerSocketFsm.accept guard) s k evs (r.map fun _ => x'.2) x'.1 k' := by
  unfold ServerSocketFsm.acceptInto ServerSocketFsm.acceptCheck at h
  unfold ServerSocketFsm.accept ServerSocketFsm.acceptCheck
  rw [runs_self_bind, runs_check_bind] at h ⊢
  rcases h with ⟨hs, rfl, rfl, rfl, rfl⟩ | ⟨hs, h⟩
  · exact .inl ⟨hs, rfl, rfl, rfl, rfl⟩
  refine .inr ⟨hs, ?_⟩
  rcases runs_bind.mp h with ⟨e, rfl, hx⟩ | ⟨reply, _, k1, _, _, hx, hrest, rfl⟩
  · obtain ⟨rfl, hcall⟩ := executeSyscall_runs.mp hx
    obtain ⟨rep, ha, rfl, ⟨hrep, he⟩ | ⟨-, he⟩⟩ := hcall
    · exact runs_bind.mpr (.inl ⟨e, rfl, executeSyscall_runs.mpr
        ⟨rfl, rep, ha, rfl, .inl ⟨hrep, he⟩⟩⟩)
    · cases he
  · obtain ⟨rfl, rep, ha, rfl, hr⟩ := executeSyscall_runs.mp hx
    obtain ⟨hrep, rfl⟩ : rep.status ≠ -1 ∧ reply = rep := by simpa using hr
    refine runs_bind.mpr (.inr ⟨reply, s, k1, _, _, executeSyscall_runs.mpr
      ⟨rfl, reply, ha, rfl, .inr ⟨hrep, rfl⟩⟩, ?_, rfl⟩)
    rw [runs_update_bind] at hrest
    rcases runs_bind.mp hrest with ⟨e, rfl, hreset⟩ | ⟨_, _, k2, evs2, evs3, hreset, hu, rfl⟩
    · obtain ⟨g, hg, rfl⟩ := runs_zoom.mp hreset
      exact runs_bind.mpr (.inl ⟨e, rfl, runs_onLocal.mpr ⟨rfl, _, g, hg, rfl⟩⟩)
    · obtain ⟨g, hg, rfl⟩ := runs_zoom.mp hreset
      obtain ⟨rfl, rfl, rfl, rfl⟩ := runs_update.mp hu
      refine runs_bind.mpr (.inr ⟨g, s, k', evs2, [], runs_onLocal.mpr ⟨rfl, _, g, hg, rfl⟩, ?_, rfl⟩)
      rw [runs_update_bind, runs_pure]
      exact ⟨rfl, rfl, rfl, rfl⟩

theorem acceptInto_threw {e : SnlException}
    (h : Runs (Kernel.Answers m) ServerSocketFsm.acceptInto (s, {}, storage) k evs (.error e) x' k') :
    x' = (s, {}, storage) := by
  unfold ServerSocketFsm.acceptInto ServerSocketFsm.acceptCheck at h
  rw [runs_self_bind, runs_check_bind] at h
  rcases h with ⟨-, -, -, rfl, -⟩ | ⟨-, h⟩
  · rfl
  rcases runs_bind.mp h with ⟨e, -, hx⟩ | ⟨reply, _, k1, _, _, hx, hrest, -⟩
  · exact (executeSyscall_threw (by simp) hx).1
  · obtain ⟨rfl, hs, -⟩ := executeSyscall_returned hx
    rw [runs_update_bind] at hrest
    -- the reset of an empty guard closes nothing: it does not throw
    rcases runs_bind.mp hrest with ⟨e, -, hreset⟩ | ⟨_, _, _, _, _, -, hu, -⟩
    · obtain ⟨g, hg, -⟩ := runs_zoom.mp hreset
      obtain ⟨-, h, -⟩ := resetEmpty_runs hs hg
      simp at h
    · simp at hu

end

/-! ## Failures -/

/-- Nothing is different: the object with its fd, and the files of the kernel with their flags. -/
structure Untouched (c : ServerConfig) (s' : ServerSocketFsm) (k' : Kernel) : Prop where
  fsm : s' = c.fsm
  files : k'.files = c.kernel.files

section

variable [Host] {m : CloseFailure} {s s' : ServerSocketFsm} {k k' : Kernel} {op : ServerOp}
  {evs : List Ev} {c0 c c' : ServerConfig} {l : ServerLabel} {t : List ServerMove}

theorem step_threw {e : SnlException} (hm : m ≠ .frees)
    (h : ServerSocketFsm.Step m s k op evs (.error e) s' k') :
    s' = s ∧ k'.files = k.files := by
  cases h with
  | refused | failed => exact ⟨rfl, rfl⟩
  | bindFailed _ _ _ hk => exact ⟨rfl, hk⟩
  | closeFailed _ hk => exact ⟨rfl, by rw [hk.unchanged hm]⟩

/-! ## The two-argument constructor -/

def ListensOrThrows (sockAddr : SocketAddress) (backlog : Int) (k : Kernel)
    (r : Except SnlException ServerSocketFsm) (k' : Kernel) : Prop :=
  (∃ s f, r = .ok s ∧ s.fsmState = .LISTENING ∧ s.socketAddr = sockAddr ∧
    s.backlog = backlog ∧ k'.files s.servSockFd.fd = some f ∧ f.listening = true) ∨
  ((∃ e, r = .error e) ∧ k'.files = k.files)

theorem constructListening_cases (hm : m ≠ .frees) {prior : ServerSocketFsm}
    {sockAddr : SocketAddress} {backlog : Int} {r : Except SnlException ServerSocketFsm}
    (h : Prog.Exec (Kernel.Answers m)
      (ServerSocketFsm.constructListening prior sockAddr backlog) k evs r k') :
    ListensOrThrows sockAddr backlog k r k' := by
  unfold ServerSocketFsm.constructListening at h
  obtain ⟨⟨r0, this⟩, k1, evs1, evs2, hbody, hend, rfl⟩ := Prog.exec_bind.mp h
  rcases runs_bind.mp hbody with ⟨e, rfl, hb⟩ | ⟨_, s1, k2, _, _, hb, hl, rfl⟩
  · -- the guard is still empty: the destructor closes nothing
    obtain ⟨rfl, hk⟩ := step_threw hm (ServerSocketFsm.bind_step (fun _ => rfl) hb)
    obtain ⟨_, k2, _, _, hd, hdone, rfl⟩ := Prog.exec_bind.mp hend
    obtain ⟨-, rfl, rfl⟩ := Prog.exec_done.mp hdone
    obtain ⟨g, hclose⟩ := exec_destroy.mp hd
    obtain ⟨-, -, -, rfl⟩ := closeEmpty_runs rfl hclose
    exact .inr ⟨⟨e, rfl⟩, hk⟩
  · have hbound := ServerSocketFsm.bind_step (fun _ => rfl) hb
    cases hbound with
    | returned hr => exact hr.elim
    | @bound _ _ n _ _ _ _ hk =>
      obtain ⟨hfresh, rfl⟩ := hk
      have hlisten := ServerSocketFsm.listen_step hl
      cases r0 with
      | ok =>
        obtain ⟨-, rfl, rfl⟩ := Prog.exec_done.mp hend
        cases hlisten with
        | returned hr => exact hr.elim
        | listening => exact .inl ⟨_, _, rfl, rfl, rfl, rfl, Function.update_self .., rfl⟩
      | error e =>
        -- the destructor closes the bound fd
        obtain ⟨rfl, hk⟩ := step_threw hm hlisten
        obtain ⟨_, k3, _, _, hd, hdone, rfl⟩ := Prog.exec_bind.mp hend
        obtain ⟨-, rfl, rfl⟩ := Prog.exec_done.mp hdone
        obtain ⟨g, hclose⟩ := exec_destroy.mp hd
        have hne : n ≠ -1 := by
          have h0 := hfresh.1
          rintro rfl
          simp at h0
        obtain ⟨rfl, -⟩ := close_owned hclose hne
        refine .inr ⟨⟨e, rfl⟩, ?_⟩
        funext fd
        by_cases hfd : fd = n
        · simp [hfd, hfresh.2]
        · simp [hfd, hk]

/-! Every destructor closes an open fd, so the constructor always comes to an end. -/

omit [Host] in
theorem destroy_ends {guard : FdGuard} (h : guard.Held k) :
    Prog.Returns (Kernel.Answers .never) (fun _ _ => True) (destroy FdGuard.close guard) k :=
  returns_destroy (returns_mono (close_never_fails h) fun _ _ _ hx => ⟨hx.1, trivial⟩)

namespace ServerSocketFsm

theorem makeSockFdAndBind_ends {σ : Type} {s : σ} {sockAddr : SocketAddress} :
    Method.Returns (Kernel.Answers .never) (makeSockFdAndBind sockAddr : M σ FdGuard) s k
      fun r s' k' => s' = s ∧ ∀ guard, r = .ok guard → guard.Held k' := by
  unfold makeSockFdAndBind
  refine returns_bind makeFdGuard_ends ?_ ?_
  · rintro guard s1 k1 ⟨rfl, hguard⟩
    refine returns_bind (Q := fun r s' k' => s' = s1 ∧ (r = .ok () → guard.Held k'))
      (returns_unwinding ?_) ?_ ?_
    · refine returns_bind (executeSyscall_ends (by simp) (hguard guard rfl)) ?_ ?_
      · rintro _ _ k2 ⟨rfl, hheld⟩
        exact returns_pure ⟨rfl, fun _ => hheld⟩
      · rintro e _ k2 ⟨rfl, hheld⟩
        exact (destroy_ends hheld).mono fun _ _ _ => ⟨rfl, by simp⟩
    · rintro _ _ k2 ⟨rfl, hheld⟩
      refine returns_pure ⟨rfl, ?_⟩
      rintro _ ⟨⟩
      exact hheld rfl
    · rintro e _ _ ⟨rfl, -⟩
      exact ⟨rfl, by simp⟩
  · rintro e _ _ ⟨rfl, -⟩
    exact ⟨rfl, by simp⟩

theorem bind_ends {sockAddr : SocketAddress} (h : s.servSockFd.fd = -1) :
    Method.Returns (Kernel.Answers .never) (bind sockAddr) s k
      fun _ s' k' => s'.servSockFd.Held k' := by
  unfold bind bindCheck
  refine returns_self_bind (returns_check_bind_cases (fun _ => held_empty _ h) fun _ => ?_)
  refine returns_bind makeSockFdAndBind_ends ?_ ?_
  · rintro guard s1 k1 ⟨rfl, hguard⟩
    refine returns_withLocal (returns_bind (fcntlBlockingBehav_ends (hguard guard rfl)) ?_ ?_)
    · rintro _ _ k2 ⟨rfl, hheld⟩
      obtain ⟨addr, ⟨fd⟩, backlog, nonBlock, state⟩ := s1
      obtain rfl : fd = -1 := h
      -- the local guard gives its fd away
      exact .done (.done hheld)
    · rintro e _ k2 ⟨rfl, hheld⟩
      exact (destroy_ends hheld).mono fun _ _ _ => held_empty _ h
  · rintro e _ _ ⟨rfl, -⟩
    exact held_empty _ h

omit [Host] in
theorem listen_ends {listenBacklog : Int} (h : s.servSockFd.Held k) :
    Method.Returns (Kernel.Answers .never) (listen listenBacklog) s k
      fun _ s' k' => s'.servSockFd.Held k' := by
  unfold listen
  refine returns_self_bind ?_
  rw [listenCheck_eq]
  refine returns_check_bind_cases (fun _ => h) fun _ => ?_
  refine returns_bind (executeSyscall_ends (by simp) h) ?_ ?_
  · rintro _ _ _ ⟨rfl, hheld⟩
    exact returns_update hheld
  · rintro _ _ _ ⟨rfl, hheld⟩
    exact hheld

theorem constructListening_ends {prior : ServerSocketFsm} {sockAddr : SocketAddress}
    {backlog : Int} : Prog.Returns (Kernel.Answers .never) (fun _ _ => True)
      (constructListening prior sockAddr backlog) k := by
  have hbody : Method.Returns (Kernel.Answers .never)
      (do bind sockAddr; listen backlog : M ServerSocketFsm Unit) (construct prior) k
      fun _ s' k' => s'.servSockFd.Held k' :=
    returns_bind (bind_ends rfl) (fun _ _ _ h => listen_ends h) fun _ _ _ h => h
  refine Prog.Returns.bind hbody ?_
  rintro ⟨e | _, this⟩ k1 hheld
  · exact (destroy_ends hheld).bind fun _ _ _ => .done trivial
  · exact .done trivial

end ServerSocketFsm

/-- A server operation that throws leaves everything as it was. -/
theorem failure_leaves_server :
    (∀ {c0 c : ServerConfig} {t : List ServerMove}, ServerStart c0 →
      StepPath (ServerStep .keeps) c0 t c →
      (∀ l c' e, ServerStep .keeps c l c' → l.result = .error e → Untouched c c'.fsm c'.kernel) ∧
      ∀ storage evs e x' k', Runs (Kernel.Answers .keeps) ServerSocketFsm.acceptInto
        (c.fsm, {}, storage) c.kernel evs (.error e) x' k' →
        Untouched c x'.1 k' ∧ x'.2 = ({}, storage)) ∧
    ∀ (prior : ServerSocketFsm) (sockAddr : SocketAddress) (backlog : Int) (k : Kernel),
      Prog.Returns (Kernel.Answers .never) (ListensOrThrows sockAddr backlog k)
        (ServerSocketFsm.constructListening prior sockAddr backlog) k := by
  refine ⟨fun {c0 c t} h0 hp => ⟨?_, ?_⟩, fun prior sockAddr backlog k => ?_⟩
  · rintro ⟨op, evs, r⟩ c' e hs rfl
    have hstep := ServerSocketFsm.perform_step (h0.idle_of_path hp) hs
    obtain ⟨hfsm, hfiles⟩ := step_threw (by decide) hstep
    exact ⟨hfsm, hfiles⟩
  · intro storage evs e x' k' hx
    obtain ⟨hfsm, hfiles⟩ := step_threw (by decide)
      (ServerSocketFsm.accept_step (acceptInto_accept hx))
    refine ⟨⟨hfsm, hfiles⟩, ?_⟩
    rw [acceptInto_threw hx]
  · exact ServerSocketFsm.constructListening_ends.of_runs fun _ _ _ hx =>
      constructListening_cases (by decide) hx

end

/-- A `bind` whose mode cannot be set, an `accept` that is refused, and a constructor whose `listen`
fails. -/
theorem failure_leaves_server_threeFailures : ∃ _ : Host,
    (∃ (t : List ServerMove) (c c' : ServerConfig) (l : ServerLabel),
      StepPath (ServerStep .keeps) newServer t c ∧ ServerStep .keeps c l c' ∧
      (∃ e, l.result = .error e) ∧ l.evs.length = 5 ∧ Untouched c c'.fsm c'.kernel) ∧
    (∃ (t : List ServerMove) (c : ServerConfig) (evs : List Ev) (e : SnlException)
      (x' : ServerSocketFsm × FdGuard × SockaddrStorage) (k' : Kernel),
      StepPath (ServerStep .keeps) newServer t c ∧ c.fsm.fsmState = .LISTENING ∧
      Runs (Kernel.Answers .keeps) ServerSocketFsm.acceptInto
        (c.fsm, {}, someAddress.getSockaddrStorage) c.kernel evs (.error e) x' k' ∧
      evs.length = 1 ∧ Untouched c x'.1 k' ∧ x'.2 = ({}, someAddress.getSockaddrStorage)) ∧
    ∃ (evs : List Ev) (e : SnlException) (k' : Kernel), Prog.Exec (Kernel.Answers .never)
      (ServerSocketFsm.constructListening newServer.fsm someAddress 5) emptyKernel evs
        (.error e) k' ∧
      evs.length = 6 ∧ k'.files = emptyKernel.files := by
  let host : Host := littleHost
  refine ⟨host, ?_, ?_, ?_⟩
  · -- `F_SETFL` fails after `bind` in the second attempt, so the new fd is closed
    obtain ⟨hrun, hx⟩ := path_of_session_then (i := (.bind someAddress,
        [⟨3, 0, .zero, []⟩, okReply, okReply, failReply 9, okReply]))
      (rfl : follow (nextOp .keeps ServerSocketFsm.perform) newServer
        [(.bind someAddress, [failReply 24])] = some (_, _)) rfl
    exact ⟨_, _, _, _, hrun, hx, ⟨_, rfl⟩, rfl,
      (failure_leaves_server.1 newServer_start hrun).1 _ _ _ hx rfl⟩
  · obtain ⟨hrun, hx⟩ := runs_after_session (p := ServerSocketFsm.acceptInto)
      (f := fun fsm => (fsm, {}, someAddress.getSockaddrStorage)) (j := [failReply 11])
      (rfl : follow (nextOp .keeps ServerSocketFsm.perform) newServer
        [(.bind someAddress, setupReplies 3), (.listen 5, [okReply])] = some (_, _)) rfl
    exact ⟨_, _, _, _, _, _, hrun, rfl, hx, rfl,
      (failure_leaves_server.1 newServer_start hrun).2 _ _ _ _ _ hx⟩
  · have hx := Prog.drive_exec (rfl : Prog.drive (Kernel.answer .never)
      (ServerSocketFsm.constructListening newServer.fsm someAddress 5) emptyKernel
      (setupReplies 3 ++ [failReply 98, okReply]) = some (_, .error _, _))
    have hends := (failure_leaves_server.2 newServer.fsm someAddress 5 emptyKernel).exec hx
    obtain ⟨-, hfiles⟩ := hends.resolve_left (by simp)
    exact ⟨_, _, _, hx, rfl, hfiles⟩

end Snl
