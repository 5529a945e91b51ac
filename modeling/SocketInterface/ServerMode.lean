import SocketInterface.ServerRuns

/-!
# The I/O mode of `ServerSocketFsm`

The mode that was asked for, the one that the state machine has, and the flag of its fd.
-/

namespace Snl

theorem blockingFlags_again (flags : BitVec 32) (a b : Bool) :
    blockingFlags (blockingFlags flags a) b = blockingFlags flags b := by
  refine BitVec.eq_of_getLsbD_eq fun i hi => ?_
  rw [blockingFlags_bit _ _ _ hi, blockingFlags_bit _ _ _ hi, blockingFlags_bit _ _ _ hi]
  split
  · rfl
  · rfl

def modeAfter (mode : Bool) (x : ServerMove) : Bool :=
  match x.label.op, x.label.result with
  | ServerOp.setNonBlockIO nonBlockVal, .ok _ => nonBlockVal
  | .reset, _ => false
  | _, _ => mode

/-- The argument of the last successful `setNonBlockIO`, since the last `reset`. -/
def lastServerMode (t : List ServerMove) : Bool := t.foldl modeAfter false

@[simp] theorem lastServerMode_nil : lastServerMode [] = false := rfl

@[simp] theorem lastServerMode_snoc (t : List ServerMove) (x : ServerMove) :
    lastServerMode (t ++ [x]) = modeAfter (lastServerMode t) x := by simp [lastServerMode]

/-- The state machine has the mode that was asked for, its fd too, and the other flags of the fd are
those it was made with. -/
structure ModeAgrees (c0 : ServerConfig) (t : List ServerMove) (c : ServerConfig) : Prop where
  stored : c.fsm.getNonBlockIO = lastServerMode t
  flag : c.fsm.servSockFd.ownsFd = true → ∃ f, c.kernel.files c.fsm.servSockFd.fd = some f ∧
    f.nonBlock = c.fsm.getNonBlockIO ∧
    ∀ i < 32, i ≠ 11 → f.flags.getLsbD i = (c0.kernel.initFlags f.serial).getLsbD i

def HasMode (init : Nat → BitVec 32) (fsm : ServerSocketFsm) (k : Kernel) : Prop :=
  fsm.servSockFd.fd = -1 ∨ ∃ f, k.files fsm.servSockFd.fd = some f ∧
    f.flags = blockingFlags (init f.serial) fsm.nonBlockingIo

structure ServerModeInv (c0 : ServerConfig) (t : List ServerMove) (c : ServerConfig) : Prop where
  wf : c.kernel.Wf
  idle : c.fsm.fsmState = .INIT → c.fsm.servSockFd.fd = -1
  made : c.kernel.initFlags = c0.kernel.initFlags
  stored : c.fsm.nonBlockingIo = lastServerMode t
  hasMode : HasMode c0.kernel.initFlags c.fsm c.kernel

theorem ServerModeInv.agrees {c0 c : ServerConfig} {t : List ServerMove} (h : ServerModeInv c0 t c) :
    ModeAgrees c0 t c := by
  refine ⟨h.stored, fun howns => ?_⟩
  obtain ⟨f, hf, hflags⟩ := h.hasMode.resolve_left (FdGuard.ownsFd_iff.mp howns)
  have hbit : ∀ i < 32, f.flags.getLsbD i =
      if i = 11 then c.fsm.nonBlockingIo else (c0.kernel.initFlags f.serial).getLsbD i := by
    intro i hi
    rw [hflags, blockingFlags_bit _ _ _ hi]
  refine ⟨f, hf, ?_, fun i hi hne => ?_⟩
  · unfold OpenFile.nonBlock
    rw [hbit 11 (by decide), if_pos rfl]
    rfl
  · rw [hbit i hi, if_neg hne]

section

variable [Host] {c0 c c' : ServerConfig} {l : ServerLabel} {t : List ServerMove}
  {init : Nat → BitVec 32} {fsm fsm' : ServerSocketFsm} {k k' : Kernel} {op : ServerOp}
  {evs : List Ev} {r : Except SnlException ServerValue}

omit [Host] in
theorem HasMode.closes (h : HasMode init fsm k) : ¬ CloseFails .never k fsm.servSockFd.fd evs k' := by
  intro hk
  rcases h with hfd | ⟨f, hf, -⟩
  · exact hk.1 hfd
  · exact CloseFails.not_never hf hk

theorem step_mode (h : ServerSocketFsm.Step .never fsm k op evs r fsm' k')
    (hm : HasMode init fsm k) :
    fsm'.nonBlockingIo = modeAfter fsm.nonBlockingIo ⟨⟨fsm, k⟩, ⟨op, evs, r⟩, ⟨fsm', k'⟩⟩ := by
  cases h with
  | refused h => cases op <;> first | rfl | exact h.elim
  | failed h => cases op <;> first | rfl | exact h.elim
  | returned h => cases op <;> first | rfl | exact h.elim
  | closeFailed _ hk => exact absurd hk hm.closes
  | modeStored | modeSet | listening | accepted | bindFailed | bound | closed | wasReset => rfl

theorem step_hasMode (h : ServerSocketFsm.Step .never fsm k op evs r fsm' k')
    (hidle : fsm.fsmState = .INIT → fsm.servSockFd.fd = -1) (hinit : k.initFlags = init)
    (hm : HasMode init fsm k) : HasMode init fsm' k' := by
  cases h with
  | refused | failed | returned => exact hm
  | closeFailed _ hk => exact absurd hk hm.closes
  | closed | wasReset => exact .inl rfl
  | modeStored h =>
    rcases h with rfl | hfd
    · exact hm
    · exact .inl hfd
  | @modeSet nonBlockVal _ f ht _ _ hopen =>
    obtain ⟨f', hf', hflags⟩ := hm.resolve_left ht.2
    obtain rfl : f = f' := Option.some.inj (hopen.symm.trans hf')
    refine .inr ⟨_, Function.update_self .., ?_⟩
    show blockingFlags f.flags nonBlockVal = blockingFlags (init f.serial) nonBlockVal
    rw [hflags, blockingFlags_again]
  | listening _ _ hopen =>
    rcases hm with hfd | ⟨f', hf', hflags⟩
    · exact .inl hfd
    · obtain rfl := Option.some.inj (hopen.symm.trans hf')
      exact .inr ⟨_, Function.update_self .., hflags⟩
  | @accepted rep _ _ _ hn =>
    rcases hm with hfd | ⟨f', hf', hflags⟩
    · exact .inl hfd
    · refine .inr ⟨f', ?_, hflags⟩
      -- the client has another number than the open fd
      have hne : fsm.servSockFd.fd ≠ rep.status := by
        intro heq
        rw [heq, hn.2] at hf'
        simp at hf'
      exact (Function.update_of_ne hne ..).trans hf'
  | bindFailed h => exact .inl (hidle h)
  | bound _ _ _ hk =>
    obtain ⟨-, rfl⟩ := hk
    refine .inr ⟨_, Function.update_self .., ?_⟩
    rw [← hinit]
    rfl

theorem serverModeInv_step (hi : ServerModeInv c0 t c) (h : ServerStep .never c l c') :
    ServerModeInv c0 (t ++ [⟨c, l, c'⟩]) c' := by
  obtain ⟨fsm, k⟩ := c
  obtain ⟨op, evs, r⟩ := l
  obtain ⟨fsm', k'⟩ := c'
  have hs : ServerSocketFsm.Step .never fsm k op evs r fsm' k' :=
    ServerSocketFsm.perform_step hi.idle h
  constructor
  · exact exec_wf h hi.wf
  · exact ServerSocketFsm.step_idle hs hi.idle
  · exact (exec_mono h).2.trans hi.made
  · rw [lastServerMode_snoc, ← hi.stored]
    exact step_mode hs hi.hasMode
  · exact step_hasMode hs hi.idle hi.made hi.hasMode

theorem modeAgrees_of_path {prior : ServerSocketFsm} (hprior : c0.fsm = .construct prior)
    (h0 : ServerStart c0) (h : StepPath (ServerStep .never) c0 t c) : ModeAgrees c0 t c := by
  have hi : ServerModeInv c0 t c := by
    refine h.invariant (I := ServerModeInv c0) ?_ fun _ _ _ _ hi hs => serverModeInv_step hi hs
    exact ⟨h0.wf, fun _ => h0.noFd, rfl, by rw [hprior]; rfl, .inl h0.noFd⟩
  exact hi.agrees

end

/-- The mode is set before `bind`, on the live fd with one `fcntl` that fails, and after `close`. -/
def modesSet : List (ServerOp × List Reply) :=
  [(ServerOp.setNonBlockIO true, []),
    (.bind someAddress, [⟨3, 0, .zero, []⟩, okReply, okReply, okReply]),
    (ServerOp.setNonBlockIO false, [⟨0x800, 0, .zero, []⟩, failReply 4]),
    (ServerOp.setNonBlockIO false, [⟨0x800, 0, .zero, []⟩, okReply]), (.close, [okReply]),
    (ServerOp.setNonBlockIO true, []), (.reset, [])]

theorem modeAgrees_modesSet : ∃ (_ : Host) (t : List ServerMove) (c : ServerConfig),
    StepPath (ServerStep .never) newServer t c ∧ t.length = 7 ∧ ModeAgrees newServer t c := by
  let host : Host := littleHost
  have hrun := path_of_session (rfl : follow (nextOp .never ServerSocketFsm.perform)
    newServer modesSet = some (_, _))
  exact ⟨host, _, _, hrun, rfl, modeAgrees_of_path rfl newServer_start hrun⟩

end Snl
