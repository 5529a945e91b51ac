import Mathlib.Tactic.IntervalCases
import SocketInterface.Kernel

/-! # `FdGuard` and the wrappers of the system calls -/

namespace Snl

open Method

abbrev M (σ α : Type) : Type := Method Call Reply SnlException σ α

variable {σ : Type}

def executeSyscall (sCall : Call) (failure : Int) : M σ Reply := do
  let reply ← issue sCall
  if reply.status = failure then raise (.errno "System call error: " reply.errno)
  else pure reply

structure FdGuard where
  fd : Fd := -1
  deriving DecidableEq

namespace FdGuard

def NO_FD : Fd := -1

def get (guard : FdGuard) : Fd := guard.fd

def ownsFd (guard : FdGuard) : Bool := guard.fd != NO_FD

def isOwnableFd (fd : Fd) : Bool := fd != NO_FD

def closeFd (fd_ : Fd) : M σ Unit := do
  if ¬ isOwnableFd fd_ then pure ()
  else
    let reply ← issue (.close fd_)
    if reply.status ≠ 0 then raise (.errno "FdGuard error: " reply.errno)
    else pure ()

def release : M FdGuard Fd := do
  let this ← self
  update fun _ => ⟨NO_FD⟩
  pure this.fd

def reset (fd_ : Fd) : M FdGuard Unit := do
  let this ← self
  if this.fd = fd_ then pure ()
  else
    closeFd this.fd
    update fun _ => ⟨fd_⟩

/-- Also the body of the destructor. -/
def close : M FdGuard Unit := do
  let this ← self
  closeFd this.fd
  update fun _ => ⟨NO_FD⟩

/-- `operator=(FdGuard&& rhs)`, on the pair of `*this` and `rhs`. -/
def moveAssign : M (FdGuard × FdGuard) Unit := do
  let this ← self
  closeFd this.1.fd
  update fun this => (⟨this.2.fd⟩, ⟨NO_FD⟩)

end FdGuard

@[simp] theorem FdGuard.isOwnableFd_iff {fd : Fd} :
    FdGuard.isOwnableFd fd = true ↔ fd ≠ -1 := by simp [FdGuard.isOwnableFd, FdGuard.NO_FD]

@[simp] theorem FdGuard.ownsFd_iff {guard : FdGuard} :
    guard.ownsFd = true ↔ guard.fd ≠ -1 := by simp [FdGuard.ownsFd, FdGuard.NO_FD]

def makeFdGuard (fdConstructor : Call) : M σ FdGuard := do
  let reply ← issue fdConstructor
  if reply.status = -1 then raise (.errno "FdGuard Error: " reply.errno)
  else pure ⟨reply.status⟩

def blockingFlags (flags : BitVec 32) (nonBlockVal : Bool) : BitVec 32 :=
  if nonBlockVal then flags ||| O_NONBLOCK else flags &&& ~~~O_NONBLOCK

/-- The body of `setFdBlockingBehav` in both state machines. -/
def fcntlBlockingBehav (guard : FdGuard) (nonBlockVal : Bool) : M σ Unit := do
  let reply ← executeSyscall (.fcntl guard.get .F_GETFL 0) (-1)
  let flags := blockingFlags (BitVec.ofInt 32 reply.status) nonBlockVal
  let _ ← executeSyscall (.fcntl guard.get .F_SETFL flags) (-1)
  pure ()

/-! ## Flags -/

theorem nonblock_bit (i : Nat) (hi : i < 32) : O_NONBLOCK.getLsbD i = decide (i = 11) := by
  interval_cases i <;> decide

theorem blockingFlags_bit (flags : BitVec 32) (nonBlockVal : Bool) (i : Nat) (hi : i < 32) :
    (blockingFlags flags nonBlockVal).getLsbD i =
      if i = 11 then nonBlockVal else flags.getLsbD i := by
  have := nonblock_bit i hi
  by_cases h : i = 11 <;> cases nonBlockVal <;> simp_all [blockingFlags]

theorem blockingFlags_nonBlock (f : OpenFile) (nonBlockVal : Bool) :
    OpenFile.nonBlock { f with flags := blockingFlags f.flags nonBlockVal } = nonBlockVal := by
  unfold OpenFile.nonBlock
  rw [blockingFlags_bit _ _ _ (by omega), if_pos rfl]

/-! ## What one call does -/

def AnyFailed (evs : List Ev) : Prop := ∃ e ∈ evs, Failed e

@[simp] theorem anyFailed_nil : ¬ AnyFailed [] := by simp [AnyFailed]

@[simp] theorem anyFailed_cons (e : Ev) (evs : List Ev) :
    AnyFailed (e :: evs) ↔ e.reply.status = -1 ∨ AnyFailed evs := by simp [AnyFailed, Failed]

@[simp] theorem anyFailed_append (evs evs' : List Ev) :
    AnyFailed (evs ++ evs') ↔ AnyFailed evs ∨ AnyFailed evs' := by
  simp [AnyFailed, or_and_right, exists_or]

section Specs

variable {m : CloseFailure} {s s' : σ} {k k' : Kernel} {evs : List Ev}

theorem executeSyscall_runs {c : Call} {failure : Int} {r : Except SnlException Reply} :
    Runs (Kernel.Answers m) (executeSyscall c failure : M σ Reply) s k evs r s' k' ↔
      s' = s ∧ ∃ rep, Kernel.Answers m k c rep k' ∧ evs = [⟨k, c, rep⟩] ∧
        ((rep.status = failure ∧ r = .error (.errno "System call error: " rep.errno)) ∨
          (rep.status ≠ failure ∧ r = .ok rep)) := by
  unfold executeSyscall
  simp only [runs_issue_bind, runs_ite, runs_raise, runs_pure]
  grind

theorem executeSyscall_threw {c : Call} {e : SnlException} (hc : ∀ fd, c ≠ .close fd)
    (h : Runs (Kernel.Answers m) (executeSyscall c (-1) : M σ Reply) s k evs (.error e) s' k') :
    s' = s ∧ k' = k ∧ AnyFailed evs ∧ (∃ rep, evs = [⟨k, c, rep⟩]) ∧
      ∃ no, e = .errno "System call error: " no := by
  obtain ⟨rfl, rep, ha, rfl, hr⟩ := executeSyscall_runs.mp h
  obtain ⟨hs, he⟩ : rep.status = -1 ∧ e = .errno "System call error: " rep.errno := by
    simpa using hr
  exact ⟨rfl, Kernel.answers_failed ha hs hc, by simp [hs], ⟨rep, rfl⟩, rep.errno, he⟩

theorem executeSyscall_returned {c : Call} {reply : Reply}
    (h : Runs (Kernel.Answers m) (executeSyscall c (-1) : M σ Reply) s k evs (.ok reply) s' k') :
    s' = s ∧ reply.status ≠ -1 ∧ ¬ AnyFailed evs ∧ evs = [⟨k, c, reply⟩] ∧
      Kernel.Answers m k c reply k' := by
  obtain ⟨rfl, rep, ha, rfl, hr⟩ := executeSyscall_runs.mp h
  obtain ⟨hs, rfl⟩ : rep.status ≠ -1 ∧ reply = rep := by simpa using hr
  exact ⟨rfl, hs, by simp [hs], rfl, ha⟩

theorem makeFdGuard_runs {c : Call} {r : Except SnlException FdGuard} :
    Runs (Kernel.Answers m) (makeFdGuard c : M σ FdGuard) s k evs r s' k' ↔
      s' = s ∧ ∃ rep, Kernel.Answers m k c rep k' ∧ evs = [⟨k, c, rep⟩] ∧
        ((rep.status = -1 ∧ r = .error (.errno "FdGuard Error: " rep.errno)) ∨
          (rep.status ≠ -1 ∧ r = .ok ⟨rep.status⟩)) := by
  unfold makeFdGuard
  simp only [runs_issue_bind, runs_ite, runs_raise, runs_pure]
  grind

theorem closeFd_runs {fd : Fd} {r : Except SnlException Unit} :
    Runs (Kernel.Answers m) (FdGuard.closeFd fd : M σ Unit) s k evs r s' k' ↔
      s' = s ∧ ((fd = -1 ∧ evs = [] ∧ r = .ok () ∧ k' = k) ∨
        (fd ≠ -1 ∧ ∃ rep, Kernel.Answers m k (.close fd) rep k' ∧ evs = [⟨k, .close fd, rep⟩] ∧
          ((rep.status ≠ 0 ∧ r = .error (.errno "FdGuard error: " rep.errno)) ∨
            (rep.status = 0 ∧ r = .ok ())))) := by
  simp only [FdGuard.closeFd, FdGuard.isOwnableFd_iff, runs_issue_bind, runs_ite, runs_raise,
    runs_pure]
  grind

end Specs

theorem executeSyscall_returns {W : Type} {env : W → Call → Reply → W → Prop} {this : σ} {w : W}
    {c : Call} {failure : Int} {Q : Except SnlException Reply → σ → W → Prop}
    (hlive : ∃ r w', env w c r w')
    (h : ∀ r w', env w c r w' → r.status ≠ failure ∧ Q (.ok r) this w') :
    Returns env (executeSyscall c failure : M σ Reply) this w Q := by
  refine returns_issue_bind hlive fun r w' hr => ?_
  obtain ⟨hne, hQ⟩ := h r w' hr
  rw [if_neg hne]
  exact returns_pure hQ

/-! ## What a function does to the kernel -/

section Specs

variable {m : CloseFailure} {s s' : σ} {k k' : Kernel} {evs : List Ev}

/-- `FdGuard::close` on `fd` went well: there was nothing to close, or `fd` is closed. -/
def Closes (k : Kernel) (fd : Fd) (evs : List Ev) (k' : Kernel) : Prop :=
  (fd = -1 ∧ evs = [] ∧ k' = k) ∨
    (fd ≠ -1 ∧ ∃ rep, rep.status = 0 ∧ evs = [⟨k, .close fd, rep⟩] ∧ k' = k.setFile fd none)

def CloseFails (m : CloseFailure) (k : Kernel) (fd : Fd) (evs : List Ev) (k' : Kernel) : Prop :=
  fd ≠ -1 ∧ ∃ rep, rep.status = -1 ∧ evs = [⟨k, .close fd, rep⟩] ∧
    k.afterFailedClose m fd = some k'

theorem Closes.calls {fd : Fd} (h : Closes k fd evs k') :
    ¬ AnyFailed evs ∧ ∀ e ∈ evs, e.call = .close fd ∧ fd ≠ -1 := by
  rcases h with ⟨-, rfl, -⟩ | ⟨hfd, rep, hs, rfl, -⟩
  · simp
  · simp [hs, hfd]

theorem CloseFails.not_never {fd : Fd} {f : OpenFile} (hf : k.files fd = some f) :
    ¬ CloseFails .never k fd evs k' := by
  rintro ⟨-, rep, -, -, h⟩
  simp [Kernel.afterFailedClose, hf] at h

theorem CloseFails.unchanged {fd : Fd} (h : CloseFails m k fd evs k') (hm : m ≠ .frees) :
    k' = k := by
  obtain ⟨-, rep, -, -, hk⟩ := h
  cases hf : k.files fd <;> cases m <;> simp_all [Kernel.afterFailedClose]

theorem closeThen_cases {fd : Fd} {f : σ → σ} {r : Except SnlException Unit}
    (h : Runs (Kernel.Answers m) (do FdGuard.closeFd fd; update f) s k evs r s' k') :
    (r = .ok () ∧ s' = f s ∧ Closes k fd evs k') ∨
      ((∃ e, r = .error e) ∧ s' = s ∧ CloseFails m k fd evs k') := by
  rcases runs_bind.mp h with ⟨e, rfl, hx⟩ | ⟨_, s1, k1, evs1, evs2, hx, hu, rfl⟩
  · obtain ⟨rfl, ⟨-, -, h, -⟩ | ⟨hfd, rep, ha, rfl, hr⟩⟩ := closeFd_runs.mp hx
    · simp at h
    · obtain ⟨hs, -⟩ : rep.status ≠ 0 ∧ _ := by simpa using hr
      rw [Kernel.answers_close] at ha
      obtain ⟨hs, ha⟩ := ha.resolve_right fun h => hs h.2.1
      exact .inr ⟨⟨e, rfl⟩, rfl, hfd, rep, hs, rfl, ha⟩
  · obtain ⟨rfl, rfl, rfl, rfl⟩ := runs_update.mp hu
    rw [List.append_nil]
    obtain ⟨rfl, ⟨hfd, rfl, -, rfl⟩ | ⟨hfd, rep, ha, rfl, hr⟩⟩ := closeFd_runs.mp hx
    · exact .inl ⟨rfl, rfl, .inl ⟨hfd, rfl, rfl⟩⟩
    · have hs : rep.status = 0 := by simpa using hr
      rw [Kernel.answers_close] at ha
      obtain ⟨-, -, rfl⟩ := ha.resolve_left fun h => by omega
      exact .inl ⟨rfl, rfl, .inr ⟨hfd, rep, hs, rfl, rfl⟩⟩

theorem closeThen_empty {f : σ → σ} {r : Except SnlException Unit}
    (h : Runs (Kernel.Answers m) (do FdGuard.closeFd (-1); update f) s k evs r s' k') :
    evs = [] ∧ r = .ok () ∧ s' = f s ∧ k' = k := by
  rcases closeThen_cases h with ⟨rfl, rfl, ⟨-, rfl, rfl⟩ | ⟨h, -⟩⟩ | ⟨-, -, h, -⟩
  · exact ⟨rfl, rfl, rfl, rfl⟩
  · exact absurd rfl h
  · exact absurd rfl h

theorem close_cases {g g' : FdGuard} {r : Except SnlException Unit}
    (h : Runs (Kernel.Answers m) FdGuard.close g k evs r g' k') :
    (r = .ok () ∧ g' = ⟨-1⟩ ∧ Closes k g.fd evs k') ∨
      ((∃ e, r = .error e) ∧ g' = g ∧ CloseFails m k g.fd evs k') := by
  unfold FdGuard.close at h
  rw [runs_self_bind] at h
  exact closeThen_cases h

theorem moveAssign_cases {g g' : FdGuard × FdGuard} {r : Except SnlException Unit}
    (h : Runs (Kernel.Answers m) FdGuard.moveAssign g k evs r g' k') :
    (r = .ok () ∧ g' = (⟨g.2.fd⟩, ⟨-1⟩) ∧ Closes k g.1.fd evs k') ∨
      ((∃ e, r = .error e) ∧ g' = g ∧ CloseFails m k g.1.fd evs k') := by
  unfold FdGuard.moveAssign at h
  rw [runs_self_bind] at h
  exact closeThen_cases h

theorem closeEmpty_runs {g g' : FdGuard} {r : Except SnlException Unit} (hfd : g.fd = -1)
    (h : Runs (Kernel.Answers m) FdGuard.close g k evs r g' k') :
    evs = [] ∧ r = .ok () ∧ g' = ⟨-1⟩ ∧ k' = k := by
  unfold FdGuard.close at h
  rw [runs_self_bind, hfd] at h
  exact closeThen_empty h

theorem moveAssignEmpty_runs {g g' : FdGuard × FdGuard} {r : Except SnlException Unit}
    (hfd : g.1.fd = -1) (h : Runs (Kernel.Answers m) FdGuard.moveAssign g k evs r g' k') :
    evs = [] ∧ r = .ok () ∧ g' = (⟨g.2.fd⟩, ⟨-1⟩) ∧ k' = k := by
  unfold FdGuard.moveAssign at h
  rw [runs_self_bind, hfd] at h
  exact closeThen_empty h

theorem close_owned {g g' : FdGuard}
    (h : Runs (Kernel.Answers m) FdGuard.close g k evs (.ok ()) g' k') (hfd : g.fd ≠ -1) :
    k' = k.setFile g.fd none ∧ ∀ e ∈ evs, e.call = .close g.fd := by
  rcases close_cases h with ⟨-, -, ⟨h, -⟩ | ⟨-, rep, -, rfl, rfl⟩⟩ | ⟨⟨e, h⟩, -⟩
  · exact absurd h hfd
  · exact ⟨rfl, by simp⟩
  · simp at h

theorem zoomClose_returned {τ : Type} {get : τ → FdGuard} {set : FdGuard → τ → τ} {t t' : τ}
    (h : Runs (Kernel.Answers m) (zoom get set FdGuard.close) t k evs (.ok ()) t' k') :
    t' = set ⟨-1⟩ t ∧ Closes k (get t).fd evs k' := by
  obtain ⟨g', hg, rfl⟩ := runs_zoom.mp h
  rcases close_cases hg with ⟨-, rfl, hk⟩ | ⟨⟨e, h⟩, -⟩
  · exact ⟨rfl, hk⟩
  · simp at h

theorem zoomClose_threw {τ : Type} {get : τ → FdGuard} {set : FdGuard → τ → τ} {t t' : τ}
    {e : SnlException}
    (h : Runs (Kernel.Answers m) (zoom get set FdGuard.close) t k evs (.error e) t' k') :
    t' = set (get t) t ∧ CloseFails m k (get t).fd evs k' := by
  obtain ⟨g', hg, rfl⟩ := runs_zoom.mp h
  rcases close_cases hg with ⟨h, -⟩ | ⟨-, rfl, hk⟩
  · simp at h
  · exact ⟨rfl, hk⟩

theorem resetEmpty_runs {fd : Fd} {g' : FdGuard} {r : Except SnlException Unit} (hfd : fd ≠ -1)
    (h : Runs (Kernel.Answers m) (FdGuard.reset fd) {} k evs r g' k') :
    evs = [] ∧ r = .ok () ∧ g' = ⟨fd⟩ ∧ k' = k := by
  unfold FdGuard.reset at h
  rw [runs_self_bind, runs_ite, runs_pure] at h
  rcases h with ⟨h, -⟩ | ⟨-, h⟩
  · exact absurd h.symm hfd
  · exact closeThen_empty h

theorem fcntlBlockingBehav_runs {g : FdGuard} {nonBlockVal : Bool} {r : Except SnlException Unit}
    (h : Runs (Kernel.Answers m) (fcntlBlockingBehav g nonBlockVal : M σ Unit) s k evs r s' k') :
    s' = s ∧ (∀ e ∈ evs, e.before = k ∧ ∃ cmd arg, e.call = .fcntl g.fd cmd arg) ∧
      ((AnyFailed evs ∧ (∃ no, r = .error (.errno "System call error: " no)) ∧ k' = k) ∨
        (¬ AnyFailed evs ∧ evs ≠ [] ∧ r = .ok () ∧ ∃ f, k.files g.fd = some f ∧
          k' = k.setFile g.fd (some { f with flags := blockingFlags f.flags nonBlockVal }))) := by
  unfold fcntlBlockingBehav FdGuard.get at h
  rcases runs_bind.mp h with ⟨e, rfl, hx⟩ | ⟨rep, _, k1, _, _, hx, hset, rfl⟩
  · -- F_GETFL fails
    obtain ⟨rfl, rfl, hf, ⟨rep, rfl⟩, no, rfl⟩ := executeSyscall_threw (by simp) hx
    exact ⟨rfl, by simp, .inl ⟨hf, ⟨no, rfl⟩, rfl⟩⟩
  obtain ⟨rfl, hs, hf, rfl, ha⟩ := executeSyscall_returned hx
  rw [Kernel.answers_getfl] at ha
  obtain ⟨-, ⟨f, hopen, hflags⟩, rfl⟩ := ha.resolve_left fun h => hs h.1
  rw [hflags, BitVec.ofInt_toInt] at hset
  rcases runs_bind.mp hset with ⟨e, rfl, hx⟩ | ⟨rep2, _, k2, _, _, hx, hp, rfl⟩
  · -- F_SETFL fails
    obtain ⟨rfl, rfl, hf2, ⟨rep2, rfl⟩, no, rfl⟩ := executeSyscall_threw (by simp) hx
    exact ⟨rfl, by simp, .inl ⟨by simpa [hs] using hf2, ⟨no, rfl⟩, rfl⟩⟩
  · obtain ⟨rfl, hs2, hf2, rfl, ha2⟩ := executeSyscall_returned hx
    obtain ⟨rfl, rfl, rfl, rfl⟩ := runs_pure.mp hp
    rw [Kernel.answers_setfl] at ha2
    obtain ⟨f', hopen', -, rfl⟩ := ha2.resolve_left fun h => hs2 h.1
    obtain rfl : f' = f := by simpa [hopen'] using hopen
    exact ⟨rfl, by simp, .inr ⟨by simp [hs, hs2], by simp, rfl, f', hopen', rfl⟩⟩

def Fresh (k : Kernel) (fd : Fd) : Prop := 0 ≤ fd ∧ k.files fd = none

/-- The calls of a function that makes a socket and works on it: `socket`, and when that gives an
fd, calls in `B`, and `close` when one of them fails. -/
inductive MakesFd (B : Fd → Kernel → List Ev → Prop) (k : Kernel) : Option Fd → List Ev → Prop
  | noSocket {e0} (hk : e0.before = k) (hc : ∃ d t p, e0.call = .socket d t p) :
      MakesFd B k none [e0]
  | made {e0 n evs1 evs2} (hk : e0.before = k) (hc : ∃ d t p, e0.call = .socket d t p)
      (hn : e0.reply.status = n) (hfresh : Fresh k n) (hB : B n (k.opened n none) evs1)
      (hclose : ∀ e ∈ evs2, e.call = .close n) (hfail : evs2 ≠ [] → AnyFailed evs1) :
      MakesFd B k (some n) (e0 :: (evs1 ++ evs2))

theorem MakesFd.mono {B B' : Fd → Kernel → List Ev → Prop} {o : Option Fd}
    (h : MakesFd B k o evs) (hBB : ∀ n k1 evs, B n k1 evs → B' n k1 evs) :
    MakesFd B' k o evs := by
  cases h with
  | noSocket hk hc => exact .noSocket hk hc
  | made hk hc hn hfresh hB hclose hfail =>
    exact .made hk hc hn hfresh (hBB _ _ _ hB) hclose hfail

theorem MakesFd.extend {B B' : Fd → Kernel → List Ev → Prop} {n : Fd} {evs1 evs2 : List Ev}
    (h : MakesFd B k (some n) evs) (hf : ¬ AnyFailed evs)
    (hBB : ∀ evs0, B n (k.opened n none) evs0 → B' n (k.opened n none) (evs0 ++ evs1))
    (hclose : ∀ e ∈ evs2, e.call = .close n) (hfail : evs2 ≠ [] → AnyFailed evs1) :
    MakesFd B' k (some n) (evs ++ (evs1 ++ evs2)) := by
  cases h with
  | @made e0 _ evs3 evs4 hk hc hn hfresh hB hclose' hfail' =>
    obtain rfl : evs4 = [] := by
      by_contra hne
      exact hf (by simp [hfail' hne])
    have hmakes := MakesFd.made hk hc hn hfresh (hBB _ hB) hclose fun hne => by
      simp [hfail hne]
    simpa using hmakes

theorem MakesFd.mem {B : Fd → Kernel → List Ev → Prop} {o : Option Fd} (h : MakesFd B k o evs)
    {e : Ev} (he : e ∈ evs) : (∃ d t p, e.call = .socket d t p) ∨ ∃ n, Fresh k n ∧
      (e.call = .close n ∨ ∃ evs1, B n (k.opened n none) evs1 ∧ e ∈ evs1) := by
  cases h with
  | noSocket _ hc =>
    obtain rfl := List.mem_singleton.mp he
    exact .inl hc
  | made _ hc _ hfresh hB hclose =>
    simp only [List.mem_cons, List.mem_append] at he
    rcases he with rfl | he | he
    · exact .inl hc
    · exact .inr ⟨_, hfresh, .inr ⟨_, hB, he⟩⟩
    · exact .inr ⟨_, hfresh, .inl (hclose e he)⟩

/-- The frame of `createSockAndConnect` and `makeSockFdAndBind`: a socket is made, `body` works on
it, and the guard closes it when `body` throws. `B` is what is known of the calls of `body`, and
`g` what it does to the new file when no call fails. -/
theorem socketGuard_runs {body : FdGuard → M σ Unit} {d t p : Int} {g : OpenFile → OpenFile}
    {B : Fd → Kernel → List Ev → Prop}
    (hbody : ∀ n k1 evs r s1 k2 f, k1.files n = some f →
      Runs (Kernel.Answers m) (body ⟨n⟩) s k1 evs r s1 k2 → s1 = s ∧ B n k1 evs ∧
        ((AnyFailed evs ∧ (∃ e, r = .error e) ∧ ∀ fd, fd ≠ n → k2.files fd = k1.files fd) ∨
          (¬ AnyFailed evs ∧ r = .ok () ∧ k2 = k1.setFile n (some (g f)))))
    {r : Except SnlException FdGuard}
    (h : Runs (Kernel.Answers m) (do
      let guard ← makeFdGuard (.socket d t p)
      unwinding FdGuard.close guard (body guard)
      pure guard) s k evs r s' k') :
    s' = s ∧ ∃ o, MakesFd B k o evs ∧
    ((AnyFailed evs ∧ (∃ e, r = .error e) ∧ k'.files = k.files) ∨
      (¬ AnyFailed evs ∧ ∃ n, o = some n ∧ r = .ok ⟨n⟩ ∧ Fresh k n ∧
        k' = (k.opened n none).setFile n (some (g (k.newFile none))))) := by
  rcases runs_bind.mp h with ⟨e, rfl, h1⟩ | ⟨guard, s1, k1, evs1, evs2, h1, h2, rfl⟩
  · -- no socket
    obtain ⟨rfl, rep, ha, rfl, hr⟩ := makeFdGuard_runs.mp h1
    obtain ⟨hs, -⟩ : rep.status = -1 ∧ _ := by simpa using hr
    obtain rfl : k' = k := Kernel.answers_failed ha hs (by simp)
    exact ⟨rfl, none, .noSocket rfl ⟨_, _, _, rfl⟩, .inl ⟨by simp [hs], ⟨_, rfl⟩, rfl⟩⟩
  · obtain ⟨rfl, rep, ha, rfl, hr⟩ := makeFdGuard_runs.mp h1
    obtain ⟨hs, hg⟩ : rep.status ≠ -1 ∧ guard = ⟨rep.status⟩ := by simpa using hr
    rw [Kernel.answers_socket] at ha
    obtain ⟨h0, hn, rfl⟩ := ha.resolve_left fun h => hs h.1
    subst hg
    have hfresh : Fresh k rep.status := ⟨h0, hn⟩
    have hopen : (k.opened rep.status none).files rep.status = some (k.newFile none) := by simp
    rcases runs_bind.mp h2 with ⟨e, rfl, hu⟩ | ⟨_, s2, k2, evs1, evs2, hu, hp, rfl⟩
    · -- the body throws: the guard closes the new fd
      obtain ⟨_, h, -⟩ | ⟨e', g1, k2, evs1, evs2, he, hb, hc, rfl⟩ := runs_unwinding.mp hu
      · simp at h
      obtain ⟨rfl, hB, hb⟩ := hbody _ _ _ _ _ _ _ hopen hb
      obtain ⟨hfail, -, hframe⟩ := hb.resolve_right (by simp)
      obtain ⟨rfl, hclose⟩ := close_owned hc (by simpa using hs)
      have hmakes : MakesFd B k (some rep.status) (⟨k, .socket d t p, rep⟩ :: (evs1 ++ evs2)) :=
        .made rfl ⟨_, _, _, rfl⟩ rfl hfresh hB hclose fun _ => hfail
      refine ⟨rfl, _, hmakes, .inl ⟨by simp [hfail], ⟨_, rfl⟩, ?_⟩⟩
      funext fd
      by_cases hfd : fd = rep.status
      · simp [hfd, hn]
      · simp [hfd, hframe]
    · obtain ⟨rfl, rfl, rfl, rfl⟩ := runs_pure.mp hp
      obtain ⟨_, h, hb⟩ | ⟨_, _, _, _, _, h, -⟩ := runs_unwinding.mp hu
      · obtain ⟨rfl, hB, hb⟩ := hbody _ _ _ _ _ _ _ hopen hb
        obtain ⟨hfail, -, rfl⟩ := hb.resolve_left (by simp)
        have hmakes : MakesFd B k (some rep.status) (⟨k, .socket d t p, rep⟩ :: (evs1 ++ [])) :=
          .made rfl ⟨_, _, _, rfl⟩ rfl hfresh hB (by simp) (by simp)
        refine ⟨rfl, _, by simpa using hmakes, .inr ⟨by simp [hfail, hs], _, rfl, rfl, hfresh, rfl⟩⟩
      · simp at h

end Specs

/-! ## Functions that come to an end -/

def FdGuard.Held (guard : FdGuard) (k : Kernel) : Prop :=
  guard.fd ≠ -1 → ∃ f, k.files guard.fd = some f

section Ends

variable {m : CloseFailure} {s : σ} {k k' : Kernel} {fd : Fd} {f : OpenFile} {guard : FdGuard}

theorem held_empty (guard : FdGuard) (h : guard.fd = -1) : guard.Held k := fun hne => absurd h hne

theorem FdGuard.Held.answers {c : Call} {r : Reply} (h : guard.Held k)
    (ha : Kernel.Answers m k c r k') (hc : ∀ fd, c ≠ .close fd) : guard.Held k' := by
  intro hfd
  obtain ⟨f, hf⟩ := h hfd
  cases Kernel.answers_effect ha with
  | failed | kept => exact ⟨f, hf⟩
  | @updated _ _ fd' _ f' =>
    by_cases hsame : guard.fd = fd'
    · exact ⟨f', by simp [hsame]⟩
    · exact ⟨f, by simpa [hsame] using hf⟩
  | closed => exact absurd rfl (hc _)
  | opened _ _ hn =>
    have hother : guard.fd ≠ r.status := by
      intro heq
      simp [← heq, hf] at hn
    exact ⟨f, by simpa [hother] using hf⟩

/-- A guard can be closed where `close` of its fd always succeeds. -/
theorem close_returns {env : Kernel → Call → Reply → Kernel → Prop}
    (h : guard.fd ≠ -1 → (∃ r k', env k (.close guard.fd) r k') ∧
      ∀ r k', env k (.close guard.fd) r k' → r.status = 0 ∧ k' = k.setFile guard.fd none) :
    Returns env FdGuard.close guard k fun r guard' k' =>
      r = .ok () ∧ guard' = ⟨-1⟩ ∧ k' = if guard.fd = -1 then k else k.setFile guard.fd none := by
  unfold FdGuard.close FdGuard.closeFd
  refine returns_self_bind ?_
  by_cases hfd : guard.fd = -1
  · rw [if_pos (by simp [hfd]), if_pos hfd]
    exact returns_update ⟨rfl, rfl, rfl⟩
  obtain ⟨hlive, hclose⟩ := h hfd
  rw [if_neg (by simp [hfd]), if_neg hfd]
  refine returns_bind (Q := fun r guard' k' =>
    r = .ok () ∧ guard' = guard ∧ k' = k.setFile guard.fd none) (returns_issue_bind hlive ?_) ?_ ?_
  · intro r k' hr
    obtain ⟨h0, rfl⟩ := hclose r k' hr
    rw [if_neg (not_not.mpr h0)]
    exact returns_pure ⟨rfl, rfl, rfl⟩
  · rintro _ guard' k' ⟨-, -, rfl⟩
    exact returns_update ⟨rfl, rfl, rfl⟩
  · rintro e _ _ ⟨he, -⟩
    simp at he

theorem close_succeeds (h : guard.Held k) :
    Returns (Kernel.Succeeds m) FdGuard.close guard k fun r guard' k' =>
      r = .ok () ∧ guard' = ⟨-1⟩ ∧ k' = if guard.fd = -1 then k else k.setFile guard.fd none := by
  refine close_returns fun hfd => ⟨?_, ?_⟩
  · exact ⟨{ status := 0 }, _, by simp, Kernel.answers_close.mpr (.inr ⟨h hfd, rfl, rfl⟩)⟩
  · rintro r k' ⟨hr, ha⟩
    obtain ⟨-, h0, rfl⟩ := (Kernel.answers_close.mp ha).resolve_left fun h => hr h.1
    exact ⟨h0, rfl⟩

theorem close_never_fails (h : guard.Held k) :
    Returns (Kernel.Answers .never) FdGuard.close guard k fun r guard' k' =>
      r = .ok () ∧ guard' = ⟨-1⟩ ∧ k' = if guard.fd = -1 then k else k.setFile guard.fd none := by
  refine close_returns fun hfd => ?_
  obtain ⟨f, hf⟩ := h hfd
  refine ⟨⟨{ status := 0 }, _, Kernel.answers_close.mpr (.inr ⟨⟨f, hf⟩, rfl, rfl⟩)⟩, ?_⟩
  intro r k' ha
  rcases Kernel.answers_close.mp ha with ⟨-, hfail⟩ | ⟨-, h0, rfl⟩
  · simp [Kernel.afterFailedClose, hf] at hfail
  · exact ⟨h0, rfl⟩

theorem executeSyscall_ends {c : Call} {failure : Int} (hc : ∀ fd, c ≠ .close fd)
    (h : guard.Held k) : Returns (Kernel.Answers m) (executeSyscall c failure : M σ Reply) s k
      fun _ s' k' => s' = s ∧ guard.Held k' := by
  refine returns_issue_bind (Kernel.exists_answer m k c) fun r k' ha => ?_
  have hheld := h.answers ha hc
  split
  · exact returns_raise ⟨rfl, hheld⟩
  · exact returns_pure ⟨rfl, hheld⟩

theorem makeFdGuard_ends {d t p : Int} :
    Returns (Kernel.Answers m) (makeFdGuard (.socket d t p) : M σ FdGuard) s k fun r s' k' =>
      s' = s ∧ ∀ guard, r = .ok guard → guard.Held k' := by
  refine returns_issue_bind (Kernel.exists_answer m k _) fun r k' ha => ?_
  split
  · exact returns_raise ⟨rfl, by simp⟩
  · rename_i hr
    obtain ⟨-, -, rfl⟩ := (Kernel.answers_socket.mp ha).resolve_left fun h => hr h.1
    refine returns_pure ⟨rfl, ?_⟩
    rintro _ ⟨⟩ -
    exact ⟨_, Function.update_self ..⟩

theorem fcntlBlockingBehav_ends {g : FdGuard} {nonBlockVal : Bool} (h : guard.Held k) :
    Returns (Kernel.Answers m) (fcntlBlockingBehav g nonBlockVal : M σ Unit) s k
      fun _ s' k' => s' = s ∧ guard.Held k' := by
  refine returns_bind (executeSyscall_ends (by simp) h) ?_ fun _ _ _ h => h
  rintro reply s1 k1 ⟨rfl, h1⟩
  refine returns_bind (executeSyscall_ends (by simp) h1) ?_ fun _ _ _ h => h
  exact fun _ _ _ h2 => returns_pure h2

end Ends

/-! ## When no call fails -/

section Succeeds

variable {m : CloseFailure} {s : σ} {k : Kernel} {fd : Fd} {f : OpenFile}

theorem makeFdGuard_succeeds {d t p : Int} (hk : k.Wf) :
    Returns (Kernel.Succeeds m) (makeFdGuard (.socket d t p) : M σ FdGuard) s k fun r s' k' =>
      s' = s ∧ ∃ n, r = .ok ⟨n⟩ ∧ Fresh k n ∧ k' = k.opened n none := by
  obtain ⟨n, h0, hn⟩ := hk.exists_unused
  have hne : n ≠ -1 := by
    rintro rfl
    exact absurd h0 (by decide)
  unfold makeFdGuard
  refine returns_issue_bind ?_ ?_
  · exact ⟨{ status := n }, _, hne, Kernel.answers_socket.mpr (.inr ⟨h0, hn, rfl⟩)⟩
  · rintro r k' ⟨hr, ha⟩
    obtain ⟨h0, hn, rfl⟩ := (Kernel.answers_socket.mp ha).resolve_left fun h => hr h.1
    rw [if_neg hr]
    exact returns_pure ⟨rfl, _, rfl, ⟨h0, hn⟩, rfl⟩

/-- `F_GETFL` returns the flags: a word of ones would be taken for a failure. -/
theorem fcntlBlockingBehav_succeeds {nonBlockVal : Bool} (hf : k.files fd = some f)
    (hflags : f.flags ≠ -1#32) :
    Returns (Kernel.Succeeds m) (fcntlBlockingBehav ⟨fd⟩ nonBlockVal : M σ Unit) s k fun r s' k' =>
      r = .ok () ∧ s' = s ∧
        k' = k.setFile fd (some { f with flags := blockingFlags f.flags nonBlockVal }) := by
  have hword : f.flags.toInt ≠ -1 := fun h => hflags (BitVec.eq_of_toInt_eq (h.trans (by decide)))
  unfold fcntlBlockingBehav FdGuard.get
  refine returns_bind (Q := fun r s1 k1 => s1 = s ∧ k1 = k ∧
    ∃ reply : Reply, r = .ok reply ∧ reply.status = f.flags.toInt) (executeSyscall_returns ?_ ?_) ?_ ?_
  · exact ⟨{ status := f.flags.toInt }, k, hword,
      Kernel.answers_getfl.mpr (.inr ⟨hword, ⟨f, hf, rfl⟩, rfl⟩)⟩
  · rintro r k' ⟨hr, ha⟩
    obtain ⟨-, ⟨f', hf', hst⟩, rfl⟩ := (Kernel.answers_getfl.mp ha).resolve_left fun h => hr h.1
    obtain rfl : f' = f := Option.some.inj (hf'.symm.trans hf)
    exact ⟨hr, rfl, rfl, r, rfl, hst⟩
  · rintro reply s1 k1 ⟨hs, hk, _, hreply, hst⟩
    obtain rfl := Except.ok.inj hreply
    subst s1 k1
    rw [hst, BitVec.ofInt_toInt]
    refine returns_bind (Q := fun r s' k' => (∃ reply, r = .ok reply) ∧ s' = s ∧
      k' = k.setFile fd (some { f with flags := blockingFlags f.flags nonBlockVal }))
      (executeSyscall_returns ?_ ?_) ?_ ?_
    · exact ⟨{ status := 0 }, _, by simp, Kernel.answers_setfl.mpr (.inr ⟨f, hf, rfl, rfl⟩)⟩
    · rintro r k' ⟨hr, ha⟩
      obtain ⟨f', hf', -, rfl⟩ := (Kernel.answers_setfl.mp ha).resolve_left fun h => hr h.1
      obtain rfl : f' = f := Option.some.inj (hf'.symm.trans hf)
      exact ⟨hr, ⟨r, rfl⟩, rfl, rfl⟩
    · rintro _ _ _ ⟨-, rfl, rfl⟩
      exact returns_pure ⟨rfl, rfl, rfl⟩
    · rintro e _ _ ⟨⟨_, he⟩, -⟩
      simp at he
  · rintro e _ _ ⟨-, -, _, he, -⟩
    simp at he

end Succeeds

end Snl
