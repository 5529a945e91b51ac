import SocketInterface.Library.Ownership
import SocketInterface.StreamSocketFsm
import SocketInterface.ServerSocketFsm

/-!
# The fds of an object

What each function does to the fds owned by the guards it works on, whatever state the
object is in: a `close` that is tried on an open fd does not fail here.
-/

namespace Snl

open Method Handles

def fds : Handles Kernel Call Reply Fd OpenFile where
  env := Kernel.Answers .never
  Valid := Kernel.Wf
  content := Kernel.files
  on := Call.fd?
  GivesBack c := ∃ fd, c = .close fd

def FdGuard.held (guard : FdGuard) : Multiset Fd := if guard.fd = -1 then 0 else {guard.fd}

@[simp] theorem FdGuard.held_empty : FdGuard.held ⟨-1⟩ = 0 := rfl

@[simp] theorem FdGuard.mem_held {guard : FdGuard} {fd : Fd} :
    fd ∈ guard.held ↔ fd = guard.fd ∧ fd ≠ -1 := by
  unfold FdGuard.held
  split
  · simp only [Multiset.notMem_zero, false_iff]
    rintro ⟨rfl, hne⟩
    exact hne ‹_›
  · rw [Multiset.mem_singleton]
    constructor
    · rintro rfl
      exact ⟨rfl, ‹_›⟩
    · exact And.left

/-- A call on `fd` meets no fd of another owner: `fd` is owned, or it is no fd at all. -/
def Covers (own : Multiset Fd) (fd : Fd) : Prop := fd ∈ own ∨ fd = -1

theorem FdGuard.covers (guard : FdGuard) (others : Multiset Fd) :
    Covers (guard.held + others) guard.fd := by
  by_cases h : guard.fd = -1
  · exact .inr h
  · exact .inl (by simp [h])

theorem FdGuard.covers_held (guard : FdGuard) : Covers guard.held guard.fd := by
  have h := guard.covers 0
  rwa [add_zero] at h

/-! ## One call -/

section Calls

variable {k k' : Kernel} {c : Call} {r : Reply} {own : Multiset Fd} {fd : Fd}

theorem covers_calls (ho : fds.Owns k own) (hown : ∀ fd, c.fd? = some fd → Covers own fd) :
    ∀ e ∈ [(⟨k, c, r⟩ : Ev)], ∀ fd, e.call.fd? = some fd → fd ∈ own ∨ ¬ fds.Out k fd := by
  intro e he fd hfd
  obtain rfl := List.mem_singleton.mp he
  rcases hown fd hfd with hmem | rfl
  · exact .inl hmem
  · refine .inr fun hout => ?_
    obtain ⟨f, hf⟩ := Option.ne_none_iff_exists'.mp hout
    exact ho.valid.ne_none hf rfl

theorem plain_handover (hc : c.Plain) (ho : fds.Owns k own)
    (hown : ∀ fd, c.fd? = some fd → Covers own fd) (h : Kernel.Answers .never k c r k') :
    fds.Handover k own [⟨k, c, r⟩] k' own := by
  have hcalls := covers_calls (r := r) ho hown
  have hclose : ∀ e ∈ [(⟨k, c, r⟩ : Ev)], ∀ fd, fds.on e.call = some fd →
      fds.GivesBack e.call → fds.Out e.before fd := by
    intro e he fd _ hback
    obtain rfl := List.mem_singleton.mp he
    obtain ⟨fd, rfl⟩ := hback
    exact hc.elim
  cases Kernel.answers_effect h with
  | failed | kept => exact ⟨ho, hcalls, hclose, fun _ h _ => ⟨h, rfl⟩, fun x hx => by tauto⟩
  | opened hm => cases c <;> simp_all [Call.Plain, Call.MakesFd]
  | closed => exact hc.elim
  | @updated _ _ fd f f' _ hfd hf hser =>
    have hmem : fd ∈ own := by
      have hout : fds.Out k fd := by simp [Out, fds, hf]
      exact (hcalls _ (List.mem_singleton_self _) fd hfd).resolve_right (not_not.mpr hout)
    refine ⟨⟨Kernel.answers_wf h ho.valid, ho.nodup, fun x hx => ?_⟩, hcalls, hclose, ?_, ?_⟩
    · by_cases hx' : x = fd
      · simp [Out, fds, hx']
      · simpa [Out, fds, hx'] using ho.out x hx
    · intro x hx _
      have hne : x ≠ fd := fun heq => hx (heq ▸ hmem)
      exact ⟨hx, by simp [fds, hne]⟩
    · intro x hx
      by_cases hx' : x = fd
      · exact .inl (hx' ▸ hmem)
      · have hout : fds.Out k x := by simpa [Out, fds, hx'] using hx
        tauto

theorem made_handover (hc : c.MakesFd) (ho : fds.Owns k own)
    (hown : ∀ fd, c.fd? = some fd → Covers own fd) (h : Kernel.Answers .never k c r k') :
    fds.Handover k own [⟨k, c, r⟩] k' (FdGuard.held ⟨r.status⟩ + own) := by
  have hcalls := covers_calls (r := r) ho hown
  have hclose : ∀ e ∈ [(⟨k, c, r⟩ : Ev)], ∀ fd, fds.on e.call = some fd →
      fds.GivesBack e.call → fds.Out e.before fd := by
    intro e he fd _ hback
    obtain rfl := List.mem_singleton.mp he
    obtain ⟨fd, rfl⟩ := hback
    exact hc.elim
  cases Kernel.answers_effect h with
  | failed hr =>
    rw [hr, FdGuard.held_empty, zero_add]
    exact ⟨ho, hcalls, hclose, fun _ h _ => ⟨h, rfl⟩, fun x hx => by tauto⟩
  | kept hp | updated hp => cases c <;> simp_all [Call.Plain, Call.MakesFd]
  | closed => exact hc.elim
  | opened _ h0 hn =>
    have hne : r.status ≠ -1 := by omega
    have hfresh : ∀ x ∈ own, x ≠ r.status := by
      rintro x hx rfl
      exact ho.out _ hx hn
    refine ⟨⟨Kernel.answers_wf h ho.valid, ?_, fun x hx => ?_⟩, hcalls, hclose, ?_, ?_⟩
    · simp only [FdGuard.held, hne, if_false, Multiset.singleton_add, Multiset.nodup_cons]
      exact ⟨fun hx => hfresh _ hx rfl, ho.nodup⟩
    · by_cases hx' : x = r.status
      · simp [Out, fds, hx']
      · have hmem : x ∈ own := by simpa [hx'] using hx
        simpa [Out, fds, hx'] using ho.out x hmem
    · intro x hx hout
      have hx' : x ≠ r.status := fun heq => hout (heq ▸ hn)
      exact ⟨by simp [hx, hx'], by simp [fds, hx']⟩
    · intro x hx
      by_cases hx' : x = r.status
      · exact .inl (by simp [hx', hne])
      · have hout : fds.Out k x := by simpa [Out, fds, hx'] using hx
        by_cases hmem : x ∈ own
        · exact .inl (by simp [hmem])
        · exact .inr ⟨hmem, hout⟩

theorem close_handover (hne : fd ≠ -1) (ho : fds.Owns k (FdGuard.held ⟨fd⟩))
    (h : Kernel.Answers .never k (.close fd) r k') :
    r.status = 0 ∧ fds.Handover k (FdGuard.held ⟨fd⟩) [⟨k, .close fd, r⟩] k' 0 := by
  have hout := ho.out fd (by simp [hne])
  obtain ⟨f, hf⟩ := Option.ne_none_iff_exists'.mp hout
  have hf : k.files fd = some f := hf
  obtain ⟨hr, rfl⟩ : r.status = 0 ∧ k' = k.setFile fd none := by
    rcases Kernel.answers_close.mp h with ⟨-, h⟩ | ⟨-, hr, rfl⟩
    · simp [Kernel.afterFailedClose, hf] at h
    · exact ⟨hr, rfl⟩
  refine ⟨hr, ⟨Kernel.answers_wf h ho.valid, Multiset.nodup_zero, by simp⟩, ?_, ?_, ?_, ?_⟩
  · exact covers_calls ho fun x hx => by
      obtain rfl : fd = x := by simpa [Call.fd?] using hx
      exact .inl (by simp [hne])
  · intro e he x hx _
    obtain rfl := List.mem_singleton.mp he
    obtain rfl : fd = x := by simpa [fds, Call.fd?] using hx
    exact hout
  · intro x hx _
    have hx' : x ≠ fd := by
      rintro rfl
      simp [hne] at hx
    exact ⟨by simp, by simp [fds, hx']⟩
  · intro x hx
    have hx' : x ≠ fd := by
      rintro rfl
      simp [Out, fds] at hx
    exact .inr ⟨by simp [hx'], by simpa [Out, fds, hx'] using hx⟩

end Calls

/-! ## Guards and wrappers -/

section Guards

variable {σ : Type} {s : σ} {own : Multiset Fd} {c : Call} {failure : Int}

def given {α : Type} (held : α → Multiset Fd) : Except SnlException α → Multiset Fd
  | .ok a => held a
  | .error _ => 0

@[simp] theorem given_zero {α : Type} (r : Except SnlException α) : given (fun _ => 0) r = 0 := by
  cases r <;> rfl

theorem executeSyscall_keeps (hc : c.Plain) (hown : ∀ fd, c.fd? = some fd → Covers own fd) :
    fds.Keeps (executeSyscall c failure : M σ Reply) s own fun _ s' own' =>
      s' = s ∧ own' = own := by
  unfold executeSyscall
  refine keeps_issue_bind fun k r k' ho ha => ⟨own, plain_handover hc ho hown ha, ?_⟩
  exact keeps_ite (fun _ => keeps_raise ⟨rfl, rfl⟩) fun _ => keeps_pure ⟨rfl, rfl⟩

theorem acceptSyscall_keeps (hc : c.MakesFd) (hown : ∀ fd, c.fd? = some fd → Covers own fd) :
    fds.Keeps (executeSyscall c (-1) : M σ Reply) s own fun r s' own' =>
      s' = s ∧ own' = given (fun reply => FdGuard.held ⟨reply.status⟩) r + own := by
  unfold executeSyscall
  refine keeps_issue_bind fun k r k' ho ha => ⟨_, made_handover hc ho hown ha, ?_⟩
  refine keeps_ite (fun hr => keeps_raise ⟨rfl, ?_⟩) fun _ => keeps_pure ⟨rfl, rfl⟩
  rw [hr]
  rfl

theorem makeFdGuard_keeps (hc : c.MakesFd) (hown : ∀ fd, c.fd? = some fd → Covers own fd) :
    fds.Keeps (makeFdGuard c : M σ FdGuard) s own fun r s' own' =>
      s' = s ∧ own' = given FdGuard.held r + own := by
  unfold makeFdGuard
  refine keeps_issue_bind fun k r k' ho ha => ⟨_, made_handover hc ho hown ha, ?_⟩
  refine keeps_ite (fun hr => keeps_raise ⟨rfl, ?_⟩) fun _ => keeps_pure ⟨rfl, rfl⟩
  rw [hr]
  rfl

theorem closeFd_keeps {fd : Fd} : fds.Keeps (FdGuard.closeFd fd : M σ Unit) s
    (FdGuard.held ⟨fd⟩) fun r s' own' => r = .ok () ∧ s' = s ∧ own' = 0 := by
  unfold FdGuard.closeFd
  refine keeps_ite (fun h => keeps_pure ⟨rfl, rfl, ?_⟩) fun h => ?_
  · have hfd : fd = -1 := by simpa using h
    rw [hfd, FdGuard.held_empty]
  · have hfd : fd ≠ -1 := by simpa using h
    refine keeps_issue_bind fun k r k' ho ha => ?_
    obtain ⟨hr, hover⟩ := close_handover hfd ho ha
    exact ⟨0, hover, keeps_ite (fun hne => absurd hr hne) fun _ => keeps_pure ⟨rfl, rfl, rfl⟩⟩

theorem close_keeps {guard : FdGuard} : fds.Keeps FdGuard.close guard guard.held
    fun r guard' own' => r = .ok () ∧ guard' = ⟨-1⟩ ∧ own' = 0 := by
  unfold FdGuard.close
  apply keeps_self_bind
  apply keeps_ok_bind closeFd_keeps
  rintro _ _ ⟨-, rfl⟩
  exact keeps_update ⟨rfl, rfl, rfl⟩

theorem close_destroys (guard : FdGuard) : fds.Destroys FdGuard.close guard guard.held :=
  keeps_mono close_keeps fun _ _ _ h => ⟨h.1, h.2.2⟩

theorem moveAssign_keeps {guards : FdGuard × FdGuard} :
    fds.Keeps FdGuard.moveAssign guards (guards.1.held + guards.2.held) fun r guards' own' =>
      r = .ok () ∧ guards' = (guards.2, ⟨-1⟩) ∧ own' = guards.2.held := by
  unfold FdGuard.moveAssign
  apply keeps_self_bind
  apply keeps_bind (keeps_frame guards.2.held closeFd_keeps)
  · rintro _ _ _ ⟨_, rfl, -, rfl, rfl⟩
    exact keeps_update ⟨rfl, rfl, zero_add _⟩
  · rintro _ _ _ ⟨_, -, h, -⟩
    exact absurd h (by simp)

theorem reset_keeps {fd : Fd} : fds.Keeps (FdGuard.reset fd) {} (FdGuard.held ⟨fd⟩)
    fun r guard' own' => r = .ok () ∧ guard' = ⟨fd⟩ ∧ own' = guard'.held := by
  unfold FdGuard.reset
  refine keeps_self_bind (keeps_ite (fun h => keeps_pure ⟨rfl, congrArg _ h, ?_⟩) fun _ => ?_)
  · rw [← h]
  · have hclose := keeps_frame (FdGuard.held ⟨fd⟩) (@closeFd_keeps FdGuard ⟨-1⟩ (-1))
    rw [FdGuard.held_empty, zero_add] at hclose
    apply keeps_bind hclose
    · rintro _ _ _ ⟨_, rfl, -, rfl, rfl⟩
      exact keeps_update ⟨rfl, rfl, zero_add _⟩
    · rintro _ _ _ ⟨_, -, h, -⟩
      exact absurd h (by simp)

theorem fcntlBlockingBehav_keeps {guard : FdGuard} {nonBlockVal : Bool}
    (hown : Covers own guard.fd) :
    fds.Keeps (fcntlBlockingBehav guard nonBlockVal : M σ Unit) s own fun _ s' own' =>
      s' = s ∧ own' = own := by
  unfold fcntlBlockingBehav
  have hcalls : ∀ cmd arg fd, (Call.fcntl guard.fd cmd arg).fd? = some fd → Covers own fd := by
    intro cmd arg fd hfd
    obtain rfl : guard.fd = fd := by simpa [Call.fd?] using hfd
    exact hown
  refine keeps_bind (executeSyscall_keeps trivial (hcalls _ _)) ?_ fun _ _ _ h => h
  rintro _ _ _ ⟨rfl, rfl⟩
  refine keeps_bind (executeSyscall_keeps trivial (hcalls _ _)) ?_ fun _ _ _ h => h
  exact fun _ _ _ h => keeps_pure h

/-- A new fd is the caller's when `body` works on it, and closed when it throws. -/
theorem newFd_keeps {body : FdGuard → M σ Unit} {d t p : Int}
    (hbody : ∀ guard, fds.Keeps (body guard) s guard.held fun _ s' own' =>
      s' = s ∧ own' = guard.held) :
    fds.Keeps (do
      let guard ← makeFdGuard (.socket d t p)
      unwinding FdGuard.close guard (body guard)
      pure guard : M σ FdGuard) s 0 fun r s' own' => s' = s ∧ own' = given FdGuard.held r := by
  refine keeps_bind (makeFdGuard_keeps trivial (by simp [Call.fd?])) ?_ ?_
  · rintro guard s1 _ ⟨rfl, rfl⟩
    rw [add_zero]
    refine keeps_bind (Q := fun r s' own' => s' = s1 ∧ own' = given (fun _ => guard.held) r)
      (keeps_unwinding (close_destroys guard) ?_) ?_ fun _ _ _ h => h
    · refine keeps_mono (hbody guard) fun r s' own' h => ?_
      obtain ⟨rfl, rfl⟩ := h
      cases r with
      | ok => exact ⟨rfl, rfl⟩
      | error => exact ⟨0, (add_zero _).symm, rfl, rfl⟩
    · exact fun _ _ _ h => keeps_pure h
  · rintro _ _ _ ⟨rfl, rfl⟩
    exact ⟨rfl, rfl⟩

theorem assign_keeps (get : σ → FdGuard) (set : FdGuard → σ → σ) {l : FdGuard × σ} :
    fds.Keeps (zoom (fun l : FdGuard × σ => (get l.2, l.1)) (fun g l => (g.2, set g.1 l.2))
      FdGuard.moveAssign) l (l.1.held + (get l.2).held) fun r l' own' =>
      r = .ok () ∧ l' = (⟨-1⟩, set l.1 l.2) ∧ own' = l.1.held := by
  rw [add_comm]
  apply keeps_mono (keeps_zoom (s := l) moveAssign_keeps)
  rintro _ _ _ ⟨_, rfl, hr, rfl, hown⟩
  exact ⟨hr, rfl, hown⟩

theorem zoomClose_keeps {get : σ → FdGuard} {set : FdGuard → σ → σ} :
    fds.Keeps (zoom get set FdGuard.close) s (get s).held fun r s' own' =>
      r = .ok () ∧ s' = set ⟨-1⟩ s ∧ own' = 0 := by
  apply keeps_mono (keeps_zoom (s := s) close_keeps)
  rintro _ _ _ ⟨_, rfl, hr, rfl, hown⟩
  exact ⟨hr, rfl, hown⟩

end Guards

/-! ## `StreamSocketFsm` -/

namespace StreamSocketFsm

def held (this : StreamSocketFsm) : Multiset Fd := this.strSoFd.held

variable {s : StreamSocketFsm}

abbrev KeepsOwn {α : Type} (m : M StreamSocketFsm α) (s : StreamSocketFsm) : Prop :=
  fds.Keeps m s s.held fun _ s' own' => own' = s'.held

theorem ownCall_keeps {c : Call} (hc : c.Plain) (hfd : c.fd? = some s.strSoFd.fd) :
    fds.Keeps (executeSyscall c (-1) : M StreamSocketFsm Reply) s s.held fun _ s' own' =>
      s' = s ∧ own' = s.held := by
  refine executeSyscall_keeps hc fun fd h => ?_
  obtain rfl : s.strSoFd.fd = fd := by simpa [hfd] using h
  exact s.strSoFd.covers_held

theorem assignFd_keeps {l : FdGuard × StreamSocketFsm} :
    fds.Keeps assignFd l (l.1.held + l.2.held) fun r l' own' =>
      r = .ok () ∧ l' = (⟨-1⟩, { l.2 with strSoFd := l.1 }) ∧ own' = l.1.held :=
  assign_keeps StreamSocketFsm.strSoFd fun strSoFd this => { this with strSoFd }

theorem send_keeps {buffer : List Byte} {flags : Int} : KeepsOwn (send buffer flags) s := by
  unfold send sendCheck
  apply keeps_self_bind
  apply keeps_check_bind rfl
  intro _
  refine keeps_bind (ownCall_keeps trivial rfl) ?_ ?_
  · rintro _ _ _ ⟨rfl, rfl⟩
    exact keeps_pure rfl
  · rintro _ _ _ ⟨rfl, rfl⟩
    rfl

theorem receive_keeps {bufferSize : Nat} {flags : Int} :
    KeepsOwn (receive bufferSize flags) s := by
  unfold receive receiveCheck
  apply keeps_self_bind
  apply keeps_check_bind rfl
  intro _
  refine keeps_bind (ownCall_keeps trivial rfl) ?_ ?_
  · rintro _ _ _ ⟨rfl, rfl⟩
    exact keeps_ite (fun _ => keeps_raise rfl) fun _ => keeps_pure rfl
  · rintro _ _ _ ⟨rfl, rfl⟩
    rfl

theorem close_keeps : KeepsOwn close s := by
  unfold close closeCheck
  apply keeps_self_bind
  apply keeps_check_bind rfl
  intro _
  apply keeps_ok_bind zoomClose_keeps
  rintro _ _ ⟨rfl, rfl⟩
  exact keeps_update rfl

theorem closeDirection_keeps {check : StrSoFsmState → M StreamSocketFsm Unit} {how : Int}
    {next : StrSoFsmState} {p : Prop} [Decidable p] {e : SnlException}
    (hcheck : check s.fsmState = if p then raise e else pure ()) :
    KeepsOwn (closeDirection check how next) s := by
  unfold closeDirection
  apply keeps_self_bind
  rw [hcheck]
  refine keeps_check_bind rfl fun _ => keeps_ite (fun _ => ?_) fun _ => close_keeps
  refine keeps_bind (ownCall_keeps trivial rfl) ?_ ?_
  · rintro _ _ _ ⟨rfl, rfl⟩
    exact keeps_update rfl
  · rintro _ _ _ ⟨rfl, rfl⟩
    rfl

theorem reset_keeps : KeepsOwn reset s := by
  unfold reset
  apply keeps_ok_bind zoomClose_keeps
  rintro _ _ ⟨rfl, rfl⟩
  exact keeps_update rfl

theorem setNonBlock_keeps {nonBlockVal : Bool} : KeepsOwn (setNonBlock nonBlockVal) s := by
  unfold setNonBlock
  apply keeps_self_bind
  refine keeps_ite (fun _ => keeps_pure rfl) fun _ => ?_
  refine keeps_ite (fun _ => keeps_pure rfl) fun _ => ?_
  apply keeps_mono (fcntlBlockingBehav_keeps s.strSoFd.covers_held)
  rintro _ _ _ ⟨rfl, rfl⟩
  rfl

theorem getSockAddress_keeps : fds.Keeps getSockAddress s own fun _ s' own' =>
    s' = s ∧ own' = own :=
  keeps_self_bind (keeps_ite (fun _ => keeps_raise ⟨rfl, rfl⟩) fun _ => keeps_pure ⟨rfl, rfl⟩)

variable [Host]

theorem createSockAndConnect_keeps {σ : Type} {s : σ} {address : SocketAddress}
    {nonBlockVal : Bool} {own : Multiset Fd} :
    fds.Keeps (createSockAndConnect address nonBlockVal : M σ FdGuard) s own fun r s' own' =>
      s' = s ∧ own' = given FdGuard.held r + own := by
  have hnew : fds.Keeps (createSockAndConnect address nonBlockVal : M σ FdGuard) s 0
      fun r s' own' => s' = s ∧ own' = given FdGuard.held r := by
    unfold createSockAndConnect
    refine newFd_keeps fun guard => ?_
    refine keeps_bind (executeSyscall_keeps trivial ?_) ?_ fun _ _ _ h => h
    · rintro fd ⟨⟩
      exact guard.covers_held
    · rintro _ _ _ ⟨rfl, rfl⟩
      exact fcntlBlockingBehav_keeps guard.covers_held
  have hframe := keeps_frame own hnew
  rw [zero_add] at hframe
  apply keeps_mono hframe
  rintro _ _ _ ⟨_, rfl, rfl, rfl⟩
  exact ⟨rfl, rfl⟩

theorem connect_keeps {socketAddress : SocketAddress} : KeepsOwn (connect socketAddress) s := by
  unfold connect connectCheck
  apply keeps_self_bind
  apply keeps_check_bind rfl
  intro _
  apply keeps_bind createSockAndConnect_keeps
  · rintro guard _ _ ⟨rfl, rfl⟩
    refine keeps_withLocal close_destroys (keeps_update_bind (keeps_ok_bind assignFd_keeps ?_))
    -- the local guard is empty now
    rintro _ _ ⟨rfl, rfl⟩
    exact keeps_update ⟨_, (zero_add _).symm, rfl⟩
  · rintro _ _ _ ⟨rfl, rfl⟩
    exact zero_add _

theorem resetConnection_keeps : KeepsOwn resetConnection s := by
  unfold resetConnection resetConnectCheck
  apply keeps_self_bind
  apply keeps_check_bind rfl
  intro _
  apply keeps_ok_bind zoomClose_keeps
  rintro _ _ ⟨rfl, rfl⟩
  apply keeps_bind getSockAddress_keeps
  swap
  · rintro _ _ _ ⟨rfl, rfl⟩
    rfl
  rintro _ _ _ ⟨rfl, rfl⟩
  apply keeps_bind createSockAndConnect_keeps
  swap
  · rintro _ _ _ ⟨rfl, rfl⟩
    rfl
  rintro temporary _ _ ⟨rfl, rfl⟩
  refine keeps_bind (Q := fun _ s' own' => own' = held s')
    (keeps_withLocal close_destroys (keeps_mono assignFd_keeps ?_)) ?_ fun _ _ _ h => h
  · rintro _ _ _ ⟨-, rfl, rfl⟩
    exact ⟨_, (zero_add _).symm, rfl⟩
  · rintro _ _ _ rfl
    exact keeps_update rfl

theorem perform_keeps (op : StrSoOp) : KeepsOwn (perform op) s := by
  cases op with
  | connect => exact keeps_bind_pure connect_keeps
  | send => exact keeps_bind_pure send_keeps
  | receive => exact keeps_bind_pure receive_keeps
  | closeUpstream => exact keeps_bind_pure (closeDirection_keeps rfl)
  | closeDownstream => exact keeps_bind_pure (closeDirection_keeps rfl)
  | close => exact keeps_bind_pure close_keeps
  | reset => exact keeps_bind_pure reset_keeps
  | resetConnection => exact keeps_bind_pure resetConnection_keeps
  | setNonBlock => exact keeps_bind_pure setNonBlock_keeps
  | getSockAddress =>
    refine keeps_bind_pure (keeps_mono getSockAddress_keeps ?_)
    rintro _ _ _ ⟨rfl, rfl⟩
    rfl
  | isNonBlock | isConnected | upstreamClosed | downStreamClosed | isClosed =>
    exact keeps_self_bind (keeps_pure rfl)

end StreamSocketFsm

/-! ## `ServerSocketFsm` -/

namespace ServerSocketFsm

def held (this : ServerSocketFsm) : Multiset Fd := this.servSockFd.held

variable {s : ServerSocketFsm}

abbrev KeepsOwn {α : Type} (m : M ServerSocketFsm α) (s : ServerSocketFsm) : Prop :=
  fds.Keeps m s s.held fun _ s' own' => own' = s'.held

theorem assignFd_keeps {l : FdGuard × ServerSocketFsm} :
    fds.Keeps assignFd l (l.1.held + l.2.held) fun r l' own' =>
      r = .ok () ∧ l' = (⟨-1⟩, { l.2 with servSockFd := l.1 }) ∧ own' = l.1.held :=
  assign_keeps ServerSocketFsm.servSockFd fun servSockFd this => { this with servSockFd }

theorem listen_keeps {listenBacklog : Int} : KeepsOwn (listen listenBacklog) s := by
  unfold listen
  apply keeps_self_bind
  rw [listenCheck_eq]
  refine keeps_check_bind rfl fun _ => keeps_bind (executeSyscall_keeps trivial ?_) ?_ ?_
  · rintro fd ⟨⟩
    exact s.servSockFd.covers_held
  · rintro _ _ _ ⟨rfl, rfl⟩
    exact keeps_update rfl
  · rintro _ _ _ ⟨rfl, rfl⟩
    rfl

theorem accept_keeps : fds.Keeps (accept {}) s s.held fun r s' own' =>
    own' = given (fun got => got.1.held) r + s'.held := by
  unfold accept acceptCheck
  refine keeps_self_bind (keeps_check_bind (zero_add _).symm fun _ => ?_)
  refine keeps_bind (acceptSyscall_keeps trivial ?_) ?_ ?_
  · rintro fd ⟨⟩
    exact s.servSockFd.covers_held
  · rintro reply _ _ ⟨rfl, rfl⟩
    apply keeps_bind (keeps_onLocal (keeps_frame _ reset_keeps))
    · rintro clientFd _ _ ⟨rfl, r0, t', hr, _, rfl, rfl, rfl, rfl⟩
      obtain rfl : clientFd = ⟨reply.status⟩ := by simpa [Except.map] using hr
      exact keeps_update_bind (keeps_pure rfl)
    · rintro e _ _ ⟨rfl, r0, t', hr, _, rfl, rfl, rfl, rfl⟩
      simp [Except.map] at hr
  · rintro _ _ _ ⟨rfl, rfl⟩
    rfl

theorem close_keeps : KeepsOwn close s := by
  unfold close closeCheck
  apply keeps_self_bind
  apply keeps_check_bind rfl
  intro _
  apply keeps_ok_bind zoomClose_keeps
  rintro _ _ ⟨rfl, rfl⟩
  exact keeps_update rfl

theorem reset_keeps : KeepsOwn reset s := by
  unfold reset
  apply keeps_ok_bind zoomClose_keeps
  rintro _ _ ⟨rfl, rfl⟩
  exact keeps_update rfl

theorem setNonBlockIO_keeps {nonBlockVal : Bool} :
    KeepsOwn (ServerSocketFsm.setNonBlockIO nonBlockVal) s := by
  unfold setNonBlockIO
  apply keeps_self_bind
  refine keeps_ite (fun _ => keeps_pure rfl) fun _ => ?_
  refine keeps_ite (fun _ => keeps_update rfl) fun _ => ?_
  apply keeps_bind (fcntlBlockingBehav_keeps s.servSockFd.covers_held)
  · rintro _ _ _ ⟨rfl, rfl⟩
    exact keeps_update rfl
  · rintro _ _ _ ⟨rfl, rfl⟩
    rfl

theorem getSockAddr_keeps : KeepsOwn getSockAddr s :=
  keeps_self_bind (keeps_ite (fun _ => keeps_raise rfl) fun _ => keeps_pure rfl)

variable [Host]

theorem makeSockFdAndBind_keeps {σ : Type} {s : σ} {sockAddr : SocketAddress} :
    fds.Keeps (makeSockFdAndBind sockAddr : M σ FdGuard) s 0 fun r s' own' =>
      s' = s ∧ own' = given FdGuard.held r := by
  unfold makeSockFdAndBind
  refine newFd_keeps fun guard => keeps_bind (executeSyscall_keeps trivial ?_) ?_ ?_
  · rintro fd ⟨⟩
    exact guard.covers_held
  · exact fun _ _ _ h => keeps_pure h
  · exact fun _ _ _ h => h

theorem bind_keeps {sockAddr : SocketAddress} : KeepsOwn (bind sockAddr) s := by
  unfold bind bindCheck
  apply keeps_self_bind
  apply keeps_check_bind rfl
  intro _
  have hmake := keeps_frame s.held (@makeSockFdAndBind_keeps _ _ s sockAddr)
  rw [zero_add] at hmake
  apply keeps_bind hmake
  · rintro guard _ _ ⟨_, rfl, rfl, rfl⟩
    refine keeps_withLocal close_destroys ?_
    apply keeps_bind (fcntlBlockingBehav_keeps (guard.covers _))
    · rintro _ _ _ ⟨rfl, rfl⟩
      apply keeps_ok_bind assignFd_keeps
      -- the local guard is empty now
      rintro _ _ ⟨rfl, rfl⟩
      exact keeps_update ⟨_, (zero_add _).symm, rfl⟩
    · rintro _ _ _ ⟨rfl, rfl⟩
      exact ⟨_, rfl, rfl⟩
  · rintro _ _ _ ⟨_, rfl, rfl, rfl⟩
    exact zero_add _

/-- A constructor that throws leaves nothing open. -/
theorem constructListening_custody {prior : ServerSocketFsm} {sockAddr : SocketAddress}
    {backlog : Int} : fds.Custody (constructListening prior sockAddr backlog) 0
      fun r own' => own' = given held r := by
  have hbody : KeepsOwn (do bind sockAddr; listen backlog) (construct prior) := by
    refine keeps_bind bind_keeps ?_ fun _ _ _ h => h
    rintro _ _ _ rfl
    exact listen_keeps
  refine custody_bind hbody fun x own' h => ?_
  obtain ⟨e | _, this⟩ := x
  · obtain rfl : own' = this.servSockFd.held + 0 := by rw [h, add_zero]; rfl
    refine custody_bind (custody_destroy (close_destroys _)) fun _ own' h => ?_
    exact custody_done h
  · exact custody_done h

theorem perform_keeps {op : ServerOp} (hop : op ≠ .accept) : KeepsOwn (perform op) s := by
  cases op with
  | bind => exact keeps_bind_pure bind_keeps
  | listen => exact keeps_bind_pure listen_keeps
  | accept => exact absurd rfl hop
  | close => exact keeps_bind_pure close_keeps
  | reset => exact keeps_bind_pure reset_keeps
  | setNonBlockIO => exact keeps_bind_pure setNonBlockIO_keeps
  | getSockAddr => exact keeps_bind_pure getSockAddr_keeps
  | getIpAddress => exact keeps_bind_pure (keeps_bind_pure getSockAddr_keeps)
  | getTcpPort => exact keeps_bind_pure (keeps_bind_pure getSockAddr_keeps)
  | getNonBlockIO | isBound | isListening | isAccepting | isClosed =>
    exact keeps_self_bind (keeps_pure rfl)

end ServerSocketFsm

end Snl
