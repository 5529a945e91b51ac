import Mathlib.Data.Fintype.EquivFin
import Mathlib.Logic.Function.Basic
import SocketInterface.Library.Method
import SocketInterface.Address

/-!
# The kernel

The system calls the library issues, and what a kernel may answer. A call on a number
that is not open fails; every call may fail. The kernel picks the number of a new fd
among those that are not open, so the number of a closed fd may come back.
-/

namespace Snl

abbrev Fd := Int

inductive FcntlCmd where
  | F_GETFL
  | F_SETFL
  deriving DecidableEq

inductive Call where
  | socket (domain type protocol : Int)
  | bind (fd : Fd) (addr : SockaddrStorage) (addrlen : Nat)
  | listen (fd : Fd) (backlog : Int)
  | accept (fd : Fd) (addrlen : Nat)
  | connect (fd : Fd) (addr : SockaddrStorage) (addrlen : Nat)
  | send (fd : Fd) (buffer : List Byte) (flags : Int)
  | recv (fd : Fd) (bufferSize : Nat) (flags : Int)
  | shutdown (fd : Fd) (how : Int)
  | fcntl (fd : Fd) (cmd : FcntlCmd) (arg : BitVec 32)
  | close (fd : Fd)
  deriving DecidableEq

def Call.fd? : Call → Option Fd
  | .socket .. => none
  | .bind fd .. | .listen fd _ | .accept fd _ | .connect fd .. | .send fd .. | .recv fd ..
  | .shutdown fd _ | .fcntl fd .. | .close fd => some fd

def Call.MakesFd : Call → Prop
  | .socket .. | .accept .. => True
  | _ => False

def Call.Plain : Call → Prop
  | .socket .. | .accept .. | .close _ => False
  | _ => True

/-- The return value, `errno`, and what the call writes through its pointers. -/
structure Reply where
  status : Int
  errno : Int := 0
  sockaddr : SockaddrStorage := .zero
  data : List Byte := []
  deriving DecidableEq

def SOCK_STREAM : Int := 1

def O_NONBLOCK : BitVec 32 := 0x800#32

/-- `serial` tells two fds with one number apart. `bound` and `peer` are the addresses that the calls
gave: what a kernel makes of port 0 or of a wildcard is left out. -/
structure OpenFile where
  serial : Nat
  flags : BitVec 32
  bound : Option (SockaddrStorage × Nat) := none
  listening : Bool := false
  peer : Option (SockaddrStorage × Nat) := none

def OpenFile.nonBlock (f : OpenFile) : Bool := f.flags.getLsbD 11

/-- `initFlags n` is the status flag word of the `n`-th fd handed out. -/
structure Kernel where
  files : Fd → Option OpenFile
  born : Nat
  initFlags : Nat → BitVec 32

/-- What a failing `close` does to an open fd. -/
inductive CloseFailure where
  | never
  | keeps
  | frees
  deriving DecidableEq

namespace Kernel

def setFile (k : Kernel) (fd : Fd) (f : Option OpenFile) : Kernel :=
  { k with files := Function.update k.files fd f }

def newFile (k : Kernel) (peer : Option (SockaddrStorage × Nat)) : OpenFile :=
  { serial := k.born, flags := k.initFlags k.born, peer }

def opened (k : Kernel) (fd : Fd) (peer : Option (SockaddrStorage × Nat)) : Kernel :=
  { k.setFile fd (some (k.newFile peer)) with born := k.born + 1 }

def handOut (k : Kernel) (fd : Fd) (peer : Option (SockaddrStorage × Nat)) : Option Kernel :=
  if 0 ≤ fd ∧ k.files fd = none then some (k.opened fd peer) else none

def afterFailedClose (m : CloseFailure) (k : Kernel) (fd : Fd) : Option Kernel :=
  match k.files fd, m with
  | none, _ => some k
  | some _, .never => none
  | some _, .keeps => some k
  | some _, .frees => some (k.setFile fd none)

def perform (k : Kernel) (f : OpenFile) (c : Call) (r : Reply) : Option Kernel :=
  match c with
  | .socket .. => none
  | .bind fd addr addrlen =>
    if r.status = 0 then some (k.setFile fd (some { f with bound := some (addr, addrlen) }))
    else none
  | .listen fd _ =>
    if r.status = 0 then some (k.setFile fd (some { f with listening := true })) else none
  | .accept _ addrlen => k.handOut r.status (some (r.sockaddr, addrlen))
  | .connect fd addr addrlen =>
    if r.status = 0 then some (k.setFile fd (some { f with peer := some (addr, addrlen) }))
    else none
  | .send _ buffer _ => if 0 ≤ r.status ∧ r.status ≤ buffer.length then some k else none
  | .recv _ bufferSize _ =>
    if r.status = r.data.length ∧ r.data.length ≤ bufferSize then some k else none
  | .shutdown .. => if r.status = 0 then some k else none
  | .fcntl _ .F_GETFL _ => if r.status = f.flags.toInt then some k else none
  | .fcntl fd .F_SETFL arg =>
    if r.status = 0 then some (k.setFile fd (some { f with flags := arg })) else none
  | .close fd => if r.status = 0 then some (k.setFile fd none) else none

/-- The kernel after it answers `r`, if `r` is an answer it may give. -/
def answer (m : CloseFailure) (k : Kernel) (c : Call) (r : Reply) : Option Kernel :=
  if r.status = -1 then
    match c with
    | .close fd => k.afterFailedClose m fd
    | _ => some k
  else
    match c.fd? with
    | none => k.handOut r.status none
    | some fd => (k.files fd).bind fun f => k.perform f c r

def Answers (m : CloseFailure) (k : Kernel) (c : Call) (r : Reply) (k' : Kernel) : Prop :=
  k.answer m c r = some k'

/-- The answers that are no failures. -/
def Succeeds (m : CloseFailure) (k : Kernel) (c : Call) (r : Reply) (k' : Kernel) : Prop :=
  r.status ≠ -1 ∧ Answers m k c r k'

@[simp] theorem setFile_files (k : Kernel) (fd : Fd) (f : Option OpenFile) :
    (k.setFile fd f).files = Function.update k.files fd f := rfl

@[simp] theorem setFile_born (k : Kernel) (fd : Fd) (f : Option OpenFile) :
    (k.setFile fd f).born = k.born := rfl

@[simp] theorem setFile_initFlags (k : Kernel) (fd : Fd) (f : Option OpenFile) :
    (k.setFile fd f).initFlags = k.initFlags := rfl

@[simp] theorem opened_files (k : Kernel) (fd : Fd) (peer : Option (SockaddrStorage × Nat)) :
    (k.opened fd peer).files = Function.update k.files fd (some (k.newFile peer)) := rfl

@[simp] theorem opened_born (k : Kernel) (fd : Fd) (peer : Option (SockaddrStorage × Nat)) :
    (k.opened fd peer).born = k.born + 1 := rfl

@[simp] theorem opened_initFlags (k : Kernel) (fd : Fd)
    (peer : Option (SockaddrStorage × Nat)) : (k.opened fd peer).initFlags = k.initFlags := rfl

end Kernel

abbrev Ev := Prog.Event Kernel Call Reply

def Failed (e : Ev) : Prop := e.reply.status = -1

instance (e : Ev) : Decidable (Failed e) := inferInstanceAs (Decidable (_ = _))

/-! ## One answer -/

namespace Kernel

variable {m : CloseFailure} {k k' : Kernel} {r : Reply} {fd : Fd}

theorem handOut_eq_some {peer : Option (SockaddrStorage × Nat)} :
    k.handOut fd peer = some k' ↔ 0 ≤ fd ∧ k.files fd = none ∧ k' = k.opened fd peer := by
  unfold handOut
  split <;> simp_all [eq_comm]

theorem answers_socket {d t p : Int} :
    Answers m k (.socket d t p) r k' ↔ (r.status = -1 ∧ k' = k) ∨
      (0 ≤ r.status ∧ k.files r.status = none ∧ k' = k.opened r.status none) := by
  unfold Answers answer
  split
  · simp_all [eq_comm]
  · simp_all [Call.fd?, handOut_eq_some]

theorem answers_failed {c : Call} (h : Answers m k c r k') (hs : r.status = -1)
    (hc : ∀ fd, c ≠ .close fd) : k' = k := by
  unfold Answers answer at h
  rw [if_pos hs] at h
  split at h
  · exact absurd rfl (hc _)
  · exact (Option.some.inj h).symm

/-- A call on an fd, other than `close`: it fails and changes nothing, or the fd is open. -/
theorem answers_on {c : Call} (hfd : c.fd? = some fd) (hc : c ≠ .close fd) :
    Answers m k c r k' ↔ (r.status = -1 ∧ k' = k) ∨
      (r.status ≠ -1 ∧ ∃ f, k.files fd = some f ∧ k.perform f c r = some k') := by
  unfold Answers answer
  split
  · cases c <;> simp_all [Call.fd?, eq_comm]
  · simp_all [Option.bind_eq_some_iff]

theorem answers_update {c : Call} {g : OpenFile → OpenFile} (hfd : c.fd? = some fd)
    (hc : c ≠ .close fd) (hp : ∀ f, k.perform f c r =
      if r.status = 0 then some (k.setFile fd (some (g f))) else none) :
    Answers m k c r k' ↔ (r.status = -1 ∧ k' = k) ∨
      ∃ f, k.files fd = some f ∧ r.status = 0 ∧ k' = k.setFile fd (some (g f)) := by
  rw [answers_on hfd hc]
  simp only [hp, Option.ite_none_right_eq_some, Option.some.injEq]
  grind

theorem answers_connect {addr : SockaddrStorage} {len : Nat} :
    Answers m k (.connect fd addr len) r k' ↔ (r.status = -1 ∧ k' = k) ∨
      ∃ f, k.files fd = some f ∧ r.status = 0 ∧
        k' = k.setFile fd (some { f with peer := some (addr, len) }) :=
  answers_update rfl (by simp) fun _ => rfl

theorem answers_bind {addr : SockaddrStorage} {len : Nat} :
    Answers m k (.bind fd addr len) r k' ↔ (r.status = -1 ∧ k' = k) ∨
      ∃ f, k.files fd = some f ∧ r.status = 0 ∧
        k' = k.setFile fd (some { f with bound := some (addr, len) }) :=
  answers_update rfl (by simp) fun _ => rfl

theorem answers_listen {backlog : Int} :
    Answers m k (.listen fd backlog) r k' ↔ (r.status = -1 ∧ k' = k) ∨
      ∃ f, k.files fd = some f ∧ r.status = 0 ∧
        k' = k.setFile fd (some { f with listening := true }) :=
  answers_update rfl (by simp) fun _ => rfl

theorem answers_setfl {arg : BitVec 32} :
    Answers m k (.fcntl fd .F_SETFL arg) r k' ↔ (r.status = -1 ∧ k' = k) ∨
      ∃ f, k.files fd = some f ∧ r.status = 0 ∧
        k' = k.setFile fd (some { f with flags := arg }) :=
  answers_update rfl (by simp) fun _ => rfl

theorem answers_accept {len : Nat} :
    Answers m k (.accept fd len) r k' ↔ (r.status = -1 ∧ k' = k) ∨
      ((∃ f, k.files fd = some f) ∧ 0 ≤ r.status ∧ k.files r.status = none ∧
        k' = k.opened r.status (some (r.sockaddr, len))) := by
  rw [answers_on rfl (by simp)]
  simp only [perform, handOut_eq_some]
  constructor
  · rintro (h | ⟨-, f, hf, h⟩)
    · exact .inl h
    · exact .inr ⟨⟨f, hf⟩, h⟩
  · rintro (h | ⟨⟨f, hf⟩, h⟩)
    · exact .inl h
    · exact .inr ⟨by omega, f, hf, h⟩

theorem answers_send {buffer : List Byte} {flags : Int} :
    Answers m k (.send fd buffer flags) r k' ↔ (r.status = -1 ∧ k' = k) ∨
      ((∃ f, k.files fd = some f) ∧ 0 ≤ r.status ∧ r.status ≤ buffer.length ∧ k' = k) := by
  rw [answers_on rfl (by simp)]
  simp only [perform, Option.ite_none_right_eq_some, Option.some.injEq]
  grind

theorem answers_recv {size : Nat} {flags : Int} :
    Answers m k (.recv fd size flags) r k' ↔ (r.status = -1 ∧ k' = k) ∨
      ((∃ f, k.files fd = some f) ∧ r.status = r.data.length ∧ r.data.length ≤ size ∧
        k' = k) := by
  rw [answers_on rfl (by simp)]
  simp only [perform, Option.ite_none_right_eq_some, Option.some.injEq]
  grind

theorem answers_shutdown {how : Int} :
    Answers m k (.shutdown fd how) r k' ↔ (r.status = -1 ∧ k' = k) ∨
      ((∃ f, k.files fd = some f) ∧ r.status = 0 ∧ k' = k) := by
  rw [answers_on rfl (by simp)]
  simp only [perform, Option.ite_none_right_eq_some, Option.some.injEq]
  grind

theorem answers_getfl {arg : BitVec 32} :
    Answers m k (.fcntl fd .F_GETFL arg) r k' ↔ (r.status = -1 ∧ k' = k) ∨
      (r.status ≠ -1 ∧ (∃ f, k.files fd = some f ∧ r.status = f.flags.toInt) ∧ k' = k) := by
  rw [answers_on rfl (by simp)]
  simp only [perform, Option.ite_none_right_eq_some, Option.some.injEq]
  grind

theorem answers_close :
    Answers m k (.close fd) r k' ↔ (r.status = -1 ∧ k.afterFailedClose m fd = some k') ∨
      ((∃ f, k.files fd = some f) ∧ r.status = 0 ∧ k' = k.setFile fd none) := by
  unfold Answers answer
  split
  · simp_all
  · simp only [Call.fd?, perform, Option.bind_eq_some_iff, Option.ite_none_right_eq_some,
      Option.some.injEq]
    grind

theorem exists_answer (m : CloseFailure) (k : Kernel) (c : Call) : ∃ r k', Answers m k c r k' := by
  by_cases hc : ∃ fd f, c = .close fd ∧ k.files fd = some f
  · obtain ⟨fd, f, rfl, hf⟩ := hc
    exact ⟨{ status := 0 }, _, answers_close.mpr (.inr ⟨⟨f, hf⟩, rfl, rfl⟩)⟩
  · refine ⟨{ status := -1 }, k, ?_⟩
    unfold Answers answer
    rw [if_pos rfl]
    cases c with
    | close fd =>
      have hnone : k.files fd = none := Option.eq_none_iff_forall_ne_some.mpr fun f hf =>
        hc ⟨fd, f, rfl, hf⟩
      simp [afterFailedClose, hnone]
    | _ => rfl

/-! ## What every answer preserves -/

inductive Effect (k : Kernel) : Call → Reply → Kernel → Prop
  | failed {c r} (hr : r.status = -1) : Effect k c r k
  | kept {c r} (hc : c.Plain) : Effect k c r k
  | updated {c r fd f f'} (hc : c.Plain) (hfd : c.fd? = some fd) (hf : k.files fd = some f)
      (hs : f'.serial = f.serial) : Effect k c r (k.setFile fd (some f'))
  | closed {r fd f} (hf : k.files fd = some f) : Effect k (.close fd) r (k.setFile fd none)
  | opened {c r peer} (hc : c.MakesFd) (h0 : 0 ≤ r.status) (hn : k.files r.status = none) :
      Effect k c r (k.opened r.status peer)

theorem answers_effect {c : Call} (h : Answers m k c r k') : Effect k c r k' := by
  cases c with
  | socket =>
    rcases answers_socket.mp h with ⟨hr, rfl⟩ | ⟨h0, hn, rfl⟩
    · exact .failed hr
    · exact .opened trivial h0 hn
  | bind =>
    rcases answers_bind.mp h with ⟨hr, rfl⟩ | ⟨f, hf, -, rfl⟩
    · exact .failed hr
    · exact .updated trivial rfl hf rfl
  | listen =>
    rcases answers_listen.mp h with ⟨hr, rfl⟩ | ⟨f, hf, -, rfl⟩
    · exact .failed hr
    · exact .updated trivial rfl hf rfl
  | accept =>
    rcases answers_accept.mp h with ⟨hr, rfl⟩ | ⟨-, h0, hn, rfl⟩
    · exact .failed hr
    · exact .opened trivial h0 hn
  | connect =>
    rcases answers_connect.mp h with ⟨hr, rfl⟩ | ⟨f, hf, -, rfl⟩
    · exact .failed hr
    · exact .updated trivial rfl hf rfl
  | send => rcases answers_send.mp h with ⟨-, rfl⟩ | ⟨-, -, -, rfl⟩ <;> exact .kept trivial
  | recv => rcases answers_recv.mp h with ⟨-, rfl⟩ | ⟨-, -, -, rfl⟩ <;> exact .kept trivial
  | shutdown => rcases answers_shutdown.mp h with ⟨-, rfl⟩ | ⟨-, -, rfl⟩ <;> exact .kept trivial
  | fcntl fd cmd arg =>
    cases cmd with
    | F_GETFL => rcases answers_getfl.mp h with ⟨-, rfl⟩ | ⟨-, -, rfl⟩ <;> exact .kept trivial
    | F_SETFL =>
      rcases answers_setfl.mp h with ⟨hr, rfl⟩ | ⟨f, hf, -, rfl⟩
      · exact .failed hr
      · exact .updated trivial rfl hf rfl
  | close fd =>
    rcases answers_close.mp h with ⟨hr, h⟩ | ⟨⟨f, hf⟩, -, rfl⟩
    · unfold afterFailedClose at h
      split at h
      · obtain rfl : k = k' := by simpa using h
        exact .failed hr
      · simp at h
      · obtain rfl : k = k' := by simpa using h
        exact .failed hr
      · obtain rfl : k.setFile fd none = k' := by simpa using h
        exact .closed ‹_›
    · exact .closed hf

theorem answers_mono {c : Call} (h : Answers m k c r k') :
    k.born ≤ k'.born ∧ k'.initFlags = k.initFlags := by
  cases answers_effect h <;> simp

/-- A number that is open is not negative, and every open file has its own serial. -/
structure Wf (k : Kernel) : Prop where
  nonneg : ∀ {fd f}, k.files fd = some f → 0 ≤ fd
  serial_lt : ∀ {fd f}, k.files fd = some f → f.serial < k.born
  serial_inj : ∀ {fd fd' f f'}, k.files fd = some f → k.files fd' = some f' →
    f.serial = f'.serial → fd = fd'

theorem Wf.ne_none (hk : k.Wf) {f : OpenFile} (hf : k.files fd = some f) : fd ≠ -1 := by
  rintro rfl
  exact absurd (hk.nonneg hf) (by decide)

theorem Wf.exists_unused (hk : k.Wf) : ∃ fd, 0 ≤ fd ∧ k.files fd = none := by
  by_contra hall
  simp only [not_exists, not_and, ← ne_eq, Option.ne_none_iff_exists'] at hall
  choose f hf using fun n : ℕ => hall n (Int.natCast_nonneg n)
  -- only finitely many fds were handed out
  refine not_injective_infinite_finite (fun n => (⟨(f n).serial, hk.serial_lt (hf n)⟩ : Fin k.born)) ?_
  intro n n' h
  exact Int.natCast_inj.mp (hk.serial_inj (hf n) (hf n') (Fin.mk.inj h))

theorem Wf.of_serials (hk : k.Wf) (hb : k'.born = k.born)
    (h : ∀ fd f, k'.files fd = some f → ∃ f0, k.files fd = some f0 ∧ f0.serial = f.serial) :
    k'.Wf := by
  constructor
  · intro fd f hf
    obtain ⟨f0, hf0, -⟩ := h fd f hf
    exact hk.nonneg hf0
  · intro fd f hf
    obtain ⟨f0, hf0, hs⟩ := h fd f hf
    rw [hb, ← hs]
    exact hk.serial_lt hf0
  · intro fd fd' f f' hf hf' heq
    obtain ⟨f0, hf0, hs⟩ := h fd f hf
    obtain ⟨f0', hf0', hs'⟩ := h fd' f' hf'
    apply hk.serial_inj hf0 hf0'
    rw [hs, hs', heq]

theorem wf_opened {peer : Option (SockaddrStorage × Nat)} (hk : k.Wf) (h0 : 0 ≤ fd) :
    (k.opened fd peer).Wf := by
  have hold : ∀ {fd' f}, (k.opened fd peer).files fd' = some f →
      (fd' = fd ∧ f.serial = k.born) ∨ k.files fd' = some f := by
    intro fd' f hf
    by_cases hfd : fd' = fd
    · subst hfd
      obtain rfl : k.newFile peer = f := by simpa using hf
      exact .inl ⟨rfl, rfl⟩
    · exact .inr (by simpa [hfd] using hf)
  constructor
  · intro fd' f hf
    rcases hold hf with ⟨rfl, -⟩ | hf
    · exact h0
    · exact hk.nonneg hf
  · intro fd' f hf
    rw [opened_born]
    rcases hold hf with ⟨-, hs⟩ | hf
    · omega
    · have := hk.serial_lt hf
      omega
  · intro fd' fd'' f f' hf hf' heq
    -- an old file does not have the new serial
    rcases hold hf with ⟨rfl, hs⟩ | hold1
    · rcases hold hf' with ⟨rfl, -⟩ | hold2
      · rfl
      · have := hk.serial_lt hold2
        omega
    · rcases hold hf' with ⟨rfl, hs⟩ | hold2
      · have := hk.serial_lt hold1
        omega
      · exact hk.serial_inj hold1 hold2 heq

theorem wf_effect {c : Call} (hk : k.Wf) (h : Effect k c r k') : k'.Wf := by
  cases h with
  | failed | kept => exact hk
  | @updated _ _ fd f f' _ _ hf hs =>
    refine hk.of_serials rfl fun fd' g hg => ?_
    by_cases hfd : fd' = fd
    · subst hfd
      obtain rfl : f' = g := by simpa using hg
      exact ⟨f, hf, hs.symm⟩
    · exact ⟨g, by simpa [hfd] using hg, rfl⟩
  | @closed _ fd _ hf =>
    refine hk.of_serials rfl fun fd' g hg => ?_
    by_cases hfd : fd' = fd
    · simp [hfd] at hg
    · exact ⟨g, by simpa [hfd] using hg, rfl⟩
  | opened _ h0 _ => exact wf_opened hk h0

theorem answers_wf {c : Call} (h : Answers m k c r k') (hk : k.Wf) : k'.Wf :=
  wf_effect hk (answers_effect h)

end Kernel

/-! ## Whole runs -/

section Runs

variable {m : CloseFailure} {k k' : Kernel} {α : Type} {p : Prog Call Reply α} {a : α}
  {evs : List Ev}

theorem exec_mono (h : Prog.Exec (Kernel.Answers m) p k evs a k') :
    k.born ≤ k'.born ∧ k'.initFlags = k.initFlags := by
  induction h with
  | done => exact ⟨le_refl _, rfl⟩
  | call hr _ ih =>
    obtain ⟨h1, h2⟩ := Kernel.answers_mono hr
    exact ⟨h1.trans ih.1, ih.2.trans h2⟩

theorem exec_wf (h : Prog.Exec (Kernel.Answers m) p k evs a k') (hk : k.Wf) : k'.Wf := by
  induction h with
  | done => exact hk
  | call hr _ ih => exact ih (Kernel.answers_wf hr hk)

theorem exec_before (h : Prog.Exec (Kernel.Answers m) p k evs a k') (hk : k.Wf) :
    ∀ e ∈ evs, k.born ≤ e.before.born ∧ e.before.born ≤ k'.born ∧ e.before.Wf := by
  induction h with
  | done => simp
  | call hr hrest ih =>
    have hstep := (Kernel.answers_mono hr).1
    simp only [List.forall_mem_cons]
    refine ⟨⟨le_rfl, hstep.trans (exec_mono hrest).1, hk⟩, fun e he => ?_⟩
    obtain ⟨h1, h2, h3⟩ := ih (Kernel.answers_wf hr hk) e he
    exact ⟨hstep.trans h1, h2, h3⟩

end Runs

end Snl
