import SocketInterface.AddressCodec
import SocketInterface.ServerMode
import SocketInterface.SocketInvariants
import SocketInterface.StreamFailures

/-!
# The sockets of a program agree with the kernel

Whoever made a socket and wherever it was moved, its address, its state and its mode are
those of the file behind its fd.
-/

namespace Snl

open Method Handles

/-! ## The addresses -/

def Records [Host] (a : SocketAddress) (o : Option (SockaddrStorage × Nat)) : Prop :=
  ∃ storage addrlen, o = some (storage, addrlen) ∧ makeSockAddr storage = .ok a

def FileRecords [Host] (get : OpenFile → Option (SockaddrStorage × Nat)) (guard : FdGuard)
    (a : SocketAddress) (k : Kernel) : Prop :=
  guard.fd ≠ -1 → ∀ f, k.files guard.fd = some f → Records a (get f)

section

variable [Host] {get : OpenFile → Option (SockaddrStorage × Nat)} {guard : FdGuard}
  {a : SocketAddress} {k k' : Kernel} {m : CloseFailure} {evs : List Ev}

theorem FileRecords.of_files (h : FileRecords get guard a k)
    (hfiles : guard.fd ≠ -1 → k'.files guard.fd = k.files guard.fd) :
    FileRecords get guard a k' := by
  intro hne f hf
  rw [hfiles hne] at hf
  exact h hne f hf

theorem fileRecords_setFile {f : OpenFile} (h : Records a (get f)) :
    FileRecords get guard a (k.setFile guard.fd (some f)) := by
  intro _ f' hf'
  rw [Kernel.setFile_files, Function.update_self, Option.some.injEq] at hf'
  rwa [← hf']

theorem FileRecords.setFile {f f' : OpenFile} (h : FileRecords get guard a k)
    (hopen : k.files guard.fd = some f) (hget : get f' = get f) :
    FileRecords get guard a (k.setFile guard.fd (some f')) := by
  intro hne
  exact fileRecords_setFile (hget ▸ h hne f hopen) hne

theorem FileRecords.opened {fd : Fd} {peer : Option (SockaddrStorage × Nat)}
    (h : FileRecords get guard a k) {f : OpenFile} (hopen : k.files guard.fd = some f)
    (hn : Fresh k fd) : FileRecords get guard a (k.opened fd peer) := by
  refine h.of_files fun _ => ?_
  rw [Kernel.opened_files, Function.update_of_ne (hn.ne_of_open hopen)]

end

structure ServerSocketFsm.InStep [Host] (s : ServerSocketFsm) (k : Kernel) : Prop where
  owns : s.servSockFd.fd ≠ -1 ↔ s.fsmState.HasSocket
  file : s.fsmState.HasSocket → ∃ f, k.files s.servSockFd.fd = some f ∧ OwnFile s f
  hasMode : HasMode k.initFlags s k

def Socket.InStep [Host] : Socket → Kernel → Prop
  | server (some s), k => s.InStep k
  | stream (some s), _ => s.fsmState = .CLOSED → s.strSoFd.fd = -1
  | server none, _ | stream none, _ => True

section

variable [Host] {k k' : Kernel} {evs : List Ev}

theorem ServerSocketFsm.InStep.agrees {s : ServerSocketFsm} (h : s.InStep k) : Agrees ⟨s, k⟩ := by
  refine ⟨⟨fun ⟨ho, _⟩ => h.owns.mp (FdGuard.ownsFd_iff.mp ho), fun hs => ?_⟩, h.file⟩
  obtain ⟨f, hf, -⟩ := h.file hs
  exact ⟨FdGuard.ownsFd_iff.mpr (h.owns.mpr hs), f, hf⟩

theorem ServerSocketFsm.InStep.of_files {s : ServerSocketFsm} (h : s.InStep k)
    (hinit : k'.initFlags = k.initFlags)
    (hfiles : s.servSockFd.fd ≠ -1 → k'.files s.servSockFd.fd = k.files s.servSockFd.fd) :
    s.InStep k' := by
  by_cases hfd : s.servSockFd.fd = -1
  · have hnone : ¬ s.fsmState.HasSocket := fun hs => h.owns.mpr hs hfd
    exact ⟨h.owns, fun hs => absurd hs hnone, .inl hfd⟩
  · have hsame := hfiles hfd
    refine ⟨h.owns, ?_, ?_⟩
    · rw [hsame]
      exact h.file
    · unfold HasMode
      rw [hsame, hinit]
      exact h.hasMode

omit [Host] in
theorem HasMode.flag {init : Nat → BitVec 32} {s : ServerSocketFsm} (h : HasMode init s k)
    (howns : s.servSockFd.ownsFd = true) : ∃ f, k.files s.servSockFd.fd = some f ∧
      f.nonBlock = s.getNonBlockIO ∧
      ∀ i < 32, i ≠ 11 → f.flags.getLsbD i = (init f.serial).getLsbD i := by
  obtain ⟨f, hf, hflags⟩ := h.resolve_left (FdGuard.ownsFd_iff.mp howns)
  refine ⟨f, hf, ?_, fun i hi hne => ?_⟩
  · unfold OpenFile.nonBlock
    rw [hflags, blockingFlags_bit _ _ _ (by decide), if_pos rfl]
    rfl
  · rw [hflags, blockingFlags_bit _ _ _ hi, if_neg hne]

end

end Snl
