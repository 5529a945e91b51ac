import SocketInterface.Exceptions
import SocketInterface.LineRuns

/-!
# Both ends of a connection

Two peers use one connection, in any order: they send, receive, shut one direction or
both, and each call may fail. What one of them receives is what the other one sent, and
an end of file says that this is all of it.
-/

namespace Snl

open Method

/-! ## One end -/

/-- No flag but the two that this library passes and MSG_NOSIGNAL. The others (MSG_PEEK, MSG_OOB,
MSG_TRUNC, …) take bytes out of the order of the stream. -/
def PlainFlags (flags : Int) : Prop :=
  BitVec.ofInt 32 flags &&& ~~~BitVec.ofInt 32 (MSG_DONTWAIT + MSG_WAITALL + 0x4000) = 0

instance (flags : Int) : Decidable (PlainFlags flags) := inferInstanceAs (Decidable (_ = _))

/-- What one end did: the bytes that `send` took and `recv` gave, whether it said that nothing more
comes, whether one of its calls failed, and whether a `close` that failed took its fd away. -/
structure Endpoint where
  sent : List Byte := []
  shut : Bool := false
  got : List Byte := []
  hurt : Bool := false
  gone : Bool := false

namespace Endpoint

/-- The answers to the calls on `fd`, with `peer` at the other end. Bytes come in their order, and
the stream ends behind the last one; after a failure it may end early. Every call may fail. A
`close` that fails may leave the fd or free it; the stream ends there, and so do the answers. -/
inductive Answers (fd : Fd) (peer : Endpoint) : Endpoint → Call → Reply → Endpoint → Prop
  | taken {mine buffer flags} {n : Nat} {r : Reply} (hflags : PlainFlags flags)
      (hopen : mine.shut = false) (hn : n ≤ buffer.length) (hr : r.status = n) :
      Answers fd peer mine (.send fd buffer flags) r
        { mine with sent := mine.sent ++ buffer.take n }
  | bytes {mine size flags r} (hflags : PlainFlags flags) (hopen : mine.gone = false)
      (hr : r.status = r.data.length) (hne : r.data ≠ [])
      (hsize : r.data.length ≤ size) (hpre : mine.got ++ r.data <+: peer.sent) :
      Answers fd peer mine (.recv fd size flags) r { mine with got := mine.got ++ r.data }
  | nothing {mine size flags r} (hflags : PlainFlags flags) (hopen : mine.gone = false)
      (hr : r.status = 0) (hdata : r.data = [])
      (hend : size = 0 ∨ mine.hurt = true ∨ (peer.shut = true ∧ mine.got = peer.sent)) :
      Answers fd peer mine (.recv fd size flags) r mine
  | shutUp {mine r} (hopen : mine.gone = false) (hr : r.status = 0) :
      Answers fd peer mine (.shutdown fd StreamSocketFsm.upstreamShutdown) r
        { mine with shut := true }
  | shutDown {mine r} (hopen : mine.gone = false) (hr : r.status = 0) :
      Answers fd peer mine (.shutdown fd StreamSocketFsm.downstreamShutdown) r mine
  | closed {mine r} (hopen : mine.gone = false) (hr : r.status = 0) :
      Answers fd peer mine (.close fd) r { mine with shut := true }
  | freed {mine r} (hr : r.status = -1) :
      Answers fd peer mine (.close fd) r { mine with shut := true, hurt := true, gone := true }
  | mode {mine cmd arg r} (hopen : mine.gone = false) (hr : r.status ≠ -1) :
      Answers fd peer mine (.fcntl fd cmd arg) r mine
  | failed {mine c r} (hr : r.status = -1) : Answers fd peer mine c r { mine with hurt := true }

theorem answers_shutdown {fd fd' : Fd} {peer mine mine' : Endpoint} {how : Int} {r : Reply}
    (h : Answers fd peer mine (.shutdown fd' how) r mine') :
    (r.status = -1 ∧ mine' = { mine with hurt := true }) ∨
      (r.status = 0 ∧ mine.gone = false ∧
        ((how = StreamSocketFsm.upstreamShutdown ∧ mine' = { mine with shut := true }) ∨
        (how = StreamSocketFsm.downstreamShutdown ∧ mine' = mine))) := by
  cases h with
  | shutUp hopen hr => exact .inr ⟨hr, hopen, .inl ⟨rfl, rfl⟩⟩
  | shutDown hopen hr => exact .inr ⟨hr, hopen, .inr ⟨rfl, rfl⟩⟩
  | failed hr => exact .inl ⟨hr, rfl⟩

structure Grows (peer mine mine' : Endpoint) : Prop where
  shut : mine.shut = true → mine'.shut = true
  sent : mine.shut = true → mine'.sent = mine.sent
  got : mine.got <+: peer.sent → mine'.got <+: peer.sent
  all : mine.got = peer.sent → mine'.got = peer.sent

variable {fd : Fd} {peer mine mine' : Endpoint} {c : Call} {r : Reply}

theorem answers_grows (h : Answers fd peer mine c r mine') : Grows peer mine mine' := by
  cases h with
  | taken _ hopen => exact ⟨by simp [hopen], by simp [hopen], id, id⟩
  | bytes _ _ hr hne hsize hpre =>
    refine ⟨id, fun _ => rfl, fun _ => hpre, fun hall => ?_⟩
    rw [hall] at hpre
    obtain ⟨rest, hrest⟩ := hpre
    simp [hne] at hrest
  | nothing | shutDown | mode | failed => exact ⟨id, fun _ => rfl, id, id⟩
  | shutUp | closed | freed => exact ⟨fun _ => rfl, fun _ => rfl, id, id⟩

theorem answers_hurt (h : Answers fd peer mine c r mine') :
    mine'.hurt = true → mine.hurt = true ∨ thrownFor c r ≠ none := by
  cases h with
  | freed hr => exact fun _ => .inr (by simp [thrownFor, hr])
  | failed hr =>
    refine fun _ => .inr ?_
    cases c <;> simp [thrownFor, hr]
  | _ => exact fun hurt => .inl hurt

theorem exec_grows {α : Type} {p : Prog Call Reply α} {a : α}
    {evs : List (Prog.Event Endpoint Call Reply)}
    (h : Prog.Exec (Answers fd peer) p mine evs a mine') : Grows peer mine mine' := by
  induction h with
  | done => exact ⟨id, fun _ => rfl, id, id⟩
  | call hr _ ih =>
    have hstep := answers_grows hr
    refine ⟨fun hs => ih.shut (hstep.shut hs), fun hs => ?_, fun hg => ih.got (hstep.got hg),
      fun hg => ih.all (hstep.all hg)⟩
    rw [ih.sent (hstep.shut hs), hstep.sent hs]

theorem exec_hurt {α : Type} {p : Prog Call Reply α} {a : α}
    {evs : List (Prog.Event Endpoint Call Reply)}
    (h : Prog.Exec (Answers fd peer) p mine evs a mine') (hurt : mine'.hurt = true) :
    mine.hurt = true ∨ snlBlame.failures evs ≠ [] := by
  induction h with
  | done => exact .inl hurt
  | @call c k w w1 w' r evs a hr _ ih =>
    rw [Blame.failures_cons]
    rcases ih hurt with hurt | hne
    · rcases answers_hurt hr hurt with hurt | hne
      · exact .inl hurt
      · refine .inr ?_
        obtain ⟨e, he⟩ := Option.ne_none_iff_exists'.mp hne
        simp [snlBlame, he]
    · exact .inr (by simp [hne])

end Endpoint

/-! ## One operation -/

def sentBytes : StrSoOp → Except SnlException StrSoValue → List Byte
  | .send buffer _, .ok (.sent n) => buffer.take n
  | _, _ => []

def receivedBytes : StrSoOp → Except SnlException StrSoValue → List Byte
  | .receive .., .ok (.received _ bytes) => bytes
  | _, _ => []

/-- Not the operations that make another connection, and no flag that changes the order. -/
def OnConnection : StrSoOp → Prop
  | .connect _ | .resetConnection => False
  | .send _ flags | .receive _ flags => PlainFlags flags
  | _ => True

def CloseFailed (r : Except SnlException StrSoValue) : Prop :=
  ∃ no, r = .error (.errno "FdGuard error: " no)

namespace StreamSocketFsm

def SaysMore (s : StreamSocketFsm) : Prop := s.fsmState = .CONNECTED ∨ s.fsmState = .DCLOSED

structure OfEnd (fd : Fd) (s : StreamSocketFsm) (mine : Endpoint) : Prop where
  isFd : fd ≠ -1
  own : s.strSoFd.fd = if s.fsmState = .INIT ∨ s.fsmState = .CLOSED then -1 else fd
  shut : mine.shut = true ↔ ¬ s.SaysMore ∨ mine.gone = true

structure EndStep (fd : Fd) (peer : Endpoint) (op : StrSoOp)
    (r : Except SnlException StrSoValue) (s' : StreamSocketFsm) (mine mine' : Endpoint) : Prop where
  agree : s'.OfEnd fd mine'
  sent : mine'.sent = mine.sent ++ sentBytes op r
  got : mine'.got = mine.got ++ receivedBytes op r
  eof : ∀ msg, r = .error (.eof msg) →
    mine.hurt = true ∨ (peer.shut = true ∧ mine.got = peer.sent)
  gone : mine'.gone = true → mine.gone = true ∨ CloseFailed r

section

variable {fd : Fd} {s s' : StreamSocketFsm} {peer mine mine' : Endpoint}
  {evs : List (Prog.Event Endpoint Call Reply)}

theorem syscall_runs {σ : Type} {t t' : σ} {W : Type} {env : W → Call → Reply → W → Prop}
    {w w' : W} {evs : List (Prog.Event W Call Reply)} {c : Call} {r : Except SnlException Reply}
    (h : Runs env (executeSyscall c (-1) : M σ Reply) t w evs r t' w') :
    t' = t ∧ ∃ rep, env w c rep w' ∧
      ((rep.status = -1 ∧ r = .error (.errno "System call error: " rep.errno)) ∨
        (rep.status ≠ -1 ∧ r = .ok rep)) := by
  unfold executeSyscall at h
  simp only [runs_issue_bind, runs_ite, runs_raise, runs_pure] at h
  obtain ⟨rep, w1, evs1, hr, ⟨hs, -, rfl, rfl, rfl⟩ | ⟨hs, -, rfl, rfl, rfl⟩, -⟩ := h
  · exact ⟨rfl, rep, hr, .inl ⟨hs, rfl⟩⟩
  · exact ⟨rfl, rep, hr, .inr ⟨hs, rfl⟩⟩

theorem EndStep.same (hs : s.OfEnd fd mine) {op : StrSoOp} {r : Except SnlException StrSoValue}
    (hport : mine' = mine ∨ mine' = { mine with hurt := true }) (htaken : sentBytes op r = [])
    (hgiven : receivedBytes op r = []) (heof : ∀ msg, r ≠ .error (.eof msg)) :
    EndStep fd peer op r s mine mine' := by
  obtain ⟨hfd, hown, hshut⟩ := hs
  rcases hport with rfl | rfl <;>
    exact ⟨⟨hfd, hown, hshut⟩, by simp [htaken], by simp [hgiven],
      fun msg h => absurd h (heof msg), .inl⟩

/-- The `close` of an operation failed: the fd is there, or it is not. -/
theorem EndStep.closeFailed (hs : s.OfEnd fd mine) {op : StrSoOp}
    {r : Except SnlException StrSoValue} (hr : CloseFailed r)
    (hport : mine' = { mine with hurt := true } ∨
      mine' = { mine with shut := true, hurt := true, gone := true }) :
    EndStep fd peer op r s mine mine' := by
  obtain ⟨no, rfl⟩ := hr
  rcases hport with rfl | rfl
  · exact .same hs (.inr rfl) (by simp [sentBytes]) (by simp [receivedBytes]) (by simp)
  · exact ⟨⟨hs.isFd, hs.own, by simp⟩, by simp [sentBytes], by simp [receivedBytes], by simp,
      fun _ => .inr ⟨no, rfl⟩⟩

theorem send_end (hs : s.OfEnd fd mine) {buffer : List Byte} {flags : Int}
    {r : Except SnlException Nat}
    (h : Runs (Endpoint.Answers fd peer) (send buffer flags) s mine evs r s' mine') :
    EndStep fd peer (.send buffer flags) (r.map .sent) s' mine mine' := by
  unfold send sendCheck at h
  rw [runs_self_bind, runs_check_bind] at h
  rcases h with ⟨-, -, rfl, rfl, rfl⟩ | ⟨-, h⟩
  · exact .same hs (.inl rfl) rfl rfl (by simp [Except.map])
  rcases runs_bind.mp h with ⟨e, rfl, hx⟩ | ⟨reply, _, w1, _, _, hx, hrest, rfl⟩
  · obtain ⟨rfl, rep, ha, ⟨hst, he⟩ | ⟨-, he⟩⟩ := syscall_runs hx
    · obtain rfl := Except.error.inj he
      cases ha with
      | taken _ _ _ hr => omega
      | failed => exact .same hs (.inr rfl) rfl rfl (by simp [Except.map])
    · cases he
  · obtain ⟨rfl, rep, ha, ⟨-, he⟩ | ⟨hst, he⟩⟩ := syscall_runs hx
    · cases he
    · obtain rfl := Except.ok.inj he
      obtain ⟨-, rfl, rfl, rfl⟩ := runs_pure.mp hrest
      cases ha with
      | taken _ _ hn hr =>
        refine ⟨⟨hs.isFd, hs.own, hs.shut⟩, ?_, by simp [receivedBytes], by simp [Except.map], .inl⟩
        simp [sentBytes, Except.map, hr]
      | failed hr => exact absurd hr hst

theorem receive_end (hs : s.OfEnd fd mine) {bufferSize : Nat} {flags : Int}
    {r : Except SnlException (Nat × List Byte)}
    (h : Runs (Endpoint.Answers fd peer) (receive bufferSize flags) s mine evs r s' mine') :
    EndStep fd peer (.receive bufferSize flags) (r.map fun got => .received got.1 got.2)
      s' mine mine' := by
  unfold receive receiveCheck at h
  rw [runs_self_bind, runs_check_bind] at h
  rcases h with ⟨-, -, rfl, rfl, rfl⟩ | ⟨-, h⟩
  · exact .same hs (.inl rfl) rfl rfl (by simp [Except.map])
  rcases runs_bind.mp h with ⟨e, rfl, hx⟩ | ⟨reply, _, w1, _, _, hx, hrest, rfl⟩
  · obtain ⟨rfl, rep, ha, ⟨hst, he⟩ | ⟨-, he⟩⟩ := syscall_runs hx
    · obtain rfl := Except.error.inj he
      cases ha with
      | bytes _ _ hr | nothing _ _ hr => omega
      | failed => exact .same hs (.inr rfl) rfl rfl (by simp [Except.map])
    · cases he
  · obtain ⟨rfl, rep, ha, ⟨-, he⟩ | ⟨hst, he⟩⟩ := syscall_runs hx
    · cases he
    obtain rfl := Except.ok.inj he
    dsimp only at hrest
    rw [runs_ite, runs_raise, runs_pure] at hrest
    cases ha with
    | bytes _ _ hr hne hsize =>
      have hpos := List.length_pos_iff.mpr hne
      rcases hrest with ⟨⟨h0, -⟩, -⟩ | ⟨-, -, rfl, rfl, rfl⟩
      · omega
      · exact ⟨⟨hs.isFd, hs.own, hs.shut⟩, by simp [sentBytes],
          by simp [receivedBytes, Except.map], by simp [Except.map], .inl⟩
    | nothing _ _ hr hdata hend =>
      rcases hrest with ⟨⟨-, hsize⟩, -, rfl, rfl, rfl⟩ | ⟨-, -, rfl, rfl, rfl⟩
      · exact ⟨hs, by simp [sentBytes], by simp [receivedBytes, Except.map],
          fun _ _ => hend.resolve_left hsize, .inl⟩
      · exact .same hs (.inl rfl) rfl (by simp [receivedBytes, Except.map, hdata])
          (by simp [Except.map])
    | failed hr => exact absurd hr hst

structure Shuts (s : StreamSocketFsm) (mine : Endpoint) (s' : StreamSocketFsm) (mine' : Endpoint) :
    Prop where
  fsm : s' = { s with strSoFd := ⟨-1⟩ }
  shut : mine'.shut = true
  sent : mine'.sent = mine.sent
  got : mine'.got = mine.got
  gone : mine'.gone = mine.gone

theorem closeFd_end (hs : s.OfEnd fd mine) {r : Except SnlException Unit}
    (h : Runs (Endpoint.Answers fd peer) (onFd FdGuard.close) s mine evs r s' mine') :
    (r = .ok () ∧ Shuts s mine s' mine') ∨
      ((∃ no, r = .error (.errno "FdGuard error: " no)) ∧ s' = s ∧
        (mine' = { mine with hurt := true } ∨
          mine' = { mine with shut := true, hurt := true, gone := true })) := by
  obtain ⟨g, hg, rfl⟩ := runs_zoom.mp h
  unfold FdGuard.close FdGuard.closeFd at hg
  rw [runs_self_bind] at hg
  by_cases hstate : s.fsmState = .INIT ∨ s.fsmState = .CLOSED
  · have hfd : s.strSoFd.fd = -1 := by rw [hs.own, if_pos hstate]
    rw [if_pos (by simp [hfd]), runs_pure_bind, runs_update] at hg
    obtain ⟨-, rfl, rfl, rfl⟩ := hg
    have hshut : mine'.shut = true := by
      rw [hs.shut, SaysMore]
      rcases hstate with h | h <;> simp [h]
    exact .inl ⟨rfl, rfl, hshut, rfl, rfl, rfl⟩
  · have hfd : s.strSoFd.fd = fd := by rw [hs.own, if_neg hstate]
    rw [hfd, if_neg (by simpa using hs.isFd)] at hg
    rcases runs_bind.mp hg with ⟨e, rfl, hx⟩ | ⟨_, _, w1, _, _, hx, hu, rfl⟩
    · rw [runs_issue_bind] at hx
      obtain ⟨rep, w1, _, ha, hx, -⟩ := hx
      rw [runs_ite, runs_raise, runs_pure] at hx
      rcases hx with ⟨hst, -, he, rfl, rfl⟩ | ⟨-, -, he, -⟩
      · obtain rfl := Except.error.inj he
        cases ha with
        | closed _ hr => exact absurd hr hst
        | freed => exact .inr ⟨⟨_, rfl⟩, rfl, .inr rfl⟩
        | failed => exact .inr ⟨⟨_, rfl⟩, rfl, .inl rfl⟩
      · cases he
    · rw [runs_issue_bind] at hx
      obtain ⟨rep, w2, _, ha, hx, -⟩ := hx
      obtain ⟨-, rfl, rfl, rfl⟩ := runs_update.mp hu
      rw [runs_ite, runs_raise, runs_pure] at hx
      rcases hx with ⟨-, -, he, -⟩ | ⟨hst, -, -, rfl, rfl⟩
      · cases he
      · cases ha with
        | closed => exact .inl ⟨rfl, rfl, rfl, rfl, rfl, rfl⟩
        | freed hr | failed hr => omega

theorem close_end (hs : s.OfEnd fd mine) {op : StrSoOp}
    (hop : ∀ r, sentBytes op r = [] ∧ receivedBytes op r = [])
    {r : Except SnlException Unit}
    (h : Runs (Endpoint.Answers fd peer) close s mine evs r s' mine') :
    EndStep fd peer op (r.map fun _ => .unit) s' mine mine' := by
  unfold close closeCheck at h
  rw [runs_self_bind, runs_check_bind] at h
  rcases h with ⟨-, -, rfl, rfl, rfl⟩ | ⟨-, h⟩
  · exact .same hs (.inl rfl) (hop _).1 (hop _).2 (by simp [Except.map])
  rcases runs_bind.mp h with ⟨e, rfl, hx⟩ | ⟨_, s1, w1, _, _, hx, hu, rfl⟩
  · rcases closeFd_end hs hx with ⟨he, -⟩ | ⟨⟨no, he⟩, rfl, hport⟩
    · cases he
    · obtain rfl := Except.error.inj he
      exact .closeFailed hs ⟨no, rfl⟩ hport
  · obtain ⟨-, rfl, rfl, rfl⟩ := runs_update.mp hu
    rcases closeFd_end hs hx with ⟨-, rfl, hshut, hsent, hgot, hgone⟩ | ⟨⟨no, he⟩, -⟩
    · refine ⟨⟨hs.isFd, by simp, by simp [SaysMore, hshut]⟩, ?_, ?_, by simp [Except.map],
        fun h => .inl (hgone ▸ h)⟩
      · rw [hsent, (hop _).1, List.append_nil]
      · rw [hgot, (hop _).2, List.append_nil]
    · cases he

theorem reset_end (hs : s.OfEnd fd mine) {r : Except SnlException Unit}
    (h : Runs (Endpoint.Answers fd peer) reset s mine evs r s' mine') :
    EndStep fd peer .reset (r.map fun _ => .unit) s' mine mine' := by
  unfold reset at h
  rcases runs_bind.mp h with ⟨e, rfl, hx⟩ | ⟨_, s1, w1, _, _, hx, hu, rfl⟩
  · rcases closeFd_end hs hx with ⟨he, -⟩ | ⟨⟨no, he⟩, rfl, hport⟩
    · cases he
    · obtain rfl := Except.error.inj he
      exact .closeFailed hs ⟨no, rfl⟩ hport
  · obtain ⟨-, rfl, rfl, rfl⟩ := runs_update.mp hu
    rcases closeFd_end hs hx with ⟨-, rfl, hshut, hsent, hgot, hgone⟩ | ⟨⟨no, he⟩, -⟩
    · exact ⟨⟨hs.isFd, by simp, by simp [SaysMore, hshut]⟩, by simp [hsent, sentBytes],
        by simp [hgot, receivedBytes], by simp [Except.map], fun h => .inl (hgone ▸ h)⟩
    · cases he

/-- `down` tells the two directions apart. -/
theorem closeDirection_end (hs : s.OfEnd fd mine) {op : StrSoOp}
    (hop : ∀ r, sentBytes op r = [] ∧ receivedBytes op r = [])
    {check : StrSoFsmState → M StreamSocketFsm Unit}
    (hcheck : ∀ current, ∃ p : Prop, ∃ _ : Decidable p, ∃ text,
      check current = if p then raise (.plain text) else pure ()) (down : Bool)
    {r : Except SnlException Unit}
    (h : Runs (Endpoint.Answers fd peer) (closeDirection check
      (if down then downstreamShutdown else upstreamShutdown) (if down then .DCLOSED else .UCLOSED))
      s mine evs r s' mine') :
    EndStep fd peer op (r.map fun _ => .unit) s' mine mine' := by
  unfold closeDirection at h
  obtain ⟨p, _, text, hp⟩ := hcheck s.fsmState
  rw [runs_self_bind, hp, runs_check_bind] at h
  rcases h with ⟨-, -, rfl, rfl, rfl⟩ | ⟨-, h⟩
  · exact .same hs (.inl rfl) (hop _).1 (hop _).2 (by simp [Except.map])
  rcases runs_ite.mp h with ⟨hconn, h⟩ | ⟨-, h⟩
  · rcases runs_bind.mp h with ⟨e, rfl, hx⟩ | ⟨reply, _, w1, _, _, hx, hu, rfl⟩
    · obtain ⟨rfl, rep, ha, ⟨hst, he⟩ | ⟨-, he⟩⟩ := syscall_runs hx
      · obtain rfl := Except.error.inj he
        rcases Endpoint.answers_shutdown ha with ⟨-, rfl⟩ | ⟨hst', -⟩
        · exact .same hs (.inr rfl) (hop _).1 (hop _).2 (by simp [Except.map])
        · omega
      · cases he
    · obtain ⟨-, rfl, rfl, rfl⟩ := runs_update.mp hu
      obtain ⟨rfl, rep, ha, ⟨-, he⟩ | ⟨hst, he⟩⟩ := syscall_runs hx
      · cases he
      have hown := hs.own
      have hshut := hs.shut
      simp only [SaysMore, hconn, reduceCtorEq, or_self, or_false, false_or, if_false, not_true]
        at hown hshut
      rcases Endpoint.answers_shutdown ha with ⟨hst', -⟩ | ⟨-, hopen, ⟨hhow, rfl⟩ | ⟨hhow, rfl⟩⟩
      · exact absurd hst' hst
      · obtain rfl : down = false := by
          cases down with
          | false => rfl
          | true => exact absurd hhow (by decide)
        exact ⟨⟨hs.isFd, by simpa using hown, by simp [SaysMore]⟩, by simp [(hop _).1],
          by simp [(hop _).2], by simp [Except.map], .inl⟩
      · obtain rfl : down = true := by
          cases down with
          | true => rfl
          | false => exact absurd hhow (by decide)
        exact ⟨⟨hs.isFd, by simpa using hown, by simp [SaysMore, hshut]⟩, by simp [(hop _).1],
          by simp [(hop _).2], by simp [Except.map], .inl⟩
  · exact close_end hs hop h

theorem setNonBlock_end (hs : s.OfEnd fd mine) {nonBlockVal : Bool} {r : Except SnlException Unit}
    (h : Runs (Endpoint.Answers fd peer) (setNonBlock nonBlockVal) s mine evs r s' mine') :
    EndStep fd peer (.setNonBlock nonBlockVal) (r.map fun _ => .unit) s' mine mine' := by
  have hfcntl : ∀ {mine mine' fd' cmd arg rep},
      Endpoint.Answers fd peer mine (.fcntl fd' cmd arg) rep mine' →
      (rep.status ≠ -1 ∧ mine' = mine) ∨
        (rep.status = -1 ∧ mine' = { mine with hurt := true }) := by
    intro _ _ _ _ _ _ ha
    cases ha with
    | mode _ hr => exact .inl ⟨hr, rfl⟩
    | failed hr => exact .inr ⟨hr, rfl⟩
  unfold setNonBlock setFdBlockingBehav fcntlBlockingBehav at h
  rw [runs_self_bind, runs_ite, runs_ite, runs_pure] at h
  rcases h with ⟨-, -, rfl, rfl, rfl⟩ | ⟨-, ⟨-, -, rfl, rfl, rfl⟩ | ⟨-, h⟩⟩
  · exact .same hs (.inl rfl) rfl rfl (by simp [Except.map])
  · exact .same hs (.inl rfl) rfl rfl (by simp [Except.map])
  rcases runs_bind.mp h with ⟨e, rfl, hx⟩ | ⟨reply, _, w1, _, _, hx, hset, rfl⟩
  · obtain ⟨rfl, rep, ha, ⟨hst, he⟩ | ⟨-, he⟩⟩ := syscall_runs hx
    · obtain rfl := Except.error.inj he
      exact .same hs ((hfcntl ha).imp And.right And.right) rfl rfl (by simp [Except.map])
    · cases he
  obtain ⟨rfl, rep, ha, ⟨-, he⟩ | ⟨hst, he⟩⟩ := syscall_runs hx
  · cases he
  obtain ⟨-, rfl⟩ := (hfcntl ha).resolve_right fun h => hst h.1
  rcases runs_bind.mp hset with ⟨e, rfl, hx⟩ | ⟨_, _, w1, _, _, hx, hend, -⟩
  · obtain ⟨rfl, rep, ha, ⟨hst, he⟩ | ⟨-, he⟩⟩ := syscall_runs hx
    · obtain rfl := Except.error.inj he
      exact .same hs ((hfcntl ha).imp And.right And.right) rfl rfl (by simp [Except.map])
    · cases he
  · obtain ⟨-, rfl, rfl, rfl⟩ := runs_pure.mp hend
    obtain ⟨rfl, rep, ha, -⟩ := syscall_runs hx
    exact .same hs ((hfcntl ha).imp And.right And.right) rfl rfl (by simp [Except.map])

theorem perform_end [Host] (hs : s.OfEnd fd mine) {op : StrSoOp} (hop : OnConnection op)
    {r : Except SnlException StrSoValue}
    (h : Runs (Endpoint.Answers fd peer) (perform op) s mine evs r s' mine') :
    EndStep fd peer op r s' mine mine' := by
  cases op with
  | connect | resetConnection => exact hop.elim
  | send =>
    obtain ⟨r0, hx, rfl⟩ := runs_bind_pure.mp h
    exact send_end hs hx
  | receive =>
    obtain ⟨r0, hx, rfl⟩ := runs_bind_pure.mp h
    exact receive_end hs hx
  | closeUpstream =>
    obtain ⟨r0, hx, rfl⟩ := runs_bind_pure.mp h
    exact closeDirection_end hs (fun _ => ⟨rfl, rfl⟩) (fun _ => ⟨_, _, _, rfl⟩) false hx
  | closeDownstream =>
    obtain ⟨r0, hx, rfl⟩ := runs_bind_pure.mp h
    exact closeDirection_end hs (fun _ => ⟨rfl, rfl⟩) (fun _ => ⟨_, _, _, rfl⟩) true hx
  | close =>
    obtain ⟨r0, hx, rfl⟩ := runs_bind_pure.mp h
    exact close_end hs (fun _ => ⟨rfl, rfl⟩) hx
  | reset =>
    obtain ⟨r0, hx, rfl⟩ := runs_bind_pure.mp h
    exact reset_end hs hx
  | setNonBlock =>
    obtain ⟨r0, hx, rfl⟩ := runs_bind_pure.mp h
    exact setNonBlock_end hs hx
  | getSockAddress =>
    obtain ⟨r0, hx, rfl⟩ := runs_bind_pure.mp h
    unfold getSockAddress at hx
    rw [runs_self_bind, runs_ite, runs_raise, runs_pure] at hx
    rcases hx with ⟨-, -, rfl, rfl, rfl⟩ | ⟨-, -, rfl, rfl, rfl⟩ <;>
      exact .same hs (.inl rfl) rfl rfl (by simp [Except.map])
  | isNonBlock | isConnected | upstreamClosed | downStreamClosed | isClosed =>
    unfold perform at h
    rw [runs_self_bind, runs_pure] at h
    obtain ⟨-, rfl, rfl, rfl⟩ := h
    exact .same hs (.inl rfl) rfl rfl (by simp)

end

end StreamSocketFsm

theorem errno_of_failures {evs : List (Prog.Event Endpoint Call Reply)} {α : Type}
    {r : Except SnlException α} (htold : snlBlame.Told (snlBlame.failures evs) r)
    (hne : snlBlame.failures evs ≠ []) : ∃ msg no, r = .error (.errno msg no) := by
  match r with
  | .ok _ => exact absurd htold hne
  | .error e =>
    have he : e ∈ snlBlame.failures evs := by
      rw [htold.resolve_right fun h => hne h.1]
      exact List.mem_singleton_self e
    obtain ⟨x, -, hx⟩ := List.mem_filterMap.mp he
    obtain ⟨msg, no, rfl⟩ := thrownFor_errno hx
    exact ⟨msg, no, rfl⟩

/-! ## The connection -/

inductive Side where
  | near
  | far
  deriving DecidableEq

def Side.other : Side → Side
  | near => far
  | far => near

theorem Side.other_ne (i : Side) : i.other ≠ i := by cases i <;> decide

@[simp] theorem Side.other_other (i : Side) : i.other.other = i := by cases i <;> rfl

theorem Side.eq_or_other (i j : Side) : j = i ∨ j = i.other := by cases i <;> cases j <;> decide

structure End where
  fsm : StreamSocketFsm
  port : Endpoint

abbrev Duplex := Side → End

structure Deed where
  side : Side
  op : StrSoOp
  result : Except SnlException StrSoValue

abbrev DuplexMove := Move Duplex Deed

def DuplexStep [Host] (fd : Side → Fd) (c : Duplex) (l : Deed) (c' : Duplex) : Prop :=
  OnConnection l.op ∧ ∃ evs fsm' port',
    Runs (Endpoint.Answers (fd l.side) (c l.side.other).port) (StreamSocketFsm.perform l.op)
      (c l.side).fsm (c l.side).port evs l.result fsm' port' ∧
    c' = Function.update c l.side ⟨fsm', port'⟩

def sentBy (i : Side) (t : List DuplexMove) : List Byte :=
  t.flatMap fun x => if x.label.side = i then sentBytes x.label.op x.label.result else []

def gotBy (i : Side) (t : List DuplexMove) : List Byte :=
  t.flatMap fun x => if x.label.side = i then receivedBytes x.label.op x.label.result else []

/-- One of the operations of this side threw the failure of a system call. -/
def Hurt (i : Side) (t : List DuplexMove) : Prop :=
  ∃ x ∈ t, x.label.side = i ∧ ∃ msg no, x.label.result = .error (.errno msg no)

/-- One of them threw the failure of a `close`. -/
def Lost (i : Side) (t : List DuplexMove) : Prop :=
  ∃ x ∈ t, x.label.side = i ∧ CloseFailed x.label.result

section

variable {t : List DuplexMove} {i : Side}

@[simp] theorem sentBy_snoc (x : DuplexMove) : sentBy i (t ++ [x]) =
    sentBy i t ++ if x.label.side = i then sentBytes x.label.op x.label.result else [] := by
  simp [sentBy]

@[simp] theorem gotBy_snoc (x : DuplexMove) : gotBy i (t ++ [x]) =
    gotBy i t ++ if x.label.side = i then receivedBytes x.label.op x.label.result else [] := by
  simp [gotBy]

theorem hurt_snoc {x : DuplexMove} : Hurt i (t ++ [x]) ↔
    Hurt i t ∨ (x.label.side = i ∧ ∃ msg no, x.label.result = .error (.errno msg no)) := by
  simp [Hurt, or_and_right, exists_or]

theorem lost_snoc {x : DuplexMove} :
    Lost i (t ++ [x]) ↔ Lost i t ∨ (x.label.side = i ∧ CloseFailed x.label.result) := by
  simp [Lost, or_and_right, exists_or]

end

section

variable [Host] {fd : Side → Fd} {c0 c c' : Duplex} {t : List DuplexMove} {l : Deed} {i : Side}

structure Acts (fd : Side → Fd) (c : Duplex) (l : Deed) (c' : Duplex) : Prop where
  other : c' l.side.other = c l.side.other
  step : StreamSocketFsm.EndStep (fd l.side) (c l.side.other).port l.op l.result (c' l.side).fsm
    (c l.side).port (c' l.side).port
  grows : Endpoint.Grows (c l.side.other).port (c l.side).port (c' l.side).port
  hurt : (c' l.side).port.hurt = true → (c l.side).port.hurt = true ∨
    ∃ msg no, l.result = .error (.errno msg no)

theorem duplexStep_acts (hs : (c l.side).fsm.OfEnd (fd l.side) (c l.side).port)
    (h : DuplexStep fd c l c') : Acts fd c l c' := by
  obtain ⟨hop, evs, fsm', port', hx, rfl⟩ := h
  have hself : Function.update c l.side ⟨fsm', port'⟩ l.side = ⟨fsm', port'⟩ :=
    Function.update_self ..
  refine ⟨Function.update_of_ne l.side.other_ne .., ?_, ?_, ?_⟩ <;> rw [hself]
  · exact StreamSocketFsm.perform_end hs hop hx
  · exact Endpoint.exec_grows hx
  · intro hurt
    refine (Endpoint.exec_hurt hx hurt).imp_right fun hne => ?_
    exact errno_of_failures ((StreamSocketFsm.perform_hardy l.op).candid _ hx) hne

/-- The two ends, what was said of them in the run, and that what one got the other one sent. -/
structure DuplexInv (fd : Side → Fd) (t : List DuplexMove) (c : Duplex) : Prop where
  agree : ∀ i, (c i).fsm.OfEnd (fd i) (c i).port
  sent : ∀ i, (c i).port.sent = sentBy i t
  got : ∀ i, (c i).port.got = gotBy i t
  inOrder : ∀ i : Side, (c i).port.got <+: (c i.other).port.sent
  hurt : ∀ i, (c i).port.hurt = true → Hurt i t
  gone : ∀ i, (c i).port.gone = true → Lost i t

theorem duplexInv_step (hi : DuplexInv fd t c) (h : DuplexStep fd c l c') :
    DuplexInv fd (t ++ [⟨c, l, c'⟩]) c' := by
  obtain ⟨hagree, hsent, hgot, hinOrder, hhurt, hgone⟩ := hi
  obtain ⟨hother, hstep, hgrows, hnew⟩ := duplexStep_acts (hagree l.side) h
  constructor
  · intro i
    rcases Side.eq_or_other l.side i with rfl | rfl
    · exact hstep.agree
    · rw [hother]
      exact hagree _
  · intro i
    rw [sentBy_snoc]
    rcases Side.eq_or_other l.side i with rfl | rfl
    · rw [if_pos rfl, hstep.sent, hsent]
    · rw [if_neg l.side.other_ne.symm, hother, hsent, List.append_nil]
  · intro i
    rw [gotBy_snoc]
    rcases Side.eq_or_other l.side i with rfl | rfl
    · rw [if_pos rfl, hstep.got, hgot]
    · rw [if_neg l.side.other_ne.symm, hother, hgot, List.append_nil]
  · intro i
    rcases Side.eq_or_other l.side i with rfl | rfl
    · rw [hother]
      exact hgrows.got (hinOrder _)
    · rw [hother, Side.other_other, hstep.sent]
      have := hinOrder l.side.other
      rw [Side.other_other] at this
      exact this.trans (List.prefix_append _ _)
  · intro i hurt
    rw [hurt_snoc]
    rcases Side.eq_or_other l.side i with rfl | rfl
    · exact (hnew hurt).imp (hhurt _) fun h => ⟨rfl, h⟩
    · rw [hother] at hurt
      exact .inl (hhurt _ hurt)
  · intro i gone
    rw [lost_snoc]
    rcases Side.eq_or_other l.side i with rfl | rfl
    · exact (hstep.gone gone).imp (hgone _) fun h => ⟨rfl, h⟩
    · rw [hother] at gone
      exact .inl (hgone _ gone)

def BothConnected (fd : Side → Fd) (c : Duplex) : Prop :=
  ∀ i, fd i ≠ -1 ∧ (c i).fsm.strSoFd.fd = fd i ∧ (c i).fsm.fsmState = .CONNECTED ∧
    (c i).port = {}

theorem duplexInv_of_path (h0 : BothConnected fd c0) (h : StepPath (DuplexStep fd) c0 t c) :
    DuplexInv fd t c := by
  refine StepPath.invariant ?_ (fun _ _ _ _ hi hs => duplexInv_step hi hs) h
  constructor <;> intro i
  · obtain ⟨hfd, hown, hstate, hport⟩ := h0 i
    rw [hport]
    exact ⟨hfd, by simp [hstate, hown], by simp [StreamSocketFsm.SaysMore, hstate]⟩
  · rw [(h0 i).2.2.2]
    rfl
  · rw [(h0 i).2.2.2]
    rfl
  · rw [(h0 i).2.2.2]
    exact List.nil_prefix
  · rw [(h0 i).2.2.2]
    simp
  · rw [(h0 i).2.2.2]
    simp

/-- The stream from `i.other` to `i` is over: its sender said so, and everything was received. -/
structure Over (fd : Side → Fd) (i : Side) (c : Duplex) : Prop where
  agree : ∀ j, (c j).fsm.OfEnd (fd j) (c j).port
  shut : (c i.other).port.shut = true
  all : (c i).port.got = (c i.other).port.sent

theorem over_step (ho : Over fd i c) (h : DuplexStep fd c l c') : Over fd i c' ∧
    (l.side = i.other → sentBytes l.op l.result = []) ∧
    (l.side = i → receivedBytes l.op l.result = []) := by
  obtain ⟨hagree, hshut, hall⟩ := ho
  obtain ⟨hother, hstep, hgrows, -⟩ := duplexStep_acts (hagree l.side) h
  have hagree' : ∀ j, (c' j).fsm.OfEnd (fd j) (c' j).port := by
    intro j
    rcases Side.eq_or_other l.side j with rfl | rfl
    · exact hstep.agree
    · rw [hother]
      exact hagree _
  rcases Side.eq_or_other l.side i with rfl | rfl
  · -- the receiver: it has everything already
    have hgot := hgrows.all hall
    refine ⟨⟨hagree', by rw [hother, hshut], by rw [hother, hgot]⟩,
      fun h => absurd h l.side.other_ne.symm, fun _ => ?_⟩
    rw [hstep.got, ← hall] at hgot
    simpa using hgot
  · -- the sender: nothing more is taken
    rw [Side.other_other] at hshut hall ⊢
    have hsent := hgrows.sent hshut
    refine ⟨⟨hagree', ?_, ?_⟩, fun _ => ?_, fun h => absurd h.symm l.side.other_ne⟩
    · rw [Side.other_other]
      exact hgrows.shut hshut
    · rw [Side.other_other, hother, hall, hsent]
    · rw [hstep.sent] at hsent
      simpa using hsent

theorem over_path (ho : Over fd i c0) (h : StepPath (DuplexStep fd) c0 t c) :
    sentBy i.other t = [] ∧ gotBy i t = [] := by
  suffices h : Over fd i c ∧ sentBy i.other t = [] ∧ gotBy i t = [] from h.2
  refine StepPath.invariant (I := fun t c => Over fd i c ∧ sentBy i.other t = [] ∧ gotBy i t = [])
    ⟨ho, rfl, rfl⟩ ?_ h
  rintro t c l c' ⟨ho, hsent, hgot⟩ hs
  obtain ⟨ho', htaken, hreceived⟩ := over_step ho hs
  refine ⟨ho', ?_, ?_⟩
  · rw [sentBy_snoc, hsent, List.nil_append, ite_eq_right_iff]
    exact htaken
  · rw [gotBy_snoc, hgot, List.nil_append, ite_eq_right_iff]
    exact hreceived

/-- An end of file is a receipt: on a side none of whose calls failed, it comes when the other side
has shut its direction (or a `close` there failed) and everything that it sent was received, and
nothing is sent after it. -/
theorem eof_certifies (h0 : BothConnected fd c0) (h : StepPath (DuplexStep fd) c0 t c) :
    (∀ i : Side, gotBy i t <+: sentBy i.other t) ∧
    ∀ t1 x t2 msg, t = t1 ++ x :: t2 → x.label.result = .error (.eof msg) →
      ¬ Hurt x.label.side t1 →
      gotBy x.label.side t1 = sentBy x.label.side.other t1 ∧
      (¬ (x.before x.label.side.other).fsm.SaysMore ∨ Lost x.label.side.other t1) ∧
      sentBy x.label.side.other t2 = [] ∧ gotBy x.label.side t2 = [] := by
  constructor
  · intro i
    obtain ⟨-, hsent, hgot, hinOrder, -⟩ := duplexInv_of_path h0 h
    rw [← hsent, ← hgot]
    exact hinOrder i
  · rintro t1 ⟨cx, l, cx'⟩ t2 msg rfl heof hwell
    dsimp only at heof hwell ⊢
    rw [← List.singleton_append, ← List.append_assoc] at h
    obtain ⟨hpre, hpost⟩ := h.split
    obtain ⟨hpre, hs, -⟩ := StepPath.snoc_iff.mp hpre
    rw [endState_snoc] at hpost
    obtain ⟨hagree, hsent, hgot, -, hhurt, hgone⟩ := duplexInv_of_path h0 hpre
    have hstep := (duplexStep_acts (hagree l.side) hs).step
    obtain ⟨hshut, hall⟩ := (hstep.eof msg heof).resolve_left fun hurt => hwell (hhurt _ hurt)
    have ho : Over fd l.side cx := ⟨hagree, hshut, hall⟩
    refine ⟨?_, ((hagree _).shut.mp hshut).imp_right (hgone _),
      over_path (over_step ho hs).1 hpost⟩
    rw [← hgot, ← hsent]
    exact hall

end

def bothEnds (near far : End) : Duplex
  | .near => near
  | .far => far

theorem bothEnds_near (near far near' : End) :
    Function.update (bothEnds near far) .near near' = bothEnds near' far := by
  funext i
  cases i <;> rfl

theorem bothEnds_far (near far far' : End) :
    Function.update (bothEnds near far) .far far' = bothEnds near far' := by
  funext i
  cases i <;> rfl

section

variable [Host] {fd : Side → Fd} {near far near' far' : End} {op : StrSoOp}
  {evs : List (Prog.Event Endpoint Call Reply)} {r : Except SnlException StrSoValue}

theorem near_acts (hop : OnConnection op)
    (h : Runs (Endpoint.Answers (fd .near) far.port) (StreamSocketFsm.perform op) near.fsm
      near.port evs r near'.fsm near'.port) :
    DuplexStep fd (bothEnds near far) ⟨.near, op, r⟩ (bothEnds near' far) :=
  ⟨hop, evs, _, _, h, (bothEnds_near ..).symm⟩

theorem far_acts (hop : OnConnection op)
    (h : Runs (Endpoint.Answers (fd .far) near.port) (StreamSocketFsm.perform op) far.fsm
      far.port evs r far'.fsm far'.port) :
    DuplexStep fd (bothEnds near far) ⟨.far, op, r⟩ (bothEnds near far') :=
  ⟨hop, evs, _, _, h, (bothEnds_far ..).symm⟩

end

/-- A byte is sent, the sender shuts its direction, and the receiver reads on to the end. -/
theorem eof_certifies_halfClosed :
    ∃ (_ : Host) (c : Duplex) (t1 : List DuplexMove) (x : DuplexMove),
    StepPath (DuplexStep fun _ => 3) (bothEnds ⟨connectedSock, {}⟩ ⟨connectedSock, {}⟩)
      (t1 ++ [x]) c ∧ x.label.side = .far ∧ x.label.result = .error eofReached ∧
      gotBy .far t1 = [104] ∧ gotBy .far t1 = sentBy .near t1 := by
  let _ : Host := littleHost
  let near0 : End := ⟨connectedSock, {}⟩
  let near1 : End := ⟨connectedSock, { sent := [104] }⟩
  let near2 : End := ⟨{ connectedSock with fsmState := .UCLOSED }, { sent := [104], shut := true }⟩
  let far0 : End := ⟨connectedSock, {}⟩
  let far1 : End := ⟨connectedSock, { got := [104] }⟩
  have hsend : DuplexStep (fun _ => 3) (bothEnds near0 far0)
      ⟨.near, .send [104] 0, .ok (.sent 1)⟩ (bothEnds near1 far0) :=
    near_acts (by decide : PlainFlags 0) (.call (r := ⟨1, 0, .zero, []⟩)
      (.taken (n := 1) (by decide) rfl (by decide) rfl) (.done _ _))
  have hreceive : DuplexStep (fun _ => 3) (bothEnds near1 far0)
      ⟨.far, .receive 8 0, .ok (.received 1 [104])⟩ (bothEnds near1 far1) :=
    far_acts (by decide : PlainFlags 0) (.call (r := ⟨1, 0, .zero, [104]⟩)
      (.bytes (by decide) rfl rfl (by decide) (by decide) List.prefix_rfl) (.done _ _))
  have hshut : DuplexStep (fun _ => 3) (bothEnds near1 far1)
      ⟨.near, .closeUpstream, .ok .unit⟩ (bothEnds near2 far1) :=
    near_acts trivial (.call (r := okReply) (.shutUp rfl rfl) (.done _ _))
  have heof : DuplexStep (fun _ => 3) (bothEnds near2 far1)
      ⟨.far, .receive 8 0, .error eofReached⟩ (bothEnds near2 far1) :=
    far_acts (by decide : PlainFlags 0) (.call (r := okReply)
      (.nothing (by decide) rfl rfl rfl (.inr (.inr ⟨rfl, rfl⟩))) (.done _ _))
  have hpath := StepPath.snoc (.snoc (.snoc (.snoc .nil hsend) hreceive) hshut) heof
  have hconn : BothConnected (fun _ => 3) (bothEnds near0 far0) := by
    rintro (_ | _) <;> exact ⟨by decide, rfl, rfl, rfl⟩
  have hcert := (eof_certifies hconn hpath).2 _ _ [] _ rfl rfl (by simp [Hurt])
  exact ⟨_, _, _, _, hpath, rfl, rfl, rfl, hcert.1⟩

end Snl
