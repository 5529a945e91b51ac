import SocketInterface.SameBehaviour
import SocketInterface.StreamRuns
import SocketInterface.ServerRuns

/-!
# Objects that were reset

A reset server socket keeps its old address. It is read again after a `close`, since `CLOSED` counts
as bound. A reset stream socket is a new one.
-/

namespace Snl

open Method Prog

/-! ## Where the old address is read -/

abbrev ServerPlay := ServerOp × Except SnlException ServerValue

def BindReturned : ServerPlay → Prop
  | (.bind _, .ok _) => True
  | _ => False

def closedAfter (closed : Bool) : ServerOp → Bool
  | .close => true
  | .reset => false
  | _ => closed

/-- A getter of the address is called after a `close`, with no `reset` between them and no `bind`
that returned before it, and the old address differs in what it reads. -/
def ReadsStale (stale : SocketAddress) (closed : Bool) : List ServerPlay → Prop
  | [] => False
  | x :: rest => (closed = true ∧ x.1.Distinguishes stale .default) ∨
    (¬ BindReturned x ∧ ReadsStale stale (closedAfter closed x.1) rest)

/-- The object has no fd, and no `bind` has returned since it was reset. -/
structure Forgotten (closed : Bool) (s : ServerSocketFsm) : Prop where
  guard : s.servSockFd = ⟨-1⟩
  state : s.fsmState = if closed then .CLOSED else .INIT

section

variable [Host] {ρ : FdRenaming} {stale : SocketAddress} {closed : Bool}
  {s s' : ServerSocketFsm} {op : ServerOp}

/-- A `bind` that throws leaves objects without an fd as they were. -/
theorem ServerSocketFsm.bind_twin_empty {a a' : SocketAddress} (sockAddr : SocketAddress)
    (hs : ServerTwin ρ a a' s s') (hfd : s.servSockFd = ⟨-1⟩) :
    Twin ρ.onCalls (Ends (fun _ _ => True) (fun t t' => t = s ∧ t' = s')
      (ServerTwin ρ sockAddr sockAddr)) (bind sockAddr s) (bind sockAddr s') := by
  have hrest : Twins ρ.onCalls (fun t t' => t = s ∧ t' = s') (fun _ _ => True)
      (ServerTwin ρ sockAddr sockAddr)
      (do
        bindCheck s.fsmState
        let guard ← makeSockFdAndBind sockAddr
        withLocal FdGuard.close guard do
          setFdBlockingBehav guard s.getNonBlockIO
          assignFd
          update fun l => (l.1, { l.2 with socketAddr := sockAddr, fsmState := .BOUND }))
      (do
        bindCheck s'.fsmState
        let guard ← makeSockFdAndBind sockAddr
        withLocal FdGuard.close guard do
          setFdBlockingBehav guard s'.getNonBlockIO
          assignFd
          update fun l => (l.1, { l.2 with socketAddr := sockAddr, fsmState := .BOUND })) := by
    unfold bindCheck
    refine twins_check_bind (by rw [hs.state]) ?_
    apply twins_bind (makeSockFdAndBind_twins sockAddr)
    intro g g' hg
    refine twins_withLocal FdRenaming.close_twins hg ?_
    refine twins_bind (A := fun _ _ => True) ?_ fun _ _ _ => ?_
    · rw [show s'.getNonBlockIO = s.getNonBlockIO from hs.mode]
      exact FdRenaming.fcntlBlockingBehav_twins hg _
    · rintro ⟨g1, t⟩ ⟨g1', t'⟩ ⟨hg1, rfl, rfl⟩
      -- the old guards are empty: nothing is closed
      have hfd' : t'.servSockFd = ⟨-1⟩ := by
        have hmap : t'.servSockFd.fd = ρ.map t.servSockFd.fd := hs.guard
        rw [hfd, ρ.noFd] at hmap
        exact congrArg FdGuard.mk hmap
      have hmode := hs.mode
      obtain ⟨addr, guard, backlog, mode, state⟩ := t
      obtain ⟨addr', guard', backlog', mode', state'⟩ := t'
      obtain rfl : guard = ⟨-1⟩ := hfd
      obtain rfl : guard' = ⟨-1⟩ := hfd'
      exact .done ⟨trivial, ρ.noFd.symm, rfl, rfl, hg1, hmode, rfl⟩
  exact hrest s s' ⟨rfl, rfl⟩

theorem forgotten_bind {sockAddr : SocketAddress}
    {x : Except SnlException ServerValue × ServerSocketFsm} {replies replies' : List Reply}
    (h : Forgotten closed s)
    (hrun : runOn (ServerSocketFsm.perform (.bind sockAddr) s) replies = some (x, replies')) :
    BindReturned (.bind sockAddr, x.1) ∨ ∃ e, x = (.error e, s) := by
  have hself : ServerTwin .same s.socketAddr s.socketAddr s s := ⟨rfl, rfl, rfl, rfl, rfl⟩
  have htwin : Twin FdRenaming.same.onCalls (Ends (fun _ _ => True) (fun t t' => t = s ∧ t' = s)
      (ServerTwin .same sockAddr sockAddr)) (ServerSocketFsm.perform (.bind sockAddr) s)
      (ServerSocketFsm.perform (.bind sockAddr) s) :=
    twin_bind_pure (ServerSocketFsm.bind_twin_empty sockAddr hself h.guard) fun _ _ _ => trivial
  obtain ⟨x', hx⟩ := htwin.runOn_ends hrun
  obtain ⟨e, t, t', rfl, rfl, ht⟩ | ⟨v, v', t, t', rfl, rfl, -⟩ := ends_cases hx
  · exact .inr ⟨e, by rw [ht.1]⟩
  · exact .inl trivial

theorem forgotten_of_done {x : Except SnlException ServerValue × ServerSocketFsm}
    {replies replies' : List Reply} {r : Except SnlException ServerValue} {t : ServerSocketFsm}
    (hp : ServerSocketFsm.perform op s = .done (r, t))
    (ht : Forgotten (closedAfter closed op) t)
    (hrun : runOn (ServerSocketFsm.perform op s) replies = some (x, replies')) :
    BindReturned (op, x.1) ∨ Forgotten (closedAfter closed op) x.2 := by
  rw [hp] at hrun
  obtain ⟨rfl, -⟩ := Prod.mk.inj (Option.some.inj hrun)
  exact .inr ht

theorem forgotten_step {x : Except SnlException ServerValue × ServerSocketFsm}
    {replies replies' : List Reply} (h : Forgotten closed s)
    (hrun : runOn (ServerSocketFsm.perform op s) replies = some (x, replies')) :
    BindReturned (op, x.1) ∨ Forgotten (closedAfter closed op) x.2 := by
  have hgetter := @ServerSocketFsm.perform_getter _ s op
  have hstate := h.state
  cases op with
  | bind sockAddr =>
    rcases forgotten_bind h hrun with hbind | ⟨e, rfl⟩
    · exact .inl hbind
    · exact .inr h
  | listen listenBacklog =>
    have hp := ServerSocketFsm.perform_listen s listenBacklog
    rw [if_neg (by rw [hstate]; cases closed <;> decide)] at hp
    exact forgotten_of_done hp h hrun
  | accept =>
    have hp := ServerSocketFsm.perform_accept s
    rw [if_neg (by rw [hstate]; cases closed <;> decide)] at hp
    exact forgotten_of_done hp h hrun
  | close =>
    have hp := ServerSocketFsm.perform_close_empty h.guard
    by_cases hs : s.fsmState = .CLOSED
    · rw [if_pos hs] at hp
      exact forgotten_of_done hp ⟨h.guard, hs⟩ hrun
    · rw [if_neg hs] at hp
      exact forgotten_of_done hp ⟨h.guard, rfl⟩ hrun
  | reset =>
    exact forgotten_of_done (ServerSocketFsm.perform_reset_empty h.guard) ⟨h.guard, rfl⟩ hrun
  | setNonBlockIO =>
    exact forgotten_of_done (ServerSocketFsm.perform_setNonBlock_empty h.guard)
      ⟨h.guard, hstate⟩ hrun
  | getSockAddr => exact forgotten_of_done (hgetter fun _ => .inl ⟨rfl, rfl⟩) h hrun
  | getIpAddress => exact forgotten_of_done (hgetter fun _ => .inr (.inl ⟨rfl, rfl⟩)) h hrun
  | getTcpPort => exact forgotten_of_done (hgetter fun _ => .inr (.inr ⟨rfl, rfl⟩)) h hrun
  | getNonBlockIO | isBound | isListening | isAccepting | isClosed =>
    exact forgotten_of_done rfl h hrun

omit [Host] in
theorem isBound_of_forgotten (h : Forgotten closed s) : s.isBound = closed := by
  have hstate := h.state
  unfold ServerSocketFsm.isBound
  rw [hstate]
  cases closed <;> decide

omit [Host] in
theorem addressAfter_of_not_bound {r : Except SnlException ServerValue} {v : ServerValue}
    (hr : r = .ok v) (h : ¬ BindReturned (op, r)) (addr : SocketAddress) :
    op.addressAfter addr = addr := by
  subst hr
  cases op with
  | bind => exact absurd trivial h
  | _ => rfl

omit [Host] in
theorem bindReturned_iff {r : Except SnlException ServerValue} :
    BindReturned (op, r) ↔ ∃ sockAddr v, op = .bind sockAddr ∧ r = .ok v := by
  cases op <;> cases r <;> simp [BindReturned]

omit [Host] in
theorem distinguishes_getter {a a' : SocketAddress} (hop : op.Distinguishes a a') :
    ∃ g : SocketAddress → ServerValue, (∀ addr, op = .getSockAddr ∧ g addr = .address addr ∨
      op = .getIpAddress ∧ g addr = .ip addr.getIpAddress ∨
      op = .getTcpPort ∧ g addr = .port addr.getTcpPort) ∧ g a' ≠ (g a).rename ρ := by
  cases op with
  | getSockAddr => exact ⟨.address, by simp, fun heq => hop (ServerValue.address.inj heq).symm⟩
  | getIpAddress =>
    exact ⟨fun addr => .ip addr.getIpAddress, by simp, fun heq => hop (ServerValue.ip.inj heq).symm⟩
  | getTcpPort =>
    exact ⟨fun addr => .port addr.getTcpPort, by simp,
      fun heq => hop (ServerValue.port.inj heq).symm⟩
  | _ => exact hop.elim

theorem not_playsLike_of_distinguishes (ops : List ServerOp) (replies : List Reply)
    (htwin : ServerTwin ρ stale .default s s') (hbound : s.isBound = true)
    (hop : op.Distinguishes stale .default) :
    ¬ ServerPlaysLike ρ (op :: ops) s s' replies ∧
      ∃ r, runOn (ServerSocketFsm.perform op s) replies = some ((r, s), replies) := by
  obtain ⟨g, hg, hne⟩ := distinguishes_getter (ρ := ρ) hop
  have hp := ServerSocketFsm.perform_getter s hg
  have hp' := ServerSocketFsm.perform_getter s' hg
  have hbound' : s'.isBound = true := by
    rw [← hbound]
    simp only [ServerSocketFsm.isBound, htwin.state]
  rw [if_pos hbound, htwin.addr] at hp
  rw [if_pos hbound', htwin.addr'] at hp'
  refine ⟨fun hlike => ?_, _, by rw [hp]; rfl⟩
  unfold ServerPlaysLike PlaysLike at hlike
  rw [hp, hp'] at hlike
  exact hne (Except.ok.inj hlike.1)

theorem playsLike_iff {ops : List ServerOp} {replies : List Reply} (h : Forgotten closed s)
    (htwin : ServerTwin ρ stale .default s s') : ServerPlaysLike ρ ops s s' replies ↔
      ¬ ReadsStale stale closed (plays ServerSocketFsm.perform ops s replies) := by
  induction ops generalizing closed s s' replies with
  | nil => exact iff_of_true trivial id
  | cons op ops ih =>
    by_cases hread : closed = true ∧ op.Distinguishes stale .default
    · have hbound : s.isBound = true := (isBound_of_forgotten h).trans hread.1
      obtain ⟨hnot, r, hr⟩ := not_playsLike_of_distinguishes ops replies htwin hbound hread.2
      refine iff_of_false hnot ?_
      rw [not_not]
      simp only [plays, hr]
      exact .inl hread
    · have hbound : s.isBound = true → ¬ op.Distinguishes stale .default := by
        rw [isBound_of_forgotten h]
        exact fun hc hd => hread ⟨hc, hd⟩
      refine (ServerSocketFsm.perform_twin htwin hbound).inStep_iff ?_ ?_
      · intro x x' replies' hrun hends
        have hplays : plays ServerSocketFsm.perform (op :: ops) s replies =
            (op, x.1) :: plays ServerSocketFsm.perform ops x.2 replies' := by
          simp [plays, hrun]
        rw [hplays, and_iff_right (map_of_ends hends)]
        have hstale : ReadsStale stale closed
            ((op, x.1) :: plays ServerSocketFsm.perform ops x.2 replies') ↔
            ¬ BindReturned (op, x.1) ∧ ReadsStale stale (closedAfter closed op)
              (plays ServerSocketFsm.perform ops x.2 replies') := or_iff_right hread
        rw [hstale]
        by_cases hbind : BindReturned (op, x.1)
        · refine iff_of_true (playsLike_of_alike ?_ ops replies') fun h => h.1 hbind
          obtain ⟨sockAddr, v, rfl, hv⟩ := bindReturned_iff.mp hbind
          obtain ⟨e, t, t', rfl, rfl, ht⟩ | ⟨_, v', t, t', rfl, rfl, -, ht⟩ := ends_cases hends
          · cases hv
          · exact ⟨sockAddr, ht⟩
        · have hnew := (forgotten_step h hrun).resolve_left hbind
          rw [and_iff_right hbind]
          refine ih hnew ?_
          obtain ⟨e, t, t', rfl, rfl, ht⟩ | ⟨v, v', t, t', rfl, rfl, -, ht⟩ := ends_cases hends
          · exact ht
          · rwa [addressAfter_of_not_bound rfl hbind, addressAfter_of_not_bound rfl hbind] at ht
      · intro hnone
        simp [plays, hnone, ReadsStale]

/-! ## The state after a reset -/

variable {m : CloseFailure}

theorem ServerSocketFsm.reset_state {c0 c c' : ServerConfig} {t : List ServerMove}
    {l : ServerLabel} {v : ServerValue} (h0 : ServerStart c0) (h : StepPath (ServerStep m) c0 t c)
    (hop : l.op = .reset) (hok : l.result = .ok v) (hx : ServerStep m c l c') :
    c'.fsm = { c.fsm with servSockFd := ⟨-1⟩, nonBlockingIo := false, fsmState := .INIT } := by
  obtain ⟨op, evs, r⟩ := l
  obtain ⟨s, k⟩ := c
  obtain ⟨s', k'⟩ := c'
  obtain rfl : op = .reset := hop
  obtain rfl : r = .ok v := hok
  have hstep : Step m s k .reset evs (.ok v) s' k' := perform_step (h0.idle_of_path h) hx
  cases hstep with
  | returned hr => exact hr.elim
  | wasReset => rfl

theorem StreamSocketFsm.reset_state {c0 c c' : StrSoConfig} {t : List StrSoMove}
    {l : StrSoLabel} {v : StrSoValue} (hb : StrSoBuilt c0) (h : StepPath (StrSoStep m) c0 t c)
    (hop : l.op = .reset) (hok : l.result = .ok v) (hx : StrSoStep m c l c') : c'.fsm = {} := by
  have hidle := idle_of_path hb h
  obtain ⟨op, evs, r⟩ := l
  obtain ⟨s, k⟩ := c
  obtain ⟨s', k'⟩ := c'
  obtain rfl : op = .reset := hop
  obtain rfl : r = .ok v := hok
  have hstep : Step m s k .reset evs (.ok v) s' k' := step_of_idle hidle hx
  cases hstep with
  | returned hr | closed hr => exact hr.elim
  | halfClosed hop => simp at hop
  | wasReset => rfl

abbrev StreamPlaysLike (ρ : FdRenaming) : List StrSoOp → StreamSocketFsm → StreamSocketFsm →
    List Reply → Prop :=
  PlaysLike ρ.onCalls id StreamSocketFsm.perform

/-- After a reset a server socket behaves like a new one exactly as long as the old address is not
read after a `close`; a stream socket always does. -/
theorem reset_playsLike (ρ : FdRenaming) :
    (∀ {m : CloseFailure} {c0 c c' : ServerConfig} {t : List ServerMove} {l : ServerLabel}
      {v : ServerValue} {prior : ServerSocketFsm}, ServerStart c0 →
      StepPath (ServerStep m) c0 t c → l.op = .reset → l.result = .ok v → ServerStep m c l c' →
      prior.fsmState = .INIT → ∀ ops replies,
      (ServerPlaysLike ρ ops c'.fsm (.construct prior) replies ↔
        ¬ ReadsStale c.fsm.socketAddr false (plays ServerSocketFsm.perform ops c'.fsm replies))) ∧
    ∀ {m : CloseFailure} {c0 c c' : StrSoConfig} {t : List StrSoMove} {l : StrSoLabel}
      {v : StrSoValue}, StrSoBuilt c0 → StepPath (StrSoStep m) c0 t c → l.op = .reset →
      l.result = .ok v → StrSoStep m c l c' →
      ∀ ops replies, StreamPlaysLike ρ ops c'.fsm {} replies := by
  constructor
  · intro m c0 c c' t l v prior h0 h hop hok hx hprior ops replies
    rw [ServerSocketFsm.reset_state h0 h hop hok hx]
    exact playsLike_iff ⟨rfl, rfl⟩ ⟨rfl, rfl, ρ.noFd.symm, rfl, hprior⟩
  · intro m c0 c c' t l v hb h hop hok hx ops replies
    rw [StreamSocketFsm.reset_state hb h hop hok hx]
    have hnew : StreamTwin ρ {} {} := ⟨rfl, ρ.noFd.symm, rfl, rfl⟩
    refine playsLike_of_twins (T := StreamTwin ρ) (f := id) (fun op _ _ hs => ?_) ops hnew replies
    exact StreamSocketFsm.perform_twin hs

end

def boundOnce : List (ServerOp × List Reply) := [(.bind someAddress, setupReplies 3)]

def connectedOnce : List (StrSoOp × List Reply) :=
  [(.connect someAddress, setupReplies 3), (.closeUpstream, [okReply])]

/-- Used again before its address is read, a server socket is like a new one; so is a stream socket
whose connection was half closed. -/
theorem reset_playsLike_usedAgain : ∃ _ : Host,
    (∃ (t : List ServerMove) (c c' : ServerConfig) (l : ServerLabel),
      StepPath (ServerStep .never) newServer t c ∧ ServerStep .never c l c' ∧ l.op = .reset ∧
      c.fsm.socketAddr = someAddress ∧
      ServerPlaysLike .same [.getSockAddr, .bind someAddress, .close, .getSockAddr] c'.fsm
        (.construct newServer.fsm) (setupReplies 4 ++ [okReply]) ∧
      plays ServerSocketFsm.perform [.getSockAddr, .bind someAddress, .close, .getSockAddr] c'.fsm
        (setupReplies 4 ++ [okReply]) = [(.getSockAddr, .error ServerSocketFsm.unboundRefusal),
          (.bind someAddress, .ok .unit), (.close, .ok .unit),
          (.getSockAddr, .ok (.address someAddress))]) ∧
    ∃ (t : List StrSoMove) (c c' : StrSoConfig) (l : StrSoLabel),
      StepPath (StrSoStep .never) newStrSo t c ∧ StrSoStep .never c l c' ∧ l.op = .reset ∧
      c.fsm.fsmState = .UCLOSED ∧
      StreamPlaysLike .same [.connect .default, .send [1] 0] c'.fsm {}
        (setupReplies 4 ++ [⟨1, 0, .zero, []⟩]) := by
  let host : Host := littleHost
  refine ⟨host, ?_, ?_⟩
  · obtain ⟨hrun, hx⟩ := path_of_session_then (i := (.reset, [okReply]))
      (rfl : follow (nextOp .never ServerSocketFsm.perform) newServer boundOnce = some (_, _)) rfl
    refine ⟨_, _, _, _, hrun, hx, rfl, rfl, ?_, rfl⟩
    refine ((reset_playsLike .same).1 newServer_start hrun rfl rfl hx
      (show newServer.fsm.fsmState = .INIT from rfl) _ _).mpr ?_
    show ¬ ReadsStale someAddress false [(.getSockAddr, .error ServerSocketFsm.unboundRefusal),
      (.bind someAddress, .ok .unit), (.close, .ok .unit),
      (.getSockAddr, .ok (.address someAddress))]
    simp [ReadsStale, BindReturned, closedAfter]
  · obtain ⟨hrun, hx⟩ := path_of_session_then (i := (.reset, [okReply]))
      (rfl : follow (nextOp .never StreamSocketFsm.perform) newStrSo connectedOnce = some (_, _)) rfl
    exact ⟨_, _, _, _, hrun, hx, rfl, rfl,
      (reset_playsLike .same).2 newStrSo_built hrun rfl rfl hx _ _⟩

theorem reset_not_playsLike : ¬ ∀ [Host] (ρ : FdRenaming),
    (∀ {m : CloseFailure} {c0 c c' : ServerConfig} {t : List ServerMove} {l : ServerLabel}
      {v : ServerValue} {prior : ServerSocketFsm}, ServerStart c0 →
      StepPath (ServerStep m) c0 t c → l.op = .reset → l.result = .ok v → ServerStep m c l c' →
      prior.fsmState = .INIT → ∀ ops replies,
      ServerPlaysLike ρ ops c'.fsm (.construct prior) replies) ∧
    ∀ {m : CloseFailure} {c0 c c' : StrSoConfig} {t : List StrSoMove} {l : StrSoLabel}
      {v : StrSoValue}, StrSoBuilt c0 → StepPath (StrSoStep m) c0 t c → l.op = .reset →
      l.result = .ok v → StrSoStep m c l c' →
      ∀ ops replies, StreamPlaysLike ρ ops c'.fsm {} replies := by
  intro hall
  let host : Host := littleHost
  obtain ⟨hrun, hx⟩ := path_of_session_then (i := (.reset, [okReply]))
    (rfl : follow (nextOp .never ServerSocketFsm.perform) newServer boundOnce = some (_, _)) rfl
  have hlike := (hall .same).1 newServer_start hrun rfl rfl hx
    (show newServer.fsm.fsmState = .INIT from rfl) [.close, .getSockAddr] []
  -- both are closed, and then one returns the old address
  have haddr : Except.ok (.address .default) =
    Except.map (ServerValue.rename .same) (.ok (.address someAddress) : Except SnlException _) :=
      hlike.2.1
  exact (by decide : someAddress ≠ .default) (ServerValue.address.inj (Except.ok.inj haddr)).symm

end Snl
