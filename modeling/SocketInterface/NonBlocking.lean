import SocketInterface.Library.Readiness
import SocketInterface.LineRuns

/-! # Lines and buffers on a non-blocking fd -/

namespace Snl

open Method
open Prog (WhenReady AllReady Event)

def EAGAIN : Int := 11

def Call.Transfers : Call → Prop
  | .send .. | .recv .. => True
  | _ => False

def Reply.Again (r : Reply) : Prop := r.status = -1 ∧ r.errno = EAGAIN

/-- What `send` and `recv` answer on a fd with `O_NONBLOCK` that is not ready. -/
def Busy (c : Call) (r : Reply) : Prop := c.Transfers ∧ r.Again

def wouldBlock : SnlException := .errno "System call error: " EAGAIN

/-! ## An `EAGAIN` ends the call -/

section Loud

variable {σ : Type} {this : σ} {strSock : StreamSocketFsm}

abbrev TellsAgain {σ α : Type} (m : M σ α) (this : σ) : Prop :=
  Loud Call.Transfers Reply.Again (· = wouldBlock) m this

theorem executeSyscall_loud {c : Call} (hc : c.Transfers) :
    TellsAgain (executeSyscall c (-1) : M σ Reply) this := by
  refine loud_issue_bind hc ?_ fun r hr => ?_
  · rintro r ⟨hst, herr⟩
    rw [if_pos hst, herr]
    exact ⟨wouldBlock, rfl, rfl⟩
  · refine loud_ite (fun hst => loud_raise fun h => hr ⟨hst, ?_⟩) fun _ => loud_pure
    simpa [wouldBlock] using h

theorem send_loud {buffer : List Byte} {flags : Int} :
    TellsAgain (StreamSocketFsm.send buffer flags) strSock := by
  unfold StreamSocketFsm.send StreamSocketFsm.sendCheck
  refine loud_self_bind (loud_check_bind (by simp [wouldBlock]) ?_)
  exact loud_bind (executeSyscall_loud trivial) fun _ _ => loud_pure

theorem receive_loud {bufferSize : Nat} {flags : Int} :
    TellsAgain (StreamSocketFsm.receive bufferSize flags) strSock := by
  unfold StreamSocketFsm.receive StreamSocketFsm.receiveCheck
  refine loud_self_bind (loud_check_bind (by simp [wouldBlock]) ?_)
  refine loud_bind (executeSyscall_loud trivial) fun _ _ => ?_
  exact loud_ite (fun _ => loud_raise (by simp [wouldBlock])) fun _ => loud_pure

theorem readByte_loud {eol : List Byte} {l : Option Byte × Reader} :
    TellsAgain (readByte eol) l := by
  unfold readByte onReader Reader.receive
  refine loud_bind (loud_zoom (loud_zoom receive_loud)) fun got l => ?_
  refine loud_update_bind (loud_self_bind ?_)
  dsimp only
  split
  · exact loud_halt _
  · exact loud_bind (loud_zoom loud_update) fun _ _ => loud_self_bind loud_pure

theorem popBacks_loud {n : Nat} {this : Reader} : TellsAgain (Reader.popBacks n) this := by
  induction n generalizing this with
  | zero => exact loud_pure
  | succ n ih =>
    refine loud_bind ?_ fun _ _ => ih
    unfold Reader.popBack
    exact loud_self_bind (loud_ite (fun _ => loud_halt _) fun _ => loud_update)

theorem readline_loud {eol : List Byte} {fuel : Nat} {this : Reader} :
    TellsAgain (readline eol fuel) this := by
  unfold readline Reader.clear
  refine loud_update_bind (loud_bind ?_ fun _ _ => ?_)
  · exact loud_withVar (loud_doWhile (fun _ => readByte_loud) _ _)
  · exact loud_bind popBacks_loud fun _ _ => loud_self_bind loud_pure

theorem sendRest_loud {message : List Byte} {l : Nat × StreamSocketFsm} :
    TellsAgain (sendRest message) l := by
  unfold sendRest
  refine loud_self_bind (loud_bind (loud_zoom send_loud) fun _ _ => ?_)
  exact loud_update_bind (loud_self_bind loud_pure)

theorem sendBuff_loud {message : List Byte} {fuel : Nat} :
    TellsAgain (sendBuff message fuel) strSock :=
  loud_withVar (loud_doWhile (fun _ => sendRest_loud) _ _)

end Loud

/-! ## Writing -/

abbrev NonBlocking {W : Type} (env : W → Call → Reply → W → Prop) (ready : Nat → Bool) :
    W × Nat → Call → Reply → W × Nat → Prop := WhenReady env Busy ready

section

variable {W σ α : Type} {env : W → Call → Reply → W → Prop} {ready : Nat → Bool} {m : M σ α}
  {this this' : σ} {w : W} {i : Nat} {x' : W × Nat}

theorem tellsAgain_returns (h : TellsAgain m this)
    {Q : Except SnlException α → σ → W → Prop} (hret : Returns env m this w Q) (i : Nat) :
    Returns (NonBlocking env ready) m this (w, i) fun _ _ _ => True :=
  Prog.Loud.returns (fun _ _ hb => hb.2) h (fun _ hc => ⟨⟨-1, EAGAIN, .zero, []⟩, hc, rfl, rfl⟩) hret i

theorem allReady_iff (henv : ∀ w c r w', env w c r w' → r.status ≠ -1) (h : TellsAgain m this)
    {evs : List (Event (W × Nat) Call Reply)} {r : Except SnlException α}
    (hx : Runs (NonBlocking env ready) m this (w, i) evs r this' x') :
    AllReady ready evs ↔ r ≠ .error wouldBlock := by
  have hiff := Prog.Loud.allReady_iff (fun w c r w' hr hagain => henv w c r w' hr hagain.1)
    (fun _ _ hb => hb.2) h hx
  rw [hiff, not_iff_not]
  simp [Throws]

end

section Writing

variable {fd : Fd} {strSock : StreamSocketFsm} {fuel : Nat}

theorem outgoing_status {w w' : List Byte × Bool} {c : Call} {r : Reply}
    (h : (wire fd).Outgoing w c r w') : r.status ≠ -1 := by
  cases h with
  | @write _ _ _ n _ _ _ hr =>
    have hst : r.status = n := hr
    omega
  | close _ hr =>
    have hst : r.status = 0 := hr
    omega

/-- `op` comes to an end, and it puts all of `message` on the wire without a throw exactly when the
fd was ready for each of its calls. -/
def WritesWhenReady (fd : Fd) (strSock : StreamSocketFsm) (message : List Byte)
    (op : M StreamSocketFsm Unit) : Prop :=
  ∀ (ready : Nat → Bool) (w : List Byte) (i : Nat),
    (Returns (NonBlocking (wire fd).Outgoing ready) op strSock ((w, false), i)
      fun _ _ _ => True) ∧
    ∀ evs r strSock' w', Runs (NonBlocking (wire fd).Outgoing ready) op strSock ((w, false), i)
      evs r strSock' w' →
      (r = .ok () ∧ w'.1 = (w ++ message, false) ↔ AllReady ready evs)

theorem sendBuff_writesWhenReady (h : CanSend fd strSock) {message : List Byte}
    (hfuel : message.length < fuel) :
    WritesWhenReady fd strSock message (sendBuff message fuel) := by
  intro ready w i
  have hblocking := @sendBuff_returns fd strSock message w h fuel hfuel
  refine ⟨tellsAgain_returns sendBuff_loud hblocking i, fun evs r strSock' w' hx => ?_⟩
  have hready := allReady_iff (fun _ _ _ _ => outgoing_status) sendBuff_loud hx
  constructor
  · rintro ⟨rfl, -⟩
    exact hready.mpr (by simp)
  · intro hall
    obtain ⟨evs', hx'⟩ := Prog.exec_of_allReady hx hall
    obtain ⟨hr, -, hw⟩ := Prog.Returns.exec hblocking hx'
    exact ⟨hr, hw⟩

end Writing

/-! ## Reading -/

section Reading

variable {fd : Fd} {strSock : StreamSocketFsm} {eol s : List Byte} {fuel : Nat}

theorem incoming_status {s s' : List Byte} {c : Call} {r : Reply}
    (h : (wire fd).Incoming s c r s') : r.status ≠ -1 := by
  cases h with
  | @data bytes _ _ _ _ _ _ _ hr =>
    have hst : r.status = bytes.length := hr.1
    omega
  | empty _ _ hr =>
    have hst : r.status = 0 := hr.1
    omega

theorem readline_ends {this : Reader} (h : CanReceive fd this.strSock) (hfuel : s.length < fuel) :
    Returns (wire fd).Incoming (readline eol fuel) this s fun _ _ _ => True := by
  obtain ⟨strSock, lineBuff⟩ := this
  unfold readline Reader.clear
  refine returns_update_bind (returns_bind (Q := fun r this' _ => r = .ok () →
    eol <:+: this'.lineBuff) (returns_withVar ?_) ?_ fun _ _ _ _ => trivial)
  · refine returns_doWhile (I := fun l _ => CanReceive fd l.2.strSock)
      (fun _ rem => rem.length) ?_ h hfuel
    rintro ⟨buff, this⟩ rem hrecv
    refine returns_mono (readByte_returns hrecv) fun r l s' hr => ?_
    match r with
    | .ok true =>
      obtain ⟨b, rfl, hl, -⟩ := hr
      rw [hl]
      exact ⟨hrecv, by simp⟩
    | .ok false =>
      obtain ⟨b, rfl, hl, hagain⟩ := hr
      intro _
      by_contra hnot
      rw [hl] at hnot
      rw [rfind_isNone.mpr hnot] at hagain
      simp at hagain
    | .error e => simp
  · rintro _ ⟨strSock, read⟩ s' hin
    have hlen : eol.length ≤ read.length := (hin rfl).length_le
    have hpop := @popBacks_returns strSock _ (wire fd).Incoming s'
      (read.drop (read.length - eol.length)) (read.take (read.length - eol.length))
    rw [List.take_append_drop, List.length_drop, Nat.sub_sub_self hlen] at hpop
    refine returns_bind hpop (fun _ _ _ _ => ?_) fun _ _ _ _ => trivial
    exact returns_self_bind (returns_pure trivial)

abbrev ReadEvents := List (Event (List Byte × Nat) Call Reply)

def NonBlockingRead (fd : Fd) (eol : List Byte) (fuel : Nat) (ready : Nat → Bool)
    (c : Reader × List Byte × Nat) (l : Except SnlException Nat × ReadEvents)
    (c' : Reader × List Byte × Nat) : Prop :=
  Runs (NonBlocking (wire fd).Incoming ready) (readline eol fuel) c.1 c.2 l.2 l.1 c'.1 c'.2

def streamOf (c : Reader × List Byte × Nat) : ReadConfig := (c.1, c.2.1)

/-- Each call comes to an end, and calls in a row give the lines and leave the bytes that calls on
a blocking fd do exactly when the fd was ready for each of the calls of `recv`. -/
def ReadsWhenReady (fd : Fd) (strSock : StreamSocketFsm) (eol : List Byte) (fuel : Nat)
    (s : List Byte) : Prop :=
  ∀ (ready : Nat → Bool) (i : Nat) (lineBuff : List Byte),
    (Returns (NonBlocking (wire fd).Incoming ready) (readline eol fuel) ⟨strSock, lineBuff⟩ (s, i)
      fun _ _ _ => True) ∧
    ∀ t c, StepPath (NonBlockingRead fd eol fuel ready) (⟨strSock, lineBuff⟩, s, i) t c →
      (StepPath (ReadStep fd eol fuel) (streamOf (⟨strSock, lineBuff⟩, s, i))
          (t.map (Move.map streamOf Prod.fst)) (streamOf c) ↔
        ∀ x ∈ t, AllReady ready x.label.2)

theorem readStep_not_wouldBlock {c c' : ReadConfig} {r : Except SnlException Nat}
    (h : ReadStep fd eol fuel c r c') : r ≠ .error wouldBlock := by
  obtain ⟨evs, hx⟩ := h
  rintro rfl
  exact Prog.Loud.not_tells (fun _ _ _ _ hr hagain => incoming_status hr hagain.1) readline_loud hx
    ⟨_, rfl, rfl⟩

theorem readline_readsWhenReady (h : CanReceive fd strSock) (hfuel : s.length < fuel) :
    ReadsWhenReady fd strSock eol fuel s := by
  intro ready i lineBuff
  refine ⟨tellsAgain_returns readline_loud (readline_ends h hfuel) i, fun t c hp => ?_⟩
  refine StepPath.map_iff (f := streamOf) (g := Prod.fst)
    (C := fun x => AllReady ready x.label.2) (fun c l c' hs => ?_) hp
  have hready := allReady_iff (fun _ _ _ _ => incoming_status) readline_loud hs
  constructor
  · exact fun hstep => hready.mpr (readStep_not_wouldBlock hstep)
  · exact fun hall => Prog.exec_of_allReady hs hall

end Reading

/-! ## One call that finds the fd not ready -/

/-- The line and buffer calls do on a non-blocking fd what they do on a blocking one exactly as
long as no call finds the fd not ready. -/
theorem asBlocking_iff_allReady {fd : Fd} {strSock : StreamSocketFsm} {fuel : Nat} :
    (CanSend fd strSock → ∀ message, message.length < fuel →
      WritesWhenReady fd strSock message (sendBuff message fuel)) ∧
    (CanSend fd strSock → ∀ line eol, (line ++ eol).length < fuel →
      WritesWhenReady fd strSock (line ++ eol) (sendline line eol fuel)) ∧
    (CanReceive fd strSock → ∀ eol s, s.length < fuel → ReadsWhenReady fd strSock eol fuel s) :=
  ⟨fun h _ hfuel => sendBuff_writesWhenReady h hfuel,
    fun h _ _ hfuel => sendBuff_writesWhenReady h hfuel,
    fun h _ _ hfuel => readline_readsWhenReady h hfuel⟩

theorem asBlocking_hello :
    WritesWhenReady 3 connectedSock [104, 105] (sendBuff [104, 105] 9) ∧
    WritesWhenReady 3 connectedSock ([104, 105] ++ defaultEol) (sendline [104, 105] defaultEol 9) ∧
    ReadsWhenReady 3 connectedSock defaultEol 9 [104, 105, 13, 10] := by
  obtain ⟨hbuff, hline, hread⟩ := @asBlocking_iff_allReady 3 connectedSock 9
  exact ⟨hbuff connectedSock_canSend _ (by decide), hline connectedSock_canSend _ _ (by decide),
    hread connectedSock_canReceive _ _ (by decide)⟩

def lateOnce (i : Nat) : Bool := i != 1

/-- The fd gets ready again, yet `sendBuff` throws with a part of the message on the wire, and
`readline` drops the part of the line that it has read. -/
theorem lateOnce_losesBytes :
    (∀ i, ∃ j, i ≤ j ∧ lateOnce j = true) ∧
    (∃ evs, Runs (NonBlocking (wire 3).Outgoing lateOnce) (sendBuff [97, 98] 3) connectedSock
      (([], false), 0) evs (.error wouldBlock) connectedSock (([97], false), 2)) ∧
    ∃ t, StepPath (NonBlockingRead 3 [10] 3 lateOnce) (⟨connectedSock, []⟩, [97, 98, 10], 0) t
        (⟨connectedSock, [98]⟩, [], 4) ∧
      t.map (fun x => (x.label.1, x.after.1.lineBuff)) =
        [(.error wouldBlock, [97]), (.ok 1, [98])] := by
  refine ⟨fun i => ⟨i + 2, by omega, bne_iff_ne.mpr (by omega)⟩, ?_, ?_⟩
  · have hwrites : (wire 3).writes (.send 3 [97, 98] sendFlags) = some [97, 98] := rfl
    have hshort : (wire 3).Outgoing ([], false) (.send 3 [97, 98] sendFlags) ⟨1, 0, .zero, []⟩
        ([97], false) := .write (n := 1) hwrites ⟨by decide, by decide⟩ rfl
    exact ⟨_, .call (.answered rfl hshort)
      (.call (.notReady (r := ⟨-1, EAGAIN, .zero, []⟩) rfl ⟨trivial, rfl, rfl⟩) (.done _ _))⟩
  · have hreads : (wire 3).reads (.recv 3 1 messageWaitFlag) = some 1 := rfl
    have hread : ∀ (b : Byte) (s : List Byte), (wire 3).Incoming (b :: s)
        (.recv 3 1 messageWaitFlag) ⟨1, 0, .zero, [b]⟩ s := fun b s =>
      .data hreads (List.cons_ne_nil b []) le_rfl ⟨rfl, rfl⟩
    have hthrow : ∃ evs, NonBlockingRead 3 [10] 3 lateOnce (⟨connectedSock, []⟩, [97, 98, 10], 0)
        (.error wouldBlock, evs) (⟨connectedSock, [97]⟩, [98, 10], 2) :=
      ⟨_, .call (.answered rfl (hread 97 _))
        (.call (.notReady (r := ⟨-1, EAGAIN, .zero, []⟩) rfl ⟨trivial, rfl, rfl⟩) (.done _ _))⟩
    have hrest : ∃ evs, NonBlockingRead 3 [10] 3 lateOnce (⟨connectedSock, [97]⟩, [98, 10], 2)
        (.ok 1, evs) (⟨connectedSock, [98]⟩, [], 4) :=
      ⟨_, .call (.answered rfl (hread 98 _)) (.call (.answered rfl (hread 10 _)) (.done _ _))⟩
    obtain ⟨evs1, hthrow⟩ := hthrow
    obtain ⟨evs2, hrest⟩ := hrest
    exact ⟨_, .snoc (.snoc .nil hthrow) hrest, rfl⟩

end Snl
