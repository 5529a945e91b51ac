import SocketInterface.Library.Dialogue
import SocketInterface.LineRuns

/-!
# Conversations

Two peers that talk line by line, over `sendline` and `readline`. What they say to each
other when a line is heard as soon as it is said, they say over the sockets.
-/

namespace Snl

open Method Turn

abbrev Line := List Byte

/-! ## Lines of a script -/

structure CanTalk (fd : Fd) (strSock : StreamSocketFsm) : Prop where
  own : strSock.strSoFd.fd = fd
  isFd : fd ≠ -1
  state : strSock.fsmState = .CONNECTED

section Lines

variable {fd : Fd} {strSock : StreamSocketFsm} {eol line : List Byte} {s : List (Turn Byte)}

theorem CanTalk.canSend (h : CanTalk fd strSock) : CanSend fd strSock :=
  ⟨h.own, h.isFd, .inl h.state⟩

theorem CanTalk.canReceive (h : CanTalk fd strSock) : CanReceive fd strSock := ⟨h.own, .inl h.state⟩

theorem wire_proper (fd : Fd) : (wire fd).Proper := by
  constructor
  · intro c hc
    cases c <;> simp_all [wire]
  · intro c hc
    cases c <;> simp_all [wire]
  · exact fun n => ⟨⟨n, 0, .zero, []⟩, rfl⟩
  · exact fun bytes => ⟨⟨bytes.length, 0, .zero, bytes⟩, rfl, rfl⟩
  · exact ⟨⟨0, 0, .zero, []⟩, rfl⟩

theorem sendline_speaks (h : CanSend fd strSock) {fuel : Nat}
    (hfuel : (line ++ eol).length < fuel) :
    Returns (wire fd).Plays (sendline line eol fuel) strSock (said (line ++ eol) ++ s, false)
      fun r strSock' s' => r = .ok () ∧ strSock' = strSock ∧ s' = (s, false) := by
  have hwrites : Prog.Returns (wire fd).Outgoing (fun x w' => w' = (line ++ eol, false) ∧
      x.1 = .ok () ∧ x.2 = strSock) (sendline line eol fuel strSock) ([], false) := by
    refine (sendline_returns h hfuel).mono ?_
    rintro x w' ⟨hr, hsock, hw⟩
    exact ⟨hw, hr, hsock⟩
  refine (Wire.plays_of_outgoing (wire_proper fd) hwrites rfl s).mono ?_
  rintro x s' ⟨hs, hr, hsock⟩
  exact ⟨hr, hsock, hs⟩

theorem receive_hears (h : CanReceive fd strSock) {b : Byte} :
    Returns (wire fd).Plays (StreamSocketFsm.receive 1 messageWaitFlag) strSock
      (hear b :: s, false) fun r strSock' s' =>
        r = .ok (1, [b]) ∧ strSock' = strSock ∧ s' = (s, false) := by
  obtain ⟨rfl, hstate⟩ := h
  have hreads : (wire strSock.strSoFd.fd).reads
      (.recv strSock.strSoFd.fd 1 messageWaitFlag) = some 1 := if_pos ⟨rfl, by decide⟩
  have hcheck : ¬ (strSock.fsmState ≠ .CONNECTED ∧ strSock.fsmState ≠ .UCLOSED) := by tauto
  unfold StreamSocketFsm.receive StreamSocketFsm.receiveCheck
  refine returns_self_bind (returns_check_bind hcheck ?_)
  refine returns_bind (Q := fun r strSock' s' => (∃ reply : Reply, r = .ok reply ∧
    reply.status = 1 ∧ reply.data = [b]) ∧ strSock' = strSock ∧ s' = (s, false))
    (executeSyscall_returns ?_ ?_) ?_ ?_
  · exact ⟨⟨1, 0, .zero, [b]⟩, _, .read hreads (List.cons_ne_nil b []) le_rfl ⟨rfl, rfl⟩ rfl⟩
  · intro r s' hr
    cases hr with
    | write hc => simp [wire] at hc
    | @read _ s' _ size bytes _ hc hne hsize hgot hs =>
      obtain rfl : size = 1 := Option.some.inj (hc.symm.trans hreads)
      obtain ⟨b', rfl⟩ : ∃ b', bytes = [b'] := by
        have := List.length_pos_iff.mpr hne
        exact List.length_eq_one_iff.mp (by omega)
      obtain ⟨hb, rfl⟩ : b = b' ∧ s = s' := by simpa using hs
      obtain ⟨hst, hdata⟩ := hgot
      replace hst : r.status = 1 := hst
      subst hb
      exact ⟨by omega, ⟨r, rfl, hst, hdata⟩, rfl, rfl⟩
    | close hc => simp [wire] at hc
  · rintro reply _ s' ⟨⟨reply', hreply, hst, hdata⟩, rfl, rfl⟩
    obtain rfl : reply = reply' := Except.ok.inj hreply
    rw [hst, hdata]
    exact returns_pure ⟨rfl, rfl, rfl⟩
  · rintro e _ _ ⟨⟨reply, h, -⟩, -⟩
    simp at h

theorem readByte_hears {buff : Option Byte} {this : Reader} (h : CanReceive fd this.strSock)
    {b : Byte} : Returns (wire fd).Plays (readByte eol) (buff, this) (hear b :: s, false)
      fun r l s' => r = .ok (rfind (this.lineBuff ++ [b]) eol).isNone ∧
        l.2 = { this with lineBuff := this.lineBuff ++ [b] } ∧ s' = (s, false) := by
  unfold readByte onReader Reader.receive
  refine returns_bind (returns_zoom (returns_zoom (receive_hears h))) ?_ ?_
  · rintro got _ s' ⟨_, rfl, _, rfl, hgot, rfl, rfl⟩
    obtain rfl : got = (1, [b]) := Except.ok.inj hgot
    exact Prog.Returns.done ⟨rfl, rfl, rfl⟩
  · rintro e _ s' ⟨_, rfl, _, rfl, hgot, -⟩
    simp at hgot

theorem cut_at_end (hun : Unbordered eol) (hline : ¬ eol <:+: line) :
    Cut eol (line ++ eol) line [] := by
  have hcut := cut_of_unbordered hun hline []
  rwa [List.append_nil] at hcut

/-- What was heard of the line so far; `rem` is still to come, and ends the line. -/
structure HearInv (eol line : List Byte) (strSock : StreamSocketFsm) (this : Reader)
    (rem : List Byte) : Prop where
  sock : this.strSock = strSock
  heard : line ++ eol = this.lineBuff ++ rem
  noEol : ¬ eol <:+: this.lineBuff

/-- The delimiter is complete when the line is at its end, and not before. -/
theorem HearInv.next {this : Reader} {b : Byte} {rem : List Byte}
    (h : HearInv eol line strSock this (b :: rem)) (hcut : Cut eol (line ++ eol) line []) :
    eol <:+: this.lineBuff ++ [b] ↔ rem = [] := by
  obtain ⟨-, heard, hno⟩ := h
  have hall : line ++ eol = this.lineBuff ++ [b] ++ rem := by simpa using heard
  constructor
  · intro hin
    obtain ⟨l, -, hcut'⟩ := cut_of_scan hno hin rem
    rw [← hall] at hcut'
    exact (hcut'.unique hcut).2
  · rintro rfl
    rw [List.append_nil] at hall
    exact ⟨line, [], by rw [List.append_nil, hall]⟩

theorem readLoop_hears (h : CanReceive fd strSock) (heol : eol ≠ [])
    (hcut : Cut eol (line ++ eol) line []) {fuel : Nat} (hfuel : (line ++ eol).length < fuel) :
    Returns (wire fd).Plays (doWhile (readByte eol) fuel) (none, ⟨strSock, []⟩)
      (heard (line ++ eol) ++ s, false) fun r l s' =>
        r = .ok () ∧ l.2 = ⟨strSock, line ++ eol⟩ ∧ s' = (s, false) := by
  refine returns_doWhile
    (I := fun l s' => ∃ rem, rem ≠ [] ∧ HearInv eol line strSock l.2 rem ∧
      s' = (heard rem ++ s, false))
    (fun l _ => (line ++ eol).length - l.2.lineBuff.length) ?_
    ⟨line ++ eol, ?_, ⟨rfl, rfl, ?_⟩, rfl⟩ (by simpa using hfuel)
  · rintro ⟨buff, this⟩ _ ⟨_ | ⟨b, rem⟩, hne, hi, rfl⟩
    · exact absurd rfl hne
    have hnext := hi.next hcut
    obtain ⟨hsock, hheard, -⟩ := hi
    refine returns_mono (readByte_hears (hsock ▸ h)) ?_
    rintro _ ⟨_, this'⟩ _ ⟨rfl, hthis, rfl⟩
    dsimp only at hthis
    subst hthis
    have hlen : (line ++ eol).length = this.lineBuff.length + (rem.length + 1) := by
      rw [hheard, List.length_append, List.length_cons]
    cases hend : (rfind (this.lineBuff ++ [b]) eol).isNone with
    | true =>
      have hrem : rem ≠ [] := fun hrem => rfind_isNone.mp hend (hnext.mpr hrem)
      refine ⟨⟨rem, hrem, ⟨hsock, by simpa using hheard, rfind_isNone.mp hend⟩, rfl⟩, ?_⟩
      have hmore : (this.lineBuff ++ [b]).length = this.lineBuff.length + 1 := by simp
      dsimp only
      omega
    | false =>
      have hrem : rem = [] := by
        by_contra hrem
        rw [rfind_isNone.mpr fun hin => hrem (hnext.mp hin)] at hend
        simp at hend
      subst hrem
      exact ⟨rfl, by rw [hheard, hsock], rfl⟩
  · simp [heol]
  · rw [List.infix_nil]
    exact heol

theorem readline_hears (h : CanReceive fd strSock) (heol : eol ≠ [])
    (hcut : Cut eol (line ++ eol) line []) {fuel : Nat} (hfuel : (line ++ eol).length < fuel)
    (lineBuff : List Byte) : Returns (wire fd).Plays (readline eol fuel) ⟨strSock, lineBuff⟩
      (heard (line ++ eol) ++ s, false) fun r this' s' =>
        r = .ok line.length ∧ this' = ⟨strSock, line⟩ ∧ s' = (s, false) := by
  unfold readline Reader.clear
  refine returns_update_bind (returns_then (returns_withVar (readLoop_hears h heol hcut hfuel)) ?_)
  exact returns_then popBacks_returns (returns_self_bind (returns_pure ⟨rfl, rfl, rfl⟩))

theorem close_plays (h : CanTalk fd strSock) :
    Returns (wire fd).Plays StreamSocketFsm.close strSock ([], false) fun r strSock' s' =>
      r = .ok () ∧ strSock' = { strSock with strSoFd := ⟨-1⟩, fsmState := .CLOSED } ∧
        s' = ([], true) := by
  obtain ⟨rfl, hfd, hstate⟩ := h
  have hcloses : (wire strSock.strSoFd.fd).closes (.close strSock.strSoFd.fd) := .inr rfl
  have hcloseFd : Returns (wire strSock.strSoFd.fd).Plays
      (FdGuard.closeFd strSock.strSoFd.fd : M FdGuard Unit) strSock.strSoFd ([], false)
      fun r g s' => r = .ok () ∧ g = strSock.strSoFd ∧ s' = ([], true) := by
    unfold FdGuard.closeFd
    rw [if_neg (by simpa using hfd)]
    refine returns_issue_bind ⟨⟨0, 0, .zero, []⟩, _, .close hcloses rfl rfl⟩ fun r s' hr => ?_
    cases hr with
    | write hc | read hc => simp [wire] at hc
    | close _ hr =>
      replace hr : r.status = 0 := hr
      rw [if_neg (by omega)]
      exact returns_pure ⟨rfl, rfl, rfl⟩
  have hclose : Returns (wire strSock.strSoFd.fd).Plays (StreamSocketFsm.onFd FdGuard.close)
      strSock ([], false) fun r strSock' s' => r = .ok () ∧
        strSock' = { strSock with strSoFd := ⟨-1⟩ } ∧ s' = ([], true) := by
    unfold FdGuard.close
    refine returns_mono (returns_zoom (returns_self_bind (returns_then hcloseFd
      (returns_update (Q := fun r g s' => r = .ok () ∧ g = ⟨-1⟩ ∧ s' = ([], true))
        ⟨rfl, rfl, rfl⟩)))) ?_
    rintro _ _ _ ⟨_, rfl, rfl, rfl, rfl⟩
    exact ⟨rfl, rfl, rfl⟩
  unfold StreamSocketFsm.close StreamSocketFsm.closeCheck
  refine returns_self_bind (returns_check_bind (by simp [hstate]) ?_)
  exact returns_then hclose (returns_update ⟨rfl, rfl, rfl⟩)

end Lines

/-! ## Talks -/

/-- What a party means to say, whatever it hears. -/
inductive Talk (α : Type) where
  | stop (a : α)
  | say (line : Line) (next : Talk α)
  | hear (next : Line → Talk α)

/-- Two parties with nothing between them: a line is heard when it is said. The lines are those the
first one says and hears; there is no answer when both speak or both listen. -/
def converse {α γ : Type} : Talk α → Talk γ → Option (List (Turn Line) × α × γ)
  | .stop a, .stop b => some ([], a, b)
  | .say line p, .hear k => (converse p (k line)).map fun x => (.say line :: x.1, x.2)
  | .hear k, .say line q => (converse (k line) q).map fun x => (.hear line :: x.1, x.2)
  | _, _ => none

inductive Talks {α : Type} : Talk α → List (Turn Line) → α → Prop
  | stop (a : α) : Talks (.stop a) [] a
  | say {line p t a} (h : Talks p t a) : Talks (.say line p) (.say line :: t) a
  | hear {line k t a} (h : Talks (k line) t a) : Talks (.hear k) (.hear line :: t) a

def onSock {α : Type} (m : M StreamSocketFsm α) : M Reader α :=
  zoom Reader.strSock (fun strSock this => { this with strSock }) m

/-- The party at a socket: `sendline` says, `readline` hears. -/
def talkOver {α : Type} (eol : List Byte) (fuel : Nat) : Talk α → M Reader α
  | .stop a => do
    onSock StreamSocketFsm.close
    pure a
  | .say line next => do
    onSock (sendline line eol fuel)
    talkOver eol fuel next
  | .hear next => do
    let _ ← readline eol fuel
    let this ← self
    talkOver eol fuel (next this.lineBuff)

def script (eol : List Byte) : List (Turn Line) → List (Turn Byte)
  | [] => []
  | .say line :: t => said (line ++ eol) ++ script eol t
  | .hear line :: t => heard (line ++ eol) ++ script eol t

def Speakable (eol : List Byte) (fuel : Nat) : Turn Line → Prop
  | .say line | .hear line => ¬ eol <:+: line ∧ (line ++ eol).length < fuel

section Talks

variable {α γ : Type} {fd fd' : Fd} {strSock near far : StreamSocketFsm} {eol : List Byte}
  {fuel room room' : Nat} {p : Talk α} {q : Talk γ} {t : List (Turn Line)} {a : α} {b : γ}

theorem dual_script : dual (script eol t) = script eol (dual t) := by
  induction t with
  | nil => rfl
  | cons turn t ih => cases turn <;> simp [script, ih]

theorem speakable_dual (h : ∀ turn ∈ t, Speakable eol fuel turn) :
    ∀ turn ∈ dual t, Speakable eol fuel turn := by
  unfold dual
  rw [List.forall_mem_map]
  intro turn hturn
  have := h turn hturn
  cases turn <;> exact this

theorem converse_talks (h : converse p q = some (t, a, b)) : Talks p t a ∧ Talks q (dual t) b := by
  induction p generalizing q t with
  | stop =>
    cases q with
    | stop =>
      simp only [converse, Option.some.injEq, Prod.mk.injEq] at h
      obtain ⟨rfl, rfl, rfl⟩ := h
      exact ⟨.stop _, .stop _⟩
    | say | hear => simp [converse] at h
  | say line p ih =>
    cases q with
    | hear k =>
      simp only [converse, Option.map_eq_some_iff, Prod.mk.injEq] at h
      obtain ⟨⟨t, a', b'⟩, h, rfl, rfl, rfl⟩ := h
      obtain ⟨hp, hq⟩ := ih h
      exact ⟨.say hp, .hear hq⟩
    | stop | say => simp [converse] at h
  | hear k ih =>
    cases q with
    | say line q =>
      simp only [converse, Option.map_eq_some_iff, Prod.mk.injEq] at h
      obtain ⟨⟨t, a', b'⟩, h, rfl, rfl, rfl⟩ := h
      obtain ⟨hp, hq⟩ := ih line h
      exact ⟨.hear hp, .say hq⟩
    | stop | hear => simp [converse] at h

theorem onSock_then {W : Type} {env : W → Call → Reply → W → Prop} {β : Type}
    {m : M StreamSocketFsm β} {f : β → M Reader α} {this : Reader} {w w' : W} {x : β}
    {strSock' : StreamSocketFsm} {Q : Except SnlException α → Reader → W → Prop}
    (h : Returns env m this.strSock w fun r s w1 => r = .ok x ∧ s = strSock' ∧ w1 = w')
    (hf : Returns env (f x) ⟨strSock', this.lineBuff⟩ w' Q) :
    Returns env (onSock m >>= f) this w Q := by
  refine returns_then (returns_mono (returns_zoom h) ?_) hf
  rintro _ _ _ ⟨_, rfl, rfl, rfl, rfl⟩
  exact ⟨rfl, rfl, rfl⟩

theorem follows_of_returns {m : M Reader α} {this : Reader} {s : List (Turn Byte)}
    {P : Except SnlException α → Reader → Prop}
    (h : Returns (wire fd).Plays m this (s, false) fun r this' s' => s' = ([], true) ∧ P r this') :
    (wire fd).Follows (fun x => P x.1 x.2) (m this) (s, false) :=
  h.mono fun _ _ h => ⟨by rw [h.1], h.2⟩

theorem talkOver_follows (heol : eol ≠ []) (hun : Unbordered eol) (h : CanTalk fd strSock)
    (hp : Talks p t a) (hspeak : ∀ turn ∈ t, Speakable eol fuel turn) (lineBuff : List Byte) :
    Returns (wire fd).Plays (talkOver eol fuel p) ⟨strSock, lineBuff⟩ (script eol t, false)
      fun r this' s' => s' = ([], true) ∧ r = .ok a ∧ this'.strSock.fsmState = .CLOSED := by
  induction hp generalizing lineBuff with
  | stop a =>
    unfold talkOver script
    exact onSock_then (close_plays h) (returns_pure ⟨rfl, rfl, rfl⟩)
  | @say line p t a _ ih =>
    rw [List.forall_mem_cons] at hspeak
    unfold talkOver script
    exact onSock_then (sendline_speaks h.canSend hspeak.1.2) (ih hspeak.2 lineBuff)
  | @hear line k t a _ ih =>
    rw [List.forall_mem_cons] at hspeak
    have hcut := cut_at_end hun hspeak.1.1
    unfold talkOver script
    exact returns_then (readline_hears h.canReceive heol hcut hspeak.1.2 lineBuff)
      (returns_self_bind (ih hspeak.2 line))

/-- What two parties say to each other without a connection, they say over any: no schedule, no
fragmentation and no size of the buffers makes them wait for each other, or changes a line. -/
theorem talkOver_refines_converse (heol : eol ≠ []) (hun : Unbordered eol)
    (hsync : converse p q = some (t, a, b)) (hspeak : ∀ turn ∈ t, Speakable eol fuel turn)
    (hnear : CanTalk fd near) (hfar : CanTalk fd' far) (hroom : 0 < room) (hroom' : 0 < room')
    (lineBuff lineBuff' : List Byte) :
    Link.Ends (wire fd) (wire fd') (fun N =>
      (∃ this, N.near.prog = .done (.ok a, this) ∧ this.strSock.fsmState = .CLOSED) ∧
      (∃ this, N.far.prog = .done (.ok b, this) ∧ this.strSock.fsmState = .CLOSED) ∧
      N.near.queue = [] ∧ N.far.queue = [])
      (Link.start (talkOver eol fuel p ⟨near, lineBuff⟩) (talkOver eol fuel q ⟨far, lineBuff'⟩)
        room room') := by
  obtain ⟨hp, hq⟩ := converse_talks hsync
  have hfollow := talkOver_follows heol hun hnear hp hspeak lineBuff
  have hfollow' := talkOver_follows heol hun hfar hq (speakable_dual hspeak) lineBuff'
  rw [← dual_script] at hfollow'
  obtain ⟨hacc, hends⟩ := Link.converses (wire_proper fd) (wire_proper fd') hroom hroom'
    (follows_of_returns hfollow) (follows_of_returns hfollow')
  refine ⟨hacc, fun N hrun hfinal => ?_⟩
  obtain ⟨⟨⟨_, this⟩, hn, rfl, hclosed⟩, ⟨⟨_, this'⟩, hf, rfl, hclosed'⟩, hqueues⟩ :=
    hends N hrun hfinal
  exact ⟨⟨this, hn, hclosed⟩, ⟨this', hf, hclosed'⟩, hqueues⟩

end Talks

theorem unbordered_defaultEol : Unbordered defaultEol := by decide

def echo : Talk Unit := .hear fun line => .say (line ++ line) (.stop ())

theorem connectedSock_canTalk : CanTalk 3 connectedSock := ⟨rfl, by decide, rfl⟩

theorem talkOver_refines_converse_echo : ∃ N, Relation.ReflTransGen (Link.Step (wire 3) (wire 3))
      (Link.start (talkOver defaultEol 5 (.say [104] (.hear .stop)) ⟨connectedSock, []⟩)
        (talkOver defaultEol 5 echo ⟨connectedSock, []⟩) 1 1) N ∧
    ∃ this, N.near.prog = .done (.ok [104, 104], this) ∧ this.strSock.fsmState = .CLOSED := by
  have hspeak : ∀ turn ∈ [Turn.say [104], Turn.hear [104, 104]],
      Speakable defaultEol 5 turn := by
    simp [Speakable, defaultEol, List.infix_cons_iff]
  obtain ⟨N, hrun, hnear, -⟩ := (talkOver_refines_converse (by decide) unbordered_defaultEol
    (p := .say [104] (.hear .stop)) (q := echo) rfl hspeak connectedSock_canTalk
    connectedSock_canTalk Nat.one_pos Nat.one_pos [] []).exists_final
  exact ⟨N, hrun, hnear⟩

/-! ## The server of `main.cpp` -/

def chars (str : String) : List Byte := str.toList.map fun c => BitVec.ofNat 8 c.toNat

/-- `std::string::find`; `none` is `npos`. -/
def find (str pat : List Byte) : Option Nat :=
  (List.range (str.length + 1)).find? fun pos => pat.isPrefixOf (str.drop pos)

def helloLine : Line := chars "hello, this is test 101 what do you require?"

def escapeLine : Line := chars "escape character is |quit|"

def quit : List Byte := chars "|quit|"

def responseLine : Line := chars "response registered"

def untilQuit (fuel : Nat) : M Reader Bool := do
  let _ ← readline defaultEol fuel
  let this ← self
  pure (find this.lineBuff quit).isNone

/-- From the `accept` on, but for `servSock.close()`, which is about another descriptor. -/
def servSockFsmTest (fuel : Nat) : M Reader Unit := do
  onSock (StreamSocketFsm.setNonBlock false)
  onSock (sendline helloLine defaultEol fuel)
  onSock (sendline escapeLine defaultEol fuel)
  let _ ← onSock StreamSocketFsm.getSockAddress
  doWhile (untilQuit fuel) fuel
  onSock (sendline responseLine defaultEol fuel)
  onSock StreamSocketFsm.close

def serverTurns (lines : List Line) (last : Line) : List (Turn Line) :=
  .say helloLine :: .say escapeLine :: (lines.map .hear ++ [.hear last, .say responseLine])

section Server

variable {fd fd' : Fd} {strSock far : StreamSocketFsm} {fuel room room' : Nat} {γ : Type}
  {lines : List Line} {last : Line} {s : List (Turn Byte)} {q : Talk γ} {b : γ}

theorem find_isNone {str pat : List Byte} : (find str pat).isNone = true ↔ ¬ pat <:+: str := by
  unfold find
  rw [Option.isNone_iff_eq_none, List.find?_eq_none, infix_iff_drop]
  simp only [List.mem_range, List.isPrefixOf_iff_prefix]
  constructor
  · rintro h ⟨pos, hpos, hpre⟩
    exact h pos (by omega) hpre
  · rintro h pos hpos hpre
    exact h ⟨pos, by omega, hpre⟩

theorem untilQuit_hears (h : CanTalk fd strSock) {line : Line}
    (hline : Speakable defaultEol fuel (.hear line)) (lineBuff : List Byte) :
    Returns (wire fd).Plays (untilQuit fuel) ⟨strSock, lineBuff⟩
      (heard (line ++ defaultEol) ++ s, false) fun r this' s' =>
        r = .ok (find line quit).isNone ∧ this' = ⟨strSock, line⟩ ∧ s' = (s, false) := by
  have hcut := cut_at_end unbordered_defaultEol hline.1
  unfold untilQuit
  exact returns_then (readline_hears h.canReceive (by decide) hcut hline.2 lineBuff)
    (returns_self_bind (returns_pure ⟨rfl, rfl, rfl⟩))

theorem quitLoop_hears (h : CanTalk fd strSock)
    (hlines : ∀ line ∈ lines, Speakable defaultEol fuel (.hear line) ∧ ¬ quit <:+: line)
    (hlast : Speakable defaultEol fuel (.hear last)) (hquit : quit <:+: last) {calls : Nat}
    (hcalls : lines.length < calls) (lineBuff : List Byte) :
    Returns (wire fd).Plays (doWhile (untilQuit fuel) calls) ⟨strSock, lineBuff⟩
      (script defaultEol (lines.map .hear ++ [.hear last]) ++ s, false) fun r this' s' =>
        r = .ok () ∧ this' = ⟨strSock, last⟩ ∧ s' = (s, false) := by
  induction calls generalizing lines lineBuff with
  | zero => omega
  | succ calls ih =>
    cases lines with
    | nil =>
      have hfound : (find last quit).isNone = false := by
        by_contra hnot
        exact find_isNone.mp (by simpa using hnot) hquit
      simp only [List.map_nil, List.nil_append, script, List.append_nil]
      refine returns_then (untilQuit_hears h hlast lineBuff) ?_
      rw [hfound]
      exact returns_pure ⟨rfl, rfl, rfl⟩
    | cons line lines =>
      rw [List.forall_mem_cons] at hlines
      simp only [List.map_cons, List.cons_append, script, List.append_assoc]
      refine returns_then (untilQuit_hears h hlines.1.1 lineBuff) ?_
      rw [find_isNone.mpr hlines.1.2]
      exact ih hlines.2 (by simpa using hcalls) line

theorem script_append {eol : List Byte} (t t' : List (Turn Line)) :
    script eol (t ++ t') = script eol t ++ script eol t' := by
  induction t with
  | nil => rfl
  | cons turn t ih => cases turn <;> simp [script, ih]

theorem servSockFsmTest_follows (h : CanTalk fd strSock) (hmode : strSock.nonBlock = false)
    (hsaid : 46 < fuel)
    (hlines : ∀ line ∈ lines, Speakable defaultEol fuel (.hear line) ∧ ¬ quit <:+: line)
    (hlast : Speakable defaultEol fuel (.hear last)) (hquit : quit <:+: last)
    (hcalls : lines.length < fuel) :
    Returns (wire fd).Plays (servSockFsmTest fuel) ⟨strSock, []⟩
      (script defaultEol (serverTurns lines last), false) fun r this' s' =>
        s' = ([], true) ∧ r = .ok () ∧ this'.lineBuff = last ∧
          this'.strSock.fsmState = .CLOSED := by
  -- the mode is the default one already: no call is issued
  have hmodeKept : ∀ {s}, Returns (wire fd).Plays (StreamSocketFsm.setNonBlock false) strSock s
      fun r strSock' s' => r = .ok () ∧ strSock' = strSock ∧ s' = s := by
    unfold StreamSocketFsm.setNonBlock
    refine returns_self_bind ?_
    rw [if_pos hmode]
    exact returns_pure ⟨rfl, rfl, rfl⟩
  have haddress : ∀ {s}, Returns (wire fd).Plays StreamSocketFsm.getSockAddress strSock s
      fun r strSock' s' => r = .ok strSock.socketAddress ∧ strSock' = strSock ∧ s' = s := by
    unfold StreamSocketFsm.getSockAddress
    refine returns_self_bind ?_
    rw [if_neg (by simp [StreamSocketFsm.isConnected, h.state, StrSoFsmState.val])]
    exact returns_pure ⟨rfl, rfl, rfl⟩
  have hhello : (helloLine ++ defaultEol).length < fuel := hsaid
  have hescape : (escapeLine ++ defaultEol).length < fuel := lt_trans (by decide) hsaid
  have hresponse : (responseLine ++ defaultEol).length < fuel := lt_trans (by decide) hsaid
  unfold servSockFsmTest serverTurns
  simp only [script]
  refine onSock_then hmodeKept (onSock_then (sendline_speaks h.canSend hhello)
    (onSock_then (sendline_speaks h.canSend hescape) (onSock_then haddress ?_)))
  have hlisten := quitLoop_hears h hlines hlast hquit hcalls []
    (s := said (responseLine ++ defaultEol))
  have hscript : lines.map Turn.hear ++ [.hear last, .say responseLine] =
      lines.map .hear ++ [.hear last] ++ [.say responseLine] := by simp
  rw [hscript, script_append, show script defaultEol [.say responseLine] =
    said (responseLine ++ defaultEol) ++ [] from rfl, List.append_nil]
  refine returns_then hlisten ?_
  rw [← List.append_nil (said _)]
  refine onSock_then (sendline_speaks h.canSend hresponse) ?_
  refine returns_mono (returns_zoom (close_plays h)) ?_
  rintro _ _ _ ⟨_, rfl, rfl, rfl, rfl⟩
  exact ⟨rfl, rfl, rfl, rfl⟩

theorem serverTurns_speakable (hsaid : 46 < fuel)
    (hlines : ∀ line ∈ lines, Speakable defaultEol fuel (.hear line))
    (hlast : Speakable defaultEol fuel (.hear last)) :
    ∀ turn ∈ serverTurns lines last, Speakable defaultEol fuel turn := by
  have hfixed : ∀ line ∈ [helloLine, escapeLine, responseLine],
      ¬ defaultEol <:+: line ∧ (line ++ defaultEol).length ≤ 46 := by decide
  have hsay : ∀ line ∈ [helloLine, escapeLine, responseLine],
      Speakable defaultEol fuel (.say line) := fun line hline =>
    ⟨(hfixed line hline).1, by have := (hfixed line hline).2; omega⟩
  intro turn hturn
  simp only [serverTurns, List.mem_cons, List.mem_append, List.mem_map, List.not_mem_nil,
    or_false] at hturn
  rcases hturn with rfl | rfl | ⟨line, hline, rfl⟩ | rfl | rfl
  · exact hsay _ (by simp)
  · exact hsay _ (by simp)
  · exact hlines line hline
  · exact hlast
  · exact hsay _ (by simp)

/-- Whatever the client says before it quits and whatever it makes of the answers, and however the
bytes travel, the server reads up to the escape line, answers, and both close. -/
theorem servSockFsmTest_answers (hserver : fd ≠ -1) (hclient : CanTalk fd' far)
    (socketAddress : SocketAddress) (hsaid : 46 < fuel)
    (hlines : ∀ line ∈ lines, Speakable defaultEol fuel (.hear line) ∧ ¬ quit <:+: line)
    (hlast : Speakable defaultEol fuel (.hear last)) (hquit : quit <:+: last)
    (hcalls : lines.length < fuel) (hq : Talks q (dual (serverTurns lines last)) b)
    (hroom : 0 < room) (hroom' : 0 < room') (lineBuff : List Byte) :
    Link.Ends (wire fd) (wire fd') (fun N =>
      (∃ this, N.near.prog = .done (.ok (), this) ∧ this.lineBuff = last ∧
        this.strSock.fsmState = .CLOSED) ∧
      (∃ this, N.far.prog = .done (.ok b, this) ∧ this.strSock.fsmState = .CLOSED) ∧
      N.near.queue = [] ∧ N.far.queue = [])
      (Link.start (servSockFsmTest fuel ⟨.accepted ⟨fd⟩ socketAddress, []⟩)
        (talkOver defaultEol fuel q ⟨far, lineBuff⟩) room room') := by
  have htalk : CanTalk fd (.accepted ⟨fd⟩ socketAddress) := ⟨rfl, hserver, rfl⟩
  have hfollow := servSockFsmTest_follows htalk rfl hsaid hlines hlast hquit hcalls
  have hspeak := serverTurns_speakable hsaid (fun line hline => (hlines line hline).1) hlast
  have hfollow' := talkOver_follows (by decide) unbordered_defaultEol hclient hq
    (speakable_dual hspeak) lineBuff
  rw [← dual_script] at hfollow'
  obtain ⟨hacc, hends⟩ := Link.converses (wire_proper fd) (wire_proper fd') hroom hroom'
    (follows_of_returns hfollow) (follows_of_returns hfollow')
  refine ⟨hacc, fun N hrun hfinal => ?_⟩
  obtain ⟨⟨⟨_, this⟩, hn, rfl, hresult⟩, ⟨⟨_, this'⟩, hf, rfl, hclosed'⟩, hqueues⟩ :=
    hends N hrun hfinal
  exact ⟨⟨this, hn, hresult⟩, ⟨this', hf, hclosed'⟩, hqueues⟩

end Server

/-- A client that quits at once, and gives back what it heard. -/
def quitter : Talk (List Line) :=
  .hear fun hello => .hear fun escape => .say quit (.hear fun response =>
    .stop [hello, escape, response])

theorem servSockFsmTest_answers_quitter : ∃ N,
    Relation.ReflTransGen (Link.Step (wire 3) (wire 3))
      (Link.start (servSockFsmTest 47 ⟨.accepted ⟨3⟩ .default, []⟩)
        (talkOver defaultEol 47 quitter ⟨connectedSock, []⟩) 1 1) N ∧
    ∃ this, N.far.prog = .done (.ok [helloLine, escapeLine, responseLine], this) ∧
      this.strSock.fsmState = .CLOSED := by
  have hquit : Speakable defaultEol 47 (.hear quit) := ⟨by decide, by decide⟩
  have htalks : Talks quitter (dual (serverTurns [] quit))
      [helloLine, escapeLine, responseLine] := .hear (.hear (.say (.hear (.stop _))))
  have hserver : (3 : Fd) ≠ -1 := by decide
  obtain ⟨N, hrun, -, hfar, -⟩ := (servSockFsmTest_answers hserver connectedSock_canTalk
    .default (by decide) (by simp) hquit List.infix_rfl (by decide) htalks Nat.one_pos Nat.one_pos
    []).exists_final
  exact ⟨N, hrun, hfar⟩

end Snl
