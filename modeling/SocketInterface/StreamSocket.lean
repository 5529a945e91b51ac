import SocketInterface.Library.Channel
import SocketInterface.Library.Delimiter
import SocketInterface.StreamSocketFsm

/-! # Lines and buffers over a `StreamSocket` -/

namespace Snl

open Method

def MSG_DONTWAIT : Int := 0x40

def MSG_WAITALL : Int := 0x100

def messageDontWaitFlag : Int := MSG_DONTWAIT

def messageWaitFlag : Int := MSG_WAITALL

def sendFlags : Int := 0

/-- `std::string::rfind`; `none` is `npos`. -/
def rfind (str pat : List Byte) : Option Nat :=
  (List.range (str.length + 1)).reverse.find? fun pos => pat.isPrefixOf (str.drop pos)

structure Reader where
  strSock : StreamSocketFsm
  lineBuff : List Byte

namespace Reader

def clear : M Reader Unit := update fun this => { this with lineBuff := [] }

def pushBack (b : Byte) : M Reader Unit :=
  update fun this => { this with lineBuff := this.lineBuff ++ [b] }

/-- `pop_back` of an empty string is undefined. -/
def popBack : M Reader Unit := do
  let this ← self
  if this.lineBuff = [] then halt .undefined
  else update fun this => { this with lineBuff := this.lineBuff.dropLast }

def receive (bufferSize : Nat) (flags : Int) : M Reader (Nat × List Byte) :=
  zoom Reader.strSock (fun strSock this => { this with strSock })
    (StreamSocketFsm.receive bufferSize flags)

/-- `for (i = 0; i != n; i++) lineBuff.pop_back();` -/
def popBacks : Nat → M Reader Unit
  | 0 => pure ()
  | n + 1 => do popBack; popBacks n

end Reader

/-- A method of the reader in the scope of the local `char buff`, which nothing initialises. -/
def onReader {α : Type} (m : M Reader α) : M (Option Byte × Reader) α :=
  zoom Prod.snd (fun this l => (l.1, this)) m

def readByte (eol : List Byte) : M (Option Byte × Reader) Bool := do
  let got ← onReader (Reader.receive 1 messageWaitFlag)
  update fun l => (got.2.head?.or l.1, l.2)
  let l ← self
  match l.1 with
  | none => halt .undefined
  | some buff => do
    onReader (Reader.pushBack buff)
    let l ← self
    pure (rfind l.2.lineBuff eol).isNone

def readline (eol : List Byte) (fuel : Nat) : M Reader Nat := do
  Reader.clear
  withVar none (doWhile (readByte eol) fuel)
  Reader.popBacks eol.length
  let this ← self
  pure this.lineBuff.length

/-- The body of the loop of `sendline` and `sendBuff`, with the local `charsSent`. -/
def sendRest (message : List Byte) : M (Nat × StreamSocketFsm) Bool := do
  let l ← self
  let sent ← zoom Prod.snd (fun this l => (l.1, this))
    (StreamSocketFsm.send (message.drop l.1) sendFlags)
  update fun l => (l.1 + sent, l.2)
  let l ← self
  pure (l.1 != message.length)

def sendBuff (buffer : List Byte) (fuel : Nat) : M StreamSocketFsm Unit :=
  withVar 0 (doWhile (sendRest buffer) fuel)

def sendline (line eol : List Byte) (fuel : Nat) : M StreamSocketFsm Unit :=
  withVar 0 (doWhile (sendRest (line ++ eol)) fuel)

def receiveBuff (bufferSize : Nat) : M StreamSocketFsm (Nat × List Byte) :=
  StreamSocketFsm.receive bufferSize messageDontWaitFlag

def defaultEol : List Byte := [13, 10]

/-! ## A blocking connection -/

def Waits (flags : Int) : Prop := (BitVec.ofInt 32 flags).getLsbD 6 = false

instance (flags : Int) : Decidable (Waits flags) := inferInstanceAs (Decidable (_ = _))

def wire (fd : Fd) : Wire Call Reply Byte where
  writes
    | .send fd' buffer flags => if fd' = fd ∧ Waits flags then some buffer else none
    | _ => none
  taken reply n := reply.status = n
  closes c := c = .shutdown fd StreamSocketFsm.upstreamShutdown ∨ c = .close fd
  closed reply := reply.status = 0
  reads
    | .recv fd' bufferSize flags => if fd' = fd ∧ Waits flags then some bufferSize else none
    | _ => none
  got reply bytes := reply.status = bytes.length ∧ reply.data = bytes

theorem incoming_answers {m : CloseFailure} {k : Kernel} {fd : Fd} {f : OpenFile} {s s' : List Byte}
    {c : Call} {r : Reply} (hf : k.files fd = some f) (h : (wire fd).Incoming s c r s') :
    Kernel.Answers m k c r k := by
  have hread : ∀ size, (wire fd).reads c = some size → ∃ flags, c = .recv fd size flags := by
    intro size hc
    cases c with
    | recv fd' size' flags =>
      obtain ⟨⟨rfl, -⟩, hsize⟩ := Option.ite_none_right_eq_some.mp hc
      obtain rfl : size' = size := Option.some.inj hsize
      exact ⟨flags, rfl⟩
    | _ => simp [wire] at hc
  cases h with
  | data hc hne hsize hr =>
    obtain ⟨flags, rfl⟩ := hread _ hc
    obtain ⟨hst, hdata⟩ := hr
    exact Kernel.answers_recv.mpr (.inr ⟨⟨f, hf⟩, by rw [hst, hdata], by rw [hdata]; exact hsize, rfl⟩)
  | empty hc hend hr =>
    obtain ⟨flags, rfl⟩ := hread _ hc
    obtain ⟨hst, hdata⟩ := hr
    exact Kernel.answers_recv.mpr (.inr ⟨⟨f, hf⟩, by rw [hst, hdata], by rw [hdata]; simp, rfl⟩)

theorem outgoing_answers {m : CloseFailure} {k : Kernel} {fd : Fd} {f : OpenFile}
    {w w' : List Byte × Bool} {c : Call} {r : Reply} (hf : k.files fd = some f)
    (h : (wire fd).Outgoing w c r w') : ∃ k', Kernel.Answers m k c r k' := by
  cases h with
  | @write w c buf n r hc hn hr =>
    have hst : r.status = n := hr
    have hle := hn.1
    cases c with
    | send fd' buffer flags =>
      obtain ⟨⟨rfl, -⟩, hbuf⟩ := Option.ite_none_right_eq_some.mp hc
      obtain rfl : buffer = buf := Option.some.inj hbuf
      exact ⟨k, Kernel.answers_send.mpr (.inr ⟨⟨f, hf⟩, by omega, by omega, rfl⟩)⟩
    | _ => simp [wire] at hc
  | close hc hr =>
    rcases hc with rfl | rfl
    · exact ⟨k, Kernel.answers_shutdown.mpr (.inr ⟨⟨f, hf⟩, hr, rfl⟩)⟩
    · exact ⟨_, Kernel.answers_close.mpr (.inr ⟨⟨f, hf⟩, hr, rfl⟩)⟩

/-! ## Reading -/

theorem rfind_isNone {str pat : List Byte} : (rfind str pat).isNone = true ↔ ¬ pat <:+: str := by
  unfold rfind
  rw [Option.isNone_iff_eq_none, List.find?_eq_none, infix_iff_drop]
  simp only [List.mem_reverse, List.mem_range, List.isPrefixOf_iff_prefix]
  constructor
  · rintro h ⟨pos, hpos, hpre⟩
    exact h pos (by omega) hpre
  · rintro h pos hpos hpre
    exact h ⟨pos, by omega, hpre⟩

section Reading

variable {fd : Fd} {strSock : StreamSocketFsm} {eol s rem : List Byte}

structure CanReceive (fd : Fd) (strSock : StreamSocketFsm) : Prop where
  own : strSock.strSoFd.fd = fd
  state : strSock.fsmState = .CONNECTED ∨ strSock.fsmState = .UCLOSED

def eofReached : SnlException := .eof "End of file reached"

theorem receive_returns (h : CanReceive fd strSock) :
    Returns (wire fd).Incoming (StreamSocketFsm.receive 1 messageWaitFlag) strSock s
      fun r strSock' s' => strSock' = strSock ∧
        ((∃ b, s = b :: s' ∧ r = .ok (1, [b])) ∨ (s = [] ∧ s' = [] ∧ r = .error eofReached)) := by
  obtain ⟨rfl, hstate⟩ := h
  have hreads : (wire strSock.strSoFd.fd).reads
      (.recv strSock.strSoFd.fd 1 messageWaitFlag) = some 1 := if_pos ⟨rfl, by decide⟩
  have hcheck : ¬ (strSock.fsmState ≠ .CONNECTED ∧ strSock.fsmState ≠ .UCLOSED) := by tauto
  unfold StreamSocketFsm.receive StreamSocketFsm.receiveCheck
  refine returns_self_bind (returns_check_bind hcheck ?_)
  refine returns_bind (Q := fun r strSock' s' => strSock' = strSock ∧ ∃ reply : Reply, r = .ok reply ∧
    ((∃ b, s = b :: s' ∧ reply.status = 1 ∧ reply.data = [b]) ∨
      (s = [] ∧ s' = [] ∧ reply.status = 0))) (executeSyscall_returns ?_ ?_) ?_ ?_
  · cases s with
    | nil => exact ⟨⟨0, 0, .zero, []⟩, [], .empty hreads (.inr rfl) ⟨rfl, rfl⟩⟩
    | cons b s => exact ⟨⟨1, 0, .zero, [b]⟩, s, .data hreads (List.cons_ne_nil b []) le_rfl ⟨rfl, rfl⟩⟩
  · intro r s' hr
    cases hr with
    | @data bytes _ _ size _ hc hne hsize hgot =>
      obtain rfl : size = 1 := Option.some.inj (hc.symm.trans hreads)
      obtain ⟨b, rfl⟩ : ∃ b, bytes = [b] := by
        have := List.length_pos_iff.mpr hne
        exact List.length_eq_one_iff.mp (by omega)
      obtain ⟨hst, hdata⟩ := hgot
      have hst : r.status = 1 := hst
      refine ⟨by omega, rfl, r, rfl, .inl ⟨b, rfl, hst, hdata⟩⟩
    | @empty _ _ size _ hc hend hgot =>
      obtain rfl : size = 1 := Option.some.inj (hc.symm.trans hreads)
      obtain rfl : s = [] := hend.resolve_left (by simp)
      have hst : r.status = 0 := hgot.1
      exact ⟨by omega, rfl, r, rfl, .inr ⟨rfl, rfl, hst⟩⟩
  · rintro reply _ s' ⟨rfl, reply', hreply, hcases⟩
    obtain rfl : reply = reply' := Except.ok.inj hreply
    rcases hcases with ⟨b, rfl, hst, hdata⟩ | ⟨rfl, rfl, hst⟩
    · rw [hst, hdata]
      exact returns_pure ⟨rfl, .inl ⟨b, rfl, rfl⟩⟩
    · rw [hst]
      exact returns_raise ⟨rfl, .inr ⟨rfl, rfl, rfl⟩⟩
  · rintro e _ _ ⟨-, reply, h, -⟩
    simp at h

theorem readByte_returns {buff : Option Byte} {this : Reader} (h : CanReceive fd this.strSock) :
    Returns (wire fd).Incoming (readByte eol) (buff, this) s fun r l s' =>
      match r with
      | .ok again => ∃ b, s = b :: s' ∧ l.2 = { this with lineBuff := this.lineBuff ++ [b] } ∧
          again = (rfind (this.lineBuff ++ [b]) eol).isNone
      | .error e => e = eofReached ∧ s = [] ∧ s' = [] ∧ l.2 = this := by
  unfold readByte onReader Reader.receive
  refine returns_bind (returns_zoom (returns_zoom (receive_returns h))) ?_ ?_
  · rintro got _ s' ⟨_, rfl, _, rfl, rfl, ⟨b, rfl, hgot⟩ | ⟨-, -, hgot⟩⟩
    · obtain rfl : got = (1, [b]) := Except.ok.inj hgot
      -- the byte is in `buff`: the rest of the body issues no call
      exact Prog.Returns.done ⟨b, rfl, rfl, rfl⟩
    · simp at hgot
  · rintro e _ s' ⟨_, rfl, _, rfl, rfl, ⟨b, rfl, hgot⟩ | ⟨rfl, rfl, hgot⟩⟩
    · simp at hgot
    · exact ⟨Except.error.inj hgot, rfl, rfl, rfl⟩

/-- What the loop has read is what was consumed, and the delimiter is not complete in it. -/
structure ReadInv (eol s : List Byte) (strSock : StreamSocketFsm) (this : Reader)
    (rem : List Byte) : Prop where
  sock : this.strSock = strSock
  consumed : s = this.lineBuff ++ rem
  noEol : ¬ eol <:+: this.lineBuff

theorem readLoop_returns (heol : eol ≠ []) (h : CanReceive fd strSock) {fuel : Nat}
    (hfuel : s.length < fuel) :
    Returns (wire fd).Incoming (doWhile (readByte eol) fuel) (none, ⟨strSock, []⟩) s fun r l s' =>
      match r with
      | .ok _ => ∃ line, l.2 = ⟨strSock, line ++ eol⟩ ∧ Cut eol s line s'
      | .error e => e = eofReached ∧ l.2 = ⟨strSock, s⟩ ∧ ¬ eol <:+: s ∧ s' = [] := by
  refine returns_doWhile (I := fun l rem => ReadInv eol s strSock l.2 rem) (fun _ rem => rem.length)
    ?_ ⟨rfl, rfl, ?_⟩ hfuel
  · rintro ⟨buff, this⟩ rem ⟨rfl, rfl, hno⟩
    refine returns_mono (readByte_returns h) fun r l s' hr => ?_
    match r with
    | .ok true =>
      obtain ⟨b, rfl, hl, hagain⟩ := hr
      rw [hl]
      exact ⟨⟨rfl, by simp, rfind_isNone.mp hagain.symm⟩, by simp⟩
    | .ok false =>
      obtain ⟨b, rfl, hl, hagain⟩ := hr
      have hin : eol <:+: this.lineBuff ++ [b] := by
        by_contra hnot
        rw [rfind_isNone.mpr hnot] at hagain
        simp at hagain
      obtain ⟨line, hline, hcut⟩ := cut_of_scan hno hin s'
      refine ⟨line, by rw [hl, hline], ?_⟩
      rwa [List.append_assoc] at hcut
    | .error e =>
      obtain ⟨rfl, rfl, rfl, hl⟩ := hr
      rw [List.append_nil]
      exact ⟨rfl, hl, hno, rfl⟩
  · rw [List.infix_nil]
    exact heol

theorem popBacks_returns {W : Type} {env : W → Call → Reply → W → Prop} {w : W} {tail : List Byte}
    {line : List Byte} :
    Returns env (Reader.popBacks tail.length) ⟨strSock, line ++ tail⟩ w fun r this' w' =>
      r = .ok () ∧ this' = ⟨strSock, line⟩ ∧ w' = w := by
  induction tail using List.reverseRecOn with
  | nil =>
    rw [List.append_nil]
    exact returns_pure ⟨rfl, rfl, rfl⟩
  | append_singleton tail b ih =>
    rw [List.length_append, List.length_singleton]
    have hpop : Returns env Reader.popBack ⟨strSock, line ++ (tail ++ [b])⟩ w fun r this' w' =>
        r = .ok () ∧ this' = ⟨strSock, line ++ tail⟩ ∧ w' = w := by
      unfold Reader.popBack
      refine returns_self_bind ?_
      rw [if_neg (by simp)]
      refine returns_update ⟨rfl, ?_, rfl⟩
      rw [← List.append_assoc, List.dropLast_concat]
    refine returns_bind hpop ?_ ?_
    · rintro _ _ _ ⟨-, rfl, rfl⟩
      exact ih
    · exact fun _ _ _ h => absurd h.1 (by simp)

/-- One call returns the part before the first delimiter, or throws at the end of a stream in
which there is none. -/
theorem readline_returns (heol : eol ≠ []) (h : CanReceive fd strSock) {fuel : Nat}
    (hfuel : s.length < fuel) (lineBuff : List Byte) :
    Returns (wire fd).Incoming (readline eol fuel) ⟨strSock, lineBuff⟩ s fun r this' s' =>
      match r with
      | .ok n => this'.strSock = strSock ∧ n = this'.lineBuff.length ∧ Cut eol s this'.lineBuff s'
      | .error e => this'.strSock = strSock ∧ e = eofReached ∧ this'.lineBuff = s ∧
          ¬ eol <:+: s ∧ s' = [] := by
  unfold readline Reader.clear
  refine returns_update_bind (returns_bind (returns_withVar (Q := fun r this' s' => match r with
    | .ok _ => ∃ line, this' = ⟨strSock, line ++ eol⟩ ∧ Cut eol s line s'
    | .error e => e = eofReached ∧ this' = ⟨strSock, s⟩ ∧ ¬ eol <:+: s ∧ s' = [])
    (readLoop_returns heol h hfuel)) ?_ ?_)
  · rintro _ _ s' ⟨line, rfl, hcut⟩
    refine returns_bind popBacks_returns ?_ ?_
    · rintro _ _ _ ⟨-, rfl, rfl⟩
      refine returns_self_bind (returns_pure ?_)
      exact ⟨rfl, rfl, hcut⟩
    · rintro _ _ _ ⟨h, -⟩
      simp at h
  · rintro e _ s' ⟨rfl, rfl, hno, rfl⟩
    exact ⟨rfl, rfl, rfl, hno, rfl⟩

end Reading

/-! ## Writing -/

section Writing

variable {fd : Fd} {strSock : StreamSocketFsm} {message w : List Byte}

structure CanSend (fd : Fd) (strSock : StreamSocketFsm) : Prop where
  own : strSock.strSoFd.fd = fd
  isFd : fd ≠ -1
  state : strSock.fsmState = .CONNECTED ∨ strSock.fsmState = .DCLOSED

theorem send_returns (h : CanSend fd strSock) :
    Returns (wire fd).Outgoing (StreamSocketFsm.send message sendFlags) strSock (w, false)
      fun r strSock' w' => strSock' = strSock ∧
        ∃ n, Wire.Takes message n ∧ r = .ok n ∧ w' = (w ++ message.take n, false) := by
  obtain ⟨rfl, -, hstate⟩ := h
  have hwrites : (wire strSock.strSoFd.fd).writes
      (.send strSock.strSoFd.fd message sendFlags) = some message := if_pos ⟨rfl, by decide⟩
  have hcheck : ¬ (strSock.fsmState ≠ .CONNECTED ∧ strSock.fsmState ≠ .DCLOSED) := by tauto
  unfold StreamSocketFsm.send StreamSocketFsm.sendCheck
  refine returns_self_bind (returns_check_bind hcheck ?_)
  refine returns_bind (Q := fun r strSock' w' => strSock' = strSock ∧ ∃ (reply : Reply) (n : Nat),
    r = .ok reply ∧ Wire.Takes message n ∧ reply.status = n ∧ w' = (w ++ message.take n, false))
    (executeSyscall_returns ?_ ?_) ?_ ?_
  · have hall : Wire.Takes message message.length :=
      ⟨le_rfl, fun hne => List.length_pos_iff.mpr hne⟩
    exact ⟨⟨message.length, 0, .zero, []⟩, _, .write hwrites hall rfl⟩
  · intro r w' hr
    cases hr with
    | @write _ _ buf n _ hc hn htaken =>
      obtain rfl : buf = message := Option.some.inj (hc.symm.trans hwrites)
      have hst : r.status = n := htaken
      exact ⟨by omega, rfl, r, n, rfl, hn, hst, rfl⟩
    | close hc => simp [wire] at hc
  · rintro reply _ w' ⟨rfl, reply', n, hreply, hn, hst, rfl⟩
    obtain rfl : reply = reply' := Except.ok.inj hreply
    refine returns_pure ⟨rfl, n, hn, ?_, rfl⟩
    rw [hst, Int.toNat_natCast]
  · rintro e _ _ ⟨-, reply, n, h, -⟩
    simp at h

/-- One turn of the loop, for whatever `send` is known to do with the rest of the message. -/
theorem sendRest_spec {W : Type} {env : W → Call → Reply → W → Prop} {x : W} {charsSent : Nat}
    {Q : Except SnlException Nat → W → Prop} (hwithin : charsSent ≤ message.length)
    (hleft : message ≠ [] → charsSent < message.length)
    (h : Returns env (StreamSocketFsm.send (message.drop charsSent) sendFlags) strSock x
      fun r strSock' x' => strSock' = strSock ∧
        (∀ n, r = .ok n → Wire.Takes (message.drop charsSent) n) ∧ Q r x') :
    Returns env (sendRest message) (charsSent, strSock) x fun r l' x' => l'.2 = strSock ∧
      match r with
      | .ok true => charsSent < l'.1 ∧ l'.1 < message.length ∧ Q (.ok (l'.1 - charsSent)) x'
      | .ok false => Q (.ok (message.length - charsSent)) x'
      | .error e => l'.1 = charsSent ∧ Q (.error e) x' := by
  unfold sendRest
  refine returns_self_bind (returns_bind (returns_zoom h) ?_ ?_)
  · rintro sent _ x' ⟨_, rfl, rfl, htakes, hQ⟩
    obtain ⟨hle, hpos⟩ := htakes sent rfl
    rw [List.length_drop] at hle
    refine returns_update_bind (returns_self_bind (returns_pure ⟨rfl, ?_⟩))
    dsimp only
    by_cases hend : charsSent + sent = message.length
    · rw [hend, bne_self_eq_false, ← hend, Nat.add_sub_cancel_left]
      exact hQ
    · rw [bne_iff_ne.mpr hend, Nat.add_sub_cancel_left]
      have hlt : charsSent + sent < message.length := by omega
      have hmessage : message ≠ [] := List.length_pos_iff.mp (by omega)
      have hsent : 0 < sent := hpos (by simpa using hleft hmessage)
      exact ⟨by omega, hlt, hQ⟩
  · rintro e _ x' ⟨_, rfl, rfl, -, hQ⟩
    exact ⟨rfl, rfl, hQ⟩

structure SendInv (message w : List Byte) (strSock : StreamSocketFsm) (l : Nat × StreamSocketFsm)
    (w' : List Byte × Bool) : Prop where
  sock : l.2 = strSock
  written : w' = (w ++ message.take l.1, false)
  within : l.1 ≤ message.length
  left : message ≠ [] → l.1 < message.length

theorem take_add_take {charsSent n : Nat} (h : charsSent ≤ n) :
    message.take charsSent ++ (message.drop charsSent).take (n - charsSent) = message.take n := by
  rw [← List.take_add, Nat.add_sub_cancel' h]

theorem sendRest_returns (h : CanSend fd strSock) {l : Nat × StreamSocketFsm}
    {w' : List Byte × Bool} (hi : SendInv message w strSock l w') :
    Returns (wire fd).Outgoing (sendRest message) l w' fun r l' w'' =>
      match r with
      | .ok true => SendInv message w strSock l' w'' ∧
          message.length - l'.1 < message.length - l.1
      | .ok false => l'.2 = strSock ∧ w'' = (w ++ message, false)
      | .error _ => False := by
  obtain ⟨charsSent, this⟩ := l
  obtain ⟨rfl, rfl, hwithin, hleft⟩ := hi
  refine returns_mono (sendRest_spec (Q := fun r w'' => ∃ n, r = .ok n ∧
    w'' = (w ++ (message.take charsSent ++ (message.drop charsSent).take n), false)) hwithin hleft
    (returns_mono (send_returns h) ?_)) ?_
  · rintro _ _ _ ⟨rfl, n, htakes, rfl, rfl⟩
    exact ⟨rfl, fun _ hn => Except.ok.inj hn ▸ htakes, n, rfl, by rw [List.append_assoc]⟩
  · rintro (e | _ | _) ⟨sent, _⟩ w'' ⟨rfl, hr⟩
    · obtain ⟨-, n, hn, -⟩ := hr
      simp at hn
    · obtain ⟨n, hn, rfl⟩ := hr
      rw [← Except.ok.inj hn, take_add_take hwithin, List.take_length]
      exact ⟨rfl, rfl⟩
    · obtain ⟨hlt, hend, n, hn, rfl⟩ := hr
      replace hlt : charsSent < sent := hlt
      rw [← Except.ok.inj hn, take_add_take hlt.le]
      refine ⟨⟨rfl, rfl, hend.le, fun _ => hend⟩, ?_⟩
      show message.length - sent < message.length - charsSent
      omega

theorem sendBuff_returns (h : CanSend fd strSock) {fuel : Nat}
    (hfuel : message.length < fuel) :
    Returns (wire fd).Outgoing (sendBuff message fuel) strSock (w, false) fun r strSock' w' =>
      r = .ok () ∧ strSock' = strSock ∧ w' = (w ++ message, false) := by
  refine returns_withVar (returns_doWhile (I := SendInv message w strSock)
    (fun l _ => message.length - l.1) (fun l w' hi => returns_mono (sendRest_returns h hi) ?_)
    ⟨rfl, ?_, Nat.zero_le _, ?_⟩ ?_)
  · rintro (_ | _ | _) l' w'' hr
    · exact hr.elim
    · exact ⟨rfl, hr⟩
    · exact hr
  · rw [List.take_zero, List.append_nil]
  · exact List.length_pos_iff.mpr
  · show message.length - 0 < fuel
    omega

theorem sendline_returns (h : CanSend fd strSock) {line eol : List Byte}
    {fuel : Nat} (hfuel : (line ++ eol).length < fuel) :
    Returns (wire fd).Outgoing (sendline line eol fuel) strSock (w, false) fun r strSock' w' =>
      r = .ok () ∧ strSock' = strSock ∧ w' = (w ++ (line ++ eol), false) :=
  sendBuff_returns h hfuel

theorem closeUpstream_returns (h : CanSend fd strSock) :
    Returns (wire fd).Outgoing StreamSocketFsm.closeUpstream strSock (w, false) fun r _ w' =>
      r = .ok () ∧ w' = (w, true) := by
  obtain ⟨rfl, hfd, hstate⟩ := h
  have hcheck : ¬ (strSock.fsmState ≠ .DCLOSED ∧ strSock.fsmState ≠ .CONNECTED) := by tauto
  have hcloses : ∀ {c : Call}, (wire strSock.strSoFd.fd).closes c →
      (∃ r w', (wire strSock.strSoFd.fd).Outgoing (w, false) c r w') ∧
      ∀ r w', (wire strSock.strSoFd.fd).Outgoing (w, false) c r w' →
        r.status = 0 ∧ w' = (w, true) := by
    intro c hc
    refine ⟨⟨⟨0, 0, .zero, []⟩, _, .close hc rfl⟩, fun r w' hr => ?_⟩
    cases hr with
    | write hw => rcases hc with rfl | rfl <;> simp [wire] at hw
    | close _ hr => exact ⟨hr, rfl⟩
  unfold StreamSocketFsm.closeUpstream StreamSocketFsm.closeDirection
    StreamSocketFsm.upstreamCloseCheck
  refine returns_self_bind (returns_check_bind hcheck ?_)
  by_cases hconn : strSock.fsmState = .CONNECTED
  · rw [if_pos hconn]
    obtain ⟨hlive, hall⟩ := hcloses (.inl rfl)
    refine returns_bind (Q := fun r _ w' => (∃ reply, r = .ok reply) ∧ w' = (w, true))
      (executeSyscall_returns hlive fun r w' hr => ?_) ?_ ?_
    · obtain ⟨hst, hw⟩ := hall r w' hr
      exact ⟨by omega, ⟨r, rfl⟩, hw⟩
    · rintro _ _ _ ⟨-, rfl⟩
      exact returns_update ⟨rfl, rfl⟩
    · rintro _ _ _ ⟨⟨_, h⟩, -⟩
      simp at h
  · -- the other direction is closed already: the whole socket is
    rw [if_neg hconn]
    have hclosed : ¬ strSock.fsmState = .CLOSED := by
      rcases hstate with h | h <;> simp [h]
    obtain ⟨hlive, hall⟩ := hcloses (.inr rfl)
    unfold StreamSocketFsm.close StreamSocketFsm.closeCheck
    refine returns_self_bind (returns_check_bind hclosed ?_)
    have hclose : Returns (wire strSock.strSoFd.fd).Outgoing FdGuard.close strSock.strSoFd
        (w, false) fun r _ w' => r = .ok () ∧ w' = (w, true) := by
      unfold FdGuard.close FdGuard.closeFd
      refine returns_self_bind (returns_bind (Q := fun r _ w' => r = .ok () ∧ w' = (w, true)) ?_ ?_ ?_)
      · rw [if_neg (by simpa using hfd)]
        refine returns_issue_bind hlive fun r w' hr => ?_
        obtain ⟨hst, hw⟩ := hall r w' hr
        rw [if_neg (not_not.mpr hst)]
        exact returns_pure ⟨rfl, hw⟩
      · exact fun _ _ _ h => returns_update ⟨rfl, h.2⟩
      · exact fun _ _ _ h => absurd h.1 (by simp)
    refine returns_bind (returns_zoom hclose) ?_ ?_
    · rintro _ _ _ ⟨_, -, -, hw⟩
      exact returns_update ⟨rfl, hw⟩
    · rintro _ _ _ ⟨_, -, h, -⟩
      simp at h

end Writing

end Snl
