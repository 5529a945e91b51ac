import SocketInterface.Library.Transit
import SocketInterface.NonBlocking
import SocketInterface.SendLoop

/-! # Polling with `receiveBuff` -/

namespace Snl

open Method
open Prog (Asks)

structure Server where
  strSock : StreamSocketFsm
  buffer : List Byte
  dataRead : SizeT

def writeAt (buffer : List Byte) (pos : Nat) (data : List Byte) : List Byte :=
  buffer.take pos ++ data ++ buffer.drop (pos + data.length)

def receiveRest (dataToRead : SizeT) : M Server Bool := do
  let this ← self
  let got ← zoom Server.strSock (fun strSock this => { this with strSock })
    (receiveBuff (dataToRead - this.dataRead).toNat)
  update fun this => { this with
    buffer := writeAt this.buffer this.dataRead.toNat got.2
    dataRead := this.dataRead + BitVec.ofNat 64 got.1 }
  let this ← self
  pure (this.dataRead != dataToRead)

def receiveMessage (dataToRead : SizeT) (fuel : Nat) : M Server Unit :=
  doWhile (receiveRest dataToRead) fuel

def polls (fd : Fd) : Wire Call Reply Byte :=
  { wire fd with
    reads := fun c => match c with
      | .recv fd' bufferSize flags => if fd' = fd ∧ ¬ Waits flags then some bufferSize else none
      | _ => none }

theorem writeAt_length {buffer data : List Byte} {pos : Nat}
    (h : pos + data.length ≤ buffer.length) : (writeAt buffer pos data).length = buffer.length := by
  simp only [writeAt, List.length_append, List.length_take, List.length_drop]
  omega

theorem writeAt_take {buffer data : List Byte} {pos : Nat}
    (h : pos ≤ buffer.length) :
    (writeAt buffer pos data).take (pos + data.length) = buffer.take pos ++ data := by
  unfold writeAt
  refine List.take_left' ?_
  rw [List.length_append, List.length_take, Nat.min_eq_left h]

section

variable {fd : Fd} {strSock : StreamSocketFsm} {message rem : List Byte} {dataToRead : SizeT}
  {fuel : Nat}

theorem polls_reads {c : Call} {size : Nat} (h : (polls fd).reads c = some size) :
    ∃ fd' flags, c = .recv fd' size flags := by
  unfold polls at h
  cases c with
  | recv fd' size' flags =>
    obtain ⟨-, hsize⟩ := Option.ite_none_right_eq_some.mp h
    obtain rfl : size' = size := Option.some.inj hsize
    exact ⟨fd', flags, rfl⟩
  | _ => simp at h

theorem receiveBuff_returns (h : CanReceive fd strSock) (hrem : rem ≠ []) :
    Returns (Asks (Transit.Within (polls fd)) (polls fd).Incoming) (receiveBuff rem.length) strSock
      rem fun r strSock' rem' => strSock' = strSock ∧
        ∃ bytes, bytes ≠ [] ∧ rem = bytes ++ rem' ∧ r = .ok (bytes.length, bytes) := by
  obtain ⟨rfl, hstate⟩ := h
  have hreads : (polls strSock.strSoFd.fd).reads
      (.recv strSock.strSoFd.fd rem.length messageDontWaitFlag) = some rem.length :=
    if_pos ⟨rfl, by decide⟩
  have hpos : 0 < rem.length := List.length_pos_iff.mpr hrem
  have hwithin : Transit.Within (polls strSock.strSoFd.fd) rem
      (.recv strSock.strSoFd.fd rem.length messageDontWaitFlag) := ⟨_, hreads, hpos, le_rfl⟩
  have hcheck : ¬ (strSock.fsmState ≠ .CONNECTED ∧ strSock.fsmState ≠ .UCLOSED) := by tauto
  unfold receiveBuff StreamSocketFsm.receive StreamSocketFsm.receiveCheck
  refine returns_self_bind (returns_check_bind hcheck ?_)
  refine returns_bind (Q := fun r strSock' rem' => strSock' = strSock ∧ ∃ (reply : Reply)
    (bytes : List Byte), r = .ok reply ∧ bytes ≠ [] ∧ rem = bytes ++ rem' ∧
      reply.status = bytes.length ∧ reply.data = bytes) (executeSyscall_returns ?_ ?_) ?_ ?_
  · have hall : (polls strSock.strSoFd.fd).Incoming (rem ++ [])
        (.recv strSock.strSoFd.fd rem.length messageDontWaitFlag) ⟨rem.length, 0, .zero, rem⟩ [] :=
      .data hreads hrem le_rfl ⟨rfl, rfl⟩
    rw [List.append_nil] at hall
    exact ⟨_, _, hwithin, hall⟩
  · rintro r rem' ⟨-, hr⟩
    cases hr with
    | @data bytes _ _ _ _ _ hne _ hgot =>
      obtain ⟨hst, hdata⟩ := hgot
      exact ⟨by omega, rfl, r, bytes, rfl, hne, rfl, hst, hdata⟩
    | @empty _ _ size _ hc hend =>
      obtain rfl : size = rem.length := Option.some.inj (hc.symm.trans hreads)
      rcases hend with h0 | hnil
      · omega
      · exact absurd hnil hrem
  · rintro reply _ rem' ⟨rfl, reply', bytes, hreply, hne, rfl, hst, rfl⟩
    obtain rfl : reply = reply' := Except.ok.inj hreply
    have hlen := List.length_pos_iff.mpr hne
    rw [hst, if_neg (by omega)]
    exact returns_pure ⟨rfl, _, hne, rfl, rfl⟩
  · rintro e _ _ ⟨-, reply, bytes, h, -⟩
    simp at h

/-- What was read is in the buffer, and the stream has the rest of the message. -/
structure ReceiveInv (message : List Byte) (strSock : StreamSocketFsm) (this : Server)
    (rem : List Byte) : Prop where
  sock : this.strSock = strSock
  place : this.dataRead.toNat + rem.length = message.length
  got : this.buffer.take this.dataRead.toNat ++ rem = message
  fits : message.length ≤ this.buffer.length
  left : rem ≠ []

theorem receiveRest_returns (h : CanReceive fd strSock)
    (hsize : dataToRead.toNat = message.length) {this : Server}
    (hi : ReceiveInv message strSock this rem) :
    Returns (Asks (Transit.Within (polls fd)) (polls fd).Incoming) (receiveRest dataToRead) this rem
      fun r this' rem' => match r with
        | .ok true => ReceiveInv message strSock this' rem' ∧ rem'.length < rem.length
        | .ok false => this'.buffer.take message.length = message
        | .error _ => False := by
  obtain ⟨strSock', buffer, dataRead⟩ := this
  obtain ⟨rfl, hplace, hgot, hfits, hleft⟩ := hi
  replace hplace : dataRead.toNat + rem.length = message.length := hplace
  replace hgot : buffer.take dataRead.toNat ++ rem = message := hgot
  replace hfits : message.length ≤ buffer.length := hfits
  have hle : dataRead ≤ dataToRead := BitVec.le_def.mpr (by omega)
  have hask : (dataToRead - dataRead).toNat = rem.length := by
    rw [BitVec.toNat_sub_of_le hle]
    omega
  unfold receiveRest
  refine returns_self_bind ?_
  rw [hask]
  refine returns_bind (returns_zoom (receiveBuff_returns h hleft)) ?_ ?_
  · rintro got _ rem' ⟨_, rfl, rfl, bytes, hne, rfl, hbytes⟩
    obtain rfl : got = (bytes.length, bytes) := Except.ok.inj hbytes
    refine returns_update_bind (returns_self_bind (returns_pure ?_))
    dsimp only
    rw [List.length_append] at hplace
    have hpos := List.length_pos_iff.mpr hne
    have hlt := dataToRead.isLt
    -- the counter does not wrap around
    have hread : (dataRead + BitVec.ofNat 64 bytes.length).toNat = dataRead.toNat + bytes.length := by
      rw [BitVec.toNat_add, BitVec.toNat_ofNat]
      omega
    have htake : (writeAt buffer dataRead.toNat bytes).take (dataRead.toNat + bytes.length) ++ rem' =
        message := by
      rw [writeAt_take (by omega), List.append_assoc, hgot]
    by_cases hend : dataRead + BitVec.ofNat 64 bytes.length = dataToRead
    · rw [hend, bne_self_eq_false]
      have hall : dataRead.toNat + bytes.length = message.length := by rw [← hread, hend, hsize]
      obtain rfl : rem' = [] := List.length_eq_zero_iff.mp (by omega)
      rwa [hall, List.append_nil] at htake
    · rw [bne_iff_ne.mpr hend]
      refine ⟨⟨rfl, ?_, ?_, ?_, ?_⟩, by simp [hpos]⟩
      · rw [hread]
        omega
      · rwa [hread]
      · rwa [writeAt_length (by omega)]
      · rintro rfl
        refine hend (BitVec.toNat_inj.mp ?_)
        rw [hread, hsize, ← hplace]
        rfl
  · rintro e _ _ ⟨_, -, -, bytes, -, -, h⟩
    simp at h

theorem receiveMessage_returns (h : CanReceive fd strSock) (hmessage : message ≠ [])
    (hsize : dataToRead.toNat = message.length) {buffer : List Byte}
    (hbuffer : message.length ≤ buffer.length) (hfuel : message.length < fuel) :
    Returns (Asks (Transit.Within (polls fd)) (polls fd).Incoming) (receiveMessage dataToRead fuel)
      ⟨strSock, buffer, 0⟩ message fun r this _ =>
        r = .ok () ∧ this.buffer.take message.length = message := by
  refine returns_doWhile (I := ReceiveInv message strSock) (fun _ rem => rem.length)
    (fun this rem hi => returns_mono (receiveRest_returns h hsize hi) ?_)
    ⟨rfl, ?_, rfl, hbuffer, hmessage⟩ hfuel
  · rintro (_ | _ | _) this' rem' hr
    · exact hr.elim
    · exact ⟨rfl, hr⟩
    · exact hr
  · exact Nat.zero_add _

theorem receiveMessage_loud {this : Server} : TellsAgain (receiveMessage dataToRead fuel) this := by
  refine loud_doWhile (fun this => ?_) _ _
  unfold receiveRest receiveBuff
  refine loud_self_bind (loud_bind (loud_zoom receive_loud) fun got this => ?_)
  exact loud_update_bind (loud_self_bind loud_pure)

end

/-! ## Both ends -/

abbrev Connection :=
  Transit Call Reply Byte (Except SnlException Unit × StreamSocketFsm)
    (Except SnlException Unit × Server)

def connection (message : List Byte) (strSock peer : StreamSocketFsm) (buffer : List Byte)
    (dataToRead : SizeT) (fuel : Nat) : Connection :=
  ⟨sendBuff message fuel strSock, [], [], [], receiveMessage dataToRead fuel ⟨peer, buffer, 0⟩⟩

abbrev ConnectionStep (fd fd' : Fd) : Connection → Transit.Event → Connection → Prop :=
  Transit.Step (wire fd) (polls fd') Busy

/-- The loop has not thrown, it asks for no more than there is space for, and when nothing can
happen any more it has ended with the message in the buffer. -/
structure Reassembles (fd fd' : Fd) (message : List Byte) (N : Connection) : Prop where
  quiet : ∀ e this, N.receiver ≠ .done (.error e, this)
  within : ∀ c k, N.receiver = .call c k → ∃ fd size flags, c = .recv fd size flags ∧
    N.taken.length + size ≤ message.length
  ended : Transit.Final (wire fd) (polls fd') Busy N →
    ∃ this, N.receiver = .done (.ok (), this) ∧ this.buffer.take message.length = message

abbrev ConnectionInv (fd fd' : Fd) (message : List Byte) : Connection → Prop :=
  Transit.Inv (wire fd) (polls fd') Call.Transfers Reply.Again (Throws (· = wouldBlock)) message
    fun x _ => x.1 = .ok () ∧ x.2.buffer.take message.length = message

section

variable {fd fd' : Fd} {message : List Byte} {N : Connection}

theorem ConnectionInv.reassembles (h : ConnectionInv fd fd' message N) :
    Reassembles fd fd' message N := by
  refine ⟨fun e this hdone => ?_, fun c k hcall => ?_, fun hfinal => ?_⟩
  · obtain ⟨_, hr, -⟩ := h.of_done hdone
    simp at hr
  · obtain ⟨size, hreads, hle⟩ := h.within hcall
    obtain ⟨fd, flags, rfl⟩ := polls_reads hreads
    exact ⟨fd, size, flags, rfl, hle⟩
  · have hlive : ∀ c size, (polls fd').reads c = some size → ∃ r, Busy c r := by
      intro c size hreads
      obtain ⟨fd, flags, rfl⟩ := polls_reads hreads
      exact ⟨⟨-1, EAGAIN, .zero, []⟩, trivial, rfl, rfl⟩
    obtain ⟨-, ⟨r, this⟩, hdone, hr, hbuffer⟩ := h.of_final hlive hfinal
    dsimp only at hr
    exact ⟨this, by rw [hdone, hr], hbuffer⟩

/-- Every run ends, and the loop puts the message together in it exactly when no poll is made
while nothing has arrived. -/
theorem reassembles_iff {strSock peer : StreamSocketFsm} {buffer : List Byte} {dataToRead : SizeT}
    {fuel : Nat} (hsend : CanSend fd strSock) (hrecv : CanReceive fd' peer) (hmessage : message ≠ [])
    (hsize : dataToRead.toNat = message.length) (hbuffer : message.length ≤ buffer.length)
    (hfuel : message.length < fuel) :
    Acc (fun N' N => ∃ e, ConnectionStep fd fd' N e N')
      (connection message strSock peer buffer dataToRead fuel) ∧
    ∀ t N, StepPath (ConnectionStep fd fd')
        (connection message strSock peer buffer dataToRead fuel) t N →
      ((∀ t1, t1 <+: t → Reassembles fd fd' message
          (endState (connection message strSock peer buffer dataToRead fuel) t1)) ↔
        ∀ x ∈ t, x.label ≠ .notYet) := by
  refine ⟨Transit.acc_step _, fun t N hpath => ?_⟩
  have hstart : ConnectionInv fd fd' message
      (connection message strSock peer buffer dataToRead fuel) := by
    refine ⟨receiveMessage_loud, message, rfl, ?_, ?_⟩
    · exact (sendBuff_returns hsend hfuel).mono fun x w h => h.2.2
    · exact (receiveMessage_returns hrecv hmessage hsize hbuffer hfuel).mono fun _ _ h => h
  refine hpath.always_iff (I := fun _ N => ConnectionInv fd fd' message N)
    (P := fun _ N => Reassembles fd fd' message N) (C := fun x => x.label ≠ .notYet)
    hstart hstart.reassembles fun t N e N' hi hs => ?_
  by_cases he : e = .notYet
  · subst he
    obtain ⟨⟨r, this⟩, hdone, e, he, -⟩ := Transit.tells_of_notYet (fun _ _ hb => hb.2) hi hs
    dsimp only at he
    subst he
    exact ⟨iff_of_false (fun hre => hre.quiet e this hdone) (by simp), fun h => absurd rfl h⟩
  · have hgot : ∀ r bytes, (polls fd').got r bytes → ¬ r.Again := by
      rintro r bytes ⟨hst, -⟩ ⟨hfail, -⟩
      omega
    have hnext : ConnectionInv fd fd' message N' := Transit.inv_step hgot hi hs he
    exact ⟨iff_of_true hnext.reassembles he, fun _ => hnext⟩

end

def helloConnection : Connection :=
  connection [104, 105] connectedSock connectedSock [0, 0, 0] 2 3

theorem reassembles_hello : ∃ t N, StepPath (ConnectionStep 3 3) helloConnection t N ∧
    t.map Move.label = [.write, .arrive, .read, .arrive, .read] ∧
    ∀ t1, t1 <+: t → Reassembles 3 3 [104, 105] (endState helloConnection t1) := by
  have hwrites : (wire 3).writes (.send 3 [104, 105] sendFlags) = some [104, 105] := rfl
  have htaken : (wire 3).taken ⟨2, 0, .zero, []⟩ 2 := rfl
  have harrive : ∀ {p fl ar tk q} {b : Byte},
      ConnectionStep 3 3 ⟨p, b :: fl, ar, tk, q⟩ .arrive ⟨p, fl, ar ++ [b], tk, q⟩ :=
    fun {_ _ _ _ _ b} => .arrive (List.cons_ne_nil b [])
  have hread : ∀ {p fl ar tk k size} {b : Byte}, 1 ≤ size →
      ConnectionStep 3 3 ⟨p, fl, b :: ar, tk, .call (.recv 3 size messageDontWaitFlag) k⟩ .read
        ⟨p, fl, ar, tk ++ [b], k ⟨1, 0, .zero, [b]⟩⟩ :=
    fun {_ _ _ _ _ _ b} h => .read rfl (List.cons_ne_nil b []) h ⟨rfl, rfl⟩
  have hpath : ∃ t N, StepPath (ConnectionStep 3 3) helloConnection t N ∧
      t.map Move.label = [.write, .arrive, .read, .arrive, .read] :=
    ⟨_, _, .snoc (.snoc (.snoc (.snoc (.snoc .nil
      (.write hwrites ⟨by decide, by decide⟩ htaken)) harrive) (hread (by decide))) harrive)
      (hread (by decide)), rfl⟩
  obtain ⟨t, N, h, hlabels⟩ := hpath
  refine ⟨t, N, h, hlabels, ((reassembles_iff connectedSock_canSend connectedSock_canReceive
    (by decide) rfl (by decide) (by decide)).2 t N h).mpr fun x hx => ?_⟩
  have hmem : x.label ∈ t.map Move.label := List.mem_map_of_mem hx
  rw [hlabels] at hmem
  rintro heq
  rw [heq] at hmem
  simp at hmem

theorem earlyPoll_throws : ∃ t N, StepPath (ConnectionStep 3 3) helloConnection t N ∧
    t.map Move.label = [.notYet] ∧ ¬ Reassembles 3 3 [104, 105] N := by
  have hreads : (polls 3).reads (.recv 3 2 messageDontWaitFlag) = some 2 := rfl
  have hbusy : Busy (.recv 3 2 messageDontWaitFlag) ⟨-1, EAGAIN, .zero, []⟩ := ⟨trivial, rfl, rfl⟩
  have hstep : ∃ N, ConnectionStep 3 3 helloConnection .notYet N ∧
      ∃ this, N.receiver = .done (.error wouldBlock, this) :=
    ⟨_, .notYet hreads hbusy, _, rfl⟩
  obtain ⟨N, hs, this, hdone⟩ := hstep
  exact ⟨_, N, .snoc .nil hs, rfl, fun h => h.quiet _ _ hdone⟩

end Snl
