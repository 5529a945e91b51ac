import SocketInterface.Library.Alike
import SocketInterface.LineRuns

/-!
# The loops of `sendBuff` and `sendline`

On lists of bytes, and on memory with the unsigned sizes of the source.
-/

namespace Snl

open Method
open Prog (Asks Alike)

/-- The answers of `send`: it fails, or accepts a part of the request that is not empty unless the
request is. The world is what was accepted so far. -/
inductive Accepts : List Byte → Call → Reply → List Byte → Prop
  | accepted {w fd buffer flags} {n : Nat} {r : Reply} (hn : Wire.Takes buffer n)
      (hr : r.status = n) : Accepts w (.send fd buffer flags) r (w ++ buffer.take n)
  | failed {w fd buffer flags} {r : Reply} (hr : r.status = -1) :
      Accepts w (.send fd buffer flags) r w

/-! ## On lists -/

section Lists

variable {strSock : StreamSocketFsm} {message buffer w : List Byte} {flags : Int}
  {P : List Byte → Call → Prop} {fuel : Nat}

def Sent (buffer w : List Byte) : Except SnlException Nat → List Byte → Prop
  | .ok n, w' => Wire.Takes buffer n ∧ w' = w ++ buffer.take n
  | .error _, w' => w' = w

theorem send_accepts (hP : P w (.send strSock.strSoFd.fd buffer flags)) :
    Returns (Asks P Accepts) (StreamSocketFsm.send buffer flags) strSock w fun r strSock' w' =>
      strSock' = strSock ∧ Sent buffer w r w' := by
  unfold StreamSocketFsm.send StreamSocketFsm.sendCheck executeSyscall
  refine returns_self_bind ?_
  by_cases hcheck : strSock.fsmState ≠ .CONNECTED ∧ strSock.fsmState ≠ .DCLOSED
  · rw [if_pos hcheck]
    exact .done ⟨rfl, rfl⟩
  refine returns_check_bind hcheck (returns_bind (Q := fun r strSock' w' => strSock' = strSock ∧
    Sent buffer w (r.map fun reply => reply.status.toNat) w')
    (returns_issue_bind ⟨⟨-1, 0, .zero, []⟩, w, hP, .failed rfl⟩ fun r w' hr => ?_) ?_ ?_)
  · obtain ⟨-, hr⟩ := hr
    cases hr with
    | @accepted _ _ _ _ n hn hst =>
      rw [if_neg (by omega)]
      refine returns_pure ⟨rfl, ?_⟩
      rw [Except.map, hst, Int.toNat_natCast]
      exact ⟨hn, rfl⟩
    | failed hst =>
      rw [if_pos hst]
      exact returns_raise ⟨rfl, rfl⟩
  · exact fun reply _ w' h => returns_pure h
  · exact fun e _ w' h => h

def AsksForRest (fd : Fd) (message w : List Byte) (c : Call) : Prop :=
  ∃ k, k ≤ message.length ∧ w = message.take k ∧ c = .send fd (message.drop k) sendFlags

structure RestInv (message : List Byte) (strSock : StreamSocketFsm) (l : Nat × StreamSocketFsm)
    (w : List Byte) : Prop where
  sock : l.2 = strSock
  accepted : w = message.take l.1
  within : l.1 ≤ message.length
  left : message ≠ [] → l.1 < message.length

theorem sendRest_accepts {l : Nat × StreamSocketFsm} (hi : RestInv message strSock l w) :
    Returns (Asks (AsksForRest strSock.strSoFd.fd message) Accepts) (sendRest message) l w
      fun r l' w' => match r with
        | .ok true => RestInv message strSock l' w' ∧ message.length - l'.1 < message.length - l.1
        | .ok false => l'.2 = strSock ∧ w' = message
        | .error _ => RestInv message strSock l' w' := by
  obtain ⟨charsSent, this⟩ := l
  obtain ⟨rfl, rfl, hwithin, hleft⟩ := hi
  refine returns_mono (sendRest_spec (Q := Sent (message.drop charsSent) (message.take charsSent))
    hwithin hleft (returns_mono (send_accepts ⟨charsSent, hwithin, rfl, rfl⟩) ?_)) ?_
  · rintro r _ w' ⟨rfl, hr⟩
    refine ⟨rfl, fun n hn => ?_, hr⟩
    subst hn
    exact hr.1
  · rintro (e | _ | _) ⟨sent, _⟩ w' ⟨rfl, hr⟩
    · obtain ⟨rfl, rfl⟩ := hr
      exact ⟨rfl, rfl, hwithin, hleft⟩
    · obtain ⟨-, rfl⟩ := hr
      rw [take_add_take hwithin, List.take_length]
      exact ⟨rfl, rfl⟩
    · obtain ⟨hlt, hend, -, rfl⟩ := hr
      replace hlt : charsSent < sent := hlt
      rw [take_add_take hlt.le]
      refine ⟨⟨rfl, rfl, hend.le, fun _ => hend⟩, ?_⟩
      show message.length - sent < message.length - charsSent
      omega

def AcceptedWhen (message : List Byte) : Except SnlException Unit → List Byte → Prop
  | .ok _, w => w = message
  | .error _, w => w <+: message ∧ (message ≠ [] → w ≠ message)

theorem sendBuff_accepts (hfuel : message.length < fuel) :
    Returns (Asks (AsksForRest strSock.strSoFd.fd message) Accepts) (sendBuff message fuel) strSock
      [] fun r strSock' w => strSock' = strSock ∧ AcceptedWhen message r w := by
  refine returns_withVar (returns_doWhile (I := RestInv message strSock)
    (fun l _ => message.length - l.1) (fun l w hi => returns_mono (sendRest_accepts hi) ?_)
    ⟨rfl, rfl, Nat.zero_le _, List.length_pos_iff.mpr⟩ ?_)
  · rintro (_ | _ | _) l' w' hr
    · obtain ⟨hsock, rfl, hwithin, hleft⟩ := hr
      refine ⟨hsock, List.take_prefix .., fun hne h => ?_⟩
      have hlen := congrArg List.length h
      rw [List.length_take] at hlen
      have := hleft hne
      omega
    · exact hr
    · exact hr
  · show message.length - 0 < fuel
    omega

end Lists

/-! ## On memory -/

abbrev SizeT := BitVec 64

abbrev Addr := BitVec 64

abbrev Memory := Addr → Byte

/-- The `size` bytes at `head`. Pointers and sizes wrap around. -/
def bytesAt (mem : Memory) (head : Addr) (size : SizeT) : List Byte :=
  (List.range size.toNat).map fun i => mem (head + BitVec.ofNat 64 i)

structure StdString where
  data : Addr
  size : SizeT

namespace Raw

def send (mem : Memory) (buffer : Addr) (bufferSize : SizeT) : M StreamSocketFsm SizeT := do
  let bytesSent ← StreamSocketFsm.send (bytesAt mem buffer bufferSize) sendFlags
  pure (BitVec.ofNat 64 bytesSent)

/-- The body of both loops: the pointer moves up and the size goes down by what is sent. -/
def sendRest (mem : Memory) (head : Addr) (size : SizeT) : M (SizeT × StreamSocketFsm) Bool := do
  let l ← self
  let sent ← zoom Prod.snd (fun this l => (l.1, this)) (send mem (head + l.1) (size - l.1))
  update fun l => (l.1 + sent, l.2)
  let l ← self
  pure (l.1 != size)

def sendBuff (mem : Memory) (buffer : Addr) (bufferSize : SizeT) (fuel : Nat) :
    M StreamSocketFsm Unit :=
  withVar 0 (doWhile (sendRest mem buffer bufferSize) fuel)

/-- `strBldr` puts the characters it is given into memory, as a string. -/
def sendline (strBldr : List Byte → Memory × StdString) (line eol : List Byte) (fuel : Nat) :
    M StreamSocketFsm Unit :=
  let (mem, message) := strBldr (line ++ eol)
  withVar 0 (doWhile (sendRest mem message.data message.size) fuel)

end Raw

section Memory

variable {strSock : StreamSocketFsm} {mem : Memory} {head : Addr} {size sent : SizeT}
  {message w : List Byte} {fuel : Nat}

@[simp] theorem bytesAt_length : (bytesAt mem head size).length = size.toNat := by
  simp [bytesAt]

theorem bytesAt_rest (h : sent ≤ size) :
    bytesAt mem (head + sent) (size - sent) = (bytesAt mem head size).drop sent.toNat := by
  refine List.ext_getElem ?_ fun i h1 h2 => ?_
  · rw [List.length_drop, bytesAt_length, bytesAt_length, BitVec.toNat_sub_of_le h]
  · simp [bytesAt, BitVec.ofNat_add, BitVec.add_assoc]

structure SamePlace (size : SizeT) (l : SizeT × StreamSocketFsm) (l' : Nat × StreamSocketFsm) :
    Prop where
  sock : l.2 = l'.2
  place : l.1.toNat = l'.1
  within : l.1 ≤ size

theorem sendRest_eq (charsSent : Nat) : sendRest message (charsSent, strSock) =
    (StreamSocketFsm.send (message.drop charsSent) sendFlags strSock).bind fun x => .done
      (x.1.map fun n => charsSent + n != message.length,
        (charsSent + x.1.toOption.getD 0, x.2)) := by
  unfold sendRest zoom Prog.map
  show ((StreamSocketFsm.send _ _ _).bind _).bind _ = _
  rw [Prog.bind_assoc]
  congr 1
  funext ⟨r, this⟩
  cases r <;> rfl

theorem Raw.sendRest_eq : Raw.sendRest mem head size (sent, strSock) =
    (StreamSocketFsm.send (bytesAt mem (head + sent) (size - sent)) sendFlags strSock).bind
      fun x => .done (x.1.map fun n => sent + BitVec.ofNat 64 n != size,
        (sent + BitVec.ofNat 64 (x.1.toOption.getD 0), x.2)) := by
  unfold Raw.sendRest zoom Prog.map Raw.send
  show (((StreamSocketFsm.send _ _ _).bind _).bind _).bind _ = _
  rw [Prog.bind_assoc, Prog.bind_assoc]
  congr 1
  funext ⟨r, this⟩
  cases r with
  | ok => rfl
  | error => simp [Except.map, Except.toOption]

theorem sendRest_alike {l : SizeT × StreamSocketFsm} {l' : Nat × StreamSocketFsm}
    (h : SamePlace size l l') :
    Alike Accepts (fun x y _ => x.1 = y.1 ∧ SamePlace size x.2 y.2) (Raw.sendRest mem head size l)
      (sendRest (bytesAt mem head size) l') w := by
  obtain ⟨sent, this⟩ := l
  obtain ⟨charsSent, _⟩ := l'
  obtain ⟨rfl, rfl, hle⟩ := h
  replace hle : sent ≤ size := hle
  dsimp only
  rw [sendRest_eq, Raw.sendRest_eq, bytesAt_rest hle]
  have hsend := (@send_accepts this ((bytesAt mem head size).drop sent.toNat) w sendFlags
    (fun _ _ => True) trivial).of_asks
  refine (Alike.of_returns hsend).bind ?_
  rintro ⟨r, s1⟩ _ w' ⟨rfl, -, hr⟩
  refine .done ?_
  cases r with
  | error e => exact ⟨rfl, rfl, by simp [Except.toOption], by simpa [Except.toOption] using hle⟩
  | ok n =>
    obtain ⟨⟨hn, -⟩, -⟩ := hr
    rw [List.length_drop, bytesAt_length] at hn
    have hle' : sent.toNat ≤ size.toNat := BitVec.le_def.mp hle
    have hsize := size.isLt
    -- the counter does not wrap around
    have hplace : (sent + BitVec.ofNat 64 n).toNat = sent.toNat + n := by
      rw [BitVec.toNat_add, BitVec.toNat_ofNat]
      omega
    refine ⟨?_, rfl, hplace, ?_⟩
    · have hiff : sent + BitVec.ofNat 64 n = size ↔ sent.toNat + n = size.toNat := by
        rw [← hplace, BitVec.toNat_inj]
      simp only [Except.map, bytesAt_length, bne, Except.ok.injEq]
      by_cases hend : sent.toNat + n = size.toNat
      · rw [hiff.mpr hend, hend, beq_self_eq_true, beq_self_eq_true]
      · rw [beq_false_of_ne hend, beq_false_of_ne (mt hiff.mp hend)]
    · show sent + BitVec.ofNat 64 n ≤ size
      rw [BitVec.le_def, hplace]
      omega

theorem sendLoop_alike {l : SizeT × StreamSocketFsm} {l' : Nat × StreamSocketFsm}
    (h : SamePlace size l l') :
    Alike Accepts (fun x y _ => x.1 = y.1 ∧ x.2.2 = y.2.2)
      (doWhile (Raw.sendRest mem head size) fuel l)
      (doWhile (sendRest (bytesAt mem head size)) fuel l') w := by
  induction fuel generalizing l l' w with
  | zero => exact .halt _
  | succ fuel ih =>
    refine (sendRest_alike h).bind ?_
    rintro ⟨r, l1⟩ ⟨_, l1'⟩ w' ⟨rfl, hplace⟩
    rcases r with e | again
    · exact .done ⟨rfl, hplace.sock⟩
    · cases again
      · exact .done ⟨rfl, hplace.sock⟩
      · exact ih hplace

/-- The loops on memory do what the loop on lists does. -/
theorem sendBuff_alike : Alike Accepts (fun x y _ => x = y) (Raw.sendBuff mem head size fuel strSock)
    (sendBuff (bytesAt mem head size) fuel strSock) w := by
  have hstart : SamePlace size (0, strSock) (0, strSock) := ⟨rfl, rfl, BitVec.le_def.mpr (Nat.zero_le _)⟩
  refine (sendLoop_alike hstart).bind fun x y w' h => .done ?_
  exact Prod.ext h.1 h.2

end Memory

/-! ## Exactly once -/

/-- `op` ends. What is accepted is the message when it returns, and a part of it, from the start
on, when it throws; every request is for all that is left. -/
structure SendsOnce (message : List Byte) (strSock : StreamSocketFsm)
    (op : M StreamSocketFsm Unit) : Prop where
  ends : Returns Accepts op strSock [] fun _ _ _ => True
  accepted : ∀ evs r strSock' w, Runs Accepts op strSock [] evs r strSock' w →
    AcceptedWhen message r w
  requests : ∀ evs r strSock' w, Runs Accepts op strSock [] evs r strSock' w →
    ∀ e ∈ evs, AsksForRest strSock.strSoFd.fd message e.before e.call

def BuildsStrings (strBldr : List Byte → Memory × StdString) : Prop :=
  ∀ str, str.length < 2 ^ 64 →
    bytesAt (strBldr str).1 (strBldr str).2.data (strBldr str).2.size = str

section

variable {strSock : StreamSocketFsm} {mem : Memory} {fuel : Nat}

theorem Raw.sendBuff_once {buffer : Addr} {bufferSize : SizeT} (hfuel : bufferSize.toNat < fuel) :
    SendsOnce (bytesAt mem buffer bufferSize) strSock (Raw.sendBuff mem buffer bufferSize fuel) := by
  have hlist := @sendBuff_accepts strSock (bytesAt mem buffer bufferSize) fuel
    (by rwa [bytesAt_length])
  have halike := @sendBuff_alike strSock mem buffer bufferSize [] fuel
  constructor
  · exact Prog.Returns.mono (halike.symm.returns hlist.of_asks) fun _ _ _ => trivial
  · intro evs r strSock' w hx
    obtain ⟨_, hx', rfl⟩ := halike.exec hx
    exact (hlist.asks hx').1.2
  · intro evs r strSock' w hx
    obtain ⟨_, hx', rfl⟩ := halike.exec hx
    exact (hlist.asks hx').2

theorem Raw.sendline_eq {strBldr : List Byte → Memory × StdString} {line eol : List Byte} :
    Raw.sendline strBldr line eol fuel = Raw.sendBuff (strBldr (line ++ eol)).1
      (strBldr (line ++ eol)).2.data (strBldr (line ++ eol)).2.size fuel := rfl

/-- Where the message is in memory makes no difference. -/
theorem Raw.sendBuff_runs {mem' : Memory} {head head' : Addr} {size size' : SizeT}
    (h : bytesAt mem head size = bytesAt mem' head' size') {evs : List (Prog.Event _ Call Reply)}
    {r : Except SnlException Unit} {strSock' : StreamSocketFsm} {w : List Byte}
    (hx : Runs Accepts (Raw.sendBuff mem head size fuel) strSock [] evs r strSock' w) :
    Runs Accepts (Raw.sendBuff mem' head' size' fuel) strSock [] evs r strSock' w := by
  obtain ⟨_, hlist, rfl⟩ := sendBuff_alike.exec hx
  rw [h] at hlist
  obtain ⟨_, hx', rfl⟩ := sendBuff_alike.symm.exec hlist
  exact hx'

/-- Both loops send a message once, and `sendline` makes the requests of `sendBuff` on the line and
the delimiter, wherever these are in memory. -/
theorem sends_once {strSock : StreamSocketFsm} {fuel : Nat} {mem : Memory} {buffer : Addr}
    {bufferSize : SizeT} : (bufferSize.toNat < fuel →
      SendsOnce (bytesAt mem buffer bufferSize) strSock (Raw.sendBuff mem buffer bufferSize fuel)) ∧
    ∀ {strBldr : List Byte → Memory × StdString} {line eol : List Byte}, BuildsStrings strBldr →
      (line ++ eol).length < 2 ^ 64 → (line ++ eol).length < fuel →
      SendsOnce (line ++ eol) strSock (Raw.sendline strBldr line eol fuel) ∧
      (bytesAt mem buffer bufferSize = line ++ eol → ∀ evs r strSock' w,
        Runs Accepts (Raw.sendline strBldr line eol fuel) strSock [] evs r strSock' w ↔
          Runs Accepts (Raw.sendBuff mem buffer bufferSize fuel) strSock [] evs r strSock' w) := by
  refine ⟨Raw.sendBuff_once, fun {strBldr line eol} hbuild hsize hfuel => ?_⟩
  have hmessage := hbuild (line ++ eol) hsize
  rw [Raw.sendline_eq]
  constructor
  · rw [← hmessage, bytesAt_length] at hfuel
    have honce := @Raw.sendBuff_once strSock (strBldr (line ++ eol)).1 fuel
      (strBldr (line ++ eol)).2.data _ hfuel
    rwa [hmessage] at honce
  · intro hbuffer evs r strSock' w
    have hsame := hmessage.trans hbuffer.symm
    exact ⟨Raw.sendBuff_runs hsame, Raw.sendBuff_runs hsame.symm⟩

end

def placed (str : List Byte) : Memory × StdString :=
  (fun a => str.getD a.toNat 0, ⟨0, BitVec.ofNat 64 str.length⟩)

theorem placed_buildsStrings : BuildsStrings placed := by
  intro str hsize
  have hlen : (BitVec.ofNat 64 str.length).toNat = str.length := by
    rw [BitVec.toNat_ofNat, Nat.mod_eq_of_lt hsize]
  refine List.ext_getElem ?_ fun i h1 h2 => ?_
  · rw [bytesAt_length]
    exact hlen
  · have hi : (0 + BitVec.ofNat 64 i).toNat = i := by
      simpa using h2.trans hsize
    simp only [bytesAt, placed, List.getElem_map, List.getElem_range]
    rw [hi, List.getD_eq_getElem?_getD, List.getElem?_eq_getElem h2, Option.getD_some]

theorem sends_once_hello :
    SendsOnce ([104, 105] ++ defaultEol) connectedSock
      (Raw.sendline placed [104, 105] defaultEol 5) :=
  ((@sends_once connectedSock 5 (placed []).1 0 0).2 placed_buildsStrings (by decide)
    (by decide)).1

/-- The request for an empty buffer may fail like any other. -/
theorem empty_not_proper : ¬ ∀ evs e strSock' w,
    Runs Accepts (Raw.sendBuff (placed []).1 0 0 1) connectedSock [] evs (.error e) strSock' w →
      w <+: bytesAt (placed []).1 0 0 ∧ w ≠ bytesAt (placed []).1 0 0 := by
  intro h
  have hrun : Runs Accepts (Raw.sendBuff (placed []).1 0 0 1) connectedSock [] _
      (.error (.errno "System call error: " 104)) connectedSock [] :=
    .call (.failed (r := ⟨-1, 104, .zero, []⟩) rfl) (.done _ _)
  exact (h _ _ _ _ hrun).2 rfl

end Snl
