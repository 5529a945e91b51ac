import SocketInterface.Library.Runs
import SocketInterface.StreamSocket

/-! # Streams of lines -/

namespace Snl

open Method

/-! ## Calls of `readline` -/

abbrev ReadConfig := Reader × List Byte

abbrev ReadMove := Move ReadConfig (Except SnlException Nat)

def ReadStep (fd : Fd) (eol : List Byte) (fuel : Nat) (c : ReadConfig)
    (r : Except SnlException Nat) (c' : ReadConfig) : Prop :=
  ∃ evs, Runs (wire fd).Incoming (readline eol fuel) c.1 c.2 evs r c'.1 c'.2

def AllReturned (t : List ReadMove) : Prop := ∀ x ∈ t, ∃ n, x.label = .ok n

def linesOf (t : List ReadMove) : List (List Byte) := t.map (·.after.1.lineBuff)

/-- What the calls `t` did to the stream `s`, and what the next one can do. -/
structure Splits (fd : Fd) (eol : List Byte) (fuel : Nat) (s : List Byte) (t : List ReadMove)
    (c : ReadConfig) : Prop where
  joined : s = joined eol (linesOf t) ++ c.2
  cuts : ∀ x ∈ t, Cut eol x.before.2 x.after.1.lineBuff x.after.2
  sizes : ∀ x ∈ t, x.label = .ok x.after.1.lineBuff.length
  consumed : ∀ x ∈ t,
    x.before.2.length = x.after.1.lineBuff.length + eol.length + x.after.2.length
  calls : t.length ≤ s.length
  ends : Returns (wire fd).Incoming (readline eol fuel) c.1 c.2 fun _ _ _ => True
  thrown : ∀ e c', ReadStep fd eol fuel c (.error e) c' →
    e = eofReached ∧ c'.1.lineBuff = c.2 ∧ ¬ eol <:+: c'.1.lineBuff ∧ c'.2 = []

section

variable {fd : Fd} {eol s : List Byte} {fuel : Nat} {strSock : StreamSocketFsm}
  {c c' : ReadConfig} {t : List ReadMove}

theorem readStep_ok (heol : eol ≠ []) (h : CanReceive fd c.1.strSock) (hfuel : c.2.length < fuel)
    {n : Nat} (hs : ReadStep fd eol fuel c (.ok n) c') :
    c'.1.strSock = c.1.strSock ∧ n = c'.1.lineBuff.length ∧ Cut eol c.2 c'.1.lineBuff c'.2 := by
  obtain ⟨evs, hx⟩ := hs
  exact (readline_returns heol h hfuel c.1.lineBuff).exec hx

theorem readStep_error (heol : eol ≠ []) (h : CanReceive fd c.1.strSock)
    (hfuel : c.2.length < fuel) {e : SnlException} (hs : ReadStep fd eol fuel c (.error e) c') :
    e = eofReached ∧ c'.1.lineBuff = c.2 ∧ ¬ eol <:+: c.2 ∧ c'.2 = [] := by
  obtain ⟨evs, hx⟩ := hs
  exact ((readline_returns heol h hfuel c.1.lineBuff).exec hx).2

structure ReadsInv (strSock : StreamSocketFsm) (eol s : List Byte) (t : List ReadMove)
    (c : ReadConfig) : Prop where
  sock : c.1.strSock = strSock
  joined : s = joined eol (linesOf t) ++ c.2
  cuts : ∀ x ∈ t, Cut eol x.before.2 x.after.1.lineBuff x.after.2
  sizes : ∀ x ∈ t, x.label = .ok x.after.1.lineBuff.length
  calls : t.length + c.2.length ≤ s.length

theorem readsInv_snoc (heol : eol ≠ []) (h : CanReceive fd strSock) (hfuel : s.length < fuel)
    (hi : ReadsInv strSock eol s t c) {n : Nat} (hs : ReadStep fd eol fuel c (.ok n) c') :
    ReadsInv strSock eol s (t ++ [⟨c, .ok n, c'⟩]) c' := by
  obtain ⟨hsock, hjoined, hcuts, hsizes, hcalls⟩ := hi
  obtain ⟨hsock', rfl, hcut⟩ := readStep_ok heol (hsock ▸ h) (by omega) hs
  constructor
  · rw [hsock', hsock]
  · have hlast : linesOf (t ++ [⟨c, .ok c'.1.lineBuff.length, c'⟩]) =
        linesOf t ++ [c'.1.lineBuff] := by simp [linesOf]
    rw [hlast, joined_append, joined_cons, joined_nil, List.append_nil, List.append_assoc,
      ← hcut.eq]
    exact hjoined
  · intro x hx
    rcases List.mem_append.mp hx with hx | hx
    · exact hcuts x hx
    · obtain rfl := List.mem_singleton.mp hx
      exact hcut
  · intro x hx
    rcases List.mem_append.mp hx with hx | hx
    · exact hsizes x hx
    · obtain rfl := List.mem_singleton.mp hx
      rfl
  · have hlt := hcut.lt_length heol
    rw [List.length_append, List.length_singleton]
    omega

theorem readsInv_of_path (heol : eol ≠ []) (h : CanReceive fd strSock) (hfuel : s.length < fuel)
    {lineBuff : List Byte} (hp : StepPath (ReadStep fd eol fuel) (⟨strSock, lineBuff⟩, s) t c)
    (hok : AllReturned t) : ReadsInv strSock eol s t c := by
  induction hp with
  | nil => exact ⟨rfl, rfl, by simp, by simp, by simp⟩
  | @snoc t c c' r _ hs ih =>
    obtain ⟨n, rfl⟩ : ∃ n, r = .ok n := hok ⟨c, r, c'⟩ (by simp)
    exact readsInv_snoc heol h hfuel (ih fun x hx => hok x (by simp [hx])) hs

theorem exists_thrown (heol : eol ≠ []) (h : CanReceive fd strSock) (hfuel : s.length < fuel)
    (lineBuff : List Byte) : ∃ t c c', StepPath (ReadStep fd eol fuel) (⟨strSock, lineBuff⟩, s) t c ∧
      AllReturned t ∧ ReadStep fd eol fuel c (.error eofReached) c' := by
  induction hn : s.length using Nat.strong_induction_on generalizing s lineBuff with
  | _ n ih =>
    obtain ⟨evs, ⟨r, this'⟩, s', hx⟩ :=
      (readline_returns heol h hfuel lineBuff).exists_exec
    have hs : ReadStep fd eol fuel (⟨strSock, lineBuff⟩, s) r (this', s') := ⟨evs, hx⟩
    cases r with
    | error e =>
      obtain ⟨rfl, -⟩ := readStep_error heol h hfuel hs
      exact ⟨[], _, _, .nil, by simp [AllReturned], hs⟩
    | ok k =>
      obtain ⟨rfl, rfl, hcut⟩ := readStep_ok heol h hfuel hs
      have hlt : s'.length < s.length := hcut.lt_length heol
      obtain ⟨t, c, c', hp, hok, hthrow⟩ :=
        ih s'.length (by omega) (by omega) this'.lineBuff rfl
      refine ⟨_, c, c', .cons hs hp, ?_, hthrow⟩
      exact List.forall_mem_cons.mpr ⟨⟨_, rfl⟩, hok⟩

/-- `readline` splits every stream at the delimiter: no byte is lost, doubled or out of order. -/
theorem readline_splits (heol : eol ≠ []) (h : CanReceive fd strSock) (hfuel : s.length < fuel)
    (lineBuff : List Byte) :
    (∀ t c, StepPath (ReadStep fd eol fuel) (⟨strSock, lineBuff⟩, s) t c → AllReturned t →
      Splits fd eol fuel s t c) ∧
    ∃ t c c', StepPath (ReadStep fd eol fuel) (⟨strSock, lineBuff⟩, s) t c ∧ AllReturned t ∧
      ReadStep fd eol fuel c (.error eofReached) c' := by
  refine ⟨fun t c hp hok => ?_, exists_thrown heol h hfuel lineBuff⟩
  obtain ⟨hsock, hjoined, hcuts, hsizes, hcalls⟩ := readsInv_of_path heol h hfuel hp hok
  have hrecv : CanReceive fd c.1.strSock := hsock ▸ h
  have hfuel' : c.2.length < fuel := by omega
  refine ⟨hjoined, hcuts, hsizes, fun x hx => (hcuts x hx).length, by omega, ?_, ?_⟩
  · exact returns_mono (readline_returns heol hrecv hfuel' c.1.lineBuff) fun _ _ _ _ => trivial
  · intro e c' hs
    obtain ⟨rfl, hbuff, hno, hrem⟩ := readStep_error heol hrecv hfuel' hs
    exact ⟨rfl, hbuff, hbuff ▸ hno, hrem⟩

end

def connectedSock : StreamSocketFsm := .accepted ⟨3⟩ .default

theorem connectedSock_canReceive : CanReceive 3 connectedSock := ⟨rfl, .inl rfl⟩

theorem connectedSock_canSend : CanSend 3 connectedSock := ⟨rfl, by decide, .inl rfl⟩

theorem readline_splits_cutShort : ∃ t c c',
    StepPath (ReadStep 3 defaultEol 6) (⟨connectedSock, []⟩, [97, 13, 10, 98, 13]) t c ∧
      AllReturned t ∧ ReadStep 3 defaultEol 6 c (.error eofReached) c' :=
  (readline_splits (by decide) connectedSock_canReceive (by decide) []).2

/-! ## Lines from one peer to the other -/

def sendLines (eol : List Byte) (fuel : Nat) : List (List Byte) → M StreamSocketFsm Unit
  | [] => StreamSocketFsm.closeUpstream
  | line :: lines => do sendline line eol fuel; sendLines eol fuel lines

def readLines (eol : List Byte) (fuel : Nat) :
    Nat → Reader → Prog Call Reply (List (List Byte) × SnlException × Reader)
  | 0, _ => .halt .outOfFuel
  | calls + 1, this => (readline eol fuel this).bind fun
    | (.ok _, this) => (readLines eol fuel calls this).map fun x => (this.lineBuff :: x.1, x.2)
    | (.error e, this) => .done ([], e, this)

section

variable {fd : Fd} {eol s w : List Byte} {fuel : Nat} {strSock : StreamSocketFsm}
  {lines : List (List Byte)}

theorem sendLines_returns (h : CanSend fd strSock)
    (hfuel : ∀ line ∈ lines, (line ++ eol).length < fuel) :
    Returns (wire fd).Outgoing (sendLines eol fuel lines) strSock (w, false) fun r _ w' =>
      r = .ok () ∧ w' = (w ++ joined eol lines, true) := by
  induction lines generalizing w with
  | nil =>
    rw [joined_nil, List.append_nil]
    exact closeUpstream_returns h
  | cons line lines ih =>
    rw [List.forall_mem_cons] at hfuel
    refine returns_bind (sendline_returns h hfuel.1) ?_ ?_
    · rintro _ _ _ ⟨-, rfl, rfl⟩
      rw [joined_cons, ← List.append_assoc w (line ++ eol)]
      exact ih hfuel.2
    · exact fun _ _ _ h => absurd h.1 (by simp)

theorem readLines_returns (heol : eol ≠ []) (h : CanReceive fd strSock) (hfuel : s.length < fuel)
    {calls : Nat} (hcalls : s.length < calls) (lineBuff : List Byte) :
    Prog.Returns (wire fd).Incoming (fun x _ => Lines eol s x.1 x.2.2.lineBuff ∧ x.2.1 = eofReached)
      (readLines eol fuel calls ⟨strSock, lineBuff⟩) s := by
  induction calls generalizing s lineBuff with
  | zero => omega
  | succ calls ih =>
    refine (readline_returns heol h hfuel lineBuff).bind ?_
    rintro ⟨e | n, this⟩ s' hr
    · obtain ⟨-, rfl, rfl, hno, -⟩ := hr
      exact .done ⟨.last hno, rfl⟩
    · obtain ⟨rfl, -, hcut⟩ := hr
      have hlt := hcut.lt_length heol
      refine (ih (by omega) (by omega) this.lineBuff).bind fun x _ hx => ?_
      exact .done ⟨.line hcut hx.1, hx.2⟩

def exchange (eol : List Byte) (fuel : Nat) (strSock peer : StreamSocketFsm)
    (lines : List (List Byte)) (lineBuff : List Byte) :
    Net Call Reply Byte (Except SnlException Unit × StreamSocketFsm)
      (List (List Byte) × SnlException × Reader) :=
  ⟨sendLines eol fuel lines strSock, false, [], readLines eol fuel fuel ⟨peer, lineBuff⟩⟩

/-- Whatever the two peers are, however the bytes are fragmented and the steps interleaved: the
run ends, the calls of `readline` return these lines, and the next one throws with an empty
`lineBuff`. -/
def Delivered (eol : List Byte) (lines : List (List Byte)) : Prop :=
  ∀ {fd fd' : Fd} {strSock peer : StreamSocketFsm} {fuel : Nat} {lineBuff : List Byte},
    CanSend fd strSock → CanReceive fd' peer → (joined eol lines).length < fuel →
    Acc (fun N' N => Net.Step (wire fd) (wire fd') N N')
      (exchange eol fuel strSock peer lines lineBuff) ∧
    ∀ N, Relation.ReflTransGen (Net.Step (wire fd) (wire fd'))
        (exchange eol fuel strSock peer lines lineBuff) N →
      Net.Final (wire fd) (wire fd') N →
      (∃ x, N.sender = .done x) ∧
        ∃ this, N.receiver = .done (lines, eofReached, this) ∧ this.lineBuff = []

theorem exchange_delivers (heol : eol ≠ []) {fd fd' : Fd} {strSock peer : StreamSocketFsm}
    {lineBuff : List Byte} (hsend : CanSend fd strSock) (hrecv : CanReceive fd' peer)
    (hfuel : (joined eol lines).length < fuel)
    {N : Net Call Reply Byte (Except SnlException Unit × StreamSocketFsm)
      (List (List Byte) × SnlException × Reader)}
    (hrun : Relation.ReflTransGen (Net.Step (wire fd) (wire fd'))
      (exchange eol fuel strSock peer lines lineBuff) N)
    (hfinal : Net.Final (wire fd) (wire fd') N) :
    (∃ x, N.sender = .done x) ∧ ∃ ls this, N.receiver = .done (ls, eofReached, this) ∧
      Lines eol (joined eol lines) ls this.lineBuff := by
  have hlines : ∀ line ∈ lines, (line ++ eol).length < fuel := fun _ hmem =>
    (length_le_joined hmem).trans_lt hfuel
  have hsends : Net.Sends (wire fd) (joined eol lines) (sendLines eol fuel lines strSock)
      ([], false) := (sendLines_returns hsend hlines).mono fun _ _ h => h.2
  obtain ⟨hx, ⟨ls, e, this⟩, hdone, hls, rfl⟩ := Net.delivers hsends
    (readLines_returns heol hrecv hfuel hfuel lineBuff) hrun hfinal
  exact ⟨hx, ls, this, hdone, hls⟩

/-- Exactly the delimiters that do not overlap with themselves give every list of lines back; the
default one does. -/
theorem unbordered_iff_delivered : Unbordered defaultEol ∧ ∀ {eol : List Byte}, eol ≠ [] →
    (Unbordered eol ↔ ∀ lines, (∀ line ∈ lines, ¬ eol <:+: line) → Delivered eol lines) := by
  refine ⟨by decide, fun {eol} heol => ⟨?_, ?_⟩⟩
  · intro hun lines hfree fd fd' strSock peer fuel lineBuff hsend hrecv hfuel
    refine ⟨Net.acc_step _ _ _, fun N hrun hfinal => ?_⟩
    obtain ⟨hx, ls, this, hdone, hls⟩ := exchange_delivers heol hsend hrecv hfuel hrun hfinal
    obtain ⟨rfl, hbuff⟩ := hls.unique (lines_joined hun heol hfree)
    exact ⟨hx, this, hdone, hbuff⟩
  · intro hall
    by_contra hb
    obtain ⟨line, hfree, hnot⟩ := not_lines_of_bordered hb
    have hsend := connectedSock_canSend
    have hrecv := connectedSock_canReceive
    have hfuel := Nat.lt_succ_self (joined eol [line]).length
    obtain ⟨-, hdel⟩ := @hall [line] (by simpa using hfree) _ _ _ _ _ [] hsend hrecv hfuel
    obtain ⟨N, hrun, hfinal⟩ := Net.exists_final (wire 3) (wire 3)
      (exchange eol _ connectedSock connectedSock [line] [])
    obtain ⟨-, this, hdone, -⟩ := hdel N hrun hfinal
    obtain ⟨-, ls, this', hdone', hls⟩ := exchange_delivers heol hsend hrecv hfuel hrun hfinal
    obtain ⟨rfl, -, rfl⟩ := Prod.mk.injEq .. ▸ Prog.done.inj (hdone.symm.trans hdone')
    exact hnot _ hls

theorem delivered_twoLines : ∃ N, Relation.ReflTransGen (Net.Step (wire 3) (wire 3))
      (exchange defaultEol 7 connectedSock connectedSock [[104, 105], []] []) N ∧
    ∃ this, N.receiver = .done ([[104, 105], []], eofReached, this) ∧ this.lineBuff = [] := by
  obtain ⟨N, hrun, hfinal⟩ := Net.exists_final (wire 3) (wire 3)
    (exchange defaultEol 7 connectedSock connectedSock [[104, 105], []] [])
  have hdel : Delivered defaultEol [[104, 105], []] :=
    (unbordered_iff_delivered.2 (by decide)).mp unbordered_iff_delivered.1 _ (by decide)
  exact ⟨N, hrun, ((hdel connectedSock_canSend connectedSock_canReceive (by decide)).2 N hrun
    hfinal).2⟩

end

end Snl
