import SocketInterface.Library.Channel

/-!
# Two programs that take turns

Two programs at the ends of a connection, each with a queue of bounded size to the other.
A script says which byte comes next and who says it. Each program that keeps to its side
of the script when it is alone keeps to it against the other, in every interleaving.
-/

inductive Turn (β : Type) where
  | say (b : β)
  | hear (b : β)

variable {C R α γ β : Type}

namespace Turn

def other : Turn β → Turn β
  | say b => hear b
  | hear b => say b

def dual (s : List (Turn β)) : List (Turn β) := s.map other

def said (bytes : List β) : List (Turn β) := bytes.map say

def heard (bytes : List β) : List (Turn β) := bytes.map hear

@[simp] theorem said_nil : said ([] : List β) = [] := rfl

@[simp] theorem heard_nil : heard ([] : List β) = [] := rfl

@[simp] theorem said_cons (b : β) (bytes : List β) : said (b :: bytes) = say b :: said bytes := rfl

@[simp] theorem heard_cons (b : β) (bytes : List β) :
    heard (b :: bytes) = hear b :: heard bytes := rfl

@[simp] theorem said_append (bytes bytes' : List β) :
    said (bytes ++ bytes') = said bytes ++ said bytes' := List.map_append

@[simp] theorem heard_append (bytes bytes' : List β) :
    heard (bytes ++ bytes') = heard bytes ++ heard bytes' := List.map_append

@[simp] theorem dual_nil : dual ([] : List (Turn β)) = [] := rfl

@[simp] theorem dual_say (b : β) (s : List (Turn β)) : dual (say b :: s) = hear b :: dual s := rfl

@[simp] theorem dual_hear (b : β) (s : List (Turn β)) : dual (hear b :: s) = say b :: dual s := rfl

@[simp] theorem dual_append (s s' : List (Turn β)) : dual (s ++ s') = dual s ++ dual s' :=
  List.map_append

@[simp] theorem dual_said (bytes : List β) : dual (said bytes) = heard bytes := by
  simp [dual, said, heard, other]

@[simp] theorem dual_heard (bytes : List β) : dual (heard bytes) = said bytes := by
  simp [dual, said, heard, other]

@[simp] theorem dual_dual (s : List (Turn β)) : dual (dual s) = s := by
  induction s with
  | nil => rfl
  | cons t s ih => cases t <;> simp [ih]

end Turn

open Turn

namespace Wire

variable (wire : Wire C R β)

structure Proper : Prop where
  write_only : ∀ c, wire.writes c ≠ none → wire.reads c = none ∧ ¬ wire.closes c
  read_only : ∀ c, wire.reads c ≠ none → ¬ wire.closes c
  taken : ∀ n, ∃ r, wire.taken r n
  got : ∀ bytes, ∃ r, wire.got r bytes
  closed : ∃ r, wire.closed r

/-- One end alone: what is left of its script, and whether it closed the connection. It says and
hears any number of bytes at a time, and closes when nothing is left. -/
inductive Plays : List (Turn β) × Bool → C → R → List (Turn β) × Bool → Prop
  | write {s s' c buf n r} (hc : wire.writes c = some buf) (hn : Takes buf n)
      (hr : wire.taken r n) (hs : s = said buf ++ s') :
      Plays (s, false) c r (said (buf.drop n) ++ s', false)
  | read {s s' c size bytes r} (hc : wire.reads c = some size) (hne : bytes ≠ [])
      (hsize : bytes.length ≤ size) (hr : wire.got r bytes) (hs : s = heard bytes ++ s') :
      Plays (s, false) c r (s', false)
  | close {s c r} (hc : wire.closes c) (hr : wire.closed r) (hs : s = []) :
      Plays (s, false) c r (s, true)

/-- From here on, the program says and hears what `s` says, and ends with a result in `Q`. -/
def Follows (Q : α → Prop) (p : Prog C R α) (s : List (Turn β) × Bool) : Prop :=
  Prog.Returns wire.Plays (fun a s' => s'.1 = [] ∧ Q a) p s

variable {wire} {Q : α → Prop} {p : Prog C R α} {s s' : List (Turn β)}

theorem outgoing_within {S : List β} {w : List β × Bool}
    (h : Prog.Returns wire.Outgoing (fun a w' => w' = (S, false) ∧ Q a) p w) :
    w.2 = false ∧ w.1 <+: S := by
  induction h with
  | done hQ =>
    rw [hQ.1]
    exact ⟨rfl, List.prefix_rfl⟩
  | call hlive _ ih =>
    obtain ⟨r, w', hw⟩ := hlive
    obtain ⟨hopen, hpre⟩ := ih r w' hw
    cases hw with
    | write => exact ⟨rfl, (List.prefix_append _ _).trans hpre⟩
    | close => simp at hopen

theorem plays_of_outgoing (hwire : wire.Proper) {S msg : List β} {w : List β × Bool}
    (h : Prog.Returns wire.Outgoing (fun a w' => w' = (S, false) ∧ Q a) p w)
    (hmsg : S = w.1 ++ msg) (s : List (Turn β)) :
    Prog.Returns wire.Plays (fun a s' => s' = (s, false) ∧ Q a) p (said msg ++ s, false) := by
  induction h generalizing msg with
  | done hQ =>
    obtain ⟨rfl, hQ⟩ := hQ
    obtain rfl : msg = [] := by simpa using hmsg
    exact .done ⟨rfl, hQ⟩
  | @call c k w hlive hrest ih =>
    obtain ⟨r0, w0, hw0⟩ := hlive
    have hopen := (outgoing_within (hrest r0 w0 hw0)).1
    cases hw0 with
    | close => simp at hopen
    | @write w _ buf n0 _ hc hn0 hr0 =>
      -- the whole buffer might be taken: all of it belongs to the message
      obtain ⟨msg', rfl⟩ : buf <+: msg := by
        obtain ⟨r1, hr1⟩ := hwire.taken buf.length
        have hall : Takes buf buf.length := ⟨le_rfl, fun hne => List.length_pos_iff.mpr hne⟩
        obtain ⟨-, rest, hpre⟩ := outgoing_within (hrest r1 _ (.write hc hall hr1))
        rw [hmsg, List.take_length, List.append_assoc] at hpre
        exact ⟨rest, List.append_cancel_left hpre⟩
      have hplay : said (buf ++ msg') ++ s = said buf ++ (said msg' ++ s) := by simp
      refine .call ⟨r0, _, .write hc hn0 hr0 hplay⟩ fun r s1 hplays => ?_
      cases hplays with
      | @write _ s2 _ buf' n _ hc' hn hr hs =>
        obtain rfl : buf' = buf := Option.some.inj (hc'.symm.trans hc)
        obtain rfl := List.append_cancel_left (hplay.symm.trans hs)
        rw [← List.append_assoc, ← said_append]
        refine ih r _ (.write hc hn hr) ?_
        rw [hmsg, List.append_assoc, ← List.append_assoc (buf'.take n), List.take_append_drop]
      | read hc' => simp [(hwire.write_only c (by simp [hc])).1] at hc'
      | close hc' => exact absurd hc' (hwire.write_only c (by simp [hc])).2

end Wire

/-! ## Both ends -/

/-- One end: what it wrote and the other one has not read, and how much of that there may be. -/
structure Peer (C R β α : Type) where
  prog : Prog C R α
  closed : Bool
  queue : List β
  room : Nat

namespace Peer

variable (wire : Wire C R β)

/-- One call of a program, while the other end has `inc` under way to it. A write waits for room, a
read for bytes. A close that leaves bytes unread may lose what is under way to the other end, and
nothing can be written to an end that is closed. -/
inductive Act : Peer C R β α → List β × Bool → Peer C R β α → List β → Prop
  | write {c k q room inc closed buf n r} (hc : wire.writes c = some buf) (hn : Wire.Takes buf n)
      (hr : wire.taken r n) (hroom : buf ≠ [] → q.length + n ≤ room ∧ closed = false) :
      Act ⟨.call c k, false, q, room⟩ (inc, closed) ⟨k r, false, q ++ buf.take n, room⟩ inc
  | read {c k q room inc inc' closed size bytes r} (hc : wire.reads c = some size)
      (hne : bytes ≠ []) (hsize : bytes.length ≤ size) (hr : wire.got r bytes)
      (hinc : inc = bytes ++ inc') :
      Act ⟨.call c k, false, q, room⟩ (inc, closed) ⟨k r, false, q, room⟩ inc'
  | readNothing {c k q room inc closed size r} (hc : wire.reads c = some size)
      (hend : size = 0 ∨ (inc = [] ∧ closed = true)) (hr : wire.got r []) :
      Act ⟨.call c k, false, q, room⟩ (inc, closed) ⟨k r, false, q, room⟩ inc
  | close {c k q q' room inc closed r} (hc : wire.closes c) (hr : wire.closed r)
      (hkeep : inc = [] → q' = q) :
      Act ⟨.call c k, false, q, room⟩ (inc, closed) ⟨k r, true, q', room⟩ inc

end Peer

structure Link (C R β α γ : Type) where
  near : Peer C R β α
  far : Peer C R β γ

namespace Link

variable (wn wf : Wire C R β)

inductive Step : Link C R β α γ → Link C R β α γ → Prop
  | near {p p' : Peer C R β α} {q : Peer C R β γ} {inc}
      (h : p.Act wn (q.queue, q.closed) p' inc) : Step ⟨p, q⟩ ⟨p', { q with queue := inc }⟩
  | far {p : Peer C R β α} {q q' : Peer C R β γ} {inc}
      (h : q.Act wf (p.queue, p.closed) q' inc) : Step ⟨p, q⟩ ⟨{ p with queue := inc }, q'⟩

def Final (N : Link C R β α γ) : Prop := ∀ N', ¬ Step wn wf N N'

/-- Every run is finite: a step takes one of the programs to a part of it. -/
theorem acc_step (N : Link C R β α γ) : Acc (fun N' N => Step wn wf N N') N := by
  obtain ⟨⟨p, pcl, pq, pr⟩, ⟨q, qcl, qq, qr⟩⟩ := N
  induction p generalizing pcl pq pr q qcl qq qr with
  | call c k ih =>
    induction q generalizing pcl pq pr qcl qq qr with
    | call c' k' ih' =>
      refine ⟨_, fun N' h => ?_⟩
      cases h with
      | near h => cases h <;> exact ih _ _ _ _ _ _ _ _
      | far h => cases h <;> exact ih' _ _ _ _ _ _ _
    | done | halt =>
      refine ⟨_, fun N' h => ?_⟩
      cases h with
      | near h => cases h <;> exact ih _ _ _ _ _ _ _ _
      | far h => cases h
  | done | halt =>
    induction q generalizing pcl pq pr qcl qq qr with
    | call c' k' ih' =>
      refine ⟨_, fun N' h => ?_⟩
      cases h with
      | near h => cases h
      | far h => cases h <;> exact ih' _ _ _ _ _ _ _
    | done | halt =>
      refine ⟨_, fun N' h => ?_⟩
      cases h with
      | near h | far h => cases h

def Ends (P : Link C R β α γ → Prop) (N : Link C R β α γ) : Prop :=
  Acc (fun N' N => Step wn wf N N') N ∧
    ∀ N', Relation.ReflTransGen (Step wn wf) N N' → Final wn wf N' → P N'

theorem exists_final (N : Link C R β α γ) :
    ∃ N', Relation.ReflTransGen (Step wn wf) N N' ∧ Final wn wf N' := by
  induction acc_step wn wf N with
  | intro N _ ih =>
    by_cases h : Final wn wf N
    · exact ⟨N, .refl, h⟩
    · obtain ⟨N1, h1⟩ := not_forall.mp h
      rw [not_not] at h1
      obtain ⟨N', hpath, hfinal⟩ := ih N1 h1
      exact ⟨N', .head h1 hpath, hfinal⟩

end Link

/-! ## Keeping to the script -/

namespace Wire

variable {wire : Wire C R β} {Q : α → Prop} {s : List (Turn β)} {cl : Bool} {c : C}
  {k : R → Prog C R α}

theorem Follows.of_closed {p : Prog C R α} (h : wire.Follows Q p (s, true)) : s = [] := by
  cases h with
  | done hQ => exact hQ.1
  | call hlive =>
    obtain ⟨r, s', hplays⟩ := hlive
    cases hplays

theorem Follows.of_call (h : wire.Follows Q (.call c k) (s, cl)) :
    (∃ buf, wire.writes c = some buf) ∨ (∃ size, wire.reads c = some size) ∨ wire.closes c := by
  obtain ⟨⟨r, s', hplays⟩, -⟩ := Prog.returns_call.mp h
  cases hplays with
  | write hc => exact .inl ⟨_, hc⟩
  | read hc => exact .inr (.inl ⟨_, hc⟩)
  | close hc => exact .inr (.inr hc)

theorem Follows.of_write (hwire : wire.Proper) (h : wire.Follows Q (.call c k) (s, cl))
    {buf : List β} (hc : wire.writes c = some buf) : ∃ s', s = said buf ++ s' ∧
      ∀ n r, Takes buf n → wire.taken r n →
        wire.Follows Q (k r) (said (buf.drop n) ++ s', false) := by
  obtain ⟨⟨r, x, hplays⟩, hrest⟩ := Prog.returns_call.mp h
  obtain ⟨hreads, hcloses⟩ := hwire.write_only c (by simp [hc])
  cases hplays with
  | @write _ s' _ buf' _ _ hc' _ _ hs =>
    obtain rfl : buf' = buf := Option.some.inj (hc'.symm.trans hc)
    exact ⟨s', hs, fun n r hn hr => hrest r _ (.write hc hn hr hs)⟩
  | read hc' => simp [hreads] at hc'
  | close hc' => exact absurd hc' hcloses

theorem Follows.of_read (hwire : wire.Proper) (h : wire.Follows Q (.call c k) (s, cl))
    {size : Nat} (hc : wire.reads c = some size) : 0 < size ∧ (∃ b s', s = hear b :: s') ∧
      ∀ bytes r s', bytes ≠ [] → bytes.length ≤ size → wire.got r bytes →
        s = heard bytes ++ s' → wire.Follows Q (k r) (s', false) := by
  obtain ⟨⟨r, x, hplays⟩, hrest⟩ := Prog.returns_call.mp h
  have hcloses := hwire.read_only c (by simp [hc])
  cases hplays with
  | write hc' => simp [(hwire.write_only c (by simp [hc'])).1] at hc
  | @read _ s' _ size' bytes _ hc' hne hsize _ hs =>
    obtain rfl : size' = size := Option.some.inj (hc'.symm.trans hc)
    have hpos := List.length_pos_iff.mpr hne
    obtain ⟨b, bytes, rfl⟩ := List.exists_cons_of_ne_nil hne
    exact ⟨by omega, ⟨b, _, hs⟩, fun bytes r s' hne hsize hr hs =>
      hrest r _ (.read hc hne hsize hr hs)⟩
  | close hc' => exact absurd hc' hcloses

theorem Follows.of_close (hwire : wire.Proper) (h : wire.Follows Q (.call c k) (s, cl))
    (hc : wire.closes c) : s = [] ∧ ∀ r, wire.closed r → wire.Follows Q (k r) ([], true) := by
  obtain ⟨⟨r, x, hplays⟩, hrest⟩ := Prog.returns_call.mp h
  cases hplays with
  | write hc' => exact absurd hc (hwire.write_only c (by simp [hc'])).2
  | read hc' => exact absurd hc (hwire.read_only c (by simp [hc']))
  | close _ _ hs =>
    subst hs
    exact ⟨rfl, fun r hr => hrest r _ (.close hc hr rfl)⟩

end Wire

/-- One of the two ends is ahead by what it has under way: the other one hears that next. -/
def Matched (up down : List β) (s t : List (Turn β)) : Prop :=
  (down = [] ∧ t = heard up ++ dual s) ∨ (up = [] ∧ s = heard down ++ dual t)

namespace Matched

variable {b : β} {up down : List β} {s t : List (Turn β)}

theorem symm (h : Matched up down s t) : Matched down up t s := Or.symm h

theorem of_empty (h : Matched up [] s t) : t = heard up ++ dual s := by
  rcases h with ⟨-, h⟩ | ⟨rfl, rfl⟩
  · exact h
  · simp

theorem of_say (h : Matched up down (say b :: s) t) : down = [] := by
  rcases h with ⟨h, -⟩ | ⟨-, h⟩
  · exact h
  · cases down with
    | nil => rfl
    | cons => simp at h

theorem of_end (h : Matched up down [] t) : down = [] := by
  rcases h with ⟨h, -⟩ | ⟨-, h⟩
  · exact h
  · cases down with
    | nil => rfl
    | cons => simp at h

theorem of_under_way (h : Matched up down s t) (hdown : down ≠ []) :
    up = [] ∧ s = heard down ++ dual t :=
  h.resolve_left fun h => hdown h.1

end Matched

section Ends

variable {wire : Wire C R β} {Q : α → Prop} {p p' : Peer C R β α} {s t : List (Turn β)}
  {inc inc' : List β} {cl : Bool}

theorem act_keeps (hwire : wire.Proper) (h : p.Act wire (inc, cl) p' inc')
    (hp : wire.Follows Q p.prog (s, p.closed)) (hm : Matched p.queue inc s t)
    (hcl : cl = true → t = []) :
    p'.room = p.room ∧ ∃ s', wire.Follows Q p'.prog (s', p'.closed) ∧
      Matched p'.queue inc' s' t := by
  cases h with
  | @write c k q room _ _ buf n r hc hn hr =>
    obtain ⟨s', rfl, hrest⟩ := hp.of_write hwire hc
    refine ⟨rfl, _, hrest n r hn hr, ?_⟩
    cases buf with
    | nil => simpa using hm
    | cons b buf =>
      obtain rfl := hm.of_say
      have hbuf : heard (b :: buf) =
          heard ((b :: buf).take n) ++ heard ((b :: buf).drop n) := by
        rw [← heard_append, List.take_append_drop]
      refine .inl ⟨rfl, ?_⟩
      rw [hm.of_empty, dual_append, dual_said, hbuf]
      simp
  | @read c k q room _ _ _ size bytes r hc hne hsize hr hinc =>
    subst hinc
    obtain ⟨-, -, hrest⟩ := hp.of_read hwire hc
    obtain ⟨hq, hs⟩ := hm.of_under_way (by simp [hne])
    rw [heard_append, List.append_assoc] at hs
    exact ⟨rfl, _, hrest bytes r _ hne hsize hr hs, .inr ⟨hq, rfl⟩⟩
  | @readNothing c k q room _ _ size r hc hend hr =>
    obtain ⟨hpos, ⟨b, s', rfl⟩, -⟩ := hp.of_read hwire hc
    obtain ⟨rfl, rfl⟩ := hend.resolve_left (by omega)
    -- the other end closed when its script was at the end, and so is this one
    have ht := hm.of_empty
    simp [hcl rfl] at ht
  | @close c k q q' room _ _ r hc hr hkeep =>
    obtain ⟨rfl, hrest⟩ := hp.of_close hwire hc
    obtain rfl := hkeep hm.of_end
    exact ⟨rfl, [], hrest r hr, hm⟩

/-- Who may go on, goes on: at the end of its script, when it has room to say something, and when
there is something to hear. -/
theorem exists_act (hwire : wire.Proper) (hp : wire.Follows Q p.prog (s, p.closed))
    (hdone : ∀ a, p.prog ≠ .done a)
    (hs : s = [] ∨ (∃ b s', s = say b :: s' ∧ p.queue.length < p.room ∧ cl = false) ∨
      ∃ b s', s = hear b :: s' ∧ inc ≠ []) :
    ∃ p' inc', p.Act wire (inc, cl) p' inc' := by
  obtain ⟨prog, closed, q, room⟩ := p
  cases prog with
  | done a => exact absurd rfl (hdone a)
  | halt => exact absurd hp Prog.not_returns_halt
  | call c k =>
    obtain rfl : closed = false := by
      cases closed with
      | false => rfl
      | true =>
        obtain ⟨⟨r, s', hplays⟩, -⟩ := Prog.returns_call.mp hp
        cases hplays
    rcases hp.of_call with ⟨buf, hc⟩ | ⟨size, hc⟩ | hc
    · obtain ⟨s', rfl, -⟩ := hp.of_write hwire hc
      cases buf with
      | nil =>
        obtain ⟨r, hr⟩ := hwire.taken 0
        exact ⟨_, _, .write hc ⟨le_rfl, by simp⟩ hr (by simp)⟩
      | cons b buf =>
        -- one byte of it goes
        obtain ⟨r, hr⟩ := hwire.taken 1
        obtain ⟨-, -, -, hroom, rfl⟩ : ∃ b' s'', said (b :: buf) ++ s' = say b' :: s'' ∧
            q.length < room ∧ cl = false := by simpa using hs
        exact ⟨_, _, .write hc ⟨by simp, by simp⟩ hr fun _ => ⟨hroom, rfl⟩⟩
    · obtain ⟨hpos, ⟨b, s', rfl⟩, -⟩ := hp.of_read hwire hc
      have hne : inc ≠ [] := by simpa using hs
      obtain ⟨b', inc, rfl⟩ := List.exists_cons_of_ne_nil hne
      obtain ⟨r, hr⟩ := hwire.got [b']
      exact ⟨_, _, .read hc (List.cons_ne_nil b' []) (show 1 ≤ size from hpos) hr rfl⟩
    · obtain ⟨r, hr⟩ := hwire.closed
      exact ⟨_, _, .close hc hr fun _ => rfl⟩

end Ends

namespace Link

variable {wn wf : Wire C R β} {Q : α → Prop} {Q' : γ → Prop} {N N' : Link C R β α γ}
  {s : List (Turn β)}

def Inv (wn wf : Wire C R β) (Q : α → Prop) (Q' : γ → Prop) (N : Link C R β α γ) : Prop :=
  0 < N.near.room ∧ 0 < N.far.room ∧
    ∃ s t, wn.Follows Q N.near.prog (s, N.near.closed) ∧
      wf.Follows Q' N.far.prog (t, N.far.closed) ∧ Matched N.near.queue N.far.queue s t

theorem inv_step (hwn : wn.Proper) (hwf : wf.Proper) (h : Inv wn wf Q Q' N)
    (hs : Step wn wf N N') : Inv wn wf Q Q' N' := by
  obtain ⟨hroom, hroom', s, t, hnear, hfar, hm⟩ := h
  cases hs with
  | near hact =>
    obtain ⟨hr, s', hnear', hm'⟩ := act_keeps hwn hact hnear hm fun hcl => (hcl ▸ hfar).of_closed
    exact ⟨hr ▸ hroom, hroom', s', t, hnear', hfar, hm'⟩
  | far hact =>
    obtain ⟨hr, t', hfar', hm'⟩ := act_keeps hwf hact hfar hm.symm fun hcl =>
      (hcl ▸ hnear).of_closed
    exact ⟨hroom, hr ▸ hroom', s, t', hnear, hfar', hm'.symm⟩

theorem open_of_cons {wire : Wire C R β} {p : Prog C R α} {x : Turn β} {cl : Bool}
    (h : wire.Follows Q p (x :: s, cl)) : cl = false := by
  cases cl with
  | false => rfl
  | true => simpa using h.of_closed

theorem not_done_of_cons {wire : Wire C R β} {p : Prog C R α} {x : Turn β} {cl : Bool}
    (h : wire.Follows Q p (x :: s, cl)) (a : α) : p ≠ .done a := by
  rintro rfl
  simpa using (Prog.returns_done.mp h).1

theorem queue_empty {wire : Wire C R β} (hwire : wire.Proper) {p : Peer C R β α} {inc : List β}
    {cl : Bool} (hp : wire.Follows Q p.prog (heard inc ++ s, p.closed))
    (hstop : ∀ p' inc', ¬ p.Act wire (inc, cl) p' inc') : inc = [] := by
  cases inc with
  | nil => rfl
  | cons b inc =>
    rw [heard_cons, List.cons_append] at hp
    obtain ⟨p', inc', hact⟩ : ∃ p' inc', p.Act wire (b :: inc, cl) p' inc' :=
      exists_act hwire hp (not_done_of_cons hp) (.inr (.inr ⟨b, _, rfl, by simp⟩))
    exact absurd hact (hstop p' inc')

theorem done_of_end {wire : Wire C R β} (hwire : wire.Proper) {p : Peer C R β α} {inc : List β}
    {cl : Bool} (hp : wire.Follows Q p.prog ([], p.closed))
    (hstop : ∀ p' inc', ¬ p.Act wire (inc, cl) p' inc') : ∃ a, p.prog = .done a ∧ Q a := by
  by_cases hdone : ∃ a, p.prog = .done a
  · obtain ⟨a, ha⟩ := hdone
    rw [ha] at hp
    exact ⟨a, ha, (Prog.returns_done.mp hp).2⟩
  · obtain ⟨p', inc', hact⟩ : ∃ p' inc', p.Act wire (inc, cl) p' inc' :=
      exists_act hwire hp (fun a ha => hdone ⟨a, ha⟩) (.inl rfl)
    exact absurd hact (hstop p' inc')

/-- The two ends never wait for each other: who stops has come to its end. -/
theorem inv_final (hwn : wn.Proper) (hwf : wf.Proper) (h : Inv wn wf Q Q' N)
    (hfinal : Final wn wf N) : (∃ a, N.near.prog = .done a ∧ Q a) ∧
      (∃ b, N.far.prog = .done b ∧ Q' b) ∧ N.near.queue = [] ∧ N.far.queue = [] := by
  obtain ⟨hroom, hroom', s, t, hnear, hfar, hm⟩ := h
  obtain ⟨p, q⟩ := N
  dsimp only at hroom hroom' hnear hfar hm ⊢
  have hp : ∀ p' inc', ¬ p.Act wn (q.queue, q.closed) p' inc' := fun _ _ h => hfinal _ (.near h)
  have hq : ∀ q' inc', ¬ q.Act wf (p.queue, p.closed) q' inc' := fun _ _ h => hfinal _ (.far h)
  obtain ⟨hup, hdown⟩ : p.queue = [] ∧ q.queue = [] := by
    rcases hm with ⟨hdown, rfl⟩ | ⟨hup, rfl⟩
    · exact ⟨queue_empty hwf hfar hq, hdown⟩
    · exact ⟨hup, queue_empty hwn hnear hp⟩
  rw [hup, hdown] at hm
  obtain rfl : t = dual s := hm.of_empty
  -- nothing is under way: the one whose turn it is has room
  match s with
  | [] => exact ⟨done_of_end hwn hnear hp, done_of_end hwf hfar hq, hup, hdown⟩
  | say b :: s =>
    obtain ⟨p', inc', hact⟩ : ∃ p' inc', p.Act wn (q.queue, q.closed) p' inc' :=
      exists_act hwn hnear (not_done_of_cons hnear)
        (.inr (.inl ⟨b, s, rfl, by simpa [hup] using hroom, open_of_cons hfar⟩))
    exact absurd hact (hp p' inc')
  | hear b :: s =>
    obtain ⟨q', inc', hact⟩ : ∃ q' inc', q.Act wf (p.queue, p.closed) q' inc' :=
      exists_act hwf hfar (not_done_of_cons hfar)
        (.inr (.inl ⟨b, dual s, rfl, by simpa [hdown] using hroom', open_of_cons hnear⟩))
    exact absurd hact (hq q' inc')

def start (p : Prog C R α) (q : Prog C R γ) (room room' : Nat) : Link C R β α γ :=
  ⟨⟨p, false, [], room⟩, ⟨q, false, [], room'⟩⟩

/-- Two programs that keep to the two sides of one script come to their ends together. -/
theorem converses (hwn : wn.Proper) (hwf : wf.Proper) {p : Prog C R α} {q : Prog C R γ}
    {room room' : Nat} (hroom : 0 < room) (hroom' : 0 < room')
    (hp : wn.Follows Q p (s, false)) (hq : wf.Follows Q' q (dual s, false)) :
    Ends wn wf (fun N => (∃ a, N.near.prog = .done a ∧ Q a) ∧
      (∃ b, N.far.prog = .done b ∧ Q' b) ∧ N.near.queue = [] ∧ N.far.queue = [])
      (start p q room room') := by
  refine ⟨acc_step wn wf _, fun N hrun hfinal => ?_⟩
  have h0 : Inv wn wf Q Q' (start p q room room' : Link C R β α γ) :=
    ⟨hroom, hroom', s, dual s, hp, hq, .inl ⟨rfl, rfl⟩⟩
  have hkept : Inv wn wf Q Q' N := by
    clear hfinal
    generalize (start p q room room' : Link C R β α γ) = N0 at hrun h0
    induction hrun with
    | refl => exact h0
    | tail _ hs ih => exact inv_step hwn hwf ih hs
  exact inv_final hwn hwf hkept hfinal

theorem Ends.exists_final {P : Link C R β α γ → Prop} (h : Ends wn wf P N) :
    ∃ N', Relation.ReflTransGen (Step wn wf) N N' ∧ P N' := by
  obtain ⟨N', hrun, hfinal⟩ := Link.exists_final wn wf N
  exact ⟨N', hrun, h.2 N' hrun hfinal⟩

end Link
