import Mathlib.Data.List.Infix
import Mathlib.Logic.Relation
import SocketInterface.Library.Program

/-!
# Two programs and a byte stream

One program writes to a stream and closes it, another one reads it. The stream keeps the
order, loses nothing, and takes and gives any number of bytes at a time. What each program
does with a stream of its own is what they do together, in every interleaving.
-/

structure Wire (C R β : Type) where
  writes : C → Option (List β)
  taken : R → Nat → Prop
  closes : C → Prop
  closed : R → Prop
  reads : C → Option Nat
  got : R → List β → Prop

variable {C R α γ β : Type}

namespace Wire

variable (wire : Wire C R β)

def Takes (buf : List β) (n : Nat) : Prop := n ≤ buf.length ∧ (buf ≠ [] → 0 < n)

inductive Outgoing : List β × Bool → C → R → List β × Bool → Prop
  | write {w c buf n r} (hc : wire.writes c = some buf) (hn : Takes buf n) (hr : wire.taken r n) :
      Outgoing (w, false) c r (w ++ buf.take n, false)
  | close {w c r} (hc : wire.closes c) (hr : wire.closed r) : Outgoing (w, false) c r (w, true)

/-- A stream that only has a reader: what is left of it. It ends with an empty read. -/
inductive Incoming : List β → C → R → List β → Prop
  | data {bytes s c size r} (hc : wire.reads c = some size) (hne : bytes ≠ [])
      (hsize : bytes.length ≤ size) (hr : wire.got r bytes) : Incoming (bytes ++ s) c r s
  | empty {s c size r} (hc : wire.reads c = some size) (hend : size = 0 ∨ s = [])
      (hr : wire.got r []) : Incoming s c r s

end Wire

structure Net (C R β α γ : Type) where
  sender : Prog C R α
  closed : Bool
  queue : List β
  receiver : Prog C R γ

namespace Net

variable (out inc : Wire C R β)

/-- One call of one of the two programs. A read waits while the stream is empty and not closed. -/
inductive Step : Net C R β α γ → Net C R β α γ → Prop
  | write {c k q p buf n r} (hc : out.writes c = some buf) (hn : Wire.Takes buf n)
      (hr : out.taken r n) : Step ⟨.call c k, false, q, p⟩ ⟨k r, false, q ++ buf.take n, p⟩
  | close {c k q p r} (hc : out.closes c) (hr : out.closed r) :
      Step ⟨.call c k, false, q, p⟩ ⟨k r, true, q, p⟩
  | read {p cl bytes q c k size r} (hc : inc.reads c = some size) (hne : bytes ≠ [])
      (hsize : bytes.length ≤ size) (hr : inc.got r bytes) :
      Step ⟨p, cl, bytes ++ q, .call c k⟩ ⟨p, cl, q, k r⟩
  | readNothing {p cl q c k size r} (hc : inc.reads c = some size)
      (hend : size = 0 ∨ (q = [] ∧ cl = true)) (hr : inc.got r []) :
      Step ⟨p, cl, q, .call c k⟩ ⟨p, cl, q, k r⟩

def Final (N : Net C R β α γ) : Prop := ∀ N', ¬ Step out inc N N'

variable {out inc} {N N' : Net C R β α γ} {S : List β} {Q : γ → List β → Prop}

/-- Every run is finite: a step takes one of the programs to a part of it. -/
theorem acc_step (out inc : Wire C R β) (N : Net C R β α γ) : Acc (fun N' N => Step out inc N N') N := by
  obtain ⟨p, cl, queue, q⟩ := N
  induction p generalizing cl queue q with
  | call c k ih =>
    induction q generalizing cl queue with
    | call c' k' ih' =>
      refine ⟨_, fun N' h => ?_⟩
      cases h with
      | write | close => exact ih _ _ _ _
      | read | readNothing => exact ih' _ _ _
    | done | halt =>
      refine ⟨_, fun N' h => ?_⟩
      cases h with
      | write | close => exact ih _ _ _ _
  | done | halt =>
    induction q generalizing cl queue with
    | call c' k' ih' =>
      refine ⟨_, fun N' h => ?_⟩
      cases h with
      | read | readNothing => exact ih' _ _ _
    | done | halt =>
      refine ⟨_, fun N' h => ?_⟩
      cases h

theorem exists_final (out inc : Wire C R β) (N : Net C R β α γ) :
    ∃ N', Relation.ReflTransGen (Step out inc) N N' ∧ Final out inc N' := by
  induction acc_step out inc N with
  | intro N _ ih =>
    by_cases h : Final out inc N
    · exact ⟨N, .refl, h⟩
    · obtain ⟨N1, h1⟩ := not_forall.mp h
      rw [not_not] at h1
      obtain ⟨N', hpath, hfinal⟩ := ih N1 h1
      exact ⟨N', .head h1 hpath, hfinal⟩

abbrev Sends (out : Wire C R β) (S : List β) (p : Prog C R α) (w : List β × Bool) : Prop :=
  Prog.Returns out.Outgoing (fun _ w => w = (S, true)) p w

theorem writes_within {p : Prog C R α} {w : List β × Bool} (h : Sends out S p w) :
    w.1 <+: S ∧ (w.2 = true → w.1 = S) := by
  induction h with
  | done h =>
    subst h
    exact ⟨List.prefix_rfl, fun _ => rfl⟩
  | call hlive _ ih =>
    obtain ⟨r, w', hw⟩ := hlive
    have hrest := ih r w' hw
    cases hw with
    | write => exact ⟨(List.prefix_append _ _).trans hrest.1, by simp⟩
    | close => exact ⟨hrest.1, by simp⟩

/-- What is under way and what is still to be written, the receiver would read alone. -/
def Inv (out inc : Wire C R β) (S : List β) (Q : γ → List β → Prop) (N : Net C R β α γ) : Prop :=
  ∃ w rest, S = w ++ rest ∧ Sends out S N.sender (w, N.closed) ∧
    Prog.Returns inc.Incoming Q N.receiver (N.queue ++ rest)

theorem inv_step (h : Inv out inc S Q N) (hs : Step out inc N N') : Inv out inc S Q N' := by
  obtain ⟨w, rest, hS, hsend, hread⟩ := h
  cases hs with
  | @write c k q p buf n r hc hn hr =>
    have hsend' := (Prog.returns_call.mp hsend).2 r _ (.write hc hn hr)
    obtain ⟨rest', hrest'⟩ := (writes_within hsend').1
    have hrest : rest = buf.take n ++ rest' := by
      have heq := hS.symm.trans hrest'.symm
      rw [List.append_assoc] at heq
      exact List.append_cancel_left heq
    refine ⟨w ++ buf.take n, rest', hrest'.symm, hsend', ?_⟩
    simpa [hrest] using hread
  | close hc hr => exact ⟨w, rest, hS, (Prog.returns_call.mp hsend).2 _ _ (.close hc hr), hread⟩
  | @read p cl bytes q c k size r hc hne hsize hr =>
    rw [show (⟨p, cl, bytes ++ q, .call c k⟩ : Net C R β α γ).queue ++ rest =
      bytes ++ (q ++ rest) from List.append_assoc ..] at hread
    exact ⟨w, rest, hS, hsend, (Prog.returns_call.mp hread).2 r _ (.data hc hne hsize hr)⟩
  | @readNothing p cl q c k size r hc hend hr =>
    refine ⟨w, rest, hS, hsend, (Prog.returns_call.mp hread).2 r _ (.empty hc ?_ hr)⟩
    rcases hend with h0 | ⟨rfl, rfl⟩
    · exact .inl h0
    · -- the stream is closed: nothing is still to be written
      obtain rfl : w = S := (writes_within hsend).2 rfl
      have hnil : rest = [] := by simpa using hS
      exact .inr (by rw [hnil]; rfl)

theorem inv_final (h : Inv out inc S Q N) (hfinal : Final out inc N) :
    (∃ a, N.sender = .done a) ∧ ∃ b, N.receiver = .done b ∧ Q b N.queue := by
  obtain ⟨w, rest, hS, hsend, hread⟩ := h
  obtain ⟨sender, cl, queue, receiver⟩ := N
  obtain ⟨a, rfl, hdone⟩ : ∃ a, sender = .done a ∧ (w, cl) = (S, true) := by
    cases hsend with
    | done h => exact ⟨_, rfl, h⟩
    | call hlive =>
      obtain ⟨r, w', hw⟩ := hlive
      cases hw with
      | write hc hn hr => exact absurd (.write hc hn hr) (hfinal _)
      | close hc hr => exact absurd (.close hc hr) (hfinal _)
  obtain ⟨rfl, rfl⟩ : w = S ∧ cl = true := by simpa using hdone
  obtain rfl : rest = [] := by simpa using hS
  rw [List.append_nil] at hread
  refine ⟨⟨a, rfl⟩, ?_⟩
  cases receiver with
  | done b => exact ⟨b, rfl, Prog.returns_done.mp hread⟩
  | halt => exact absurd hread Prog.not_returns_halt
  | call c k =>
    obtain ⟨⟨r, s', hr⟩, -⟩ := Prog.returns_call.mp hread
    cases hr with
    | data hc hne hsize hr => exact absurd (.read hc hne hsize hr) (hfinal _)
    | empty hc hend hr =>
      have hend' : _ ∨ queue = [] ∧ true = true := hend.imp_right fun h => ⟨h, rfl⟩
      exact absurd (.readNothing hc hend' hr) (hfinal _)

/-- In every interleaving the receiver gets the stream that the sender writes. -/
theorem delivers {p : Prog C R α} {q : Prog C R γ} (hsend : Sends out S p ([], false))
    (hread : Prog.Returns inc.Incoming Q q S)
    (hrun : Relation.ReflTransGen (Step out inc) ⟨p, false, [], q⟩ N)
    (hfinal : Final out inc N) :
    (∃ a, N.sender = .done a) ∧ ∃ b, N.receiver = .done b ∧ Q b N.queue := by
  refine inv_final (S := S) ?_ hfinal
  generalize hstart : (⟨p, false, [], q⟩ : Net C R β α γ) = N0 at hrun
  have h0 : Inv out inc S Q N0 := by
    rw [← hstart]
    exact ⟨[], S, rfl, hsend, hread⟩
  clear hstart hfinal
  induction hrun with
  | refl => exact h0
  | tail _ hs ih => exact inv_step ih hs

end Net
