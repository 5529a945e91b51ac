import SocketInterface.Library.Channel
import SocketInterface.Library.Readiness
import SocketInterface.Library.Runs

/-!
# A byte stream with a latency

What was written is under way for a while. The reader does not wait: it fails when nothing has
arrived. A writer and a reader that get on without latency get on as long as no read fails.
-/

variable {C R α γ β : Type}

structure Transit (C R β α γ : Type) where
  sender : Prog C R α
  underWay : List β
  arrived : List β
  /-- All that the receiver was given. -/
  taken : List β
  receiver : Prog C R γ

namespace Transit

inductive Event where
  | write
  | arrive
  | read
  | notYet
  deriving DecidableEq

section

variable (out inc : Wire C R β) (busy : C → R → Prop)

inductive Step : Transit C R β α γ → Event → Transit C R β α γ → Prop
  | write {c k fl ar tk q buf n r} (hc : out.writes c = some buf) (hn : Wire.Takes buf n)
      (hr : out.taken r n) :
      Step ⟨.call c k, fl, ar, tk, q⟩ .write ⟨k r, fl ++ buf.take n, ar, tk, q⟩
  | arrive {p bytes fl ar tk q} (hne : bytes ≠ []) :
      Step ⟨p, bytes ++ fl, ar, tk, q⟩ .arrive ⟨p, fl, ar ++ bytes, tk, q⟩
  | read {p fl bytes ar tk c k size r} (hc : inc.reads c = some size) (hne : bytes ≠ [])
      (hsize : bytes.length ≤ size) (hr : inc.got r bytes) :
      Step ⟨p, fl, bytes ++ ar, tk, .call c k⟩ .read ⟨p, fl, ar, tk ++ bytes, k r⟩
  | readNone {p fl ar tk c k r} (hc : inc.reads c = some 0) (hr : inc.got r []) :
      Step ⟨p, fl, ar, tk, .call c k⟩ .read ⟨p, fl, ar, tk, k r⟩
  | notYet {p fl tk c k size r} (hc : inc.reads c = some size) (hb : busy c r) :
      Step ⟨p, fl, [], tk, .call c k⟩ .notYet ⟨p, fl, [], tk, k r⟩

def Final (N : Transit C R β α γ) : Prop := ∀ e N', ¬ Step out inc busy N e N'

abbrev Writes (S : List β) (p : Prog C R α) (w : List β) : Prop :=
  Prog.Returns out.Outgoing (fun _ w => w = (S, false)) p (w, false)

/-- A read that asks for something, and for no more than there will be. -/
def Within (s : List β) (c : C) : Prop := ∃ size, inc.reads c = some size ∧ 0 < size ∧ size ≤ s.length

abbrev Reads (Q : γ → List β → Prop) (q : Prog C R γ) (s : List β) : Prop :=
  Prog.Returns (Prog.Asks (Within inc) inc.Incoming) Q q s

/-- What was not taken yet, the receiver would read alone. -/
structure Inv (own : C → Prop) (failed : R → Prop) (tells : γ → Prop) (S : List β)
    (Q : γ → List β → Prop) (N : Transit C R β α γ) : Prop where
  loud : Prog.Loud own failed tells N.receiver
  stream : ∃ rest, S = N.taken ++ (N.arrived ++ N.underWay ++ rest) ∧
    Writes out S N.sender (N.taken ++ (N.arrived ++ N.underWay)) ∧
    Reads inc Q N.receiver (N.arrived ++ N.underWay ++ rest)

end

variable {out inc : Wire C R β} {busy : C → R → Prop} {own : C → Prop} {failed : R → Prop}
  {tells : γ → Prop} {S : List β} {Q : γ → List β → Prop} {N N' : Transit C R β α γ} {e : Event}

theorem acc_arrive {p : Prog C R α} {tk : List β} {q : Prog C R γ}
    (h : ∀ fl ar e N', e ≠ .arrive → Step out inc busy ⟨p, fl, ar, tk, q⟩ e N' →
      Acc (fun N' N => ∃ e, Step out inc busy N e N') N') (fl ar : List β) :
    Acc (fun N' N => ∃ e, Step out inc busy N e N') ⟨p, fl, ar, tk, q⟩ := by
  induction hn : fl.length using Nat.strong_induction_on generalizing fl ar with
  | _ n ih =>
    refine ⟨_, fun N' ⟨e, hs⟩ => ?_⟩
    by_cases he : e = .arrive
    · subst he
      cases hs with
      | @arrive _ bytes fl _ _ _ hne =>
        have := List.length_pos_iff.mpr hne
        rw [List.length_append] at hn
        exact ih _ (by omega) _ _ rfl
    · exact h _ _ e N' he hs

/-- Every run is finite: a step takes a program to a part of it, or lets bytes arrive. -/
theorem acc_step (N : Transit C R β α γ) :
    Acc (fun N' N => ∃ e, Step out inc busy N e N') N := by
  obtain ⟨p, fl, ar, tk, q⟩ := N
  induction p generalizing fl ar tk q with
  | call c k ihp =>
    induction q generalizing fl ar tk with
    | call c' k' ihq =>
      refine acc_arrive (fun fl ar e N' he h => ?_) _ _
      cases h with
      | write => exact ihp _ _ _ _ _
      | arrive => exact absurd rfl he
      | read | readNone | notYet => exact ihq _ _ _ _
    | done | halt =>
      refine acc_arrive (fun fl ar e N' he h => ?_) _ _
      cases h with
      | write => exact ihp _ _ _ _ _
      | arrive => exact absurd rfl he
  | done | halt =>
    induction q generalizing fl ar tk with
    | call c' k' ihq =>
      refine acc_arrive (fun fl ar e N' he h => ?_) _ _
      cases h with
      | arrive => exact absurd rfl he
      | read | readNone | notYet => exact ihq _ _ _ _
    | done | halt =>
      refine acc_arrive (fun fl ar e N' he h => ?_) _ _
      cases h with
      | arrive => exact absurd rfl he

theorem writes_part {p : Prog C R α} {w : List β × Bool}
    (h : Prog.Returns out.Outgoing (fun _ w => w = (S, false)) p w) :
    w.1 <+: S ∧ w.2 = false := by
  induction h with
  | done h =>
    subst h
    exact ⟨List.prefix_rfl, rfl⟩
  | call hlive _ ih =>
    obtain ⟨r, w', hw⟩ := hlive
    have hrest := ih r w' hw
    cases hw with
    | write => exact ⟨(List.prefix_append _ _).trans hrest.1, rfl⟩
    | close => exact absurd hrest.2 (by simp)

section

variable (hgot : ∀ r bytes, inc.got r bytes → ¬ failed r) (hbusy : ∀ c r, busy c r → failed r)

include hgot in
theorem inv_step (h : Inv out inc own failed tells S Q N) (hs : Step out inc busy N e N')
    (he : e ≠ .notYet) : Inv out inc own failed tells S Q N' := by
  obtain ⟨hloud, rest, hS, hwrites, hreads⟩ := h
  cases hs with
  | notYet => exact absurd rfl he
  | @write c k fl ar tk q buf n r hc hn hr =>
    have hwrites' := (Prog.returns_call.mp hwrites).2 r _ (.write hc hn hr)
    obtain ⟨rest', hrest'⟩ := (writes_part hwrites').1
    have hrest : rest = buf.take n ++ rest' := by
      have heq := hS.symm.trans hrest'.symm
      simpa using heq
    subst hrest
    refine ⟨hloud, rest', by simpa using hS, by simpa using hwrites', by simpa using hreads⟩
  | arrive => exact ⟨hloud, rest, by simpa using hS, by simpa using hwrites, by simpa using hreads⟩
  | @read p fl bytes ar tk c k size r hc hne hsize hr =>
    have hask := (Prog.returns_call.mp hreads)
    obtain ⟨⟨_, _, hwithin, -⟩, hk⟩ := hask
    have hdata : inc.Incoming (bytes ++ (ar ++ fl ++ rest)) c r (ar ++ fl ++ rest) :=
      .data hc hne hsize hr
    refine ⟨?_, rest, by simpa using hS, by simpa using hwrites, hk r _ ⟨hwithin, by simpa using hdata⟩⟩
    cases hloud with
    | call _ _ hrest => exact hrest r (hgot _ _ hr)
  | @readNone p fl ar tk c k r hc hr =>
    obtain ⟨⟨_, _, ⟨size, hsize, hpos, -⟩, -⟩, -⟩ := Prog.returns_call.mp hreads
    rw [hc] at hsize
    obtain rfl := Option.some.inj hsize
    omega

include hbusy in
theorem tells_of_notYet (h : Inv out inc own failed tells S Q N)
    (hs : Step out inc busy N .notYet N') : ∃ g, N'.receiver = .done g ∧ tells g := by
  have hloud := h.loud
  cases hs with
  | notYet _ hb =>
    cases hloud with
    | call _ hfail _ => exact hfail _ (hbusy _ _ hb)

theorem Inv.within (h : Inv out inc own failed tells S Q N) {c : C} {k : R → Prog C R γ}
    (hc : N.receiver = .call c k) :
    ∃ size, inc.reads c = some size ∧ N.taken.length + size ≤ S.length := by
  obtain ⟨-, rest, hS, -, hreads⟩ := h
  rw [hc] at hreads
  obtain ⟨⟨_, _, ⟨size, hsize, -, hle⟩, -⟩, -⟩ := Prog.returns_call.mp hreads
  have hlen := congrArg List.length hS
  rw [List.length_append] at hlen
  exact ⟨size, hsize, by omega⟩

theorem Inv.of_done (h : Inv out inc own failed tells S Q N) {g : γ} (hg : N.receiver = .done g) :
    ∃ s, Q g s := by
  obtain ⟨-, rest, -, -, hreads⟩ := h
  rw [hg] at hreads
  exact ⟨_, Prog.returns_done.mp hreads⟩

theorem Inv.of_final (h : Inv out inc own failed tells S Q N)
    (hlive : ∀ c size, inc.reads c = some size → ∃ r, busy c r) (hfinal : Final out inc busy N) :
    (∃ a, N.sender = .done a) ∧ ∃ g, N.receiver = .done g ∧ Q g N.arrived := by
  obtain ⟨-, rest, hS, hwrites, hreads⟩ := h
  obtain ⟨p, fl, ar, tk, q⟩ := N
  obtain ⟨a, rfl, hdone⟩ : ∃ a, p = .done a ∧ tk ++ (ar ++ fl) = S := by
    cases hwrites with
    | done h => exact ⟨_, rfl, congrArg Prod.fst h⟩
    | call hlive' hk =>
      obtain ⟨r, w', hw⟩ := hlive'
      have hnext := hk r w' hw
      cases hw with
      | write hc hn hr => exact absurd (.write hc hn hr) (hfinal _ _)
      | close => exact absurd (writes_part hnext).2 (by simp)
  obtain rfl : fl = [] := by
    by_contra hne
    have harrive : Step out inc busy ⟨.done a, fl ++ [], ar, tk, q⟩ .arrive ⟨.done a, [], ar ++ fl, tk, q⟩ :=
      .arrive hne
    rw [List.append_nil] at harrive
    exact hfinal _ _ harrive
  obtain rfl : rest = [] := by
    have heq := hdone.trans hS
    simpa using heq
  refine ⟨⟨a, rfl⟩, ?_⟩
  simp only [List.append_nil] at hreads
  cases q with
  | done g => exact ⟨g, rfl, Prog.returns_done.mp hreads⟩
  | halt => exact absurd hreads Prog.not_returns_halt
  | call c k =>
    obtain ⟨⟨r, s', ⟨size, hsize, hpos, hle⟩, hr⟩, -⟩ := Prog.returns_call.mp hreads
    cases hr with
    | data hc hne hsize hr => exact absurd (.read hc hne hsize hr) (hfinal _ _)
    | empty hc hend hr =>
      rcases hend with rfl | rfl
      · exact absurd (.readNone hc hr) (hfinal _ _)
      · obtain ⟨r, hb⟩ := hlive _ _ hc
        exact absurd (.notYet hc hb) (hfinal _ _)

end

end Transit
