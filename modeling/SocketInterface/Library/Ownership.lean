import Mathlib.Algebra.Order.Group.Multiset
import SocketInterface.Library.Method

/-!
# Handles with one owner

A system hands out handles that have to be given back. The rules follow the handles
through a program: it calls only on handles that it owns or that are not out, it gives
back only what is out, it loses none, and no destructor of it throws.
-/

/-- A system whose handles `H` have a content `V` while they are out. -/
structure Handles (W C R H V : Type) where
  env : W → C → R → W → Prop
  Valid : W → Prop
  content : W → H → Option V
  on : C → Option H
  GivesBack : C → Prop

namespace Handles

variable {W C R E H V α β σ τ : Type} {hs : Handles W C R H V}

def Out (hs : Handles W C R H V) (w : W) (h : H) : Prop := hs.content w h ≠ none

/-- The handles `own` are out, each is there once. -/
structure Owns (hs : Handles W C R H V) (w : W) (own : Multiset H) : Prop where
  valid : hs.Valid w
  nodup : own.Nodup
  out : ∀ h ∈ own, hs.Out w h

theorem Owns.left {w : W} {own others : Multiset H} (h : hs.Owns w (own + others)) :
    hs.Owns w own := by
  refine ⟨h.valid, (Multiset.nodup_add.mp h.nodup).1, fun x hx => ?_⟩
  exact h.out x (Multiset.mem_add.mpr (.inl hx))

/-- The calls `evs` of an owner of `own` leave it the owner of `own'`. -/
structure Handover (hs : Handles W C R H V) (w : W) (own : Multiset H)
    (evs : List (Prog.Event W C R)) (w' : W) (own' : Multiset H) : Prop where
  owns : hs.Owns w' own'
  /-- No call is issued on the handle of another owner. -/
  calls : ∀ e ∈ evs, ∀ h, hs.on e.call = some h → h ∈ own ∨ ¬ hs.Out w h
  givesBack : ∀ e ∈ evs, ∀ h, hs.on e.call = some h → hs.GivesBack e.call → hs.Out e.before h
  others : ∀ h, h ∉ own → hs.Out w h → h ∉ own' ∧ hs.content w' h = hs.content w h
  rest : ∀ h, hs.Out w' h → h ∈ own' ∨ (h ∉ own ∧ hs.Out w h)

namespace Handover

variable {w w1 w' : W} {own own1 own' : Multiset H} {evs evs1 : List (Prog.Event W C R)}

theorem refl (h : hs.Owns w own) : hs.Handover w own [] w own where
  owns := h
  calls := by simp
  givesBack := by simp
  others := fun _ hne _ => ⟨hne, rfl⟩
  rest := fun x hx => by tauto

theorem trans (h : hs.Handover w own evs w1 own1) (h1 : hs.Handover w1 own1 evs1 w' own') :
    hs.Handover w own (evs ++ evs1) w' own' where
  owns := h1.owns
  calls := by
    intro e he x hx
    rcases List.mem_append.mp he with he | he
    · exact h.calls e he x hx
    · by_contra hne
      obtain ⟨hown, hout⟩ := not_or.mp hne
      rw [not_not] at hout
      obtain ⟨hown1, heq⟩ := h.others x hown hout
      rcases h1.calls e he x hx with hmem | hnot
      · exact hown1 hmem
      · exact hnot (by rwa [Out, heq])
  givesBack := by
    intro e he
    rcases List.mem_append.mp he with he | he
    · exact h.givesBack e he
    · exact h1.givesBack e he
  others := by
    intro x hown hout
    obtain ⟨hown1, heq⟩ := h.others x hown hout
    obtain ⟨hown', heq'⟩ := h1.others x hown1 (by rwa [Out, heq])
    exact ⟨hown', heq'.trans heq⟩
  rest := by
    intro x hout
    rcases h1.rest x hout with hmem | ⟨hown1, hout1⟩
    · exact .inl hmem
    · exact .inr ((h.rest x hout1).resolve_left hown1)

theorem frame {others : Multiset H} (h : hs.Handover w own evs w' own')
    (ho : hs.Owns w (own + others)) : hs.Handover w (own + others) evs w' (own' + others) := by
  have hdisj := (Multiset.nodup_add.mp ho.nodup).2.2
  have hother : ∀ x ∈ others, x ∉ own' ∧ hs.content w' x = hs.content w x := fun x hx =>
    h.others x (fun hown => Multiset.disjoint_left.mp hdisj hown hx) (ho.out x (by simp [hx]))
  constructor
  · refine ⟨h.owns.valid, Multiset.nodup_add.mpr ⟨h.owns.nodup,
      (Multiset.nodup_add.mp ho.nodup).2.1, ?_⟩, fun x hx => ?_⟩
    · exact Multiset.disjoint_right.mpr fun hx => (hother _ hx).1
    · rcases Multiset.mem_add.mp hx with hx | hx
      · exact h.owns.out x hx
      · rw [Out, (hother x hx).2]
        exact ho.out x (by simp [hx])
  · intro e he x hx
    rcases h.calls e he x hx with hmem | hout
    · exact .inl (by simp [hmem])
    · exact .inr hout
  · exact h.givesBack
  · intro x hne hout
    rw [Multiset.mem_add, not_or] at hne
    obtain ⟨hown', heq⟩ := h.others x hne.1 hout
    exact ⟨by simp [hown', hne.2], heq⟩
  · intro x hout
    by_cases hx : x ∈ others
    · exact .inl (by simp [hx])
    · rcases h.rest x hout with hmem | ⟨hown, hw⟩
      · exact .inl (by simp [hmem])
      · exact .inr ⟨by simp [hown, hx], hw⟩

end Handover

/-! ## Programs -/

/-- Run by an owner of `own`, the program `p` ends with a value and handles that meet `Q`, and
no destructor throws. -/
def Custody (hs : Handles W C R H V) (p : Prog C R α) (own : Multiset H)
    (Q : α → Multiset H → Prop) : Prop :=
  ∀ w, hs.Owns w own → ¬ Prog.Halts hs.env p w .terminated ∧
    ∀ evs a w', Prog.Exec hs.env p w evs a w' →
      ∃ own', hs.Handover w own evs w' own' ∧ Q a own'

variable {own : Multiset H} {Q : α → Multiset H → Prop}

theorem custody_done {a : α} (h : Q a own) : hs.Custody (.done a) own Q := by
  intro w ho
  refine ⟨by rintro ⟨⟩, fun evs b w' hx => ?_⟩
  obtain ⟨rfl, rfl, rfl⟩ := Prog.exec_done.mp hx
  exact ⟨own, .refl ho, h⟩

theorem custody_halt {h : Halt} (hne : h ≠ .terminated) :
    hs.Custody (.halt h : Prog C R α) own Q := by
  intro w _
  refine ⟨?_, fun evs b w' hx => absurd hx Prog.exec_halt⟩
  rintro ⟨⟩
  exact hne rfl

theorem custody_call {c : C} {k : R → Prog C R α}
    (h : ∀ w r w1, hs.Owns w own → hs.env w c r w1 →
      ∃ own1, hs.Handover w own [⟨w, c, r⟩] w1 own1 ∧ hs.Custody (k r) own1 Q) :
    hs.Custody (.call c k) own Q := by
  intro w ho
  constructor
  · rintro ⟨⟩
    rename_i w1 r hr hk
    obtain ⟨own1, hover, hrest⟩ := h w _ _ ho hr
    exact (hrest _ hover.owns).1 hk
  · intro evs a w' hx
    obtain ⟨r, w1, evs1, hr, hrun, rfl⟩ := Prog.exec_call.mp hx
    obtain ⟨own1, hover, hrest⟩ := h w r w1 ho hr
    obtain ⟨own', hover', hQ⟩ := (hrest _ hover.owns).2 _ _ _ hrun
    exact ⟨own', hover.trans hover', hQ⟩

theorem custody_bind {p : Prog C R α} {f : α → Prog C R β} {Q' : β → Multiset H → Prop}
    (h : hs.Custody p own Q) (hf : ∀ a own', Q a own' → hs.Custody (f a) own' Q') :
    hs.Custody (p.bind f) own Q' := by
  intro w ho
  obtain ⟨hp, hexec⟩ := h w ho
  constructor
  · intro hx
    rcases Prog.halts_bind.mp hx with hx | ⟨a, w1, evs, hx, hk⟩
    · exact hp hx
    · obtain ⟨own1, hover, hQ⟩ := hexec _ _ _ hx
      exact (hf a own1 hQ _ hover.owns).1 hk
  · intro evs b w' hx
    obtain ⟨a, w1, evs1, evs2, h1, h2, rfl⟩ := Prog.exec_bind.mp hx
    obtain ⟨own1, hover, hQ⟩ := hexec _ _ _ h1
    obtain ⟨own', hover', hQ'⟩ := (hf a own1 hQ _ hover.owns).2 _ _ _ h2
    exact ⟨own', hover.trans hover', hQ'⟩

theorem custody_mono {p : Prog C R α} {Q' : α → Multiset H → Prop} (h : hs.Custody p own Q)
    (hQ : ∀ a own', Q a own' → Q' a own') : hs.Custody p own Q' := by
  intro w ho
  refine ⟨(h w ho).1, fun evs a w' hx => ?_⟩
  obtain ⟨own', hover, hq⟩ := (h w ho).2 _ _ _ hx
  exact ⟨own', hover, hQ _ _ hq⟩

theorem custody_frame {p : Prog C R α} (others : Multiset H) (h : hs.Custody p own Q) :
    hs.Custody p (own + others) (fun a own' => ∃ own1, own' = own1 + others ∧ Q a own1) := by
  intro w ho
  refine ⟨(h w ho.left).1, fun evs a w' hx => ?_⟩
  obtain ⟨own', hover, hQ⟩ := (h w ho.left).2 _ _ _ hx
  exact ⟨own' + others, hover.frame ho, own', rfl, hQ⟩

/-! ## Methods -/

def Keeps (hs : Handles W C R H V) (m : Method C R E σ α) (s : σ) (own : Multiset H)
    (Q : Except E α → σ → Multiset H → Prop) : Prop :=
  hs.Custody (m s) own fun x own' => Q x.1 x.2 own'

section Methods

open Method

variable {m : Method C R E σ α} {f : α → Method C R E σ β} {s : σ}
  {Q : Except E α → σ → Multiset H → Prop} {Q' : Except E β → σ → Multiset H → Prop}

theorem keeps_pure {a : α} (h : Q (.ok a) s own) :
    hs.Keeps (pure a : Method C R E σ α) s own Q := custody_done h

theorem keeps_raise {e : E} (h : Q (.error e) s own) :
    hs.Keeps (raise e : Method C R E σ α) s own Q := custody_done h

theorem keeps_update {g : σ → σ} {Q : Except E Unit → σ → Multiset H → Prop}
    (h : Q (.ok ()) (g s) own) : hs.Keeps (update g : Method C R E σ Unit) s own Q :=
  custody_done h

theorem keeps_self_bind {f : σ → Method C R E σ β} (h : hs.Keeps (f s) s own Q') :
    hs.Keeps (self >>= f) s own Q' := h

theorem keeps_update_bind {g : σ → σ} {f : Unit → Method C R E σ β}
    (h : hs.Keeps (f ()) (g s) own Q') : hs.Keeps (update g >>= f) s own Q' := h

theorem keeps_issue_bind {c : C} {f : R → Method C R E σ β}
    (h : ∀ w r w1, hs.Owns w own → hs.env w c r w1 →
      ∃ own1, hs.Handover w own [⟨w, c, r⟩] w1 own1 ∧ hs.Keeps (f r) s own1 Q') :
    hs.Keeps (issue c >>= f) s own Q' := custody_call h

theorem keeps_ite {p : Prop} [Decidable p] {m n : Method C R E σ α}
    (hm : p → hs.Keeps m s own Q) (hn : ¬ p → hs.Keeps n s own Q) :
    hs.Keeps (if p then m else n) s own Q := by
  split
  · exact hm ‹_›
  · exact hn ‹_›

theorem keeps_bind (h : hs.Keeps m s own Q)
    (hf : ∀ a s' own', Q (.ok a) s' own' → hs.Keeps (f a) s' own' Q')
    (he : ∀ e s' own', Q (.error e) s' own' → Q' (.error e) s' own') :
    hs.Keeps (m >>= f) s own Q' := by
  refine custody_bind h fun x own' hQ => ?_
  obtain ⟨e | a, s'⟩ := x
  · exact custody_done (he e s' own' hQ)
  · exact hf a s' own' hQ

theorem keeps_ok_bind {a : α} {P : σ → Multiset H → Prop}
    (h : hs.Keeps m s own fun r s' own' => r = .ok a ∧ P s' own')
    (hf : ∀ s' own', P s' own' → hs.Keeps (f a) s' own' Q') : hs.Keeps (m >>= f) s own Q' := by
  refine keeps_bind h ?_ ?_
  · rintro a' s' own' ⟨hr, hP⟩
    obtain rfl : a' = a := Except.ok.inj hr
    exact hf s' own' hP
  · rintro e s' own' ⟨hr, -⟩
    exact absurd hr (by simp)

theorem keeps_bind_pure {P : σ → Multiset H → Prop} {g : α → β}
    (h : hs.Keeps m s own fun _ s' own' => P s' own') :
    hs.Keeps (m >>= fun a => pure (g a)) s own fun _ s' own' => P s' own' := by
  refine keeps_bind h ?_ ?_
  · intro a s' own' hP
    exact keeps_pure hP
  · intro e s' own' hP
    exact hP

theorem keeps_check_bind {p : Prop} [Decidable p] {e : E} {f : Unit → Method C R E σ β}
    (hp : Q' (.error e) s own) (hf : ¬ p → hs.Keeps (f ()) s own Q') :
    hs.Keeps ((if p then raise e else pure ()) >>= f) s own Q' := by
  split
  · exact custody_done hp
  · exact hf ‹_›

theorem keeps_mono {Q1 : Except E α → σ → Multiset H → Prop} (h : hs.Keeps m s own Q)
    (hQ : ∀ r s' own', Q r s' own' → Q1 r s' own') : hs.Keeps m s own Q1 :=
  custody_mono h fun x own' => hQ x.1 x.2 own'

theorem keeps_frame (others : Multiset H) (h : hs.Keeps m s own Q) :
    hs.Keeps m s (own + others) fun r s' own' => ∃ own1, own' = own1 + others ∧ Q r s' own1 :=
  custody_frame others h

theorem keeps_zoom {get : σ → τ} {set : τ → σ → σ} {m : Method C R E τ α}
    {Q : Except E α → τ → Multiset H → Prop} (h : hs.Keeps m (get s) own Q) :
    hs.Keeps (zoom get set m) s own fun r s' own' => ∃ t, s' = set t s ∧ Q r t own' := by
  refine custody_bind h fun x own' hQ => ?_
  exact custody_done ⟨x.2, rfl, hQ⟩

theorem keeps_onLocal {t : τ} {m : Method C R E τ Unit}
    {Q : Except E Unit → τ → Multiset H → Prop} (h : hs.Keeps m t own Q) :
    hs.Keeps (onLocal t m : Method C R E σ τ) s own fun r s' own' =>
      s' = s ∧ ∃ r0 t', r = r0.map (fun _ => t') ∧ Q r0 t' own' := by
  refine custody_bind h fun x own' hQ => ?_
  exact custody_done ⟨rfl, x.1, x.2, rfl, hQ⟩

def Destroys (hs : Handles W C R H V) (dtor : Method C R E τ Unit) (t : τ)
    (held : Multiset H) : Prop :=
  hs.Keeps dtor t held fun r _ own' => r = .ok () ∧ own' = 0

theorem custody_destroy {dtor : Method C R E τ Unit} {t : τ} {held others : Multiset H}
    (h : hs.Destroys dtor t held) :
    hs.Custody (destroy dtor t) (held + others) fun _ own' => own' = others := by
  refine custody_bind (custody_frame others h) fun x own' hQ => ?_
  obtain ⟨r, t'⟩ := x
  obtain ⟨_, rfl, rfl, rfl⟩ := hQ
  exact custody_done (zero_add others)

theorem keeps_unwinding {dtor : Method C R E τ Unit} {t : τ} {held : Multiset H}
    (hd : hs.Destroys dtor t held)
    (hm : hs.Keeps m s own fun r s' own' => match r with
      | .ok a => Q (.ok a) s' own'
      | .error e => ∃ own1, own' = held + own1 ∧ Q (.error e) s' own1) :
    hs.Keeps (unwinding dtor t m) s own Q := by
  refine custody_bind hm fun x own' hQ => ?_
  obtain ⟨e | a, s'⟩ := x
  · obtain ⟨own1, rfl, hQ⟩ := hQ
    refine custody_bind (custody_destroy hd) fun _ own' h => ?_
    exact custody_done (h ▸ hQ)
  · exact custody_done hQ

theorem keeps_withLocal {dtor : Method C R E τ Unit} {t : τ} {m : Method C R E (τ × σ) α}
    {held : τ → Multiset H} (hd : ∀ t', hs.Destroys dtor t' (held t'))
    (hm : hs.Keeps m (t, s) own fun r l own' =>
      ∃ own1, own' = held l.1 + own1 ∧ Q r l.2 own1) :
    hs.Keeps (withLocal dtor t m) s own Q := by
  refine custody_bind hm fun x own' hQ => ?_
  obtain ⟨r, t', s'⟩ := x
  obtain ⟨own1, rfl, hQ⟩ := hQ
  refine custody_bind (custody_destroy (hd t')) fun _ own' h => ?_
  exact custody_done (h ▸ hQ)

end Methods

end Handles

/-! ## Many owners -/

section Owners

variable {τ H : Type} {held : τ → Multiset H} {l : List τ} {i j : Nat} {x y : τ}

def heldBy (held : τ → Multiset H) (l : List τ) : Multiset H := (l.map held).sum

@[simp] theorem heldBy_nil : heldBy held [] = 0 := rfl

@[simp] theorem heldBy_append (l1 l2 : List τ) :
    heldBy held (l1 ++ l2) = heldBy held l1 + heldBy held l2 := by
  simp [heldBy]

@[simp] theorem heldBy_cons (x : τ) (l : List τ) : heldBy held (x :: l) = held x + heldBy held l := by
  simp [heldBy]

theorem heldBy_eq (h : l[i]? = some x) :
    heldBy held l = held x + heldBy held (l.eraseIdx i) := by
  induction l generalizing i with
  | nil => simp at h
  | cons z l ih =>
    cases i with
    | zero =>
      obtain rfl : z = x := by simpa using h
      exact heldBy_cons z l
    | succ i =>
      rw [List.eraseIdx_cons_succ, heldBy_cons, heldBy_cons, ih (by simpa using h),
        add_left_comm]

theorem heldBy_split (l : List τ) (i : Nat) :
    heldBy held l = (l[i]?).elim 0 held + heldBy held (l.eraseIdx i) := by
  cases h : l[i]? with
  | none => rw [List.eraseIdx_of_length_le (List.getElem?_eq_none_iff.mp h), Option.elim_none,
      zero_add]
  | some x => exact heldBy_eq h

theorem heldBy_set (h : l[i]? = some x) (y : τ) :
    heldBy held (l.set i y) = held y + heldBy held (l.eraseIdx i) := by
  obtain ⟨hi, -⟩ := List.getElem?_eq_some_iff.mp h
  rw [heldBy_eq (List.getElem?_set_self hi), List.eraseIdx_set_eq]

theorem mem_heldBy {a : H} : a ∈ heldBy held l ↔ ∃ (i : Nat) (x : τ), l[i]? = some x ∧ a ∈ held x := by
  constructor
  · intro h
    induction l with
    | nil => simp at h
    | cons z l ih =>
      rw [heldBy_cons, Multiset.mem_add] at h
      rcases h with h | h
      · exact ⟨0, z, rfl, h⟩
      · obtain ⟨i, x, hx, ha⟩ := ih h
        exact ⟨i + 1, x, by simpa using hx, ha⟩
  · rintro ⟨i, x, hx, ha⟩
    rw [heldBy_eq hx]
    exact Multiset.mem_add.mpr (.inl ha)

theorem one_holder {a : H} (hn : (heldBy held l).Nodup) (hi : l[i]? = some x)
    (hj : l[j]? = some y) (hx : a ∈ held x) (hy : a ∈ held y) : i = j := by
  by_contra hne
  rw [heldBy_eq hi] at hn
  have hdisj := (Multiset.nodup_add.mp hn).2.2
  refine Multiset.disjoint_left.mp hdisj hx (mem_heldBy.mpr ?_)
  obtain ⟨j', hj'⟩ := List.getElem?_of_mem
    (List.mem_eraseIdx_iff_getElem?.mpr ⟨j, Ne.symm hne, hj⟩)
  exact ⟨j', y, hj', hy⟩

end Owners
