import SocketInterface.Library.Ownership

/-!
# Blocks with local objects

A method stays when it leaves its object the owner of exactly the handles that it holds,
returning or throwing. Blocks put methods that stay together, and a local object gives back
what it holds at the end of its block.
-/

variable {W C R E H V α β σ τ : Type}

namespace Method

def onInner (m : Method C R E τ α) : Method C R E (τ × σ) α :=
  zoom Prod.fst (fun t l => (t, l.2)) m

def onOuter (m : Method C R E σ α) : Method C R E (τ × σ) α :=
  zoom Prod.snd (fun s l => (l.1, s)) m

end Method

namespace Handles

variable {hs : Handles W C R H V} {held : σ → Multiset H}

open Method

def Stays (hs : Handles W C R H V) (held : σ → Multiset H) (m : Method C R E σ α) : Prop :=
  ∀ s, hs.Keeps m s (held s) fun _ s' own' => own' = held s'

/-- The method makes an object that holds `made` of it, or throws. -/
def Makes (hs : Handles W C R H V) (held : σ → Multiset H) (made : τ → Multiset H)
    (m : Method C R E σ τ) : Prop :=
  ∀ s, hs.Keeps m s (held s) fun r s' own' => match r with
    | .ok t => own' = made t + held s'
    | .error _ => own' = held s'

variable {m : Method C R E σ α} {f : α → Method C R E σ β}

theorem stays_pure (a : α) : hs.Stays held (pure a : Method C R E σ α) := fun _ => keeps_pure rfl

theorem stays_raise (e : E) : hs.Stays held (raise e : Method C R E σ α) := fun _ => keeps_raise rfl

theorem stays_self : hs.Stays held (self : Method C R E σ σ) := fun _ => custody_done rfl

theorem stays_update {g : σ → σ} (hg : ∀ s, held s = held (g s)) :
    hs.Stays held (update g : Method C R E σ Unit) := fun s => keeps_update (hg s)

theorem stays_halt {h : Halt} (hne : h ≠ .terminated) :
    hs.Stays held (Method.halt h : Method C R E σ α) := fun _ => custody_halt hne

theorem stays_bind (hm : hs.Stays held m) (hf : ∀ a, hs.Stays held (f a)) :
    hs.Stays held (m >>= f) := by
  refine fun s => keeps_bind (hm s) ?_ fun _ _ _ h => h
  rintro a s' _ rfl
  exact hf a s'

theorem stays_zoom {get : σ → τ} {set : τ → σ → σ} {heldAt : τ → Multiset H}
    {others : σ → Multiset H} {m : Method C R E τ α}
    (hget : ∀ s, held s = heldAt (get s) + others s)
    (hset : ∀ t s, held (set t s) = heldAt t + others s) (hm : hs.Stays heldAt m) :
    hs.Stays held (zoom get set m) := by
  intro s
  rw [hget]
  refine keeps_mono (keeps_zoom (keeps_frame (others s) (hm (get s)))) ?_
  rintro r _ _ ⟨t, rfl, _, rfl, rfl⟩
  exact (hset t s).symm

/-- The other parts hold nothing. -/
theorem stays_member {get : σ → τ} {set : τ → σ → σ} {heldAt : τ → Multiset H}
    {m : Method C R E τ α} (hget : ∀ s, held s = heldAt (get s))
    (hset : ∀ t s, held (set t s) = heldAt t) (hm : hs.Stays heldAt m) :
    hs.Stays held (zoom get set m) :=
  stays_zoom (fun s => (hget s).trans (add_zero _).symm)
    (fun t s => (hset t s).trans (add_zero _).symm) hm

section Blocks

variable {heldAt : τ → Multiset H}

theorem stays_inner {m : Method C R E τ α} (hm : hs.Stays heldAt m) :
    hs.Stays (fun l => heldAt l.1 + held l.2) (onInner m : Method C R E (τ × σ) α) :=
  stays_zoom (fun _ => rfl) (fun _ _ => rfl) hm

theorem stays_outer (hm : hs.Stays held m) :
    hs.Stays (fun l => heldAt l.1 + held l.2) (onOuter m : Method C R E (τ × σ) α) :=
  stays_zoom (fun _ => add_comm ..) (fun _ _ => add_comm ..) hm

theorem makes_inner {made : β → Multiset H} {m : Method C R E τ β} (hm : hs.Makes heldAt made m) :
    hs.Makes (fun l => heldAt l.1 + held l.2) made (onInner m : Method C R E (τ × σ) β) := by
  intro s
  refine keeps_mono (keeps_zoom (keeps_frame (held s.2) (hm s.1))) ?_
  rintro (e | b) _ _ ⟨t, rfl, _, rfl, h⟩
  · exact congrArg (· + held s.2) h
  · exact (congrArg (· + held s.2) h).trans (add_assoc ..)

end Blocks

theorem stays_withVar {t : τ} {m : Method C R E (τ × σ) α}
    (hm : hs.Stays (fun l => held l.2) m) : hs.Stays held (withVar t m) := by
  refine fun s => custody_bind (hm (t, s)) fun x own' h => custody_done ?_
  exact h

theorem stays_doWhile {body : Method C R E σ Bool} (hbody : hs.Stays held body) (fuel : Nat) :
    hs.Stays held (doWhile body fuel) := by
  induction fuel with
  | zero => exact stays_halt (by simp)
  | succ fuel ih =>
    refine stays_bind hbody fun again => ?_
    cases again with
    | true => exact ih
    | false => exact stays_pure ()

theorem stays_scope {dtor : Method C R E τ Unit} {heldAt : τ → Multiset H}
    {make : Method C R E σ τ} {body : Method C R E (τ × σ) α} (hmake : hs.Makes held heldAt make)
    (hd : ∀ t, hs.Destroys dtor t (heldAt t))
    (hbody : hs.Stays (fun l => heldAt l.1 + held l.2) body) :
    hs.Stays held (make >>= fun t => withLocal dtor t body) := by
  refine fun s => keeps_bind (hmake s) ?_ fun _ _ _ h => h
  rintro t s' _ rfl
  refine keeps_withLocal hd (keeps_mono (hbody (t, s')) ?_)
  rintro r l _ rfl
  exact ⟨held l.2, rfl, rfl⟩

end Handles
