import SocketInterface.Library.Blame

/-!
# How many failures it takes to end a program

A destructor that throws terminates the program. A method is hardy when no single failure
does that: what it throws is told by its failures, and a second one is needed to end it.
-/

variable {C R E σ τ α β : Type}

/-! ## The halts of a program as results -/

namespace Prog

def caught : Prog C R α → Prog C R (Except Halt α)
  | done a => done (.ok a)
  | call c k => call c fun r => (k r).caught
  | halt h => done (.error h)

theorem caught_bind (p : Prog C R α) (f : α → Prog C R β) : (p.bind f).caught =
    p.caught.bind fun
      | .ok a => (f a).caught
      | .error h => done (.error h) := by
  induction p with
  | done a => rfl
  | call c k ih => exact congrArg (call c) (funext ih)
  | halt h => rfl

variable {W : Type} {env : W → C → R → W → Prop} {p : Prog C R α} {w w' : W}
  {evs : List (Event W C R)} {a : α}

theorem exec_caught : Exec env p.caught w evs (.ok a) w' ↔ Exec env p w evs a w' := by
  induction p generalizing w evs with
  | done b => simp [caught]
  | call c k ih => simp [caught, exec_call, ih]
  | halt h => simp [caught]

theorem exec_caught_bind {f : α → Prog C R β} {h : Halt} :
    Exec env (p.bind f).caught w evs (.error h) w' ↔ Exec env p.caught w evs (.error h) w' ∨
      ∃ a w1 evs1 evs2, Exec env p w evs1 a w1 ∧
        Exec env (f a).caught w1 evs2 (.error h) w' ∧ evs = evs1 ++ evs2 := by
  rw [caught_bind, exec_bind]
  constructor
  · rintro ⟨h' | a, w1, evs1, evs2, h1, h2, rfl⟩
    · obtain ⟨rfl, heq, rfl⟩ := exec_done.mp h2
      rw [Except.error.inj heq, List.append_nil]
      exact .inl h1
    · exact .inr ⟨a, w1, evs1, evs2, exec_caught.mp h1, h2, rfl⟩
  · rintro (h1 | ⟨a, w1, evs1, evs2, h1, h2, rfl⟩)
    · exact ⟨.error h, w', evs, [], h1, .done _ _, (List.append_nil _).symm⟩
    · exact ⟨.ok a, w1, evs1, evs2, exec_caught.mpr h1, h2, rfl⟩

end Prog

/-! ## Programs -/

namespace Blame

variable (blame : Blame C R E)

/-- In every run, on whatever system, the failures fit the result, or fit that the program was
terminated. -/
def Fares (Q : α → List E → Prop) (T : List E → Prop) (p : Prog C R α) : Prop :=
  blame.Records (fun x failures => match x with
    | .ok a => Q a failures
    | .error .terminated => T failures
    | .error _ => True) p.caught

variable {blame} {Q : α → List E → Prop} {Q' : β → List E → Prop} {T : List E → Prop}
  {p : Prog C R α}

theorem fares_done {a : α} (h : Q a []) : blame.Fares Q T (.done a) := records_done h

theorem fares_halt {h : Halt} (hT : h = .terminated → T []) : blame.Fares Q T (.halt h) := by
  refine records_done ?_
  cases h with
  | terminated => exact hT rfl
  | aborted | undefined | outOfFuel => trivial

theorem fares_call {c : C} {k : R → Prog C R α}
    (h : ∀ r, blame.Fares (fun a failures => Q a ((blame.of c r).toList ++ failures))
      (fun failures => T ((blame.of c r).toList ++ failures)) (k r)) :
    blame.Fares Q T (.call c k) := by
  refine records_call fun r => Records.mono (h r) ?_
  rintro (_ | _) failures hx <;> exact hx

theorem fares_bind {f : α → Prog C R β} (h : blame.Fares Q T p)
    (hf : ∀ a failures, Q a failures → blame.Fares (fun b failures' => Q' b (failures ++ failures'))
      (fun failures' => T (failures ++ failures')) (f a)) : blame.Fares Q' T (p.bind f) := by
  unfold Fares
  rw [Prog.caught_bind]
  refine records_bind h ?_
  rintro (h | a) failures hQ
  · refine records_done ?_
    rw [List.append_nil]
    cases h <;> exact hQ
  · exact hf a failures hQ

theorem fares_map {g : α → β} (h : blame.Fares (fun a => Q' (g a)) T p) :
    blame.Fares Q' T (p.map g) := by
  refine fares_bind h fun a failures hQ => fares_done ?_
  rwa [List.append_nil]

theorem Fares.mono {Q1 : α → List E → Prop} {T1 : List E → Prop} (h : blame.Fares Q T p)
    (hQ : ∀ a failures, Q a failures → Q1 a failures) (hT : ∀ failures, T failures → T1 failures) :
    blame.Fares Q1 T1 p := by
  refine Records.mono h ?_
  rintro (h | a) failures hx
  · cases h with
    | terminated => exact hT _ hx
    | aborted | undefined | outOfFuel => trivial
  · exact hQ _ _ hx

theorem Fares.records (h : blame.Fares Q T p) : blame.Records Q p :=
  fun _ _ _ _ _ _ hx => h (Prog.exec_caught.mpr hx)

/-! ## Methods -/

section Methods

open Method

variable (blame)

/-- The method throws what its failures tell, and only two of them terminate it. When it returns,
its object meets `P`. -/
def Bears (m : Method C R E σ α) (s : σ) (P : σ → Prop) : Prop :=
  blame.Fares (fun x failures => blame.Told failures x.1 ∧ ∀ a, x.1 = .ok a → P x.2)
    (fun failures => 2 ≤ failures.length) (m s)

def Hardy (m : Method C R E σ α) : Prop := ∀ s, blame.Bears m s fun _ => True

def strict : Blame C R E := ⟨blame.of, fun _ => False⟩

variable {blame} {m : Method C R E σ α} {f : α → Method C R E σ β} {s : σ} {P P' : σ → Prop}

theorem told_strict {failures : List E} {r : Except E α} :
    blame.strict.Told failures r ↔ match r with
      | .ok _ => failures = []
      | .error e => failures = [e] := by
  cases r <;> simp [Told, strict]

theorem fares_strict {Q : α → List E → Prop} {T : List E → Prop} {p : Prog C R α} :
    blame.strict.Fares Q T p ↔ blame.Fares Q T p := Iff.rfl

theorem Bears.relax (h : blame.strict.Bears m s P) : blame.Bears m s P := by
  intro W env w w' evs x hx
  have hrec := h hx
  rcases x with h | ⟨e | a, s'⟩
  · cases h <;> exact hrec
  · exact ⟨.inl (told_strict.mp hrec.1), hrec.2⟩
  · exact hrec

theorem Bears.weaken (h : blame.Bears m s P) (hP : ∀ s, P s → P' s) : blame.Bears m s P' :=
  Fares.mono h (fun _ _ hx => ⟨hx.1, fun a ha => hP _ (hx.2 a ha)⟩) fun _ => id

theorem Hardy.relax (h : blame.strict.Hardy m) : blame.Hardy m := fun s => (h s).relax

theorem Hardy.candid (h : blame.Hardy m) : blame.Candid m :=
  fun s => ((h s).mono (fun _ _ hx => hx.1) fun _ => id).records

theorem bears_pure {a : α} (h : P s) : blame.Bears (pure a : Method C R E σ α) s P :=
  fares_done ⟨rfl, fun _ _ => h⟩

theorem bears_update {g : σ → σ} (h : P (g s)) :
    blame.Bears (update g : Method C R E σ Unit) s P :=
  fares_done ⟨rfl, fun _ _ => h⟩

theorem bears_self_bind {f : σ → Method C R E σ α} (h : blame.Bears (f s) s P) :
    blame.Bears (self >>= f) s P := h

theorem bears_bind (hm : blame.Bears m s P) (hf : ∀ a s', P s' → blame.Bears (f a) s' P') :
    blame.Bears (m >>= f) s P' := by
  refine fares_bind hm ?_
  rintro ⟨e | a, s'⟩ failures ⟨h, hP⟩
  · refine fares_done ⟨?_, by simp⟩
    rwa [List.append_nil]
  · obtain rfl : failures = [] := h
    exact hf a s' (hP a rfl)

theorem hardy_pure (a : α) : blame.Hardy (pure a : Method C R E σ α) := fun _ => bears_pure trivial

theorem hardy_raise {e : E} (he : blame.own e) : blame.Hardy (raise e : Method C R E σ α) :=
  fun _ => fares_done ⟨.inr ⟨rfl, he⟩, by simp⟩

theorem hardy_self : blame.Hardy (self : Method C R E σ σ) :=
  fun _ => fares_done ⟨rfl, fun _ _ => trivial⟩

theorem hardy_update (g : σ → σ) : blame.Hardy (update g : Method C R E σ Unit) :=
  fun _ => bears_update trivial

theorem hardy_halt {h : Halt} (hne : h ≠ .terminated) :
    blame.Hardy (Method.halt h : Method C R E σ α) := fun _ => fares_halt fun h => absurd h hne

theorem hardy_bind (hm : blame.Hardy m) (hf : ∀ a, blame.Hardy (f a)) : blame.Hardy (m >>= f) :=
  fun s => bears_bind (hm s) fun a s' _ => hf a s'

theorem hardy_issue {c : C} {f : R → Method C R E σ α}
    (hfail : ∀ r e, blame.of c r = some e → f r = raise e)
    (hf : ∀ r, blame.of c r = none → blame.Hardy (f r)) : blame.Hardy (issue c >>= f) := by
  refine fun s => fares_call fun r => ?_
  cases hr : blame.of c r with
  | some e =>
    show blame.Fares _ _ (f r s)
    rw [hfail r e hr]
    exact fares_done ⟨.inl rfl, by simp⟩
  | none => exact hf r hr s

theorem bears_zoom {get : σ → τ} {set : τ → σ → σ} {m : Method C R E τ α}
    (hm : blame.Bears m (get s) fun t => P (set t s)) : blame.Bears (zoom get set m) s P :=
  fares_map hm

theorem hardy_zoom {get : σ → τ} {set : τ → σ → σ} {m : Method C R E τ α}
    (hm : blame.Hardy m) : blame.Hardy (zoom get set m) := fun s => bears_zoom (hm (get s))

theorem hardy_onLocal {t : τ} {m : Method C R E τ Unit} (hm : blame.Hardy m) :
    blame.Hardy (onLocal t m : Method C R E σ τ) := by
  refine fun s => fares_map ((hm t).mono ?_ fun _ => id)
  rintro ⟨_ | _, _⟩ failures ⟨h, -⟩ <;> exact ⟨h, fun _ _ => trivial⟩

theorem hardy_withVar {t : τ} {m : Method C R E (τ × σ) α} (hm : blame.Hardy m) :
    blame.Hardy (withVar t m) :=
  fun s => fares_map ((hm (t, s)).mono (fun _ _ h => ⟨h.1, fun _ _ => trivial⟩) fun _ => id)

theorem hardy_doWhile {body : Method C R E σ Bool} (hm : blame.Hardy body) (fuel : Nat) :
    blame.Hardy (doWhile body fuel) := by
  induction fuel with
  | zero => exact hardy_halt (by decide)
  | succ fuel ih =>
    refine hardy_bind hm fun again => ?_
    cases again with
    | true => exact ih
    | false => exact hardy_pure ()

/-! ## Destructors -/

variable {dtor : Method C R E τ Unit} {t : τ}

/-- One failure in a destructor is enough. -/
theorem fares_destroy (hd : blame.strict.Hardy dtor) (t : τ) : blame.strict.Fares
    (fun _ failures => failures = []) (fun failures => failures ≠ []) (destroy dtor t) := by
  have hdtor : blame.strict.Fares (fun x failures => blame.strict.Told failures x.1)
      (fun failures => failures ≠ []) (dtor t) :=
    (hd t).mono (fun _ _ h => h.1) fun failures h => List.ne_nil_of_length_pos (by omega)
  refine fares_bind hdtor ?_
  rintro ⟨e | _, t'⟩ failures h
  · obtain rfl : failures = [e] := told_strict.mp h
    exact fares_halt fun _ => by simp
  · obtain rfl : failures = [] := h
    exact fares_done rfl

/-- After a failure that is thrown, the destructor needs one more to terminate the program. -/
theorem fares_destroy_thrown {e : E} {b : β} {Q : β → List E → Prop}
    (hd : blame.strict.Hardy dtor) (h : Q b []) : blame.strict.Fares Q
      (fun failures => 2 ≤ ([e] ++ failures).length)
      ((destroy dtor t).bind fun _ => .done b) := by
  have hlength : ∀ failures : List E, failures ≠ [] → 2 ≤ ([e] ++ failures).length := by
    intro failures h
    have := List.length_pos_iff.mpr h
    rw [List.length_append, List.length_singleton]
    omega
  have hdtor := (fares_destroy hd t).mono (fun _ _ h => h) hlength
  refine fares_bind hdtor ?_
  rintro _ _ rfl
  exact fares_done h

theorem hardy_unwinding (hd : blame.strict.Hardy dtor) (hm : blame.strict.Hardy m) :
    blame.strict.Hardy (unwinding dtor t m) := by
  refine fun s => fares_bind (hm s) ?_
  rintro ⟨e | a, s'⟩ failures ⟨h, -⟩
  · obtain rfl : failures = [e] := told_strict.mp h
    exact fares_destroy_thrown hd ⟨h, by simp⟩
  · obtain rfl : failures = [] := h
    exact fares_done ⟨rfl, fun _ _ => trivial⟩

theorem bears_withLocal (hd : blame.strict.Hardy dtor) {Empty : τ → Prop}
    (hempty : ∀ t, Empty t → destroy dtor t = .done ()) {m : Method C R E (τ × σ) α}
    (hm : blame.strict.Bears m (t, s) fun x => Empty x.1 ∧ P x.2) :
    blame.strict.Bears (withLocal dtor t m) s P := by
  refine fares_bind hm ?_
  rintro ⟨e | a, t', s'⟩ failures ⟨h, hP⟩
  · obtain rfl : failures = [e] := told_strict.mp h
    exact fares_destroy_thrown hd ⟨h, by simp⟩
  · obtain rfl : failures = [] := h
    dsimp only
    rw [hempty t' (hP a rfl).1]
    exact fares_done ⟨rfl, fun _ _ => (hP a rfl).2⟩

end Methods

end Blame
