import SocketInterface.Library.Method

/-!
# Failures and what is thrown for them

Some replies are failures, and each failure has its exception. A method is candid when it
throws for every failure the exception of this failure, and for nothing else any of them.
-/

variable {C R E σ τ α β : Type}

/-- What is thrown for a reply that is a failure, and what may be thrown without a failure. -/
structure Blame (C R E : Type) where
  of : C → R → Option E
  own : E → Prop

namespace Blame

variable (blame : Blame C R E)

def failures {W : Type} (evs : List (Prog.Event W C R)) : List E :=
  evs.filterMap fun e => blame.of e.call e.reply

/-- In every run, on whatever system, the result fits the failures. -/
def Records (Q : α → List E → Prop) (p : Prog C R α) : Prop :=
  ∀ ⦃W : Type⦄ ⦃env : W → C → R → W → Prop⦄ ⦃w w' : W⦄ ⦃evs : List (Prog.Event W C R)⦄
    ⦃a : α⦄, Prog.Exec env p w evs a w' → Q a (blame.failures evs)

def Told (failures : List E) : Except E α → Prop
  | .ok _ => failures = []
  | .error e => failures = [e] ∨ (failures = [] ∧ blame.own e)

def Candid (m : Method C R E σ α) : Prop :=
  ∀ s, blame.Records (fun x failures => blame.Told failures x.1) (m s)

variable {blame}

@[simp] theorem failures_append {W : Type} (evs evs' : List (Prog.Event W C R)) :
    blame.failures (evs ++ evs') = blame.failures evs ++ blame.failures evs' :=
  List.filterMap_append

theorem failures_cons {W : Type} (e : Prog.Event W C R) (evs : List (Prog.Event W C R)) :
    blame.failures (e :: evs) = (blame.of e.call e.reply).toList ++ blame.failures evs := by
  unfold failures
  rw [List.filterMap_cons]
  cases blame.of e.call e.reply <;> rfl

/-! ## Programs -/

section Programs

variable {Q : α → List E → Prop} {Q' : β → List E → Prop} {p : Prog C R α}

theorem records_done {a : α} (h : Q a []) : blame.Records Q (.done a) := by
  intro W env w w' evs b hx
  obtain ⟨rfl, rfl, -⟩ := Prog.exec_done.mp hx
  exact h

theorem records_halt (h : Halt) : blame.Records Q (.halt h) :=
  fun _ _ _ _ _ _ hx => absurd hx Prog.exec_halt

theorem records_call {c : C} {k : R → Prog C R α}
    (h : ∀ r, blame.Records (fun a failures => Q a ((blame.of c r).toList ++ failures)) (k r)) :
    blame.Records Q (.call c k) := by
  intro W env w w' evs a hx
  obtain ⟨r, w1, evs1, -, hrest, rfl⟩ := Prog.exec_call.mp hx
  rw [failures_cons]
  exact h r hrest

theorem records_bind {f : α → Prog C R β} (h : blame.Records Q p)
    (hf : ∀ a failures, Q a failures →
      blame.Records (fun b failures' => Q' b (failures ++ failures')) (f a)) :
    blame.Records Q' (p.bind f) := by
  intro W env w w' evs b hx
  obtain ⟨a, w1, evs1, evs2, h1, h2, rfl⟩ := Prog.exec_bind.mp hx
  rw [failures_append]
  exact hf a _ (h h1) h2

theorem records_map {g : α → β} (h : blame.Records (fun a => Q' (g a)) p) :
    blame.Records Q' (p.map g) :=
  records_bind h fun a failures hQ => records_done (by rwa [List.append_nil])

theorem Records.mono {Q1 : α → List E → Prop} (h : blame.Records Q p)
    (hQ : ∀ a failures, Q a failures → Q1 a failures) : blame.Records Q1 p :=
  fun _ _ _ _ _ _ hx => hQ _ _ (h hx)

end Programs

/-! ## Methods -/

section Methods

open Method

variable {m : Method C R E σ α} {f : α → Method C R E σ β}

theorem candid_pure (a : α) : blame.Candid (pure a : Method C R E σ α) :=
  fun _ => records_done rfl

theorem candid_raise {e : E} (he : blame.own e) : blame.Candid (raise e : Method C R E σ α) :=
  fun _ => records_done (.inr ⟨rfl, he⟩)

theorem candid_update (g : σ → σ) : blame.Candid (update g : Method C R E σ Unit) :=
  fun _ => records_done rfl

theorem candid_bind (hm : blame.Candid m) (hf : ∀ a, blame.Candid (f a)) :
    blame.Candid (m >>= f) := by
  refine fun s => records_bind (hm s) ?_
  rintro ⟨e | a, s'⟩ failures h
  · exact records_done (by rwa [List.append_nil])
  · obtain rfl : failures = [] := h
    exact hf a s'

/-- A destructor that fails ends the program: what is left of the runs saw no failure in it. -/
theorem records_destroy {dtor : Method C R E τ Unit} (hd : blame.Candid dtor) (t : τ) :
    blame.Records (fun _ failures => failures = []) (destroy dtor t) := by
  refine records_bind (hd t) ?_
  rintro ⟨e | _, t'⟩ failures h
  · exact records_halt _
  · obtain rfl : failures = [] := h
    exact records_done rfl

theorem candid_unwinding {dtor : Method C R E τ Unit} (hd : blame.Candid dtor) {t : τ}
    (hm : blame.Candid m) : blame.Candid (unwinding dtor t m) := by
  refine fun s => records_bind (hm s) ?_
  rintro ⟨e | a, s'⟩ failures h
  · refine records_bind (records_destroy hd t) fun _ failures' h' => ?_
    subst h'
    exact records_done (by simpa using h)
  · exact records_done (by rwa [List.append_nil])

end Methods

end Blame
