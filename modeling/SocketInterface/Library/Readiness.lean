import SocketInterface.Library.Method

/-!
# Systems that are not always ready

A system that is not ready answers a call with a failure, and does nothing. A program that
ends with an exception at the first failure comes to the end it has on a system that is
always ready exactly when no call meets a system that is not.
-/

namespace Prog

variable {W C R α β : Type}

/-- Answers the `i`-th call as `env` does when `ready i`, else with a reply that is `busy`. -/
inductive WhenReady (env : W → C → R → W → Prop) (busy : C → R → Prop) (ready : Nat → Bool) :
    W × Nat → C → R → W × Nat → Prop
  | answered {w w' i c r} (hi : ready i = true) (h : env w c r w') :
      WhenReady env busy ready (w, i) c r (w', i + 1)
  | notReady {w i c r} (hi : ready i = false) (h : busy c r) :
      WhenReady env busy ready (w, i) c r (w, i + 1)

def AllReady (ready : Nat → Bool) (evs : List (Event (W × Nat) C R)) : Prop :=
  ∀ e ∈ evs, ready e.before.2 = true

/-- All calls are of the kind `own`. One that failed is the last: the program ends with a value
that tells. -/
inductive Loud (own : C → Prop) (failed : R → Prop) (tells : α → Prop) : Prog C R α → Prop
  | done {a} (h : ¬ tells a) : Loud own failed tells (.done a)
  | call {c k} (hc : own c) (hfail : ∀ r, failed r → ∃ a, k r = .done a ∧ tells a)
      (h : ∀ r, ¬ failed r → Loud own failed tells (k r)) : Loud own failed tells (.call c k)
  | halt (h : Halt) : Loud own failed tells (.halt h)

variable {env : W → C → R → W → Prop} {busy : C → R → Prop} {ready : Nat → Bool}
  {own : C → Prop} {failed : R → Prop} {tells : α → Prop} {tells' : β → Prop} {p : Prog C R α}

theorem Loud.bind {f : α → Prog C R β} (h : Loud own failed tells p)
    (htold : ∀ a, tells a → ∃ b, f a = .done b ∧ tells' b)
    (hf : ∀ a, ¬ tells a → Loud own failed tells' (f a)) : Loud own failed tells' (p.bind f) := by
  induction h with
  | done h => exact hf _ h
  | halt h => exact .halt h
  | call hc hfail _ ih =>
    refine .call hc (fun r hr => ?_) ih
    obtain ⟨a, ha, ht⟩ := hfail r hr
    rw [ha]
    exact htold a ht

section Ready

theorem exec_of_allReady {x x' : W × Nat} {evs : List (Event (W × Nat) C R)} {a : α}
    (hx : Exec (WhenReady env busy ready) p x evs a x') (h : AllReady ready evs) :
    ∃ evs', Exec env p x.1 evs' a x'.1 := by
  induction hx with
  | done => exact ⟨[], .done _ _⟩
  | call hr _ ih =>
    obtain ⟨hi, hrest⟩ := List.forall_mem_cons.mp h
    cases hr with
    | answered _ ha =>
      obtain ⟨evs', hx'⟩ := ih hrest
      exact ⟨_, .call ha hx'⟩
    | notReady hnot _ =>
      rw [hi] at hnot
      exact absurd hnot (by simp)

variable (henv : ∀ w c r w', env w c r w' → ¬ failed r) (hbusy : ∀ c r, busy c r → failed r)

include henv hbusy

/-- A loud program tells exactly of the runs in which the system was not ready. -/
theorem Loud.allReady_iff (h : Loud own failed tells p) {x x' : W × Nat}
    {evs : List (Event (W × Nat) C R)} {a : α}
    (hx : Exec (WhenReady env busy ready) p x evs a x') : AllReady ready evs ↔ ¬ tells a := by
  induction hx with
  | done =>
    cases h with
    | done h => exact iff_of_true (by simp [AllReady]) h
  | call hr hx ih =>
    cases h with
    | call hc hfail h =>
      cases hr with
      | answered hi ha =>
        rw [← ih (h _ (henv _ _ _ _ ha))]
        simp [AllReady, hi]
      | notReady hi hb =>
        obtain ⟨b, hk, ht⟩ := hfail _ (hbusy _ _ hb)
        rw [hk] at hx
        obtain ⟨-, rfl, -⟩ := exec_done.mp hx
        simp [AllReady, hi, ht]

omit hbusy in
theorem Loud.not_tells (h : Loud own failed tells p) {w w' : W} {evs : List (Event W C R)} {a : α}
    (hx : Exec env p w evs a w') : ¬ tells a := by
  induction hx with
  | done =>
    cases h with
    | done h => exact h
  | call hr _ ih =>
    cases h with
    | call hc hfail h => exact ih (h _ (henv _ _ _ _ hr))

omit henv in
theorem Loud.returns {Q : α → W → Prop} {w : W} (h : Loud own failed tells p)
    (hlive : ∀ c, own c → ∃ r, busy c r) (hret : Returns env Q p w) (i : Nat) :
    Returns (WhenReady env busy ready) (fun _ _ => True) p (w, i) := by
  induction hret generalizing i with
  | done => exact .done trivial
  | @call c k w hans hk ih =>
    cases h with
    | call hc hfail h =>
      refine .call ?_ fun r x hr => ?_
      · obtain ⟨r, w', ha⟩ := hans
        cases hi : ready i with
        | true => exact ⟨r, _, .answered hi ha⟩
        | false =>
          obtain ⟨r', hb⟩ := hlive _ hc
          exact ⟨r', _, .notReady hi hb⟩
      · cases hr with
        | answered _ ha =>
          by_cases hf : failed r
          · obtain ⟨a, hk', -⟩ := hfail r hf
            rw [hk']
            exact .done trivial
          · exact ih r _ ha (h r hf) (i + 1)
        | notReady _ hb =>
          obtain ⟨a, hk', -⟩ := hfail r (hbusy _ _ hb)
          rw [hk']
          exact .done trivial

end Ready

end Prog

/-! ## Methods -/

namespace Method

variable {C R E σ τ α β : Type} {own : C → Prop} {failed : R → Prop} {thrown : E → Prop} {s : σ}

def Throws (thrown : E → Prop) (x : Except E α × σ) : Prop := ∃ e, x.1 = .error e ∧ thrown e

/-- A call that failed makes the method throw at once, and nothing else makes it throw so. -/
def Loud (own : C → Prop) (failed : R → Prop) (thrown : E → Prop) (m : Method C R E σ α) (s : σ) : Prop :=
  Prog.Loud own failed (Throws thrown) (m s)

variable {m : Method C R E σ α} {f : α → Method C R E σ β}

theorem loud_pure {a : α} : Loud own failed thrown (pure a : Method C R E σ α) s :=
  .done (by simp [Throws])

theorem loud_update {g : σ → σ} : Loud own failed thrown (update g : Method C R E σ Unit) s :=
  .done (by simp [Throws])

theorem loud_raise {e : E} (h : ¬ thrown e) :
    Loud own failed thrown (raise e : Method C R E σ α) s := .done (by simpa [Throws] using h)

theorem loud_halt (h : Halt) : Loud own failed thrown (halt h : Method C R E σ α) s := .halt h

theorem loud_self_bind {f : σ → Method C R E σ β} (h : Loud own failed thrown (f s) s) :
    Loud own failed thrown (self >>= f) s := h

theorem loud_update_bind {g : σ → σ} {f : Unit → Method C R E σ β}
    (h : Loud own failed thrown (f ()) (g s)) : Loud own failed thrown (update g >>= f) s := h

theorem loud_issue_bind {c : C} {f : R → Method C R E σ β} (hc : own c)
    (hfail : ∀ r, failed r → ∃ e, f r = raise e ∧ thrown e)
    (h : ∀ r, ¬ failed r → Loud own failed thrown (f r) s) :
    Loud own failed thrown (issue c >>= f) s := by
  refine .call hc (fun r hr => ?_) h
  obtain ⟨e, he, ht⟩ := hfail r hr
  refine ⟨(.error e, s), ?_, e, rfl, ht⟩
  rw [Prog.done_bind]
  exact congrFun he s

theorem loud_ite {p : Prop} [Decidable p] {m n : Method C R E σ α}
    (hm : p → Loud own failed thrown m s) (hn : ¬ p → Loud own failed thrown n s) :
    Loud own failed thrown (if p then m else n) s := by
  split
  · exact hm ‹_›
  · exact hn ‹_›

theorem loud_bind (h : Loud own failed thrown m s) (hf : ∀ a s', Loud own failed thrown (f a) s') :
    Loud own failed thrown (m >>= f) s := by
  refine Prog.Loud.bind h ?_ ?_
  · rintro ⟨_, s'⟩ ⟨e, rfl, ht⟩
    exact ⟨_, rfl, e, rfl, ht⟩
  · rintro ⟨e | a, s'⟩ ht
    · refine .done ?_
      rintro ⟨e', he, ht'⟩
      cases he
      exact ht ⟨e, rfl, ht'⟩
    · exact hf a s'

theorem loud_check_bind {p : Prop} [Decidable p] {e : E} {f : Unit → Method C R E σ β}
    (he : ¬ thrown e) (hf : Loud own failed thrown (f ()) s) :
    Loud own failed thrown ((if p then raise e else pure ()) >>= f) s := by
  split
  · exact loud_raise he
  · exact hf

theorem loud_zoom {get : σ → τ} {set : τ → σ → σ} {m : Method C R E τ α}
    (h : Loud own failed thrown m (get s)) : Loud own failed thrown (zoom get set m) s := by
  refine Prog.Loud.bind h ?_ ?_
  · rintro ⟨_, t⟩ ⟨e, rfl, ht⟩
    exact ⟨_, rfl, e, rfl, ht⟩
  · rintro ⟨r, t⟩ ht
    exact .done fun ⟨e, he, ht'⟩ => ht ⟨e, he, ht'⟩

theorem loud_withVar {t : τ} {m : Method C R E (τ × σ) α} (h : Loud own failed thrown m (t, s)) :
    Loud own failed thrown (withVar t m) s := by
  refine Prog.Loud.bind h ?_ ?_
  · rintro ⟨_, l⟩ ⟨e, rfl, ht⟩
    exact ⟨_, rfl, e, rfl, ht⟩
  · rintro ⟨r, l⟩ ht
    exact .done fun ⟨e, he, ht'⟩ => ht ⟨e, he, ht'⟩

theorem loud_doWhile {body : Method C R E σ Bool} (h : ∀ s, Loud own failed thrown body s)
    (fuel : Nat) (s : σ) : Loud own failed thrown (doWhile body fuel) s := by
  induction fuel generalizing s with
  | zero => exact loud_halt _
  | succ fuel ih =>
    refine loud_bind (h s) fun again s' => ?_
    cases again
    · exact loud_pure
    · exact ih s'

end Method
