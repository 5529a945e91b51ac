import SocketInterface.Library.Program

/-!
# Methods: programs over the members of an object

A method reads and writes a state, issues calls, and may throw. The writes made
before a throw stay. `zoom` runs a method of a member, `unwinding` and `withLocal`
run the destructor of a local object.
-/

def Method (C R E σ α : Type) : Type := σ → Prog C R (Except E α × σ)

namespace Method

variable {C R E σ τ α β : Type}

instance : Monad (Method C R E σ) where
  pure a := fun s => .done (.ok a, s)
  bind m f := fun s => (m s).bind fun
    | (.ok a, s') => f a s'
    | (.error e, s') => .done (.error e, s')

def raise (e : E) : Method C R E σ α := fun s => .done (.error e, s)

def self : Method C R E σ σ := fun s => .done (.ok s, s)

def update (f : σ → σ) : Method C R E σ Unit := fun s => .done (.ok (), f s)

def issue (c : C) : Method C R E σ R := fun s => .call c fun r => .done (.ok r, s)

def halt (h : Halt) : Method C R E σ α := fun _ => .halt h

/-- Runs a method of the member that `get` reads and `set` writes. -/
def zoom (get : σ → τ) (set : τ → σ → σ) (m : Method C R E τ α) : Method C R E σ α :=
  fun s => (m (get s)).map fun (r, t) => (r, set t s)

/-- A destructor may not throw: the program is terminated when `dtor` does. -/
def destroy (dtor : Method C R E τ Unit) (t : τ) : Prog C R Unit :=
  (dtor t).bind fun
    | (.ok _, _) => .done ()
    | (.error _, _) => .halt .terminated

/-- A local object `t` that is given to the caller, and destroyed when `m` throws. -/
def unwinding (dtor : Method C R E τ Unit) (t : τ) (m : Method C R E σ α) : Method C R E σ α :=
  fun s => (m s).bind fun
    | (.ok a, s') => .done (.ok a, s')
    | (.error e, s') => (destroy dtor t).bind fun _ => .done (.error e, s')

/-- A local object of the block `m`, which may change it. It is destroyed in both cases. -/
def withLocal (dtor : Method C R E τ Unit) (t : τ) (m : Method C R E (τ × σ) α) :
    Method C R E σ α :=
  fun s => (m (t, s)).bind fun (r, t', s') => (destroy dtor t').bind fun _ => .done (r, s')

def onLocal (t : τ) (m : Method C R E τ Unit) : Method C R E σ τ :=
  fun s => (m t).map fun (r, t') => (r.map fun _ => t', s)

def withVar (t : τ) (m : Method C R E (τ × σ) α) : Method C R E σ α :=
  fun s => (m (t, s)).map fun (r, _, s') => (r, s')

/-- `do { body } while (..)`: `body` says whether to go on. -/
def doWhile (body : Method C R E σ Bool) : Nat → Method C R E σ Unit
  | 0 => halt .outOfFuel
  | fuel + 1 => do
    if ← body then doWhile body fuel

theorem bind_apply (m : Method C R E σ α) (f : α → Method C R E σ β) (s : σ) :
    (m >>= f) s = (m s).bind fun
      | (.ok a, s') => f a s'
      | (.error e, s') => .done (.error e, s') := rfl

theorem zoom_bind {get : σ → τ} {set : τ → σ → σ} (hget : ∀ t s, get (set t s) = t)
    (hset : ∀ t t' s, set t' (set t s) = set t' s) (m : Method C R E τ α)
    (f : α → Method C R E τ β) :
    zoom get set (m >>= f) = zoom get set m >>= fun a => zoom get set (f a) := by
  funext s
  show ((m (get s)).bind _).bind _ = ((m (get s)).bind _).bind _
  rw [Prog.bind_assoc, Prog.bind_assoc]
  congr
  funext ⟨r, t⟩
  cases r with
  | ok a => simp only [Prog.done_bind, zoom, hget, hset, Prog.map]
  | error e => rfl

theorem self_bind_apply (f : σ → Method C R E σ α) (s : σ) : (self >>= f) s = f s s := rfl

/-! ## Runs -/

variable {W : Type} {env : W → C → R → W → Prop}

variable (env) in
/-- The method takes the object `s` to `s'` and the world `w` to `w'`, with the result `r`. -/
def Runs (m : Method C R E σ α) (s : σ) (w : W) (evs : List (Prog.Event W C R))
    (r : Except E α) (s' : σ) (w' : W) : Prop :=
  Prog.Exec env (m s) w evs (r, s') w'

variable {s s' : σ} {w w' : W} {evs : List (Prog.Event W C R)}

@[simp] theorem runs_pure {a : α} {r : Except E α} :
    Runs env (pure a : Method C R E σ α) s w evs r s' w' ↔
      evs = [] ∧ r = .ok a ∧ s' = s ∧ w' = w := by
  simp [Runs, pure, and_assoc]

@[simp] theorem runs_raise {e : E} {r : Except E α} :
    Runs env (raise e : Method C R E σ α) s w evs r s' w' ↔
      evs = [] ∧ r = .error e ∧ s' = s ∧ w' = w := by
  simp [Runs, raise, and_assoc]

@[simp] theorem runs_self {r : Except E σ} :
    Runs env (self : Method C R E σ σ) s w evs r s' w' ↔
      evs = [] ∧ r = .ok s ∧ s' = s ∧ w' = w := by
  simp [Runs, self, and_assoc]

@[simp] theorem runs_update {f : σ → σ} {r : Except E Unit} :
    Runs env (update f : Method C R E σ Unit) s w evs r s' w' ↔
      evs = [] ∧ r = .ok () ∧ s' = f s ∧ w' = w := by
  simp [Runs, update, and_assoc]

@[simp] theorem runs_issue {c : C} {r : Except E R} :
    Runs env (issue c : Method C R E σ R) s w evs r s' w' ↔
      ∃ rep, env w c rep w' ∧ r = .ok rep ∧ s' = s ∧ evs = [⟨w, c, rep⟩] := by
  simp only [Runs, issue, Prog.exec_call, Prog.exec_done, Prod.mk.injEq]
  constructor
  · rintro ⟨rep, w1, _, hr, ⟨rfl, ⟨rfl, rfl⟩, rfl⟩, rfl⟩
    exact ⟨rep, hr, rfl, rfl, rfl⟩
  · rintro ⟨rep, hr, rfl, rfl, rfl⟩
    exact ⟨rep, w', [], hr, ⟨rfl, ⟨rfl, rfl⟩, rfl⟩, rfl⟩

theorem runs_bind {m : Method C R E σ α} {f : α → Method C R E σ β} {r : Except E β} :
    Runs env (m >>= f) s w evs r s' w' ↔
      (∃ e, r = .error e ∧ Runs env m s w evs (.error e) s' w') ∨
      ∃ a s1 w1 evs1 evs2, Runs env m s w evs1 (.ok a) s1 w1 ∧
        Runs env (f a) s1 w1 evs2 r s' w' ∧ evs = evs1 ++ evs2 := by
  simp only [Runs, Bind.bind, Prog.exec_bind, Prod.exists]
  constructor
  · rintro ⟨_ | a, s1, w1, evs1, evs2, h1, h2, rfl⟩
    · simp only [Prog.exec_done, Prod.mk.injEq] at h2
      obtain ⟨rfl, ⟨rfl, rfl⟩, rfl⟩ := h2
      exact .inl ⟨_, rfl, by simpa using h1⟩
    · exact .inr ⟨a, s1, w1, evs1, evs2, h1, h2, rfl⟩
  · rintro (⟨e, rfl, h⟩ | ⟨a, s1, w1, evs1, evs2, h1, h2, rfl⟩)
    · exact ⟨_, s', w', evs, [], h, by simp, by simp⟩
    · exact ⟨_, s1, w1, evs1, evs2, h1, h2, rfl⟩

theorem runs_bind_pure {m : Method C R E σ α} {g : α → β} {r : Except E β} :
    Runs env (m >>= fun a => pure (g a)) s w evs r s' w' ↔
      ∃ r0, Runs env m s w evs r0 s' w' ∧ r = r0.map g := by
  rw [runs_bind]
  constructor
  · rintro (⟨e, rfl, h⟩ | ⟨a, s1, w1, evs1, evs2, h1, h2, rfl⟩)
    · exact ⟨_, h, rfl⟩
    · obtain ⟨rfl, rfl, rfl, rfl⟩ := runs_pure.mp h2
      exact ⟨_, by simpa using h1, rfl⟩
  · rintro ⟨e | a, h, rfl⟩
    · exact .inl ⟨e, rfl, h⟩
    · exact .inr ⟨a, s', w', evs, [], h, by simp [Except.map], by simp⟩

@[simp] theorem runs_pure_bind {a : α} {f : α → Method C R E σ β} {r : Except E β} :
    Runs env (pure a >>= f) s w evs r s' w' ↔ Runs env (f a) s w evs r s' w' := Iff.rfl

@[simp] theorem runs_self_bind {f : σ → Method C R E σ β} {r : Except E β} :
    Runs env (self >>= f) s w evs r s' w' ↔ Runs env (f s) s w evs r s' w' := Iff.rfl

@[simp] theorem runs_update_bind {g : σ → σ} {f : Unit → Method C R E σ β} {r : Except E β} :
    Runs env (update g >>= f) s w evs r s' w' ↔ Runs env (f ()) (g s) w evs r s' w' := Iff.rfl

@[simp] theorem runs_issue_bind {c : C} {f : R → Method C R E σ β} {r : Except E β} :
    Runs env (issue c >>= f) s w evs r s' w' ↔
      ∃ rep w1 evs1, env w c rep w1 ∧ Runs env (f rep) s w1 evs1 r s' w' ∧
        evs = ⟨w, c, rep⟩ :: evs1 := Prog.exec_call

theorem runs_ite {p : Prop} [Decidable p] {m n : Method C R E σ α} {r : Except E α} :
    Runs env (if p then m else n) s w evs r s' w' ↔
      (p ∧ Runs env m s w evs r s' w') ∨ (¬ p ∧ Runs env n s w evs r s' w') := by
  by_cases h : p <;> simp [h]

theorem runs_check_bind {p : Prop} [Decidable p] {e : E} {f : Unit → Method C R E σ β}
    {r : Except E β} :
    Runs env ((if p then raise e else pure ()) >>= f) s w evs r s' w' ↔
      (p ∧ evs = [] ∧ r = .error e ∧ s' = s ∧ w' = w) ∨
        (¬ p ∧ Runs env (f ()) s w evs r s' w') := by
  by_cases h : p
  · simp only [h, if_true, runs_bind, runs_raise]
    grind
  · simp [h]

theorem runs_zoom {get : σ → τ} {set : τ → σ → σ} {m : Method C R E τ α} {r : Except E α} :
    Runs env (zoom get set m) s w evs r s' w' ↔
      ∃ t, Runs env m (get s) w evs r t w' ∧ s' = set t s := by
  simp only [Runs, zoom, Prog.map, Prog.exec_bind, Prod.exists, Prog.exec_done, Prod.mk.injEq]
  constructor
  · rintro ⟨_, t, w1, evs1, _, h, ⟨rfl, ⟨rfl, rfl⟩, rfl⟩, rfl⟩
    exact ⟨t, by simpa using h, rfl⟩
  · rintro ⟨t, h, rfl⟩
    exact ⟨r, t, w', evs, [], h, ⟨rfl, ⟨rfl, rfl⟩, rfl⟩, by simp⟩

theorem runs_onLocal {t : τ} {m : Method C R E τ Unit} {r : Except E τ} :
    Runs env (onLocal t m : Method C R E σ τ) s w evs r s' w' ↔
      s' = s ∧ ∃ r0 t', Runs env m t w evs r0 t' w' ∧ r = r0.map fun _ => t' := by
  simp only [Runs, onLocal, Prog.map, Prog.exec_bind, Prod.exists, Prog.exec_done, Prod.mk.injEq]
  constructor
  · rintro ⟨r0, t', w1, evs1, _, h, ⟨rfl, ⟨rfl, rfl⟩, rfl⟩, rfl⟩
    exact ⟨rfl, r0, t', by simpa using h, rfl⟩
  · rintro ⟨rfl, r0, t', h, rfl⟩
    exact ⟨r0, t', w', evs, [], h, ⟨rfl, ⟨rfl, rfl⟩, rfl⟩, by simp⟩

theorem exec_destroy {dtor : Method C R E τ Unit} {t : τ} {u : Unit} :
    Prog.Exec env (destroy dtor t) w evs u w' ↔ ∃ t', Runs env dtor t w evs (.ok ()) t' w' := by
  simp only [destroy, Prog.exec_bind, Prod.exists, Runs]
  constructor
  · rintro ⟨_ | _, t', w1, evs1, evs2, h1, h2, rfl⟩
    · exact absurd h2 Prog.exec_halt
    · simp only [Prog.exec_done] at h2
      obtain ⟨rfl, -, rfl⟩ := h2
      exact ⟨t', by simpa using h1⟩
  · rintro ⟨t', h⟩
    exact ⟨.ok (), t', w', evs, [], h, by simp, by simp⟩

theorem runs_unwinding {dtor : Method C R E τ Unit} {t : τ} {m : Method C R E σ α}
    {r : Except E α} :
    Runs env (unwinding dtor t m) s w evs r s' w' ↔
      (∃ a, r = .ok a ∧ Runs env m s w evs (.ok a) s' w') ∨
      ∃ e t' w1 evs1 evs2, r = .error e ∧ Runs env m s w evs1 (.error e) s' w1 ∧
        Runs env dtor t w1 evs2 (.ok ()) t' w' ∧ evs = evs1 ++ evs2 := by
  simp only [unwinding, Runs, Prog.exec_bind, Prod.exists]
  constructor
  · rintro ⟨e | a, s1, w1, evs1, evs2, h1, h2, rfl⟩
    · simp only [Prog.exec_bind, Prog.exec_done, Prod.mk.injEq] at h2
      obtain ⟨_, w2, evs3, _, h3, ⟨rfl, ⟨rfl, rfl⟩, rfl⟩, rfl⟩ := h2
      obtain ⟨t', h3⟩ := exec_destroy.mp h3
      exact .inr ⟨e, t', w1, evs1, evs3, rfl, h1, h3, by simp⟩
    · simp only [Prog.exec_done, Prod.mk.injEq] at h2
      obtain ⟨rfl, ⟨rfl, rfl⟩, rfl⟩ := h2
      exact .inl ⟨a, rfl, by simpa using h1⟩
  · rintro (⟨a, rfl, h⟩ | ⟨e, t', w1, evs1, evs2, rfl, h1, h2, rfl⟩)
    · exact ⟨_, s', w', evs, [], h, by simp, by simp⟩
    · refine ⟨_, s', w1, evs1, evs2, h1, ?_, rfl⟩
      simp only [Prog.exec_bind]
      exact ⟨(), w', evs2, [], exec_destroy.mpr ⟨t', h2⟩, by simp, by simp⟩

theorem runs_withLocal {dtor : Method C R E τ Unit} {t : τ} {m : Method C R E (τ × σ) α}
    {r : Except E α} :
    Runs env (withLocal dtor t m) s w evs r s' w' ↔
      ∃ t1 t2 w1 evs1 evs2, Runs env m (t, s) w evs1 r (t1, s') w1 ∧
        Runs env dtor t1 w1 evs2 (.ok ()) t2 w' ∧ evs = evs1 ++ evs2 := by
  simp only [withLocal, Runs, Prog.exec_bind, Prod.exists, Prog.exec_done, Prod.mk.injEq]
  constructor
  · rintro ⟨r1, t1, s1, w1, evs1, evs2, h1, ⟨_, w2, evs3, _, h2, ⟨rfl, ⟨rfl, rfl⟩, rfl⟩, rfl⟩, rfl⟩
    obtain ⟨t2, h2⟩ := exec_destroy.mp h2
    exact ⟨t1, t2, w1, evs1, evs3, h1, h2, by simp⟩
  · rintro ⟨t1, t2, w1, evs1, evs2, h1, h2, rfl⟩
    exact ⟨r, t1, s', w1, evs1, evs2, h1,
      ⟨(), w', evs2, [], exec_destroy.mpr ⟨t2, h2⟩, ⟨rfl, ⟨rfl, rfl⟩, rfl⟩, by simp⟩, rfl⟩

/-! ## Runs that come to an end -/

section Returns

variable (env) in
/-- Every run of the method comes to an end, with a result, an object and a world that meet `Q`. -/
def Returns (m : Method C R E σ α) (s : σ) (w : W) (Q : Except E α → σ → W → Prop) : Prop :=
  Prog.Returns env (fun x w => Q x.1 x.2 w) (m s) w

variable {m : Method C R E σ α} {f : α → Method C R E σ β} {Q : Except E α → σ → W → Prop}
  {Q' : Except E β → σ → W → Prop}

theorem returns_pure {a : α} (h : Q (.ok a) s w) :
    Returns env (pure a : Method C R E σ α) s w Q := .done h

theorem returns_update {g : σ → σ} {Q : Except E Unit → σ → W → Prop} (h : Q (.ok ()) (g s) w) :
    Returns env (update g : Method C R E σ Unit) s w Q := .done h

theorem returns_raise {e : E} (h : Q (.error e) s w) :
    Returns env (raise e : Method C R E σ α) s w Q := .done h

theorem returns_self_bind {f : σ → Method C R E σ β} (h : Returns env (f s) s w Q') :
    Returns env (self >>= f) s w Q' := h

theorem returns_update_bind {g : σ → σ} {f : Unit → Method C R E σ β}
    (h : Returns env (f ()) (g s) w Q') : Returns env (update g >>= f) s w Q' := h

theorem returns_mono {Q1 : Except E α → σ → W → Prop} (h : Returns env m s w Q)
    (hQ : ∀ r s' w', Q r s' w' → Q1 r s' w') : Returns env m s w Q1 :=
  Prog.Returns.mono h fun x => hQ x.1 x.2

theorem returns_bind (h : Returns env m s w Q)
    (hf : ∀ a s' w', Q (.ok a) s' w' → Returns env (f a) s' w' Q')
    (he : ∀ e s' w', Q (.error e) s' w' → Q' (.error e) s' w') :
    Returns env (m >>= f) s w Q' := by
  refine Prog.Returns.bind h fun x w' hQ => ?_
  obtain ⟨e | a, s'⟩ := x
  · exact .done (he e s' w' hQ)
  · exact hf a s' w' hQ

theorem returns_then {a : α} {s1 : σ} {w1 : W}
    (h : Returns env m s w fun r s' w' => r = .ok a ∧ s' = s1 ∧ w' = w1)
    (hf : Returns env (f a) s1 w1 Q') : Returns env (m >>= f) s w Q' := by
  refine returns_bind h ?_ ?_
  · rintro a' s' w' ⟨ha, rfl, rfl⟩
    obtain rfl : a' = a := Except.ok.inj ha
    exact hf
  · rintro e s' w' ⟨he, -⟩
    simp at he

theorem returns_check_bind {p : Prop} [Decidable p] {e : E} {f : Unit → Method C R E σ β}
    (hp : ¬ p) (h : Returns env (f ()) s w Q') :
    Returns env ((if p then raise e else pure ()) >>= f) s w Q' := by
  rw [if_neg hp]
  exact h

theorem returns_check_bind_cases {p : Prop} [Decidable p] {e : E} {f : Unit → Method C R E σ β}
    (hp : p → Q' (.error e) s w) (h : ¬ p → Returns env (f ()) s w Q') :
    Returns env ((if p then raise e else pure ()) >>= f) s w Q' := by
  split
  · exact .done (hp ‹_›)
  · exact h ‹_›

theorem returns_issue_bind {c : C} {f : R → Method C R E σ β} (hlive : ∃ r w', env w c r w')
    (h : ∀ r w', env w c r w' → Returns env (f r) s w' Q') :
    Returns env (issue c >>= f) s w Q' := .call hlive h

theorem returns_zoom {get : σ → τ} {set : τ → σ → σ} {m : Method C R E τ α}
    {Q : Except E α → τ → W → Prop} (h : Returns env m (get s) w Q) :
    Returns env (zoom get set m) s w fun r s' w' => ∃ t, s' = set t s ∧ Q r t w' :=
  Prog.Returns.bind h fun x _ hQ => .done ⟨x.2, rfl, hQ⟩

theorem returns_withVar {t : τ} {m : Method C R E (τ × σ) α}
    (h : Returns env m (t, s) w fun r l w' => Q r l.2 w') : Returns env (withVar t m) s w Q :=
  Prog.Returns.bind h fun _ _ hQ => .done hQ

theorem returns_destroy {dtor : Method C R E τ Unit} {t : τ} {Q : W → Prop}
    (h : Returns env dtor t w fun r _ w' => r = .ok () ∧ Q w') :
    Prog.Returns env (fun _ w' => Q w') (destroy dtor t) w := by
  refine Prog.Returns.bind h ?_
  rintro ⟨r, t'⟩ w' ⟨hr, hQ⟩
  obtain rfl : r = .ok () := hr
  exact .done hQ

theorem returns_unwinding {dtor : Method C R E τ Unit} {t : τ}
    (h : Returns env m s w fun r s' w' => match r with
      | .ok _ => Q r s' w'
      | .error _ => Prog.Returns env (fun _ w1 => Q r s' w1) (destroy dtor t) w') :
    Returns env (unwinding dtor t m) s w Q := by
  refine Prog.Returns.bind h ?_
  rintro ⟨e | a, s'⟩ w' hx
  · exact Prog.Returns.bind hx fun _ _ hQ => .done hQ
  · exact .done hx

theorem returns_unwinding_ok {dtor : Method C R E τ Unit} {t : τ} {a : α} {Q : σ → W → Prop}
    (h : Returns env m s w fun r s' w' => r = .ok a ∧ Q s' w') :
    Returns env (unwinding dtor t m) s w fun r s' w' => r = .ok a ∧ Q s' w' := by
  refine returns_unwinding (returns_mono h ?_)
  rintro r s' w' ⟨rfl, hQ⟩
  exact ⟨rfl, hQ⟩

theorem returns_withLocal {dtor : Method C R E τ Unit} {t : τ} {m : Method C R E (τ × σ) α}
    (h : Returns env m (t, s) w fun r l w' =>
      Prog.Returns env (fun _ w1 => Q r l.2 w1) (destroy dtor l.1) w') :
    Returns env (withLocal dtor t m) s w Q := by
  refine Prog.Returns.bind h ?_
  rintro ⟨r, t', s'⟩ w' hx
  exact Prog.Returns.bind hx fun _ _ hQ => .done hQ

/-- A loop whose body keeps `I` and makes `size` smaller ends, with enough fuel for `size`. -/
theorem returns_doWhile {body : Method C R E σ Bool} {I : σ → W → Prop} (size : σ → W → Nat)
    {Q : Except E Unit → σ → W → Prop}
    (hbody : ∀ s w, I s w → Returns env body s w fun r s' w' => match r with
      | .ok true => I s' w' ∧ size s' w' < size s w
      | .ok false => Q (.ok ()) s' w'
      | .error e => Q (.error e) s' w')
    {fuel : Nat} (hI : I s w) (hfuel : size s w < fuel) :
    Returns env (doWhile body fuel) s w Q := by
  induction fuel generalizing s w with
  | zero => omega
  | succ fuel ih =>
    refine returns_bind (hbody s w hI) ?_ fun _ _ _ h => h
    rintro (_ | _) s' w' h
    · exact returns_pure h
    · exact ih h.1 (by omega)

end Returns

end Method
