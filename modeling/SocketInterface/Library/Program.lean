import Mathlib.Data.List.Basic

/-!
# Programs that call a system

A program is a tree: it ends with a value, or issues a call and goes on with the
reply. The system is a relation that says which replies it may give. Methods are
programs over a state that survives a throw, as the members of an object do.
-/

inductive Halt where
  | terminated
  | aborted
  | undefined
  | outOfFuel
  deriving DecidableEq, Repr

inductive Prog (C R α : Type) where
  | done (a : α)
  | call (c : C) (k : R → Prog C R α)
  | halt (h : Halt)

namespace Prog

variable {C R α β γ : Type}

def bind : Prog C R α → (α → Prog C R β) → Prog C R β
  | done a, f => f a
  | call c k, f => call c (fun r => (k r).bind f)
  | halt h, _ => halt h

def map (g : α → β) (p : Prog C R α) : Prog C R β := p.bind (fun a => done (g a))

instance : Monad (Prog C R) where
  pure := done
  bind := bind

@[simp] theorem done_bind (a : α) (f : α → Prog C R β) : (done a).bind f = f a := rfl

@[simp] theorem call_bind (c : C) (k : R → Prog C R α) (f : α → Prog C R β) :
    (call c k).bind f = call c (fun r => (k r).bind f) := rfl

@[simp] theorem halt_bind (h : Halt) (f : α → Prog C R β) : (halt h).bind f = halt h := rfl

theorem bind_assoc (p : Prog C R α) (f : α → Prog C R β) (g : β → Prog C R γ) :
    (p.bind f).bind g = p.bind (fun a => (f a).bind g) := by
  induction p with
  | done a => rfl
  | call c k ih => simp only [call_bind, ih]
  | halt h => rfl

theorem bind_done (p : Prog C R α) : p.bind done = p := by
  induction p with
  | done a => rfl
  | call c k ih => simp only [call_bind, ih]
  | halt h => rfl

/-! ## Runs against a system -/

structure Event (W C R : Type) where
  before : W
  call : C
  reply : R

section Exec

variable {W : Type} (env : W → C → R → W → Prop)

inductive Exec : Prog C R α → W → List (Event W C R) → α → W → Prop
  | done (a : α) (w : W) : Exec (done a) w [] a w
  | call {c : C} {k : R → Prog C R α} {w w1 w' : W} {r : R} {evs : List (Event W C R)} {a : α}
      (hr : env w c r w1) (h : Exec (k r) w1 evs a w') :
      Exec (call c k) w (⟨w, c, r⟩ :: evs) a w'

inductive Halts : Prog C R α → W → Halt → Prop
  | halt (h : Halt) (w : W) : Halts (halt h) w h
  | call {c : C} {k : R → Prog C R α} {w w1 : W} {r : R} {h : Halt}
      (hr : env w c r w1) (hk : Halts (k r) w1 h) : Halts (call c k) w h

variable {env}

@[simp] theorem exec_done {a b : α} {w w' : W} {evs : List (Event W C R)} :
    Exec env (done a) w evs b w' ↔ evs = [] ∧ b = a ∧ w' = w := by
  constructor
  · rintro ⟨⟩; exact ⟨rfl, rfl, rfl⟩
  · rintro ⟨rfl, rfl, rfl⟩; exact .done _ _

@[simp] theorem exec_call {c : C} {k : R → Prog C R α} {a : α} {w w' : W}
    {evs : List (Event W C R)} :
    Exec env (call c k) w evs a w' ↔
      ∃ r w1 evs1, env w c r w1 ∧ Exec env (k r) w1 evs1 a w' ∧ evs = ⟨w, c, r⟩ :: evs1 := by
  constructor
  · rintro ⟨⟩; exact ⟨_, _, _, ‹_›, ‹_›, rfl⟩
  · rintro ⟨r, w1, evs1, hr, h, rfl⟩; exact .call hr h

@[simp] theorem exec_halt {h : Halt} {a : α} {w w' : W} {evs : List (Event W C R)} :
    ¬ Exec env (halt h : Prog C R α) w evs a w' := by
  rintro ⟨⟩

theorem exec_bind {p : Prog C R α} {f : α → Prog C R β} {b : β} {w w' : W}
    {evs : List (Event W C R)} :
    Exec env (p.bind f) w evs b w' ↔
      ∃ a w1 evs1 evs2, Exec env p w evs1 a w1 ∧ Exec env (f a) w1 evs2 b w' ∧
        evs = evs1 ++ evs2 := by
  induction p generalizing w evs with
  | done a => simp
  | call c k ih =>
    simp only [call_bind, exec_call, ih]
    constructor
    · rintro ⟨r, w1, _, hr, ⟨a, w2, evs1, evs2, h1, h2, rfl⟩, rfl⟩
      exact ⟨a, w2, _, evs2, ⟨r, w1, evs1, hr, h1, rfl⟩, h2, rfl⟩
    · rintro ⟨a, w2, _, evs2, ⟨r, w1, evs1, hr, h1, rfl⟩, h2, rfl⟩
      exact ⟨r, w1, _, hr, ⟨a, w2, evs1, evs2, h1, h2, rfl⟩, rfl⟩
  | halt h => simp

theorem exec_map {p : Prog C R α} {g : α → β} {b : β} {w w' : W} {evs : List (Event W C R)} :
    Exec env (p.map g) w evs b w' ↔ ∃ a, Exec env p w evs a w' ∧ b = g a := by
  simp only [map, exec_bind, exec_done]
  constructor
  · rintro ⟨a, w1, evs1, _, h, ⟨rfl, rfl, rfl⟩, rfl⟩
    exact ⟨a, by simpa using h, rfl⟩
  · rintro ⟨a, h, rfl⟩
    exact ⟨a, w', evs, [], h, ⟨rfl, rfl, rfl⟩, by simp⟩

theorem halts_bind {p : Prog C R α} {f : α → Prog C R β} {w : W} {h : Halt} :
    Halts env (p.bind f) w h ↔
      Halts env p w h ∨ ∃ a w1 evs, Exec env p w evs a w1 ∧ Halts env (f a) w1 h := by
  constructor
  · intro hx
    induction p generalizing w with
    | done a => exact .inr ⟨a, w, [], .done a w, hx⟩
    | call c k ih =>
      cases hx with
      | call hr hk =>
        rcases ih _ hk with hk | ⟨a, w1, evs, he, hk⟩
        · exact .inl (.call hr hk)
        · exact .inr ⟨a, w1, _, .call hr he, hk⟩
    | halt =>
      cases hx with
      | halt => exact .inl (.halt h w)
  · rintro (hx | ⟨a, w1, evs, he, hk⟩)
    · induction hx with
      | halt h' w => exact .halt h' w
      | call hr _ ih => exact .call hr ih
    · induction he with
      | done a w => exact hk
      | call hr _ ih => exact .call hr (ih hk)

/-- What every call preserves, every run preserves. -/
theorem Exec.invariant {I : W → List (Event W C R) → Prop}
    (hstep : ∀ w c r w' T, env w c r w' → I w T → I w' (T ++ [⟨w, c, r⟩]))
    {p : Prog C R α} {w w' : W} {evs : List (Event W C R)} {a : α} (h : Exec env p w evs a w')
    (T : List (Event W C R)) (hI : I w T) : I w' (T ++ evs) := by
  induction h generalizing T with
  | done a w => simpa using hI
  | call hr _ ih => simpa using ih _ (hstep _ _ _ _ T hr hI)

theorem Exec.mono {env' : W → C → R → W → Prop} (hle : ∀ w c r w', env w c r w' → env' w c r w')
    {p : Prog C R α} {w w' : W} {evs : List (Event W C R)} {a : α} (h : Exec env p w evs a w') :
    Exec env' p w evs a w' := by
  induction h with
  | done a w => exact .done a w
  | call hr _ ih => exact .call (hle _ _ _ _ hr) ih

end Exec

/-! ## Runs on a list of replies -/

section Drive

variable {W : Type}

/-- The run of a program in which an executable system gives exactly these replies. -/
def drive (answer : W → C → R → Option W) :
    Prog C R α → W → List R → Option (List (Event W C R) × α × W)
  | done a, w, [] => some ([], a, w)
  | done _, _, _ :: _ => none
  | call _ _, _, [] => none
  | call c k, w, r :: rs => (answer w c r).bind fun w1 =>
    (drive answer (k r) w1 rs).map fun x => (⟨w, c, r⟩ :: x.1, x.2)
  | halt _, _, _ => none

theorem drive_exec {answer : W → C → R → Option W} {p : Prog C R α} {w w' : W} {rs : List R}
    {evs : List (Event W C R)} {a : α} (h : drive answer p w rs = some (evs, a, w')) :
    Exec (fun w c r w' => answer w c r = some w') p w evs a w' := by
  induction p generalizing w rs evs with
  | done b =>
    cases rs with
    | nil =>
      simp only [drive, Option.some.injEq, Prod.mk.injEq] at h
      obtain ⟨rfl, rfl, rfl⟩ := h
      exact .done _ _
    | cons => simp [drive] at h
  | call c k ih =>
    cases rs with
    | nil => simp [drive] at h
    | cons r rs =>
      simp only [drive, Option.bind_eq_some_iff, Option.map_eq_some_iff, Prod.mk.injEq] at h
      obtain ⟨w1, hr, ⟨evs1, b, w2⟩, h, rfl, hb⟩ := h
      obtain ⟨rfl, rfl⟩ := Prod.mk.injEq .. ▸ hb
      exact .call hr (ih r h)
  | halt => simp [drive] at h

end Drive

/-! ## Runs that come to an end -/

section Returns

variable {W : Type} (env : W → C → R → W → Prop)

/-- Every run comes to an end, with a value that meets `Q`: the system has an answer to every call
and no answer leads to a halt. -/
inductive Returns (Q : α → W → Prop) : Prog C R α → W → Prop
  | done {a : α} {w : W} (h : Q a w) : Returns Q (done a) w
  | call {c : C} {k : R → Prog C R α} {w : W} (hlive : ∃ r w', env w c r w')
      (h : ∀ r w', env w c r w' → Returns Q (k r) w') : Returns Q (call c k) w

variable {env} {Q : α → W → Prop} {w w' : W}

theorem returns_done {a : α} : Returns env Q (done a : Prog C R α) w ↔ Q a w := by
  constructor
  · rintro ⟨h⟩
    exact h
  · exact .done

theorem returns_call {c : C} {k : R → Prog C R α} : Returns env Q (call c k) w ↔
    (∃ r w', env w c r w') ∧ ∀ r w', env w c r w' → Returns env Q (k r) w' := by
  constructor
  · rintro ⟨⟩
    exact ⟨‹_›, ‹_›⟩
  · rintro ⟨hlive, h⟩
    exact .call hlive h

theorem not_returns_halt {h : Halt} : ¬ Returns env Q (halt h : Prog C R α) w := by
  rintro ⟨⟩

theorem Returns.mono {p : Prog C R α} {Q' : α → W → Prop} (h : Returns env Q p w)
    (hQ : ∀ a w, Q a w → Q' a w) : Returns env Q' p w := by
  induction h with
  | done h => exact .done (hQ _ _ h)
  | call hlive _ ih => exact .call hlive ih

theorem Returns.bind {p : Prog C R α} {f : α → Prog C R β} {Q' : β → W → Prop}
    (h : Returns env Q p w) (hf : ∀ a w, Q a w → Returns env Q' (f a) w) :
    Returns env Q' (p.bind f) w := by
  induction h with
  | done h => exact hf _ _ h
  | call hlive _ ih => exact .call hlive ih

theorem Returns.exec {p : Prog C R α} {evs : List (Event W C R)} {a : α}
    (h : Returns env Q p w) (hx : Exec env p w evs a w') : Q a w' := by
  induction hx with
  | done => exact returns_done.mp h
  | call hr _ ih => exact ih ((returns_call.mp h).2 _ _ hr)

/-- What every run ends with, a program that always ends ends with. -/
theorem Returns.of_runs {p : Prog C R α} {Q' : α → W → Prop} (h : Returns env Q p w)
    (hruns : ∀ evs a w', Exec env p w evs a w' → Q' a w') : Returns env Q' p w := by
  induction h with
  | done => exact .done (hruns [] _ _ (.done _ _))
  | call hlive _ ih =>
    exact .call hlive fun r w' hr => ih r w' hr fun _ _ _ hx => hruns _ _ _ (.call hr hx)

theorem Returns.exists_exec {p : Prog C R α} (h : Returns env Q p w) :
    ∃ evs a w', Exec env p w evs a w' := by
  induction h with
  | done => exact ⟨[], _, _, .done _ _⟩
  | call hlive _ ih =>
    obtain ⟨r, w1, hr⟩ := hlive
    obtain ⟨evs, a, w', hx⟩ := ih r w1 hr
    exact ⟨_, a, w', .call hr hx⟩

/-- The world `env` while it is asked for calls that meet `P` only. -/
def Asks (P : W → C → Prop) (env : W → C → R → W → Prop) (w : W) (c : C) (r : R) (w' : W) : Prop :=
  P w c ∧ env w c r w'

variable {P : W → C → Prop} {p : Prog C R α}

theorem Returns.asks {evs : List (Event W C R)} {a : α} (h : Returns (Asks P env) Q p w)
    (hx : Exec env p w evs a w') : Q a w' ∧ ∀ e ∈ evs, P e.before e.call := by
  induction hx with
  | done => exact ⟨returns_done.mp h, by simp⟩
  | call hr _ ih =>
    obtain ⟨⟨_, _, hP, -⟩, hk⟩ := returns_call.mp h
    obtain ⟨hQ, hevs⟩ := ih (hk _ _ ⟨hP, hr⟩)
    exact ⟨hQ, List.forall_mem_cons.mpr ⟨hP, hevs⟩⟩

theorem Returns.of_asks (h : Returns (Asks P env) Q p w) : Returns env Q p w := by
  induction h with
  | done h => exact .done h
  | call hlive _ ih =>
    obtain ⟨r, w', hP, hr⟩ := hlive
    exact .call ⟨r, w', hr⟩ fun r w' hr => ih r w' ⟨hP, hr⟩

end Returns

end Prog
