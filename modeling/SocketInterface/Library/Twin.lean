import SocketInterface.Library.Method

/-!
# Two programs in step

Two programs run in step when they issue the same calls up to a renaming, and on the
replies renamed the same way come to related ends. The rules follow the combinators of
methods.
-/

namespace Prog

structure Renaming (C R : Type) where
  call : C → C
  reply : C → R → R

variable {C R α β α' β' : Type} {ν : Renaming C R}

/-- `p` and `q` run in step and end related by `Q`. -/
inductive Twin (ν : Renaming C R) (Q : α → β → Prop) : Prog C R α → Prog C R β → Prop
  | done {a b} (h : Q a b) : Twin ν Q (.done a) (.done b)
  | call {c k k'} (h : ∀ r, Twin ν Q (k r) (k' (ν.reply c r))) :
      Twin ν Q (.call c k) (.call (ν.call c) k')
  | halt (h : Halt) : Twin ν Q (.halt h) (.halt h)

namespace Twin

variable {Q : α → β → Prop} {Q' : α' → β' → Prop} {p : Prog C R α} {q : Prog C R β}

theorem mono {Q' : α → β → Prop} (h : Twin ν Q p q) (hQ : ∀ a b, Q a b → Q' a b) :
    Twin ν Q' p q := by
  induction h with
  | done h => exact .done (hQ _ _ h)
  | call _ ih => exact .call ih
  | halt h => exact .halt h

theorem bind {f : α → Prog C R α'} {g : β → Prog C R β'} (h : Twin ν Q p q)
    (hfg : ∀ a b, Q a b → Twin ν Q' (f a) (g b)) : Twin ν Q' (p.bind f) (q.bind g) := by
  induction h with
  | done h => exact hfg _ _ h
  | call _ ih => exact .call ih
  | halt h => exact .halt h

theorem map {f : α → α'} {g : β → β'} (h : Twin ν Q p q)
    (hfg : ∀ a b, Q a b → Q' (f a) (g b)) : Twin ν Q' (p.map f) (q.map g) :=
  h.bind fun a b hab => .done (hfg a b hab)

end Twin

/-! ## All replies -/

def AnyReply (C R : Type) : Unit → C → R → Unit → Prop := fun _ _ _ _ => True

/-! ## On given replies -/

def runOn : Prog C R α → List R → Option (α × List R)
  | .done a, rs => some (a, rs)
  | .call _ _, [] => none
  | .call _ k, r :: rs => runOn (k r) rs
  | .halt _, _ => none

/-- On these replies the programs issue the same calls, and end related by `Q`, halt or wait for a
reply at the same call. `Q` is told the replies that are left. -/
def InStep (ν : Renaming C R) (Q : List R → α → β → Prop) :
    Prog C R α → Prog C R β → List R → Prop
  | .done a, .done b, rs => Q rs a b
  | .call c _, .call c' _, [] => c' = ν.call c
  | .call c k, .call c' k', r :: rs => c' = ν.call c ∧ InStep ν Q (k r) (k' (ν.reply c r)) rs
  | .halt h, .halt h', _ => h' = h
  | _, _, _ => False

theorem InStep.mono {P P' : List R → α → β → Prop} {p : Prog C R α} {q : Prog C R β} {rs : List R}
    (h : InStep ν P p q rs) (hP : ∀ rs a b, P rs a b → P' rs a b) : InStep ν P' p q rs := by
  induction p generalizing q rs with
  | done a =>
    cases q with
    | done b => exact hP rs a b h
    | call | halt => exact h.elim
  | call c k ih =>
    cases q with
    | call c' k' =>
      cases rs with
      | nil => exact h
      | cons r rs => exact ⟨h.1, ih r h.2⟩
    | done | halt => cases rs <;> exact h.elim
  | halt =>
    cases q with
    | halt => exact h
    | done | call => exact h.elim

theorem Twin.runOn_ends {Q : α → β → Prop} {p : Prog C R α} {q : Prog C R β} {rs rs' : List R} {a : α}
    (h : Twin ν Q p q) (hrun : runOn p rs = some (a, rs')) : ∃ b, Q a b := by
  induction h generalizing rs with
  | done h =>
    obtain ⟨rfl, -⟩ := Prod.mk.inj (Option.some.inj hrun)
    exact ⟨_, h⟩
  | call _ ih =>
    cases rs with
    | nil => cases hrun
    | cons r rs => exact ih r hrun
  | halt => cases hrun

theorem Twin.inStep_iff {Q : α → β → Prop} {P : List R → α → β → Prop} {p : Prog C R α}
    {q : Prog C R β} {rs : List R} {φ : Prop} (h : Twin ν Q p q)
    (hdone : ∀ a b rs', runOn p rs = some (a, rs') → Q a b → (P rs' a b ↔ φ))
    (hnone : runOn p rs = none → φ) : InStep ν P p q rs ↔ φ := by
  induction h generalizing rs with
  | done h => exact hdone _ _ rs rfl h
  | call _ ih =>
    cases rs with
    | nil => exact iff_of_true rfl (hnone rfl)
    | cons r rs => exact (and_iff_right rfl).trans (ih r hdone hnone)
  | halt => exact iff_of_true rfl (hnone rfl)

theorem Twin.inStep {Q : α → β → Prop} {P : List R → α → β → Prop} {p : Prog C R α}
    {q : Prog C R β} {rs : List R} (h : Twin ν Q p q) (hP : ∀ a b rs', Q a b → P rs' a b) :
    InStep ν P p q rs :=
  (h.inStep_iff (fun _ _ _ _ hab => iff_true_intro (hP _ _ _ hab)) fun _ => trivial).mpr trivial

end Prog

namespace Method

open Prog (Renaming)

variable {C R E σ σ' τ τ' α α' β β' : Type} {ν : Renaming C R}

/-- The ends of two methods: both return, related by `A` and `S'`, or both throw the same
exception, and the objects are related by `S`. -/
def Ends (A : α → α' → Prop) (S S' : σ → σ' → Prop) :
    Except E α × σ → Except E α' × σ' → Prop
  | (.ok a, s), (.ok a', s') => A a a' ∧ S' s s'
  | (.error e, s), (.error e', s') => e = e' ∧ S s s'
  | _, _ => False

theorem ends_cases {S S' : σ → σ' → Prop} {A : α → α' → Prop} {x : Except E α × σ}
    {x' : Except E α' × σ'} (h : Ends A S S' x x') :
    (∃ e t t', x = (.error e, t) ∧ x' = (.error e, t') ∧ S t t') ∨
      ∃ a a' t t', x = (.ok a, t) ∧ x' = (.ok a', t') ∧ A a a' ∧ S' t t' := by
  obtain ⟨e | a, t⟩ := x
  · obtain ⟨e' | a', t'⟩ := x'
    · obtain ⟨rfl, ht⟩ := h
      exact .inl ⟨e, t, t', rfl, rfl, ht⟩
    · exact h.elim
  · obtain ⟨e' | a', t'⟩ := x'
    · exact h.elim
    · exact .inr ⟨a, a', t, t', rfl, rfl, h⟩

def Twins (ν : Renaming C R) (S : σ → σ' → Prop) (A : α → α' → Prop) (S' : σ → σ' → Prop)
    (m : Method C R E σ α) (n : Method C R E σ' α') : Prop :=
  ∀ s s', S s s' → Prog.Twin ν (Ends A S S') (m s) (n s')

variable {S S' : σ → σ' → Prop} {T T' T'' : τ → τ' → Prop} {A : α → α' → Prop}
  {B : β → β' → Prop}

theorem twins_pure {a : α} {a' : α'} (h : A a a') :
    Twins ν S A S (pure a : Method C R E σ α) (pure a') :=
  fun _ _ hs => .done ⟨h, hs⟩

theorem twins_raise (e : E) :
    Twins ν S A S' (raise e : Method C R E σ α) (raise e : Method C R E σ' α') :=
  fun _ _ hs => .done ⟨rfl, hs⟩

theorem twins_update {f : σ → σ} {f' : σ' → σ'} (h : ∀ s s', S s s' → S' (f s) (f' s')) :
    Twins ν S (fun _ _ => True) S' (update f : Method C R E σ Unit) (update f') :=
  fun _ _ hs => .done ⟨trivial, h _ _ hs⟩

theorem twins_issue (c : C) :
    Twins ν S (fun r r' => r' = ν.reply c r) S (issue c : Method C R E σ R) (issue (ν.call c)) :=
  fun _ _ hs => .call fun _ => .done ⟨rfl, hs⟩

theorem twins_ite {p q : Prop} [Decidable p] [Decidable q] (hpq : p ↔ q)
    {m1 m2 : Method C R E σ α} {n1 n2 : Method C R E σ' α'} (h1 : p → Twins ν S A S' m1 n1)
    (h2 : ¬ p → Twins ν S A S' m2 n2) :
    Twins ν S A S' (if p then m1 else m2) (if q then n1 else n2) := by
  by_cases h : p
  · rw [if_pos h, if_pos (hpq.mp h)]
    exact h1 h
  · rw [if_neg h, if_neg (mt hpq.mpr h)]
    exact h2 h

theorem twins_bind {m : Method C R E σ α} {n : Method C R E σ' α'} {f : α → Method C R E σ β}
    {g : α' → Method C R E σ' β'} (hm : Twins ν S A S m n)
    (hf : ∀ a a', A a a' → Twins ν S B S' (f a) (g a')) :
    Twins ν S B S' (m >>= f) (n >>= g) := by
  intro s s' hs
  apply (hm s s' hs).bind
  intro x x' h
  obtain ⟨e, t, t', rfl, rfl, ht⟩ | ⟨a, a', t, t', rfl, rfl, ha, ht⟩ := ends_cases h
  · exact .done ⟨rfl, ht⟩
  · exact hf a a' ha t t' ht

theorem twins_check_bind {p q : Prop} [Decidable p] [Decidable q] {e : E}
    {f : Unit → Method C R E σ β} {g : Unit → Method C R E σ' β'} (hpq : p ↔ q)
    (h : Twins ν S B S' (f ()) (g ())) :
    Twins ν S B S' ((if p then raise e else pure ()) >>= f)
      ((if q then raise e else pure ()) >>= g) := by
  by_cases hp : p
  · rw [if_pos hp, if_pos (hpq.mp hp)]
    exact twins_raise e
  · rw [if_neg hp, if_neg (mt hpq.mpr hp)]
    exact h

theorem twins_self_bind {f : σ → Method C R E σ β} {g : σ' → Method C R E σ' β'}
    (hf : ∀ s s', S s s' → Twins ν S B S' (f s) (g s')) :
    Twins ν S B S' (self >>= f) (self >>= g) :=
  fun s s' hs => hf s s' hs s s' hs

theorem twin_bind_pure {m : Method C R E σ α} {n : Method C R E σ' α'} {f : α → β} {g : α' → β'}
    {s : σ} {s' : σ'} (hm : Prog.Twin ν (Ends A S S') (m s) (n s'))
    (hfg : ∀ a a', A a a' → B (f a) (g a')) :
    Prog.Twin ν (Ends B S S') ((m >>= fun a => pure (f a)) s) ((n >>= fun a => pure (g a)) s') := by
  apply hm.bind
  intro x x' h
  obtain ⟨e, t, t', rfl, rfl, ht⟩ | ⟨a, a', t, t', rfl, rfl, ha, ht⟩ := ends_cases h
  · exact .done ⟨rfl, ht⟩
  · exact .done ⟨hfg a a' ha, ht⟩

theorem twins_zoom {get : σ → τ} {set : τ → σ → σ} {get' : σ' → τ'} {set' : τ' → σ' → σ'}
    {m : Method C R E τ α} {n : Method C R E τ' α'} (hget : ∀ s s', S s s' → T (get s) (get' s'))
    (hset : ∀ s s' t t', S s s' → T t t' → S (set t s) (set' t' s')) (hm : Twins ν T A T m n) :
    Twins ν S A S (zoom get set m) (zoom get' set' n) := by
  intro s s' hs
  apply (hm _ _ (hget s s' hs)).map
  intro x x' h
  obtain ⟨e, t, t', rfl, rfl, ht⟩ | ⟨a, a', t, t', rfl, rfl, ha, ht⟩ := ends_cases h
  · exact ⟨rfl, hset s s' t t' hs ht⟩
  · exact ⟨ha, hset s s' t t' hs ht⟩

theorem twin_destroy {dtor : Method C R E τ Unit} {dtor' : Method C R E τ' Unit} {t : τ}
    {t' : τ'} (hd : Twins ν T (fun _ _ => True) T dtor dtor') (ht : T t t') :
    Prog.Twin ν (fun _ _ => True) (destroy dtor t) (destroy dtor' t') := by
  apply (hd t t' ht).bind
  intro x x' h
  obtain ⟨e, t1, t1', rfl, rfl, -⟩ | ⟨a, a', t1, t1', rfl, rfl, -⟩ := ends_cases h
  · exact .halt _
  · exact .done trivial

theorem twins_unwinding {dtor : Method C R E τ Unit} {dtor' : Method C R E τ' Unit} {t : τ}
    {t' : τ'} {m : Method C R E σ α} {n : Method C R E σ' α'}
    (hd : Twins ν T (fun _ _ => True) T dtor dtor') (ht : T t t') (hm : Twins ν S A S' m n) :
    Twins ν S A S' (unwinding dtor t m) (unwinding dtor' t' n) := by
  intro s s' hs
  apply (hm s s' hs).bind
  intro x x' h
  obtain ⟨e, s1, s1', rfl, rfl, hs1⟩ | ⟨a, a', s1, s1', rfl, rfl, ha, hs1⟩ := ends_cases h
  · apply (twin_destroy hd ht).bind
    exact fun _ _ _ => .done ⟨rfl, hs1⟩
  · exact .done ⟨ha, hs1⟩

theorem twins_withLocal {dtor : Method C R E τ Unit} {dtor' : Method C R E τ' Unit} {t : τ}
    {t' : τ'} {m : Method C R E (τ × σ) α} {n : Method C R E (τ' × σ') α'}
    (hd : Twins ν T (fun _ _ => True) T dtor dtor') (ht : T t t')
    (hm : Twins ν (fun l l' => T l.1 l'.1 ∧ S l.2 l'.2) A
      (fun l l' => T l.1 l'.1 ∧ S' l.2 l'.2) m n) :
    Twins ν S A S' (withLocal dtor t m) (withLocal dtor' t' n) := by
  intro s s' hs
  apply (hm (t, s) (t', s') ⟨ht, hs⟩).bind
  intro x x' h
  obtain ⟨e, l, l', rfl, rfl, ht1, hs1⟩ | ⟨a, a', l, l', rfl, rfl, ha, ht1, hs1⟩ := ends_cases h
  · apply (twin_destroy hd ht1).bind
    exact fun _ _ _ => .done ⟨rfl, hs1⟩
  · apply (twin_destroy hd ht1).bind
    exact fun _ _ _ => .done ⟨ha, hs1⟩

theorem twins_onLocal {t : τ} {t' : τ'} {m : Method C R E τ Unit} {n : Method C R E τ' Unit}
    (ht : T t t') (hm : Twins ν T (fun _ _ => True) T m n) :
    Twins ν S T S (onLocal t m : Method C R E σ τ) (onLocal t' n : Method C R E σ' τ') := by
  intro s s' hs
  apply (hm t t' ht).map
  intro x x' h
  obtain ⟨e, t1, t1', rfl, rfl, -⟩ | ⟨a, a', t1, t1', rfl, rfl, -, ht1⟩ := ends_cases h
  · exact ⟨rfl, hs⟩
  · exact ⟨ht1, hs⟩

/-! ## Sequences of operations -/

section Plays

variable {Op V : Type} {perform : Op → Method C R E σ V} {f : V → V}

/-- The operations that come to an end on these replies, with their results. -/
def plays (perform : Op → Method C R E σ V) : List Op → σ → List R → List (Op × Except E V)
  | [], _, _ => []
  | op :: ops, s, rs => ((perform op s).runOn rs).elim [] fun (x, rs') =>
    (op, x.1) :: plays perform ops x.2 rs'

/-- On these replies, one operation after the other, the objects do the same: the same calls and
results, up to the renaming. -/
def PlaysLike (ν : Renaming C R) (f : V → V) (perform : Op → Method C R E σ V) :
    List Op → σ → σ → List R → Prop
  | [], _, _, _ => True
  | op :: ops, s, s', rs => Prog.InStep ν
    (fun rs x x' => x'.1 = x.1.map f ∧ PlaysLike ν f perform ops x.2 x'.2 rs)
    (perform op s) (perform op s') rs

theorem map_of_ends {S S' : σ → σ → Prop} {x x' : Except E V × σ}
    (h : Ends (fun v v' => v' = f v) S S' x x') : x'.1 = x.1.map f := by
  obtain ⟨e, t, t', rfl, rfl, -⟩ | ⟨v, v', t, t', rfl, rfl, rfl, -⟩ := ends_cases h
  · rfl
  · rfl

theorem playsLike_of_twins {T : σ → σ → Prop}
    (h : ∀ op s s', T s s' →
      Prog.Twin ν (Ends (fun v v' => v' = f v) T T) (perform op s) (perform op s'))
    (ops : List Op) {s s' : σ} (hs : T s s') (rs : List R) :
    PlaysLike ν f perform ops s s' rs := by
  induction ops generalizing s s' rs with
  | nil => trivial
  | cons op ops ih =>
    refine (h op s s' hs).inStep fun x x' rs' hx => ⟨map_of_ends hx, ih ?_ rs'⟩
    obtain ⟨e, t, t', rfl, rfl, ht⟩ | ⟨v, v', t, t', rfl, rfl, -, ht⟩ := ends_cases hx
    · exact ht
    · exact ht

end Plays

end Method
