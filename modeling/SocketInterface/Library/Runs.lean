import Mathlib.Data.List.Infix

/-!
# Labelled transition systems and their runs

A run is the list of its moves. A property of every moment of a run speaks about the
prefixes of that list and the state each of them ends in.
-/

structure Move (S L : Type) where
  before : S
  label : L
  after : S

variable {S L : Type}

def Move.map {S' L' : Type} (f : S → S') (g : L → L') (x : Move S L) : Move S' L' :=
  ⟨f x.before, g x.label, f x.after⟩

inductive StepPath (step : S → L → S → Prop) (s0 : S) : List (Move S L) → S → Prop
  | nil : StepPath step s0 [] s0
  | snoc {t : List (Move S L)} {s s' : S} {l : L} (h : StepPath step s0 t s) (hstep : step s l s') :
      StepPath step s0 (t ++ [⟨s, l, s'⟩]) s'

def endState (s0 : S) (t : List (Move S L)) : S := (t.getLast?.map Move.after).getD s0

@[simp] theorem endState_nil (s0 : S) : endState s0 ([] : List (Move S L)) = s0 := rfl

@[simp] theorem endState_snoc (s0 : S) (t : List (Move S L)) (x : Move S L) :
    endState s0 (t ++ [x]) = x.after := by simp [endState]

/-- Every move of the run meets the condition `C`, which may depend on the moves before it. -/
def Along (C : List (Move S L) → Move S L → Prop) (t : List (Move S L)) : Prop :=
  ∀ t1 x t2, t = t1 ++ x :: t2 → C t1 x

theorem along_nil (C : List (Move S L) → Move S L → Prop) : Along C [] := by
  simp [Along]

theorem along_snoc {C : List (Move S L) → Move S L → Prop} {t : List (Move S L)} {x : Move S L} :
    Along C (t ++ [x]) ↔ Along C t ∧ C t x := by
  constructor
  · intro h
    exact ⟨fun t1 y t2 ht => h t1 y (t2 ++ [x]) (by simp [ht]), h t x [] rfl⟩
  · rintro ⟨h, hx⟩ t1 y t2 ht
    rcases t2.eq_nil_or_concat with rfl | ⟨t3, z, rfl⟩
    · obtain ⟨rfl, hxy⟩ := List.append_inj' ht rfl
      obtain rfl := List.singleton_inj.mp hxy
      exact hx
    · rw [List.concat_eq_append, ← List.cons_append, ← List.append_assoc] at ht
      obtain ⟨rfl, -⟩ := List.append_inj' ht rfl
      exact h t1 y t3 rfl

namespace StepPath

variable {step : S → L → S → Prop} {s0 s : S} {t : List (Move S L)}

theorem endState_eq (h : StepPath step s0 t s) : endState s0 t = s := by
  cases h with
  | nil => rfl
  | snoc => simp

theorem invariant {I : List (Move S L) → S → Prop} (h0 : I [] s0)
    (hstep : ∀ t s l s', I t s → step s l s' → I (t ++ [⟨s, l, s'⟩]) s')
    (h : StepPath step s0 t s) : I t s := by
  induction h with
  | nil => exact h0
  | snoc _ hs ih => exact hstep _ _ _ _ ih hs

theorem cons {s1 : S} {l : L} (hs : step s0 l s1) (h : StepPath step s1 t s) :
    StepPath step s0 (⟨s0, l, s1⟩ :: t) s := by
  induction h with
  | nil => exact .snoc .nil hs
  | snoc _ hs' ih => exact .snoc ih hs'

theorem append {t' : List (Move S L)} {s' : S} (h : StepPath step s0 t s) (h' : StepPath step s t' s') :
    StepPath step s0 (t ++ t') s' := by
  induction h' with
  | nil => simpa using h
  | snoc _ hs ih => simpa [← List.append_assoc] using StepPath.snoc ih hs

theorem prefix_snoc {t1 t : List (Move S L)} {x : Move S L} :
    t1 <+: t ++ [x] ↔ t1 <+: t ∨ t1 = t ++ [x] := by
  rw [List.prefix_concat_iff, or_comm]

/-- `P` holds at every moment of a run exactly when every move meets the condition `C`: under the
invariant a move leads to `P` exactly when it meets `C`, and then it keeps the invariant. -/
theorem always_iff {P I : List (Move S L) → S → Prop} {C : Move S L → Prop}
    (h0 : I [] s0) (hP0 : P [] s0)
    (hstep : ∀ t s l s', I t s → step s l s' →
      (P (t ++ [⟨s, l, s'⟩]) s' ↔ C ⟨s, l, s'⟩) ∧
        (C ⟨s, l, s'⟩ → I (t ++ [⟨s, l, s'⟩]) s'))
    (h : StepPath step s0 t s) :
    (∀ t1, t1 <+: t → P t1 (endState s0 t1)) ↔ ∀ x ∈ t, C x := by
  have hinv : ∀ t s, StepPath step s0 t s → (∀ x ∈ t, C x) → I t s := by
    intro t s h
    induction h with
    | nil => exact fun _ => h0
    | snoc _ hs ih =>
      intro hC
      exact (hstep _ _ _ _ (ih fun x hx => hC x (by simp [hx])) hs).2 (hC _ (by simp))
  induction h with
  | nil =>
    simp only [List.prefix_nil, forall_eq, endState_nil, List.not_mem_nil, false_implies,
      implies_true, iff_true]
    exact hP0
  | @snoc t s s' l h hs ih =>
    simp only [prefix_snoc, or_imp, forall_and, forall_eq, endState_snoc, ih, List.mem_append,
      List.mem_singleton]
    exact and_congr_right fun hC => (hstep t s l s' (hinv t s h hC) hs).1

theorem snoc_iff {x : Move S L} : StepPath step s0 (t ++ [x]) s ↔
    StepPath step s0 t x.before ∧ step x.before x.label x.after ∧ s = x.after := by
  constructor
  · intro h
    generalize hu : t ++ [x] = u at h
    cases h with
    | nil => simp at hu
    | snoc h hs =>
      obtain ⟨rfl, hx⟩ := List.append_inj' hu rfl
      obtain rfl := List.singleton_inj.mp hx
      exact ⟨h, hs, rfl⟩
  · rintro ⟨h, hs, rfl⟩
    exact .snoc h hs

theorem split {t1 t2 : List (Move S L)} (h : StepPath step s0 (t1 ++ t2) s) :
    StepPath step s0 t1 (endState s0 t1) ∧ StepPath step (endState s0 t1) t2 s := by
  induction t2 using List.reverseRecOn generalizing s with
  | nil =>
    rw [List.append_nil] at h
    rw [h.endState_eq]
    exact ⟨h, .nil⟩
  | append_singleton t2 x ih =>
    rw [← List.append_assoc] at h
    obtain ⟨hpre, hs, rfl⟩ := snoc_iff.mp h
    obtain ⟨h1, h2⟩ := ih hpre
    exact ⟨h1, snoc_iff.mpr ⟨h2, hs, rfl⟩⟩

/-- Seen through `f` and `g`, a run is one of another system exactly when each of its moves is. -/
theorem map_iff {S' L' : Type} {step' : S' → L' → S' → Prop} {f : S → S'} {g : L → L'}
    {C : Move S L → Prop}
    (hstep : ∀ s l s', step s l s' → (step' (f s) (g l) (f s') ↔ C ⟨s, l, s'⟩))
    (h : StepPath step s0 t s) :
    StepPath step' (f s0) (t.map (Move.map f g)) (f s) ↔ ∀ x ∈ t, C x := by
  induction h with
  | nil => simp [StepPath.nil]
  | @snoc t s s' l h hs ih =>
    have hend : StepPath step' (f s0) (t.map (Move.map f g)) (f s) ∧
        step' (f s) (g l) (f s') ↔ (∀ x ∈ t, C x) ∧ C ⟨s, l, s'⟩ := by
      rw [ih, hstep s l s' hs]
    rw [List.map_append, List.map_singleton, snoc_iff]
    simpa [Move.map, or_imp, forall_and] using hend

end StepPath

/-! ## Executable systems -/

section

variable {I : Type}

def follow (next : S → I → Option (L × S)) : S → List I → Option (List (Move S L) × S)
  | s, [] => some ([], s)
  | s, i :: is => (next s i).bind fun x =>
    (follow next x.2 is).map fun y => (⟨s, x.1, x.2⟩ :: y.1, y.2)

theorem StepPath.of_follow {next : S → I → Option (L × S)} {step : S → L → S → Prop}
    (hnext : ∀ s i l s', next s i = some (l, s') → step s l s') {s s' : S} {is : List I}
    {t : List (Move S L)} (h : follow next s is = some (t, s')) : StepPath step s t s' := by
  induction is generalizing s t with
  | nil =>
    simp only [follow, Option.some.injEq, Prod.mk.injEq] at h
    obtain ⟨rfl, rfl⟩ := h
    exact .nil
  | cons i is ih =>
    simp only [follow, Option.bind_eq_some_iff, Option.map_eq_some_iff, Prod.mk.injEq] at h
    obtain ⟨⟨l, s1⟩, h1, ⟨t1, s2⟩, h2, rfl, rfl⟩ := h
    exact .cons (hnext _ _ _ _ h1) (ih h2)

end
