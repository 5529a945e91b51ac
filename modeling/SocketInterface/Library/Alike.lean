import SocketInterface.Library.Program

/-!
# Programs that are alike in a world

In a world that gives only certain replies two programs may be alike: they issue the same
calls, whatever the world replies, and come to related ends. One of them may be written
with bounded numbers, and the other with unbounded ones.
-/

namespace Prog

variable {W C R α β α' β' : Type}

/-- From the world `w` on `p` and `q` issue the same calls, and their ends are related by `Q`. -/
inductive Alike (env : W → C → R → W → Prop) (Q : α → β → W → Prop) :
    Prog C R α → Prog C R β → W → Prop
  | done {a b w} (h : Q a b w) : Alike env Q (.done a) (.done b) w
  | call {c k k' w} (h : ∀ r w', env w c r w' → Alike env Q (k r) (k' r) w') :
      Alike env Q (.call c k) (.call c k') w
  | halt {w} (h : Halt) : Alike env Q (.halt h) (.halt h) w

namespace Alike

variable {env : W → C → R → W → Prop} {Q : α → β → W → Prop} {Q' : α' → β' → W → Prop}
  {p : Prog C R α} {q : Prog C R β} {w w' : W}

theorem bind {f : α → Prog C R α'} {g : β → Prog C R β'} (h : Alike env Q p q w)
    (hfg : ∀ a b w, Q a b w → Alike env Q' (f a) (g b) w) :
    Alike env Q' (p.bind f) (q.bind g) w := by
  induction h with
  | done h => exact hfg _ _ _ h
  | call _ ih => exact .call ih
  | halt h => exact .halt h

theorem symm (h : Alike env Q p q w) : Alike env (fun b a w => Q a b w) q p w := by
  induction h with
  | done h => exact .done h
  | call _ ih => exact .call ih
  | halt h => exact .halt h

theorem of_returns {P : α → W → Prop} (h : Returns env P p w) :
    Alike env (fun a b w => a = b ∧ P a w) p p w := by
  induction h with
  | done h => exact .done ⟨rfl, h⟩
  | call _ _ ih => exact .call ih

theorem exec (h : Alike env Q p q w) {evs : List (Event W C R)} {a : α}
    (hx : Exec env p w evs a w') : ∃ b, Exec env q w evs b w' ∧ Q a b w' := by
  induction h generalizing evs with
  | done h =>
    obtain ⟨rfl, rfl, rfl⟩ := exec_done.mp hx
    exact ⟨_, .done _ _, h⟩
  | call _ ih =>
    obtain ⟨r, w1, evs1, hr, hrest, rfl⟩ := exec_call.mp hx
    obtain ⟨b, hb, hQ⟩ := ih r w1 hr hrest
    exact ⟨b, .call hr hb, hQ⟩
  | halt => exact absurd hx exec_halt

theorem returns (h : Alike env Q p q w) {P : α → W → Prop} (hret : Returns env P p w) :
    Returns env (fun b w => ∃ a, Q a b w ∧ P a w) q w := by
  induction h with
  | done h => exact .done ⟨_, h, returns_done.mp hret⟩
  | call _ ih =>
    obtain ⟨hlive, hk⟩ := returns_call.mp hret
    exact .call hlive fun r w' hr => ih r w' hr (hk r w' hr)
  | halt => exact absurd hret not_returns_halt

end Alike

end Prog
