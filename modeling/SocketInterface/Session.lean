import SocketInterface.FdGuard
import SocketInterface.Library.Runs

/-!
# Sessions

One object and the kernel, under a list of operations: what holds after each of them,
also after one that throws.
-/

namespace Snl

open Method

structure Config (σ : Type) where
  fsm : σ
  kernel : Kernel

structure Label (Op V : Type) where
  op : Op
  evs : List Ev
  result : Except SnlException V

variable {σ Op V : Type}

def OpStep (m : CloseFailure) (perform : Op → M σ V) (c : Config σ) (l : Label Op V)
    (c' : Config σ) : Prop :=
  Runs (Kernel.Answers m) (perform l.op) c.fsm c.kernel l.evs l.result c'.fsm c'.kernel

def nextOp (m : CloseFailure) (perform : Op → M σ V) (c : Config σ) (i : Op × List Reply) :
    Option (Label Op V × Config σ) :=
  (Prog.drive (Kernel.answer m) (perform i.1 c.fsm) c.kernel i.2).map
    fun x => (⟨i.1, x.1, x.2.1.1⟩, ⟨x.2.1.2, x.2.2⟩)

def callsOf (t : List (Move (Config σ) (Label Op V))) : List Ev := t.flatMap (·.label.evs)

@[simp] theorem callsOf_nil : callsOf ([] : List (Move (Config σ) (Label Op V))) = [] := rfl

@[simp] theorem callsOf_snoc (t : List (Move (Config σ) (Label Op V)))
    (x : Move (Config σ) (Label Op V)) : callsOf (t ++ [x]) = callsOf t ++ x.label.evs := by
  simp [callsOf]

variable {m : CloseFailure} {perform : Op → M σ V}

theorem nextOp_step (c : Config σ) (i : Op × List Reply) (l : Label Op V) (c' : Config σ)
    (h : nextOp m perform c i = some (l, c')) : OpStep m perform c l c' := by
  simp only [nextOp, Option.map_eq_some_iff, Prod.mk.injEq] at h
  obtain ⟨⟨evs, ⟨r, s⟩, k⟩, h, rfl, rfl⟩ := h
  exact Prog.drive_exec h

theorem path_of_session {c c' : Config σ} {is : List (Op × List Reply)}
    {t : List (Move (Config σ) (Label Op V))}
    (h : follow (nextOp m perform) c is = some (t, c')) : StepPath (OpStep m perform) c t c' :=
  StepPath.of_follow nextOp_step h

theorem path_of_session_then {c c' c'' : Config σ} {is : List (Op × List Reply)}
    {t : List (Move (Config σ) (Label Op V))} {i : Op × List Reply} {l : Label Op V}
    (h : follow (nextOp m perform) c is = some (t, c'))
    (h' : nextOp m perform c' i = some (l, c'')) :
    StepPath (OpStep m perform) c t c' ∧ OpStep m perform c' l c'' :=
  ⟨path_of_session h, nextOp_step _ _ _ _ h'⟩

theorem runs_after_session {τ α : Type} {c c' : Config σ} {is : List (Op × List Reply)}
    {t : List (Move (Config σ) (Label Op V))} {p : M τ α} {f : σ → τ} {j : List Reply}
    {evs : List Ev} {r : Except SnlException α} {x' : τ} {k' : Kernel}
    (h : follow (nextOp m perform) c is = some (t, c'))
    (h' : Prog.drive (Kernel.answer m) (p (f c'.fsm)) c'.kernel j = some (evs, (r, x'), k')) :
    StepPath (OpStep m perform) c t c' ∧
      Runs (Kernel.Answers m) p (f c'.fsm) c'.kernel evs r x' k' :=
  ⟨path_of_session h, Prog.drive_exec h'⟩

/-! ## Inputs of the concrete sessions -/

abbrev littleHost : Host := ⟨.little⟩

def emptyKernel : Kernel := ⟨fun _ => none, 0, fun _ => 0⟩

theorem emptyKernel_wf : emptyKernel.Wf := by constructor <;> simp [emptyKernel]

def someAddress : SocketAddress := .make ⟨.ipv4Impl ![10, 0, 0, 1]⟩ ⟨80⟩

def okReply : Reply := ⟨0, 0, .zero, []⟩

def failReply (errno : Int) : Reply := ⟨-1, errno, .zero, []⟩

/-- `socket`, `connect` or `bind`, and the two `fcntl` calls succeed. -/
def setupReplies (fd : Fd) : List Reply := [⟨fd, 0, .zero, []⟩, okReply, okReply, okReply]

end Snl
