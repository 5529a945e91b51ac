import SocketInterface.Library.Program
import Mathlib.Algebra.Group.Pointwise.Set.Lattice
import Mathlib.Algebra.Order.Group.Multiset
import Mathlib.Data.Fintype.EquivFin

/-!
# Objects on the heap

Programs that make objects, look at them and delete them, and a separation logic for
these programs. An assertion is the set of the cells that meet it, and the sum of two
sets of cells is the separating conjunction.
-/

open scoped Pointwise

abbrev Loc := Nat

structure Heap (O : Type) where
  cells : Multiset (Loc × O)
  nodup : (cells.map Prod.fst).Nodup

namespace Heap

variable {O α β : Type}

def empty : Heap O := ⟨0, by simp⟩

inductive Call (O : Type) where
  | make (o : O)
  | look (l : Loc)
  | delete (l : Loc)

inductive Reply (O : Type) where
  | place (l : Loc)
  | object (o : O)
  | done

/-- An object is made at a place that is not in use. There is no answer to `look` and `delete`
for a place that is not in use. -/
inductive Step : Heap O → Call O → Reply O → Heap O → Prop
  | make {w w' : Heap O} {o : O} {l : Loc} (h : w'.cells = (l, o) ::ₘ w.cells) :
      Step w (.make o) (.place l) w'
  | look {w : Heap O} {o : O} {l : Loc} (h : (l, o) ∈ w.cells) : Step w (.look l) (.object o) w
  | delete {w w' : Heap O} {o : O} {l : Loc} (h : w.cells = (l, o) ::ₘ w'.cells) :
      Step w (.delete l) .done w'

abbrev Program (O α : Type) : Type := Prog (Call O) (Reply O) α

def make (o : O) : Program O Loc := .call (.make o) fun
  | .place l => .done l
  | _ => .halt .undefined

def look (l : Loc) : Program O O := .call (.look l) fun
  | .object o => .done o
  | _ => .halt .undefined

def delete (l : Loc) : Program O Unit := .call (.delete l) fun
  | .done => .done ()
  | _ => .halt .undefined

theorem cell_unique {w : Heap O} {l : Loc} {o o' : O} (h : (l, o) ∈ w.cells)
    (h' : (l, o') ∈ w.cells) : o' = o :=
  congrArg Prod.snd (Multiset.inj_on_of_nodup_map w.nodup _ h' _ h rfl)

theorem exists_make (w : Heap O) (o : O) : ∃ (l : Loc) (w' : Heap O),
    w'.cells = (l, o) ::ₘ w.cells := by
  obtain ⟨l, hl⟩ := Infinite.exists_notMem_finset (w.cells.map Prod.fst).toFinset
  refine ⟨l, ⟨(l, o) ::ₘ w.cells, ?_⟩, rfl⟩
  rw [Multiset.map_cons, Multiset.nodup_cons]
  exact ⟨fun h => hl (Multiset.mem_toFinset.mpr h), w.nodup⟩

theorem exists_delete {w : Heap O} {l : Loc} {o : O} {c : Multiset (Loc × O)}
    (h : w.cells = (l, o) ::ₘ c) : ∃ w' : Heap O, w'.cells = c := by
  have hn := w.nodup
  rw [h, Multiset.map_cons, Multiset.nodup_cons] at hn
  exact ⟨⟨c, hn.2⟩, rfl⟩

/-! ## Assertions -/

abbrev Assertion (O : Type) : Type := Set (Multiset (Loc × O))

def pointsTo (l : Loc) (o : O) : Assertion O := { {(l, o)} }

theorem mem_pointsTo_add {l : Loc} {o : O} {P : Assertion O} {c : Multiset (Loc × O)} :
    c ∈ pointsTo l o + P ↔ ∃ d ∈ P, c = (l, o) ::ₘ d := by
  rw [pointsTo, Set.singleton_add, Set.mem_image]
  constructor
  · rintro ⟨d, hd, rfl⟩
    exact ⟨d, hd, Multiset.singleton_add _ _⟩
  · rintro ⟨d, hd, rfl⟩
    exact ⟨d, hd, Multiset.singleton_add _ _⟩

def given (φ : Prop) (P : Assertion O) : Assertion O := {c | φ ∧ c ∈ P}

/-- From every heap with cells that meet `P`, every run of the program comes to an end, and turns
these cells into cells that meet `Q`. The cells beside them stay what they are. -/
def Triple (P : Assertion O) (p : Program O α) (Q : α → Assertion O) : Prop :=
  ∀ (F : Assertion O) (w : Heap O), w.cells ∈ P + F →
    p.Returns Step (fun a w' => w'.cells ∈ Q a + F) w

variable {P P' F : Assertion O} {Q Q' : α → Assertion O} {R : β → Assertion O} {p : Program O α}
  {l : Loc} {o : O}

theorem triple_done {a : α} (h : P ⊆ Q a) : Triple P (pure a) Q := by
  intro F w hw
  exact .done (Set.add_subset_add_right h hw)

theorem triple_empty : Triple ∅ p Q := by
  intro F w hw
  rw [Set.empty_add] at hw
  exact absurd hw (Set.notMem_empty _)

theorem triple_iUnion {ι : Type} {P : ι → Assertion O} (h : ∀ i, Triple (P i) p Q) :
    Triple (⋃ i, P i) p Q := by
  intro F w hw
  rw [Set.iUnion_add] at hw
  obtain ⟨i, hi⟩ := Set.mem_iUnion.mp hw
  exact h i F w hi

theorem triple_given {φ : Prop} (h : φ → Triple P p Q) : Triple (given φ P) p Q := by
  rintro F w ⟨c, ⟨hφ, hc⟩, d, hd, hw⟩
  exact h hφ F w ⟨c, hc, d, hd, hw⟩

theorem Triple.bind {f : α → Program O β} (h : Triple P p Q)
    (hf : ∀ a, Triple (Q a) (f a) R) : Triple P (p >>= f) R := by
  intro F w hw
  exact Prog.Returns.bind (h F w hw) fun a w' => hf a F w'

theorem Triple.mono (h : Triple P p Q) (hP : P' ⊆ P) (hQ : ∀ a, Q a ⊆ Q' a) :
    Triple P' p Q' := by
  intro F w hw
  exact (h F w (Set.add_subset_add_right hP hw)).mono fun a w' =>
    fun hw' => Set.add_subset_add_right (hQ a) hw'

theorem Triple.frame (h : Triple P p Q) (F : Assertion O) :
    Triple (P + F) p fun a => Q a + F := by
  intro G w hw
  rw [add_assoc] at hw
  refine (h (F + G) w hw).mono fun a w' hw' => ?_
  rw [add_assoc]
  exact hw'

theorem Triple.bind_eq {a : α} {f : α → Program O β} (h : Triple P p fun b => given (b = a) P')
    (hf : Triple (P' + F) (f a) R) : Triple (P + F) (p >>= f) R := by
  refine (h.frame F).bind fun b G w hw => ?_
  obtain ⟨_, ⟨c, ⟨rfl, hc⟩, d, hd, rfl⟩, e, he, hw⟩ := hw
  exact hf G w ⟨_, ⟨c, hc, d, hd, rfl⟩, e, he, hw⟩

theorem triple_make : Triple P (make o) fun l => pointsTo l o + P := by
  intro F w hw
  refine .call ?_ ?_
  · obtain ⟨l, w', h'⟩ := exists_make w o
    exact ⟨_, w', .make h'⟩
  · intro r w' hr
    cases hr with
    | make h' =>
      refine .done ?_
      rw [add_assoc]
      exact mem_pointsTo_add.mpr ⟨w.cells, hw, h'⟩

theorem triple_look : Triple (pointsTo l o) (look l) fun b => given (b = o) (pointsTo l o) := by
  intro F w hw
  have hmem : (l, o) ∈ w.cells := by
    obtain ⟨d, -, hd⟩ := mem_pointsTo_add.mp hw
    rw [hd]
    exact Multiset.mem_cons_self _ _
  refine .call ⟨_, w, .look hmem⟩ ?_
  intro r w' hr
  cases hr with
  | look h' =>
    obtain ⟨c, hc, d, hd, hw⟩ := hw
    exact .done ⟨c, ⟨cell_unique hmem h', hc⟩, d, hd, hw⟩

theorem triple_delete : Triple (pointsTo l o) (delete l) fun _ => 0 := by
  intro F w hw
  obtain ⟨d, hd, hcells⟩ := mem_pointsTo_add.mp hw
  refine .call ?_ ?_
  · obtain ⟨w', hw'⟩ := exists_delete hcells
    exact ⟨_, w', .delete (hw'.symm ▸ hcells)⟩
  · intro r w' hr
    cases hr with
    | delete h' =>
      obtain rfl := cell_unique (hcells ▸ Multiset.mem_cons_self _ _)
        (h' ▸ Multiset.mem_cons_self _ _)
      rw [hcells, Multiset.cons_inj_right] at h'
      refine .done ?_
      rw [zero_add]
      exact h' ▸ hd

end Heap
