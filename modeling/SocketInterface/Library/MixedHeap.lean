import SocketInterface.Library.Heap

/-!
# Objects of one kind among others

A program over objects of one kind, on a heap that holds objects of other kinds too.
What was proved of it on a heap of its own holds there, and the other objects stay what
they are.
-/

open scoped Pointwise

/-- The objects `O` are some of the objects `O'`. -/
structure Kind (O O' : Type) where
  into : O → O'
  out : O' → Option O
  out_into : ∀ o, out (into o) = some o

namespace Kind

open Heap

variable {O O' α β : Type} (κ : Kind O O')

def cells (c : Multiset (Loc × O)) : Multiset (Loc × O') := c.map (Prod.map id κ.into)

def image (P : Assertion O) : Assertion O' := κ.cells '' P

def call : Heap.Call O → Heap.Call O'
  | .make o => .make (κ.into o)
  | .look l => .look l
  | .delete l => .delete l

def reply : Heap.Reply O' → Option (Heap.Reply O)
  | .place l => some (.place l)
  | .object o => (κ.out o).map .object
  | .done => some .done

def run : Program O α → Program O' α
  | .done a => .done a
  | .call c k => .call (κ.call c) fun r =>
    match κ.reply r with
    | some r => run (k r)
    | none => .halt .undefined
  | .halt h => .halt h

variable {κ} {P Q : Assertion O} {c d : Multiset (Loc × O)} {l : Loc} {o : O}

@[simp] theorem cells_zero : κ.cells 0 = 0 := Multiset.map_zero _

@[simp] theorem cells_cons : κ.cells ((l, o) ::ₘ c) = (l, κ.into o) ::ₘ κ.cells c :=
  Multiset.map_cons _ _ _

@[simp] theorem cells_add : κ.cells (c + d) = κ.cells c + κ.cells d := Multiset.map_add _ _ _

@[simp] theorem places_cells : (κ.cells c).map Prod.fst = c.map Prod.fst := by
  rw [cells, Multiset.map_map]
  rfl

@[simp] theorem image_zero : κ.image 0 = 0 := by
  rw [image, ← Set.singleton_zero, Set.image_singleton, cells_zero]
  rfl

theorem image_add : κ.image (P + Q) = κ.image P + κ.image Q := by
  ext c
  constructor
  · rintro ⟨_, ⟨d, hd, e, he, rfl⟩, rfl⟩
    exact ⟨_, ⟨d, hd, rfl⟩, _, ⟨e, he, rfl⟩, cells_add.symm⟩
  · rintro ⟨_, ⟨d, hd, rfl⟩, _, ⟨e, he, rfl⟩, rfl⟩
    exact ⟨_, ⟨d, hd, e, he, rfl⟩, cells_add⟩

theorem image_given {φ : Prop} : κ.image (given φ P) = given φ (κ.image P) := by
  ext c
  constructor
  · rintro ⟨d, ⟨hφ, hd⟩, rfl⟩
    exact ⟨hφ, d, hd, rfl⟩
  · rintro ⟨hφ, d, hd, rfl⟩
    exact ⟨d, ⟨hφ, hd⟩, rfl⟩

@[simp] theorem image_pointsTo : κ.image (pointsTo l o) = pointsTo l (κ.into o) := by
  rw [image, pointsTo, Set.image_singleton, cells, Multiset.map_singleton]
  rfl

theorem exists_part {w : Heap O'} {F : Multiset (Loc × O')} (h : w.cells = κ.cells c + F) :
    ∃ u : Heap O, u.cells = c := by
  have hn := w.nodup
  rw [h, Multiset.map_add, places_cells, Multiset.nodup_add] at hn
  exact ⟨⟨c, hn.1⟩, rfl⟩

theorem step_part {u : Heap O} {w w' : Heap O'} {F : Multiset (Loc × O')} {x : Heap.Call O}
    {r : Heap.Reply O'} (h : w.cells = κ.cells u.cells + F) (hlive : ∃ r u', Step u x r u')
    (hs : Step w (κ.call x) r w') :
    ∃ r' u', κ.reply r = some r' ∧ Step u x r' u' ∧ w'.cells = κ.cells u'.cells + F := by
  obtain ⟨r0, u0, h0⟩ := hlive
  cases x with
  | make o =>
    cases hs with
    | @make _ _ l hw =>
      have hc : w'.cells = κ.cells ((l, o) ::ₘ u.cells) + F := by
        rw [hw, h, cells_cons, Multiset.cons_add]
      obtain ⟨u', hu'⟩ := exists_part hc
      exact ⟨.place l, u', rfl, .make hu', by rw [hc, hu']⟩
  | look l =>
    cases h0 with
    | @look o _ hmem =>
      cases hs with
      | look hmem' =>
        have hin : (l, κ.into o) ∈ w.cells := by
          rw [h]
          exact Multiset.mem_add.mpr (.inl (Multiset.mem_map_of_mem _ hmem))
        obtain rfl := cell_unique hin hmem'
        exact ⟨.object o, u, by rw [reply, κ.out_into]; rfl, .look hmem, h⟩
  | delete l =>
    cases h0 with
    | @delete _ o _ hu =>
      cases hs with
      | delete hw =>
        have hcons : w.cells = (l, κ.into o) ::ₘ (κ.cells u0.cells + F) := by
          rw [h, hu, cells_cons, Multiset.cons_add]
        obtain rfl := cell_unique (hcons ▸ Multiset.mem_cons_self _ _)
          (hw ▸ Multiset.mem_cons_self _ _)
        rw [hcons, Multiset.cons_inj_right] at hw
        exact ⟨.done, u0, rfl, .delete hu, hw.symm⟩

theorem live_part {u : Heap O} {w : Heap O'} {F : Multiset (Loc × O')} {x : Heap.Call O}
    (h : w.cells = κ.cells u.cells + F) (hlive : ∃ r u', Step u x r u') :
    ∃ r w', Step w (κ.call x) r w' := by
  obtain ⟨r, u', hu⟩ := hlive
  cases hu with
  | @make _ o _ _ =>
    obtain ⟨l, w', hw⟩ := exists_make w (κ.into o)
    exact ⟨_, w', .make hw⟩
  | @look o _ hmem =>
    refine ⟨_, w, .look (o := κ.into o) ?_⟩
    rw [h]
    exact Multiset.mem_add.mpr (.inl (Multiset.mem_map_of_mem _ hmem))
  | @delete _ o _ hu =>
    rw [hu, cells_cons, Multiset.cons_add] at h
    obtain ⟨w', hw⟩ := exists_delete h
    exact ⟨_, w', .delete (hw.symm ▸ h)⟩

/-- A run on a mixed heap is one on the heap of its own kind, and the rest is left alone. -/
theorem returns_run {p : Program O α} {R : α → Heap O → Prop} {u : Heap O} {w : Heap O'}
    {F : Multiset (Loc × O')} (hp : p.Returns Step R u) (h : w.cells = κ.cells u.cells + F) :
    (κ.run p).Returns Step (fun a w' => ∃ u', R a u' ∧ w'.cells = κ.cells u'.cells + F) w := by
  induction hp generalizing w with
  | done hR => exact .done ⟨_, hR, h⟩
  | call hlive _ ih =>
    rw [run]
    refine .call (live_part h hlive) fun r w' hs => ?_
    obtain ⟨r', u', hr, hu, hw⟩ := step_part h hlive hs
    rw [hr]
    exact ih r' u' hu hw

theorem triple_run {p : Program O α} {Q : α → Assertion O} (h : Triple P p Q) :
    Triple (κ.image P) (κ.run p) fun a => κ.image (Q a) := by
  rintro G w ⟨_, ⟨c, hc, rfl⟩, d, hd, hw⟩
  obtain ⟨u, rfl⟩ := exists_part hw.symm
  have hu : u.cells ∈ P + (0 : Assertion O) := by rwa [add_zero]
  refine (returns_run (h 0 u hu) hw.symm).mono fun a w' ⟨u', hu', hw'⟩ => ?_
  rw [add_zero] at hu'
  rw [hw']
  exact ⟨_, ⟨_, hu', rfl⟩, d, hd, rfl⟩

end Kind
