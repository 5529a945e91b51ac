import Mathlib.Data.List.Infix

/-!
# Strings cut at a delimiter

A string is read up to the first place where the delimiter is complete, then again from
there. Lines that are joined with a delimiter come back unless it overlaps with itself.
-/

variable {α : Type} {d s l l' rest rest' : List α}

/-- `d` occurs in `s` behind `l` for the first time, and `rest` is left. -/
structure Cut (d s l rest : List α) : Prop where
  eq : s = l ++ d ++ rest
  first : ∀ i < l.length, ¬ d <+: s.drop i

/-- `s` is cut at `d` into the lines `ls`, and `r` is left, without a `d`. -/
inductive Lines (d : List α) : List α → List (List α) → List α → Prop
  | last {r} (h : ¬ d <:+: r) : Lines d r [] r
  | line {s l rest ls r} (h : Cut d s l rest) (hls : Lines d rest ls r) : Lines d s (l :: ls) r

def joined (d : List α) (ls : List (List α)) : List α := ls.flatMap (· ++ d)

/-- No proper prefix of `d` is a suffix of it, but the empty one. -/
def Unbordered (d : List α) : Prop := ∀ b, b ≠ [] → b <+: d → b <:+ d → b = d

instance [DecidableEq α] (d : List α) : Decidable (Unbordered d) :=
  decidable_of_iff (∀ b ∈ d.inits, b ≠ [] → b <:+ d → b = d) (by
    simp only [List.mem_inits, Unbordered]
    exact forall_congr' fun b => ⟨fun h hne hp => h hp hne, fun h hp hne => h hne hp⟩)

@[simp] theorem joined_nil : joined d [] = [] := rfl

@[simp] theorem joined_cons (ls : List (List α)) :
    joined d (l :: ls) = l ++ d ++ joined d ls := by simp [joined]

theorem joined_append (ls ls' : List (List α)) :
    joined d (ls ++ ls') = joined d ls ++ joined d ls' := by simp [joined]

theorem infix_of_prefix_drop {i : Nat} (h : d <+: s.drop i) : d <:+: s :=
  h.isInfix.trans (List.drop_suffix i s).isInfix

theorem infix_iff_drop : d <:+: s ↔ ∃ i ≤ s.length, d <+: s.drop i := by
  constructor
  · rintro ⟨a, b, rfl⟩
    refine ⟨a.length, ?_, b, by simp⟩
    simp only [List.length_append]
    omega
  · rintro ⟨i, -, h⟩
    exact infix_of_prefix_drop h

theorem Cut.length (h : Cut d s l rest) : s.length = l.length + d.length + rest.length := by
  rw [h.eq]
  simp only [List.length_append]

theorem Cut.isInfix (h : Cut d s l rest) : d <:+: s := ⟨l, rest, h.eq.symm⟩

theorem Cut.prefix_drop (h : Cut d s l rest) : d <+: s.drop l.length := by
  rw [h.eq, List.append_assoc, List.drop_left]
  exact List.prefix_append d rest

theorem Cut.unique (h : Cut d s l rest) (h' : Cut d s l' rest') : l = l' ∧ rest = rest' := by
  have hle : ¬ l.length < l'.length := fun hlt => h'.first _ hlt h.prefix_drop
  have hge : ¬ l'.length < l.length := fun hlt => h.first _ hlt h'.prefix_drop
  have heq : l ++ (d ++ rest) = l' ++ (d ++ rest') := by
    rw [← List.append_assoc, ← List.append_assoc, ← h.eq, ← h'.eq]
  obtain ⟨rfl, hrest⟩ := List.append_inj heq (by omega)
  exact ⟨rfl, List.append_cancel_left hrest⟩

theorem cut_of_scan {p : List α} {b : α} (hp : ¬ d <:+: p) (hb : d <:+: p ++ [b])
    (rest : List α) : ∃ l, p ++ [b] = l ++ d ∧ Cut d (p ++ [b] ++ rest) l rest := by
  obtain ⟨l, hl⟩ : d <:+ p ++ [b] := (List.infix_concat_iff.mp hb).resolve_right hp
  refine ⟨l, hl.symm, by rw [hl], fun i hi hpre => hp ?_⟩
  -- an earlier occurrence would lie in `p`
  have hlen := congrArg List.length hl
  simp only [List.length_append, List.length_singleton] at hlen
  have hdrop : (p ++ [b] ++ rest).drop i = p.drop i ++ ([b] ++ rest) := by
    rw [List.append_assoc, List.drop_append_of_le_length (by omega)]
  rw [hdrop] at hpre
  have hshort : d <+: p.drop i :=
    List.prefix_of_prefix_length_le hpre (List.prefix_append _ _)
      (by rw [List.length_drop]; omega)
  exact infix_of_prefix_drop hshort

theorem Lines.unique {ls ls' : List (List α)} {r r' : List α} (h : Lines d s ls r)
    (h' : Lines d s ls' r') : ls = ls' ∧ r = r' := by
  induction h generalizing ls' r' with
  | last hfree =>
    cases h' with
    | last => exact ⟨rfl, rfl⟩
    | line hcut => exact absurd hcut.isInfix hfree
  | line hcut _ ih =>
    cases h' with
    | last hfree => exact absurd hcut.isInfix hfree
    | line hcut' hls' =>
      obtain ⟨rfl, rfl⟩ := hcut.unique hcut'
      obtain ⟨rfl, rfl⟩ := ih hls'
      exact ⟨rfl, rfl⟩

/-! ## Delimiters that overlap with themselves -/

/-- Behind a line without `d`, an unbordered `d` is complete at its own end for the first time. -/
theorem cut_of_unbordered (hd : Unbordered d) (hl : ¬ d <:+: l) (rest : List α) :
    Cut d (l ++ d ++ rest) l rest := by
  refine ⟨rfl, fun i hi hpre => ?_⟩
  have hdrop : (l ++ d ++ rest).drop i = l.drop i ++ (d ++ rest) := by
    rw [List.append_assoc, List.drop_append_of_le_length (by omega)]
  rw [hdrop] at hpre
  by_cases hshort : d.length ≤ (l.drop i).length
  · have hin : d <+: l.drop i :=
      List.prefix_of_prefix_length_le hpre (List.prefix_append _ _) hshort
    exact hl (infix_of_prefix_drop hin)
  · -- the occurrence straddles the end of the line: what is behind it is a border
    have htail : l.drop i <+: d := List.prefix_of_prefix_length_le (List.prefix_append _ _) hpre
      (by omega)
    obtain ⟨b, hb⟩ := htail
    rw [← hb, List.prefix_append_right_inj] at hpre
    have hlen := congrArg List.length hb
    simp only [List.length_append, List.length_drop] at hlen hshort
    have hbpre : b <+: d := List.prefix_of_prefix_length_le (hb ▸ hpre)
      (List.prefix_append d rest) (by omega)
    have hbne : b ≠ [] := by
      rintro rfl
      simp only [List.length_nil] at hlen
      omega
    have hbd := hd b hbne hbpre ⟨_, hb⟩
    rw [hbd] at hlen
    omega

theorem lines_joined (hd : Unbordered d) (hne : d ≠ []) {ls : List (List α)}
    (hls : ∀ l ∈ ls, ¬ d <:+: l) : Lines d (joined d ls) ls [] := by
  induction ls with
  | nil => exact .last (by simpa using hne)
  | cons l ls ih =>
    rw [List.forall_mem_cons] at hls
    rw [joined_cons]
    exact .line (cut_of_unbordered hd hls.1 _) (ih hls.2)

theorem not_lines_of_bordered (hd : ¬ Unbordered d) :
    ∃ l, ¬ d <:+: l ∧ ∀ r, ¬ Lines d (joined d [l]) [l] r := by
  obtain ⟨b, hbne, ⟨x, hx⟩, ⟨v, hv⟩, hbd⟩ : ∃ b, b ≠ [] ∧ b <+: d ∧ b <:+ d ∧ b ≠ d := by
    simpa [Unbordered] using hd
  have hvne : v ≠ [] := by
    rintro rfl
    exact hbd (by simpa using hv)
  have hblen := List.length_pos_iff.mpr hbne
  have hlen := congrArg List.length hv
  rw [List.length_append] at hlen
  refine ⟨v, fun hin => ?_, fun r h => ?_⟩
  · have := hin.length_le
    omega
  · -- the delimiter is complete at the very start
    have hstart : d <+: joined d [v] := by
      refine ⟨x, ?_⟩
      calc d ++ x = v ++ b ++ x := by rw [hv]
        _ = v ++ d := by rw [List.append_assoc, hx]
        _ = joined d [v] := by rw [joined_cons, joined_nil, List.append_nil]
    cases h with
    | line hcut => exact hcut.first 0 (List.length_pos_iff.mpr hvne) hstart

theorem Cut.lt_length (hne : d ≠ []) (h : Cut d s l rest) : rest.length < s.length := by
  have := List.length_pos_iff.mpr hne
  have := h.length
  omega

theorem length_le_joined {ls : List (List α)} (h : l ∈ ls) :
    (l ++ d).length ≤ (joined d ls).length := by
  obtain ⟨as, bs, rfl⟩ := List.append_of_mem h
  rw [joined_append, joined_cons]
  simp only [List.length_append]
  omega
