import Mathlib.Data.List.Induction
import Mathlib.Data.Nat.Digits.Defs
import Mathlib.Tactic.Ring

/-!
# Numbers with separators between them

The fields of a text are numerals in some base. Where a separator is doubled, zeros were
left out: they are as many as the whole lacks.
-/

variable {α β : Type}

/-! ## Numerals -/

/-- The digits of the base `b`. Two symbols may stand for one digit. -/
structure DigitSet (α : Type) (b : Nat) where
  value : α → Option Nat
  symbol : Nat → α
  base : 1 < b
  value_lt : ∀ x d, value x = some d → d < b
  value_symbol : ∀ d < b, value (symbol d) = some d

namespace DigitSet

variable {b : Nat} (D : DigitSet α b) {w n : Nat} {t : List α}

def horner (t : List α) : Option Nat := t.foldlM (fun n x => (D.value x).map (b * n + ·)) 0

def read (w : Nat) (t : List α) : Option Nat :=
  if t = [] ∨ w < t.length then none else D.horner t

/-- The numeral without leading zeros. -/
def write (n : Nat) : List α :=
  if n = 0 then [D.symbol 0] else (b.digits n).reverse.map D.symbol

variable {D}

theorem horner_append_one {x : α} :
    D.horner (t ++ [x]) = (D.horner t).bind fun n => (D.value x).map (b * n + ·) := by
  simp [horner, List.foldlM_append]

theorem horner_mem (h : D.horner t = some n) : ∀ x ∈ t, ∃ d, D.value x = some d := by
  induction t using List.reverseRecOn generalizing n with
  | nil => simp
  | append_singleton t x ih =>
    rw [horner_append_one, Option.bind_eq_some_iff] at h
    obtain ⟨m, hm, h⟩ := h
    obtain ⟨d, hd, -⟩ := Option.map_eq_some_iff.mp h
    intro y hy
    rcases List.mem_append.mp hy with hy | hy
    · exact ih hm y hy
    · rw [List.mem_singleton.mp hy]
      exact ⟨d, hd⟩

theorem write_eq : D.write n = (if n < b then [] else D.write (n / b)) ++ [D.symbol (n % b)] := by
  have hb := D.base
  unfold write
  by_cases hn : n < b
  · rw [if_pos hn, Nat.mod_eq_of_lt hn, List.nil_append]
    split
    · rename_i h0
      rw [h0]
    · rename_i h0
      rw [Nat.digits_of_lt b n h0 hn]
      rfl
  · have hdiv : n / b ≠ 0 := by
      rw [ne_eq, Nat.div_eq_zero_iff]
      omega
    rw [if_neg hn, if_neg (by omega), if_neg hdiv, Nat.digits_def' hb (by omega),
      List.reverse_cons, List.map_append]
    rfl

theorem horner_write : D.horner (D.write n) = some n := by
  induction n using Nat.strong_induction_on with
  | _ n ih =>
    have hb := D.base
    rw [write_eq, horner_append_one, D.value_symbol _ (Nat.mod_lt _ (by omega))]
    split
    · rename_i hn
      simp [horner, Nat.mod_eq_of_lt hn]
    · rw [ih _ (Nat.div_lt_self (by omega) hb)]
      simp [Nat.div_add_mod]

theorem length_write (hw : 0 < w) (hn : n < b ^ w) : (D.write n).length ≤ w := by
  induction w generalizing n with
  | zero => omega
  | succ w ih =>
    rw [write_eq]
    split
    · simp
    · rename_i hlt
      have hdiv : n / b < b ^ w := by
        rw [Nat.div_lt_iff_lt_mul (Nat.zero_lt_of_lt D.base), ← pow_succ]
        exact hn
      have hw0 : 0 < w := by
        rcases Nat.eq_zero_or_pos w with rfl | h
        · simp at hn
          omega
        · exact h
      have hlen := ih hw0 hdiv
      simp only [List.length_append, List.length_singleton]
      omega

theorem read_eq_some : D.read w t = some n ↔ t ≠ [] ∧ t.length ≤ w ∧ D.horner t = some n := by
  unfold read
  split
  · rename_i h
    simp only [reduceCtorEq, false_iff, not_and]
    intro hne hlen
    rcases h with h | h
    · exact absurd h hne
    · omega
  · rename_i h
    rw [not_or, not_lt] at h
    simp only [h, ne_eq, not_false_eq_true, true_and]

theorem notMem_of_read (h : D.read w t = some n) {x : α} (hx : D.value x = none) : x ∉ t := by
  intro hmem
  obtain ⟨d, hd⟩ := horner_mem (read_eq_some.mp h).2.2 x hmem
  simp [hx] at hd

theorem read_write (hw : 0 < w) (hn : n < b ^ w) : D.read w (D.write n) = some n := by
  refine read_eq_some.mpr ⟨?_, length_write hw hn, horner_write⟩
  rw [write_eq]
  simp

end DigitSet

/-! ## Fields -/

section

variable {sep x : α} {parts : List (List α)} {t l r : List α}

def Fields (sep : α) (parts : List (List α)) : Prop := ∀ p ∈ parts, p ≠ [] ∧ sep ∉ p

theorem mem_intercalate (h : x ∈ [sep].intercalate parts) : x = sep ∨ ∃ p ∈ parts, x ∈ p := by
  induction parts with
  | nil => simp at h
  | cons p parts ih =>
    cases parts with
    | nil => exact .inr ⟨p, by simp, by simpa using h⟩
    | cons q parts =>
      rw [List.intercalate_cons_cons, List.mem_append, List.mem_append, List.mem_singleton] at h
      rcases h with (h | h) | h
      · exact .inr ⟨p, by simp, h⟩
      · exact .inl h
      · rcases ih h with h | ⟨p', hp', h⟩
        · exact .inl h
        · exact .inr ⟨p', List.mem_cons_of_mem _ hp', h⟩

theorem sep_mem_intercalate (h : 2 ≤ parts.length) : sep ∈ [sep].intercalate parts := by
  obtain ⟨p, q, parts, rfl⟩ : ∃ p q parts', parts = p :: q :: parts' := by
    match parts, h with
    | p :: q :: parts', _ => exact ⟨p, q, parts', rfl⟩
  simp

theorem length_intercalate {n : Nat} (h : ∀ p ∈ parts, p.length ≤ n) :
    ([sep].intercalate parts).length ≤ (n + 1) * parts.length - 1 := by
  induction parts with
  | nil => simp
  | cons p parts ih =>
    have hp := h p (by simp)
    have hrest := ih fun q hq => h q (List.mem_cons_of_mem _ hq)
    cases parts with
    | nil =>
      simp
      omega
    | cons q parts =>
      rw [List.intercalate_cons_cons, List.length_append, List.length_append,
        List.length_singleton, List.length_cons, mul_add, mul_one]
      have hpos : 0 < (n + 1) * (q :: parts).length := Nat.mul_pos (by omega) (by simp)
      omega

theorem mapM_eq_none {f : α → Option β} (hx : x ∈ t) (h : f x = none) : t.mapM f = none := by
  induction t with
  | nil => simp at hx
  | cons y t ih =>
    rw [List.mapM_cons]
    rcases List.mem_cons.mp hx with rfl | hx
    · rw [h]
      rfl
    · rw [ih hx]
      cases f y <;> rfl

variable [DecidableEq α]

/-- What stands before and behind the first doubled separator. -/
def cutPair (sep : α) : List α → Option (List α × List α)
  | x :: y :: t =>
    if x = sep ∧ y = sep then some ([], t)
    else (cutPair sep (y :: t)).map fun c => (x :: c.1, c.2)
  | _ => none

theorem cutPair_cons (h : x = sep → ∃ y t', t = y :: t' ∧ y ≠ sep) :
    cutPair sep (x :: t) = (cutPair sep t).map fun c => (x :: c.1, c.2) := by
  cases t with
  | nil => rfl
  | cons y t =>
    rw [cutPair, if_neg]
    rintro ⟨hx, hy⟩
    obtain ⟨_, _, heq, hne⟩ := h hx
    cases heq
    exact hne hy

theorem cutPair_field (h : sep ∉ l) :
    cutPair sep (l ++ t) = (cutPair sep t).map fun c => (l ++ c.1, c.2) := by
  induction l with
  | nil => simp
  | cons x l ih =>
    rw [List.mem_cons, not_or] at h
    rw [List.cons_append, cutPair_cons (fun heq => absurd heq.symm h.1), ih h.2, Option.map_map]
    rfl

theorem cutPair_fields (h : Fields sep parts) : cutPair sep ([sep].intercalate parts ++ t) =
    (cutPair sep t).map fun c => ([sep].intercalate parts ++ c.1, c.2) := by
  induction parts with
  | nil => simp
  | cons p parts ih =>
    have hp := (h p (by simp)).2
    have hrest : Fields sep parts := fun q hq => h q (List.mem_cons_of_mem _ hq)
    cases parts with
    | nil => simpa using cutPair_field hp
    | cons q parts =>
      obtain ⟨hq, hsep⟩ := hrest q (by simp)
      obtain ⟨y, q, rfl⟩ := List.exists_cons_of_ne_nil hq
      rw [List.intercalate_cons_cons, List.append_assoc, List.append_assoc, cutPair_field hp,
        List.singleton_append, cutPair_cons, ih hrest, Option.map_map, Option.map_map]
      · simp
        rfl
      · intro _
        refine ⟨y, _, by rw [List.intercalate_cons_cons_left, List.cons_append], ?_⟩
        rintro rfl
        exact hsep (by simp)

theorem cutPair_joined (h : Fields sep parts) : cutPair sep ([sep].intercalate parts) = none := by
  have := cutPair_fields (t := []) h
  simpa [cutPair] using this

theorem cutPair_pair (h : Fields sep parts) :
    cutPair sep ([sep].intercalate parts ++ (sep :: sep :: r)) =
      some ([sep].intercalate parts, r) := by
  rw [cutPair_fields h, cutPair]
  simp

def fieldsOf (sep : α) (t : List α) : List (List α) := if t = [] then [] else t.splitOn sep

theorem fieldsOf_intercalate (h : Fields sep parts) :
    fieldsOf sep ([sep].intercalate parts) = parts := by
  cases parts with
  | nil => rfl
  | cons p parts =>
    have hsplit := List.splitOn_intercalate sep (fun q hq => (h q hq).2) (List.cons_ne_nil p parts)
    unfold fieldsOf
    rw [hsplit, if_neg]
    obtain ⟨x, p, rfl⟩ := List.exists_cons_of_ne_nil (h p (by simp)).1
    rw [List.intercalate_cons_cons_left]
    exact List.cons_ne_nil _ _

theorem mem_fieldsOf (hx : x ∈ t) (hsep : x ≠ sep) : ∃ p ∈ fieldsOf sep t, x ∈ p := by
  unfold fieldsOf
  rw [if_neg (List.ne_nil_of_mem hx)]
  have hjoin : [sep].intercalate (t.splitOn sep) = t := List.intercalate_splitOn sep
  rw [← hjoin] at hx
  exact (mem_intercalate hx).resolve_left hsep

/-! ## A run of zeros that is left out -/

/-- The `n` values of a text. Where the separator is doubled, at least one `zero` was left out. -/
def readAbbreviated (sep : α) (n : Nat) (zero : β) (left right : List (List α) → Option (List β))
    (t : List α) : Option (List β) :=
  match cutPair sep t with
  | none => (right (fieldsOf sep t)).filter fun bs => bs.length = n
  | some (l, r) =>
    (left (fieldsOf sep l)).bind fun ls => (right (fieldsOf sep r)).bind fun rs =>
      if ls.length + rs.length < n then
        some (ls ++ List.replicate (n - (ls.length + rs.length)) zero ++ rs)
      else none

variable {n : Nat} {zero : β} {left right : List (List α) → Option (List β)} {bs ls rs : List β}
  {parts' : List (List α)}

theorem readAbbreviated_full (h : Fields sep parts) (hr : right parts = some bs)
    (hlen : bs.length = n) :
    readAbbreviated sep n zero left right ([sep].intercalate parts) = some bs := by
  unfold readAbbreviated
  rw [cutPair_joined h]
  simp [fieldsOf_intercalate h, hr, hlen]

theorem readAbbreviated_pair (h : Fields sep parts) (h' : Fields sep parts')
    (hl : left parts = some ls) (hr : right parts' = some rs)
    (hlen : ls.length + rs.length < n) :
    readAbbreviated sep n zero left right
        ([sep].intercalate parts ++ (sep :: sep :: [sep].intercalate parts')) =
      some (ls ++ List.replicate (n - (ls.length + rs.length)) zero ++ rs) := by
  unfold readAbbreviated
  rw [cutPair_pair h]
  simp only [fieldsOf_intercalate h, fieldsOf_intercalate h', hl, hr, Option.bind_some, hlen,
    if_true]

theorem readAbbreviated_single (h : sep ∉ t) (hne : t ≠ []) :
    readAbbreviated sep n zero left right t =
      (right [t]).filter fun bs => bs.length = n := by
  have hfields : Fields sep [t] := by
    intro p hp
    rw [List.mem_singleton.mp hp]
    exact ⟨hne, h⟩
  have hjoin : [sep].intercalate [t] = t := List.intercalate_singleton
  have hcut := cutPair_joined hfields
  have hof := fieldsOf_intercalate hfields
  rw [hjoin] at hcut hof
  unfold readAbbreviated
  rw [hcut, hof]

end
