import SocketInterface.AddressText
import SocketInterface.Library.Numeral
import SocketInterface.ServerSocketFsm
import Mathlib.Data.Vector.Defs
import Mathlib.Tactic.FinCases

/-!
# Addresses as text

`getIpString` prints an address, `makeIpv4Address` and `makeIpv6Address` read one. An
address comes back from its text, whichever of its forms `inet_ntop` prefers.
-/

namespace Snl

/-! ## The forms of an address -/

def dot : Byte := 46

def colon : Byte := 58

def decimal : DigitSet Byte 10 where
  value x := if 48 ≤ x.toNat ∧ x.toNat < 58 then some (x.toNat - 48) else none
  symbol d := BitVec.ofNat 8 (48 + d)
  base := by omega
  value_lt := by
    intro x d h
    split at h <;> simp at h
    omega
  value_symbol := by decide

def hexadecimal : DigitSet Byte 16 where
  value x :=
    if 48 ≤ x.toNat ∧ x.toNat < 58 then some (x.toNat - 48)
    else if 97 ≤ x.toNat ∧ x.toNat < 103 then some (x.toNat - 87)
    else if 65 ≤ x.toNat ∧ x.toNat < 71 then some (x.toNat - 55)
    else none
  symbol d := BitVec.ofNat 8 (if d < 10 then 48 + d else 87 + d)
  base := by omega
  value_lt := by
    intro x d h
    split at h
    · simp at h
      omega
    split at h
    · simp at h
      omega
    split at h <;> simp at h
    omega
  value_symbol := by decide

/-- `ddd.ddd.ddd.ddd`. -/
def dottedText (a : Fin 4 → Byte) : List Byte :=
  [dot].intercalate (List.ofFn fun i => decimal.write (a i).toNat)

/-- Fields of up to four hexadecimal digits. The last may be dotted instead when it is `mixed`. -/
inductive Groups (mixed : Prop) : List (List Byte) → List Byte → Prop
  | nil : Groups mixed [] []
  | group {g gs hi lo bs} (h : hexadecimal.read 4 g = some (hi.toNat * 256 + lo.toNat))
      (hs : Groups mixed gs bs) : Groups mixed (g :: gs) (hi :: lo :: bs)
  | dotted {a} (hm : mixed) : Groups mixed [dottedText a] (List.ofFn a)

/-- `x:x:x:x:x:x:x:x`, `x:x:x:x:x:x:d.d.d.d`, or either with one run of zeros written as `::`. -/
inductive Ipv6Form (a : Fin 16 → Byte) : List Byte → Prop
  | full {gs} (h : Groups True gs (List.ofFn a)) : Ipv6Form a ([colon].intercalate gs)
  | abbreviated {gs gs' ls rs} (hl : Groups False gs ls) (hr : Groups True gs' rs)
      (hlen : ls.length + rs.length < 16)
      (h : List.ofFn a = ls ++ List.replicate (16 - (ls.length + rs.length)) 0 ++ rs) :
      Ipv6Form a ([colon].intercalate gs ++ (colon :: colon :: [colon].intercalate gs'))

/-! ## What `inet_pton` reads -/

/-- A leading zero is refused: it would make the number octal for others. -/
def readOctet (t : List Byte) : Option Byte :=
  (decimal.read 3 t).bind fun n =>
    if n < 256 ∧ t = decimal.write n then some (BitVec.ofNat 8 n) else none

def readDotted (t : List Byte) : Option (Fin 4 → Byte) :=
  match (fieldsOf dot t).mapM readOctet with
  | some [a, b, c, d] => some ![a, b, c, d]
  | _ => none

def readGroup (t : List Byte) : Option (List Byte) :=
  (hexadecimal.read 4 t).map fun n => [BitVec.ofNat 8 (n / 256), BitVec.ofNat 8 n]

def readGroups (last : List Byte → Option (List Byte)) : List (List Byte) → Option (List Byte)
  | [] => some []
  | [g] => last g
  | g :: gs => (readGroup g).bind fun bs => (readGroups last gs).map (bs ++ ·)

def readLast (t : List Byte) : Option (List Byte) :=
  (readGroup t).or ((readDotted t).map List.ofFn)

def readIpv6 (t : List Byte) : Option (Fin 16 → Byte) :=
  (readAbbreviated colon 16 0 (readGroups readGroup) (readGroups readLast) t).map
    fun bs i => bs.getD i 0

def addressLiterals : Literals := ⟨fun s => readDotted s.bytes, fun s => readIpv6 s.bytes⟩

/-! ## `inet_ntop` -/

structure InetNtop where
  ipv4 : {size : Nat} → (Fin 4 → Byte) → List.Vector Byte size → Bool × List.Vector Byte size
  ipv6 : {size : Nat} → (Fin 16 → Byte) → List.Vector Byte size → Bool × List.Vector Byte size

/-- A text of the form, the same each time. An array without room for it may hold anything. -/
def Prints {A : Type}
    (call : {size : Nat} → A → List.Vector Byte size → Bool × List.Vector Byte size)
    (form : A → List Byte → Prop) : Prop :=
  ∀ a, ∃ text, form a text ∧ ∀ {size} (dst : List.Vector Byte size),
    if text.length < size then
      (call a dst).1 = true ∧ ∃ rest, (call a dst).2.toList = text ++ nul :: rest
    else (call a dst).1 = false

structure InetNtop.Documented (inetNtop : InetNtop) : Prop where
  ipv4 : Prints inetNtop.ipv4 fun a t => t = dottedText a
  ipv6 : Prints inetNtop.ipv6 Ipv6Form

/-! ## `getIpString` -/

def inetAddrstrlen : Nat := 16

def inet6Addrstrlen : Nat := 46

/-- The string up to the first NUL. Without one its constructor reads behind the array. -/
def stringOf {size : Nat} (array : List.Vector Byte size) : Option (List Byte) :=
  if array.toList.contains nul then some (cStr array.toList).bytes else none

/-- The status of `inet_ntop` is not looked at. Before the call the array is uninitialised. -/
def IpImpl.getIpString (inetNtop : InetNtop) (uninit : (size : Nat) → List.Vector Byte size) :
    IpImpl → Option (List Byte)
  | .ipv6Impl ipv6Addr _ _ => stringOf (inetNtop.ipv6 ipv6Addr (uninit inet6Addrstrlen)).2
  | .ipv4Impl ipv4Addr => stringOf (inetNtop.ipv4 ipv4Addr (uninit inetAddrstrlen)).2

def IpAddress.getIpString (inetNtop : InetNtop) (uninit : (size : Nat) → List.Vector Byte size)
    (this : IpAddress) : Option (List Byte) :=
  this.ipImpl.getIpString inetNtop uninit

/-! ## A form of an address is read as that address -/

section

variable {a : Fin 4 → Byte} {a6 : Fin 16 → Byte} {mixed : Prop} {t : List Byte}
  {gs : List (List Byte)} {bs : List Byte}

theorem read_octet (b : Byte) : decimal.read 3 (decimal.write b.toNat) = some b.toNat := by
  refine DigitSet.read_write (by omega) ?_
  have hlt := b.isLt
  omega

theorem readOctet_write (b : Byte) : readOctet (decimal.write b.toNat) = some b := by
  unfold readOctet
  rw [read_octet, Option.bind_some, if_pos ⟨b.isLt, rfl⟩, BitVec.ofNat_toNat, BitVec.setWidth_eq]

theorem fields_of_read {b w : Nat} {D : DigitSet Byte b} {sep : Byte} {parts : List (List Byte)}
    (hsep : D.value sep = none) (h : ∀ p ∈ parts, ∃ n, D.read w p = some n) :
    Fields sep parts := by
  intro p hp
  obtain ⟨n, hn⟩ := h p hp
  exact ⟨(DigitSet.read_eq_some.mp hn).1, DigitSet.notMem_of_read hn hsep⟩

theorem readDotted_dottedText : readDotted (dottedText a) = some a := by
  have hfields : Fields dot (List.ofFn fun i => decimal.write (a i).toNat) :=
    fields_of_read (by decide) (List.forall_mem_ofFn_iff.mpr fun i => ⟨_, read_octet (a i)⟩)
  have hoctets : (List.ofFn fun i => decimal.write (a i).toNat).mapM readOctet =
      some [a 0, a 1, a 2, a 3] := by
    simp [List.ofFn_succ, readOctet_write]
  unfold readDotted dottedText
  rw [fieldsOf_intercalate hfields, hoctets]
  refine congrArg some (funext fun i => ?_)
  fin_cases i <;> rfl

theorem length_dottedText : (dottedText a).length ≤ 15 := by
  have hparts : ∀ p ∈ List.ofFn fun i => decimal.write (a i).toNat, p.length ≤ 3 :=
    List.forall_mem_ofFn_iff.mpr fun i => (DigitSet.read_eq_some.mp (read_octet (a i))).2.1
  have hlen : (dottedText a).length ≤ _ := length_intercalate hparts
  simpa using hlen

theorem dot_mem_dottedText : dot ∈ dottedText a := by simp [dottedText, List.ofFn_succ]

theorem notMem_dottedText {x : Byte} (hx : decimal.value x = none) (hdot : x ≠ dot) :
    x ∉ dottedText a := by
  intro hmem
  obtain rfl | ⟨p, hp, hmem⟩ := mem_intercalate hmem
  · exact hdot rfl
  · obtain ⟨i, rfl⟩ := List.mem_ofFn.mp hp
    exact DigitSet.notMem_of_read (read_octet (a i)) hx hmem

theorem readGroup_eq {hi lo : Byte}
    (h : hexadecimal.read 4 t = some (hi.toNat * 256 + lo.toNat)) :
    readGroup t = some [hi, lo] := by
  unfold readGroup
  rw [h, Option.map_some]
  have hlt := lo.isLt
  congr 3
  · apply BitVec.eq_of_toNat_eq
    simp
    omega
  · apply BitVec.eq_of_toNat_eq
    simp
    omega

theorem readGroup_dottedText : readGroup (dottedText a) = none := by
  unfold readGroup
  rw [Option.map_eq_none_iff]
  by_contra hne
  obtain ⟨n, hn⟩ := Option.ne_none_iff_exists'.mp hne
  exact DigitSet.notMem_of_read hn (by decide) dot_mem_dottedText

theorem readLast_dottedText : readLast (dottedText a) = some (List.ofFn a) := by
  unfold readLast
  rw [readGroup_dottedText, readDotted_dottedText]
  rfl

theorem decimal_none {x : Byte} (h : hexadecimal.value x = none) : decimal.value x = none := by
  unfold hexadecimal at h
  unfold decimal
  dsimp only at h ⊢
  split at h
  · simp at h
  · rename_i hx
    rw [if_neg hx]

theorem Groups.field (h : Groups mixed gs bs) : ∀ g ∈ gs, g ≠ [] ∧
    ∀ x, hexadecimal.value x = none → x ≠ dot → x ∉ g := by
  induction h with
  | nil => simp
  | group h _ ih =>
    refine List.forall_mem_cons.mpr ⟨?_, ih⟩
    exact ⟨(DigitSet.read_eq_some.mp h).1, fun x hx _ => DigitSet.notMem_of_read h hx⟩
  | dotted =>
    refine List.forall_mem_singleton.mpr ⟨List.ne_nil_of_mem dot_mem_dottedText, ?_⟩
    exact fun x hx => notMem_dottedText (decimal_none hx)

theorem Groups.fields (h : Groups mixed gs bs) : Fields colon gs := fun g hg =>
  ⟨(h.field g hg).1, (h.field g hg).2 colon (by decide) (by decide)⟩

theorem Groups.read {last : List Byte → Option (List Byte)} (h : Groups mixed gs bs)
    (hgroup : ∀ g b, readGroup g = some b → last g = some b)
    (hdotted : mixed → ∀ a, last (dottedText a) = some (List.ofFn a)) :
    readGroups last gs = some bs := by
  induction h with
  | nil => rfl
  | @group g gs hi lo bs h hs ih =>
    have hg := readGroup_eq h
    cases gs with
    | nil =>
      cases hs
      exact hgroup g _ hg
    | cons g' gs =>
      rw [readGroups, hg, ih]
      · rfl
      · simp
  | dotted hm => exact hdotted hm _

theorem Groups.length_le {c : Nat} (h : Groups mixed gs bs) (hc : mixed → 10 ≤ c) :
    2 * ([colon].intercalate gs).length ≤ 5 * bs.length + c := by
  induction h with
  | nil => simp
  | @group g gs hi lo bs h hs ih =>
    have hg := (DigitSet.read_eq_some.mp h).2.1
    cases gs with
    | nil =>
      simp
      omega
    | cons g' gs =>
      rw [List.intercalate_cons_cons]
      simp only [List.length_append, List.length_cons, List.length_nil] at ih ⊢
      omega
  | @dotted a hm =>
    have hlen : (dottedText a).length ≤ 15 := length_dottedText
    have h10 := hc hm
    simp
    omega

theorem Groups.length_bytes (h : Groups mixed gs bs) : bs.length ≤ 2 * gs.length + 2 := by
  induction h with
  | nil => simp
  | group _ _ ih =>
    simp only [List.length_cons]
    omega
  | dotted => simp

theorem Ipv6Form.read (h : Ipv6Form a6 t) : readIpv6 t = some a6 := by
  have hright : ∀ {gs bs}, Groups True gs bs → readGroups readLast gs = some bs := by
    intro gs bs h
    refine h.read (fun g b hg => ?_) fun _ a => readLast_dottedText
    unfold readLast
    rw [hg]
    rfl
  have hbytes : ∀ bs, List.ofFn a6 = bs → (fun i : Fin 16 => bs.getD i 0) = a6 := by
    rintro bs rfl
    funext i
    rw [List.getD_eq_getElem?_getD, List.getElem?_ofFn, dif_pos i.isLt, Option.getD_some]
  unfold readIpv6
  cases h with
  | full h => rw [readAbbreviated_full h.fields (hright h) (by simp), Option.map_some, hbytes _ rfl]
  | abbreviated hl hr hlen h =>
    have hleft : readGroups readGroup _ = some _ := hl.read (fun _ _ => id) (by simp)
    rw [readAbbreviated_pair hl.fields hr.fields hleft (hright hr) hlen, Option.map_some,
      hbytes _ h]

theorem Ipv6Form.length_le (h : Ipv6Form a6 t) : t.length ≤ 45 := by
  cases h with
  | full h =>
    have hlen := h.length_le (c := 10) (fun _ => le_rfl)
    simp only [List.length_ofFn] at hlen
    omega
  | abbreviated hl hr hlen h =>
    have hleft := hl.length_le (c := 0) (by simp)
    have hright := hr.length_le (c := 10) (fun _ => le_rfl)
    simp only [List.length_append, List.length_cons]
    omega

theorem Ipv6Form.colon_mem (h : Ipv6Form a6 t) : colon ∈ t := by
  cases h with
  | full h =>
    have hlen := h.length_bytes
    simp only [List.length_ofFn] at hlen
    exact sep_mem_intercalate (by omega)
  | abbreviated => simp

theorem Ipv6Form.notMem (h : Ipv6Form a6 t) {x : Byte} (hx : hexadecimal.value x = none)
    (hdot : x ≠ dot) (hcolon : x ≠ colon) : x ∉ t := by
  have hgroups : ∀ {mixed gs bs}, Groups mixed gs bs → x ∉ [colon].intercalate gs := by
    intro mixed gs bs h hmem
    obtain heq | ⟨g, hg, hmem⟩ := mem_intercalate hmem
    · exact hcolon heq
    · exact (h.field g hg).2 x hx hdot hmem
  cases h with
  | full h => exact hgroups h
  | abbreviated hl hr =>
    simp only [List.mem_append, List.mem_cons]
    rintro (h | h | h | h)
    · exact hgroups hl h
    · exact hcolon h
    · exact hcolon h
    · exact hgroups hr h

/-! ## The other kind of address is not read -/

theorem readIpv6_dottedText : readIpv6 (dottedText a) = none := by
  unfold readIpv6
  rw [readAbbreviated_single (notMem_dottedText (by decide) (by decide))
    (List.ne_nil_of_mem dot_mem_dottedText)]
  simp [readGroups, readLast_dottedText]

theorem Ipv6Form.not_readDotted (h : Ipv6Form a6 t) : readDotted t = none := by
  have hne : colon ≠ dot := by decide
  obtain ⟨p, hp, hmem⟩ := mem_fieldsOf h.colon_mem hne
  have hnone : readOctet p = none := by
    unfold readOctet
    rw [Option.bind_eq_none_iff]
    intro n hn
    exact absurd hmem (DigitSet.notMem_of_read hn (by decide))
  unfold readDotted
  rw [mapM_eq_none hp hnone]

end

/-! ## What is printed is read back -/

section

variable {A : Type} {form : A → List Byte → Prop} {size : Nat} {text rest : List Byte}
  {call : {size : Nat} → A → List.Vector Byte size → Bool × List.Vector Byte size}

theorem stringOf_eq {array : List.Vector Byte size} (h : array.toList = text ++ nul :: rest)
    (hnul : nul ∉ text) : stringOf array = some text := by
  have hcut : (text ++ nul :: rest).takeWhile (· ≠ nul) = text := by
    rw [List.takeWhile_append_of_pos]
    · simp
    · intro b hb
      exact decide_eq_true fun h0 => hnul (h0 ▸ hb)
  unfold stringOf
  rw [h, if_pos (by simp)]
  exact congrArg some hcut

/-- The array has room for the text and its NUL, so the status need not be looked at. -/
theorem Prints.string (h : Prints call form) (a : A) (hroom : ∀ t, form a t → t.length < size)
    (hnul : ∀ t, form a t → nul ∉ t) :
    ∃ text, form a text ∧ ∀ dst : List.Vector Byte size, stringOf (call a dst).2 = some text := by
  obtain ⟨text, hform, hcall⟩ := h a
  refine ⟨text, hform, fun dst => ?_⟩
  have hdst := hcall dst
  rw [if_pos (hroom text hform)] at hdst
  obtain ⟨-, rest, hrest⟩ := hdst
  exact stringOf_eq hrest (hnul text hform)

end

/-- The version and the bytes. An IPv6 address is printed without flow info and scope id. -/
def IpAddress.printed (this : IpAddress) : (Fin 4 → Byte) ⊕ (Fin 16 → Byte) :=
  match this.ipImpl with
  | .ipv4Impl ipv4Addr => .inl ipv4Addr
  | .ipv6Impl ipv6Addr _ _ => .inr ipv6Addr

def PrintedForm : (Fin 4 → Byte) ⊕ (Fin 16 → Byte) → List Byte → Prop
  | .inl ipv4Addr => fun t => t = dottedText ipv4Addr
  | .inr ipv6Addr => Ipv6Form ipv6Addr

section

variable {inetNtop : InetNtop} {inetPton : InetPton}

theorem PrintedForm.unique {p p' : (Fin 4 → Byte) ⊕ (Fin 16 → Byte)} {str : List Byte}
    (h : PrintedForm p str) (h' : PrintedForm p' str) : p = p' := by
  have hread : ∀ {p}, PrintedForm p str →
      ((readDotted str).map Sum.inl).or ((readIpv6 str).map Sum.inr) = some p := by
    rintro (ipv4Addr | ipv6Addr) h
    · obtain rfl : str = dottedText ipv4Addr := h
      rw [readDotted_dottedText]
      rfl
    · rw [Ipv6Form.not_readDotted h, Ipv6Form.read h]
      rfl
  exact Option.some.inj ((hread h).symm.trans (hread h'))

theorem getIpString_of_printed {a b : IpAddress} (h : a.printed = b.printed)
    (uninit : (size : Nat) → List.Vector Byte size) :
    a.getIpString inetNtop uninit = b.getIpString inetNtop uninit := by
  match a, b with
  | ⟨.ipv6Impl _ _ _⟩, ⟨.ipv6Impl _ _ _⟩ =>
    obtain rfl := Sum.inr.inj h
    rfl
  | ⟨.ipv4Impl _⟩, ⟨.ipv4Impl _⟩ =>
    obtain rfl := Sum.inl.inj h
    rfl
  | ⟨.ipv6Impl _ _ _⟩, ⟨.ipv4Impl _⟩ | ⟨.ipv4Impl _⟩, ⟨.ipv6Impl _ _ _⟩ => cases h

theorem InetNtop.Documented.getIpString (h : inetNtop.Documented) (a : IpAddress) :
    ∃ str, PrintedForm a.printed str ∧ ∀ uninit, a.getIpString inetNtop uninit = some str := by
  match a with
  | ⟨.ipv6Impl ipv6Addr flowInfo scopeId⟩ =>
    obtain ⟨str, hform, hstr⟩ := h.ipv6.string ipv6Addr
      (fun t ht => (Nat.lt_succ_of_le ht.length_le : t.length < inet6Addrstrlen))
      fun t ht => ht.notMem (by decide) (by decide) (by decide)
    exact ⟨str, hform, fun uninit => hstr _⟩
  | ⟨.ipv4Impl ipv4Addr⟩ =>
    obtain ⟨str, hform, hstr⟩ := h.ipv4.string ipv4Addr
      (fun t ht => (Nat.lt_succ_of_le (ht ▸ length_dottedText) : t.length < inetAddrstrlen))
      fun t ht => ht ▸ notMem_dottedText (by decide) (by decide)
    exact ⟨str, hform, fun uninit => hstr _⟩

theorem makeIpv4Address_eq (h : inetPton.Documented addressLiterals) {str : List Byte}
    (hnul : nul ∉ str) : makeIpv4Address inetPton str =
      match readDotted str with
      | some ipv4Addr => .ok ⟨.ipv4Impl ipv4Addr⟩
      | none =>
        .error (.plain "IpAddress error: malformed ipv4 address supplied to ipv4 string") := by
  unfold makeIpv4Address
  rw [parseLiteral_eq h.ipv4, cStr_of_notMem hnul]
  cases hread : readDotted str <;> simp [addressLiterals, hread, Except.map]

theorem makeIpv6Address_eq (h : inetPton.Documented addressLiterals) {str : List Byte}
    (hnul : nul ∉ str) (flowInfo scopeId : BitVec 32) :
    makeIpv6Address inetPton str flowInfo scopeId =
      match readIpv6 str with
      | some ipv6Addr => .ok ⟨.ipv6Impl ipv6Addr flowInfo scopeId⟩
      | none =>
        .error (.plain "IpAddress error: malformed ipv6 address supplied to ipv6 string") := by
  unfold makeIpv6Address
  rw [parseLiteral_eq h.ipv6, cStr_of_notMem hnul]
  cases hread : readIpv6 str <;> simp [addressLiterals, hread, Except.map]

end

/-- An address has one text, whatever was on the stack. It is read as that address and as no other
kind of address, and only addresses that differ in flow info and scope id share one. -/
structure TextAgrees (inetNtop : InetNtop) (inetPton : InetPton) : Prop where
  prints : ∀ a : IpAddress, ∃ str, ∀ uninit, a.getIpString inetNtop uninit = some str
  readsIpv4 : ∀ ipv4Addr uninit str,
    IpAddress.getIpString inetNtop uninit ⟨.ipv4Impl ipv4Addr⟩ = some str →
    makeIpv4Address inetPton str = .ok ⟨.ipv4Impl ipv4Addr⟩ ∧
      ∀ flow scope, ∃ e, makeIpv6Address inetPton str flow scope = .error e
  readsIpv6 : ∀ ipv6Addr flowInfo scopeId uninit str,
    IpAddress.getIpString inetNtop uninit ⟨.ipv6Impl ipv6Addr flowInfo scopeId⟩ = some str →
    (∀ flow scope, makeIpv6Address inetPton str flow scope = .ok ⟨.ipv6Impl ipv6Addr flow scope⟩) ∧
      ∃ e, makeIpv4Address inetPton str = .error e
  distinct : ∀ (a b : IpAddress) uninit uninit',
    a.getIpString inetNtop uninit = b.getIpString inetNtop uninit' ↔ a.printed = b.printed

theorem textAgrees {inetNtop : InetNtop} {inetPton : InetPton} (hn : inetNtop.Documented)
    (hp : inetPton.Documented addressLiterals) : TextAgrees inetNtop inetPton := by
  have hform : ∀ (a : IpAddress) uninit str, a.getIpString inetNtop uninit = some str →
      PrintedForm a.printed str := by
    intro a uninit str hstr
    obtain ⟨str', hform, hstr'⟩ := hn.getIpString a
    rw [hstr', Option.some.injEq] at hstr
    exact hstr ▸ hform
  constructor
  case prints =>
    intro a
    obtain ⟨str, -, hstr⟩ := hn.getIpString a
    exact ⟨str, hstr⟩
  case readsIpv4 =>
    intro ipv4Addr uninit str hstr
    obtain rfl : str = dottedText ipv4Addr := hform _ _ _ hstr
    have hnul : nul ∉ dottedText ipv4Addr := notMem_dottedText (by decide) (by decide)
    rw [makeIpv4Address_eq hp hnul, readDotted_dottedText]
    refine ⟨rfl, fun flow scope => ?_⟩
    rw [makeIpv6Address_eq hp hnul, readIpv6_dottedText]
    exact ⟨_, rfl⟩
  case readsIpv6 =>
    intro ipv6Addr flowInfo scopeId uninit str hstr
    have ht : Ipv6Form ipv6Addr str := hform _ _ _ hstr
    have hnul : nul ∉ str := ht.notMem (by decide) (by decide) (by decide)
    rw [makeIpv4Address_eq hp hnul, ht.not_readDotted]
    refine ⟨fun flow scope => ?_, _, rfl⟩
    rw [makeIpv6Address_eq hp hnul, ht.read]
  case distinct =>
    intro a b uninit uninit'
    obtain ⟨str, ha, hstr⟩ := hn.getIpString a
    obtain ⟨str', hb, hstr'⟩ := hn.getIpString b
    rw [hstr, hstr', Option.some.injEq]
    constructor
    · rintro rfl
      exact ha.unique hb
    · intro heq
      have hsame : a.getIpString inetNtop uninit = _ := getIpString_of_printed heq uninit
      rw [hstr, hstr', Option.some.injEq] at hsame
      exact hsame

def ServerSocket.constructOnPort [Host] (inetPton : InetPton) (prior : ServerSocketFsm)
    (tcpPort : TcpPort) (backlog : Int) : Prog Call Reply (Except SnlException ServerSocketFsm) :=
  match makeIpv4Address inetPton (ofText "127.0.0.1") with
  | .ok ipAddress => ServerSocketFsm.constructListening prior (.make ipAddress tcpPort) backlog
  | .error e => .done (.error e)

theorem ServerSocket.constructOnPort_eq [Host] {inetPton : InetPton}
    (h : inetPton.Documented addressLiterals) (prior : ServerSocketFsm) (tcpPort : TcpPort)
    (backlog : Int) : constructOnPort inetPton prior tcpPort backlog =
      ServerSocketFsm.constructListening prior (.make .default tcpPort) backlog := by
  have hread : readDotted (ofText "127.0.0.1") = some createLocalhost := by decide
  unfold constructOnPort
  rw [makeIpv4Address_eq h (by decide), hread]
  rfl

/-! ## The preferred forms -/

def ipv6Group (a : Fin 16 → Byte) (i : Fin 8) : List Byte :=
  hexadecimal.write ((a ⟨2 * i, by omega⟩).toNat * 256 + (a ⟨2 * i + 1, by omega⟩).toNat)

def ipv6Text (a : Fin 16 → Byte) : List Byte := [colon].intercalate (List.ofFn (ipv6Group a))

theorem ipv6Text_form (a : Fin 16 → Byte) : Ipv6Form a (ipv6Text a) := by
  have hgroup : ∀ i : Fin 8, hexadecimal.read 4 (ipv6Group a i) =
      some ((a ⟨2 * i, by omega⟩).toNat * 256 + (a ⟨2 * i + 1, by omega⟩).toNat) := by
    intro i
    refine DigitSet.read_write (by omega) ?_
    have hhi := (a ⟨2 * i, by omega⟩).isLt
    have hlo := (a ⟨2 * i + 1, by omega⟩).isLt
    omega
  have hgroups : Groups True (List.ofFn (ipv6Group a)) (List.ofFn a) :=
    .group (hgroup 0) (.group (hgroup 1) (.group (hgroup 2) (.group (hgroup 3) (.group (hgroup 4)
      (.group (hgroup 5) (.group (hgroup 6) (.group (hgroup 7) .nil)))))))
  exact .full hgroups

def printInto {A : Type} (text : A → List Byte) {size : Nat} (a : A)
    (dst : List.Vector Byte size) : Bool × List.Vector Byte size :=
  if h : (text a).length < size then
    (true, ⟨text a ++ nul :: dst.toList.drop ((text a).length + 1), by
      simp
      omega⟩)
  else (false, dst)

theorem prints_printInto {A : Type} {form : A → List Byte → Prop} {text : A → List Byte}
    (h : ∀ a, form a (text a)) : Prints (printInto text) form := by
  intro a
  refine ⟨text a, h a, fun {size} dst => ?_⟩
  by_cases hroom : (text a).length < size
  · have hdst : printInto text a dst = _ := dif_pos hroom
    rw [if_pos hroom]
    exact ⟨congrArg Prod.fst hdst, _, congrArg (fun d => d.2.toList) hdst⟩
  · have hdst : printInto text a dst = _ := dif_neg hroom
    rw [if_neg hroom]
    exact congrArg Prod.fst hdst

def preferredNtop : InetNtop := ⟨printInto dottedText, printInto ipv6Text⟩

def literalPton : InetPton :=
  ⟨readLiteral addressLiterals.ipv4, readLiteral addressLiterals.ipv6⟩

def documentationAddress : Fin 16 → Byte :=
  ![0x20, 0x01, 0x0d, 0xb8, 0, 1, 0, 2, 0, 3, 0, 4, 0, 5, 0, 6]

theorem textAgrees_preferred : TextAgrees preferredNtop literalPton ∧
    ipv6Text documentationAddress = ofText "2001:db8:1:2:3:4:5:6" :=
  ⟨textAgrees ⟨prints_printInto fun _ => rfl, prints_printInto ipv6Text_form⟩
    ⟨reads_readLiteral _, reads_readLiteral _⟩, by decide⟩

end Snl
