import SocketInterface.Address
import Mathlib.Data.List.TakeWhile

/-!
# Addresses from text

`makeIpv4Address` and its siblings, for every `std::string`. What `inet_pton` reads
is a C string, and ends at the first NUL.
-/

namespace Snl

def nul : Byte := 0

structure CString where
  bytes : List Byte
  nul_notMem : nul ∉ bytes

def cStr (str : List Byte) : CString :=
  ⟨str.takeWhile (· ≠ nul), fun h => by simpa using List.mem_takeWhile_imp h⟩

/-! ## `inet_pton` -/

/-- The status, and what is left in the target. -/
structure InetPton where
  ipv4 : CString → (Fin 4 → Byte) → Int × (Fin 4 → Byte)
  ipv6 : CString → (Fin 16 → Byte) → Int × (Fin 16 → Byte)

structure Literals where
  ipv4 : CString → Option (Fin 4 → Byte)
  ipv6 : CString → Option (Fin 16 → Byte)

/-- The target of a string that is not a literal may be anything. -/
def Reads {A : Type} (call : CString → A → Int × A) (literal : CString → Option A) : Prop :=
  ∀ s target, match literal s with
    | some a => call s target = (1, a)
    | none => (call s target).1 = 0

structure InetPton.Documented (inetPton : InetPton) (literals : Literals) : Prop where
  ipv4 : Reads inetPton.ipv4 literals.ipv4
  ipv6 : Reads inetPton.ipv6 literals.ipv6

/-! ## The functions -/

def parseLiteral {A : Type} (call : CString → A → Int × A) (target : A) (errorMsg : String)
    (str : List Byte) : Except SnlException A :=
  let (status, addr) := call (cStr str) target
  if status = 0 then .error (.plain errorMsg) else .ok addr

section

variable (inetPton : InetPton)

def makeIpv4Address (ipv4String : List Byte) : Except SnlException IpAddress :=
  (parseLiteral inetPton.ipv4 (fun _ => 0)
    "IpAddress error: malformed ipv4 address supplied to ipv4 string" ipv4String).map
    fun ipv4Addr => ⟨.ipv4Impl ipv4Addr⟩

def makeIpv6Address (ipv6String : List Byte) (flowInfo scopeId : BitVec 32) :
    Except SnlException IpAddress :=
  (parseLiteral inetPton.ipv6 (fun _ => 0)
    "IpAddress error: malformed ipv6 address supplied to ipv6 string" ipv6String).map
    fun ipv6Addr => ⟨.ipv6Impl ipv6Addr flowInfo scopeId⟩

def makeIpv4SockAddr (ipv4String : List Byte) (tcpPort : TcpPort) :
    Except SnlException SocketAddress :=
  (makeIpv4Address inetPton ipv4String).map fun ipAddress => .make ipAddress tcpPort

def makeIpv6SockAddr (ipv6String : List Byte) (tcpPort : TcpPort) (flowInfo scopeId : BitVec 32) :
    Except SnlException SocketAddress :=
  (makeIpv6Address inetPton ipv6String flowInfo scopeId).map fun ipAddress =>
    .make ipAddress tcpPort

end

/-! ## The strings that are accepted -/

def whole {A : Type} (literal : CString → Option A) (str : List Byte) : Option A :=
  if h : nul ∈ str then none else literal ⟨str, h⟩

/-- A literal, then a NUL and whatever follows it. -/
def HiddenTail {A : Type} (literal : CString → Option A) (str : List Byte) : Prop :=
  nul ∈ str ∧ (literal (cStr str)).isSome

def Gives {α : Type} (r : Except SnlException α) : Option α → Prop
  | some a => r = .ok a
  | none => ∃ e, r = .error e

variable {A α : Type} {call : CString → A → Int × A} {literal : CString → Option A} {target : A}
  {errorMsg : String} {str : List Byte}

theorem cStr_of_notMem (h : nul ∉ str) : cStr str = ⟨str, h⟩ := by
  have hall : ∀ b ∈ str, decide (b ≠ nul) = true := by
    intro b hb
    exact decide_eq_true fun h0 => h (h0 ▸ hb)
  unfold cStr
  congr 1
  exact List.takeWhile_eq_self_iff.mpr hall

theorem parseLiteral_eq (h : Reads call literal) : parseLiteral call target errorMsg str =
    match literal (cStr str) with
    | some a => .ok a
    | none => .error (.plain errorMsg) := by
  unfold parseLiteral
  have hcall := h (cStr str) target
  cases hlit : literal (cStr str) with
  | some a =>
    rw [hlit] at hcall
    rw [hcall]
    rfl
  | none =>
    rw [hlit] at hcall
    exact if_pos hcall

theorem gives_map_iff (h : Reads call literal) (build : A → α) :
    Gives ((parseLiteral call target errorMsg str).map build) ((whole literal str).map build) ↔
      ¬ HiddenTail literal str := by
  rw [parseLiteral_eq h, whole, HiddenTail]
  by_cases h0 : nul ∈ str
  · -- No address is wanted, and none is given exactly when what comes before the NUL is malformed.
    rw [dif_pos h0]
    cases literal (cStr str) with
    | none => exact iff_of_true ⟨_, rfl⟩ (fun hh => Bool.false_ne_true hh.2)
    | some a => exact iff_of_false (fun ⟨_, he⟩ => nomatch he) (not_not_intro ⟨h0, rfl⟩)
  · rw [dif_neg h0, cStr_of_notMem h0]
    refine iff_of_true ?_ (fun hh => h0 hh.1)
    cases literal ⟨str, h0⟩ with
    | none => exact ⟨_, rfl⟩
    | some a => rfl

/-! ## The four functions -/

section

variable (inetPton : InetPton) (literals : Literals) (str : List Byte) (tcpPort : TcpPort)
  (flowInfo scopeId : BitVec 32)

def Ipv4AddressExact : Prop := Gives (makeIpv4Address inetPton str)
  ((whole literals.ipv4 str).map fun a => ⟨.ipv4Impl a⟩)

def Ipv4SockAddrExact : Prop := Gives (makeIpv4SockAddr inetPton str tcpPort)
  ((whole literals.ipv4 str).map fun a => .make ⟨.ipv4Impl a⟩ tcpPort)

def Ipv6AddressExact : Prop := Gives (makeIpv6Address inetPton str flowInfo scopeId)
  ((whole literals.ipv6 str).map fun a => ⟨.ipv6Impl a flowInfo scopeId⟩)

def Ipv6SockAddrExact : Prop :=
  Gives (makeIpv6SockAddr inetPton str tcpPort flowInfo scopeId)
    ((whole literals.ipv6 str).map fun a => .make ⟨.ipv6Impl a flowInfo scopeId⟩ tcpPort)

end

theorem makeIpv4SockAddr_eq (inetPton : InetPton) (str : List Byte) (tcpPort : TcpPort) :
    makeIpv4SockAddr inetPton str tcpPort = (parseLiteral inetPton.ipv4 (fun _ => 0)
      "IpAddress error: malformed ipv4 address supplied to ipv4 string" str).map
      fun a => .make ⟨.ipv4Impl a⟩ tcpPort := by
  unfold makeIpv4SockAddr makeIpv4Address
  cases parseLiteral inetPton.ipv4 _ _ str <;> rfl

theorem makeIpv6SockAddr_eq (inetPton : InetPton) (str : List Byte) (tcpPort : TcpPort)
    (flowInfo scopeId : BitVec 32) : makeIpv6SockAddr inetPton str tcpPort flowInfo scopeId =
      (parseLiteral inetPton.ipv6 (fun _ => 0)
        "IpAddress error: malformed ipv6 address supplied to ipv6 string" str).map
        fun a => .make ⟨.ipv6Impl a flowInfo scopeId⟩ tcpPort := by
  unfold makeIpv6SockAddr makeIpv6Address
  cases parseLiteral inetPton.ipv6 _ _ str <;> rfl

/-- Each function is exact on the strings without a hidden tail, and on no others. -/
theorem literals_exact_iff {inetPton : InetPton} {literals : Literals}
    (h : inetPton.Documented literals) (str : List Byte) (tcpPort : TcpPort)
    (flowInfo scopeId : BitVec 32) :
    (Ipv4AddressExact inetPton literals str ↔ ¬ HiddenTail literals.ipv4 str) ∧
    (Ipv4SockAddrExact inetPton literals str tcpPort ↔ ¬ HiddenTail literals.ipv4 str) ∧
    (Ipv6AddressExact inetPton literals str flowInfo scopeId ↔
      ¬ HiddenTail literals.ipv6 str) ∧
    (Ipv6SockAddrExact inetPton literals str tcpPort flowInfo scopeId ↔
      ¬ HiddenTail literals.ipv6 str) := by
  unfold Ipv4AddressExact Ipv4SockAddrExact Ipv6AddressExact Ipv6SockAddrExact
  rw [makeIpv4SockAddr_eq, makeIpv6SockAddr_eq]
  exact ⟨gives_map_iff h.ipv4 _, gives_map_iff h.ipv4 _, gives_map_iff h.ipv6 _,
    gives_map_iff h.ipv6 _⟩

/-! ## A string with a hidden tail -/

def ofText (s : String) : List Byte := s.toList.map fun c => BitVec.ofNat 8 c.toNat

def loopbacks : Literals where
  ipv4 s := if s.bytes = ofText "127.0.0.1" then some ![127, 0, 0, 1] else none
  ipv6 s := if s.bytes = ofText "::1" then some fun i => if i = 15 then 1 else 0 else none

def readLiteral (literal : CString → Option A) (s : CString) (target : A) : Int × A :=
  match literal s with
  | some a => (1, a)
  | none => (0, target)

theorem reads_readLiteral (literal : CString → Option A) : Reads (readLiteral literal) literal := by
  intro s target
  unfold readLiteral
  cases literal s <;> rfl

def loopbackPton : InetPton := ⟨readLiteral loopbacks.ipv4, readLiteral loopbacks.ipv6⟩

theorem loopbackPton_documented : loopbackPton.Documented loopbacks :=
  ⟨reads_readLiteral _, reads_readLiteral _⟩

theorem literals_exact_loopback :
    Ipv4SockAddrExact loopbackPton loopbacks (ofText "127.0.0.1") ⟨80⟩ ∧
    Ipv6SockAddrExact loopbackPton loopbacks (ofText "127.0.0.1") ⟨80⟩ 0 0 :=
  have h := literals_exact_iff loopbackPton_documented (ofText "127.0.0.1") ⟨80⟩ 0 0
  ⟨h.2.1.mpr fun hh => absurd hh.1 (by decide), h.2.2.2.mpr fun hh => absurd hh.1 (by decide)⟩

theorem hiddenTail_accepted : ¬ ∀ inetPton literals, InetPton.Documented inetPton literals →
    ∀ str tcpPort flowInfo scopeId,
      Ipv4AddressExact inetPton literals str ∧
      Ipv4SockAddrExact inetPton literals str tcpPort ∧
      Ipv6AddressExact inetPton literals str flowInfo scopeId ∧
      Ipv6SockAddrExact inetPton literals str tcpPort flowInfo scopeId := by
  intro h
  have hexact := (h loopbackPton loopbacks loopbackPton_documented
    (ofText "127.0.0.1" ++ [nul] ++ ofText "x") ⟨80⟩ 0 0).1
  exact absurd hexact (fun ⟨_, he⟩ => nomatch he)

end Snl
