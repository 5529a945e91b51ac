import Mathlib.Tactic.FinCases
import Mathlib.Tactic.SplitIfs
import SocketInterface.Address

/-! # Encoding and decoding of socket addresses -/

namespace Snl

open BitVec (extractLsb'_append_extractLsb' extractLsb'_append_extractLsb'_eq_extractLsb'
  extractLsb'_append_eq_of_le extractLsb'_append_eq_left extractLsb'_append_eq_right)

/-! ## Byte order -/

section Bytes

variable (a b c d : Byte)

theorem append_bytes16 (v : BitVec 16) : v.extractLsb' 8 8 ++ v.extractLsb' 0 8 = v :=
  extractLsb'_append_extractLsb'

theorem bytes16_high : (a ++ b : BitVec 16).extractLsb' 8 8 = a := extractLsb'_append_eq_left

theorem bytes16_low : (a ++ b : BitVec 16).extractLsb' 0 8 = b := extractLsb'_append_eq_right

theorem append_bytes32 (v : BitVec 32) :
    v.extractLsb' 24 8 ++ v.extractLsb' 16 8 ++ v.extractLsb' 8 8 ++ v.extractLsb' 0 8 = v := by
  have h1 : v.extractLsb' 24 8 ++ v.extractLsb' 16 8 = v.extractLsb' 16 16 :=
    extractLsb'_append_extractLsb'_eq_extractLsb' rfl
  have h2 : v.extractLsb' 16 16 ++ v.extractLsb' 8 8 = v.extractLsb' 8 24 :=
    extractLsb'_append_extractLsb'_eq_extractLsb' rfl
  rw [h1, h2]
  exact extractLsb'_append_extractLsb'

theorem bytes_above {n : Nat} (x : BitVec n) (i : Nat) :
    (x ++ a).extractLsb' (i + 8) 8 = x.extractLsb' i 8 := by
  rw [extractLsb'_append_eq_of_le (Nat.le_add_left 8 i), Nat.add_sub_cancel]

theorem bytes32_0 : (a ++ b ++ c ++ d : BitVec 32).extractLsb' 0 8 = d :=
  extractLsb'_append_eq_right

theorem bytes32_8 : (a ++ b ++ c ++ d : BitVec 32).extractLsb' 8 8 = c :=
  (bytes_above d _ 0).trans extractLsb'_append_eq_right

theorem bytes32_16 : (a ++ b ++ c ++ d : BitVec 32).extractLsb' 16 8 = b :=
  (bytes_above d _ 8).trans ((bytes_above c _ 0).trans extractLsb'_append_eq_right)

theorem bytes32_24 : (a ++ b ++ c ++ d : BitVec 32).extractLsb' 24 8 = a :=
  (bytes_above d _ 16).trans ((bytes_above c _ 8).trans extractLsb'_append_eq_left)

variable [Host]

@[simp] theorem ofHostBytes16_hostBytes16 (v : BitVec 16) : ofHostBytes16 (hostBytes16 v) = v := by
  unfold ofHostBytes16 hostBytes16
  cases Host.byteOrder <;> exact append_bytes16 v

@[simp] theorem hostBytes16_ofHostBytes16 (b : Fin 2 → Byte) : hostBytes16 (ofHostBytes16 b) = b := by
  unfold ofHostBytes16 hostBytes16
  cases Host.byteOrder <;>
  · dsimp only
    rw [bytes16_low, bytes16_high]
    funext j
    fin_cases j <;> rfl

@[simp] theorem ofHostBytes32_hostBytes32 (v : BitVec 32) : ofHostBytes32 (hostBytes32 v) = v := by
  unfold ofHostBytes32 hostBytes32
  cases Host.byteOrder <;> exact append_bytes32 v

@[simp] theorem hostBytes32_ofHostBytes32 (b : Fin 4 → Byte) : hostBytes32 (ofHostBytes32 b) = b := by
  unfold ofHostBytes32 hostBytes32
  cases Host.byteOrder <;>
  · dsimp only
    rw [bytes32_0, bytes32_8, bytes32_16, bytes32_24]
    funext j
    fin_cases j <;> rfl

@[simp] theorem htons_htons (v : BitVec 16) : htons (htons v) = v := by
  unfold htons
  cases Host.byteOrder with
  | big => rfl
  | little =>
    dsimp only
    rw [bytes16_low, bytes16_high, append_bytes16]

/-- On either host the bytes of `htons` stand in network order. -/
theorem hostBytes16_htons (v : BitVec 16) :
    hostBytes16 (htons v) = ![v.extractLsb' 8 8, v.extractLsb' 0 8] := by
  unfold hostBytes16 htons
  cases Host.byteOrder with
  | big => rfl
  | little =>
    dsimp only
    rw [bytes16_low, bytes16_high]

end Bytes

/-! ## Fields of the storage -/

namespace SockaddrStorage

variable {m n off off' : Nat} {s t : SockaddrStorage}

theorem put_of_le (b : Fin n → Byte) {i : Fin 128} (hi : off + n ≤ i.val) : s.put off b i = s i :=
  dif_neg (by omega)

@[simp] theorem get_put_self (b : Fin n → Byte) (h : off + n ≤ 128) :
    (s.put off b).get off n h = b := by
  funext j
  simp [get, put]

theorem get_put_of_disjoint (b : Fin m → Byte) (h : off' + n ≤ 128)
    (hd : off' + n ≤ off ∨ off + m ≤ off') : (s.put off b).get off' n h = s.get off' n h := by
  funext j
  exact dif_neg (by simp only; omega)

theorem put_get_apply (h : off + n ≤ 128) (i : Fin 128) :
    (t.put off (s.get off n h)) i = if off ≤ i.val ∧ i.val < off + n then s i else t i := by
  unfold put get
  split
  case isTrue hi =>
    exact congrArg s (Fin.ext (Nat.add_sub_cancel' hi.1))
  case isFalse => rfl

end SockaddrStorage

/-! ## Round trips -/

section Codec

open SockaddrStorage

def IpAddress.family (a : IpAddress) : BitVec 16 := if a.isIpv4 then AF_INET else AF_INET6

@[simp] theorem family_ipv4 (b : Fin 4 → Byte) : IpAddress.family ⟨.ipv4Impl b⟩ = AF_INET := rfl

@[simp] theorem family_ipv6 (b : Fin 16 → Byte) (flowInfo scopeId : BitVec 32) :
    IpAddress.family ⟨.ipv6Impl b flowInfo scopeId⟩ = AF_INET6 := rfl

theorem inet6_ne_inet : AF_INET6 ≠ AF_INET := by decide

variable [Host]

variable (a : IpAddress) (tcpPort : TcpPort)

theorem ssFamily_storage : ssFamily (a.makeSockaddrStorage tcpPort) = a.family := by
  obtain ⟨ipImpl⟩ := a
  unfold ssFamily IpAddress.makeSockaddrStorage
  cases ipImpl with
  | ipv4Impl =>
    rw [get_put_of_disjoint _ _ (by decide), get_put_of_disjoint _ _ (by decide), get_put_self,
      ofHostBytes16_hostBytes16]
    rfl
  | ipv6Impl =>
    rw [get_put_of_disjoint _ _ (by decide), get_put_of_disjoint _ _ (by decide),
      get_put_of_disjoint _ _ (by decide), get_put_of_disjoint _ _ (by decide), get_put_self,
      ofHostBytes16_hostBytes16]
    rfl

theorem portBytes_storage :
    (a.makeSockaddrStorage tcpPort).get 2 2 = hostBytes16 tcpPort.toNetworkByteOrder := by
  obtain ⟨ipImpl⟩ := a
  unfold IpAddress.makeSockaddrStorage
  cases ipImpl with
  | ipv4Impl => rw [get_put_of_disjoint _ _ (by decide), get_put_self]
  | ipv6Impl =>
    rw [get_put_of_disjoint _ _ (by decide), get_put_of_disjoint _ _ (by decide),
      get_put_of_disjoint _ _ (by decide), get_put_self]

theorem makeTcpPort_storage : makeTcpPort (a.makeSockaddrStorage tcpPort) = .ok tcpPort := by
  unfold makeTcpPort sinPort ntohs
  rw [ssFamily_storage, portBytes_storage, ofHostBytes16_hostBytes16, TcpPort.toNetworkByteOrder,
    htons_htons]
  unfold IpAddress.family
  split <;> rfl

theorem makeIpImpl_storage : makeIpImpl (a.makeSockaddrStorage tcpPort) = .ok a.ipImpl := by
  unfold makeIpImpl
  rw [ssFamily_storage]
  obtain ⟨ipImpl⟩ := a
  cases ipImpl with
  | ipv4Impl ipv4Addr =>
    rw [family_ipv4, if_pos rfl]
    unfold sinAddr IpAddress.makeSockaddrStorage
    rw [get_put_self]
  | ipv6Impl ipv6Addr flowInfo scopeId =>
    rw [family_ipv6, if_neg inet6_ne_inet, if_pos rfl]
    unfold sin6Addr sin6Flowinfo sin6ScopeId IpAddress.makeSockaddrStorage
    rw [get_put_self, get_put_of_disjoint _ _ (by decide), get_put_self,
      get_put_of_disjoint _ _ (by decide), get_put_of_disjoint _ _ (by decide), get_put_self,
      ofHostBytes32_hostBytes32, ofHostBytes32_hostBytes32]

theorem makeSockAddr_storage (a : SocketAddress) : makeSockAddr a.getSockaddrStorage = .ok a := by
  unfold makeSockAddr makeIpAddress SocketAddress.getSockaddrStorage
  rw [makeIpImpl_storage, makeTcpPort_storage]
  exact congrArg Except.ok a.make_eq

/-! A storage that is decoded and encoded again. -/

/-- Where the fields of the sockaddr end. What follows in a `sockaddr_in` is padding. -/
def fieldsEnd (family : BitVec 16) : Nat := if family = AF_INET then 8 else 28

theorem hostBytes16_port (s : SockaddrStorage) :
    hostBytes16 (TcpPort.toNetworkByteOrder ⟨ntohs (sinPort s)⟩) = s.get 2 2 := by
  unfold TcpPort.toNetworkByteOrder ntohs sinPort
  rw [htons_htons, hostBytes16_ofHostBytes16]

theorem hostBytes16_family {s : SockaddrStorage} {family : BitVec 16} (h : ssFamily s = family) :
    hostBytes16 family = s.get 0 2 := by
  rw [← h, ssFamily, hostBytes16_ofHostBytes16]

theorem storage_makeSockAddr {s : SockaddrStorage}
    (h : ssFamily s = AF_INET ∨ ssFamily s = AF_INET6) :
    ∃ a, makeSockAddr s = .ok a ∧
      ∀ i, a.getSockaddrStorage i = if i.val < fieldsEnd (ssFamily s) then s i else 0 := by
  unfold makeSockAddr makeIpAddress makeIpImpl makeTcpPort
  rcases h with h | h
  · rw [if_pos h, if_pos h]
    refine ⟨_, rfl, fun i => ?_⟩
    unfold SocketAddress.getSockaddrStorage IpAddress.makeSockaddrStorage SocketAddress.make
    dsimp only
    rw [hostBytes16_port, hostBytes16_family h, sinAddr]
    simp only [put_get_apply, h, fieldsEnd, zero]
    split_ifs <;> first | rfl | omega
  · have hne : ssFamily s ≠ AF_INET := h ▸ inet6_ne_inet
    rw [if_neg hne, if_pos h, if_neg hne, if_pos h]
    refine ⟨_, rfl, fun i => ?_⟩
    unfold SocketAddress.getSockaddrStorage IpAddress.makeSockaddrStorage SocketAddress.make
    dsimp only
    rw [hostBytes16_port, hostBytes16_family h, sin6Flowinfo, sin6Addr, sin6ScopeId,
      hostBytes32_ofHostBytes32, hostBytes32_ofHostBytes32]
    simp only [put_get_apply, if_neg hne, fieldsEnd, zero]
    split_ifs <;> first | rfl | omega

theorem makeSockAddr_unknown {s : SockaddrStorage} (h : ssFamily s ≠ AF_INET)
    (h6 : ssFamily s ≠ AF_INET6) : ∃ e, makeSockAddr s = .error e := by
  unfold makeSockAddr makeIpAddress makeIpImpl
  rw [if_neg h, if_neg h6]
  exact ⟨_, rfl⟩

theorem storage_zero (i : Fin 128)
    (hi : (if a.isIpv4 then ipv4Addrlen else ipv6Addrlen) ≤ i.val) :
    a.makeSockaddrStorage tcpPort i = 0 := by
  obtain ⟨ipImpl⟩ := a
  unfold IpAddress.makeSockaddrStorage
  cases ipImpl with
  | ipv4Impl =>
    replace hi : 16 ≤ i.val := hi
    simp (disch := omega) only [put_of_le]
    rfl
  | ipv6Impl =>
    replace hi : 28 ≤ i.val := hi
    simp (disch := omega) only [put_of_le]
    rfl

/-- The bytes of an encoded address: the port stands in network order, and the sockaddr of the
family is all there is. -/
structure WellEncoded (a : SocketAddress) : Prop where
  family : a.getAddressFamily = (ssFamily a.getSockaddrStorage).toNat
  portHigh : a.getSockaddrStorage 2 = a.tcpPort.portNb.extractLsb' 8 8
  portLow : a.getSockaddrStorage 3 = a.tcpPort.portNb.extractLsb' 0 8
  addrlen : a.getAddrlen = if ssFamily a.getSockaddrStorage = AF_INET then 16 else 28
  rest : ∀ i : Fin 128, a.getAddrlen ≤ i.val → a.getSockaddrStorage i = 0

theorem wellEncoded (a : SocketAddress) : WellEncoded a := by
  have hport := portBytes_storage a.ipAddr a.tcpPort
  rw [TcpPort.toNetworkByteOrder, hostBytes16_htons] at hport
  constructor
  · unfold SocketAddress.getAddressFamily SocketAddress.getSockaddrStorage
    rw [ssFamily_storage, IpAddress.family]
    split <;> rfl
  · exact congrFun hport 0
  · exact congrFun hport 1
  · unfold SocketAddress.getAddrlen SocketAddress.getSockaddrStorage
    rw [ssFamily_storage, IpAddress.family, a.addrlen_eq]
    cases a.ipAddr.isIpv4 <;> rfl
  · intro i hi
    rw [SocketAddress.getAddrlen, a.addrlen_eq] at hi
    exact storage_zero _ _ i hi

/-- Encoding and decoding are inverse, on both formats. -/
theorem sockAddr_codec :
    (∀ a : SocketAddress, makeSockAddr a.getSockaddrStorage = .ok a ∧ WellEncoded a) ∧
    (∀ s, ssFamily s = AF_INET ∨ ssFamily s = AF_INET6 → ∃ a, makeSockAddr s = .ok a ∧
      ∀ i, a.getSockaddrStorage i = if i.val < fieldsEnd (ssFamily s) then s i else 0) ∧
    ∀ s, ssFamily s ≠ AF_INET → ssFamily s ≠ AF_INET6 → ∃ e, makeSockAddr s = .error e :=
  ⟨fun a => ⟨makeSockAddr_storage a, wellEncoded a⟩, fun _ => storage_makeSockAddr,
    fun _ => makeSockAddr_unknown⟩

end Codec

/-- `10.0.0.1:80`, with something in the padding. -/
def paddedStorage : SockaddrStorage := fun i =>
  if i.val = 0 then 2 else if i.val = 3 then 80 else if i.val = 4 then 10 else if i.val = 7 then 1
  else if i.val = 12 then 255 else 0

theorem sockAddr_codec_padded : ∃ (_ : Host) (a : SocketAddress),
    makeSockAddr paddedStorage = .ok a ∧ a.getSockaddrStorage 7 = 1 ∧
      a.getSockaddrStorage 12 = 0 := by
  let host : Host := ⟨.little⟩
  obtain ⟨a, ha, hbytes⟩ := sockAddr_codec.2.1 paddedStorage (by decide)
  exact ⟨host, a, ha, hbytes 7, hbytes 12⟩

end Snl
