import Mathlib.Data.Fin.VecNotation
import Mathlib.Data.Fintype.Pi

/-!
# Socket addresses

Values and byte layout of `TcpPort`, `IpAddress` and `SocketAddress`. The pimpl
objects of the source are plain values here.
-/

namespace Snl

/-- `SnlException` and its subclass, with what the constructor is given. The text of an
`errno` exception is `errorMsg` followed by `strerror(errorNo)`. -/
inductive SnlException where
  | plain (errorMsg : String)
  | errno (errorMsg : String) (errorNo : Int)
  | eof (errorMsg : String)
  deriving DecidableEq, Repr

abbrev Byte := BitVec 8

/-! ## The host -/

inductive ByteOrder where
  | little
  | big

class Host where
  byteOrder : ByteOrder

section Storage

variable [Host]

def hostBytes16 (v : BitVec 16) : Fin 2 → Byte :=
  match Host.byteOrder with
  | .little => ![v.extractLsb' 0 8, v.extractLsb' 8 8]
  | .big => ![v.extractLsb' 8 8, v.extractLsb' 0 8]

def ofHostBytes16 (b : Fin 2 → Byte) : BitVec 16 :=
  match Host.byteOrder with
  | .little => b 1 ++ b 0
  | .big => b 0 ++ b 1

def hostBytes32 (v : BitVec 32) : Fin 4 → Byte :=
  match Host.byteOrder with
  | .little => ![v.extractLsb' 0 8, v.extractLsb' 8 8, v.extractLsb' 16 8, v.extractLsb' 24 8]
  | .big => ![v.extractLsb' 24 8, v.extractLsb' 16 8, v.extractLsb' 8 8, v.extractLsb' 0 8]

def ofHostBytes32 (b : Fin 4 → Byte) : BitVec 32 :=
  match Host.byteOrder with
  | .little => b 3 ++ b 2 ++ b 1 ++ b 0
  | .big => b 0 ++ b 1 ++ b 2 ++ b 3

def htons (v : BitVec 16) : BitVec 16 :=
  match Host.byteOrder with
  | .little => v.extractLsb' 0 8 ++ v.extractLsb' 8 8
  | .big => v

def ntohs (v : BitVec 16) : BitVec 16 := htons v

/-! ## `sockaddr_storage`

`sockaddr_in` and `sockaddr_in6` are overlaid on the same 128 bytes.
-/

abbrev SockaddrStorage := Fin 128 → Byte

def SockaddrStorage.zero : SockaddrStorage := fun _ => 0

def SockaddrStorage.put {n : Nat} (s : SockaddrStorage) (off : Nat) (b : Fin n → Byte) :
    SockaddrStorage :=
  fun i => if h : off ≤ i.val ∧ i.val < off + n then b ⟨i.val - off, by omega⟩ else s i

def SockaddrStorage.get (s : SockaddrStorage) (off n : Nat) (h : off + n ≤ 128 := by decide) :
    Fin n → Byte :=
  fun j => s ⟨off + j.val, by omega⟩

def AF_INET : BitVec 16 := 2
def AF_INET6 : BitVec 16 := 10

def ssFamily (s : SockaddrStorage) : BitVec 16 := ofHostBytes16 (s.get 0 2)

/-- `sin_port` and `sin6_port`: both are at offset 2. -/
def sinPort (s : SockaddrStorage) : BitVec 16 := ofHostBytes16 (s.get 2 2)

def sinAddr (s : SockaddrStorage) : Fin 4 → Byte := s.get 4 4

def sin6Flowinfo (s : SockaddrStorage) : BitVec 32 := ofHostBytes32 (s.get 4 4)

def sin6Addr (s : SockaddrStorage) : Fin 16 → Byte := s.get 8 16

def sin6ScopeId (s : SockaddrStorage) : BitVec 32 := ofHostBytes32 (s.get 24 4)

end Storage

/-! ## `TcpPort` -/

structure TcpPort where
  portNb : BitVec 16 := 0
  deriving DecidableEq

section

variable [Host]

def TcpPort.toNetworkByteOrder (p : TcpPort) : BitVec 16 := htons p.portNb

def makeTcpPort (storage : SockaddrStorage) : Except SnlException TcpPort :=
  if ssFamily storage = AF_INET then .ok ⟨ntohs (sinPort storage)⟩
  else if ssFamily storage = AF_INET6 then .ok ⟨ntohs (sinPort storage)⟩
  else .error (.plain
    "TcpPort error: error extracting tcp port from sockaddr storage: unkown address family")

end

/-! ## `IpAddress` -/

inductive IpImpl where
  | ipv6Impl (ipv6Addr : Fin 16 → Byte) (flowInfo scopeId : BitVec 32)
  | ipv4Impl (ipv4Addr : Fin 4 → Byte)
  deriving DecidableEq

structure IpAddress where
  ipImpl : IpImpl
  deriving DecidableEq

def createLocalhost : Fin 4 → Byte := ![127, 0, 0, 1]

def IpAddress.default : IpAddress := ⟨.ipv4Impl createLocalhost⟩

def IpAddress.isIpv4 (a : IpAddress) : Bool :=
  match a.ipImpl with
  | .ipv4Impl _ => true
  | .ipv6Impl .. => false

def IpAddress.isIpv6 (a : IpAddress) : Bool :=
  match a.ipImpl with
  | .ipv4Impl _ => false
  | .ipv6Impl .. => true

section

variable [Host]

def IpAddress.makeSockaddrStorage (a : IpAddress) (tcpPort : TcpPort) : SockaddrStorage :=
  match a.ipImpl with
  | .ipv6Impl ipv6Addr flowInfo scopeId =>
    ((((SockaddrStorage.zero.put 0 (hostBytes16 AF_INET6)).put 2
      (hostBytes16 tcpPort.toNetworkByteOrder)).put 4 (hostBytes32 flowInfo)).put 8
      ipv6Addr).put 24 (hostBytes32 scopeId)
  | .ipv4Impl ipv4Addr =>
    ((SockaddrStorage.zero.put 0 (hostBytes16 AF_INET)).put 2
      (hostBytes16 tcpPort.toNetworkByteOrder)).put 4 ipv4Addr

def makeIpImpl (storage : SockaddrStorage) : Except SnlException IpImpl :=
  if ssFamily storage = AF_INET then .ok (.ipv4Impl (sinAddr storage))
  else if ssFamily storage = AF_INET6 then
    .ok (.ipv6Impl (sin6Addr storage) (sin6Flowinfo storage) (sin6ScopeId storage))
  else .error (.plain "IpAddress error: unknown address family")

def makeIpAddress (storage : SockaddrStorage) : Except SnlException IpAddress := do
  return ⟨← makeIpImpl storage⟩

end

/-! ## `SocketAddress` -/

def ipv4Addrlen : Nat := 16

def ipv6Addrlen : Nat := 28

/-- `addrlen` is set by the constructor, from the family of `ipAddr`. -/
structure SocketAddress where
  ipAddr : IpAddress
  tcpPort : TcpPort
  addrlen : Nat
  addrlen_eq : addrlen = if ipAddr.isIpv4 then ipv4Addrlen else ipv6Addrlen
  deriving DecidableEq

/-- `SocketAddress(IpAddress, TcpPort)` -/
def SocketAddress.make (ipAddress : IpAddress) (tcpPort : TcpPort) : SocketAddress :=
  ⟨ipAddress, tcpPort, if ipAddress.isIpv4 then ipv4Addrlen else ipv6Addrlen, rfl⟩

theorem SocketAddress.make_eq (a : SocketAddress) : .make a.ipAddr a.tcpPort = a := by
  obtain ⟨ipAddr, tcpPort, addrlen, rfl⟩ := a
  rfl

def SocketAddress.default : SocketAddress := .make .default {}

def SocketAddress.getIpAddress (a : SocketAddress) : IpAddress := a.ipAddr
def SocketAddress.getTcpPort (a : SocketAddress) : TcpPort := a.tcpPort
def SocketAddress.getAddrlen (a : SocketAddress) : Nat := a.addrlen

def SocketAddress.getAddressFamily (a : SocketAddress) : Nat :=
  if a.ipAddr.isIpv4 then AF_INET.toNat else AF_INET6.toNat

section

variable [Host]

def SocketAddress.getSockaddrStorage (a : SocketAddress) : SockaddrStorage :=
  a.ipAddr.makeSockaddrStorage a.tcpPort

def makeSockAddr (storage : SockaddrStorage) : Except SnlException SocketAddress := do
  return .make (← makeIpAddress storage) (← makeTcpPort storage)

end

end Snl
