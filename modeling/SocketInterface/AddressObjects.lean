import SocketInterface.Address
import SocketInterface.Library.Pimpl

/-!
# `IpAddress` and `SocketAddress` on the heap

The two classes as the source has them: a unique pointer each, and an address object
inside a socket address object. Allocation does not fail here.
-/

namespace Snl

open scoped Pointwise
open Heap

/-- `SockAddrImpl`. The member `ipAddr` is the pointer that it holds. -/
structure SockAddrImpl where
  ipAddr : Ptr
  tcpPort : TcpPort
  addrlen : Nat

inductive AddressObject where
  | ipImpl (impl : IpImpl)
  | sockAddrImpl (impl : SockAddrImpl)

abbrev AddressProgram (α : Type) : Type := Program AddressObject α

def lookIpImpl (l : Loc) : AddressProgram IpImpl := do
  match ← look l with
  | .ipImpl impl => return impl
  | .sockAddrImpl _ => .halt .undefined

def lookSockAddrImpl (l : Loc) : AddressProgram SockAddrImpl := do
  match ← look l with
  | .sockAddrImpl impl => return impl
  | .ipImpl _ => .halt .undefined

/-! ## `IpAddress` -/

def IpImpl.copy (l : Loc) : AddressProgram Loc := do
  match ← lookIpImpl l with
  | .ipv6Impl ipv6Addr flowInfo scopeId => make (.ipImpl (.ipv6Impl ipv6Addr flowInfo scopeId))
  | .ipv4Impl ipv4Addr => make (.ipImpl (.ipv4Impl ipv4Addr))

def IpAddress.pimpl : Pimpl AddressObject := ⟨IpImpl.copy, delete⟩

/-- `IpAddress(std::unique_ptr<IpImpl>)` -/
def IpAddress.ofIpPtr (ipPtr : Ptr) : AddressProgram Ptr := do
  let (ipImplPtr, ipPtr) := Pimpl.moveConstruct ipPtr
  IpAddress.pimpl.destroy ipPtr
  return ipImplPtr

def IpAddress.ofImpl (impl : IpImpl) : AddressProgram Ptr := do
  let l ← make (.ipImpl impl)
  IpAddress.ofIpPtr (some l)

def IpAddress.construct : AddressProgram Ptr := IpAddress.ofImpl (.ipv4Impl createLocalhost)

def IpAddress.isIpv4At (ipImplPtr : Ptr) : AddressProgram Bool := do
  let l ← deref ipImplPtr
  match ← lookIpImpl l with
  | .ipv6Impl .. => return false
  | .ipv4Impl _ => return true

/-! ## `SocketAddress` -/

/-- `SockAddrImpl(IpAddress, TcpPort)`: the members, and what is left of the parameter. `addrlen`
is initialised after `ipAddr` has taken over the pointer. -/
def SockAddrImpl.construct (ipAddress : Ptr) (port : TcpPort) :
    AddressProgram (SockAddrImpl × Ptr) := do
  let (ipAddr, ipAddress) := Pimpl.moveConstruct ipAddress
  let isIpv4 ← IpAddress.isIpv4At ipAddr
  return (⟨ipAddr, port, if isIpv4 then ipv4Addrlen else ipv6Addrlen⟩, ipAddress)

/-- `std::make_unique<SockAddrImpl>`, with the parameter of the constructor at its end. -/
def SockAddrImpl.makeUnique (ipAddress : Ptr) (port : TcpPort) : AddressProgram Loc := do
  let (impl, ipAddress) ← SockAddrImpl.construct ipAddress port
  let l ← make (.sockAddrImpl impl)
  IpAddress.pimpl.destroy ipAddress
  return l

/-- `std::make_unique<SockAddrImpl>(rhs.implPtr->ipAddr, rhs.implPtr->tcpPort)` -/
def SockAddrImpl.copy (l : Loc) : AddressProgram Loc := do
  let impl ← lookSockAddrImpl l
  let ipAddress ← IpAddress.pimpl.copyConstruct impl.ipAddr
  SockAddrImpl.makeUnique ipAddress impl.tcpPort

def SockAddrImpl.dispose (l : Loc) : AddressProgram Unit := do
  let impl ← lookSockAddrImpl l
  IpAddress.pimpl.destroy impl.ipAddr
  delete l

def SocketAddress.pimpl : Pimpl AddressObject := ⟨SockAddrImpl.copy, SockAddrImpl.dispose⟩

/-- `SocketAddress(IpAddress, TcpPort)`, with the parameter at its end. -/
def SocketAddress.ofParts (ipAddress : Ptr) (tcpPort : TcpPort) : AddressProgram Ptr := do
  let (argument, ipAddress) := Pimpl.moveConstruct ipAddress
  let l ← SockAddrImpl.makeUnique argument tcpPort
  IpAddress.pimpl.destroy ipAddress
  return some l

/-- `SocketAddress(std::move(IpAddress{}), 0)` -/
def SocketAddress.construct : AddressProgram Ptr := do
  let temp ← IpAddress.construct
  let (ipAddress, temp) := Pimpl.moveConstruct temp
  let new ← SocketAddress.ofParts ipAddress {}
  IpAddress.pimpl.destroy temp
  return new

section

variable [Host]

def makeIpAddressAt (storage : SockaddrStorage) : AddressProgram (Except SnlException Ptr) :=
  match makeIpImpl storage with
  | .error e => return .error e
  | .ok impl => do
    let new ← IpAddress.ofImpl impl
    return .ok new

def makeSockAddrAt (storage : SockaddrStorage) : AddressProgram (Except SnlException Ptr) := do
  match ← makeIpAddressAt storage with
  | .error e => return .error e
  | .ok ipAddress =>
    match makeTcpPort storage with
    | .error e =>
      IpAddress.pimpl.destroy ipAddress
      return .error e
    | .ok tcpPort =>
      let new ← SocketAddress.ofParts ipAddress tcpPort
      return .ok new

end

/-! ## Programs over address variables -/

structure AddressVars where
  ips : Vars := []
  socks : Vars := []

structure AddressValues where
  ips : Values IpAddress := []
  socks : Values SocketAddress := []

/-- What a program does with its variables. A new variable has the next number of its class, also
when its constructor throws. -/
inductive AddressOp where
  | ip (op : VarOp)
  | sock (op : VarOp)
  | ipDefault
  | ipParts (impl : IpImpl)
  | ipStorage (storage : SockaddrStorage)
  | sockDefault
  /-- From a new address that has no name. -/
  | sockParts (impl : IpImpl) (tcpPort : TcpPort)
  /-- From a copy of an address variable. -/
  | sockCopy (ip : Nat) (tcpPort : TcpPort)
  /-- From an address variable that is moved from. -/
  | sockMove (ip : Nat) (tcpPort : TcpPort)
  | sockStorage (storage : SockaddrStorage)

def declare {α : Type} (xs : List (Option α)) : Except SnlException α →
    Except SnlException Unit × List (Option α)
  | .ok a => (.ok (), xs ++ [some a])
  | .error e => (.error e, xs ++ [none])

section

variable [Host]

def AddressOp.run (x : AddressVars) : AddressOp →
    AddressProgram (Except SnlException Unit × AddressVars)
  | .ip op => do
    let ips ← IpAddress.pimpl.run op x.ips
    return (.ok (), { x with ips })
  | .sock op => do
    let socks ← SocketAddress.pimpl.run op x.socks
    return (.ok (), { x with socks })
  | .ipDefault => do
    let new ← IpAddress.construct
    return (.ok (), { x with ips := x.ips ++ [some new] })
  | .ipParts impl => do
    let new ← IpAddress.ofImpl impl
    return (.ok (), { x with ips := x.ips ++ [some new] })
  | .ipStorage storage => do
    let new ← makeIpAddressAt storage
    let (r, ips) := declare x.ips new
    return (r, { x with ips })
  | .sockDefault => do
    let new ← SocketAddress.construct
    return (.ok (), { x with socks := x.socks ++ [some new] })
  | .sockParts impl tcpPort => do
    let ipAddress ← IpAddress.ofImpl impl
    let new ← SocketAddress.ofParts ipAddress tcpPort
    return (.ok (), { x with socks := x.socks ++ [some new] })
  | .sockCopy i tcpPort => do
    let rhs ← readVar x.ips i
    let ipAddress ← IpAddress.pimpl.copyConstruct rhs
    let new ← SocketAddress.ofParts ipAddress tcpPort
    return (.ok (), { x with socks := x.socks ++ [some new] })
  | .sockMove i tcpPort => do
    let rhs ← readVar x.ips i
    let (ipAddress, rhs) := Pimpl.moveConstruct rhs
    let new ← SocketAddress.ofParts ipAddress tcpPort
    return (.ok (), { ips := x.ips.set i (some rhs), socks := x.socks ++ [some new] })
  | .sockStorage storage => do
    let new ← makeSockAddrAt storage
    let (r, socks) := declare x.socks new
    return (r, { x with socks })

def runAll : List AddressOp → AddressVars →
    AddressProgram (List (Except SnlException Unit) × AddressVars)
  | [], x => return ([], x)
  | op :: ops, x => do
    let (r, x) ← op.run x
    let (rs, x) ← runAll ops x
    return (r :: rs, x)

def AddressOp.apply (v : AddressValues) : AddressOp →
    Option (Except SnlException Unit × AddressValues)
  | .ip op => do
    let ips ← op.apply v.ips
    return (.ok (), { v with ips })
  | .sock op => do
    let socks ← op.apply v.socks
    return (.ok (), { v with socks })
  | .ipDefault => some (.ok (), { v with ips := v.ips ++ [some (some .default)] })
  | .ipParts impl => some (.ok (), { v with ips := v.ips ++ [some (some ⟨impl⟩)] })
  | .ipStorage storage =>
    let (r, ips) := declare v.ips ((makeIpAddress storage).map some)
    some (r, { v with ips })
  | .sockDefault => some (.ok (), { v with socks := v.socks ++ [some (some .default)] })
  | .sockParts impl tcpPort =>
    some (.ok (), { v with socks := v.socks ++ [some (some (.make ⟨impl⟩ tcpPort))] })
  | .sockCopy i tcpPort => do
    let a ← v.ips.live i
    return (.ok (), { v with socks := v.socks ++ [some (some (.make a tcpPort))] })
  | .sockMove i tcpPort => do
    let a ← v.ips.live i
    return (.ok (), { ips := v.ips.set i (some none)
                      socks := v.socks ++ [some (some (.make a tcpPort))] })
  | .sockStorage storage =>
    let (r, socks) := declare v.socks ((makeSockAddr storage).map some)
    some (r, { v with socks })

def applyAll : List AddressOp → AddressValues →
    Option (List (Except SnlException Unit) × AddressValues)
  | [], v => some ([], v)
  | op :: ops, v => do
    let (r, v) ← op.apply v
    let (rs, v) ← applyAll ops v
    return (r :: rs, v)

end

/-! ## What the objects stand for -/

def ipRep (a : IpAddress) (l : Loc) : Assertion AddressObject := pointsTo l (.ipImpl a.ipImpl)

def sockRep (a : SocketAddress) (l : Loc) : Assertion AddressObject :=
  ⋃ l', pointsTo l (.sockAddrImpl ⟨some l', a.tcpPort, a.addrlen⟩) + ipRep a.ipAddr l'

theorem lookIpImpl_spec {a : IpAddress} {l : Loc} : Triple (ipRep a l) (lookIpImpl l) fun impl =>
    given (impl = a.ipImpl) (ipRep a l) := by
  rw [← add_zero (ipRep a l)]
  refine triple_look.bind_eq (triple_done fun c hc => ⟨rfl, hc⟩)

theorem lookSockAddrImpl_spec {impl : SockAddrImpl} {l : Loc} :
    Triple (pointsTo l (.sockAddrImpl impl)) (lookSockAddrImpl l) fun b =>
      given (b = impl) (pointsTo l (.sockAddrImpl impl)) := by
  rw [← add_zero (pointsTo l _)]
  refine triple_look.bind_eq (triple_done fun c hc => ⟨rfl, hc⟩)

theorem ip_stands : IpAddress.pimpl.Stands ipRep where
  copy := by
    rintro ⟨impl⟩ l
    rw [← add_zero (ipRep _ l)]
    refine lookIpImpl_spec.bind_eq ?_
    cases impl with
    | ipv6Impl ipv6Addr flowInfo scopeId => exact triple_make
    | ipv4Impl ipv4Addr => exact triple_make
  dispose a l := triple_delete

section

variable {a : IpAddress} {p : Ptr} {port : TcpPort}

theorem ofImpl_spec {impl : IpImpl} :
    Triple 0 (IpAddress.ofImpl impl) (Pimpl.held ipRep (some ⟨impl⟩)) := by
  unfold IpAddress.ofImpl
  refine triple_make.bind fun l => triple_done ?_
  exact (add_zero _).le

theorem isIpv4At_spec : Triple (Pimpl.held ipRep (some a) p) (IpAddress.isIpv4At p) fun b =>
    given (b = a.isIpv4) (Pimpl.held ipRep (some a) p) := by
  obtain ⟨impl⟩ := a
  cases p with
  | none => exact triple_empty
  | some l =>
    have h : Triple (ipRep ⟨impl⟩ l + 0) (IpAddress.isIpv4At (some l)) fun b =>
        given (b = IpAddress.isIpv4 ⟨impl⟩) (ipRep ⟨impl⟩ l) := by
      refine lookIpImpl_spec.bind_eq ?_
      rw [add_zero]
      cases impl <;> exact triple_done fun c hc => ⟨rfl, hc⟩
    rwa [add_zero] at h

theorem construct_spec : Triple (Pimpl.held ipRep (some a) p) (SockAddrImpl.construct p port)
    fun x => given (x = (⟨p, port, (SocketAddress.make a port).addrlen⟩, none))
      (Pimpl.held ipRep (some a) p) := by
  unfold SockAddrImpl.construct
  rw [← add_zero (Pimpl.held ipRep (some a) p)]
  refine isIpv4At_spec.bind_eq (triple_done fun c hc => ⟨rfl, ?_⟩)
  rwa [add_zero] at hc ⊢

theorem makeUnique_spec : Triple (Pimpl.held ipRep (some a) p) (SockAddrImpl.makeUnique p port)
    (sockRep (.make a port)) := by
  unfold SockAddrImpl.makeUnique
  rw [← add_zero (Pimpl.held ipRep (some a) p)]
  refine construct_spec.bind_eq (triple_make.bind fun l => ?_)
  refine Pimpl.triple_destroy_none (triple_done ?_)
  rw [add_zero]
  cases p with
  | none =>
    rw [Pimpl.held, Set.add_empty]
    · exact Set.empty_subset _
    all_goals simp
  | some l' => exact Set.subset_iUnion_of_subset l' (Set.Subset.refl _)

theorem ofParts_spec : Triple (Pimpl.held ipRep (some a) p) (SocketAddress.ofParts p port)
    (Pimpl.held sockRep (some (.make a port))) := by
  unfold SocketAddress.ofParts
  refine makeUnique_spec.bind fun l => ?_
  exact Pimpl.triple_destroy_none (triple_done (Set.Subset.refl _))

theorem sock_stands : SocketAddress.pimpl.Stands sockRep where
  copy := by
    intro a l
    refine triple_iUnion fun l' => ?_
    refine lookSockAddrImpl_spec.bind_eq ?_
    rw [add_comm]
    refine ((Pimpl.copyConstruct_spec ip_stands (v := a.ipAddr) (p := some l')).frame _).bind
      fun p => ?_
    rw [add_assoc]
    refine (makeUnique_spec.frame _).mono (Set.Subset.refl _) fun l1 => ?_
    rw [SocketAddress.make_eq]
    refine Set.add_subset_add_left ?_
    rw [add_comm]
    exact Set.subset_iUnion_of_subset l' (Set.Subset.refl _)
  dispose := by
    intro a l
    refine triple_iUnion fun l' => ?_
    refine lookSockAddrImpl_spec.bind_eq ?_
    rw [add_comm]
    refine ((Pimpl.destroy_spec ip_stands (u := some a.ipAddr) (p := some l')).frame _).bind
      fun _ => ?_
    rw [zero_add]
    exact triple_delete

theorem sockConstruct_spec :
    Triple 0 SocketAddress.construct (Pimpl.held sockRep (some .default)) := by
  unfold SocketAddress.construct
  refine ofImpl_spec.bind fun temp => ofParts_spec.bind fun new => ?_
  exact Pimpl.triple_destroy_none (triple_done (Set.Subset.refl _))

end

def madeAs {V : Type} (rep : V → Loc → Assertion AddressObject) :
    Except SnlException V → Except SnlException Ptr → Assertion AddressObject
  | .ok v, .ok p => Pimpl.held rep (some v) p
  | .error e, .error e' => given (e' = e) 0
  | _, _ => ∅

theorem declare_spec {V : Type} {rep : V → Loc → Assertion AddressObject} {rs : Values V}
    {vs : Vars} {value : Except SnlException V} {r : Except SnlException Ptr} :
    madeAs rep value r + Pimpl.allHeld rep rs vs ⊆
      given ((declare vs r).1 = (declare rs (value.map some)).1)
        (Pimpl.allHeld rep (declare rs (value.map some)).2 (declare vs r).2) := by
  cases value with
  | error e =>
    cases r with
    | error e' =>
      rintro _ ⟨c, ⟨rfl, hc⟩, d, hd, rfl⟩
      exact ⟨rfl, Pimpl.allHeld_append ⟨c, hc, d, hd, rfl⟩⟩
    | ok p => rw [madeAs, Set.empty_add]; exact Set.empty_subset _; all_goals simp
  | ok v =>
    cases r with
    | error e' => rw [madeAs, Set.empty_add]; exact Set.empty_subset _; all_goals simp
    | ok p => exact fun c hc => ⟨rfl, Pimpl.allHeld_append hc⟩

section

variable [Host] {storage : SockaddrStorage}

theorem makeIpAddressAt_spec : Triple 0 (makeIpAddressAt storage)
    (madeAs ipRep (makeIpAddress storage)) := by
  unfold makeIpAddressAt makeIpAddress
  cases makeIpImpl storage with
  | error e => exact triple_done fun c hc => ⟨rfl, hc⟩
  | ok impl => exact ofImpl_spec.bind fun new => triple_done (Set.Subset.refl _)

theorem makeSockAddrAt_spec : Triple 0 (makeSockAddrAt storage)
    (madeAs sockRep (makeSockAddr storage)) := by
  unfold makeSockAddrAt makeSockAddr
  refine makeIpAddressAt_spec.bind fun r => ?_
  cases makeIpAddress storage with
  | error e =>
    cases r with
    | error e' => exact triple_given fun h => triple_done fun c hc => ⟨h, hc⟩
    | ok p => exact triple_empty
  | ok a =>
    cases r with
    | error e' => exact triple_empty
    | ok p =>
      cases makeTcpPort storage with
      | error e =>
        exact (Pimpl.destroy_spec ip_stands).bind fun _ => triple_done fun c hc => ⟨rfl, hc⟩
      | ok tcpPort => exact ofParts_spec.bind fun new => triple_done (Set.Subset.refl _)

/-! ## Programs -/

def addressHeld (v : AddressValues) (x : AddressVars) : Assertion AddressObject :=
  Pimpl.allHeld ipRep v.ips x.ips + Pimpl.allHeld sockRep v.socks x.socks

variable {v v' : AddressValues} {x : AddressVars}

omit [Host] in
theorem newIp_spec {m : AddressProgram Ptr} {a : IpAddress}
    (h : Triple 0 m (Pimpl.held ipRep (some a))) :
    Triple (addressHeld v x)
      (m >>= fun new => pure (Except.ok (), { x with ips := x.ips ++ [some new] }))
      fun y => given (y.1 = (.ok () : Except SnlException Unit))
        (addressHeld { v with ips := v.ips ++ [some (some a)] } y.2) := by
  rw [← zero_add (addressHeld v x)]
  refine (h.frame _).bind fun new => triple_done fun c hc => ⟨rfl, ?_⟩
  rw [addressHeld, ← add_assoc] at hc
  exact Set.add_subset_add_right Pimpl.allHeld_append hc

omit [Host] in
theorem newSock_spec {m : AddressProgram Ptr} {a : SocketAddress} {A : Assertion AddressObject}
    (h : Triple A m (Pimpl.held sockRep (some a))) :
    Triple (A + addressHeld v x)
      (m >>= fun new => pure (Except.ok (), { x with socks := x.socks ++ [some new] }))
      fun y => given (y.1 = (.ok () : Except SnlException Unit))
        (addressHeld { v with socks := v.socks ++ [some (some a)] } y.2) := by
  refine (h.frame _).bind fun new => triple_done fun c hc => ⟨rfl, ?_⟩
  rw [addressHeld, add_left_comm] at hc
  exact Set.add_subset_add_left Pimpl.allHeld_append hc

theorem sockCopy_spec {a : IpAddress} {i : Nat} {tcpPort : TcpPort}
    (hi : v.ips[i]? = some (some (some a))) :
    Triple (addressHeld v x) ((AddressOp.sockCopy i tcpPort).run x) fun y =>
      given (y.1 = .ok ())
        (addressHeld { v with socks := v.socks ++ [some (some (.make a tcpPort))] } y.2) := by
  rw [addressHeld, add_comm]
  refine Pimpl.readVar_spec rfl hi fun p hp => ?_
  rw [add_left_comm]
  refine ((Pimpl.copyConstruct_spec ip_stands).frame _).bind fun ipAddress => ?_
  -- the variable has its cells back, and those of the parameter are used up
  rw [add_assoc, add_left_comm (Pimpl.held ipRep (some a) p), Pimpl.allHeld_put hi hp,
    Pimpl.set_self hi, Pimpl.set_self hp, add_comm (Pimpl.allHeld sockRep _ _)]
  exact newSock_spec ofParts_spec

theorem sockMove_spec {a : IpAddress} {i : Nat} {tcpPort : TcpPort}
    (hi : v.ips[i]? = some (some (some a))) :
    Triple (addressHeld v x) ((AddressOp.sockMove i tcpPort).run x) fun y =>
      given (y.1 = .ok ())
        (addressHeld ⟨v.ips.set i (some none), v.socks ++ [some (some (.make a tcpPort))]⟩ y.2) := by
  rw [addressHeld, add_comm]
  refine Pimpl.readVar_spec rfl hi fun p hp => ?_
  have hput : 0 + Pimpl.allHeld ipRep (v.ips.set i none) (x.ips.set i none) = _ :=
    Pimpl.allHeld_put hi hp none none
  rw [add_left_comm, ← zero_add (Pimpl.allHeld ipRep _ _), hput,
    add_comm (Pimpl.allHeld sockRep _ _)]
  exact newSock_spec (v := ⟨v.ips.set i (some none), v.socks⟩)
    (x := ⟨x.ips.set i (some none), x.socks⟩) ofParts_spec

theorem step_spec {op : AddressOp} {r : Except SnlException Unit}
    (h : op.apply v = some (r, v')) :
    Triple (addressHeld v x) (op.run x) fun y => given (y.1 = r) (addressHeld v' y.2) := by
  unfold AddressOp.apply at h
  cases op with
  | ip op =>
    obtain ⟨ips, hips, ⟨⟩⟩ := Option.bind_eq_some_iff.mp h
    exact ((Pimpl.run_spec ip_stands hips).frame _).bind fun _ => triple_done fun c hc => ⟨rfl, hc⟩
  | sock op =>
    obtain ⟨socks, hsocks, ⟨⟩⟩ := Option.bind_eq_some_iff.mp h
    rw [addressHeld, add_comm]
    refine ((Pimpl.run_spec sock_stands hsocks).frame _).bind fun _ =>
      triple_done fun c hc => ⟨rfl, ?_⟩
    rwa [add_comm] at hc
  | ipDefault =>
    obtain ⟨⟩ := h
    exact newIp_spec ofImpl_spec
  | ipParts impl =>
    obtain ⟨⟩ := h
    exact newIp_spec ofImpl_spec
  | ipStorage storage =>
    obtain ⟨⟩ := h
    rw [← zero_add (addressHeld v x)]
    refine (makeIpAddressAt_spec.frame _).bind fun new => triple_done fun c hc => ?_
    rw [addressHeld, ← add_assoc] at hc
    obtain ⟨d, hd, e, he, rfl⟩ := hc
    have hdecl := declare_spec hd
    exact ⟨hdecl.1, d, hdecl.2, e, he, rfl⟩
  | sockDefault =>
    obtain ⟨⟩ := h
    rw [← zero_add (addressHeld v x)]
    exact newSock_spec sockConstruct_spec
  | sockParts impl tcpPort =>
    obtain ⟨⟩ := h
    rw [← zero_add (addressHeld v x)]
    refine (ofImpl_spec.frame _).bind fun p => newSock_spec ofParts_spec
  | sockCopy i tcpPort =>
    obtain ⟨a, ha, ⟨⟩⟩ := Option.bind_eq_some_iff.mp h
    exact sockCopy_spec (Values.live_eq.mp ha)
  | sockMove i tcpPort =>
    obtain ⟨a, ha, ⟨⟩⟩ := Option.bind_eq_some_iff.mp h
    exact sockMove_spec (Values.live_eq.mp ha)
  | sockStorage storage =>
    obtain ⟨⟩ := h
    rw [← zero_add (addressHeld v x)]
    refine (makeSockAddrAt_spec.frame _).bind fun new => triple_done fun c hc => ?_
    rw [addressHeld, add_left_comm] at hc
    obtain ⟨d, hd, e, he, rfl⟩ := hc
    have hdecl := declare_spec he
    exact ⟨hdecl.1, d, hd, e, hdecl.2, rfl⟩

theorem runAll_spec {ops : List AddressOp} {rs : List (Except SnlException Unit)}
    (h : applyAll ops v = some (rs, v')) :
    Triple (addressHeld v x) (runAll ops x) fun y => given (y.1 = rs) (addressHeld v' y.2) := by
  induction ops generalizing v x rs with
  | nil =>
    obtain ⟨⟩ := h
    exact triple_done fun c hc => ⟨rfl, hc⟩
  | cons op ops ih =>
    unfold applyAll at h
    obtain ⟨⟨r, v1⟩, hop, h⟩ := Option.bind_eq_some_iff.mp h
    obtain ⟨⟨rs1, v2⟩, hops, ⟨⟩⟩ := Option.bind_eq_some_iff.mp h
    unfold runAll
    refine (step_spec hop).bind fun y => triple_given fun hy => ?_
    refine (ih hops).bind fun z => triple_given fun hz => triple_done fun c hc => ⟨?_, hc⟩
    rw [hy, hz]

/-! ## Variables of the heap and of the reference -/

def IsIpAddress (w : Heap AddressObject) (p : Ptr) (a : IpAddress) : Prop :=
  ∃ l, p = some l ∧ (l, .ipImpl a.ipImpl) ∈ w.cells

def IsSocketAddress (w : Heap AddressObject) (p : Ptr) (a : SocketAddress) : Prop :=
  ∃ l impl, p = some l ∧ (l, .sockAddrImpl impl) ∈ w.cells ∧ impl.tcpPort = a.tcpPort ∧
    impl.addrlen = a.addrlen ∧ IsIpAddress w impl.ipAddr a.ipAddr

structure SameValues (w : Heap AddressObject) (x : AddressVars) (v : AddressValues) : Prop where
  ips : ∀ i a, v.ips.live i = some a → ∃ p, x.ips[i]? = some (some p) ∧ IsIpAddress w p a
  socks : ∀ i a, v.socks.live i = some a → ∃ p, x.socks[i]? = some (some p) ∧ IsSocketAddress w p a

inductive AddressVar where
  | ip (i : Nat)
  | sock (i : Nat)

def Owns (w : Heap AddressObject) (x : AddressVars) : AddressVar → Loc → Prop
  | .ip i, l => x.ips[i]? = some (some (some l))
  | .sock i, l => x.socks[i]? = some (some (some l)) ∨
    ∃ l' impl, x.socks[i]? = some (some (some l')) ∧ (l', .sockAddrImpl impl) ∈ w.cells ∧
      impl.ipAddr = some l

def Unshared (w : Heap AddressObject) (x : AddressVars) : Prop :=
  ∀ y z l, Owns w x y l → Owns w x z l → y = z

end

section

variable {w : Heap AddressObject} {v : AddressValues} {x : AddressVars} {y z : AddressVar}
  {F : Assertion AddressObject} {c : Multiset (Loc × AddressObject)}

def varHeld (v : AddressValues) (x : AddressVars) : AddressVar → Assertion AddressObject
  | .ip i => Pimpl.slotHeld ipRep (v.ips.getD i none) (x.ips.getD i none)
  | .sock i => Pimpl.slotHeld sockRep (v.socks.getD i none) (x.socks.getD i none)

def AddressValues.without (v : AddressValues) : AddressVar → AddressValues
  | .ip i => { v with ips := v.ips.set i none }
  | .sock i => { v with socks := v.socks.set i none }

def AddressVars.without (x : AddressVars) : AddressVar → AddressVars
  | .ip i => { x with ips := x.ips.set i none }
  | .sock i => { x with socks := x.socks.set i none }

theorem addressHeld_split (v : AddressValues) (x : AddressVars) (y : AddressVar) :
    addressHeld v x = varHeld v x y + addressHeld (v.without y) (x.without y) := by
  cases y with
  | ip i =>
    rw [addressHeld, Pimpl.allHeld_split v.ips x.ips i, add_assoc]
    rfl
  | sock i =>
    rw [addressHeld, Pimpl.allHeld_split v.socks x.socks i, add_left_comm]
    rfl

theorem getD_set_ne {α : Type} {l : List (Option α)} {i j : Nat} (h : i ≠ j) :
    (l.set i none).getD j none = l.getD j none := by
  rw [List.getD_eq_getElem?_getD, List.getElem?_set_ne h, List.getD_eq_getElem?_getD]

theorem varHeld_without (hne : y ≠ z) :
    varHeld (v.without y) (x.without y) z = varHeld v x z := by
  cases y with
  | ip i =>
    cases z with
    | ip j =>
      have hij : i ≠ j := fun h => hne (congrArg _ h)
      simp only [varHeld, AddressValues.without, AddressVars.without, getD_set_ne hij]
    | sock j => rfl
  | sock i =>
    cases z with
    | ip j => rfl
    | sock j =>
      have hij : i ≠ j := fun h => hne (congrArg _ h)
      simp only [varHeld, AddressValues.without, AddressVars.without, getD_set_ne hij]

theorem held_one (h : w.cells ∈ addressHeld v x + F) (y : AddressVar) :
    ∃ c ≤ w.cells, c ∈ varHeld v x y := by
  rw [addressHeld_split v x y, add_assoc] at h
  obtain ⟨c, hc, d, -, hd⟩ := h
  exact ⟨c, hd ▸ Multiset.le_add_right c d, hc⟩

theorem held_two (h : w.cells ∈ addressHeld v x + F) (hne : y ≠ z) :
    ∃ c d, c + d ≤ w.cells ∧ c ∈ varHeld v x y ∧ d ∈ varHeld v x z := by
  rw [addressHeld_split v x y, addressHeld_split (v.without y) _ z, varHeld_without hne,
    add_assoc, add_assoc, ← add_assoc] at h
  obtain ⟨_, ⟨c, hc, d, hd, rfl⟩, e, -, he⟩ := h
  exact ⟨c, d, he ▸ Multiset.le_add_right _ e, hc, hd⟩

theorem getElem?_of_getD {α : Type} {l : List (Option α)} {i : Nat} {a : α}
    (h : l.getD i none = some a) : l[i]? = some (some a) := by
  rw [List.getD_eq_getElem?_getD] at h
  cases hl : l[i]? with
  | none => rw [hl] at h; exact absurd h (by simp)
  | some b => rw [hl] at h; exact congrArg some h

theorem getD_of_getElem? {α : Type} {l : List (Option α)} {i : Nat} {a : Option α}
    (h : l[i]? = some a) : l.getD i none = a := by
  rw [List.getD_eq_getElem?_getD, h, Option.getD_some]

theorem isIpAddress_of_rep {a : IpAddress} {l : Loc} (hc : c ∈ ipRep a l) (hle : c ≤ w.cells) :
    IsIpAddress w (some l) a := by
  obtain rfl := Set.mem_singleton_iff.mp hc
  exact ⟨l, rfl, Multiset.mem_of_le hle (Multiset.mem_singleton_self _)⟩

theorem mem_sockRep {a : SocketAddress} {l : Loc} (hc : c ∈ sockRep a l) : ∃ l',
    c = (l, .sockAddrImpl ⟨some l', a.tcpPort, a.addrlen⟩) ::ₘ {(l', .ipImpl a.ipAddr.ipImpl)} := by
  obtain ⟨l', hc⟩ := Set.mem_iUnion.mp hc
  obtain ⟨d, hd, rfl⟩ := mem_pointsTo_add.mp hc
  obtain rfl := Set.mem_singleton_iff.mp hd
  exact ⟨l', rfl⟩

theorem isSocketAddress_of_rep {a : SocketAddress} {l : Loc} (hc : c ∈ sockRep a l)
    (hle : c ≤ w.cells) : IsSocketAddress w (some l) a := by
  obtain ⟨l', rfl⟩ := mem_sockRep hc
  have hcell := Multiset.mem_of_le hle (Multiset.mem_cons_self _ _)
  have hip : (l', AddressObject.ipImpl a.ipAddr.ipImpl) ∈ w.cells :=
    Multiset.mem_of_le hle (by simp)
  exact ⟨l, _, rfl, hcell, rfl, rfl, l', rfl, hip⟩

theorem sameValues_of_held (h : w.cells ∈ addressHeld v x + F) : SameValues w x v where
  ips := by
    intro i a ha
    obtain ⟨c, hle, hc⟩ := held_one h (.ip i)
    rw [varHeld, getD_of_getElem? (Values.live_eq.mp ha)] at hc
    obtain ⟨l, hl, hc⟩ := Pimpl.mem_slotHeld hc
    exact ⟨some l, getElem?_of_getD hl, isIpAddress_of_rep hc hle⟩
  socks := by
    intro i a ha
    obtain ⟨c, hle, hc⟩ := held_one h (.sock i)
    rw [varHeld, getD_of_getElem? (Values.live_eq.mp ha)] at hc
    obtain ⟨l, hl, hc⟩ := Pimpl.mem_slotHeld hc
    exact ⟨some l, getElem?_of_getD hl, isSocketAddress_of_rep hc hle⟩

theorem owns_mem {l : Loc} (h : Owns w x y l) (hle : c ≤ w.cells) (hc : c ∈ varHeld v x y) :
    l ∈ c.map Prod.fst := by
  cases y with
  | ip i =>
    rw [varHeld, getD_of_getElem? h] at hc
    obtain ⟨a, hc⟩ := Pimpl.mem_slotHeld_at hc
    obtain rfl := Set.mem_singleton_iff.mp hc
    simp
  | sock i =>
    rcases h with h | ⟨l0, impl, h, hcell, himpl⟩
    · rw [varHeld, getD_of_getElem? h] at hc
      obtain ⟨a, hc⟩ := Pimpl.mem_slotHeld_at hc
      obtain ⟨l', rfl⟩ := mem_sockRep hc
      simp
    · rw [varHeld, getD_of_getElem? h] at hc
      obtain ⟨a, hc⟩ := Pimpl.mem_slotHeld_at hc
      obtain ⟨l', rfl⟩ := mem_sockRep hc
      have hown := cell_unique (Multiset.mem_of_le hle (Multiset.mem_cons_self _ _)) hcell
      cases hown
      obtain rfl : l' = l := Option.some.inj himpl
      simp

theorem unshared_of_held (h : w.cells ∈ addressHeld v x + F) : Unshared w x := by
  intro y z l hy hz
  by_contra hne
  obtain ⟨c, d, hle, hc, hd⟩ := held_two h hne
  have hn := Multiset.nodup_of_le (Multiset.map_le_map hle) w.nodup
  rw [Multiset.map_add, Multiset.nodup_add] at hn
  exact Multiset.disjoint_left.mp hn.2.2
    (owns_mem hy (le_trans (Multiset.le_add_right c d) hle) hc)
    (owns_mem hz (le_trans (Multiset.le_add_left d c) hle) hd)

end

section

variable [Host]

/-- Whatever else is on the heap, a program that keeps to the rules for values that were moved from
comes to an end with the variables of the reference, and none of them has its impl shared. -/
theorem addresses_are_values {ops : List AddressOp} {rs : List (Except SnlException Unit)}
    {v : AddressValues} (h : applyAll ops {} = some (rs, v)) (w : Heap AddressObject) :
    (runAll ops {}).Returns Step (fun y w' => y.1 = rs ∧ SameValues w' y.2 v ∧ Unshared w' y.2) w := by
  have hw : w.cells ∈ addressHeld {} {} + {w.cells} := by
    rw [addressHeld, Pimpl.allHeld, Pimpl.allHeld, zero_add, zero_add]
    exact Set.mem_singleton _
  refine (runAll_spec h _ w hw).mono fun y w' hy => ?_
  obtain ⟨c, ⟨hr, hc⟩, d, hd, hcells⟩ := hy
  have hheld : w'.cells ∈ addressHeld v y.2 + {w.cells} := ⟨c, hc, d, hd, hcells⟩
  exact ⟨hr, sameValues_of_held hheld, unshared_of_held hheld⟩

end

/-- An address that is moved into a socket address, assigned again and destroyed, and a socket
address that is assigned to itself, moved twice and swapped with what is left of it. -/
theorem addresses_are_values_moved :
    let _ : Host := ⟨.little⟩
    let impl : IpImpl := .ipv6Impl (fun _ => 0) 2 3
    (runAll [.ipDefault, .ipParts impl, .sockMove 1 ⟨80⟩, .ip (.copyAssign 1 0),
        .sock (.copyAssign 0 0), .sock (.moveConstruct 0), .sockDefault, .sock (.moveAssign 0 1),
        .sock (.swap 1 2), .ip (.destroy 0)] {}).Returns Step
      (fun y w' => y.1 = List.replicate 10 (.ok ()) ∧
        SameValues w' y.2 ⟨[none, some (some .default)],
          [some (some (.make ⟨impl⟩ ⟨80⟩)), some (some .default), some none]⟩ ∧
        Unshared w' y.2) Heap.empty :=
  @addresses_are_values ⟨.little⟩ _ _ _ rfl Heap.empty

end Snl
