import SocketInterface.AddressCodec
import SocketInterface.AddressObjects
import SocketInterface.AddressText
import SocketInterface.Kernel
import SocketInterface.Library.MixedHeap

/-!
# Addresses of host names

`IpAddress(const std::string&)` beside the other constructors. `getaddrinfo` makes its
list on the same heap, and `makeIpImpl` has to give it back.
-/

namespace Snl

open scoped Pointwise
open Heap

/-! ## The name service -/

structure HostEntry where
  aiFamily : Int
  aiAddr : SockaddrStorage

/-- A node of the list. The fields that `makeIpImpl` does not read are left out. -/
structure Addrinfo extends HostEntry where
  aiNext : Ptr

inductive LookupObject where
  | address (o : AddressObject)
  | addrinfo (info : Addrinfo)

abbrev LookupProgram (α : Type) : Type := Program LookupObject α

def addressKind : Kind AddressObject LookupObject where
  into := .address
  out
    | .address o => some o
    | .addrinfo _ => none
  out_into _ := rfl

structure Hints where
  aiFamily : Int := 0
  aiSocktype : Int := 0
  deriving DecidableEq

def infoList : List HostEntry → Ptr → Assertion LookupObject
  | entry :: entries, some l =>
    ⋃ next, pointsTo l (.addrinfo ⟨entry, next⟩) + infoList entries next
  | [], none => 0
  | _, _ => ∅

/-- The name service at one moment, as its manual has it: an error, which is not zero, or a list
with at least one entry, and that list can be freed. -/
structure Resolver where
  getaddrinfo : CString → Hints → LookupProgram (Int × Ptr)
  freeaddrinfo : Loc → LookupProgram Unit
  gaiStrerror : Int → String
  answer : CString → Hints → Except { status : Int // status ≠ 0 } (HostEntry × List HostEntry)
  getaddrinfo_spec : ∀ node hints, Triple 0 (getaddrinfo node hints) fun x =>
    match answer node hints with
    | .error status => given (x.1 = status) 0
    | .ok (first, rest) => given (x.1 = 0) (infoList (first :: rest) x.2)
  freeaddrinfo_spec : ∀ node hints first rest l, answer node hints = .ok (first, rest) →
    Triple (infoList (first :: rest) (some l)) (freeaddrinfo l) fun _ => 0

/-! ## `IpAddress(const std::string&)` -/

def lookAddrinfo (l : Loc) : LookupProgram Addrinfo := do
  match ← look l with
  | .addrinfo info => return info
  | .address _ => .halt .undefined

def AF_UNSPEC : Int := 0

def lookupHints : Hints := { aiFamily := AF_UNSPEC, aiSocktype := SOCK_STREAM }

def Resolver.freeInfo (resolver : Resolver) : Ptr → LookupProgram Unit
  | some l => resolver.freeaddrinfo l
  | none => pure ()

section

variable [Host]

/-- `Ipv4Impl(addrinfo*)` -/
def ipv4ImplOfInfo (info : HostEntry) : IpImpl := .ipv4Impl (sinAddr info.aiAddr)

/-- `Ipv6Impl(addrinfo*)` -/
def ipv6ImplOfInfo (info : HostEntry) : IpImpl :=
  .ipv6Impl (sin6Addr info.aiAddr) (sin6Flowinfo info.aiAddr) (sin6ScopeId info.aiAddr)

/-- `new Ipv4Impl(info.get())` and its sibling -/
def newImpl (implOfInfo : HostEntry → IpImpl) (info : Ptr) : LookupProgram Loc := do
  let l ← deref info
  let entry ← lookAddrinfo l
  make (.address (.ipImpl (implOfInfo entry.toHostEntry)))

/-- `makeIpImpl(const std::string&)` -/
def makeIpImplOfHost (resolver : Resolver) (hostname : List Byte) :
    LookupProgram (Except SnlException Loc) := do
  let (status, searchResult) ← resolver.getaddrinfo (cStr hostname) lookupHints
  if status ≠ 0 then
    return .error (.plain ("IpAddress error: " ++ resolver.gaiStrerror status))
  else
    let l ← deref searchResult
    let first ← lookAddrinfo l
    if first.aiFamily = AF_INET.toNat then
      let impl ← newImpl ipv4ImplOfInfo searchResult
      resolver.freeInfo searchResult
      return .ok impl
    else if first.aiFamily = AF_INET6.toNat then
      let impl ← newImpl ipv6ImplOfInfo searchResult
      resolver.freeInfo searchResult
      return .ok impl
    else
      resolver.freeInfo searchResult
      return .error (.plain "IpAddress error: unknown address family")

def IpAddress.ofHost (resolver : Resolver) (hostname : List Byte) :
    LookupProgram (Except SnlException Ptr) := do
  match ← makeIpImplOfHost resolver hostname with
  | .error e => return .error e
  | .ok impl =>
    let new ← addressKind.run (IpAddress.ofIpPtr (some impl))
    return .ok new

def SocketAddress.getIpAddressAt (implPtr : Ptr) : AddressProgram Ptr := do
  let l ← deref implPtr
  let impl ← lookSockAddrImpl l
  IpAddress.pimpl.copyConstruct impl.ipAddr

/-! ## Programs with lookups -/

inductive LookupOp where
  | address (op : AddressOp)
  /-- With the name service as it is at this moment. -/
  | ipHost (resolver : Resolver) (hostname : List Byte)
  /-- A new address variable, from a socket address variable. -/
  | getIpAddress (sock : Nat)

def LookupOp.run (x : AddressVars) : LookupOp →
    LookupProgram (Except SnlException Unit × AddressVars)
  | .address op => addressKind.run (op.run x)
  | .ipHost resolver hostname => do
    let new ← IpAddress.ofHost resolver hostname
    let (r, ips) := declare x.ips new
    return (r, { x with ips })
  | .getIpAddress i => addressKind.run do
    let this ← readVar x.socks i
    let new ← SocketAddress.getIpAddressAt this
    return (.ok (), { x with ips := x.ips ++ [some new] })

def runLookups : List LookupOp → AddressVars →
    LookupProgram (List (Except SnlException Unit) × AddressVars)
  | [], x => return ([], x)
  | op :: ops, x => do
    let (r, x) ← op.run x
    let (rs, x) ← runLookups ops x
    return (r :: rs, x)

def hostAddress (resolver : Resolver) (hostname : List Byte) : Except SnlException IpAddress :=
  match resolver.answer (cStr hostname) lookupHints with
  | .error status => .error (.plain ("IpAddress error: " ++ resolver.gaiStrerror status))
  | .ok (first, _) =>
    if first.aiFamily = AF_INET.toNat then .ok ⟨ipv4ImplOfInfo first⟩
    else if first.aiFamily = AF_INET6.toNat then .ok ⟨ipv6ImplOfInfo first⟩
    else .error (.plain "IpAddress error: unknown address family")

def LookupOp.apply (v : AddressValues) : LookupOp →
    Option (Except SnlException Unit × AddressValues)
  | .address op => op.apply v
  | .ipHost resolver hostname =>
    let (r, ips) := declare v.ips ((hostAddress resolver hostname).map some)
    some (r, { v with ips })
  | .getIpAddress i => do
    let a ← v.socks.live i
    return (.ok (), { v with ips := v.ips ++ [some (some a.getIpAddress)] })

def applyLookups : List LookupOp → AddressValues →
    Option (List (Except SnlException Unit) × AddressValues)
  | [], v => some ([], v)
  | op :: ops, v => do
    let (r, v) ← op.apply v
    let (rs, v) ← applyLookups ops v
    return (r :: rs, v)

end

/-! ## One lookup -/

section

variable {entry : HostEntry} {entries : List HostEntry} {l : Loc} {p : Ptr}

theorem lookAddrinfo_spec {info : Addrinfo} : Triple (pointsTo l (.addrinfo info))
    (lookAddrinfo l) fun b => given (b = info) (pointsTo l (.addrinfo info)) := by
  rw [← add_zero (pointsTo l _)]
  refine triple_look.bind_eq (triple_done fun c hc => ⟨rfl, hc⟩)

theorem lookFirst_spec {α : Type} {f : Addrinfo → LookupProgram α} {P : Assertion LookupObject}
    {Q : α → Assertion LookupObject}
    (h : ∀ info, info.toHostEntry = entry →
      Triple (infoList (entry :: entries) (some l) + P) (f info) Q) :
    Triple (infoList (entry :: entries) (some l) + P) (lookAddrinfo l >>= f) Q := by
  rw [infoList, Set.iUnion_add]
  refine triple_iUnion fun next => ?_
  rw [add_assoc]
  refine lookAddrinfo_spec.bind_eq ((h ⟨entry, next⟩ rfl).mono ?_ fun _ => Set.Subset.refl _)
  rw [← add_assoc]
  exact Set.add_subset_add_right (Set.subset_iUnion (fun next =>
    pointsTo l (.addrinfo ⟨entry, next⟩) + infoList entries next) next)

theorem newImpl_spec {implOfInfo : HostEntry → IpImpl} :
    Triple (infoList (entry :: entries) (some l)) (newImpl implOfInfo (some l)) fun made =>
      pointsTo made (.address (.ipImpl (implOfInfo entry))) +
        infoList (entry :: entries) (some l) := by
  rw [← add_zero (infoList _ _)]
  refine lookFirst_spec fun info hinfo => ?_
  rw [hinfo]
  exact triple_make

variable {resolver : Resolver} {node : CString} {hints : Hints}

theorem freeInfo_spec {P : Assertion LookupObject}
    (h : resolver.answer node hints = .ok (entry, entries)) :
    Triple (P + infoList (entry :: entries) (some l)) (resolver.freeInfo (some l)) fun _ => P := by
  rw [add_comm]
  have hfree := (resolver.freeaddrinfo_spec node hints entry entries l h).frame P
  rw [zero_add] at hfree
  exact hfree

end

def implMade : Except SnlException IpAddress → Except SnlException Loc → Assertion LookupObject
  | .ok a, .ok l => pointsTo l (.address (.ipImpl a.ipImpl))
  | .error e, .error e' => given (e' = e) 0
  | _, _ => ∅

section

variable [Host] {resolver : Resolver} {hostname : List Byte}

/-- The list is given back on every path. -/
theorem makeIpImplOfHost_spec : Triple 0 (makeIpImplOfHost resolver hostname)
    (implMade (hostAddress resolver hostname)) := by
  unfold makeIpImplOfHost
  refine (resolver.getaddrinfo_spec _ _).bind fun ⟨status, searchResult⟩ => ?_
  unfold hostAddress
  cases h : resolver.answer (cStr hostname) lookupHints with
  | error failed =>
    refine triple_given fun hstatus => ?_
    dsimp only at hstatus ⊢
    rw [hstatus, if_pos failed.2]
    exact triple_done fun c hc => ⟨rfl, hc⟩
  | ok found =>
    obtain ⟨first, rest⟩ := found
    refine triple_given fun hstatus => ?_
    dsimp only at hstatus ⊢
    rw [if_neg (not_not.mpr hstatus)]
    cases searchResult with
    | none => exact triple_empty
    | some l =>
      rw [← add_zero (infoList _ _)]
      refine lookFirst_spec fun info hinfo => ?_
      rw [hinfo, add_zero]
      have hfail : Triple (infoList (first :: rest) (some l)) (do
          resolver.freeInfo (some l)
          return .error (.plain "IpAddress error: unknown address family"))
          (implMade (.error (.plain "IpAddress error: unknown address family"))) := by
        rw [← zero_add (infoList _ _)]
        exact (freeInfo_spec h).bind fun _ => triple_done fun c hc => ⟨rfl, hc⟩
      have hmake (implOfInfo : HostEntry → IpImpl) :
          Triple (infoList (first :: rest) (some l)) (do
            let impl ← newImpl implOfInfo (some l)
            resolver.freeInfo (some l)
            return .ok impl) (implMade (.ok ⟨implOfInfo first⟩)) :=
        newImpl_spec.bind fun made => (freeInfo_spec h).bind fun _ =>
          triple_done (Set.Subset.refl _)
      split
      · exact hmake _
      · split
        · exact hmake _
        · exact hfail

theorem ofHost_spec : Triple 0 (IpAddress.ofHost resolver hostname) fun r =>
    addressKind.image (madeAs ipRep (hostAddress resolver hostname) r) := by
  unfold IpAddress.ofHost
  refine makeIpImplOfHost_spec.bind fun r => ?_
  cases hostAddress resolver hostname with
  | error e =>
    cases r with
    | error e' =>
      refine triple_given fun he => triple_done ?_
      rw [madeAs, Kind.image_given, Kind.image_zero]
      exact fun c hc => ⟨he, hc⟩
    | ok l => exact triple_empty
  | ok a =>
    cases r with
    | error e => exact triple_empty
    | ok l =>
      refine triple_done ?_
      rw [madeAs, Pimpl.held, ipRep, Kind.image_pointsTo]
      exact Set.Subset.refl _

end

/-! ## The programs -/

theorem getIpAddressAt_spec {a : SocketAddress} {p : Ptr} :
    Triple (Pimpl.held sockRep (some a) p) (SocketAddress.getIpAddressAt p) fun q =>
      Pimpl.held ipRep (some a.getIpAddress) q + Pimpl.held sockRep (some a) p := by
  cases p with
  | none => exact triple_empty
  | some l =>
    refine triple_iUnion fun l' => ?_
    refine lookSockAddrImpl_spec.bind_eq ?_
    rw [add_comm]
    refine ((Pimpl.copyConstruct_spec ip_stands (v := a.ipAddr) (p := some l')).frame _).mono
      (Set.Subset.refl _) fun q => ?_
    rw [add_assoc]
    refine Set.add_subset_add_left ?_
    rw [add_comm]
    exact Set.subset_iUnion_of_subset l' (Set.Subset.refl _)

section

variable {v v' : AddressValues} {x : AddressVars}

theorem getIpAddress_spec {a : SocketAddress} {i : Nat} (hi : v.socks.live i = some a) :
    Triple (addressHeld v x) (do
      let this ← readVar x.socks i
      let new ← SocketAddress.getIpAddressAt this
      return (Except.ok (), { x with ips := x.ips ++ [some new] }))
      fun y => given (y.1 = (.ok () : Except SnlException Unit))
        (addressHeld { v with ips := v.ips ++ [some (some a.getIpAddress)] } y.2) := by
  rw [Values.live_eq] at hi
  refine Pimpl.readVar_spec rfl hi fun p hp => ?_
  rw [add_left_comm]
  refine (getIpAddressAt_spec.frame _).bind fun q => triple_done fun c hc => ⟨rfl, ?_⟩
  rw [add_assoc, add_left_comm (Pimpl.held sockRep (some a) p), Pimpl.allHeld_put hi hp,
    Pimpl.set_self hi, Pimpl.set_self hp, ← add_assoc] at hc
  exact Set.add_subset_add_right Pimpl.allHeld_append hc

variable [Host]

theorem lookup_step_spec {op : LookupOp} {r : Except SnlException Unit}
    (h : op.apply v = some (r, v')) :
    Triple (addressKind.image (addressHeld v x)) (op.run x) fun y =>
      given (y.1 = r) (addressKind.image (addressHeld v' y.2)) := by
  unfold LookupOp.apply at h
  cases op with
  | address op =>
    refine (Kind.triple_run (step_spec h)).mono (Set.Subset.refl _) fun y => ?_
    rw [Kind.image_given]
  | ipHost resolver hostname =>
    obtain ⟨⟩ := h
    rw [← zero_add (addressKind.image _)]
    refine (ofHost_spec.frame _).bind fun new => triple_done ?_
    rw [← Kind.image_add, ← Kind.image_given, addressHeld, ← add_assoc]
    refine Set.image_mono ?_
    rintro _ ⟨d, hd, e, he, rfl⟩
    have hdecl := declare_spec hd
    exact ⟨hdecl.1, d, hdecl.2, e, he, rfl⟩
  | getIpAddress i =>
    obtain ⟨a, ha, ⟨⟩⟩ := Option.bind_eq_some_iff.mp h
    refine (Kind.triple_run (getIpAddress_spec ha)).mono (Set.Subset.refl _) fun y => ?_
    rw [Kind.image_given]

theorem runLookups_spec {ops : List LookupOp} {rs : List (Except SnlException Unit)}
    (h : applyLookups ops v = some (rs, v')) :
    Triple (addressKind.image (addressHeld v x)) (runLookups ops x) fun y =>
      given (y.1 = rs) (addressKind.image (addressHeld v' y.2)) := by
  induction ops generalizing v x rs with
  | nil =>
    obtain ⟨⟩ := h
    exact triple_done fun c hc => ⟨rfl, hc⟩
  | cons op ops ih =>
    unfold applyLookups at h
    obtain ⟨⟨r, v1⟩, hop, h⟩ := Option.bind_eq_some_iff.mp h
    obtain ⟨⟨rs1, v2⟩, hops, ⟨⟩⟩ := Option.bind_eq_some_iff.mp h
    unfold runLookups
    refine (lookup_step_spec hop).bind fun y => triple_given fun hy => ?_
    refine (ih hops).bind fun z => triple_given fun hz => triple_done fun c hc => ⟨?_, hc⟩
    rw [hy, hz]

end

/-! ## What is on the heap in the end -/

def AddressValues.objects (v : AddressValues) : Nat := v.ips.lives + 2 * v.socks.lives

theorem card_addressHeld {v : AddressValues} {x : AddressVars} {c : Multiset (Loc × AddressObject)}
    (h : c ∈ addressHeld v x) : c.card = v.objects := by
  obtain ⟨d, hd, e, he, rfl⟩ := h
  have hips : d.card = 1 * v.ips.lives := by
    refine Pimpl.card_allHeld (fun a l c hc => ?_) hd
    rw [Set.mem_singleton_iff.mp hc, Multiset.card_singleton]
  have hsocks : e.card = 2 * v.socks.lives := by
    refine Pimpl.card_allHeld (fun a l c hc => ?_) he
    obtain ⟨l', rfl⟩ := mem_sockRep hc
    rw [Multiset.card_cons, Multiset.card_singleton]
  rw [Multiset.card_add, hips, hsocks, one_mul, AddressValues.objects]

/-- Whatever the name service answers, a program that keeps to the rules for values that were moved
from comes to an end with the variables of the reference. The heap has the objects of these
variables and what was there before, and nothing of a lookup. -/
theorem lookups_are_values [Host] {ops : List LookupOp} {rs : List (Except SnlException Unit)}
    {v : AddressValues} (h : applyLookups ops {} = some (rs, v)) (w : Heap LookupObject) :
    (runLookups ops {}).Returns Step (fun y w' => y.1 = rs ∧ ∃ mine : Heap AddressObject,
      w'.cells = addressKind.cells mine.cells + w.cells ∧ mine.cells.card = v.objects ∧
      SameValues mine y.2 v ∧ Unshared mine y.2) w := by
  have hw : w.cells ∈ addressKind.image (addressHeld {} {}) + {w.cells} := by
    rw [addressHeld, Pimpl.allHeld, Pimpl.allHeld, zero_add, Kind.image_zero, zero_add]
    exact Set.mem_singleton _
  refine (runLookups_spec h _ w hw).mono fun y w' hy => ?_
  obtain ⟨_, ⟨hr, c, hc, rfl⟩, _, rfl, hcells⟩ := hy
  obtain ⟨mine, rfl⟩ := Kind.exists_part hcells.symm
  have hmine : mine.cells ∈ addressHeld v y.2 + (0 : Assertion AddressObject) := by
    rwa [add_zero]
  exact ⟨hr, mine, hcells.symm, card_addressHeld hc, sameValues_of_held hmine,
    unshared_of_held hmine⟩

/-! ## A name service -/

def makeList : List HostEntry → LookupProgram Ptr
  | [] => pure none
  | entry :: entries => do
    let next ← makeList entries
    let l ← make (.addrinfo ⟨entry, next⟩)
    return some l

def freeList : Nat → Ptr → LookupProgram Unit
  | _, none => pure ()
  | 0, some _ => .halt .outOfFuel
  | n + 1, some l => do
    let info ← lookAddrinfo l
    delete l
    freeList n info.aiNext

theorem makeList_spec (entries : List HostEntry) :
    Triple 0 (makeList entries) (infoList entries) := by
  induction entries with
  | nil => exact triple_done (Set.Subset.refl _)
  | cons entry entries ih =>
    refine ih.bind fun next => triple_make.bind fun l => triple_done ?_
    exact Set.subset_iUnion (fun next =>
      pointsTo l (LookupObject.addrinfo ⟨entry, next⟩) + infoList entries next) next

theorem freeList_spec {entries : List HostEntry} {n : Nat} (hn : entries.length ≤ n) (p : Ptr) :
    Triple (infoList entries p) (freeList n p) fun _ => 0 := by
  induction entries generalizing n p with
  | nil =>
    cases p with
    | none => cases n <;> exact triple_done (Set.Subset.refl _)
    | some l => exact triple_empty
  | cons entry entries ih =>
    cases p with
    | none => exact triple_empty
    | some l =>
      cases n with
      | zero => simp at hn
      | succ n =>
        refine triple_iUnion fun next => lookAddrinfo_spec.bind_eq ?_
        refine (triple_delete.frame _).bind fun _ => ?_
        rw [zero_add]
        exact ih (Nat.le_of_succ_le_succ hn) next

def Resolver.ofTable
    (table : CString → Except { status : Int // status ≠ 0 } (HostEntry × List HostEntry))
    (gaiStrerror : Int → String) (bound : Nat)
    (hbound : ∀ node first rest, table node = .ok (first, rest) → (first :: rest).length ≤ bound) :
    Resolver where
  getaddrinfo node _ :=
    match table node with
    | .error status => pure (status, none)
    | .ok (first, rest) => do
      let searchResult ← makeList (first :: rest)
      return (0, searchResult)
  freeaddrinfo l := freeList bound (some l)
  gaiStrerror := gaiStrerror
  answer node _ := table node
  getaddrinfo_spec node _ := by
    cases table node with
    | error status => exact triple_done fun c hc => ⟨rfl, hc⟩
    | ok found => exact (makeList_spec _).bind fun p => triple_done fun c hc => ⟨rfl, hc⟩
  freeaddrinfo_spec node _ first rest l h := freeList_spec (hbound node first rest h) _

section

variable [Host]

def hostEntry (address : IpAddress) : HostEntry where
  aiFamily := (SocketAddress.make address ⟨0⟩).getAddressFamily
  aiAddr := (SocketAddress.make address ⟨0⟩).getSockaddrStorage

theorem hostAddress_hostEntry {resolver : Resolver} {hostname : List Byte} {address : IpAddress}
    {rest : List HostEntry}
    (h : resolver.answer (cStr hostname) lookupHints = .ok (hostEntry address, rest)) :
    hostAddress resolver hostname = .ok address := by
  have himpl : makeIpImpl (hostEntry address).aiAddr = .ok address.ipImpl :=
    makeIpImpl_storage address ⟨0⟩
  have hfamily : ssFamily (hostEntry address).aiAddr = address.family :=
    ssFamily_storage address ⟨0⟩
  obtain ⟨ipImpl⟩ := address
  unfold makeIpImpl at himpl
  rw [hfamily] at himpl
  unfold hostAddress
  rw [h]
  cases ipImpl with
  | ipv4Impl ipv4Addr =>
    rw [family_ipv4, if_pos rfl] at himpl
    exact congrArg (fun i => Except.ok (IpAddress.mk i)) (Except.ok.inj himpl)
  | ipv6Impl ipv6Addr flowInfo scopeId =>
    rw [family_ipv6, if_neg inet6_ne_inet, if_pos rfl] at himpl
    exact congrArg (fun i => Except.ok (IpAddress.mk i)) (Except.ok.inj himpl)

def ipv6Loopback : IpAddress := ⟨.ipv6Impl ![0, 0, 0, 0, 0, 0, 0, 0, 0, 0, 0, 0, 0, 0, 0, 1] 0 0⟩

def EAI_NONAME : { status : Int // status ≠ 0 } := ⟨-2, by decide⟩

def localTable (node : CString) :
    Except { status : Int // status ≠ 0 } (HostEntry × List HostEntry) :=
  if node.bytes = ofText "localhost" then .ok (hostEntry .default, [hostEntry ipv6Loopback])
  else if node.bytes = ofText "ip6-localhost" then .ok (hostEntry ipv6Loopback, [])
  else .error EAI_NONAME

def localResolver : Resolver :=
  .ofTable localTable (fun _ => "Name or service not known") 2 (by
    intro node first rest h
    unfold localTable at h
    split at h
    · cases h
      simp
    · split at h <;> cases h
      simp)

end

/-- Two names that are found and one that is not. The first address goes into a socket address, and
is copied out of it before that is destroyed. -/
theorem lookups_are_values_local :
    let _ : Host := ⟨.little⟩
    (runLookups [.ipHost localResolver (ofText "localhost"),
        .ipHost localResolver (ofText "nowhere"), .ipHost localResolver (ofText "ip6-localhost"),
        .address (.sockMove 0 ⟨80⟩), .getIpAddress 0, .address (.sock (.destroy 0))]
        {}).Returns Step
      (fun y w' => y.1 = [.ok (), .error (.plain "IpAddress error: Name or service not known"),
          .ok (), .ok (), .ok (), .ok ()] ∧
        ∃ mine : Heap AddressObject, w'.cells = addressKind.cells mine.cells + 0 ∧
          mine.cells.card = 2 ∧
          SameValues mine y.2
            ⟨[some none, none, some (some ipv6Loopback), some (some .default)], [none]⟩ ∧
          Unshared mine y.2) Heap.empty := by
  intro host
  have hlocal : hostAddress localResolver (ofText "localhost") = .ok .default :=
    hostAddress_hostEntry (rfl : _ = Except.ok (_, [hostEntry ipv6Loopback]))
  have hip6 : hostAddress localResolver (ofText "ip6-localhost") = .ok ipv6Loopback :=
    hostAddress_hostEntry (rfl : _ = Except.ok (_, []))
  refine lookups_are_values (v := ⟨[some none, none, some (some ipv6Loopback),
    some (some .default)], [none]⟩) ?_ Heap.empty
  simp only [applyLookups, LookupOp.apply, hlocal, hip6]
  rfl

end Snl
