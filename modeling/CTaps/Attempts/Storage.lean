import CTaps.Lib.Machine
import Mathlib.Data.Fin.VecNotation
import Mathlib.Data.Fintype.Pi

/-! Endpoints with their addresses byte by byte, as the builders write them and
the resolvers hand them on. A builder that writes the bytes of its own address
family only leaves what earlier calls have written behind them. -/

namespace CTaps.Attempts

/-! ### The bytes of an address -/

abbrev Storage := Fin 128 → BitVec 8

namespace Storage

def zero : Storage := fun _ => 0

def write (s : Storage) (offset : Nat) {n : Nat} (bytes : Fin n → BitVec 8) : Storage := fun i =>
  if h : offset ≤ i.val ∧ i.val - offset < n then bytes ⟨i.val - offset, h.2⟩ else s i

def copyFront (s src : Storage) (n : Nat) : Storage := fun i => if i.val < n then src i else s i

def sameFront (a b : Storage) (n : Nat) : Bool := decide (∀ i : Fin 128, i.val < n → a i = b i)

def hostBytes (n : Nat) : Fin 2 → BitVec 8 := ![BitVec.ofNat 8 n, BitVec.ofNat 8 (n / 256)]

def portBytes (port : Nat) : Fin 2 → BitVec 8 :=
  ![BitVec.ofNat 8 (port / 256), BitVec.ofNat 8 port]

def ssFamily (s : Storage) : Nat := (s 0).toNat + 256 * (s 1).toNat

def afUnspec : Nat := 0

def afInet : Nat := 2

def afInet6 : Nat := 10

def sizeofSockaddrIn : Nat := 16

def sizeofSockaddrIn6 : Nat := 28

def setPort (s : Storage) (port : Nat) : Storage :=
  if s.ssFamily = afInet ∨ s.ssFamily = afInet6 then s.write 2 (portBytes port) else s

def getPort (s : Storage) : Nat := 256 * (s 2).toNat + (s 3).toNat

/-- `ntohl` of the address of a `struct sockaddr_in`. -/
def sinAddr (s : Storage) : BitVec 32 := s 4 ++ s 5 ++ s 6 ++ s 7

def sin6Addr (s : Storage) : BitVec 128 :=
  s 8 ++ s 9 ++ s 10 ++ s 11 ++ s 12 ++ s 13 ++ s 14 ++ s 15 ++ s 16 ++ s 17 ++ s 18 ++ s 19 ++
    s 20 ++ s 21 ++ s 22 ++ s 23

def sin6ScopeId (s : Storage) : BitVec 32 := s 27 ++ s 26 ++ s 25 ++ s 24

/-! #### Writing an address -/

def withIpv4 (ipv4Addr : Fin 4 → BitVec 8) : Storage :=
  (zero.write 0 (hostBytes afInet)).write 4 ipv4Addr

def withIpv6 (s : Storage) (ipv6Addr : Fin 16 → BitVec 8) : Storage :=
  (s.write 0 (hostBytes afInet6)).write 8 ipv6Addr

/-- As many bytes as the family of `addr` has; no other family is taken. -/
def fromSockaddr (s addr : Storage) : Option Storage :=
  if addr.ssFamily = afInet then some (s.copyFront addr sizeofSockaddrIn)
  else if addr.ssFamily = afInet6 then some (s.copyFront addr sizeofSockaddrIn6)
  else none

end Storage

/-! ### Local endpoints -/

def einval : Int := -22

structure LocalEndpoint where
  port : Nat
  interfaceName : Option String
  service : Option String
  resolvedAddress : Storage
  deriving DecidableEq

namespace LocalEndpoint

def build : LocalEndpoint := ⟨0, none, none, .zero⟩

def withInterface (ep : LocalEndpoint) (name : String) : LocalEndpoint :=
  { ep with interfaceName := some name }

def withPort (ep : LocalEndpoint) (port : Nat) : LocalEndpoint :=
  { ep with port := port, resolvedAddress := ep.resolvedAddress.setPort port }

def withService (ep : LocalEndpoint) (service : String) : LocalEndpoint :=
  { ep with service := some service }

def withIpv4 (ep : LocalEndpoint) (addr : Fin 4 → BitVec 8) : LocalEndpoint :=
  { ep with resolvedAddress := .withIpv4 addr }

def withIpv6 (ep : LocalEndpoint) (addr : Fin 16 → BitVec 8) : LocalEndpoint :=
  { ep with resolvedAddress := ep.resolvedAddress.withIpv6 addr }

def fromSockaddr (ep : LocalEndpoint) (addr : Storage) : Except Int LocalEndpoint :=
  if ep.service.isSome then .error einval
  else
    match ep.resolvedAddress.fromSockaddr addr with
    | some s => .ok { ep with port := addr.getPort, resolvedAddress := s }
    | none => .error einval

end LocalEndpoint

inductive LocalCall
  | withInterface (name : String)
  | withPort (port : Nat)
  | withService (service : String)
  | withIpv4 (addr : Fin 4 → BitVec 8)
  | withIpv6 (addr : Fin 16 → BitVec 8)
  | fromSockaddr (addr : Storage)

def LocalCall.apply (ep : LocalEndpoint) : LocalCall → LocalEndpoint
  | .withInterface name => ep.withInterface name
  | .withPort port => ep.withPort port
  | .withService service => ep.withService service
  | .withIpv4 addr => ep.withIpv4 addr
  | .withIpv6 addr => ep.withIpv6 addr
  | .fromSockaddr addr => (ep.fromSockaddr addr).toOption.getD ep

/-! ### Remote endpoints -/

structure RemoteEndpoint where
  port : Nat
  service : Option String
  hostname : Option String
  resolvedAddress : Storage
  deriving DecidableEq

namespace RemoteEndpoint

def build : RemoteEndpoint := ⟨0, none, none, .zero⟩

def withIpv4 (ep : RemoteEndpoint) (addr : Fin 4 → BitVec 8) : Except Int RemoteEndpoint :=
  if ep.hostname.isSome then .error einval
  else .ok { ep with resolvedAddress := .withIpv4 addr }

def withIpv6 (ep : RemoteEndpoint) (addr : Fin 16 → BitVec 8) : Except Int RemoteEndpoint :=
  if ep.hostname.isSome then .error einval
  else .ok { ep with resolvedAddress := ep.resolvedAddress.withIpv6 addr }

def fromSockaddr (ep : RemoteEndpoint) (addr : Storage) : Except Int RemoteEndpoint :=
  if ep.hostname.isSome then .error einval
  else
    match ep.resolvedAddress.fromSockaddr addr with
    | some s => .ok { ep with port := addr.getPort, resolvedAddress := s }
    | none => .error einval

def withHostname (ep : RemoteEndpoint) (hostname : String) : Except Int RemoteEndpoint :=
  if ep.resolvedAddress.ssFamily ≠ Storage.afUnspec then .error einval
  else .ok { ep with hostname := some hostname }

def withService (ep : RemoteEndpoint) (service : String) : RemoteEndpoint :=
  { ep with service := some service }

def withPort (ep : RemoteEndpoint) (port : Nat) : RemoteEndpoint :=
  { ep with port := port, resolvedAddress := ep.resolvedAddress.setPort port }

end RemoteEndpoint

inductive RemoteCall
  | withIpv4 (addr : Fin 4 → BitVec 8)
  | withIpv6 (addr : Fin 16 → BitVec 8)
  | fromSockaddr (addr : Storage)
  | withHostname (hostname : String)
  | withService (service : String)
  | withPort (port : Nat)

def RemoteCall.apply (ep : RemoteEndpoint) : RemoteCall → RemoteEndpoint
  | .withIpv4 addr => (ep.withIpv4 addr).toOption.getD ep
  | .withIpv6 addr => (ep.withIpv6 addr).toOption.getD ep
  | .fromSockaddr addr => (ep.fromSockaddr addr).toOption.getD ep
  | .withHostname hostname => (ep.withHostname hostname).toOption.getD ep
  | .withService service => ep.withService service
  | .withPort port => ep.withPort port

/-! ### Resolution -/

structure Network where
  interfaces : List (String × Storage)
  getServicePort : String → Nat → Int
  getaddrinfo : String → List Storage

namespace Network

def maxFoundInterfaceAddrs : Nat := 64

/-- Each address is copied into a cleared array, as many bytes as its family has. -/
def getInterfaceAddresses (net : Network) (interfaceName : String) : List Storage :=
  let named := net.interfaces.filter fun i => interfaceName = "any" ∨ i.1 = interfaceName
  ((named.map Prod.snd).filterMap fun a => Storage.zero.fromSockaddr a).take maxFoundInterfaceAddrs

def localPort (net : Network) (ep : LocalEndpoint) : Nat :=
  match ep.service with
  | some service => (net.getServicePort service ep.resolvedAddress.ssFamily % 65536).toNat
  | none => ep.port

def localEndpointResolve (net : Network) (ep : LocalEndpoint) : List LocalEndpoint :=
  if ep.resolvedAddress.ssFamily ≠ Storage.afUnspec then [ep]
  else
    let port := net.localPort ep
    (net.getInterfaceAddresses (ep.interfaceName.getD "any")).map fun address =>
      ⟨port, ep.interfaceName, ep.service, address.setPort port⟩

def remotePort (net : Network) (ep : RemoteEndpoint) : Int :=
  match ep.service with
  | some service => net.getServicePort service ep.resolvedAddress.ssFamily
  | none => ep.port

/-- The endpoints that `ct_remote_endpoint_resolve` hands to its callback in the end, for a host
name with addresses of any family, or the error it returns. -/
def remoteEndpointResolve (net : Network) (ep : RemoteEndpoint) : Except Int (List RemoteEndpoint) :=
  if net.remotePort ep = -1 then .error einval
  else
    let port := (net.remotePort ep % 65536).toNat
    match ep.hostname with
    | some hostname =>
      .ok (((net.getaddrinfo hostname).filterMap fun a => Storage.zero.fromSockaddr a).map
        fun address => ⟨port, none, none, address.setPort port⟩)
    | none =>
      if ep.resolvedAddress.ssFamily ≠ Storage.afUnspec then
        .ok [{ ep with resolvedAddress := ep.resolvedAddress.setPort port }]
      else .error einval

end Network

/-! ### The family of an address -/

section Family

variable {s addr : Storage}

def Storage.Known (s : Storage) : Prop :=
  s.ssFamily = Storage.afUnspec ∨ s.ssFamily = Storage.afInet ∨ s.ssFamily = Storage.afInet6

def Storage.Inet (s : Storage) : Prop :=
  s.ssFamily = Storage.afInet ∨ s.ssFamily = Storage.afInet6
deriving Decidable

theorem Storage.ssFamily_congr {a b : Storage} (h0 : a 0 = b 0) (h1 : a 1 = b 1) :
    a.ssFamily = b.ssFamily := by
  rw [ssFamily, ssFamily, h0, h1]

@[simp] theorem Storage.ssFamily_setPort (port : Nat) : (s.setPort port).ssFamily = s.ssFamily := by
  rw [setPort]
  split
  · exact ssFamily_congr rfl rfl
  · rfl

theorem Storage.ssFamily_withIpv4 (a : Fin 4 → BitVec 8) : (withIpv4 a).ssFamily = afInet := rfl

theorem Storage.ssFamily_withIpv6 (a : Fin 16 → BitVec 8) : (s.withIpv6 a).ssFamily = afInet6 :=
  rfl

theorem Storage.inet_of_fromSockaddr {s' : Storage} (h : s.fromSockaddr addr = some s') :
    s'.Inet := by
  rw [fromSockaddr] at h
  split at h
  · rename_i hfamily
    rw [Option.some.injEq] at h
    subst h
    exact Or.inl (Eq.trans (ssFamily_congr rfl rfl) hfamily)
  · split at h
    · rename_i hfamily
      rw [Option.some.injEq] at h
      subst h
      exact Or.inr (Eq.trans (ssFamily_congr rfl rfl) hfamily)
    · exact absurd h (by simp)

theorem Storage.Inet.known (h : s.Inet) : s.Known := Or.inr h

theorem Storage.Known.setPort (h : s.Known) (port : Nat) : (s.setPort port).Known := by
  rw [Known, ssFamily_setPort]
  exact h

theorem Storage.Inet.setPort (h : s.Inet) (port : Nat) : (s.setPort port).Inet := by
  rw [Inet, ssFamily_setPort]
  exact h

theorem Storage.Known.inet (h : s.Known) (hne : s.ssFamily ≠ afUnspec) : s.Inet :=
  h.resolve_left hne

def buildLocal (calls : List LocalCall) : LocalEndpoint := Lib.run LocalCall.apply .build calls

def buildRemote (calls : List RemoteCall) : RemoteEndpoint := Lib.run RemoteCall.apply .build calls

theorem known_buildRemote (calls : List RemoteCall) :
    (buildRemote calls).resolvedAddress.Known := by
  refine Lib.run_invariant_of_step (I := fun ep : RemoteEndpoint => ep.resolvedAddress.Known)
    (fun ep call h => ?_) (Or.inl rfl) calls
  cases call with
  | withIpv4 a =>
    rw [RemoteCall.apply, RemoteEndpoint.withIpv4]
    split
    · exact h
    · exact Or.inr (Or.inl (Storage.ssFamily_withIpv4 a))
  | withIpv6 a =>
    rw [RemoteCall.apply, RemoteEndpoint.withIpv6]
    split
    · exact h
    · exact Or.inr (Or.inr (Storage.ssFamily_withIpv6 a))
  | fromSockaddr a =>
    rw [RemoteCall.apply, RemoteEndpoint.fromSockaddr]
    split
    · exact h
    · split
      · rename_i s hs
        exact (Storage.inet_of_fromSockaddr hs).known
      · exact h
  | withHostname name =>
    rw [RemoteCall.apply, RemoteEndpoint.withHostname]
    split
    · exact h
    · exact h
  | withService service => exact h
  | withPort port => exact h.setPort port

theorem inet_of_remoteEndpointResolve {net : Network} {calls : List RemoteCall}
    {eps : List RemoteEndpoint} (heps : net.remoteEndpointResolve (buildRemote calls) = .ok eps)
    {ep : RemoteEndpoint} (h : ep ∈ eps) : ep.resolvedAddress.Inet := by
  rw [Network.remoteEndpointResolve] at heps
  dsimp only at heps
  split at heps
  · exact absurd heps (by simp)
  · split at heps
    · rw [Except.ok.injEq] at heps
      subst heps
      obtain ⟨a, ha, rfl⟩ := List.mem_map.mp h
      obtain ⟨b, _, hb⟩ := List.mem_filterMap.mp ha
      exact (Storage.inet_of_fromSockaddr hb).setPort _
    · split at heps
      · rename_i hne
        rw [Except.ok.injEq] at heps
        subst heps
        rw [List.mem_singleton.mp h]
        exact ((known_buildRemote calls).inet hne).setPort _
      · exact absurd heps (by simp)

end Family

end CTaps.Attempts
