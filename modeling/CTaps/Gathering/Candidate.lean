import CTaps.Lib.Traversal
import Mathlib.Data.List.Sort

/-! The endpoints, protocol options and selection properties a candidate is made of, and the checks
by which candidate gathering rules a candidate out and orders the ones that are left. -/

namespace CTaps.Gathering

open Lib

/-! ### Endpoints -/

inductive SockAddr
  | unspec
  | inet (addr : BitVec 32) (port : Nat)
  | inet6 (addr : BitVec 128) (port : Nat) (scopeId : Nat)
  deriving DecidableEq, Repr

inductive Family
  | unspec | inet | inet6
  deriving DecidableEq, Repr

def SockAddr.family : SockAddr → Family
  | .unspec => .unspec
  | .inet .. => .inet
  | .inet6 .. => .inet6

inductive AddrScope
  | loopback | linkLocal | other
  deriving DecidableEq, Repr

def getAddrScope : SockAddr → AddrScope
  | .inet ip _ =>
    if ip &&& 0xFF000000#32 = 0x7F000000#32 then .loopback
    else if ip &&& 0xFFFF0000#32 = 0xA9FE0000#32 then .linkLocal
    else .other
  | .inet6 a _ _ =>
    if a = 1#128 then .loopback
    -- fe80::/10
    else if a >>> 118 = 0x3FA#128 then .linkLocal
    else .other
  | .unspec => .other

def addressIsWildcard : SockAddr → Bool
  | .inet ip _ => ip = 0#32
  | .inet6 a _ _ => a = 0#128
  | .unspec => false

structure LocalEndpoint where
  port : Nat
  interfaceName : Option String
  service : Option String
  resolvedAddress : SockAddr
  deriving DecidableEq, Repr

def localEndpointNew : LocalEndpoint := ⟨0, none, none, .unspec⟩

structure RemoteEndpoint where
  port : Nat
  service : Option String
  hostname : Option String
  resolvedAddress : SockAddr
  deriving DecidableEq, Repr

def addressFamiliesMatch : Option LocalEndpoint → Option RemoteEndpoint → Bool
  | none, none => true
  | some l, some r => l.resolvedAddress.family = r.resolvedAddress.family
  | _, _ => false

def addressScopeMatch : Option LocalEndpoint → Option RemoteEndpoint → Bool
  | none, none => true
  | some l, some r => getAddrScope l.resolvedAddress = getAddrScope r.resolvedAddress
  | _, _ => false

/-! ### Selection properties -/

inductive Preference
  | prohibit | avoid | noPreference | prefer | require
  deriving DecidableEq, Repr

inductive SelectionProperty
  | reliability | preserveMsgBoundaries | perMsgReliability | preserveOrder | zeroRttMsg
  | multistreaming | fullChecksumSend | fullChecksumRecv | congestionControl | keepAlive
  | useTemporaryLocalAddress | multipath | advertisesAltAddress | direction | softErrorNotify
  | activeReadBeforeSend | interface | pvd
  deriving DecidableEq, Repr

def SelectionProperty.all : List SelectionProperty :=
  [.reliability, .preserveMsgBoundaries, .perMsgReliability, .preserveOrder, .zeroRttMsg,
    .multistreaming, .fullChecksumSend, .fullChecksumRecv, .congestionControl, .keepAlive,
    .useTemporaryLocalAddress, .multipath, .advertisesAltAddress, .direction, .softErrorNotify,
    .activeReadBeforeSend, .interface, .pvd]

/-- A property value; the constructor is the type tag of the union. -/
inductive PropertyValue
  | preference (simplePreference : Preference)
  | preferenceSet (combinations : List (String × Preference))
  | enum (val : Nat)
  deriving DecidableEq, Repr

abbrev SelectionProperties := SelectionProperty → PropertyValue

def PropertyValue.combinations : PropertyValue → List (String × Preference)
  | .preferenceSet l => l
  | _ => []

inductive Protocol
  | udp | tcp | quic
  deriving DecidableEq, Repr

namespace Protocol

def supported : List Protocol := [.udp, .tcp, .quic]

def supportsAlpn : Protocol → Bool
  | .quic => true
  | _ => false

def simplePreference : Protocol → SelectionProperty → Preference
  | .udp, .preserveMsgBoundaries | .udp, .fullChecksumSend | .udp, .fullChecksumRecv => .require
  | .udp, .reliability | .udp, .perMsgReliability | .udp, .preserveOrder | .udp, .multistreaming
  | .udp, .congestionControl | .udp, .advertisesAltAddress => .prohibit
  | .tcp, .reliability | .tcp, .preserveOrder | .tcp, .fullChecksumSend | .tcp, .fullChecksumRecv
  | .tcp, .congestionControl => .require
  | .tcp, .preserveMsgBoundaries | .tcp, .perMsgReliability | .tcp, .multistreaming
  | .tcp, .advertisesAltAddress => .prohibit
  | .quic, .reliability | .quic, .preserveOrder | .quic, .fullChecksumSend
  | .quic, .fullChecksumRecv | .quic, .congestionControl => .require
  | .quic, .preserveMsgBoundaries => .prohibit
  | _, _ => .noPreference

end Protocol

def protocolImplementationSupportsSelectionProperties (protocol : Protocol)
    (desired : SelectionProperties) : Bool :=
  SelectionProperty.all.all fun i =>
    match desired i with
    | .preference .require => protocol.simplePreference i ≠ .prohibit
    | .preference .prohibit => protocol.simplePreference i ≠ .require
    | _ => true

def getGenericInterfaceType (systemInterfaceName : String) : Option String :=
  if "wl".toList.isPrefixOf systemInterfaceName.toList then some "Wi-Fi"
  else if "en".toList.isPrefixOf systemInterfaceName.toList then some "Ethernet"
  else if systemInterfaceName = "lo" then some "Loopback"
  else none

def interfaceIsCompatible (interfaceName : String) (properties : SelectionProperties) : Bool :=
  let preferences := (properties .interface).combinations
  if preferences = [] then true
  else if interfaceName = "any" then true
  else
    match getGenericInterfaceType interfaceName with
    | none => false
    | some interfaceType =>
      preferences.all fun (key, preference) =>
        if key = interfaceType then preference ≠ .prohibit else preference ≠ .require

/-! ### Candidates -/

inductive NodeType
  | root | path | protocol | endpoint
  deriving DecidableEq, Repr

structure ProtocolCandidate where
  protocolImpl : Protocol
  alpn : Option String
  deriving DecidableEq, Repr

structure CandidateNode where
  type : NodeType
  localEndpoint : Option LocalEndpoint
  remoteEndpoint : Option RemoteEndpoint
  protocolCandidate : Option ProtocolCandidate
  deriving DecidableEq, Repr

def scoreAgainst (desired : SelectionProperties) (a b : Protocol) : Int × Int :=
  SelectionProperty.all.foldl
    (fun (prefer, avoid) i =>
      match desired i with
      | .preference .prefer =>
        (prefer + (if a.simplePreference i ≠ .prohibit then 1 else 0)
          - (if b.simplePreference i ≠ .prohibit then 1 else 0), avoid)
      | .preference .avoid =>
        (prefer, avoid + (if a.simplePreference i ≠ .require then 1 else 0)
          - (if b.simplePreference i ≠ .require then 1 else 0))
      | _ => (prefer, avoid))
    (0, 0)

/-- Negative when `a` comes before `b`. -/
def comparePreferAndAvoidPreferences (desired : SelectionProperties) (a b : CandidateNode) : Int :=
  match a.protocolCandidate, b.protocolCandidate with
  | some p, some q =>
    let score := scoreAgainst desired p.protocolImpl q.protocolImpl
    if score.1 ≠ 0 then -score.1 else -score.2
  | _, _ => 0

def sortCandidates (desired : SelectionProperties) (candidates : List CandidateNode) :
    List CandidateNode :=
  candidates.insertionSort fun a b => comparePreferAndAvoidPreferences desired a b ≤ 0

theorem sortCandidates_perm (desired : SelectionProperties) (candidates : List CandidateNode) :
    (sortCandidates desired candidates).Perm candidates :=
  List.perm_insertionSort _ candidates

/-! ### What rules a node out -/

section Checks

variable (properties : SelectionProperties)

def pathIsCompatible (node : CandidateNode) : Bool :=
  interfaceIsCompatible ((node.localEndpoint.bind (·.interfaceName)).getD "any") properties

def protocolIsCompatible (node : CandidateNode) : Bool :=
  node.protocolCandidate.all fun c =>
    protocolImplementationSupportsSelectionProperties c.protocolImpl properties

def endpointIsCompatible (node : CandidateNode) : Bool :=
  addressFamiliesMatch node.localEndpoint node.remoteEndpoint &&
    (node.localEndpoint.any (addressIsWildcard ·.resolvedAddress) ||
      addressScopeMatch node.localEndpoint node.remoteEndpoint)

def passes (node : CandidateNode) : Bool :=
  match node.type with
  | .root => true
  | .path => pathIsCompatible properties node
  | .protocol => protocolIsCompatible properties node
  | .endpoint => endpointIsCompatible node

def viable (node : CandidateNode) : Bool :=
  match node.type with
  | .root => true
  | .path => pathIsCompatible properties node
  | .protocol => pathIsCompatible properties node && protocolIsCompatible properties node
  | .endpoint =>
    pathIsCompatible properties node && protocolIsCompatible properties node &&
      endpointIsCompatible node

end Checks

def Inherits : Option CandidateNode → CandidateNode → Prop
  | none, node => node.type = .root
  | some parent, node =>
    match parent.type with
    | .root => node.type = .path
    | .path => node.type = .protocol ∧ node.localEndpoint = parent.localEndpoint
    | .protocol =>
      node.type = .endpoint ∧ node.localEndpoint = parent.localEndpoint ∧
        node.protocolCandidate = parent.protocolCandidate
    | .endpoint => False

def NodeType.rank : NodeType → Nat
  | .root => 0
  | .path => 1
  | .protocol => 2
  | .endpoint => 3

def CandidateNode.rank (node : CandidateNode) : Nat := node.type.rank

theorem Inherits.rank_eq (parent : Option CandidateNode) (node : CandidateNode)
    (h : Inherits parent node) : node.rank = Forest.rankBelow CandidateNode.rank parent := by
  cases parent with
  | none => simp [CandidateNode.rank, Forest.rankBelow, NodeType.rank, show node.type = .root from h]
  | some parent =>
    rw [CandidateNode.rank, Forest.rankBelow, CandidateNode.rank]
    cases hp : parent.type <;> simp only [Inherits, hp] at h
    · rw [h]; rfl
    · rw [h.1]; rfl
    · rw [h.1]; rfl

theorem Inherits.viable_eq (properties : SelectionProperties) (parent : Option CandidateNode)
    (node : CandidateNode) (h : Inherits parent node) :
    viable properties node = (parent.all (viable properties) && passes properties node) := by
  cases parent with
  | none => simp [viable, passes, show node.type = .root from h]
  | some parent =>
    rw [Option.all_some]
    cases hp : parent.type <;> simp only [Inherits, hp] at h
    · simp [viable, passes, h, hp]
    · simp [viable, passes, h.1, hp, pathIsCompatible, h.2]
    · simp [viable, passes, h.1, hp, pathIsCompatible, protocolIsCompatible, h.2.1, h.2.2]

theorem Inherits.parent_ne_endpoint {parent node : CandidateNode}
    (h : Inherits (some parent) node) : parent.type ≠ .endpoint := by
  intro hp
  simp only [Inherits, hp] at h

end CTaps.Gathering
