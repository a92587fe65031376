import CTaps.Gathering.Delivered
import Mathlib.Data.List.Perm.Basic

/-! From the interfaces of the system to the local addresses of the candidates.
The name checked against the interface preferences is the one the local endpoint
was given, not that of the interface an address was found on. -/

namespace CTaps.Gathering

open Lib

/-! ### Local resolution -/

structure System where
  /-- The entries of `uv_interface_addresses`, none when it fails. -/
  interfaceAddresses : Option (List (String × SockAddr))
  /-- The result of `ct_get_service_port`. -/
  getServicePort : String → Int

def SockAddr.withPort : SockAddr → Nat → SockAddr
  | .unspec, _ => .unspec
  | .inet addr _, port => .inet addr port
  | .inet6 addr _ scopeId, port => .inet6 addr port scopeId

namespace System

def maxFoundInterfaceAddrs : Nat := 64

def interfaces (sys : System) : List (String × SockAddr) := sys.interfaceAddresses.getD []

def getInterfaceAddresses (sys : System) (interfaceName : String) : List SockAddr :=
  let named := sys.interfaces.filter fun i => interfaceName = "any" ∨ i.1 = interfaceName
  ((named.map Prod.snd).filter fun a => a.family ≠ .unspec).take maxFoundInterfaceAddrs

def assignedPort (sys : System) (localEndpoint : LocalEndpoint) : Nat :=
  match localEndpoint.service with
  | some service => (sys.getServicePort service % 65536).toNat
  | none => localEndpoint.port

def localEndpointResolve (sys : System) (localEndpoint : LocalEndpoint) : List LocalEndpoint :=
  if localEndpoint.resolvedAddress.family ≠ .unspec then [localEndpoint]
  else
    let port := sys.assignedPort localEndpoint
    (sys.getInterfaceAddresses (localEndpoint.interfaceName.getD "any")).map fun address =>
      ⟨port, localEndpoint.interfaceName, localEndpoint.service, address.withPort port⟩

def resolver (sys : System) (remoteEndpointResolve : Nat → Nat → Resolution) : Resolver :=
  ⟨sys.localEndpointResolve, remoteEndpointResolve⟩

def Owns (sys : System) (name : String) (address : SockAddr) : Prop :=
  ∃ a, (name, a) ∈ sys.interfaces ∧ a.withPort 0 = address.withPort 0

variable {sys : System} {ep p : LocalEndpoint}

theorem interfaceName_of_mem (h : p ∈ sys.localEndpointResolve ep) :
    p.interfaceName = ep.interfaceName := by
  rw [localEndpointResolve] at h
  split at h
  · rw [List.mem_singleton.mp h]
  · obtain ⟨a, _, rfl⟩ := List.mem_map.mp h
    rfl

end System

/-! ### The check of an interface -/

section Check

variable {properties : SelectionProperties} {name : String}

def interfacePreferences (properties : SelectionProperties) : List (String × Preference) :=
  (properties .interface).combinations

def Allowed (preferences : List (String × Preference)) (interfaceType : Option String) : Prop :=
  ∀ e ∈ preferences, (e.2 = .prohibit → interfaceType ≠ some e.1) ∧
    (e.2 = .require → interfaceType = some e.1)
deriving Decidable

def Soft (preferences : List (String × Preference)) : Prop :=
  ∀ e ∈ preferences, e.2 ≠ .prohibit ∧ e.2 ≠ .require
deriving Decidable

theorem interfaceIsCompatible_iff :
    interfaceIsCompatible name properties = true ↔
      interfacePreferences properties = [] ∨ name = "any" ∨
        (getGenericInterfaceType name).isSome ∧
          Allowed (interfacePreferences properties) (getGenericInterfaceType name) := by
  simp only [interfaceIsCompatible, interfacePreferences]
  split_ifs with hnil hany
  · simp [hnil]
  · simp [hany]
  · cases htype : getGenericInterfaceType name with
    | none => simp [hnil, hany]
    | some interfaceType =>
      simp only [hnil, hany, false_or, Option.isSome_some, true_and, Allowed, List.all_eq_true,
        Option.some.injEq, ne_eq]
      apply forall₂_congr
      rintro ⟨key, preference⟩ _
      by_cases hkey : key = interfaceType
      · simp [hkey]
      · simp [hkey, Ne.symm hkey]

theorem Soft.allowed {preferences : List (String × Preference)} (h : Soft preferences)
    (interfaceType : Option String) : Allowed preferences interfaceType :=
  fun e he => ⟨fun hp => absurd hp (h e he).1, fun hr => absurd hr (h e he).2⟩

theorem Allowed.perm {preferences preferences' : List (String × Preference)}
    (hp : preferences.Perm preferences') (interfaceType : Option String) :
    Allowed preferences interfaceType ↔ Allowed preferences' interfaceType :=
  ⟨fun h e he => h e (hp.mem_iff.mpr he), fun h e he => h e (hp.mem_iff.mp he)⟩

def Lenient (name : String) (properties : SelectionProperties) : Prop :=
  (Soft (interfacePreferences properties) → interfaceIsCompatible name properties = true) ∧
    ∀ properties' : SelectionProperties,
      ((interfacePreferences properties).map Prod.fst).Nodup →
      (interfacePreferences properties').Perm (interfacePreferences properties) →
      interfaceIsCompatible name properties' = interfaceIsCompatible name properties

theorem interfaceIsCompatible_perm {properties' : SelectionProperties}
    (hp : (interfacePreferences properties').Perm (interfacePreferences properties)) :
    interfaceIsCompatible name properties' = interfaceIsCompatible name properties := by
  have hnil : interfacePreferences properties' = [] ↔ interfacePreferences properties = [] :=
    ⟨fun h => List.nil_perm.mp (h ▸ hp), fun h => List.perm_nil.mp (h ▸ hp)⟩
  rw [Bool.eq_iff_iff, interfaceIsCompatible_iff, interfaceIsCompatible_iff, hnil, Allowed.perm hp]

theorem path_kept_iff {t t' : CandidateTree} (h : t.Grown)
    (hpath : ∀ l ∈ t.forest.leaves, l.2.type ≠ .path)
    (hprune : pruneCandidateTree properties t = some t') {l : Nat × CandidateNode}
    (hl : l ∈ t.forest.nodes) (htype : l.2.type = .path) :
    l ∈ t'.forest.nodes ↔
      interfaceIsCompatible ((l.2.localEndpoint.bind (·.interfaceName)).getD "any") properties
        = true := by
  obtain ⟨t'', hprune', _, hnodes⟩ := pruneCandidateTree_eq properties h hpath
  rw [hprune, Option.some.injEq] at hprune'
  subst hprune'
  rw [hnodes, List.mem_filter, viable, htype]
  exact and_iff_right hl

/-- Exactly on an interface whose generic type is unknown soft preferences prune a path. -/
theorem lenient_iff (name : String) (properties : SelectionProperties) :
    (Lenient name properties ↔
      (Soft (interfacePreferences properties) → interfacePreferences properties = [] ∨
        name = "any" ∨ (getGenericInterfaceType name).isSome)) ∧
    ∀ t t' : CandidateTree, t.Grown → (∀ l ∈ t.forest.leaves, l.2.type ≠ .path) →
      pruneCandidateTree properties t = some t' →
      ∀ l ∈ t.forest.nodes, l.2.type = .path →
        (l.2.localEndpoint.bind (·.interfaceName)).getD "any" = name →
        (l ∈ t'.forest.nodes ↔ interfaceIsCompatible name properties = true) := by
  constructor
  · constructor
    · intro h hsoft
      have hcompatible := interfaceIsCompatible_iff.mp (h.1 hsoft)
      exact hcompatible.imp_right (Or.imp_right And.left)
    · intro h
      refine ⟨fun hsoft => ?_, fun properties' _ hp => interfaceIsCompatible_perm hp⟩
      exact interfaceIsCompatible_iff.mpr
        ((h hsoft).imp_right (Or.imp_right fun htype => ⟨htype, hsoft.allowed _⟩))
  · rintro t t' hgrown hpath hprune l hl htype rfl
    exact path_kept_iff hgrown hpath hprune hl htype

def interfacesOnly (preferences : List (String × Preference)) : SelectionProperties
  | .interface => .preferenceSet preferences
  | _ => .preference .noPreference

theorem lenient_wlan0 : Lenient "wlan0" (interfacesOnly [("Wi-Fi", .prefer)]) :=
  ((lenient_iff "wlan0" (interfacesOnly [("Wi-Fi", .prefer)])).1).mpr
    fun _ => Or.inr (Or.inr (by decide))

theorem eth0_pruned :
    interfaceIsCompatible "eth0" (interfacesOnly [("Ethernet", .prefer)]) = false ∧
      ¬ Lenient "eth0" (interfacesOnly [("Ethernet", .prefer)]) := by
  refine ⟨by decide, ?_⟩
  rintro ⟨h, _⟩
  exact absurd (h (by decide)) (by decide)

end Check

/-! ### The levels of the tree -/

section Levels

variable (resolver : Resolver) (precon : Preconnection)

def branchedByProtocol : List (Nat × CandidateNode) :=
  (precon.localEndpointsOrEphemeral.foldl
    (branchByPath resolver.localEndpointResolve) .new).collectLeaves

structure Disciplined : Prop where
  path : ∀ parent ∈ branchedByProtocol resolver precon, parent.2.type = .path
  built : (buildLocalTree resolver precon).isSome
  protocol : ∀ t, buildLocalTree resolver precon = some t →
    ∀ pair ∈ resolutions resolver precon t.collectLeaves, pair.1.2.type = .protocol
  none_found : resolvedLocals resolver precon = [] → ∀ g, Gathers resolver precon g →
    ∀ report ∈ g.ready, report = none ∨ report = some []

/-- The levels are kept exactly when there is a local address. -/
theorem disciplined_iff : Disciplined resolver precon ↔ resolvedLocals resolver precon ≠ [] := by
  constructor
  · intro h hnone
    have hbuilt := h.built
    rw [buildLocalTree_eq_none hnone] at hbuilt
    exact Bool.false_ne_true hbuilt
  · intro hlocal
    obtain ⟨t, ht, htree⟩ := exists_localTree hlocal
    refine ⟨?_, by rw [ht]; rfl, ?_, fun hnone => absurd hnone hlocal⟩
    · intro parent hparent
      rw [branchedByProtocol, CandidateTree.collectLeaves_eq, foldl_branchByPath] at hparent
      rw [resolvedLocals] at hlocal
      rw [leaves_appendEach_new hlocal] at hparent
      exact type_of_mem_paths hparent
    · intro t' ht' pair hpair
      rw [ht, Option.some.injEq] at ht'
      subst ht'
      rw [CandidateTree.collectLeaves_eq] at hpair
      exact htree.type_of_mem_leaves (mem_resolutions hpair).1

end Levels

def wlanOnly : System where
  interfaceAddresses := some [("wlan0", .inet 0x0A000005#32 0)]
  getServicePort _ := -1

def fromInterfaces (localEndpoints : List LocalEndpoint)
    (preferences : List (String × Preference)) : Preconnection where
  localEndpoints := localEndpoints
  remoteEndpoints := [⟨443, none, none, .inet 0x0A000002#32 443⟩]
  alpns := []
  selectionProperties := interfacesOnly preferences

theorem unknown_interface_asserts :
    branchedByProtocol (wlanOnly.resolver fun _ _ => .sync [])
        (fromInterfaces [⟨0, some "eth7", none, .unspec⟩] []) = [(0, ⟨.root, none, none, none⟩)] ∧
      ¬ Disciplined (wlanOnly.resolver fun _ _ => .sync [])
        (fromInterfaces [⟨0, some "eth7", none, .unspec⟩] []) := by
  refine ⟨by decide, ?_⟩
  intro h
  have htype := h.path (0, ⟨.root, none, none, none⟩) (by decide)
  exact NodeType.noConfusion htype

/-! ### The interfaces of the candidates -/

section Enforced

variable {sys : System} {precon : Preconnection} {remote : Nat → Nat → Resolution}

def Enforced (sys : System) (precon : Preconnection) : Prop :=
  ∀ (remote : Nat → Nat → Resolution) (g : GatherContext), Gathers (sys.resolver remote) precon g →
    ∀ candidates, some candidates ∈ g.ready → ∀ c ∈ candidates, ∀ p, c.localEndpoint = some p →
      ∀ name, sys.Owns name p.resolvedAddress →
        Allowed (interfacePreferences precon.selectionProperties) (getGenericInterfaceType name)

def SomeProtocol (precon : Preconnection) : Prop :=
  ∃ option ∈ protocolOptions precon.alpns,
    protocolImplementationSupportsSelectionProperties option.protocolImpl
      precon.selectionProperties = true

def OthersAllowed (sys : System) (precon : Preconnection) : Prop :=
  ∀ ep ∈ precon.localEndpointsOrEphemeral,
    interfaceIsCompatible (ep.interfaceName.getD "any") precon.selectionProperties = true →
    ∀ p ∈ sys.localEndpointResolve ep, ∀ name, sys.Owns name p.resolvedAddress →
      name = ep.interfaceName.getD "any" ∧ name ≠ "any" ∨
        Allowed (interfacePreferences precon.selectionProperties) (getGenericInterfaceType name)

theorem allowed_of_compatible {name : String} {properties : SelectionProperties}
    (h : interfaceIsCompatible name properties = true) (hany : name ≠ "any") :
    Allowed (interfacePreferences properties) (getGenericInterfaceType name) := by
  rcases interfaceIsCompatible_iff.mp h with hnil | hname | ⟨_, hallowed⟩
  · intro e he
    rw [hnil] at he
    exact (List.not_mem_nil he).elim
  · exact absurd hname hany
  · exact hallowed

theorem mem_resolvedLocals {p : LocalEndpoint} :
    p ∈ resolvedLocals (sys.resolver remote) precon ↔
      ∃ ep ∈ precon.localEndpointsOrEphemeral, p ∈ sys.localEndpointResolve ep :=
  List.mem_flatMap

theorem mem_candidatePairs {resolver : Resolver}
    {pair : LocalEndpoint × ProtocolCandidate} :
    pair ∈ candidatePairs resolver precon ↔
      pair.1 ∈ resolvedLocals resolver precon ∧ pair.2 ∈ protocolOptions precon.alpns := by
  rw [candidatePairs, List.mem_flatMap]
  constructor
  · rintro ⟨p, hp, hpair⟩
    obtain ⟨o, ho, rfl⟩ := List.mem_map.mp hpair
    exact ⟨hp, ho⟩
  · rintro ⟨hp, ho⟩
    exact ⟨pair.1, hp, List.mem_map.mpr ⟨pair.2, ho, rfl⟩⟩

theorem Gathers.of_mem {resolver : Resolver} {g : GatherContext} (h : Gathers resolver precon g)
    {candidates : List CandidateNode} (hready : some candidates ∈ g.ready) {c : CandidateNode}
    (hc : c ∈ candidates) :
    ∃ pair ∈ candidatePairs resolver precon, c.localEndpoint = some pair.1 ∧
      fitsLocally precon.selectionProperties pair = true := by
  obtain ⟨base, htree, hcoherent⟩ := h.coherent hready
  obtain ⟨t, hprune, rfl⟩ := hcoherent.delivered candidates hready
  have hleaf := (sortCandidates_perm _ _).subset hc
  obtain ⟨pair, hpair, hlocal, hprotocol, hviable, htype⟩ :=
    hcoherent.of_mem_leaves htree hprune hleaf
  refine ⟨pair, hpair, hlocal, ?_⟩
  rcases htype with htype | htype
  · simp only [viable, htype, pathIsCompatible, protocolIsCompatible, hlocal, hprotocol,
      Option.bind_some, Option.all_some] at hviable
    exact hviable
  · simp only [viable, htype, pathIsCompatible, protocolIsCompatible, hlocal, hprotocol,
      Option.bind_some, Option.all_some, Bool.and_eq_true] at hviable
    rw [fitsLocally, Bool.and_eq_true]
    exact hviable.1

/-- The preferences are enforced exactly when every interface that an endpoint reaches without
naming it is allowed anyway. -/
theorem enforced_iff (sys : System) (precon : Preconnection) :
    Enforced sys precon ↔ (SomeProtocol precon → OthersAllowed sys precon) := by
  constructor
  · -- local-only gathering hands over every pair that fits
    rintro h ⟨option, hoption, hsupports⟩ ep hep hcompatible p hp name howns
    have hmem : p ∈ resolvedLocals (sys.resolver fun _ _ => .sync []) precon :=
      mem_resolvedLocals.mpr ⟨ep, hep, hp⟩
    obtain ⟨candidates, hready, hperm⟩ := (getOrderedLocal_finished (List.ne_nil_of_mem hmem)).ready
    have hpair : (p, option) ∈ candidatePairs (sys.resolver fun _ _ => .sync []) precon :=
      mem_candidatePairs.mpr ⟨hmem, hoption⟩
    have hfits : fitsLocally precon.selectionProperties (p, option) = true := by
      rw [fitsLocally, Bool.and_eq_true, System.interfaceName_of_mem hp]
      exact ⟨hcompatible, hsupports⟩
    have hcandidate : asLocalCandidate (p, option) ∈ candidates := by
      rw [hperm.mem_iff, List.filter_map, viable_asLocalCandidate]
      exact List.mem_map_of_mem (List.mem_filter.mpr ⟨hpair, hfits⟩)
    refine Or.inr (h (fun _ _ => .sync []) _ .localOnly candidates ?_ _ hcandidate p rfl name howns)
    rw [hready]
    exact List.mem_singleton_self _
  · intro h remote g hg candidates hready c hc p hlocal name howns
    obtain ⟨pair, hpair, hpairLocal, hfits⟩ := hg.of_mem hready hc
    rw [hlocal, Option.some.injEq] at hpairLocal
    subst hpairLocal
    rw [fitsLocally, Bool.and_eq_true] at hfits
    obtain ⟨hmem, hoption⟩ := mem_candidatePairs.mp hpair
    obtain ⟨ep, hep, hp⟩ := mem_resolvedLocals.mp hmem
    have hcompatible := hfits.1
    rw [System.interfaceName_of_mem hp] at hcompatible
    rcases h ⟨pair.2, hoption, hfits.2⟩ ep hep hcompatible pair.1 hp name howns with hself | hallowed
    · rw [hself.1]
      exact allowed_of_compatible hcompatible (hself.1 ▸ hself.2)
    · exact hallowed

/-- Wi-Fi prohibited: the default local endpoint still uses the address of `wlan0`. -/
theorem wlan0_delivered :
    (getOrderedLocalCandidateNodes (wlanOnly.resolver fun _ _ => .sync [])
        (fromInterfaces [] [("Wi-Fi", .prohibit)])).1.ready
      = [some ([Protocol.udp, .tcp, .quic].map fun protocol =>
          ⟨.protocol, some ⟨0, none, none, .inet 0x0A000005#32 0⟩, none, some ⟨protocol, none⟩⟩)] ∧
      ¬ Enforced wlanOnly (fromInterfaces [] [("Wi-Fi", .prohibit)]) := by
  have hready : (getOrderedLocalCandidateNodes (wlanOnly.resolver fun _ _ => .sync [])
        (fromInterfaces [] [("Wi-Fi", .prohibit)])).1.ready
      = [some ([Protocol.udp, .tcp, .quic].map fun protocol =>
          ⟨.protocol, some ⟨0, none, none, .inet 0x0A000005#32 0⟩, none, some ⟨protocol, none⟩⟩)] := by
    decide
  refine ⟨hready, fun h => ?_⟩
  have hallowed := h (fun _ _ => .sync []) _ .localOnly _ (hready ▸ List.mem_singleton_self _) _
    List.mem_cons_self ⟨0, none, none, .inet 0x0A000005#32 0⟩ rfl "wlan0"
    ⟨.inet 0x0A000005#32 0, by decide, rfl⟩
  exact absurd hallowed (by decide)

end Enforced

end CTaps.Gathering
