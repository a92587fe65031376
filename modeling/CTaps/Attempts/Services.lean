import CTaps.Attempts.Builders

/-! Services and their ports. `ct_get_service_port` returns a port, the status of `getaddrinfo`, or
-1; the resolver of remote endpoints refuses -1 alone, that of local endpoints nothing, and what is
left of a negative number in 16 bits goes on as a port. -/

namespace CTaps.Attempts

structure ServiceEntry where
  aiFamily : Nat
  port : BitVec 16

structure ServiceAnswer where
  status : Int
  result : List ServiceEntry

def servicePortOf (family : Nat) (res : Int) (rp : ServiceEntry) : Int :=
  let res := if rp.aiFamily = Storage.afInet ∧
      (family = Storage.afInet ∨ family = Storage.afUnspec) then (rp.port.toNat : Int) else res
  if rp.aiFamily = Storage.afInet6 ∧ family = Storage.afInet6 then (rp.port.toNat : Int) else res

def ctGetServicePort (answer : ServiceAnswer) (family : Nat) : Int :=
  if answer.status ≠ 0 then answer.status
  else answer.result.foldl (servicePortOf family) (-1)

def ServiceEntry.Serves (family : Nat) (rp : ServiceEntry) : Prop :=
  rp.aiFamily = Storage.afInet ∧ (family = Storage.afInet ∨ family = Storage.afUnspec) ∨
    rp.aiFamily = Storage.afInet6 ∧ family = Storage.afInet6

section ServicePort

variable {family : Nat}

theorem servicePortOf_of_serves {rp : ServiceEntry} (h : rp.Serves family) (res : Int) :
    servicePortOf family res rp = rp.port.toNat := by
  unfold servicePortOf
  rcases h with h | h
  · rw [if_pos h, ite_self]
  · rw [if_pos h]

theorem servicePortOf_of_not_serves {rp : ServiceEntry} (h : ¬ rp.Serves family) (res : Int) :
    servicePortOf family res rp = res := by
  unfold servicePortOf
  rw [if_neg fun h' => h (Or.inr h'), if_neg fun h' => h (Or.inl h')]

theorem foldl_servicePortOf (family : Nat) (entries : List ServiceEntry) (res : Int) (hres : -1 ≤ res) :
    -1 ≤ entries.foldl (servicePortOf family) res ∧
      (entries.foldl (servicePortOf family) res = -1 ↔
        res = -1 ∧ ∀ rp ∈ entries, ¬ rp.Serves family) := by
  induction entries generalizing res with
  | nil => exact ⟨hres, by simp⟩
  | cons rp entries ih =>
    rw [List.foldl_cons, List.forall_mem_cons]
    by_cases h : rp.Serves family
    · rw [servicePortOf_of_serves h]
      have hport : (-1 : Int) ≤ rp.port.toNat := by omega
      refine ⟨(ih _ hport).1, iff_of_false ?_ fun hall => hall.2.1 h⟩
      intro heq
      have := ((ih _ hport).2.mp heq).1
      omega
    · rw [servicePortOf_of_not_serves h]
      refine ⟨(ih res hres).1, (ih res hres).2.trans ?_⟩
      exact and_congr_right fun _ => (and_iff_right h).symm

theorem ctGetServicePort_eq_neg_one_iff (answer : ServiceAnswer) :
    ctGetServicePort answer family = -1 ↔
      answer.status = -1 ∨ answer.status = 0 ∧ ∀ rp ∈ answer.result, ¬ rp.Serves family := by
  unfold ctGetServicePort
  split
  next h => exact (or_iff_left fun h0 => h h0.1).symm
  next h =>
    have h0 : answer.status = 0 := not_not.mp h
    rw [(foldl_servicePortOf family answer.result (-1) (Int.le_refl _)).2, h0]
    simp

end ServicePort

def Network.withServices (net : Network) (services : String → ServiceAnswer) : Network :=
  { net with getServicePort := fun service family => ctGetServicePort (services service) family }

/-! ### A call of the remote resolver -/

/-- What a call of `ct_remote_endpoint_resolve` returns, the lookups it issues, with host name,
service and `assigned_port`, and the endpoints it hands to its callback. -/
structure ResolveCall where
  rc : Int
  lookups : List (String × Option String × Int)
  delivered : List RemoteEndpoint

namespace Network

def resolveCall (net : Network) (lookupRc : Int) (ep : RemoteEndpoint) : ResolveCall :=
  if net.remotePort ep = -1 then ⟨einval, [], []⟩
  else
    match ep.hostname with
    | some hostname => ⟨lookupRc, [(hostname, ep.service, net.remotePort ep)], []⟩
    | none =>
      if ep.resolvedAddress.ssFamily ≠ Storage.afUnspec then
        let port := (net.remotePort ep % 65536).toNat
        ⟨0, [], [{ ep with resolvedAddress := ep.resolvedAddress.setPort port }]⟩
      else ⟨einval, [], []⟩

def lookedUp (net : Network) (lookup : String × Option String × Int) : List RemoteEndpoint :=
  let port := (lookup.2.2 % 65536).toNat
  ((net.getaddrinfo lookup.1).filterMap fun a => Storage.zero.fromSockaddr a).map fun address =>
    ⟨port, none, none, address.setPort port⟩

theorem remoteEndpointResolve_eq_resolveCall (net : Network) (ep : RemoteEndpoint) :
    net.remoteEndpointResolve ep =
      if (net.resolveCall 0 ep).rc ≠ 0 then .error (net.resolveCall 0 ep).rc
      else .ok ((net.resolveCall 0 ep).lookups.flatMap net.lookedUp ++
        (net.resolveCall 0 ep).delivered) := by
  unfold remoteEndpointResolve resolveCall
  split
  next => rfl
  next =>
    cases ep.hostname with
    | some hostname => simp [lookedUp]
    | none =>
      dsimp only
      split
      next => rfl
      next => rfl

end Network

def ResolveCall.Refused (call : ResolveCall) : Prop :=
  call.rc ≠ 0 ∧ call.lookups = [] ∧ call.delivered = []

section Unresolvable

variable {net : Network}

theorem refused_resolveCall_iff (lookupRc : Int) (ep : RemoteEndpoint) :
    (net.resolveCall lookupRc ep).Refused ↔
      net.remotePort ep = -1 ∨ ep.hostname = none ∧ ep.resolvedAddress.ssFamily = Storage.afUnspec := by
  unfold Network.resolveCall
  split
  next h => exact iff_of_true ⟨by decide, rfl, rfl⟩ (Or.inl h)
  next h =>
    rw [or_iff_right h]
    cases ep.hostname with
    | some hostname => simp [ResolveCall.Refused]
    | none =>
      dsimp only
      split
      next hfamily => simp [ResolveCall.Refused, hfamily]
      next hfamily => exact iff_of_true ⟨by decide, rfl, rfl⟩ ⟨rfl, not_not.mp hfamily⟩

theorem localEndpointResolve_eq_nil_iff (ep : LocalEndpoint) :
    net.localEndpointResolve ep = [] ↔ ep.resolvedAddress.ssFamily = Storage.afUnspec ∧
      net.getInterfaceAddresses (ep.interfaceName.getD "any") = [] := by
  unfold Network.localEndpointResolve
  split
  next h => exact iff_of_false (List.cons_ne_nil _ _) fun h' => h h'.1
  next h =>
    rw [List.map_eq_nil_iff]
    exact (and_iff_right (not_not.mp h)).symm

end Unresolvable

section Truncated

variable {net : Network} {service : String}

theorem remotePort_of_service {ep : RemoteEndpoint} (h : ep.service = some service) :
    net.remotePort ep = net.getServicePort service ep.resolvedAddress.ssFamily := by
  rw [Network.remotePort, h]

theorem localPort_of_service {ep : LocalEndpoint} (h : ep.service = some service) :
    net.localPort ep = (net.getServicePort service ep.resolvedAddress.ssFamily % 65536).toNat := by
  rw [Network.localPort, h]

theorem lookups_of_service {ep : RemoteEndpoint} (h : ep.service = some service) (lookupRc : Int) :
    ∀ lookup ∈ (net.resolveCall lookupRc ep).lookups,
      lookup.2.2 = net.getServicePort service ep.resolvedAddress.ssFamily := by
  unfold Network.resolveCall
  rw [remotePort_of_service h]
  split
  · simp
  · cases ep.hostname with
    | some hostname => simp
    | none =>
      dsimp only
      split <;> simp

theorem delivered_of_service {ep : RemoteEndpoint} (h : ep.service = some service) (lookupRc : Int) :
    ∀ out ∈ (net.resolveCall lookupRc ep).delivered, ep.resolvedAddress.Inet →
      out.resolvedAddress.getPort =
        (net.getServicePort service ep.resolvedAddress.ssFamily % 65536).toNat := by
  unfold Network.resolveCall
  rw [remotePort_of_service h]
  split
  · simp
  · cases ep.hostname with
    | some hostname => simp
    | none =>
      dsimp only
      split
      · intro out hout hinet
        rw [List.mem_singleton.mp hout]
        exact Storage.getPort_setPort hinet (by omega)
      · simp

theorem localEndpoints_of_service {ep : LocalEndpoint} (h : ep.service = some service)
    (hfamily : ep.resolvedAddress.ssFamily = Storage.afUnspec) :
    ∀ out ∈ net.localEndpointResolve ep,
      out.port = (net.getServicePort service ep.resolvedAddress.ssFamily % 65536).toNat := by
  intro out hout
  rw [Network.localEndpointResolve, if_neg (not_not.mpr hfamily), localPort_of_service h] at hout
  obtain ⟨address, _, rfl⟩ := List.mem_map.mp hout
  rfl

end Truncated

/-- A service without a port. The remote resolver refuses -1 only, the local one only finds nothing
where there is nothing; otherwise the endpoint carries the number of the service cut to 16 bits. -/
theorem unresolvable_service (net : Network) (services : String → ServiceAnswer) (lookupRc : Int)
    (remote : RemoteEndpoint) (localEp : LocalEndpoint) (service : String)
    (hremote : remote.service = some service) (hlocal : localEp.service = some service)
    (hremotePort : ctGetServicePort (services service) remote.resolvedAddress.ssFamily < 0) :
    (((net.withServices services).resolveCall lookupRc remote).Refused ↔
      (services service).status = -1 ∨ (services service).status = 0 ∨
        remote.hostname = none ∧ remote.resolvedAddress.ssFamily = Storage.afUnspec) ∧
    ((net.withServices services).localEndpointResolve localEp = [] ↔
      localEp.resolvedAddress.ssFamily = Storage.afUnspec ∧
        net.getInterfaceAddresses (localEp.interfaceName.getD "any") = []) ∧
    (∀ lookup ∈ ((net.withServices services).resolveCall lookupRc remote).lookups, lookup.2.2 < 0) ∧
    (∀ ep ∈ ((net.withServices services).resolveCall lookupRc remote).delivered,
      remote.resolvedAddress.Inet → ep.resolvedAddress.getPort =
        (ctGetServicePort (services service) remote.resolvedAddress.ssFamily % 65536).toNat) ∧
    ∀ ep ∈ (net.withServices services).localEndpointResolve localEp,
      localEp.resolvedAddress.ssFamily = Storage.afUnspec → ep.port =
        (ctGetServicePort (services service) localEp.resolvedAddress.ssFamily % 65536).toNat := by
  refine ⟨?_, localEndpointResolve_eq_nil_iff localEp, fun lookup hlookup => ?_,
    delivered_of_service hremote lookupRc, fun ep hep hfamily => ?_⟩
  · rw [refused_resolveCall_iff, remotePort_of_service hremote, ← or_assoc]
    refine or_congr_left ((ctGetServicePort_eq_neg_one_iff (services service)).trans ?_)
    refine or_congr_right (and_iff_left_of_imp fun hstatus => ?_)
    -- a lookup that succeeds has a negative result only without an entry that serves
    have hloop := foldl_servicePortOf remote.resolvedAddress.ssFamily
      (services service).result (-1) (Int.le_refl _)
    rw [ctGetServicePort, if_neg (not_not.mpr hstatus)] at hremotePort
    exact (hloop.2.mp (by omega)).2
  · rw [lookups_of_service hremote lookupRc lookup hlookup]
    exact hremotePort
  · exact localEndpoints_of_service hlocal hfamily ep hep

theorem unresolvable_service_without_entry :
    ((Network.withServices ⟨[], fun _ _ => 0, fun _ => []⟩ fun _ => ⟨0, []⟩).resolveCall 0
        ⟨0, some "nfs", some "host", Storage.zero⟩).Refused ∧
      (Network.withServices ⟨[], fun _ _ => 0, fun _ => []⟩ fun _ => ⟨0, []⟩).localEndpointResolve
        ⟨0, none, some "nfs", Storage.zero⟩ = [] := by
  have h := unresolvable_service ⟨[], fun _ _ => 0, fun _ => []⟩ (fun _ => ⟨0, []⟩) 0
    ⟨0, some "nfs", some "host", Storage.zero⟩ ⟨0, none, some "nfs", Storage.zero⟩ "nfs" rfl rfl
    (by decide)
  exact ⟨h.1.mpr (Or.inr (Or.inl rfl)), h.2.1.mpr ⟨rfl, rfl⟩⟩

/-- `EAI_SERVICE`, -8: the host is looked up with port -8, and the local endpoint gets the port
65528. -/
theorem unknown_service_becomes_port :
    ((Network.withServices ⟨[("lo", .withIpv4 ![127, 0, 0, 1])], fun _ _ => 0, fun _ => []⟩
        fun _ => ⟨-8, []⟩).resolveCall 0 ⟨0, some "nfs", some "host", Storage.zero⟩).lookups =
        [("host", some "nfs", -8)] ∧
      ((Network.withServices ⟨[("lo", .withIpv4 ![127, 0, 0, 1])], fun _ _ => 0, fun _ => []⟩
        fun _ => ⟨-8, []⟩).localEndpointResolve ⟨0, none, some "nfs", Storage.zero⟩).map
          (fun ep => (ep.port, ep.resolvedAddress.getPort)) = [(65528, 65528)] := by
  exact ⟨by decide, by decide⟩

end CTaps.Attempts
