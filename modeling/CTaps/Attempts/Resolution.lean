import CTaps.Attempts.Builders
import CTaps.Gathering.Interfaces

/-! Local resolution over bytes and over addresses. Gathering has the family, the address, the port
and the scope of a `struct sockaddr_storage`; the builders and the attempts have its bytes. The
resolver over bytes computes what the one of gathering does, so the local endpoints of gathered
candidates were built and resolved byte by byte. -/

namespace CTaps.Attempts

open Gathering (SockAddr System)

def Storage.sockAddr (s : Storage) : SockAddr :=
  if s.ssFamily = afInet then .inet s.sinAddr s.getPort
  else if s.ssFamily = afInet6 then .inet6 s.sin6Addr s.getPort s.sin6ScopeId.toNat
  else .unspec

def LocalEndpoint.gathered (ep : LocalEndpoint) : Gathering.LocalEndpoint :=
  ⟨ep.port, ep.interfaceName, ep.service, ep.resolvedAddress.sockAddr⟩

def Network.system (net : Network) : System where
  interfaceAddresses := some (net.interfaces.map fun i => (i.1, i.2.sockAddr))
  getServicePort service := net.getServicePort service Storage.afUnspec

namespace Storage

variable {s : Storage}

theorem sockAddr_inet (h : s.ssFamily = afInet) : s.sockAddr = .inet s.sinAddr s.getPort :=
  if_pos h

theorem sockAddr_inet6 (h : s.ssFamily = afInet6) :
    s.sockAddr = .inet6 s.sin6Addr s.getPort s.sin6ScopeId.toNat := by
  rw [sockAddr, if_neg (h ▸ by decide), if_pos h]

theorem sockAddr_of_not_inet (h : ¬ s.Inet) : s.sockAddr = .unspec := by
  obtain ⟨hinet, hinet6⟩ := not_or.mp h
  rw [sockAddr, if_neg hinet, if_neg hinet6]

theorem family_sockAddr_iff : s.sockAddr.family ≠ .unspec ↔ s.Inet := by
  constructor
  · intro h
    by_contra hnot
    exact h (congrArg SockAddr.family (sockAddr_of_not_inet hnot))
  · rintro (hinet | hinet6)
    · rw [sockAddr_inet hinet]
      exact Gathering.Family.noConfusion
    · rw [sockAddr_inet6 hinet6]
      exact Gathering.Family.noConfusion

theorem sockAddr_setPort (s : Storage) {port : Nat} (hport : port < 65536) :
    (s.setPort port).sockAddr = s.sockAddr.withPort port := by
  by_cases hs : s.Inet
  · have hgetPort := getPort_setPort hs hport
    have hbyte : ∀ i : Fin 128, 4 ≤ i.val → s.setPort port i = s i := by
      intro i hi
      rw [setPort_of_inet hs]
      exact dif_neg (by omega)
    rcases hs with hinet | hinet6
    · rw [sockAddr_inet ((ssFamily_setPort port).trans hinet), sockAddr_inet hinet, hgetPort]
      simp only [sinAddr, hbyte 4 (by decide), hbyte 5 (by decide), hbyte 6 (by decide),
        hbyte 7 (by decide), SockAddr.withPort]
    · rw [sockAddr_inet6 ((ssFamily_setPort port).trans hinet6), sockAddr_inet6 hinet6, hgetPort]
      have haddr : (s.setPort port).sin6Addr = s.sin6Addr := by
        simp [sin6Addr, hbyte]
      have hscope : (s.setPort port).sin6ScopeId = s.sin6ScopeId := by
        simp [sin6ScopeId, hbyte]
      rw [haddr, hscope, SockAddr.withPort]
  · have hkeeps : s.setPort port = s := if_neg hs
    rw [hkeeps, sockAddr_of_not_inet hs, SockAddr.withPort]

theorem sockAddr_copyFront_inet {a : Storage} (h : a.ssFamily = afInet) (s : Storage) :
    (s.copyFront a sizeofSockaddrIn).sockAddr = a.sockAddr := by
  have hbyte : ∀ i : Fin 128, i.val < 16 → s.copyFront a sizeofSockaddrIn i = a i :=
    fun i hi => if_pos hi
  have hfamily : (s.copyFront a sizeofSockaddrIn).ssFamily = a.ssFamily :=
    ssFamily_congr (hbyte 0 (by decide)) (hbyte 1 (by decide))
  rw [sockAddr_inet (hfamily.trans h), sockAddr_inet h]
  simp [sinAddr, getPort, hbyte]

theorem sockAddr_copyFront_inet6 {a : Storage} (h : a.ssFamily = afInet6) (s : Storage) :
    (s.copyFront a sizeofSockaddrIn6).sockAddr = a.sockAddr := by
  have hbyte : ∀ i : Fin 128, i.val < 28 → s.copyFront a sizeofSockaddrIn6 i = a i :=
    fun i hi => if_pos hi
  have hfamily : (s.copyFront a sizeofSockaddrIn6).ssFamily = a.ssFamily :=
    ssFamily_congr (hbyte 0 (by decide)) (hbyte 1 (by decide))
  rw [sockAddr_inet6 (hfamily.trans h), sockAddr_inet6 h]
  simp [sin6Addr, sin6ScopeId, getPort, hbyte]

theorem sockAddr_fromSockaddr (s a : Storage) :
    (s.fromSockaddr a).map sockAddr = if a.sockAddr.family ≠ .unspec then some a.sockAddr else none := by
  by_cases ha : a.Inet
  · rw [if_pos (family_sockAddr_iff.mpr ha), fromSockaddr]
    rcases ha with hinet | hinet6
    · rw [if_pos hinet, Option.map_some, sockAddr_copyFront_inet hinet]
    · rw [if_neg (hinet6 ▸ by decide), if_pos hinet6, Option.map_some,
        sockAddr_copyFront_inet6 hinet6]
  · obtain ⟨hinet, hinet6⟩ := not_or.mp ha
    rw [if_neg fun h => ha (family_sockAddr_iff.mp h), fromSockaddr, if_neg hinet, if_neg hinet6]
    rfl

theorem map_sockAddr_filterMap (s : Storage) (addresses : List Storage) :
    (addresses.filterMap fun a => s.fromSockaddr a).map sockAddr =
      (addresses.map sockAddr).filter fun a => a.family ≠ .unspec := by
  rw [List.map_filterMap]
  simp only [sockAddr_fromSockaddr]
  induction addresses with
  | nil => rfl
  | cons a addresses ih =>
    rw [List.filterMap_cons, List.map_cons, List.filter_cons]
    by_cases hf : a.sockAddr.family ≠ .unspec
    · rw [if_pos hf, if_pos (decide_eq_true hf), ih]
    · rw [if_neg hf, if_neg (by simp [hf]), ih]

end Storage

namespace Network

variable (net : Network)

theorem getInterfaceAddresses_system (name : String) :
    net.system.getInterfaceAddresses name = (net.getInterfaceAddresses name).map Storage.sockAddr := by
  have hnamed : ((net.system.interfaces.filter fun i => name = "any" ∨ i.1 = name).map Prod.snd) =
      ((net.interfaces.filter fun i => name = "any" ∨ i.1 = name).map Prod.snd).map
        Storage.sockAddr := by
    rw [System.interfaces, system, Option.getD_some, List.filter_map, List.map_map, List.map_map]
    rfl
  unfold System.getInterfaceAddresses getInterfaceAddresses
  dsimp only
  rw [List.map_take, Storage.map_sockAddr_filterMap, hnamed]
  rfl

/-- The resolver over bytes computes what the one of gathering does, for an endpoint with a port of
16 bits and no address or one of the two families. -/
theorem localEndpointResolve_system {ep : LocalEndpoint} (hknown : ep.resolvedAddress.Known)
    (hport : ep.port < 65536) :
    net.system.localEndpointResolve ep.gathered =
      (net.localEndpointResolve ep).map LocalEndpoint.gathered := by
  unfold System.localEndpointResolve localEndpointResolve
  by_cases hnone : ep.resolvedAddress.ssFamily = Storage.afUnspec
  · have hnot : ¬ ep.resolvedAddress.Inet := by
      rw [Storage.Inet, hnone]
      decide
    have hassigned : net.system.assignedPort ep.gathered = net.localPort ep := by
      unfold System.assignedPort localPort
      rw [hnone]
      rfl
    have hlt : net.localPort ep < 65536 := by
      unfold localPort
      split <;> omega
    have hgathered : ep.gathered.resolvedAddress.family = .unspec :=
      not_not.mp fun h => hnot (Storage.family_sockAddr_iff.mp h)
    rw [if_neg (not_not.mpr hnone), if_neg (not_not.mpr hgathered)]
    dsimp only
    rw [hassigned, getInterfaceAddresses_system, List.map_map, List.map_map]
    refine List.map_congr_left fun address _ => ?_
    simp only [Function.comp_apply, LocalEndpoint.gathered, Storage.sockAddr_setPort address hlt]
  · have hgathered : ep.gathered.resolvedAddress.family ≠ .unspec :=
      Storage.family_sockAddr_iff.mpr (hknown.inet hnone)
    rw [if_pos hnone, if_pos hgathered]
    rfl

end Network

/-! ### Built endpoints -/

theorem known_buildLocal (calls : List LocalCall) : (buildLocal calls).resolvedAddress.Known := by
  refine Lib.run_invariant_of_step (I := fun ep : LocalEndpoint => ep.resolvedAddress.Known)
    (fun ep call h => ?_) (Or.inl rfl) calls
  cases call with
  | withInterface name => exact h
  | withPort port => exact h.setPort port
  | withService service => exact h
  | withIpv4 a => exact Or.inr (Or.inl (Storage.ssFamily_withIpv4 a))
  | withIpv6 a => exact Or.inr (Or.inr (Storage.ssFamily_withIpv6 a))
  | fromSockaddr a =>
    rw [LocalCall.apply, LocalEndpoint.fromSockaddr]
    split
    · exact h
    · split
      · next s hs => exact (Storage.inet_of_fromSockaddr hs).known
      · exact h

def LocalCall.Fits : LocalCall → Prop
  | .withPort port => port < 65536
  | _ => True

theorem port_buildLocal {calls : List LocalCall} (hcalls : ∀ call ∈ calls, call.Fits) :
    (buildLocal calls).port < 65536 := by
  refine Lib.run_history (p := LocalCall.Fits) (I := fun _ (ep : LocalEndpoint) => ep.port < 65536)
    (fun _ ep call h hcall => ?_) (by decide) hcalls
  cases call with
  | withPort port => exact hcall
  | fromSockaddr a =>
    rw [LocalCall.apply, LocalEndpoint.fromSockaddr]
    split
    · exact h
    · split
      · show a.getPort < 65536
        unfold Storage.getPort
        omega
      · exact h
  | withInterface name | withService service | withIpv4 a | withIpv6 a => exact h

open Gathering in
/-- The local endpoint of every candidate that gathering hands over is one that was built by the
application, or the cleared one that stands in for none, and resolved. -/
theorem gathered_local_resolved (net : Network) (builds : List (List LocalCall))
    (hbuilds : ∀ calls ∈ builds, ∀ call ∈ calls, call.Fits) (precon : Gathering.Preconnection)
    (hprecon : precon.localEndpoints = builds.map fun calls => (buildLocal calls).gathered)
    {remote : Nat → Nat → Resolution} {g : GatherContext}
    (hg : Gathers (net.system.resolver remote) precon g) {candidates : List CandidateNode}
    (hready : some candidates ∈ g.ready) {c : CandidateNode} (hc : c ∈ candidates) :
    ∃ calls p, (calls ∈ builds ∨ calls = []) ∧ p ∈ net.localEndpointResolve (buildLocal calls) ∧
      c.localEndpoint = some p.gathered := by
  obtain ⟨pair, hpair, hlocal, -⟩ := hg.of_mem hready hc
  obtain ⟨ep, hep, hp⟩ := mem_resolvedLocals.mp (mem_candidatePairs.mp hpair).1
  have hbuilt : ∃ calls, (calls ∈ builds ∨ calls = []) ∧ ep = (buildLocal calls).gathered ∧
      (buildLocal calls).port < 65536 := by
    unfold Preconnection.localEndpointsOrEphemeral at hep
    split at hep
    · exact ⟨[], Or.inr rfl, List.mem_singleton.mp hep, by decide⟩
    · rw [hprecon] at hep
      obtain ⟨calls, hcalls, rfl⟩ := List.mem_map.mp hep
      exact ⟨calls, Or.inl hcalls, rfl, port_buildLocal (hbuilds calls hcalls)⟩
  obtain ⟨calls, hcalls, rfl, hport⟩ := hbuilt
  rw [net.localEndpointResolve_system (known_buildLocal calls) hport] at hp
  obtain ⟨p, hmem, hpair'⟩ := List.mem_map.mp hp
  exact ⟨calls, p, hcalls, hmem, by rw [hlocal, hpair']⟩

end CTaps.Attempts
