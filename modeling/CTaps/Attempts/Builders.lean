import CTaps.Attempts.Storage

/-! The builder calls of a local endpoint in any order. The port stands in two places: the port
field, which `ct_local_endpoint_with_port` alone sets, and the bytes of the address, which it writes
only when an address is there and which `ct_local_endpoint_with_ipv4` clears. With an address,
`ct_local_endpoint_resolve` hands the endpoint on as it is, whatever service it names. -/

namespace CTaps.Attempts

/-! ### Ports and addresses over one another -/

namespace Storage

variable {s : Storage}

theorem setPort_of_inet (hs : s.Inet) (port : Nat) : s.setPort port = s.write 2 (portBytes port) :=
  if_pos hs

theorem setPort_zero (port : Nat) : zero.setPort port = zero :=
  if_neg (by decide)

theorem setPort_setPort (s : Storage) (p q : Nat) : (s.setPort p).setPort q = s.setPort q := by
  by_cases hs : s.Inet
  · rw [setPort_of_inet (hs.setPort p), setPort_of_inet hs, setPort_of_inet hs]
    funext i
    unfold write
    split <;> rfl
  · have hkeeps : ∀ port, s.setPort port = s := fun port => if_neg hs
    rw [hkeeps, hkeeps]

theorem getPort_setPort (hs : s.Inet) {port : Nat} (hport : port < 65536) :
    (s.setPort port).getPort = port := by
  have h2 : s.setPort port 2 = BitVec.ofNat 8 (port / 256) := by
    rw [setPort_of_inet hs]
    rfl
  have h3 : s.setPort port 3 = BitVec.ofNat 8 port := by
    rw [setPort_of_inet hs]
    rfl
  rw [getPort, h2, h3, BitVec.toNat_ofNat, BitVec.toNat_ofNat]
  omega

theorem setPort_mod (s : Storage) (port : Nat) : s.setPort (port % 65536) = s.setPort port := by
  have hbytes : portBytes (port % 65536) = portBytes port := by
    have h2 : BitVec.ofNat 8 (port % 65536 / 256) = BitVec.ofNat 8 (port / 256) :=
      BitVec.eq_of_toNat_eq (by rw [BitVec.toNat_ofNat, BitVec.toNat_ofNat]; omega)
    have h3 : BitVec.ofNat 8 (port % 65536) = BitVec.ofNat 8 port :=
      BitVec.eq_of_toNat_eq (by rw [BitVec.toNat_ofNat, BitVec.toNat_ofNat]; omega)
    rw [portBytes, portBytes, h2, h3]
  rw [setPort, setPort, hbytes]

theorem setPort_getPort (s : Storage) : s.setPort s.getPort = s := by
  by_cases hs : s.Inet
  · rw [setPort_of_inet hs]
    have h2 : BitVec.ofNat 8 (s.getPort / 256) = s 2 :=
      BitVec.eq_of_toNat_eq (by rw [BitVec.toNat_ofNat, getPort]; omega)
    have h3 : BitVec.ofNat 8 s.getPort = s 3 :=
      BitVec.eq_of_toNat_eq (by rw [BitVec.toNat_ofNat, getPort]; omega)
    funext i
    unfold write
    split
    next h =>
      obtain rfl | rfl : i = 2 ∨ i = 3 := by omega
      · exact h2
      · exact h3
    next => rfl
  · exact if_neg hs

theorem setPort_eq_iff {t : Storage} {port : Nat} :
    s.setPort port = t ↔ s.setPort 0 = t.setPort 0 ∧ (t.Inet → port % 65536 = t.getPort) := by
  constructor
  · rintro rfl
    refine ⟨(setPort_setPort s port 0).symm, fun ht => ?_⟩
    have hs : s.Inet := by
      rw [Inet, ssFamily_setPort] at ht
      exact ht
    rw [← setPort_mod, getPort_setPort hs (Nat.mod_lt _ (by decide))]
  · rintro ⟨hrest, hport⟩
    by_cases ht : t.Inet
    · calc s.setPort port = (s.setPort 0).setPort (port % 65536) := by
            rw [setPort_setPort, setPort_mod]
        _ = t.setPort t.getPort := by rw [hrest, hport ht, setPort_setPort]
        _ = t := t.setPort_getPort
    · have hkeeps : t.setPort 0 = t := if_neg ht
      have hs : ¬ s.Inet := by
        rw [Inet, ← ssFamily_setPort 0, hrest, hkeeps]
        exact ht
      have hsame : ∀ p, s.setPort p = s := fun p => if_neg hs
      rw [hsame, ← hsame 0, hrest, hkeeps]

theorem inet_withIpv4 (a : Fin 4 → BitVec 8) : (withIpv4 a).Inet := Or.inl rfl

theorem inet_withIpv6 (s : Storage) (a : Fin 16 → BitVec 8) : (s.withIpv6 a).Inet := Or.inr rfl

theorem setPort_zero_of_clear (hs : s.Inet) (h2 : s 2 = 0) (h3 : s 3 = 0) : s.setPort 0 = s := by
  rw [setPort_of_inet hs]
  funext i
  unfold write
  split
  next h =>
    obtain rfl | rfl : i = 2 ∨ i = 3 := by omega
    · exact h2.symm
    · exact h3.symm
  next => rfl

theorem withIpv6_setPort (hs : s.Inet) (a : Fin 16 → BitVec 8) (port : Nat) :
    (s.setPort port).withIpv6 a = (s.withIpv6 a).setPort port := by
  rw [setPort_of_inet hs, setPort_of_inet (inet_withIpv6 s a)]
  funext i
  unfold withIpv6 write
  split
  next h8 => rw [dif_neg (by omega)]
  next =>
    split
    next h0 => rw [dif_neg (by omega)]
    next => rfl

theorem withIpv6_withIpv6 (s : Storage) (a b : Fin 16 → BitVec 8) :
    (s.withIpv6 a).withIpv6 b = s.withIpv6 b := by
  funext i
  unfold withIpv6 write
  split
  next => rfl
  next =>
    split
    next => rfl
    next => rfl

theorem withIpv6_setPort_flow (s : Storage) (b : Fin 16 → BitVec 8) (port : Nat) {i : Fin 128}
    (hlo : 4 ≤ i.val) (hhi : i.val < 8) : (s.withIpv6 b).setPort port i = s i := by
  rw [setPort_of_inet (inet_withIpv6 s b)]
  unfold withIpv6 write
  rw [dif_neg (by omega), dif_neg (by omega), dif_neg (by omega)]

theorem withIpv4_flow (a : Fin 4 → BitVec 8) (i : Fin 4) :
    withIpv4 a ⟨4 + i.val, by omega⟩ = a i := by
  unfold withIpv4
  rw [write, dif_pos ⟨Nat.le_add_right 4 i.val, by dsimp only; omega⟩]
  exact congrArg a (Fin.ext (Nat.add_sub_cancel_left 4 i.val))

theorem withIpv4_zero_withIpv6 (b : Fin 16 → BitVec 8) :
    (withIpv4 fun _ => 0).withIpv6 b = zero.withIpv6 b := by
  funext i
  unfold withIpv6 withIpv4 write zero
  split
  next => rfl
  next =>
    split
    next => rfl
    next =>
      split
      next => rfl
      next => rfl

theorem withIpv4_withIpv6_eq_iff (a : Fin 4 → BitVec 8) (b : Fin 16 → BitVec 8) (port : Nat) :
    ((withIpv4 a).withIpv6 b).setPort port = (zero.withIpv6 b).setPort port ↔ a = fun _ => 0 := by
  constructor
  · intro h
    funext i
    have hbyte := congrFun h ⟨4 + i.val, by omega⟩
    rw [withIpv6_setPort_flow _ b port (Nat.le_add_right 4 i.val) (by dsimp only; omega),
      withIpv6_setPort_flow _ b port (Nat.le_add_right 4 i.val) (by dsimp only; omega),
      withIpv4_flow] at hbyte
    exact hbyte
  · rintro rfl
    rw [withIpv4_zero_withIpv6]

end Storage

/-! ### Calls in any order -/

inductive Address
  | ipv4 (addr : Fin 4 → BitVec 8)
  | ipv6 (addr : Fin 16 → BitVec 8)

def Address.storage : Address → Storage
  | .ipv4 addr => .withIpv4 addr
  | .ipv6 addr => Storage.zero.withIpv6 addr

/-- A successful call of a setter of a local endpoint; a port is a `uint16_t`. -/
inductive Setter
  | withInterface (name : String)
  | withPort (port : BitVec 16)
  | withService (service : String)
  | withIpv4 (addr : Fin 4 → BitVec 8)
  | withIpv6 (addr : Fin 16 → BitVec 8)

namespace Setter

def call : Setter → LocalCall
  | .withInterface name => .withInterface name
  | .withPort port => .withPort port.toNat
  | .withService service => .withService service
  | .withIpv4 addr => .withIpv4 addr
  | .withIpv6 addr => .withIpv6 addr

def interface : Setter → Option String
  | .withInterface name => some name
  | _ => none

def port : Setter → Option Nat
  | .withPort port => some port.toNat
  | _ => none

def service : Setter → Option String
  | .withService service => some service
  | _ => none

def ipv4 : Setter → Option (Fin 4 → BitVec 8)
  | .withIpv4 addr => some addr
  | _ => none

def address : Setter → Option Address
  | .withIpv4 addr => some (.ipv4 addr)
  | .withIpv6 addr => some (.ipv6 addr)
  | _ => none

end Setter

def lastGiven {α : Type} (f : Setter → Option α) (calls : List Setter) : Option α :=
  (calls.filterMap f).getLast?

@[simp] theorem lastGiven_nil {α : Type} (f : Setter → Option α) : lastGiven f [] = none := rfl

@[simp] theorem lastGiven_concat {α : Type} (f : Setter → Option α) (calls : List Setter)
    (c : Setter) : lastGiven f (calls ++ [c]) = (f c).or (lastGiven f calls) := by
  unfold lastGiven
  rw [List.filterMap_append, List.getLast?_append]
  cases h : f c with
  | none => simp [h]
  | some a => simp [h]

def lastPort (calls : List Setter) : Nat := (lastGiven Setter.port calls).getD 0

def buildCalls (calls : List Setter) : LocalEndpoint := buildLocal (calls.map Setter.call)

theorem buildCalls_concat (calls : List Setter) (c : Setter) :
    buildCalls (calls ++ [c]) = LocalCall.apply (buildCalls calls) c.call := by
  unfold buildCalls buildLocal
  rw [List.map_append, Lib.run_append]
  rfl

def portInAddress : List Setter → Bool
  | [] => false
  | .withPort _ :: earlier => earlier.any fun c => c.address.isSome
  | .withIpv4 _ :: _ => false
  | .withIpv6 _ :: earlier => portInAddress earlier
  | .withService _ :: earlier => portInAddress earlier
  | .withInterface _ :: earlier => portInAddress earlier

def addressPort (calls : List Setter) : Nat :=
  if portInAddress calls.reverse then lastPort calls else 0

def addressBytes (calls : List Setter) : Storage :=
  match lastGiven Setter.address calls with
  | none => Storage.zero
  | some (.ipv4 a) => Storage.withIpv4 a
  | some (.ipv6 b) =>
    ((lastGiven Setter.ipv4 calls).elim Storage.zero Storage.withIpv4).withIpv6 b

section Calls

variable {calls : List Setter}

theorem any_address_eq_false (h : lastGiven Setter.address calls = none) :
    (calls.reverse.any fun c => c.address.isSome) = false := by
  unfold lastGiven at h
  rw [List.getLast?_eq_none_iff, List.filterMap_eq_nil_iff] at h
  rw [List.any_reverse, List.any_eq_false]
  intro c hc
  rw [h c hc]
  exact Bool.false_ne_true

theorem any_address_eq_true {a : Address} (h : lastGiven Setter.address calls = some a) :
    (calls.reverse.any fun c => c.address.isSome) = true := by
  obtain ⟨c, hc, hca⟩ := List.mem_filterMap.mp (List.mem_of_getLast? h)
  rw [List.any_reverse, List.any_eq_true]
  exact ⟨c, hc, by rw [hca]; rfl⟩

theorem lastGiven_ipv4 (calls : List Setter) :
    (lastGiven Setter.address calls = none →
        lastGiven Setter.ipv4 calls = none ∧ portInAddress calls.reverse = false) ∧
      ∀ a, lastGiven Setter.address calls = some (.ipv4 a) → lastGiven Setter.ipv4 calls = some a := by
  induction calls using List.reverseRecOn with
  | nil => exact ⟨fun _ => ⟨rfl, rfl⟩, fun a h => absurd h (by simp)⟩
  | append_singleton calls c ih =>
    rw [lastGiven_concat, lastGiven_concat, List.reverse_append]
    cases c with
    | withInterface name => exact ih
    | withService service => exact ih
    | withPort port =>
      refine ⟨fun h => ⟨(ih.1 h).1, any_address_eq_false h⟩, ih.2⟩
    | withIpv4 a =>
      refine ⟨fun h => absurd h (by simp [Setter.address]), fun b h => ?_⟩
      simpa [Setter.address, Setter.ipv4] using h
    | withIpv6 a =>
      refine ⟨fun h => absurd h (by simp [Setter.address]), fun b h => ?_⟩
      exact absurd h (by simp [Setter.address])

theorem addressPort_of_none (h : lastGiven Setter.address calls = none) : addressPort calls = 0 := by
  rw [addressPort, ((lastGiven_ipv4 calls).1 h).2]
  rfl

theorem addressBytes_withIpv6 (calls : List Setter) (b : Fin 16 → BitVec 8) :
    ((addressBytes calls).setPort (addressPort calls)).withIpv6 b =
      (((lastGiven Setter.ipv4 calls).elim Storage.zero Storage.withIpv4).withIpv6 b).setPort
        (addressPort calls) := by
  unfold addressBytes
  cases h : lastGiven Setter.address calls with
  | none =>
    rw [((lastGiven_ipv4 calls).1 h).1, addressPort_of_none h, Storage.setPort_zero]
    exact (Storage.setPort_zero_of_clear (Storage.inet_withIpv6 _ b) rfl rfl).symm
  | some a =>
    cases a with
    | ipv4 a =>
      rw [(lastGiven_ipv4 calls).2 a h]
      exact Storage.withIpv6_setPort (Storage.inet_withIpv4 a) b _
    | ipv6 a =>
      dsimp only
      rw [Storage.withIpv6_setPort (Storage.inet_withIpv6 _ a), Storage.withIpv6_withIpv6]

theorem addressBytes_concat {c : Setter} (hc : c.address = none) :
    addressBytes (calls ++ [c]) = addressBytes calls := by
  have hipv4 : c.ipv4 = none := by cases c <;> simp_all [Setter.address, Setter.ipv4]
  simp [addressBytes, hc, hipv4]

theorem lastPort_concat {c : Setter} (hc : c.port = none) : lastPort (calls ++ [c]) = lastPort calls := by
  rw [lastPort, lastPort, lastGiven_concat, hc, Option.none_or]

theorem addressPort_concat {c : Setter} (hc : c.port = none) (hipv4 : c.ipv4 = none) :
    addressPort (calls ++ [c]) = addressPort calls := by
  rw [addressPort, addressPort, lastPort_concat hc, List.reverse_append]
  cases c with
  | withPort port => cases hc
  | withIpv4 a => cases hipv4
  | withIpv6 b => rfl
  | withInterface name => rfl
  | withService service => rfl

end Calls

structure Built (calls : List Setter) (ep : LocalEndpoint) : Prop where
  port : ep.port = lastPort calls
  interfaceName : ep.interfaceName = lastGiven Setter.interface calls
  service : ep.service = lastGiven Setter.service calls
  resolvedAddress : ep.resolvedAddress = (addressBytes calls).setPort (addressPort calls)

theorem Built.withPort {calls : List Setter} {ep : LocalEndpoint} (h : Built calls ep)
    (port : BitVec 16) : Built (calls ++ [.withPort port]) (ep.withPort port.toNat) where
  port := by simp [LocalEndpoint.withPort, lastPort, Setter.port]
  interfaceName := by simp [LocalEndpoint.withPort, Setter.interface, h.interfaceName]
  service := by simp [LocalEndpoint.withPort, Setter.service, h.service]
  resolvedAddress := by
    rw [addressBytes_concat rfl, LocalEndpoint.withPort, h.resolvedAddress, Storage.setPort_setPort]
    cases ha : lastGiven Setter.address calls with
    | none =>
      have hzero : addressBytes calls = Storage.zero := by rw [addressBytes, ha]
      rw [hzero, Storage.setPort_zero, Storage.setPort_zero]
    | some a =>
      have hport : addressPort (calls ++ [.withPort port]) = port.toNat := by
        simp [addressPort, portInAddress, lastPort, Setter.port, any_address_eq_true ha,
          -List.any_reverse]
      rw [hport]

theorem Built.withIpv4 {calls : List Setter} {ep : LocalEndpoint} (h : Built calls ep)
    (a : Fin 4 → BitVec 8) : Built (calls ++ [.withIpv4 a]) (ep.withIpv4 a) where
  port := by simp [LocalEndpoint.withIpv4, lastPort, Setter.port, h.port]
  interfaceName := by simp [LocalEndpoint.withIpv4, Setter.interface, h.interfaceName]
  service := by simp [LocalEndpoint.withIpv4, Setter.service, h.service]
  resolvedAddress := by
    have hport : addressPort (calls ++ [.withIpv4 a]) = 0 := by simp [addressPort, portInAddress]
    have hbytes : addressBytes (calls ++ [.withIpv4 a]) = Storage.withIpv4 a := by
      simp [addressBytes, Setter.address]
    rw [hport, hbytes]
    exact (Storage.setPort_zero_of_clear (Storage.inet_withIpv4 a) rfl rfl).symm

theorem Built.withIpv6 {calls : List Setter} {ep : LocalEndpoint} (h : Built calls ep)
    (b : Fin 16 → BitVec 8) : Built (calls ++ [.withIpv6 b]) (ep.withIpv6 b) where
  port := by simp [LocalEndpoint.withIpv6, lastPort, Setter.port, h.port]
  interfaceName := by simp [LocalEndpoint.withIpv6, Setter.interface, h.interfaceName]
  service := by simp [LocalEndpoint.withIpv6, Setter.service, h.service]
  resolvedAddress := by
    have hbytes : addressBytes (calls ++ [.withIpv6 b]) =
        ((lastGiven Setter.ipv4 calls).elim Storage.zero Storage.withIpv4).withIpv6 b := by
      simp [addressBytes, Setter.address, Setter.ipv4]
    rw [addressPort_concat rfl rfl, hbytes, ← addressBytes_withIpv6, ← h.resolvedAddress]
    rfl

theorem Built.apply {calls : List Setter} {ep : LocalEndpoint} (h : Built calls ep) (c : Setter) :
    Built (calls ++ [c]) (LocalCall.apply ep c.call) := by
  cases c with
  | withPort port => exact h.withPort port
  | withIpv4 a => exact h.withIpv4 a
  | withIpv6 b => exact h.withIpv6 b
  | withInterface name =>
    refine ⟨h.port.trans (lastPort_concat rfl).symm, ?_, ?_, ?_⟩
    · rw [lastGiven_concat]
      rfl
    · rw [lastGiven_concat]
      exact h.service
    · rw [addressBytes_concat rfl, addressPort_concat rfl rfl]
      exact h.resolvedAddress
  | withService service =>
    refine ⟨h.port.trans (lastPort_concat rfl).symm, ?_, ?_, ?_⟩
    · rw [lastGiven_concat]
      exact h.interfaceName
    · rw [lastGiven_concat]
      rfl
    · rw [addressBytes_concat rfl, addressPort_concat rfl rfl]
      exact h.resolvedAddress

theorem built_buildCalls (calls : List Setter) : Built calls (buildCalls calls) := by
  induction calls using List.reverseRecOn with
  | nil => exact ⟨rfl, rfl, rfl, (Storage.setPort_zero _).symm⟩
  | append_singleton calls c ih =>
    rw [buildCalls_concat]
    exact ih.apply c

/-! ### What the resolver hands on -/

def lastFamily (calls : List Setter) : Nat :=
  (lastGiven Setter.address calls).elim Storage.afUnspec fun a => a.storage.ssFamily

def givenPort (net : Network) (calls : List Setter) : Nat :=
  match lastGiven Setter.service calls with
  | some service => (net.getServicePort service (lastFamily calls)).toNat
  | none => lastPort calls

def ServiceResolves (net : Network) (calls : List Setter) : Prop :=
  ∀ service, lastGiven Setter.service calls = some service →
    0 ≤ net.getServicePort service (lastFamily calls) ∧
      net.getServicePort service (lastFamily calls) < 65536

structure LastCallsDecide (net : Network) (calls : List Setter) : Prop where
  ports : ∀ ep ∈ net.localEndpointResolve (buildCalls calls),
    ep.port = givenPort net calls ∧ ep.resolvedAddress.getPort = givenPort net calls
  address : ∀ a, lastGiven Setter.address calls = some a →
    ∃ ep, net.localEndpointResolve (buildCalls calls) = [ep] ∧
      ep.resolvedAddress = a.storage.setPort (givenPort net calls)

structure InOrder (net : Network) (calls : List Setter) : Prop where
  service : ∀ service, lastGiven Setter.service calls = some service →
    net.getServicePort service (lastFamily calls) = lastPort calls
  port : lastPort calls = 0 ∨ portInAddress calls.reverse = true
  flow : ∀ a b, lastGiven Setter.ipv4 calls = some a →
    lastGiven Setter.address calls = some (.ipv6 b) → a = fun _ => 0

section Resolve

variable {net : Network} {calls : List Setter}

theorem lastPort_lt (calls : List Setter) : lastPort calls < 65536 := by
  unfold lastPort
  cases h : lastGiven Setter.port calls with
  | none => exact Nat.zero_lt_succ _
  | some p =>
    obtain ⟨c, _, hc⟩ := List.mem_filterMap.mp (List.mem_of_getLast? h)
    cases c with
    | withPort port =>
      cases hc
      exact port.isLt
    | withInterface name => cases hc
    | withService service => cases hc
    | withIpv4 a => cases hc
    | withIpv6 b => cases hc

theorem givenPort_lt (h : ServiceResolves net calls) : givenPort net calls < 65536 := by
  unfold givenPort
  cases hs : lastGiven Setter.service calls with
  | none => exact lastPort_lt calls
  | some service =>
    have hport := h service hs
    dsimp only
    omega

theorem Address.inet_storage (a : Address) : a.storage.Inet := by
  cases a with
  | ipv4 a => exact Storage.inet_withIpv4 a
  | ipv6 b => exact Storage.inet_withIpv6 _ b

theorem inet_addressBytes {a : Address} (h : lastGiven Setter.address calls = some a) :
    (addressBytes calls).Inet := by
  rw [addressBytes, h]
  cases a with
  | ipv4 a => exact Storage.inet_withIpv4 a
  | ipv6 b => exact Storage.inet_withIpv6 _ b

theorem ssFamily_buildCalls (calls : List Setter) :
    (buildCalls calls).resolvedAddress.ssFamily = lastFamily calls := by
  rw [(built_buildCalls calls).resolvedAddress, Storage.ssFamily_setPort, lastFamily, addressBytes]
  cases lastGiven Setter.address calls with
  | none => rfl
  | some a => cases a <;> rfl

theorem lastCallsDecide_of_none (hservice : ServiceResolves net calls)
    (h : lastGiven Setter.address calls = none) : LastCallsDecide net calls := by
  have hbuilt := built_buildCalls calls
  have hfamily : (buildCalls calls).resolvedAddress.ssFamily = Storage.afUnspec := by
    rw [ssFamily_buildCalls, lastFamily, h]
    rfl
  have hport : net.localPort (buildCalls calls) = givenPort net calls := by
    rw [Network.localPort, givenPort, hbuilt.service, ssFamily_buildCalls, hbuilt.port]
    cases hs : lastGiven Setter.service calls with
    | none => rfl
    | some service =>
      have := hservice service hs
      dsimp only
      rw [Int.emod_eq_of_lt this.1 this.2]
  refine ⟨fun ep hep => ?_, fun a ha => absurd (h.symm.trans ha) (by simp)⟩
  rw [Network.localEndpointResolve, if_neg (not_not.mpr hfamily), hport] at hep
  obtain ⟨address, haddress, rfl⟩ := List.mem_map.mp hep
  obtain ⟨found, _, hfound⟩ := List.mem_filterMap.mp (List.mem_of_mem_take haddress)
  exact ⟨rfl, Storage.getPort_setPort (Storage.inet_of_fromSockaddr hfound) (givenPort_lt hservice)⟩

theorem localEndpointResolve_of_some {a : Address} (h : lastGiven Setter.address calls = some a) :
    net.localEndpointResolve (buildCalls calls) = [buildCalls calls] := by
  refine if_pos ?_
  rw [ssFamily_buildCalls, lastFamily, h]
  cases a with
  | ipv4 a => exact (by decide : Storage.afInet ≠ Storage.afUnspec)
  | ipv6 b => exact (by decide : Storage.afInet6 ≠ Storage.afUnspec)

theorem givenPort_eq_lastPort_iff (hservice : ServiceResolves net calls) :
    givenPort net calls = lastPort calls ↔ ∀ service, lastGiven Setter.service calls = some service →
      net.getServicePort service (lastFamily calls) = lastPort calls := by
  unfold givenPort
  cases hs : lastGiven Setter.service calls with
  | none => exact iff_of_true rfl fun service h => absurd h (by simp)
  | some service =>
    have hport := hservice service hs
    dsimp only
    constructor
    · intro h other hother
      rw [← Option.some.inj hother]
      omega
    · intro h
      have := h service rfl
      omega

theorem addressPort_eq_lastPort_iff :
    addressPort calls = lastPort calls ↔ lastPort calls = 0 ∨ portInAddress calls.reverse = true := by
  unfold addressPort
  cases portInAddress calls.reverse with
  | false => exact eq_comm.trans (by simp)
  | true => exact iff_of_true rfl (Or.inr rfl)

theorem addressBytes_eq_iff {a : Address} (h : lastGiven Setter.address calls = some a)
    (port : Nat) : (addressBytes calls).setPort port = a.storage.setPort port ↔
      ∀ c b, lastGiven Setter.ipv4 calls = some c →
        lastGiven Setter.address calls = some (.ipv6 b) → c = fun _ => 0 := by
  rw [addressBytes, h]
  cases a with
  | ipv4 a => exact iff_of_true rfl fun c b _ hb => absurd hb (by simp)
  | ipv6 b =>
    cases hc : lastGiven Setter.ipv4 calls with
    | none => exact iff_of_true rfl fun c b hb => absurd hb (by simp)
    | some c =>
      refine (Storage.withIpv4_withIpv6_eq_iff c b port).trans ?_
      constructor
      · intro hzero d _ hd _
        rw [← Option.some.inj hd]
        exact hzero
      · intro hall
        exact hall c b rfl rfl

theorem lastCallsDecide_iff_of_some (hservice : ServiceResolves net calls) {a : Address}
    (h : lastGiven Setter.address calls = some a) : LastCallsDecide net calls ↔ InOrder net calls := by
  have hbuilt := built_buildCalls calls
  have hgetPort : ∀ port, port < 65536 → ((addressBytes calls).setPort port).getPort = port :=
    fun port => Storage.getPort_setPort (inet_addressBytes h)
  have haddressPort : addressPort calls < 65536 := by
    unfold addressPort
    split
    · exact lastPort_lt calls
    · exact Nat.zero_lt_succ _
  constructor
  · intro hdecide
    obtain ⟨hfield, hbytes⟩ := hdecide.ports (buildCalls calls)
      (by rw [localEndpointResolve_of_some h]; exact List.mem_singleton_self _)
    rw [hbuilt.port] at hfield
    rw [hbuilt.resolvedAddress, hgetPort _ haddressPort, ← hfield] at hbytes
    obtain ⟨ep, hep, haddress⟩ := hdecide.address a h
    rw [localEndpointResolve_of_some h] at hep
    rw [← List.singleton_inj.mp hep, hbuilt.resolvedAddress, hbytes, ← hfield] at haddress
    exact ⟨(givenPort_eq_lastPort_iff hservice).mp hfield.symm,
      addressPort_eq_lastPort_iff.mp hbytes, (addressBytes_eq_iff h _).mp haddress⟩
  · intro horder
    have hgiven := (givenPort_eq_lastPort_iff hservice).mpr horder.service
    have hbytes := addressPort_eq_lastPort_iff.mpr horder.port
    have haddress : (buildCalls calls).resolvedAddress = a.storage.setPort (givenPort net calls) := by
      rw [hbuilt.resolvedAddress, hbytes, hgiven]
      exact (addressBytes_eq_iff h _).mpr horder.flow
    refine ⟨fun ep hep => ?_, fun b hb => ⟨buildCalls calls, localEndpointResolve_of_some h, ?_⟩⟩
    · rw [localEndpointResolve_of_some h] at hep
      rw [List.mem_singleton.mp hep, haddress]
      exact ⟨hbuilt.port.trans hgiven.symm,
        Storage.getPort_setPort a.inet_storage (givenPort_lt hservice)⟩
    · rw [← Option.some.inj (h.symm.trans hb)]
      exact haddress

theorem buildCalls_of_inOrder
    (h : lastGiven Setter.address calls = none ∨ InOrder net calls) :
    buildCalls calls = ⟨lastPort calls, lastGiven Setter.interface calls,
      lastGiven Setter.service calls,
      ((lastGiven Setter.address calls).elim Storage.zero Address.storage).setPort (lastPort calls)⟩ := by
  have hbuilt := built_buildCalls calls
  have haddress : (buildCalls calls).resolvedAddress =
      ((lastGiven Setter.address calls).elim Storage.zero Address.storage).setPort (lastPort calls) := by
    rw [hbuilt.resolvedAddress]
    cases ha : lastGiven Setter.address calls with
    | none =>
      rw [addressBytes, ha]
      exact (Storage.setPort_zero _).trans (Storage.setPort_zero _).symm
    | some a =>
      have horder := h.resolve_left (by rw [ha]; exact Option.some_ne_none a)
      rw [addressPort_eq_lastPort_iff.mpr horder.port]
      exact (addressBytes_eq_iff ha _).mpr horder.flow
  rw [← haddress, ← hbuilt.port, ← hbuilt.interfaceName, ← hbuilt.service]

end Resolve

structure SameLast (calls others : List Setter) : Prop where
  port : lastPort calls = lastPort others
  interfaceName : lastGiven Setter.interface calls = lastGiven Setter.interface others
  service : lastGiven Setter.service calls = lastGiven Setter.service others
  address : lastGiven Setter.address calls = lastGiven Setter.address others

theorem builders_commute (net : Network) (calls : List Setter)
    (hservice : ServiceResolves net calls) :
    (LastCallsDecide net calls ↔ lastGiven Setter.address calls = none ∨ InOrder net calls) ∧
      ∀ others, SameLast calls others →
        (lastGiven Setter.address calls = none ∨ InOrder net calls) →
        (lastGiven Setter.address others = none ∨ InOrder net others) →
        net.localEndpointResolve (buildCalls calls) = net.localEndpointResolve (buildCalls others) := by
  constructor
  · cases h : lastGiven Setter.address calls with
    | none => exact iff_of_true (lastCallsDecide_of_none hservice h) (Or.inl rfl)
    | some a =>
      rw [lastCallsDecide_iff_of_some hservice h]
      exact (or_iff_right (Option.some_ne_none a)).symm
  · intro others hsame hcalls hothers
    rw [buildCalls_of_inOrder hcalls, buildCalls_of_inOrder hothers, hsame.port,
      hsame.interfaceName, hsame.service, hsame.address]

theorem builders_commute_address_then_port :
    LastCallsDecide ⟨[], fun _ _ => 80, fun _ => []⟩
      [.withIpv4 ![127, 0, 0, 1], .withService "http", .withPort 80] := by
  refine (builders_commute _ _ ?_).1.mpr (Or.inr ⟨?_, Or.inr rfl, ?_⟩)
  · exact fun _ _ => ⟨(by decide : (0 : Int) ≤ 80), (by decide : (80 : Int) < 65536)⟩
  · exact fun _ _ => rfl
  · intro a b _ hb
    have hlast : some (Address.ipv4 ![127, 0, 0, 1]) = some (Address.ipv6 b) := hb
    cases hlast

theorem port_lost_before_address :
    ∃ ep, Network.localEndpointResolve ⟨[], fun _ _ => 0, fun _ => []⟩
        (buildCalls [.withPort 8080, .withIpv4 ![127, 0, 0, 1]]) = [ep] ∧
      ep.port = 8080 ∧ ep.resolvedAddress.getPort = 0 ∧
      ¬ LastCallsDecide ⟨[], fun _ _ => 0, fun _ => []⟩ [.withPort 8080, .withIpv4 ![127, 0, 0, 1]] := by
  refine ⟨_, rfl, rfl, rfl, fun h => ?_⟩
  have hport := (h.ports _ (List.mem_singleton_self _)).2
  exact absurd hport (by decide)

end CTaps.Attempts
