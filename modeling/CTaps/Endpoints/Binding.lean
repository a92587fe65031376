import CTaps.Endpoints.Lists
import CTaps.Gathering.Completion

/-! The address that the socket of a connection is bound to. Pruning leaves only candidates whose
two addresses have one family, and the socket is made later: by one function for UDP, with a branch
of its own for a local port that is not set, by another for QUIC, and once more for each clone of a
UDP connection. -/

namespace CTaps.Endpoints

open Attempts (Storage LocalEndpoint RemoteEndpoint Connection Candidate Heap Preconnection Findable
  uniqueEndpoints activeIndex startConnectionAttempt)
open Gathering (Protocol getAddrScope sockAddr)

/-! ### Pruning, on the bytes of the addresses -/

def addressIsWildcard (s : Storage) : Bool :=
  if s.ssFamily = Storage.afInet then s.sameBytes .zero 4 8
  else if s.ssFamily = Storage.afInet6 then s.sameBytes .zero 8 24
  else false

def endpointsAreCompatible (c : Candidate) : Bool :=
  let localAddress := c.localEndpoint.resolvedAddress
  let remoteAddress := c.remoteEndpoint.resolvedAddress
  decide (localAddress.ssFamily = remoteAddress.ssFamily) &&
    (addressIsWildcard localAddress ||
      decide (getAddrScope (sockAddr localAddress) = getAddrScope (sockAddr remoteAddress)))

/-! ### Making the socket -/

/-- `ct_local_endpoint_get_resolved_port`, 0 for an endpoint that is NULL. -/
def getResolvedPort : Option LocalEndpoint → Nat
  | none => 0
  | some ep =>
    if ep.resolvedAddress.ssFamily = Storage.afInet6 then ep.resolvedAddress.getPort
    else if ep.resolvedAddress.ssFamily = Storage.afInet then ep.resolvedAddress.getPort
    else 0

def ephemeralAddr : Storage := .withIpv4 ![0, 0, 0, 0]

/-- The address that `create_udp_listening_on_local` passes to `uv_udp_bind`. -/
def createUdpListeningOnLocal (localEndpoint : Option LocalEndpoint) : Option Storage :=
  -- with no port to bind to neither the family nor the address is looked at
  if getResolvedPort localEndpoint = 0 then some ephemeralAddr
  else
    localEndpoint.bind fun ep =>
      if ep.resolvedAddress.ssFamily = Storage.afInet ∨ ep.resolvedAddress.ssFamily = Storage.afInet6 then
        some ep.resolvedAddress
      else none

def createUdpListeningOnEphemeral : Option Storage := createUdpListeningOnLocal none

/-- The address that `create_udp_poll_on_local` passes to `bind`, after writing the family of the
endpoint to it. -/
def createUdpPollOnLocal (localEndpoint : LocalEndpoint) : Storage :=
  localEndpoint.resolvedAddress.write 0 (Storage.hostBytes localEndpoint.resolvedAddress.ssFamily)

structure Live where
  protocolImpl : Protocol
  remote : Storage
  bound : Storage

/-- `udp_init_with_send` and `quic_init_with_send` up to the socket; a TCP socket is connected, not
bound by these functions. -/
def initWithSend (c : Connection) : Option Live :=
  c.remoteEndpoints[c.activeRemoteEndpoint]?.bind fun remote =>
    Option.map (⟨c.protocolImpl, remote.resolvedAddress, ·⟩)
      (match c.protocolImpl with
        | .udp => createUdpListeningOnLocal c.localEndpoints[c.activeLocalEndpoint]?
        | .quic => c.localEndpoints[c.activeLocalEndpoint]?.map createUdpPollOnLocal
        | .tcp => none)

/-- `clone_connection` of the protocol. The clone has the remote endpoints of its source; a QUIC
connection shares the socket with it. -/
def cloneConnection (l : Live) : Option Live :=
  match l.protocolImpl with
  | .udp => createUdpListeningOnEphemeral.map fun bound => { l with bound := bound }
  | _ => some l

def clones : Nat → Live → Option Live
  | 0, l => some l
  | n + 1, l => (clones n l).bind cloneConnection

/-! ### What is expected of the socket -/

def sameIp (a b : Storage) : Bool :=
  decide (a.ssFamily = b.ssFamily) &&
    if a.ssFamily = Storage.afInet then a.sameBytes b 4 8
    else if a.ssFamily = Storage.afInet6 then a.sameBytes b 8 24
    else false

structure Live.Matches (l : Live) (candidate : Candidate) : Prop where
  family : l.bound.ssFamily = l.remote.ssFamily
  ip : addressIsWildcard candidate.localEndpoint.resolvedAddress = false →
    sameIp l.bound candidate.localEndpoint.resolvedAddress = true

def Unlooked (protocolImpl : Protocol) (n : Nat) (localEndpoint : LocalEndpoint) : Prop :=
  protocolImpl = .udp ∧ (n ≠ 0 ∨ getResolvedPort (some localEndpoint) = 0)

def Binds (protocolImpl : Protocol) (n : Nat) (candidate : Candidate) (active : LocalEndpoint)
    (remote : RemoteEndpoint) : Prop :=
  Unlooked protocolImpl n active ∧ remote.resolvedAddress.ssFamily = Storage.afInet ∧
      addressIsWildcard candidate.localEndpoint.resolvedAddress = true ∨
    ¬Unlooked protocolImpl n active ∧
      active.resolvedAddress.ssFamily = remote.resolvedAddress.ssFamily ∧
      (addressIsWildcard candidate.localEndpoint.resolvedAddress = false →
        sameIp active.resolvedAddress candidate.localEndpoint.resolvedAddress = true)

section Bytes

variable {a b : Storage}

theorem write_hostBytes_ssFamily (s : Storage) : s.write 0 (Storage.hostBytes s.ssFamily) = s := by
  have hlow : BitVec.ofNat 8 s.ssFamily = s 0 := by
    apply BitVec.eq_of_toNat_eq
    rw [BitVec.toNat_ofNat, Storage.ssFamily]
    omega
  have hhigh : BitVec.ofNat 8 (s.ssFamily / 256) = s 1 := by
    apply BitVec.eq_of_toNat_eq
    rw [BitVec.toNat_ofNat, Storage.ssFamily]
    omega
  funext i
  unfold Storage.write
  split
  next h =>
    have hi : i = 0 ∨ i = 1 := by omega
    rcases hi with rfl | rfl
    · exact hlow
    · exact hhigh
  next => rfl

theorem ssFamily_ephemeralAddr : ephemeralAddr.ssFamily = Storage.afInet := by decide

theorem sameIp_ephemeralAddr (h : sameIp ephemeralAddr a = true) : addressIsWildcard a = true := by
  rw [sameIp, ssFamily_ephemeralAddr, if_pos rfl, Bool.and_eq_true, decide_eq_true_eq] at h
  rw [addressIsWildcard, if_pos h.1.symm]
  have hzero : ephemeralAddr.sameBytes .zero 4 8 = true := by decide
  exact Storage.sameBytes_trans (Storage.sameBytes_symm h.2) hzero

theorem sameBytes_of_equal {lo hi : Nat} (h : a.equal b = true) (hhi : hi ≤ a.sockaddrLength) :
    a.sameBytes b lo hi = true :=
  Storage.sameBytes_iff.mpr fun i _ hi => (Storage.equal_iff.mp h).2 i (Nat.lt_of_lt_of_le hi hhi)

theorem sameIp_of_equal (h : a.equal b = true) (ha : a.Inet) : sameIp a b = true := by
  rw [sameIp, decide_eq_true (Storage.equal_iff.mp h).1, Bool.true_and]
  rcases ha with hinet | hinet6
  · rw [if_pos hinet]
    exact sameBytes_of_equal h (by rw [Storage.sockaddrLength, if_pos hinet]; decide)
  · have hnot : a.ssFamily ≠ Storage.afInet := hinet6 ▸ Storage.afInet_ne_afInet6.symm
    rw [if_neg hnot, if_pos hinet6]
    exact sameBytes_of_equal h (by rw [Storage.sockaddrLength, if_neg hnot, if_pos hinet6]; decide)

theorem getPort_of_equal (h : a.equal b = true) : a.getPort = b.getPort := by
  have hlength : 4 ≤ a.sockaddrLength := by
    rw [Storage.sockaddrLength]
    split_ifs <;> decide
  have hbyte := (Storage.equal_iff.mp h).2
  rw [Storage.getPort, Storage.getPort, hbyte 2 (Nat.lt_of_lt_of_le (by decide) hlength),
    hbyte 3 (Nat.lt_of_lt_of_le (by decide) hlength)]

theorem getResolvedPort_of_equal {e e' : LocalEndpoint}
    (h : e.resolvedAddress.equal e'.resolvedAddress = true) :
    getResolvedPort (some e) = getResolvedPort (some e') := by
  simp only [getResolvedPort, (Storage.equal_iff.mp h).1, getPort_of_equal h]

end Bytes

section Sockets

variable {c : Connection} {l l₀ : Live} {n : Nat} {active : LocalEndpoint} {remote : RemoteEndpoint}

theorem createUdpListeningOnLocal_of_port (h : getResolvedPort (some active) ≠ 0) :
    createUdpListeningOnLocal (some active) = some active.resolvedAddress := by
  rw [createUdpListeningOnLocal, if_neg h]
  apply if_pos
  by_contra hfamily
  rw [not_or] at hfamily
  exact h ((if_neg hfamily.2).trans (if_neg hfamily.1))

theorem cloneConnection_of_udp (h : l.protocolImpl = .udp) :
    cloneConnection l = some { l with bound := ephemeralAddr } := by
  unfold cloneConnection
  split
  next => rfl
  next hne => exact absurd h hne

theorem cloneConnection_of_ne (h : l.protocolImpl ≠ .udp) : cloneConnection l = some l := by
  unfold cloneConnection
  split
  next hudp => exact absurd hudp h
  next => rfl

theorem clones_eq (h : clones n l₀ = some l) :
    l = if l₀.protocolImpl = .udp ∧ n ≠ 0 then { l₀ with bound := ephemeralAddr } else l₀ := by
  induction n generalizing l with
  | zero =>
    rw [if_neg fun h => h.2 rfl]
    exact (Option.some.inj h).symm
  | succ n ih =>
    rw [clones, Option.bind_eq_some_iff] at h
    obtain ⟨source, hsource, hclone⟩ := h
    have hih := ih hsource
    by_cases hudp : l₀.protocolImpl = .udp
    · have hprotocol : source.protocolImpl = .udp := by
        rw [hih]
        split
        · exact hudp
        · exact hudp
      rw [cloneConnection_of_udp hprotocol] at hclone
      rw [if_pos ⟨hudp, Nat.succ_ne_zero n⟩, ← Option.some.inj hclone, hih]
      split
      · rfl
      · rfl
    · rw [if_neg fun h => hudp h.1] at hih ⊢
      rw [hih, cloneConnection_of_ne hudp] at hclone
      exact (Option.some.inj hclone).symm

theorem live_eq (hactive : c.localEndpoints[c.activeLocalEndpoint]? = some active)
    (hremote : c.remoteEndpoints[c.activeRemoteEndpoint]? = some remote)
    (hinit : initWithSend c = some l₀) (hclones : clones n l₀ = some l) :
    l.remote = remote.resolvedAddress ∧
      (Unlooked c.protocolImpl n active → l.bound = ephemeralAddr) ∧
      (¬Unlooked c.protocolImpl n active → l.bound = active.resolvedAddress) := by
  rw [initWithSend, hactive, hremote, Option.bind_some] at hinit
  have hclone := clones_eq hclones
  cases hp : c.protocolImpl with
  | udp =>
    rw [hp] at hinit
    by_cases hport : getResolvedPort (some active) = 0
    · have hbound : createUdpListeningOnLocal (some active) = some ephemeralAddr := if_pos hport
      rw [hbound] at hinit
      rw [← Option.some.inj hinit] at hclone
      have hl : l = ⟨.udp, remote.resolvedAddress, ephemeralAddr⟩ := by
        rw [hclone]
        split
        · rfl
        · rfl
      rw [hl]
      exact ⟨rfl, fun _ => rfl, fun h => absurd ⟨rfl, Or.inr hport⟩ h⟩
    · rw [createUdpListeningOnLocal_of_port hport] at hinit
      rw [← Option.some.inj hinit] at hclone
      by_cases hn : n = 0
      · rw [if_neg fun h => h.2 hn] at hclone
        rw [hclone]
        refine ⟨rfl, fun h => ?_, fun _ => rfl⟩
        exact absurd h.2 (not_or.mpr ⟨not_not.mpr hn, hport⟩)
      · rw [if_pos ⟨rfl, hn⟩] at hclone
        rw [hclone]
        exact ⟨rfl, fun _ => rfl, fun h => absurd ⟨rfl, Or.inl hn⟩ h⟩
  | quic =>
    rw [hp] at hinit
    rw [← Option.some.inj hinit, if_neg fun h => Protocol.noConfusion h.1] at hclone
    rw [hclone]
    refine ⟨rfl, fun h => Protocol.noConfusion h.1, fun _ => ?_⟩
    exact write_hostBytes_ssFamily active.resolvedAddress
  | tcp =>
    rw [hp] at hinit
    exact absurd hinit.symm (Option.some_ne_none l₀)

theorem matches_iff (hactive : c.localEndpoints[c.activeLocalEndpoint]? = some active)
    (hremote : c.remoteEndpoints[c.activeRemoteEndpoint]? = some remote)
    (hinit : initWithSend c = some l₀) (hclones : clones n l₀ = some l) (candidate : Candidate) :
    l.Matches candidate ↔ Binds c.protocolImpl n candidate active remote := by
  obtain ⟨hto, hunlooked, hlooked⟩ := live_eq hactive hremote hinit hclones
  by_cases h : Unlooked c.protocolImpl n active
  · rw [Binds, and_iff_right h, or_iff_left fun h' => h'.1 h]
    constructor
    · rintro ⟨hfamily, hip⟩
      rw [hunlooked h, hto] at hfamily
      refine ⟨hfamily.symm.trans ssFamily_ephemeralAddr, ?_⟩
      by_contra hwild
      rw [Bool.not_eq_true] at hwild
      have hsame := hip hwild
      rw [hunlooked h] at hsame
      exact Bool.false_ne_true (hwild.symm.trans (sameIp_ephemeralAddr hsame))
    · rintro ⟨hfamily, hwild⟩
      refine ⟨?_, fun hnot => absurd (hnot.symm.trans hwild) Bool.false_ne_true⟩
      rw [hunlooked h, hto, hfamily, ssFamily_ephemeralAddr]
  · rw [Binds, or_iff_right fun h' => h h'.1, and_iff_right h, ← hlooked h, ← hto]
    exact ⟨fun hm => ⟨hm.family, hm.ip⟩, fun hm => ⟨hm.1, hm.2⟩⟩

end Sockets

/-! ### The socket of an attempt -/

theorem inet_of_startConnectionAttempt {h h' : Heap} {precon : Preconnection}
    {candidates : List Candidate} {c : Candidate} {connection : Connection} {remote : RemoteEndpoint}
    (hstart : startConnectionAttempt h precon candidates c = some (h', connection))
    (hremote : connection.remoteEndpoints[connection.activeRemoteEndpoint]? = some remote) :
    remote.resolvedAddress.Inet := by
  obtain ⟨_, _, hlist, hindex⟩ := Attempts.endpoints_of_startConnectionAttempt hstart
  rw [hindex, hlist] at hremote
  by_contra hinet
  have hfamily : remote.resolvedAddress.ssFamily ≠ Storage.afInet6 ∧
      remote.resolvedAddress.ssFamily ≠ Storage.afInet :=
    ⟨fun h6 => hinet (Or.inr h6), fun h4 => hinet (Or.inl h4)⟩
  simp only [startConnectionAttempt, Attempts.connectionCreateClient, hremote, if_pos hfamily] at hstart
  exact Option.some_ne_none _ hstart.symm

/-- The socket of a candidate that was not pruned, and of every clone, is as expected exactly when
the active endpoints say so; where the attempt has found its endpoints, exactly when the local one
was looked at, or everything is IPv4 and the local address a wildcard. -/
theorem socket_matches_iff {h h' : Heap} {precon : Preconnection} {candidates : List Candidate}
    {candidate : Candidate} {c : Connection} (hmem : candidate ∈ candidates)
    (hcompatible : endpointsAreCompatible candidate = true)
    (hstart : startConnectionAttempt h precon candidates candidate = some (h', c)) {l₀ l : Live}
    {n : Nat} (hinit : initWithSend c = some l₀) (hclones : clones n l₀ = some l) :
    (∃ active remote, c.localEndpoints[c.activeLocalEndpoint]? = some active ∧
      c.remoteEndpoints[c.activeRemoteEndpoint]? = some remote ∧
      (l.Matches candidate ↔ Binds c.protocolImpl n candidate active remote)) ∧
    (Findable (·.resolvedAddress) (candidates.map (·.localEndpoint))
        candidate.localEndpoint.resolvedAddress →
      Findable (·.resolvedAddress) (candidates.map (·.remoteEndpoint))
        candidate.remoteEndpoint.resolvedAddress →
      (l.Matches candidate ↔ ¬Unlooked c.protocolImpl n candidate.localEndpoint ∨
        candidate.remoteEndpoint.resolvedAddress.ssFamily = Storage.afInet ∧
          addressIsWildcard candidate.localEndpoint.resolvedAddress = true)) := by
  obtain ⟨hlocals, hactiveLocal, hremotes, hactiveRemote⟩ :=
    Attempts.endpoints_of_startConnectionAttempt hstart
  obtain ⟨active, hactive, hfound⟩ := Attempts.search_uniqueEndpoints
    (fun e : LocalEndpoint => e.resolvedAddress)
    (List.mem_map_of_mem hmem : candidate.localEndpoint ∈ candidates.map (·.localEndpoint))
  obtain ⟨remote, hremote, hfoundRemote⟩ := Attempts.search_uniqueEndpoints
    (fun e : RemoteEndpoint => e.resolvedAddress)
    (List.mem_map_of_mem hmem : candidate.remoteEndpoint ∈ candidates.map (·.remoteEndpoint))
  rw [← hlocals, ← hactiveLocal] at hactive
  rw [← hremotes, ← hactiveRemote] at hremote
  have hmatches := matches_iff hactive hremote hinit hclones candidate
  refine ⟨⟨active, remote, hactive, hremote, hmatches⟩, fun hlocal hto => ?_⟩
  have hequal := hfound.mpr hlocal
  have hequalRemote := hfoundRemote.mpr hto
  have hfamilyLocal := (Storage.equal_iff.mp hequal).1
  have hfamilyRemote := (Storage.equal_iff.mp hequalRemote).1
  have hfamilies : candidate.localEndpoint.resolvedAddress.ssFamily =
      candidate.remoteEndpoint.resolvedAddress.ssFamily := by
    rw [endpointsAreCompatible, Bool.and_eq_true, decide_eq_true_eq] at hcompatible
    exact hcompatible.1
  have hunlooked : Unlooked c.protocolImpl n active ↔
      Unlooked c.protocolImpl n candidate.localEndpoint := by
    rw [Unlooked, Unlooked, getResolvedPort_of_equal hequal]
  rw [hmatches, Binds, hunlooked, hfamilyRemote]
  by_cases hu : Unlooked c.protocolImpl n candidate.localEndpoint
  · rw [and_iff_right hu, or_iff_left fun h => h.1 hu, or_iff_right fun h => h hu]
  · refine iff_of_true (Or.inr ⟨hu, hfamilyLocal.trans hfamilies, fun _ => ?_⟩) (Or.inl hu)
    apply sameIp_of_equal hequal
    rw [Storage.Inet, hfamilyLocal, hfamilies, ← hfamilyRemote]
    exact inet_of_startConnectionAttempt hstart hremote

def udpCandidate (localCalls : List Attempts.LocalCall) (address : Attempts.RemoteCall) : Candidate :=
  { Attempts.candidateOf localCalls [address, .withPort 4433] with protocolCandidate := ⟨.udp, none⟩ }

def ipv4Candidate : Candidate :=
  udpCandidate [.withIpv4 ![10, 0, 0, 1], .withPort 5000] (.withIpv4 ![10, 0, 0, 2])

def ipv6Candidate : Candidate :=
  udpCandidate [.withIpv6 ![0, 0, 0, 0, 0, 0, 0, 0, 0, 0, 0, 0, 0, 0, 0, 1]]
    (.withIpv6 ![0, 0, 0, 0, 0, 0, 0, 0, 0, 0, 0, 0, 0, 0, 0, 1])

def liveAlone (candidate : Candidate) : Option Live :=
  (startConnectionAttempt Heap.empty Attempts.preconnectionNew [candidate] candidate).bind
    fun started => initWithSend started.2

theorem exists_of_liveAlone {candidate : Candidate} {l : Live} (h : liveAlone candidate = some l) :
    ∃ h' c, startConnectionAttempt Heap.empty Attempts.preconnectionNew [candidate] candidate
      = some (h', c) ∧ initWithSend c = some l := by
  obtain ⟨⟨h', c⟩, hstart, hinit⟩ := Option.bind_eq_some_iff.mp h
  exact ⟨h', c, hstart, hinit⟩

theorem socket_matches_with_port : ∃ l, liveAlone ipv4Candidate = some l ∧ l.Matches ipv4Candidate := by
  obtain ⟨l, hl⟩ := Option.isSome_iff_exists.mp
    (show (liveAlone ipv4Candidate).isSome = true by decide +kernel)
  obtain ⟨h', c, hstart, hinit⟩ := exists_of_liveAlone hl
  refine ⟨l, hl, ?_⟩
  refine ((socket_matches_iff (n := 0) List.mem_cons_self ?_ hstart hinit rfl).2 ?_ ?_).mpr (Or.inl ?_)
  · decide +kernel
  · exact Or.inr ⟨_, rfl, Storage.classes_equal.refl _⟩
  · exact Or.inr ⟨_, rfl, Storage.classes_equal.refl _⟩
  · rintro ⟨_, hclone | hport⟩
    · exact hclone rfl
    · exact absurd hport (by decide +kernel)

/-- From ::1 to ::1, with no local port, the socket is bound to 0.0.0.0. -/
theorem ipv6_socket_bound_to_ipv4 :
    endpointsAreCompatible ipv6Candidate = true ∧
      ∃ l, liveAlone ipv6Candidate = some l ∧ ¬l.Matches ipv6Candidate := by
  obtain ⟨l, hl⟩ := Option.isSome_iff_exists.mp
    (show (liveAlone ipv6Candidate).isSome = true by decide +kernel)
  have hfamily : (liveAlone ipv6Candidate).map
      (fun l => decide (l.bound.ssFamily = l.remote.ssFamily)) = some false := by decide +kernel
  rw [hl, Option.map_some, Option.some.injEq] at hfamily
  exact ⟨by decide +kernel, l, hl, fun hmatches => of_decide_eq_false hfamily hmatches.family⟩

end CTaps.Endpoints
