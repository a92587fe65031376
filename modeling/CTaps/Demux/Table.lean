import CTaps.Attempts.Start

/-! The demux table of a UDP socket. A connection is entered under the raw bytes of the address of
its active remote endpoint, and a datagram is looked up under the raw bytes of its source, as many
as the address family has. `ct_sockaddr_equal` looks at fewer of these bytes. -/

namespace CTaps.Attempts.Storage

def sameBytes (a b : Storage) (lo hi : Nat) : Bool :=
  decide (∀ i : Fin 128, lo ≤ i.val → i.val < hi → a i = b i)

/-- `ct_sockaddr_equal`: the family, the port and the address, and the scope of an IPv6 address. -/
def ctSockaddrEqual (a b : Storage) : Bool :=
  if a.ssFamily ≠ b.ssFamily then false
  else if a.ssFamily = afInet then a.sameBytes b 2 4 && a.sameBytes b 4 8
  else if a.ssFamily = afInet6 then
    a.sameBytes b 2 4 && a.sameBytes b 24 28 && a.sameBytes b 8 24
  else false

/-- The padding of an IPv4 address and the flow information of an IPv6 address are zero. -/
def Bare (s : Storage) : Prop :=
  (s.ssFamily = afInet → s.sameBytes zero 8 16 = true) ∧
    (s.ssFamily = afInet6 → s.sameBytes zero 4 8 = true)
deriving Decidable

variable {a b s : Storage}

theorem sameBytes_iff {lo hi : Nat} :
    a.sameBytes b lo hi = true ↔ ∀ i : Fin 128, lo ≤ i.val → i.val < hi → a i = b i :=
  decide_eq_true_iff

theorem family_bytes (h : a.ssFamily = b.ssFamily) : ∀ i : Fin 128, i.val < 2 → a i = b i := by
  unfold ssFamily at h
  have h0 := (a 0).isLt
  have h1 := (b 0).isLt
  intro i hi
  obtain rfl | rfl : i = 0 ∨ i = 1 := by omega
  · exact BitVec.eq_of_toNat_eq (by omega)
  · exact BitVec.eq_of_toNat_eq (by omega)

theorem afInet_ne_afInet6 : afInet ≠ afInet6 := by decide

theorem equal_of_ctSockaddrEqual (h : a.ctSockaddrEqual b = true) (ha : a.Bare) (hb : b.Bare) :
    a.equal b = true := by
  unfold ctSockaddrEqual at h
  split at h
  · cases h
  next hfamily =>
  have hfamily : a.ssFamily = b.ssFamily := not_not.mp hfamily
  have hfront := family_bytes hfamily
  refine equal_iff.mpr ⟨hfamily, fun i hi => ?_⟩
  unfold sockaddrLength at hi
  split at h
  · next hinet =>
    rw [if_pos hinet] at hi
    have hza := sameBytes_iff.mp (ha.1 hinet)
    have hzb := sameBytes_iff.mp (hb.1 (hfamily ▸ hinet))
    simp only [Bool.and_eq_true, sameBytes_iff] at h
    unfold sizeofSockaddrIn at hi
    by_cases h2 : i.val < 2
    · exact hfront i h2
    by_cases h4 : i.val < 4
    · exact h.1 i (Nat.le_of_not_lt h2) h4
    by_cases h8 : i.val < 8
    · exact h.2 i (Nat.le_of_not_lt h4) h8
    · rw [hza i (Nat.le_of_not_lt h8) hi, hzb i (Nat.le_of_not_lt h8) hi]
  · next hinet =>
    split at h
    · next hinet6 =>
      rw [if_neg hinet, if_pos hinet6] at hi
      have hza := sameBytes_iff.mp (ha.2 hinet6)
      have hzb := sameBytes_iff.mp (hb.2 (hfamily ▸ hinet6))
      simp only [Bool.and_eq_true, sameBytes_iff] at h
      unfold sizeofSockaddrIn6 at hi
      by_cases h2 : i.val < 2
      · exact hfront i h2
      by_cases h4 : i.val < 4
      · exact h.1.1 i (Nat.le_of_not_lt h2) h4
      by_cases h8 : i.val < 8
      · rw [hza i (Nat.le_of_not_lt h4) h8, hzb i (Nat.le_of_not_lt h4) h8]
      by_cases h24 : i.val < 24
      · exact h.2 i (Nat.le_of_not_lt h8) h24
      · exact h.1.2 i (Nat.le_of_not_lt h24) hi
    · cases h

/-! The same address with zeros where `ct_sockaddr_equal` does not look. -/

def stripped (s : Storage) : Storage :=
  if s.ssFamily = afInet then s.write 8 (fun _ : Fin 8 => 0) else s.write 4 (fun _ : Fin 4 => 0)

theorem write_zero (s : Storage) (offset n : Nat) (i : Fin 128) :
    s.write offset (fun _ : Fin n => 0) i =
      if offset ≤ i.val ∧ i.val - offset < n then 0 else s i := by
  unfold write
  split <;> rfl

theorem ssFamily_stripped (s : Storage) : s.stripped.ssFamily = s.ssFamily := by
  unfold stripped
  split
  · exact ssFamily_congr rfl rfl
  · exact ssFamily_congr rfl rfl

theorem bare_stripped (s : Storage) : s.stripped.Bare := by
  constructor
  · intro hinet
    rw [ssFamily_stripped] at hinet
    refine sameBytes_iff.mpr fun i hlo hhi => ?_
    rw [stripped, if_pos hinet, write_zero, if_pos (by omega)]
    rfl
  · intro hinet6
    rw [ssFamily_stripped] at hinet6
    have hinet : s.ssFamily ≠ afInet := fun h => afInet_ne_afInet6 (h.symm.trans hinet6)
    refine sameBytes_iff.mpr fun i hlo hhi => ?_
    rw [stripped, if_neg hinet, write_zero, if_pos (by omega)]
    rfl

theorem ctSockaddrEqual_stripped (hs : s.Inet) : s.stripped.ctSockaddrEqual s = true := by
  unfold ctSockaddrEqual
  rw [ssFamily_stripped, if_neg (not_not.mpr rfl)]
  rcases hs with hinet | hinet6
  · rw [if_pos hinet, Bool.and_eq_true, sameBytes_iff, sameBytes_iff, stripped, if_pos hinet]
    refine ⟨fun i _ hi => ?_, fun i _ hi => ?_⟩
    · rw [write_zero, if_neg (by omega)]
    · rw [write_zero, if_neg (by omega)]
  · have hinet : s.ssFamily ≠ afInet := fun h => afInet_ne_afInet6 (h.symm.trans hinet6)
    rw [if_neg hinet, if_pos hinet6, Bool.and_eq_true, Bool.and_eq_true, sameBytes_iff,
      sameBytes_iff, sameBytes_iff, stripped, if_neg hinet]
    refine ⟨⟨fun i hlo hi => ?_, fun i hlo hi => ?_⟩, fun i hlo hi => ?_⟩
    · rw [write_zero, if_neg (by omega)]
    · rw [write_zero, if_neg (by omega)]
    · rw [write_zero, if_neg (by omega)]

theorem bare_of_equal (ha : a.Bare) (h : a.equal b = true) : b.Bare := by
  obtain ⟨hfamily, hbytes⟩ := equal_iff.mp h
  constructor
  · intro hinet
    have hinet : a.ssFamily = afInet := hfamily.trans hinet
    refine sameBytes_iff.mpr fun i hlo hhi => ?_
    rw [← hbytes i (by simpa [sockaddrLength, hinet, sizeofSockaddrIn] using hhi)]
    exact sameBytes_iff.mp (ha.1 hinet) i hlo hhi
  · intro hinet6
    have hinet6 : a.ssFamily = afInet6 := hfamily.trans hinet6
    have hlength : a.sockaddrLength = sizeofSockaddrIn6 := by
      rw [sockaddrLength, hinet6, if_neg afInet_ne_afInet6.symm, if_pos rfl]
    refine sameBytes_iff.mpr fun i hlo hhi => ?_
    rw [← hbytes i (by rw [hlength]; unfold sizeofSockaddrIn6; omega)]
    exact sameBytes_iff.mp (ha.2 hinet6) i hlo hhi

theorem equal_of_bare_iff (hs : s.Inet) :
    (∀ source : Storage, source.ctSockaddrEqual s = true → source.Bare → source.equal s = true) ↔
      s.Bare := by
  constructor
  · intro h
    exact bare_of_equal (bare_stripped s) (h _ (ctSockaddrEqual_stripped hs) (bare_stripped s))
  · exact fun hb source heq hsource => equal_of_ctSockaddrEqual heq hsource hb

end CTaps.Attempts.Storage

namespace CTaps.Demux

open Attempts (Storage RemoteEndpoint LocalEndpoint RemoteCall Network Heap Preconnection Connection
  connectionCreateClient buildRemote einval)
open Gathering (Protocol)

abbrev Key := List (BitVec 8)

/-- `g_bytes_new` of the first `n` bytes. -/
def bytesNew (s : Storage) (n : Nat) : Key :=
  ((List.finRange 128).filter fun i => decide (i.val < n)).map s

def keyOf (s : Storage) : Option Key :=
  if s.ssFamily = Storage.afInet then some (bytesNew s Storage.sizeofSockaddrIn)
  else if s.ssFamily = Storage.afInet6 then some (bytesNew s Storage.sizeofSockaddrIn6)
  else none

def eexist : Int := -17

variable {C : Type}

/-- `socket_manager_get_from_demux_table`. -/
def getFromDemuxTable (table : List (Key × C)) (remoteAddr : Storage) : Option C :=
  match keyOf remoteAddr with
  | some key => table.lookup key
  | none => none

/-- `socket_manager_insert_demuxed_connection`. -/
def insertDemuxedConnection (table : List (Key × C)) (remote : RemoteEndpoint) (connection : C) :
    Except Int (List (Key × C)) :=
  match keyOf remote.resolvedAddress with
  | some key => if (table.lookup key).isSome then .error eexist else .ok ((key, connection) :: table)
  | none => .error einval

theorem bytesNew_eq_iff {a b : Storage} {n : Nat} :
    bytesNew a n = bytesNew b n ↔ ∀ i : Fin 128, i.val < n → a i = b i := by
  simp [bytesNew]

theorem bytesNew_length_ne (a b : Storage) :
    bytesNew a Storage.sizeofSockaddrIn ≠ bytesNew b Storage.sizeofSockaddrIn6 := by
  intro h
  have hlength := congrArg List.length h
  simp only [bytesNew, List.length_map] at hlength
  exact absurd hlength (by decide)

theorem keyOf_inet {s : Storage} (hs : s.ssFamily = Storage.afInet) :
    keyOf s = some (bytesNew s Storage.sizeofSockaddrIn) :=
  if_pos hs

theorem keyOf_inet6 {s : Storage} (hs : s.ssFamily = Storage.afInet6) :
    keyOf s = some (bytesNew s Storage.sizeofSockaddrIn6) := by
  rw [keyOf, if_neg (hs ▸ Storage.afInet_ne_afInet6.symm), if_pos hs]

theorem keyOf_eq_iff {a b : Storage} (hb : b.Inet) : keyOf a = keyOf b ↔ a.equal b = true := by
  have hne := Storage.afInet_ne_afInet6
  rw [Storage.equal_iff]
  by_cases hfamily : a.ssFamily = b.ssFamily
  · rcases hb with hinet | hinet6
    · simp [keyOf, Storage.sockaddrLength, hfamily, hinet, bytesNew_eq_iff]
    · simp [keyOf, Storage.sockaddrLength, hfamily, hinet6, hne.symm, bytesNew_eq_iff]
  · have hkey : keyOf a ≠ keyOf b := by
      rcases hb with hinet | hinet6
      · have hnot : a.ssFamily ≠ Storage.afInet := fun h => hfamily (h.trans hinet.symm)
        rw [keyOf_inet hinet, keyOf, if_neg hnot]
        split
        · exact fun h => bytesNew_length_ne b a (Option.some.inj h).symm
        · exact (Option.some_ne_none _).symm
      · have hnot : a.ssFamily ≠ Storage.afInet6 := fun h => hfamily (h.trans hinet6.symm)
        rw [keyOf_inet6 hinet6, keyOf, if_neg hnot]
        split
        · exact fun h => bytesNew_length_ne a b (Option.some.inj h)
        · exact (Option.some_ne_none _).symm
    exact iff_of_false hkey fun h => hfamily h.1

theorem exists_keyOf {s : Storage} (hs : s.Inet) : ∃ key, keyOf s = some key := by
  rcases hs with hinet | hinet6
  · exact ⟨_, keyOf_inet hinet⟩
  · exact ⟨_, keyOf_inet6 hinet6⟩

/-! ### Builders

Which calls leave an address bare. The IPv4 address and the flow information of an IPv6 address are
the same four bytes, and `ct_remote_endpoint_with_ipv6` does not write them. -/

def ClearsFlow : List RemoteCall → Prop
  | [] => True
  | .withIpv4 addr :: _ => ∀ i, addr i = 0
  | .fromSockaddr addr :: earlier =>
    if addr.Inet then addr.sameBytes .zero 4 8 = true else ClearsFlow earlier
  | .withIpv6 _ :: earlier | .withHostname _ :: earlier | .withService _ :: earlier
  | .withPort _ :: earlier => ClearsFlow earlier

/-- The calls, latest first, leave the address bare: the last one that gives an address gives a bare
one, or an IPv6 address where the calls before it have left no flow information. -/
def LeavesBare : List RemoteCall → Prop
  | [] => True
  | .withIpv4 _ :: _ => True
  | .withIpv6 _ :: earlier => ClearsFlow earlier
  | .fromSockaddr addr :: earlier => if addr.Inet then addr.Bare else LeavesBare earlier
  | .withHostname _ :: earlier | .withService _ :: earlier | .withPort _ :: earlier =>
    LeavesBare earlier

theorem sameBytes_zero_congr {s t : Storage} {lo hi : Nat}
    (h : ∀ i : Fin 128, lo ≤ i.val → i.val < hi → s i = t i) :
    s.sameBytes .zero lo hi = t.sameBytes .zero lo hi := by
  rw [Bool.eq_iff_iff, Storage.sameBytes_iff, Storage.sameBytes_iff]
  exact forall_congr' fun i => forall_congr' fun hlo => forall_congr' fun hhi => by rw [h i hlo hhi]

theorem sameBytes_setPort (s : Storage) (port : Nat) {lo hi : Nat} (hlo : 4 ≤ lo) :
    (s.setPort port).sameBytes .zero lo hi = s.sameBytes .zero lo hi := by
  refine sameBytes_zero_congr fun i hi _ => ?_
  unfold Storage.setPort
  split
  · exact dif_neg (by omega)
  · rfl

theorem bare_setPort (s : Storage) (port : Nat) : (s.setPort port).Bare ↔ s.Bare := by
  unfold Storage.Bare
  rw [Storage.ssFamily_setPort, sameBytes_setPort s port (by decide),
    sameBytes_setPort s port (by decide)]

theorem sameBytes_copyFront_iff (s addr : Storage) {n lo hi : Nat} (h : hi ≤ n) :
    (s.copyFront addr n).sameBytes .zero lo hi = addr.sameBytes .zero lo hi :=
  sameBytes_zero_congr fun _ _ hhi => if_pos (Nat.lt_of_lt_of_le hhi h)

theorem bare_copyFront (s addr : Storage) {n : Nat} (h : 16 ≤ n) :
    (s.copyFront addr n).Bare ↔ addr.Bare := by
  have hfamily : (s.copyFront addr n).ssFamily = addr.ssFamily :=
    Storage.ssFamily_congr (if_pos (Nat.lt_of_lt_of_le (by decide) h))
      (if_pos (Nat.lt_of_lt_of_le (by decide) h))
  unfold Storage.Bare
  rw [hfamily, sameBytes_copyFront_iff s addr h, sameBytes_copyFront_iff s addr (by omega)]

theorem fromSockaddr_inet (s : Storage) {addr : Storage} (h : addr.Inet) :
    ∃ s', s.fromSockaddr addr = some s' ∧ s'.sameBytes .zero 4 8 = addr.sameBytes .zero 4 8 ∧
      (s'.Bare ↔ addr.Bare) := by
  unfold Storage.fromSockaddr
  rcases h with hinet | hinet6
  · rw [if_pos hinet]
    exact ⟨_, rfl, sameBytes_copyFront_iff s addr (by decide), bare_copyFront s addr (by decide)⟩
  · rw [if_neg (hinet6 ▸ Storage.afInet_ne_afInet6.symm), if_pos hinet6]
    exact ⟨_, rfl, sameBytes_copyFront_iff s addr (by decide), bare_copyFront s addr (by decide)⟩

theorem fromSockaddr_not_inet (s : Storage) {addr : Storage} (h : ¬ addr.Inet) :
    s.fromSockaddr addr = none := by
  obtain ⟨hinet, hinet6⟩ := not_or.mp h
  rw [Storage.fromSockaddr, if_neg hinet, if_neg hinet6]

theorem bare_withIpv4 (a : Fin 4 → BitVec 8) :
    ((Storage.withIpv4 a).sameBytes .zero 4 8 = true ↔ ∀ i, a i = 0) ∧ (Storage.withIpv4 a).Bare := by
  constructor
  · rw [Storage.sameBytes_iff]
    constructor
    · intro h i
      have hi := h ⟨4 + i.val, by omega⟩ (Nat.le_add_right 4 i.val) (by dsimp only; omega)
      simpa [Storage.withIpv4, Storage.write, Storage.zero] using hi
    · intro h i hlo hhi
      rw [Storage.withIpv4, Storage.write, dif_pos ⟨hlo, by omega⟩, h]
      rfl
  · refine ⟨fun _ => Storage.sameBytes_iff.mpr fun i hlo hhi => ?_, fun hinet6 => ?_⟩
    · have hout : ¬ (4 ≤ i.val ∧ i.val - 4 < 4) := by omega
      have hout' : ¬ i.val < 2 := by omega
      simp [Storage.withIpv4, Storage.write, Storage.zero, hout, hout']
    · exact absurd hinet6 Storage.afInet_ne_afInet6

theorem bare_withIpv6 (s : Storage) (a : Fin 16 → BitVec 8) :
    ((s.withIpv6 a).sameBytes .zero 4 8 = s.sameBytes .zero 4 8) ∧
      ((s.withIpv6 a).Bare ↔ s.sameBytes .zero 4 8 = true) := by
  have hkeeps : (s.withIpv6 a).sameBytes .zero 4 8 = s.sameBytes .zero 4 8 := by
    refine sameBytes_zero_congr fun i hlo hhi => ?_
    have hout : ¬ 8 ≤ i.val := by omega
    have hout' : ¬ i.val < 2 := by omega
    simp [Storage.withIpv6, Storage.write, hout, hout']
  refine ⟨hkeeps, ?_⟩
  unfold Storage.Bare
  rw [hkeeps, Storage.ssFamily_withIpv6]
  simp [Storage.afInet_ne_afInet6.symm]

theorem hostname_of_apply {ep : RemoteEndpoint} {call : RemoteCall}
    (h : (call.apply ep).hostname = none) : ep.hostname = none := by
  cases hname : ep.hostname with
  | none => rfl
  | some name =>
    cases call with
    | withHostname hostname =>
      rw [RemoteCall.apply, RemoteEndpoint.withHostname] at h
      split at h
      · exact hname.symm.trans h
      · cases h
    | _ =>
      simp [RemoteCall.apply, RemoteEndpoint.withIpv4, RemoteEndpoint.withIpv6,
        RemoteEndpoint.fromSockaddr, RemoteEndpoint.withService, RemoteEndpoint.withPort, hname,
        Except.toOption] at h

theorem bare_buildRemote (calls : List RemoteCall) (h : (buildRemote calls).hostname = none) :
    ((buildRemote calls).resolvedAddress.sameBytes .zero 4 8 = true ↔ ClearsFlow calls.reverse) ∧
      ((buildRemote calls).resolvedAddress.Bare ↔ LeavesBare calls.reverse) := by
  induction calls using List.reverseRecOn with
  | nil => exact ⟨iff_of_true (by decide) trivial, iff_of_true (by decide) trivial⟩
  | append_singleton calls call ih =>
    have hrun : buildRemote (calls ++ [call]) = call.apply (buildRemote calls) :=
      Lib.run_append _ _ _
    rw [hrun] at h ⊢
    have hnone := hostname_of_apply h
    obtain ⟨hflow, hbare⟩ := ih hnone
    rw [List.reverse_append]
    set ep := buildRemote calls
    cases call with
    | withIpv4 addr =>
      have happly : RemoteCall.apply ep (.withIpv4 addr) =
          { ep with resolvedAddress := .withIpv4 addr } := by
        simp [RemoteCall.apply, RemoteEndpoint.withIpv4, hnone, Except.toOption]
      rw [happly]
      exact ⟨(bare_withIpv4 addr).1, iff_of_true (bare_withIpv4 addr).2 trivial⟩
    | withIpv6 addr =>
      have happly : RemoteCall.apply ep (.withIpv6 addr) =
          { ep with resolvedAddress := ep.resolvedAddress.withIpv6 addr } := by
        simp [RemoteCall.apply, RemoteEndpoint.withIpv6, hnone, Except.toOption]
      rw [happly]
      obtain ⟨hkeeps, hbare6⟩ := bare_withIpv6 ep.resolvedAddress addr
      exact ⟨hkeeps ▸ hflow, hbare6.trans hflow⟩
    | fromSockaddr addr =>
      by_cases hinet : addr.Inet
      · obtain ⟨s', hs', hflow', hbare'⟩ := fromSockaddr_inet ep.resolvedAddress hinet
        have happly : RemoteCall.apply ep (.fromSockaddr addr) =
            { ep with port := addr.getPort, resolvedAddress := s' } := by
          simp [RemoteCall.apply, RemoteEndpoint.fromSockaddr, hnone, hs', Except.toOption]
        rw [happly]
        simp only [List.reverse_singleton, List.singleton_append, ClearsFlow, LeavesBare, if_pos hinet]
        exact ⟨by rw [hflow'], hbare'⟩
      · have happly : RemoteCall.apply ep (.fromSockaddr addr) = ep := by
          simp [RemoteCall.apply, RemoteEndpoint.fromSockaddr, hnone,
            fromSockaddr_not_inet ep.resolvedAddress hinet, Except.toOption]
        rw [happly]
        simp only [List.reverse_singleton, List.singleton_append, ClearsFlow, LeavesBare,
          if_neg hinet]
        exact ⟨hflow, hbare⟩
    | withHostname hostname =>
      have happly : (RemoteCall.apply ep (.withHostname hostname)).resolvedAddress =
          ep.resolvedAddress := by
        rw [RemoteCall.apply, RemoteEndpoint.withHostname]
        split <;> rfl
      rw [happly]
      exact ⟨hflow, hbare⟩
    | withService service => exact ⟨hflow, hbare⟩
    | withPort port =>
      refine ⟨?_, (bare_setPort _ port).trans hbare⟩
      exact (Bool.eq_iff_iff.mp (sameBytes_setPort _ port (Nat.le_refl 4))).trans hflow

/-- The address of a remote endpoint that was given one is bare exactly if the builders have left it
so. -/
theorem bare_resolved_iff (net : Network) (calls : List RemoteCall) {endpoints : List RemoteEndpoint}
    (hname : (buildRemote calls).hostname = none)
    (hresolve : net.remoteEndpointResolve (buildRemote calls) = .ok endpoints)
    {ep : RemoteEndpoint} (hep : ep ∈ endpoints) :
    ep.resolvedAddress.Bare ↔ LeavesBare calls.reverse := by
  rw [Network.remoteEndpointResolve, hname] at hresolve
  dsimp only at hresolve
  split at hresolve
  · cases hresolve
  · split at hresolve
    · cases hresolve
      rw [List.mem_singleton.mp hep]
      exact (bare_setPort _ _).trans (bare_buildRemote calls hname).2
    · cases hresolve

/-! ### Client connections -/

/-- The demux table of the socket manager that `ct_connection_create_client` makes for a UDP
connection: it is empty, and the connection is entered under its active remote endpoint. -/
def clientTable (connection : Connection) (c : C) : List (Key × C) :=
  match connection.remoteEndpoints[connection.activeRemoteEndpoint]? with
  | some active => (insertDemuxedConnection [] active c).toOption.getD []
  | none => []

theorem getFromDemuxTable_client {connection : Connection} {active : RemoteEndpoint}
    (hactive : connection.remoteEndpoints[connection.activeRemoteEndpoint]? = some active)
    (hinet : active.resolvedAddress.Inet) (c : C) (source : Storage) :
    getFromDemuxTable (clientTable connection c) source = some c ↔
      source.equal active.resolvedAddress = true := by
  obtain ⟨key, hkey⟩ := exists_keyOf hinet
  have htable : clientTable connection c = [(key, c)] := by
    simp [clientTable, hactive, insertDemuxedConnection, hkey, Except.toOption]
  rw [← keyOf_eq_iff hinet, htable, hkey, getFromDemuxTable]
  cases hsource : keyOf source with
  | none => simp
  | some k =>
    by_cases hk : k = key
    · simp [hk]
    · have hbeq : (k == key) = false := beq_eq_false_iff_ne.mpr hk
      simp [List.lookup_cons, hk, hbeq]

/-- However the remote endpoint was built and resolved, its UDP client connection is found for every
datagram from its address exactly if the address was left without flow information and padding. -/
theorem demux_agrees_iff (net : Network) (calls : List RemoteCall) (endpoints : List RemoteEndpoint)
    (hresolve : net.remoteEndpointResolve (buildRemote calls) = .ok endpoints)
    (ep : RemoteEndpoint) (hep : ep ∈ endpoints) (h h' : Heap) (locals : List LocalEndpoint)
    (i : Nat) (remotes : List RemoteEndpoint) (j : Nat) (precon : Preconnection)
    (connection : Connection)
    (hcreate : connectionCreateClient h .udp locals i remotes j precon = some (h', connection))
    (hactive : remotes[j]? = some ep) (c : C) :
    (∀ source : Storage, source.ctSockaddrEqual ep.resolvedAddress = true → source.Bare →
      getFromDemuxTable (clientTable connection c) source = some c) ↔ ep.resolvedAddress.Bare := by
  have hinet := Attempts.inet_of_remoteEndpointResolve hresolve hep
  have hfamily : ¬ (ep.resolvedAddress.ssFamily ≠ Storage.afInet6 ∧
      ep.resolvedAddress.ssFamily ≠ Storage.afInet) := by
    rintro ⟨hnot6, hnot⟩
    exact hinet.elim hnot hnot6
  have hremote : connection.remoteEndpoints[connection.activeRemoteEndpoint]? = some ep := by
    simp only [connectionCreateClient, hactive, if_neg hfamily, Option.some.injEq,
      Prod.mk.injEq] at hcreate
    rw [← hcreate.2]
    exact hactive
  simp only [getFromDemuxTable_client hremote hinet]
  exact Storage.equal_of_bare_iff hinet

/-! A remote endpoint that is given an IPv6 address, and one that was given an IPv4 address before:
its flow information is the IPv4 address. -/

def loopback : Fin 16 → BitVec 8 := ![0, 0, 0, 0, 0, 0, 0, 0, 0, 0, 0, 0, 0, 0, 0, 1]

def offline : Network := ⟨[], fun _ _ => 0, fun _ => []⟩

def plainCalls : List RemoteCall := [.withIpv6 loopback, .withPort 53]

def reusedCalls : List RemoteCall := [.withIpv4 ![192, 0, 2, 1], .withIpv6 loopback, .withPort 53]

def endpointOf (calls : List RemoteCall) : RemoteEndpoint :=
  (((offline.remoteEndpointResolve (buildRemote calls)).toOption.getD []).head?).getD .build

def clientOf (calls : List RemoteCall) : Connection :=
  ⟨.udp, [], 0, [endpointOf calls], 0, fun _ => .preference .noPreference, none, none⟩

theorem demux_agrees_plain :
    getFromDemuxTable (clientTable (clientOf plainCalls) 0)
      (endpointOf plainCalls).resolvedAddress = some 0 :=
  (demux_agrees_iff offline plainCalls [endpointOf plainCalls] rfl (endpointOf plainCalls)
    (List.mem_singleton_self _) Attempts.Heap.empty Attempts.Heap.empty [] 0
    [endpointOf plainCalls] 0 Attempts.preconnectionNew (clientOf plainCalls) rfl rfl 0).mpr
    (by decide) _ (by decide) (by decide)

theorem demux_misses_reused :
    offline.remoteEndpointResolve (buildRemote reusedCalls) = .ok [endpointOf reusedCalls] ∧
      (endpointOf plainCalls).resolvedAddress.ctSockaddrEqual
        (endpointOf reusedCalls).resolvedAddress = true ∧
      (endpointOf plainCalls).resolvedAddress.Bare ∧
      getFromDemuxTable (clientTable (clientOf reusedCalls) 0)
        (endpointOf plainCalls).resolvedAddress = none := by
  refine ⟨rfl, by decide, by decide, by decide⟩

end CTaps.Demux
