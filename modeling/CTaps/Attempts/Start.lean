import CTaps.Attempts.SecurityParameters
import CTaps.Attempts.Storage
import CTaps.Gathering.Candidate
import CTaps.Lib.Representatives

/-! Starting an attempt: the endpoints of all candidates, each address once, the
search for the endpoints of the attempt's own candidate among them, and the
connection made from it. -/

namespace CTaps.Attempts

open Lib
open Gathering (Protocol ProtocolCandidate SelectionProperties)

/-! ### Comparing addresses -/

namespace Storage

def gIntHash (s : Storage) (offset : Nat) (h : offset + 3 < 128) : BitVec 32 :=
  (s ⟨offset + 3, h⟩ ++ s ⟨offset + 2, by omega⟩) ++ (s ⟨offset + 1, by omega⟩ ++ s ⟨offset, by omega⟩)

def gStrHash (s : String) : BitVec 32 :=
  s.toList.foldl (fun h c => h * 33 + BitVec.ofNat 32 c.toNat) 5381

def hash (s : Storage) : BitVec 32 :=
  if s.ssFamily = afInet then s.gIntHash 2 (by omega) ^^^ s.gIntHash 4 (by omega)
  else if s.ssFamily = afInet6 then
    s.gIntHash 2 (by omega) ^^^ s.gIntHash 24 (by omega) ^^^ s.gIntHash 4 (by omega)
      ^^^ s.gIntHash 8 (by omega) ^^^ s.gIntHash 12 (by omega) ^^^ s.gIntHash 16 (by omega)
      ^^^ s.gIntHash 20 (by omega)
  else gStrHash "unknown"

def sockaddrLength (s : Storage) : Nat :=
  if s.ssFamily = afInet then sizeofSockaddrIn
  else if s.ssFamily = afInet6 then sizeofSockaddrIn6
  else 128

def equal (a b : Storage) : Bool :=
  if a.ssFamily ≠ b.ssFamily then false
  else if a.ssFamily = afInet then a.sameFront b sizeofSockaddrIn
  else if a.ssFamily = afInet6 then a.sameFront b sizeofSockaddrIn6
  else a.sameFront b 128

def sameKey (a b : Storage) : Bool := a.hash = b.hash && a.equal b

variable {a b c : Storage}

theorem equal_iff :
    a.equal b = true ↔
      a.ssFamily = b.ssFamily ∧ ∀ i : Fin 128, i.val < a.sockaddrLength → a i = b i := by
  rw [equal, sockaddrLength]
  by_cases hfamily : a.ssFamily = b.ssFamily
  · rw [if_neg (not_not.mpr hfamily)]
    split_ifs <;> simp [sameFront, hfamily]
  · rw [if_pos hfamily]
    simp [hfamily]

theorem sockaddrLength_congr (h : a.ssFamily = b.ssFamily) :
    a.sockaddrLength = b.sockaddrLength := by
  rw [sockaddrLength, sockaddrLength, h]

theorem gIntHash_congr {offset : Nat} {h : offset + 3 < 128}
    (heq : ∀ i : Fin 128, i.val < offset + 4 → a i = b i) : a.gIntHash offset h = b.gIntHash offset h := by
  rw [gIntHash, gIntHash, heq ⟨offset + 3, h⟩ (by simp), heq ⟨offset + 2, by omega⟩ (by simp),
    heq ⟨offset + 1, by omega⟩ (by simp), heq ⟨offset, by omega⟩ (by simp)]

theorem hash_eq_of_equal (h : a.equal b = true) : a.hash = b.hash := by
  obtain ⟨hfamily, hbytes⟩ := equal_iff.mp h
  have hword : ∀ (offset : Nat) (hoff : offset + 3 < 128), offset + 4 ≤ a.sockaddrLength →
      a.gIntHash offset hoff = b.gIntHash offset hoff :=
    fun offset hoff hle => gIntHash_congr fun i hi => hbytes i (Nat.lt_of_lt_of_le hi hle)
  rw [hash, hash, ← hfamily]
  rw [sockaddrLength] at hword
  split_ifs with hinet hinet6
  · rw [if_pos hinet] at hword
    rw [hword 2 _ (by decide), hword 4 _ (by decide)]
  · rw [if_neg hinet, if_pos hinet6] at hword
    rw [hword 2 _ (by decide), hword 24 _ (by decide), hword 4 _ (by decide),
      hword 8 _ (by decide), hword 12 _ (by decide), hword 16 _ (by decide),
      hword 20 _ (by decide)]
  · rfl

theorem sameKey_eq_equal (a b : Storage) : a.sameKey b = a.equal b := by
  rw [sameKey]
  cases h : a.equal b with
  | false => rw [Bool.and_false]
  | true => rw [Bool.and_true, decide_eq_true (hash_eq_of_equal h)]

theorem equal_iff_sameFront : a.equal b = true ↔ a.sameFront b b.sockaddrLength = true := by
  rw [equal_iff, sameFront, decide_eq_true_iff]
  constructor
  · rintro ⟨hfamily, hbytes⟩
    rwa [← sockaddrLength_congr hfamily]
  · intro hbytes
    have hlength : 2 ≤ b.sockaddrLength := by
      rw [sockaddrLength]
      split_ifs <;> decide
    have hfamily : a.ssFamily = b.ssFamily :=
      ssFamily_congr (hbytes 0 (Nat.lt_of_lt_of_le Nat.zero_lt_two hlength))
        (hbytes 1 (Nat.lt_of_lt_of_le Nat.one_lt_two hlength))
    exact ⟨hfamily, by rwa [sockaddrLength_congr hfamily]⟩

theorem classes_equal : Classes equal where
  refl a := equal_iff.mpr ⟨rfl, fun _ _ => rfl⟩
  symm a b h := by
    obtain ⟨hfamily, hbytes⟩ := equal_iff.mp h
    refine equal_iff.mpr ⟨hfamily.symm, fun i hi => (hbytes i ?_).symm⟩
    rwa [sockaddrLength_congr hfamily]
  trans a b c hab hbc := by
    obtain ⟨hfab, hab⟩ := equal_iff.mp hab
    obtain ⟨hfbc, hbc⟩ := equal_iff.mp hbc
    refine equal_iff.mpr ⟨hfab.trans hfbc, fun i hi => (hab i hi).trans (hbc i ?_)⟩
    rwa [← sockaddrLength_congr hfab]

end Storage

/-! ### The attempt -/

abbrev Framer := Nat

structure Candidate where
  localEndpoint : LocalEndpoint
  remoteEndpoint : RemoteEndpoint
  protocolCandidate : ProtocolCandidate

structure Preconnection where
  transportProperties : SelectionProperties
  securityParameters : Option SecurityParameters
  framerImpl : Option Framer

structure Connection where
  protocolImpl : Protocol
  localEndpoints : List LocalEndpoint
  activeLocalEndpoint : Nat
  remoteEndpoints : List RemoteEndpoint
  activeRemoteEndpoint : Nat
  transportProperties : SelectionProperties
  securityParameters : Option SecurityParameters
  framerImpl : Option Framer

def connectionCreateClient (h : Heap) (protocolImpl : Protocol)
    (localEndpoints : List LocalEndpoint) (localEndpointIndex : Nat)
    (remoteEndpoints : List RemoteEndpoint) (remoteEndpointIndex : Nat) (precon : Preconnection) :
    Option (Heap × Connection) :=
  match remoteEndpoints[remoteEndpointIndex]? with
  | none => none
  | some active =>
    if active.resolvedAddress.ssFamily ≠ Storage.afInet6 ∧
        active.resolvedAddress.ssFamily ≠ Storage.afInet then none
    else
      let copied := precon.securityParameters.map (securityParametersDeepCopy h)
      some ((copied.map Prod.fst).getD h,
        ⟨protocolImpl, localEndpoints, localEndpointIndex, remoteEndpoints, remoteEndpointIndex,
          precon.transportProperties, copied.map Prod.snd, precon.framerImpl⟩)

def uniqueEndpoints {ε : Type*} (address : ε → Storage) (endpoints : List ε) : List ε :=
  representatives (fun a b => (address a).sameKey (address b)) endpoints

def activeIndex {ε : Type*} (address : ε → Storage) (endpoints : List ε) (own : ε) : Nat :=
  searchIndex (fun a b => decide (address a = address b)) endpoints own

/-- Starts the attempt of `candidate`, one of `candidates`, up to the call of the protocol. -/
def startConnectionAttempt (h : Heap) (precon : Preconnection) (candidates : List Candidate)
    (candidate : Candidate) : Option (Heap × Connection) :=
  let remoteEndpoints := uniqueEndpoints (·.resolvedAddress) (candidates.map (·.remoteEndpoint))
  let localEndpoints := uniqueEndpoints (·.resolvedAddress) (candidates.map (·.localEndpoint))
  let activeRemoteIndex := activeIndex (·.resolvedAddress) remoteEndpoints candidate.remoteEndpoint
  let activeLocalIndex := activeIndex (·.resolvedAddress) localEndpoints candidate.localEndpoint
  match connectionCreateClient h candidate.protocolCandidate.protocolImpl localEndpoints
      activeLocalIndex remoteEndpoints activeRemoteIndex precon with
  | none => none
  | some (h, connection) =>
    match connection.securityParameters with
    | none => some (h, connection)
    | some sec =>
      let replaced := replaceAlpn h sec candidate.protocolCandidate.alpn
      some (replaced.1, { connection with securityParameters := some replaced.2 })

/-! ### The endpoints of an attempt -/

section Endpoints

variable {ε : Type*} (address : ε → Storage)

structure Listed (given kept : List ε) : Prop where
  once : ∀ e ∈ given, kept.countP (fun k => (address k).equal (address e)) = 1
  only : ∀ k ∈ kept, k ∈ given

def ActiveIs (kept : List ε) (index : Nat) (own : Storage) : Prop :=
  ∃ e, kept[index]? = some e ∧ (address e).sameFront own own.sockaddrLength = true

def Findable (given : List ε) (own : Storage) : Prop :=
  (∃ e, given.find? (fun e => (address e).equal own) = some e ∧ address e = own) ∨
    ∃ first, given.head? = some first ∧ (address first).equal own = true

theorem classes_sameKey : Classes fun a b : ε => (address a).sameKey (address b) := by
  have heq : Storage.sameKey = Storage.equal := funext₂ Storage.sameKey_eq_equal
  rw [heq]
  exact Storage.classes_equal.comap address

theorem listed_uniqueEndpoints (given : List ε) :
    Listed address given (uniqueEndpoints address given) where
  once e he := by
    have hcount := (classes_sameKey address).countP_representatives he
    simp only [Storage.sameKey_eq_equal] at hcount
    simpa only [uniqueEndpoints, Storage.sameKey_eq_equal] using hcount
  only k hk := representatives_subset hk

theorem search_uniqueEndpoints {given : List ε} {own : ε} (hown : own ∈ given) :
    ∃ e, (uniqueEndpoints address given)[activeIndex address (uniqueEndpoints address given) own]?
        = some e ∧
      ((address e).equal (address own) = true ↔ Findable address given (address own)) := by
  have hclasses := classes_sameKey address
  obtain ⟨first, hfirst⟩ : ∃ first, given.head? = some first :=
    Option.ne_none_iff_exists'.mp fun h => List.ne_nil_of_mem hown (List.head?_eq_none_iff.mp h)
  obtain ⟨kept, hkept⟩ : ∃ kept, given.find? (fun e => (address e).sameKey (address own))
      = some kept := by
    refine Option.isSome_iff_exists.mp (List.find?_isSome.mpr ⟨own, hown, ?_⟩)
    exact hclasses.refl own
  have hexact : ∀ a b : ε, decide (address a = address b) = true →
      (address a).sameKey (address b) = true := by
    intro a b hab
    rw [of_decide_eq_true hab]
    exact hclasses.refl b
  obtain ⟨e, he, hiff⟩ := hclasses.search_representatives hexact hfirst hkept
  simp only [Storage.sameKey_eq_equal, decide_eq_true_eq] at hiff hkept
  refine ⟨e, he, ?_⟩
  simp only [Findable, hkept, hfirst, Option.some.injEq, exists_eq_left']
  exact hiff

theorem activeIs_iff {given : List ε} {own : ε} (hown : own ∈ given) :
    ActiveIs address (uniqueEndpoints address given)
      (activeIndex address (uniqueEndpoints address given) own) (address own) ↔
    Findable address given (address own) := by
  obtain ⟨e, he, hiff⟩ := search_uniqueEndpoints address hown
  rw [← hiff, ActiveIs]
  constructor
  · rintro ⟨e', he', hfront⟩
    rw [Option.some.inj (he.symm.trans he')]
    exact Storage.equal_iff_sameFront.mpr hfront
  · exact fun hequal => ⟨e, he, Storage.equal_iff_sameFront.mp hequal⟩

end Endpoints

/-! ### What an attempt is made with -/

def Candidate.Resolved (c : Candidate) : Prop :=
  (∃ (net : Network) (calls : List LocalCall),
    c.localEndpoint ∈ net.localEndpointResolve (buildLocal calls)) ∧
  ∃ (net : Network) (calls : List RemoteCall) (endpoints : List RemoteEndpoint),
    net.remoteEndpointResolve (buildRemote calls) = .ok endpoints ∧ c.remoteEndpoint ∈ endpoints

def Connection.alpns (h : Heap) (connection : Connection) : List String :=
  match connection.securityParameters with
  | some sec => stringsOf h (sec .alpn)
  | none => []

structure Faithful (h : Heap) (precon : Preconnection) (candidates : List Candidate)
    (c : Candidate) (h' : Heap) (connection : Connection) : Prop where
  locals : Listed (·.resolvedAddress) (candidates.map (·.localEndpoint)) connection.localEndpoints
  remotes :
    Listed (·.resolvedAddress) (candidates.map (·.remoteEndpoint)) connection.remoteEndpoints
  activeLocal : ActiveIs (·.resolvedAddress) connection.localEndpoints
    connection.activeLocalEndpoint c.localEndpoint.resolvedAddress
  activeRemote : ActiveIs (·.resolvedAddress) connection.remoteEndpoints
    connection.activeRemoteEndpoint c.remoteEndpoint.resolvedAddress
  alpns : connection.alpns h' =
    if precon.securityParameters.isSome then c.protocolCandidate.alpn.toList else []
  unchanged : h.Extends h'

theorem startConnectionAttempt_of_inet (h : Heap) (precon : Preconnection)
    {candidates : List Candidate} {c : Candidate} {active : RemoteEndpoint}
    (hactive : (uniqueEndpoints (·.resolvedAddress) (candidates.map (·.remoteEndpoint)))[activeIndex
      (·.resolvedAddress) (uniqueEndpoints (·.resolvedAddress)
        (candidates.map (·.remoteEndpoint))) c.remoteEndpoint]? = some active)
    (hinet : active.resolvedAddress.Inet) :
    ∃ h' connection, startConnectionAttempt h precon candidates c = some (h', connection) ∧
      h.Extends h' ∧
      connection.alpns h' =
        (if precon.securityParameters.isSome then c.protocolCandidate.alpn.toList else []) := by
  have hfamily : ¬(active.resolvedAddress.ssFamily ≠ Storage.afInet6 ∧
      active.resolvedAddress.ssFamily ≠ Storage.afInet) := by
    rintro ⟨h6, h4⟩
    exact hinet.elim h4 h6
  simp only [startConnectionAttempt, connectionCreateClient, hactive, if_neg hfamily]
  cases precon.securityParameters with
  | none => exact ⟨h, _, rfl, .refl h, rfl⟩
  | some source =>
    obtain ⟨hcopy, hapart⟩ := securityParametersDeepCopy_apart h source
    obtain ⟨hext, halpn⟩ := replaceAlpn_spec hcopy (hapart .alpn) c.protocolCandidate.alpn
    exact ⟨_, _, rfl, hext, halpn⟩

theorem endpoints_of_startConnectionAttempt {h h' : Heap} {precon : Preconnection}
    {candidates : List Candidate} {c : Candidate} {connection : Connection}
    (hstart : startConnectionAttempt h precon candidates c = some (h', connection)) :
    connection.localEndpoints
        = uniqueEndpoints (·.resolvedAddress) (candidates.map (·.localEndpoint)) ∧
      connection.activeLocalEndpoint
        = activeIndex (·.resolvedAddress) connection.localEndpoints c.localEndpoint ∧
      connection.remoteEndpoints
        = uniqueEndpoints (·.resolvedAddress) (candidates.map (·.remoteEndpoint)) ∧
      connection.activeRemoteEndpoint
        = activeIndex (·.resolvedAddress) connection.remoteEndpoints c.remoteEndpoint := by
  simp only [startConnectionAttempt, connectionCreateClient] at hstart
  split at hstart
  · exact absurd hstart (by simp)
  · rename_i h₁ made hmade
    have hsame : connection.localEndpoints = made.localEndpoints ∧
        connection.activeLocalEndpoint = made.activeLocalEndpoint ∧
        connection.remoteEndpoints = made.remoteEndpoints ∧
        connection.activeRemoteEndpoint = made.activeRemoteEndpoint := by
      split at hstart
      · cases hstart
        exact ⟨rfl, rfl, rfl, rfl⟩
      · cases hstart
        exact ⟨rfl, rfl, rfl, rfl⟩
    rw [hsame.1, hsame.2.1, hsame.2.2.1, hsame.2.2.2]
    split at hmade
    · exact absurd hmade (by simp)
    · split at hmade
      · exact absurd hmade (by simp)
      · cases hmade
        exact ⟨rfl, rfl, rfl, rfl⟩

theorem exists_startConnectionAttempt {candidates : List Candidate} {c : Candidate}
    (hc : c ∈ candidates) (hresolved : ∀ d ∈ candidates, d.Resolved) (h : Heap)
    (precon : Preconnection) :
    ∃ h' connection, startConnectionAttempt h precon candidates c = some (h', connection) ∧
      h.Extends h' ∧
      connection.alpns h' =
        (if precon.securityParameters.isSome then c.protocolCandidate.alpn.toList else []) := by
  let address : RemoteEndpoint → Storage := (·.resolvedAddress)
  obtain ⟨active, hactive, -⟩ := search_uniqueEndpoints address
    (List.mem_map_of_mem hc : c.remoteEndpoint ∈ candidates.map (·.remoteEndpoint))
  refine startConnectionAttempt_of_inet h precon hactive ?_
  have hmem := (listed_uniqueEndpoints address _).only active (List.mem_of_getElem? hactive)
  obtain ⟨d, hd, rfl⟩ := List.mem_map.mp hmem
  obtain ⟨net, calls, endpoints, hok, hin⟩ := (hresolved d hd).2
  exact inet_of_remoteEndpointResolve hok hin

theorem findable_of_faithful {h h' : Heap} {precon : Preconnection} {candidates : List Candidate}
    {c : Candidate} {connection : Connection} (hc : c ∈ candidates)
    (hstart : startConnectionAttempt h precon candidates c = some (h', connection))
    (hfaithful : Faithful h precon candidates c h' connection) :
    Findable (·.resolvedAddress) (candidates.map (·.localEndpoint))
        c.localEndpoint.resolvedAddress ∧
      Findable (·.resolvedAddress) (candidates.map (·.remoteEndpoint))
        c.remoteEndpoint.resolvedAddress := by
  obtain ⟨hl, hal, hr, har⟩ := endpoints_of_startConnectionAttempt hstart
  constructor
  · have hactive := hfaithful.activeLocal
    rw [hal, hl] at hactive
    exact (activeIs_iff _ (List.mem_map_of_mem hc)).mp hactive
  · have hactive := hfaithful.activeRemote
    rw [har, hr] at hactive
    exact (activeIs_iff _ (List.mem_map_of_mem hc)).mp hactive

/-- An attempt is faithful exactly when both of its endpoints can be found among the candidates'. -/
theorem faithful_iff {candidates : List Candidate} {i : Nat} {c : Candidate}
    (hc : candidates[i]? = some c) (hresolved : ∀ d ∈ candidates, d.Resolved) (h : Heap)
    (precon : Preconnection) :
    (∃ h' connection, startConnectionAttempt h precon candidates c = some (h', connection) ∧
      Faithful h precon candidates c h' connection) ↔
    Findable (·.resolvedAddress) (candidates.map (·.localEndpoint))
        c.localEndpoint.resolvedAddress ∧
      Findable (·.resolvedAddress) (candidates.map (·.remoteEndpoint))
        c.remoteEndpoint.resolvedAddress := by
  have hmem := List.mem_of_getElem? hc
  have hlocal : c.localEndpoint ∈ candidates.map (·.localEndpoint) := List.mem_map_of_mem hmem
  have hremote : c.remoteEndpoint ∈ candidates.map (·.remoteEndpoint) := List.mem_map_of_mem hmem
  constructor
  · rintro ⟨h', connection, hstart, hfaithful⟩
    exact findable_of_faithful hmem hstart hfaithful
  · rintro ⟨hfindLocal, hfindRemote⟩
    obtain ⟨h', connection, hstart, hext, halpns⟩ :=
      exists_startConnectionAttempt hmem hresolved h precon
    obtain ⟨hl, hal, hr, har⟩ := endpoints_of_startConnectionAttempt hstart
    refine ⟨h', connection, hstart, ?_, ?_, ?_, ?_, halpns, hext⟩
    · rw [hl]
      exact listed_uniqueEndpoints _ _
    · rw [hr]
      exact listed_uniqueEndpoints _ _
    · rw [hal, hl]
      exact (activeIs_iff _ hlocal).mpr hfindLocal
    · rw [har, hr]
      exact (activeIs_iff _ hremote).mpr hfindRemote

section Addresses

def candidateOf (localCalls : List LocalCall) (remoteCalls : List RemoteCall) : Candidate :=
  let remote := buildRemote remoteCalls
  ⟨buildLocal localCalls,
    { remote with resolvedAddress := remote.resolvedAddress.setPort (remote.port % 65536) },
    ⟨.tcp, none⟩⟩

theorem resolved_candidateOf {localCalls : List LocalCall} {remoteCalls : List RemoteCall}
    (hlocal : (buildLocal localCalls).resolvedAddress.ssFamily ≠ Storage.afUnspec)
    (hremote : (buildRemote remoteCalls).resolvedAddress.ssFamily ≠ Storage.afUnspec)
    (hhostname : (buildRemote remoteCalls).hostname = none)
    (hservice : (buildRemote remoteCalls).service = none) :
    (candidateOf localCalls remoteCalls).Resolved := by
  let net : Network := ⟨[], fun _ _ => 0, fun _ => []⟩
  refine ⟨⟨net, localCalls, ?_⟩, net, remoteCalls, [(candidateOf localCalls remoteCalls).remoteEndpoint],
    ?_, List.mem_singleton_self _⟩
  · rw [Network.localEndpointResolve, if_pos hlocal]
    exact List.mem_singleton_self _
  · have hport : net.remotePort (buildRemote remoteCalls) = (buildRemote remoteCalls).port := by
      rw [Network.remotePort, hservice]
    rw [Network.remoteEndpointResolve, hport, if_neg (by omega), hhostname]
    dsimp only
    have hmod : ((buildRemote remoteCalls).port % 65536 : Int).toNat
        = (buildRemote remoteCalls).port % 65536 := by omega
    rw [if_pos hremote, hmod]
    simp only [candidateOf, hhostname]

def documentation (n : BitVec 8) : Storage := .withIpv4 ![192, 0, 2, n]

def plain (n : BitVec 8) : Candidate :=
  candidateOf [.withIpv4 ![192, 0, 2, 1]] [.fromSockaddr (documentation n)]

def reused (n : BitVec 8) : Candidate :=
  candidateOf [.withIpv4 ![192, 0, 2, 1]] [.withIpv6 fun _ => 1, .fromSockaddr (documentation n)]

theorem resolved_plain (n : BitVec 8) : (plain n).Resolved :=
  resolved_candidateOf (by decide) (show Storage.afInet ≠ Storage.afUnspec by decide) rfl rfl

theorem resolved_reused (n : BitVec 8) : (reused n).Resolved :=
  resolved_candidateOf (by decide) (show Storage.afInet ≠ Storage.afUnspec by decide) rfl rfl

def preconnectionNew : Preconnection := ⟨fun _ => .preference .noPreference, none, none⟩

def Heap.empty : Heap := ⟨fun _ => none, 0, fun _ _ => rfl⟩

def overQuic (c : Candidate) : Candidate := { c with protocolCandidate := ⟨.quic, some "h3"⟩ }

theorem faithful_iff_shared :
    (∀ d ∈ [plain 9, plain 7, overQuic (plain 7)], d.Resolved) ∧ ∃ h' connection,
      startConnectionAttempt Heap.empty preconnectionNew [plain 9, plain 7, overQuic (plain 7)]
        (overQuic (plain 7)) = some (h', connection) ∧
      Faithful Heap.empty preconnectionNew [plain 9, plain 7, overQuic (plain 7)]
        (overQuic (plain 7)) h' connection := by
  have hresolved : ∀ d ∈ [plain 9, plain 7, overQuic (plain 7)], d.Resolved := by
    simp only [List.mem_cons, List.not_mem_nil, or_false, forall_eq_or_imp, forall_eq]
    exact ⟨resolved_plain 9, resolved_plain 7, resolved_plain 7⟩
  have hother : (plain 9).remoteEndpoint.resolvedAddress.equal
      (plain 7).remoteEndpoint.resolvedAddress = false := by decide +kernel
  refine ⟨hresolved, (faithful_iff (i := 2) rfl hresolved _ _).mpr ⟨?_, ?_⟩⟩
  · exact Or.inr ⟨_, rfl, Storage.classes_equal.refl _⟩
  · refine Or.inl ⟨(plain 7).remoteEndpoint, ?_, rfl⟩
    rw [List.map_cons, List.find?_cons_of_neg (by rw [overQuic, hother]; exact Bool.false_ne_true)]
    exact List.find?_cons_of_pos (Storage.classes_equal.refl _)

/-- The candidate for 192.0.2.7 is listed under an endpoint with other bytes behind the address,
and its attempt is made to 192.0.2.9. -/
theorem plain_after_reused_not_faithful :
    (∀ d ∈ [plain 9, reused 7, plain 7], d.Resolved) ∧ ¬∃ h' connection,
      startConnectionAttempt Heap.empty preconnectionNew [plain 9, reused 7, plain 7] (plain 7)
        = some (h', connection) ∧
      Faithful Heap.empty preconnectionNew [plain 9, reused 7, plain 7] (plain 7) h'
        connection := by
  refine ⟨?_, ?_⟩
  · simp only [List.mem_cons, List.not_mem_nil, or_false, forall_eq_or_imp, forall_eq]
    exact ⟨resolved_plain 9, resolved_reused 7, resolved_plain 7⟩
  · rintro ⟨h', connection, hstart, hfaithful⟩
    have hmem : plain 7 ∈ [plain 9, reused 7, plain 7] :=
      List.mem_cons_of_mem _ (List.mem_cons_of_mem _ List.mem_cons_self)
    have hfirst : (plain 9).remoteEndpoint.resolvedAddress.equal
        (plain 7).remoteEndpoint.resolvedAddress = false := by decide +kernel
    have hsecond : (reused 7).remoteEndpoint.resolvedAddress.equal
        (plain 7).remoteEndpoint.resolvedAddress = true := by decide +kernel
    rcases (findable_of_faithful hmem hstart hfaithful).2 with ⟨e, hfind, hexact⟩ | ⟨e, hhead, he⟩
    · rw [List.map_cons, List.find?_cons_of_neg (by rw [hfirst]; exact Bool.false_ne_true),
        List.map_cons, List.find?_cons_of_pos (by rw [hsecond]), Option.some.injEq] at hfind
      -- byte 20 is one of the address of the other family
      have hbyte := congrFun hexact 20
      rw [← hfind] at hbyte
      exact absurd hbyte (by decide +kernel)
    · rw [List.map_cons, List.head?_cons, Option.some.injEq] at hhead
      rw [← hhead, hfirst] at he
      exact Bool.noConfusion he

end Addresses

end CTaps.Attempts
