import CTaps.Gathering.Report
import CTaps.Attempts.Storage
import Mathlib.Data.List.Forall2

/-! The completion of a host name lookup. `on_uv_getaddrinfo_cb` makes an endpoint of every IPv4 and
IPv6 entry of the list and hands them all to `ct_remote_endpoint_resolve_cb`. When the lookup has
failed, it first reads the host name off the node the lookup was issued for, for the log. -/

namespace CTaps.Gathering

open Lib
open Attempts (Storage)

structure AddrInfo where
  aiFamily : Nat
  aiAddr : Storage

def AddrInfo.Taken (ptr : AddrInfo) : Prop :=
  ptr.aiFamily = Storage.afInet ∨ ptr.aiFamily = Storage.afInet6
deriving Decidable

def AddrInfo.size (ptr : AddrInfo) : Nat :=
  if ptr.aiFamily = Storage.afInet then Storage.sizeofSockaddrIn else Storage.sizeofSockaddrIn6

def portOf (assignedPort : Int) : Nat := (assignedPort % 65536).toNat

def newNode (assignedPort : Int) (ptr : AddrInfo) : Attempts.RemoteEndpoint :=
  ⟨portOf assignedPort, none, none,
    (Storage.zero.copyFront ptr.aiAddr ptr.size).write 2 (Storage.portBytes (portOf assignedPort))⟩

/-- The loop over the list, which builds a growing array and gives up when `realloc` has no room for
another entry. -/
def outList (realloc : Nat → Bool) (assignedPort : Int) :
    List AddrInfo → List Attempts.RemoteEndpoint → Option (List Attempts.RemoteEndpoint)
  | [], out => some out
  | ptr :: res, out =>
    if ¬ptr.Taken then outList realloc assignedPort res out
    else if realloc out.length then
      outList realloc assignedPort res (out ++ [newNode assignedPort ptr])
    else none

/-- The calls of `ct_remote_endpoint_resolve_cb` that a completion makes, each with its endpoints;
none at all if a field is read that is not set on the node. -/
def resolveCalls (realloc : Nat → Bool) (parent : CandidateNode) (assignedPort status : Int)
    (res : List AddrInfo) : Option (List (List Attempts.RemoteEndpoint)) :=
  if status < 0 then
    -- the log line reads the host name
    match parent.remoteEndpoint with
    | none => none
    | some _ => some [[]]
  else
    match outList realloc assignedPort res [] with
    | none => some [[]]
    | some out => some [out]

/-! ### What a completion delivers -/

structure Carries (assignedPort : Int) (ptr : AddrInfo) (ep : Attempts.RemoteEndpoint) : Prop where
  port : ep.port = portOf assignedPort
  addressPort : ep.resolvedAddress.getPort = portOf assignedPort
  address : ∀ i : Fin 128, i.val < ptr.size → i ≠ 2 → i ≠ 3 → ep.resolvedAddress i = ptr.aiAddr i
  rest : ∀ i : Fin 128, ptr.size ≤ i.val → ep.resolvedAddress i = 0

def Completes (realloc : Nat → Bool) (parent : CandidateNode) (assignedPort status : Int)
    (res : List AddrInfo) : Prop :=
  ∃ eps, resolveCalls realloc parent assignedPort status res = some [eps] ∧
    (status < 0 → eps = []) ∧
    (0 ≤ status → List.Forall₂ (Carries assignedPort) (res.filter fun ptr => ptr.Taken) eps)

def Room (realloc : Nat → Bool) (res : List AddrInfo) : Prop :=
  ∀ i < (res.filter fun ptr => ptr.Taken).length, realloc i = true

section Loop

variable {realloc : Nat → Bool} (assignedPort : Int)

theorem portOf_lt : portOf assignedPort < 65536 := by
  unfold portOf
  omega

theorem outList_eq_some_iff (res : List AddrInfo) (out eps : List Attempts.RemoteEndpoint) :
    outList realloc assignedPort res out = some eps ↔
      (∀ i < (res.filter fun ptr => ptr.Taken).length, realloc (out.length + i) = true) ∧
        out ++ (res.filter fun ptr => ptr.Taken).map (newNode assignedPort) = eps := by
  induction res generalizing out with
  | nil => simp [outList]
  | cons ptr res ih =>
    rw [outList]
    by_cases htaken : ptr.Taken
    · rw [if_neg (not_not.mpr htaken), List.filter_cons_of_pos (by simpa using htaken),
        List.length_cons, Nat.forall_lt_succ_left', Nat.add_zero]
      cases realloc out.length with
      | false => simp
      | true =>
        rw [if_pos rfl, ih, List.length_append, List.append_assoc]
        simp [Nat.add_assoc, Nat.add_comm 1]
    · rw [if_pos htaken, List.filter_cons_of_neg (by simpa using htaken)]
      exact ih out

theorem AddrInfo.four_le_size (ptr : AddrInfo) : 4 ≤ ptr.size := by
  unfold AddrInfo.size
  split <;> decide

theorem carries_newNode (ptr : AddrInfo) : Carries assignedPort ptr (newNode assignedPort ptr) where
  port := rfl
  addressPort := by
    have hlt := portOf_lt assignedPort
    have h2 : (newNode assignedPort ptr).resolvedAddress 2 =
        BitVec.ofNat 8 (portOf assignedPort / 256) := rfl
    have h3 : (newNode assignedPort ptr).resolvedAddress 3 =
        BitVec.ofNat 8 (portOf assignedPort) := rfl
    rw [Storage.getPort, h2, h3, BitVec.toNat_ofNat, BitVec.toNat_ofNat]
    omega
  address := by
    intro i hi h2 h3
    unfold newNode Storage.write Storage.copyFront
    dsimp only
    rw [dif_neg (by omega), if_pos hi]
  rest := by
    intro i hi
    have := ptr.four_le_size
    unfold newNode Storage.write Storage.copyFront
    dsimp only
    rw [dif_neg (by omega), if_neg (by omega)]
    rfl

theorem forall₂_newNode (res : List AddrInfo) :
    List.Forall₂ (Carries assignedPort) (res.filter fun ptr => ptr.Taken)
      ((res.filter fun ptr => ptr.Taken).map (newNode assignedPort)) := by
  rw [List.forall₂_map_right_iff]
  exact List.forall₂_same.mpr fun ptr _ => carries_newNode assignedPort ptr

theorem outList_nil_eq_some_iff (res : List AddrInfo) (eps : List Attempts.RemoteEndpoint) :
    outList realloc assignedPort res [] = some eps ↔ Room realloc res ∧
      (res.filter fun ptr => ptr.Taken).map (newNode assignedPort) = eps := by
  rw [outList_eq_some_iff, List.nil_append]
  simp only [List.length_nil, Nat.zero_add]
  rfl

theorem not_room_of_outList_eq_none {res : List AddrInfo}
    (h : outList realloc assignedPort res [] = none) :
    ¬Room realloc res ∧ (res.filter fun ptr => ptr.Taken) ≠ [] := by
  have hroom : ¬Room realloc res := by
    intro hroom
    have hsome := (outList_nil_eq_some_iff assignedPort res _).mpr ⟨hroom, rfl⟩
    rw [h] at hsome
    cases hsome
  refine ⟨hroom, fun hnil => hroom fun i hi => ?_⟩
  rw [hnil] at hi
  exact absurd hi (Nat.not_lt_zero i)

end Loop

theorem completes_iff (realloc : Nat → Bool) (parent : CandidateNode) (assignedPort status : Int)
    (res : List AddrInfo) : Completes realloc parent assignedPort status res ↔
      status < 0 ∧ parent.remoteEndpoint.isSome = true ∨ 0 ≤ status ∧ Room realloc res := by
  unfold Completes resolveCalls
  split
  next h =>
    rw [or_iff_left fun h' => absurd h'.1 (by omega), and_iff_right h]
    cases parent.remoteEndpoint with
    | none => simp
    | some remote => exact iff_of_true ⟨[], rfl, fun _ => rfl, fun h' => absurd h' (by omega)⟩ rfl
  next h =>
    rw [or_iff_right fun h' => h h'.1, and_iff_right (Int.not_lt.mp h)]
    cases hout : outList realloc assignedPort res [] with
    | none =>
      obtain ⟨hroom, htaken⟩ := not_room_of_outList_eq_none assignedPort hout
      refine iff_of_false ?_ hroom
      rintro ⟨eps, heps, _, hcarries⟩
      cases heps
      exact htaken (List.forall₂_nil_right_iff.mp (hcarries (Int.not_lt.mp h)))
    | some eps =>
      obtain ⟨hroom, rfl⟩ := (outList_nil_eq_some_iff assignedPort res eps).mp hout
      refine iff_of_true ⟨_, rfl, fun h' => absurd h' h, fun _ => ?_⟩ hroom
      exact forall₂_newNode assignedPort res

/-! ### The nodes that lookups are issued for -/

def CandidateTree.NoRemotes (t : CandidateTree) : Prop :=
  ∀ l ∈ t.forest.nodes, l.2.type = .protocol → l.2.remoteEndpoint = none

namespace CandidateTree.NoRemotes

variable {t : CandidateTree}

theorem appendEach (h : t.NoRemotes) (parent : Nat) {nodes : List CandidateNode}
    (hnodes : ∀ node ∈ nodes, node.type = .protocol → node.remoteEndpoint = none) :
    (t.appendEach parent nodes).NoRemotes := by
  intro l hl
  rw [appendEach_eq] at hl
  rcases Forest.mem_nodes_graft hl with hl | hl
  · exact h l hl
  · have hdata : l.2 ∈ nodes := by
      rw [← Forest.data_siblings t.nextId nodes]
      exact List.mem_map_of_mem hl
    exact hnodes l.2 hdata

theorem branchByPath (h : t.NoRemotes) (resolve : LocalEndpoint → List LocalEndpoint)
    (ep : LocalEndpoint) : (branchByPath resolve t ep).NoRemotes := by
  apply h.appendEach
  intro node hnode htype
  obtain ⟨p, _, rfl⟩ := List.mem_map.mp hnode
  rfl

theorem branchByProtocolOptions (h : t.NoRemotes) {alpns : List String} {parent : Nat × CandidateNode}
    {t' : CandidateTree} (ht' : branchByProtocolOptions alpns t parent = some t') : t'.NoRemotes := by
  rw [Gathering.branchByProtocolOptions] at ht'
  split at ht'
  · rw [← Option.some.inj ht']
    apply h.appendEach
    intro node hnode _
    obtain ⟨option, _, rfl⟩ := List.mem_map.mp hnode
    rfl
  · cases ht'

end CandidateTree.NoRemotes

theorem noRemotes_of_buildLocalTree {resolver : Resolver} {precon : Preconnection}
    {t : CandidateTree} (h : buildLocalTree resolver precon = some t) : t.NoRemotes := by
  have hpaths : (precon.localEndpointsOrEphemeral.foldl
      (branchByPath resolver.localEndpointResolve) .new).NoRemotes := by
    refine foldl_invariant (I := CandidateTree.NoRemotes) (fun t ep _ ht => ht.branchByPath _ ep) ?_
    intro l hl htype
    rw [List.mem_singleton.mp hl] at htype
    cases htype
  have hloop : ∀ (ls : List (Nat × CandidateNode)) (t t' : CandidateTree), t.NoRemotes →
      ls.foldlM (branchByProtocolOptions precon.alpns) t = some t' → t'.NoRemotes := by
    intro ls
    induction ls with
    | nil =>
      intro t t' ht ht'
      rw [← Option.some.inj ht']
      exact ht
    | cons l ls ih =>
      intro t t' ht ht'
      rw [List.foldlM_cons] at ht'
      obtain ⟨t'', hnext, hrest⟩ := Option.bind_eq_some_iff.mp ht'
      exact ih t'' t' (ht.branchByProtocolOptions hnext) hrest
  exact hloop _ _ _ hpaths h

/-! ### The gather context -/

def sockAddr (s : Storage) : SockAddr :=
  if s.ssFamily = Storage.afInet then .inet s.sinAddr s.getPort
  else if s.ssFamily = Storage.afInet6 then .inet6 s.sin6Addr s.getPort s.sin6ScopeId.toNat
  else .unspec

def remoteEndpoint (ep : Attempts.RemoteEndpoint) : RemoteEndpoint :=
  ⟨ep.port, ep.service, ep.hostname, sockAddr ep.resolvedAddress⟩

def finishLookup (properties : SelectionProperties) (realloc : Nat → Bool) (g : GatherContext)
    (parent : Nat × CandidateNode) (assignedPort status : Int) (res : List AddrInfo) :
    GatherContext :=
  if g.crashed then g
  else
    match resolveCalls realloc parent.2 assignedPort status res with
    | none => { g with crashed := true }
    | some calls =>
      calls.foldl (fun g eps => remoteEndpointResolveCb properties parent (eps.map remoteEndpoint) g) g

theorem finishLookup_eq (properties : SelectionProperties) (realloc : Nat → Bool) (g : GatherContext)
    (parent : Nat × CandidateNode) (assignedPort status : Int) (res : List AddrInfo) :
    finishLookup properties realloc g parent assignedPort status res =
      onUvGetaddrinfoCb properties g ⟨parent, if status < 0 then none
        else some (((outList realloc assignedPort res []).getD []).map remoteEndpoint)⟩ := by
  unfold finishLookup onUvGetaddrinfoCb resolveCalls
  split
  next => rfl
  next =>
    rcases lt_or_ge status 0 with hstatus | hstatus
    · rw [if_pos hstatus, if_pos hstatus]
      cases parent.2.remoteEndpoint with
      | none => rfl
      | some remote => rfl
    · rw [if_neg (by omega), if_neg (by omega)]
      cases outList realloc assignedPort res [] with
      | none => rfl
      | some out => rfl

/-- The completion is right exactly when the lookup did not fail and there is memory for its
endpoints: a PROTOCOL node has no remote endpoint whose host name could be logged. -/
theorem dns_completion (resolver : Resolver) (precon : Preconnection) (tree : CandidateTree)
    (htree : buildLocalTree resolver precon = some tree) (parent : Nat × CandidateNode)
    (hparent : parent ∈ tree.forest.nodes) (htype : parent.2.type = .protocol)
    (realloc : Nat → Bool) (assignedPort status : Int) (res : List AddrInfo) :
    (Completes realloc parent.2 assignedPort status res ↔ 0 ≤ status ∧ Room realloc res) ∧
      ∀ properties g, g.crashed = false →
        (0 ≤ status → finishLookup properties realloc g parent assignedPort status res =
          remoteEndpointResolveCb properties parent
            (((outList realloc assignedPort res []).getD []).map remoteEndpoint) g) ∧
        (status < 0 →
          (finishLookup properties realloc g parent assignedPort status res).crashed = true) := by
  have hremote := noRemotes_of_buildLocalTree htree parent hparent htype
  constructor
  · rw [completes_iff, hremote]
    exact or_iff_right fun h => Bool.false_ne_true h.2
  · intro properties g hg
    rw [finishLookup_eq, onUvGetaddrinfoCb, hg, if_neg Bool.false_ne_true]
    constructor
    · intro hstatus
      rw [if_neg (by omega)]
    · intro hstatus
      rw [if_pos hstatus, hremote]
      rfl

theorem dns_completion_of_success :
    ∃ tree parent, buildLocalTree (oneLocal .asyncFailure) (oneRemote (some "host") .unspec) =
        some tree ∧ parent ∈ tree.forest.nodes ∧ parent.2.type = .protocol ∧
      Completes (fun _ => true) parent.2 443 0
        [⟨Storage.afInet, .withIpv4 ![192, 0, 2, 1]⟩, ⟨Storage.afUnspec, .zero⟩] := by
  refine ⟨_, (2, protocolNode (pathNode ⟨0, none, none, .inet 0x0A000001#32 0⟩) ⟨.udp, none⟩), rfl,
    by decide, rfl, ?_⟩
  exact (dns_completion (oneLocal .asyncFailure) (oneRemote (some "host") .unspec) _ rfl _
    (by decide) rfl (fun _ => true) 443 0 _).1.mpr ⟨Int.le_refl 0, fun _ _ => rfl⟩

/-- `UV_EAI_NONAME`, -3008: the host name of a remote endpoint that is not there is read. -/
theorem failed_lookup_reads_null :
    ∃ tree parent, buildLocalTree (oneLocal .asyncFailure) (oneRemote (some "host") .unspec) =
        some tree ∧ parent ∈ tree.forest.nodes ∧ parent.2.type = .protocol ∧
      resolveCalls (fun _ => true) parent.2 443 (-3008) [] = none ∧
      ¬Completes (fun _ => true) parent.2 443 (-3008) [] := by
  refine ⟨_, (2, protocolNode (pathNode ⟨0, none, none, .inet 0x0A000001#32 0⟩) ⟨.udp, none⟩), rfl,
    by decide, rfl, rfl, ?_⟩
  rintro ⟨eps, hcalls, _⟩
  cases hcalls

end CTaps.Gathering
