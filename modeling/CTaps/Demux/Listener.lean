import CTaps.Demux.Table
import CTaps.Messages.Receive

/-! A listening UDP socket. The first datagram of a sender makes a connection, whose remote endpoint
is a copy of the raw bytes of the source and under which it is entered in the demux table; the later
ones are looked up under the bytes they come with. The application asks for messages at any time,
also while `connection_received` is running. -/

namespace CTaps.Demux

open Function
open Attempts (Storage RemoteEndpoint)
open Messages (Inbox ReceiveCallbacks)

variable {M K : Type}

structure Source where
  address : Storage
  inet : address.Inet
  padding : address.ssFamily = Storage.afInet → address.sameBytes Storage.zero 8 16 = true

def senderOf (s : Storage) : Nat × Key :=
  (s.ssFamily, ((List.finRange 128).filter fun i =>
    decide (2 ≤ i.val ∧ i.val < if s.ssFamily = Storage.afInet then 8 else 28)).map s)

theorem senderOf_eq_iff {a b : Storage} :
    senderOf a = senderOf b ↔ a.ssFamily = b.ssFamily ∧
      a.sameBytes b 2 (if b.ssFamily = Storage.afInet then 8 else 28) = true := by
  rw [senderOf, senderOf, Prod.mk.injEq]
  refine and_congr_right fun hfamily => ?_
  rw [hfamily, Storage.sameBytes_iff]
  simp

theorem senderOf_eq_of_equal {a b : Storage} (hb : b.Inet) (h : a.equal b = true) :
    senderOf a = senderOf b := by
  obtain ⟨hfamily, hbytes⟩ := Storage.equal_iff.mp h
  refine senderOf_eq_iff.mpr ⟨hfamily, Storage.sameBytes_iff.mpr fun i _ hi => hbytes i ?_⟩
  rw [Storage.sockaddrLength_congr hfamily, Storage.sockaddrLength]
  rcases hb with hinet | hinet6
  · rw [if_pos hinet] at hi ⊢
    exact Nat.lt_trans hi (by decide)
  · have hnot : b.ssFamily ≠ Storage.afInet := hinet6 ▸ Storage.afInet_ne_afInet6.symm
    rw [if_neg hnot] at hi ⊢
    rw [if_pos hinet6]
    exact hi

theorem equal_iff_senderOf {a b : Source} :
    a.address.equal b.address = true ↔ senderOf a.address = senderOf b.address := by
  refine ⟨senderOf_eq_of_equal b.inet, fun h => ?_⟩
  obtain ⟨hfamily, hbytes⟩ := senderOf_eq_iff.mp h
  have hbytes := Storage.sameBytes_iff.mp hbytes
  have hfront := Storage.family_bytes hfamily
  refine Storage.equal_iff.mpr ⟨hfamily, fun i hi => ?_⟩
  rw [Storage.sockaddrLength_congr hfamily, Storage.sockaddrLength] at hi
  rcases Nat.lt_or_ge i.val 2 with h2 | h2
  · exact hfront i h2
  rcases b.inet with hinet | hinet6
  · have ha := Storage.sameBytes_iff.mp (a.padding (hfamily.trans hinet))
    have hb := Storage.sameBytes_iff.mp (b.padding hinet)
    rw [if_pos hinet] at hi hbytes
    rcases Nat.lt_or_ge i.val 8 with h8 | h8
    · exact hbytes i h2 h8
    · exact (ha i h8 hi).trans (hb i h8 hi).symm
  · have hnot : b.address.ssFamily ≠ Storage.afInet := hinet6 ▸ Storage.afInet_ne_afInet6.symm
    rw [if_neg hnot] at hi hbytes
    rw [if_pos hinet6] at hi
    exact hbytes i h2 hi

theorem keyOf_eq_iff_senderOf {a b : Source} :
    keyOf a.address = keyOf b.address ↔ senderOf a.address = senderOf b.address := by
  rw [keyOf_eq_iff b.inet, equal_iff_senderOf]

theorem senderOf_eq_iff_ctSockaddrEqual {a b : Source} (ha : a.address.Bare) (hb : b.address.Bare) :
    senderOf a.address = senderOf b.address ↔ a.address.ctSockaddrEqual b.address = true := by
  constructor
  · intro h
    obtain ⟨hfamily, hbytes⟩ := senderOf_eq_iff.mp h
    have hbytes := Storage.sameBytes_iff.mp hbytes
    unfold Storage.ctSockaddrEqual
    rw [if_neg (not_not.mpr hfamily), hfamily]
    rcases b.inet with hinet | hinet6
    · rw [if_pos hinet] at hbytes ⊢
      rw [Bool.and_eq_true, Storage.sameBytes_iff, Storage.sameBytes_iff]
      exact ⟨fun i _ _ => hbytes i (by omega) (by omega), fun i _ _ => hbytes i (by omega) (by omega)⟩
    · have hnot : b.address.ssFamily ≠ Storage.afInet := hinet6 ▸ Storage.afInet_ne_afInet6.symm
      rw [if_neg hnot] at hbytes ⊢
      rw [if_pos hinet6, Bool.and_eq_true, Bool.and_eq_true, Storage.sameBytes_iff,
        Storage.sameBytes_iff, Storage.sameBytes_iff]
      exact ⟨⟨fun i _ _ => hbytes i (by omega) (by omega),
        fun i _ _ => hbytes i (by omega) (by omega)⟩, fun i _ _ => hbytes i (by omega) (by omega)⟩
  · intro h
    exact equal_iff_senderOf.mp (Storage.equal_of_ctSockaddrEqual h ha hb)

/-! ### The socket -/

inductive Call (K : Type)
  /-- `ct_receive_message`. -/
  | receive (c : Nat) (k : ReceiveCallbacks K)
  /-- Its innermost receive callback returns. -/
  | returned (c : Nat)
deriving DecidableEq, Repr

inductive Happening (M : Type)
  | connectionReceived (c : Nat)
  | onProtocolReceive (c : Nat) (m : M)
deriving DecidableEq, Repr

def Happening.connection : Happening M → Nat
  | .connectionReceived c => c
  | .onProtocolReceive c _ => c

structure Listening (M K : Type) where
  /-- The listener has the callback `connection_received`. -/
  connectionReceived : Bool := true
  demuxTable : List (Key × Nat) := []
  numConns : Nat := 0
  /-- The active remote endpoint of a connection. -/
  remote : Nat → RemoteEndpoint := fun _ => .build
  inbox : Nat → Inbox M K := fun _ => {}
  /-- Oldest first. -/
  log : List (Happening M) := []

namespace Listening

def modInbox (c : Nat) (f : Inbox M K → Inbox M K) (s : Listening M K) : Listening M K :=
  { s with inbox := update s.inbox c (f (s.inbox c)) }

def call (s : Listening M K) : Call K → Listening M K
  | .receive c k => if c < s.numConns then s.modInbox c (Inbox.receiveMessage k) else s
  | .returned c => if c < s.numConns then s.modInbox c Inbox.callbackReturned else s

/-- `ct_connection_on_protocol_receive` of a connection without a framer. -/
def onProtocolReceive (c : Nat) (m : M) (s : Listening M K) : Listening M K :=
  { s.modInbox c (Inbox.onProtocolReceive [m]) with log := s.log ++ [.onProtocolReceive c m] }

/-- `ct_connection_create_server_connection` for the source of a datagram, and the entry of the
connection in the demux table. The source looks at neither of the two results. -/
def createServerConnection (source : Storage) (s : Listening M K) : Listening M K :=
  let remote := (RemoteEndpoint.build.fromSockaddr source).toOption.getD .build
  { s with
    demuxTable := (insertDemuxedConnection s.demuxTable remote s.numConns).toOption.getD s.demuxTable
    numConns := s.numConns + 1
    remote := update s.remote s.numConns remote }

/-- `ct_socket_manager_connection_received_cb`. The application makes the calls `during` it. -/
def connectionReceivedCb (c : Nat) (during : List (Call K)) (s : Listening M K) : Listening M K :=
  if s.connectionReceived then
    during.foldl call { s with log := s.log ++ [.connectionReceived c] }
  else s

/-- `udp_multiplex_received_message`, with the listener open. -/
def udpMultiplexReceivedMessage (source : Storage) (m : M) (during : List (Call K))
    (s : Listening M K) : Listening M K :=
  match getFromDemuxTable s.demuxTable source with
  | some c => s.onProtocolReceive c m
  | none =>
    let c := s.numConns
    ((s.createServerConnection source).connectionReceivedCb c during).onProtocolReceive c m

end Listening

inductive Input (M K : Type)
  | datagram (source : Source) (m : M) (during : List (Call K))
  | call (x : Call K)

def Listening.step (s : Listening M K) : Input M K → Listening M K
  | .datagram source m during => s.udpMultiplexReceivedMessage source.address m during
  | .call x => s.call x

def Listening.run (inputs : List (Input M K)) : Listening M K := Lib.run Listening.step {} inputs

def datagrams : List (Input M K) → List ((Nat × Key) × M) :=
  List.filterMap fun
    | .datagram source m _ => some (senderOf source.address, m)
    | .call _ => none

def payloads (ds : List ((Nat × Key) × M)) (x : Nat × Key) : List M :=
  ds.filterMap fun d => if d.1 = x then some d.2 else none

def Call.request : Call K → Option (ReceiveCallbacks K)
  | .receive _ k => some k
  | .returned _ => none

def requests : List (Input M K) → List (ReceiveCallbacks K) :=
  List.flatMap fun
    | .datagram _ _ during => during.filterMap Call.request
    | .call x => x.request.toList

/-! ### Looking up -/

theorem fromSockaddr_build (source : Source) :
    ∃ ep, RemoteEndpoint.build.fromSockaddr source.address = .ok ep ∧
      ep.resolvedAddress.equal source.address = true := by
  have hcopy (n : Nat) (hn : 2 ≤ n) :
      (Storage.zero.copyFront source.address n).ssFamily = source.address.ssFamily :=
    Storage.ssFamily_congr (if_pos (Nat.lt_of_lt_of_le Nat.zero_lt_two hn))
      (if_pos (Nat.lt_of_lt_of_le Nat.one_lt_two hn))
  have hequal (n : Nat) (hn : 2 ≤ n) (hlength : source.address.sockaddrLength = n) :
      (Storage.zero.copyFront source.address n).equal source.address = true := by
    refine Storage.equal_iff.mpr ⟨hcopy n hn, fun i hi => if_pos ?_⟩
    rwa [Storage.sockaddrLength_congr (hcopy n hn), hlength] at hi
  rcases source.inet with hinet | hinet6
  · refine ⟨⟨source.address.getPort, none, none,
      Storage.zero.copyFront source.address Storage.sizeofSockaddrIn⟩, ?_,
      hequal _ (by decide) (if_pos hinet)⟩
    simp [RemoteEndpoint.fromSockaddr, RemoteEndpoint.build, Storage.fromSockaddr, hinet]
  · have hnot : source.address.ssFamily ≠ Storage.afInet :=
      hinet6 ▸ Storage.afInet_ne_afInet6.symm
    refine ⟨⟨source.address.getPort, none, none,
      Storage.zero.copyFront source.address Storage.sizeofSockaddrIn6⟩, ?_,
      hequal _ (by decide) ((if_neg hnot).trans (if_pos hinet6))⟩
    simp [RemoteEndpoint.fromSockaddr, RemoteEndpoint.build, Storage.fromSockaddr, hinet6,
      Storage.afInet_ne_afInet6.symm]

namespace Listening

structure Keyed (s : Listening M K) : Prop where
  found : ∀ (source : Source) (c : Nat),
    getFromDemuxTable s.demuxTable source.address = some c ↔
      c < s.numConns ∧ senderOf (s.remote c).resolvedAddress = senderOf source.address
  source : ∀ c < s.numConns,
    ∃ source : Source, senderOf (s.remote c).resolvedAddress = senderOf source.address

variable {s : Listening M K}

theorem Keyed.inj (h : s.Keyed) {c d : Nat} (hc : c < s.numConns) (hd : d < s.numConns)
    (hsame : senderOf (s.remote c).resolvedAddress = senderOf (s.remote d).resolvedAddress) :
    c = d := by
  obtain ⟨source, hsource⟩ := h.source d hd
  have hfc := (h.found source c).mpr ⟨hc, hsame.trans hsource⟩
  have hfd := (h.found source d).mpr ⟨hd, hsource⟩
  exact Option.some.inj (hfc.symm.trans hfd)

theorem createServerConnection_eq {source : Source}
    (hnone : getFromDemuxTable s.demuxTable source.address = none) :
    ∃ ep key, senderOf ep.resolvedAddress = senderOf source.address ∧
      keyOf source.address = some key ∧ s.demuxTable.lookup key = none ∧
      s.createServerConnection source.address =
        { s with
          demuxTable := (key, s.numConns) :: s.demuxTable
          numConns := s.numConns + 1
          remote := update s.remote s.numConns ep } := by
  obtain ⟨ep, hep, hequal⟩ := fromSockaddr_build source
  obtain ⟨key, hkey⟩ := exists_keyOf source.inet
  have hepKey : keyOf ep.resolvedAddress = some key :=
    ((keyOf_eq_iff source.inet).mpr hequal).trans hkey
  have hlookup : s.demuxTable.lookup key = none := by
    simpa [getFromDemuxTable, hkey] using hnone
  refine ⟨ep, key, senderOf_eq_of_equal source.inet hequal, hkey, hlookup, ?_⟩
  simp [createServerConnection, hep, insertDemuxedConnection, hepKey, hlookup, Except.toOption]

theorem Keyed.create (h : s.Keyed) {source : Source}
    (hnone : getFromDemuxTable s.demuxTable source.address = none) :
    (s.createServerConnection source.address).Keyed ∧
      senderOf ((s.createServerConnection source.address).remote s.numConns).resolvedAddress =
        senderOf source.address := by
  obtain ⟨ep, key, hsender, hkey, hlookup, hs⟩ := createServerConnection_eq hnone
  rw [hs]
  refine ⟨⟨fun other c => ?_, fun c hc => ?_⟩, ?_⟩
  · obtain ⟨k, hk⟩ := exists_keyOf other.inet
    have hfound := h.found other c
    have hsame : k = key ↔ senderOf other.address = senderOf source.address := by
      rw [← keyOf_eq_iff_senderOf, hk, hkey, Option.some.injEq]
    simp only [getFromDemuxTable, hk, List.lookup_cons] at hfound ⊢
    rcases eq_or_ne k key with rfl | hne
    · -- the sender of the new connection: no older connection has it
      have hnot := hfound.not.mp (by rw [hlookup]; exact (Option.some_ne_none c).symm)
      rw [beq_self_eq_true, Option.some.injEq]
      constructor
      · rintro rfl
        exact ⟨Nat.lt_succ_self _, by rw [update_self, hsender, hsame.mp rfl]⟩
      · rintro ⟨hc, hremote⟩
        by_contra hne
        rw [update_of_ne (Ne.symm hne)] at hremote
        exact hnot ⟨by omega, hremote⟩
    · rw [beq_eq_false_iff_ne.mpr hne, hfound]
      have hother : senderOf other.address ≠ senderOf source.address := fun h => hne (hsame.mpr h)
      constructor
      · rintro ⟨hc, hremote⟩
        exact ⟨Nat.lt_succ_of_lt hc, by rwa [update_of_ne (Nat.ne_of_lt hc)]⟩
      · rintro ⟨hc, hremote⟩
        rcases Nat.lt_succ_iff_lt_or_eq.mp hc with hlt | rfl
        · rw [update_of_ne (Nat.ne_of_lt hlt)] at hremote
          exact ⟨hlt, hremote⟩
        · rw [update_self, hsender] at hremote
          exact absurd hremote.symm hother
  · show ∃ source, senderOf (update s.remote s.numConns ep c).resolvedAddress = _
    rcases Nat.lt_succ_iff_lt_or_eq.mp hc with hlt | rfl
    · rw [update_of_ne (Nat.ne_of_lt hlt)]
      exact h.source c hlt
    · rw [update_self]
      exact ⟨source, hsender⟩
  · show senderOf (update s.remote s.numConns ep s.numConns).resolvedAddress = _
    rw [update_self, hsender]

/-! ### Serving the senders -/

def Served (ms : List M) (ks : List (ReceiveCallbacks K)) (x : Inbox M K) : Prop :=
  ∃ es, x = Inbox.run es ∧ Inbox.arrivals es = ms ∧ ∀ k ∈ Inbox.requests es, k ∈ ks

structure Serves (xs : List (Nat × Key)) (ds : List ((Nat × Key) × M))
    (ks : List (ReceiveCallbacks K)) (s : Listening M K) : Prop where
  callback : s.connectionReceived = true
  keyed : s.Keyed
  known : ∀ x, (∃ c < s.numConns, senderOf (s.remote c).resolvedAddress = x) ↔ x ∈ xs
  covered : ∀ d ∈ ds, d.1 ∈ xs
  log : ∀ c < s.numConns, s.log.filter (fun h => decide (h.connection = c)) =
    .connectionReceived c ::
      (payloads ds (senderOf (s.remote c).resolvedAddress)).map (.onProtocolReceive c)
  bound : ∀ h ∈ s.log, h.connection < s.numConns
  inbox : ∀ c < s.numConns,
    Served (payloads ds (senderOf (s.remote c).resolvedAddress)) ks (s.inbox c)
  unused : ∀ c, s.numConns ≤ c → s.inbox c = {}

variable {xs : List (Nat × Key)} {ds : List ((Nat × Key) × M)} {ks : List (ReceiveCallbacks K)}

theorem run_concat (es : List (Inbox.Event M K)) (e : Inbox.Event M K) :
    Inbox.run (es ++ [e]) = (Inbox.run es).step e := by
  rw [Inbox.run, Lib.run_append]
  rfl

theorem Served.receive {ms : List M} {x : Inbox M K} (h : Served ms ks x)
    {k : ReceiveCallbacks K} (hk : k ∈ ks) : Served ms ks (x.receiveMessage k) := by
  obtain ⟨es, rfl, rfl, hrequests⟩ := h
  refine ⟨es ++ [Inbox.Event.receive k], (run_concat es (.receive k)).symm, by simp [Inbox.arrivals],
    fun k' hk' => ?_⟩
  have hmem : k' ∈ Inbox.requests es ∨ k' = k := by simpa [Inbox.requests] using hk'
  rcases hmem with hold | rfl
  · exact hrequests k' hold
  · exact hk

theorem Served.returned {ms : List M} {x : Inbox M K} (h : Served ms ks x) :
    Served ms ks x.callbackReturned := by
  obtain ⟨es, rfl, rfl, hrequests⟩ := h
  exact ⟨es ++ [Inbox.Event.returned], (run_concat es .returned).symm, by simp [Inbox.arrivals],
    by simpa [Inbox.requests] using hrequests⟩

theorem Served.incoming {ms : List M} {x : Inbox M K} (h : Served ms ks x) (m : M) :
    Served (ms ++ [m]) ks (x.onProtocolReceive [m]) := by
  obtain ⟨es, rfl, rfl, hrequests⟩ := h
  exact ⟨es ++ [Inbox.Event.incoming m], (run_concat es (.incoming m)).symm, by simp [Inbox.arrivals],
    by simpa [Inbox.requests] using hrequests⟩

theorem Served.data {ms : List M} {x : Inbox M K} (h : Served ms ks x)
    (hks : ∀ k ∈ ks, k.receiveCallback = true) : x.data = ms ∧ x.crashed = false := by
  obtain ⟨es, rfl, rfl, hrequests⟩ := h
  have hes : ∀ e ∈ es, Inbox.HasCallback e := by
    intro e he
    cases e with
    | receive k => exact hks k (hrequests k (List.mem_filterMap.mpr ⟨_, he, rfl⟩))
    | incoming m => trivial
    | returned => trivial
  have hmatched := Inbox.matched_run hes
  exact ⟨hmatched.pairs.met_append_offers, hmatched.not_crashed⟩

theorem Serves.modInbox (h : s.Serves xs ds ks) {c : Nat} (hc : c < s.numConns)
    {f : Inbox M K → Inbox M K} (hf : ∀ ms x, Served ms ks x → Served ms ks (f x)) :
    (s.modInbox c f).Serves xs ds ks := by
  refine ⟨h.callback, ⟨h.keyed.found, h.keyed.source⟩, h.known, h.covered, h.log, h.bound, fun d hd => ?_,
    fun d hd => ?_⟩
  · show Served _ ks (update s.inbox c (f (s.inbox c)) d)
    rcases eq_or_ne d c with rfl | hne
    · rw [update_self]
      exact hf _ _ (h.inbox d hd)
    · rw [update_of_ne hne]
      exact h.inbox d hd
  · show update s.inbox c (f (s.inbox c)) d = {}
    rw [update_of_ne (Nat.ne_of_gt (Nat.lt_of_lt_of_le hc hd))]
    exact h.unused d hd

theorem Serves.call (h : s.Serves xs ds ks) {x : Call K} (hx : ∀ k ∈ x.request, k ∈ ks) :
    (s.call x).Serves xs ds ks := by
  cases x with
  | receive c k =>
    simp only [Listening.call]
    split
    · next hc => exact h.modInbox hc fun _ _ hserved => hserved.receive (hx k rfl)
    · exact h
  | returned c =>
    simp only [Listening.call]
    split
    · next hc => exact h.modInbox hc fun _ _ hserved => hserved.returned
    · exact h

theorem Serves.calls (h : s.Serves xs ds ks) {during : List (Call K)}
    (hks : ∀ k ∈ during.filterMap Call.request, k ∈ ks) :
    (during.foldl Listening.call s).Serves xs ds ks :=
  Lib.foldl_invariant (I := Serves xs ds ks)
    (fun _ x hx ht => ht.call fun k hk => hks k (List.mem_filterMap.mpr ⟨x, hx, hk⟩)) h

theorem calls_keep (s : Listening M K) (during : List (Call K)) :
    (during.foldl Listening.call s).numConns = s.numConns ∧
      (during.foldl Listening.call s).remote = s.remote ∧
      (during.foldl Listening.call s).log = s.log := by
  have hkeeps := Lib.foldl_keeps (f := Listening.call) (fun t : Listening M K => (t.numConns, t.remote, t.log))
    (fun t x => by cases x <;> simp only [Listening.call] <;> split <;> rfl) s during
  simpa using hkeeps

theorem payloads_concat (ds : List ((Nat × Key) × M)) (x : Nat × Key) (m : M) (y : Nat × Key) :
    payloads (ds ++ [(x, m)]) y = payloads ds y ++ if x = y then [m] else [] := by
  rw [payloads, payloads, List.filterMap_append]
  split <;> simp_all

theorem Serves.handed (h : s.Serves xs ds ks) {c : Nat} (hc : c < s.numConns) (m : M) :
    (s.onProtocolReceive c m).Serves xs
      (ds ++ [(senderOf (s.remote c).resolvedAddress, m)]) ks := by
  -- among the connections only `c` has this sender
  have hother {d : Nat} (hd : d < s.numConns) (hne : d ≠ c) :
      senderOf (s.remote c).resolvedAddress ≠ senderOf (s.remote d).resolvedAddress :=
    fun hsame => hne (h.keyed.inj hd hc hsame.symm)
  refine ⟨h.callback, ⟨h.keyed.found, h.keyed.source⟩, h.known, ?_, fun d hd => ?_, ?_, fun d hd => ?_,
    fun d hd => ?_⟩
  · intro d hd
    rcases List.mem_append.mp hd with hold | hnew
    · exact h.covered d hold
    · rw [List.mem_singleton.mp hnew]
      exact (h.known _).mp ⟨c, hc, rfl⟩
  · show (s.log ++ [Happening.onProtocolReceive c m]).filter _ = _ :: List.map _ (payloads _ _)
    rw [List.filter_append, h.log d hd, payloads_concat]
    rcases eq_or_ne d c with rfl | hne
    · simp [onProtocolReceive, Listening.modInbox, Happening.connection]
    · have hsender := hother hd hne
      simp [onProtocolReceive, Listening.modInbox, Happening.connection, hne.symm, hsender]
  · intro g hg
    rcases List.mem_append.mp hg with hold | hnew
    · exact h.bound g hold
    · rw [List.mem_singleton.mp hnew]
      exact hc
  · show Served (payloads _ _) ks (update s.inbox c ((s.inbox c).onProtocolReceive [m]) d)
    rw [payloads_concat]
    rcases eq_or_ne d c with rfl | hne
    · rw [update_self]
      have hserved := (h.inbox d hd).incoming m
      simpa [onProtocolReceive, Listening.modInbox] using hserved
    · rw [update_of_ne hne]
      have hsender := hother hd hne
      simpa [onProtocolReceive, Listening.modInbox, hsender] using h.inbox d hd
  · show update s.inbox c ((s.inbox c).onProtocolReceive [m]) d = {}
    rw [update_of_ne (Nat.ne_of_gt (Nat.lt_of_lt_of_le hc hd))]
    exact h.unused d hd

theorem Serves.not_known (h : s.Serves xs ds ks) {source : Source}
    (hnone : getFromDemuxTable s.demuxTable source.address = none) :
    senderOf source.address ∉ xs := by
  intro hmem
  obtain ⟨c, hc, hsender⟩ := (h.known _).mpr hmem
  rw [(h.keyed.found source c).mpr ⟨hc, hsender⟩] at hnone
  exact Option.some_ne_none c hnone

theorem Serves.create (h : s.Serves xs ds ks) {source : Source}
    (hnone : getFromDemuxTable s.demuxTable source.address = none) :
    Serves (xs ++ [senderOf source.address]) ds ks
      { s.createServerConnection source.address with
        log := s.log ++ [.connectionReceived s.numConns] } := by
  obtain ⟨hkeyed, hnew⟩ := h.keyed.create hnone
  have hold {c : Nat} (hc : c < s.numConns) :
      (s.createServerConnection source.address).remote c = s.remote c :=
    update_of_ne (Nat.ne_of_lt hc) _ _
  have hfresh := h.not_known hnone
  have hnothing : payloads ds (senderOf source.address) = [] := by
    refine List.filterMap_eq_nil_iff.mpr fun d hd => if_neg fun hsame => ?_
    exact hfresh (hsame ▸ h.covered d hd)
  refine ⟨h.callback, ⟨hkeyed.found, hkeyed.source⟩, fun x => ?_, fun d hd => ?_, fun c hc => ?_,
    ?_, fun c hc => ?_, fun c hc => ?_⟩
  · rw [List.mem_append, List.mem_singleton, ← h.known x]
    constructor
    · rintro ⟨c, hc, rfl⟩
      rcases Nat.lt_succ_iff_lt_or_eq.mp hc with hlt | rfl
      · exact Or.inl ⟨c, hlt, by rw [hold hlt]⟩
      · exact Or.inr hnew
    · rintro (⟨c, hc, rfl⟩ | rfl)
      · exact ⟨c, Nat.lt_succ_of_lt hc, by rw [hold hc]⟩
      · exact ⟨s.numConns, Nat.lt_succ_self _, hnew⟩
  · exact List.mem_append_left _ (h.covered d hd)
  · show (s.log ++ [Happening.connectionReceived s.numConns]).filter _ = _
    rw [List.filter_append]
    rcases Nat.lt_succ_iff_lt_or_eq.mp hc with hlt | rfl
    · rw [h.log c hlt, hold hlt]
      simp [Happening.connection, (Nat.ne_of_lt hlt).symm]
    · have hnil : s.log.filter (fun g => decide (g.connection = s.numConns)) = [] := by
        refine List.filter_eq_nil_iff.mpr fun g hg => ?_
        simpa using Nat.ne_of_lt (h.bound g hg)
      rw [hnil, hnew, hnothing]
      simp [Happening.connection]
  · intro g hg
    rcases List.mem_append.mp hg with hmem | hmem
    · exact Nat.lt_succ_of_lt (h.bound g hmem)
    · rw [List.mem_singleton.mp hmem]
      exact Nat.lt_succ_self _
  · show Served _ ks (s.inbox c)
    rcases Nat.lt_succ_iff_lt_or_eq.mp hc with hlt | rfl
    · rw [hold hlt]
      exact h.inbox c hlt
    · rw [hnew, hnothing, h.unused _ (Nat.le_refl _)]
      exact ⟨[], rfl, rfl, fun k hk => absurd hk List.not_mem_nil⟩
  · exact h.unused c (Nat.le_of_succ_le hc)

theorem Serves.of_mem_iff (h : s.Serves xs ds ks) {ys : List (Nat × Key)}
    {ls : List (ReceiveCallbacks K)} (hys : ∀ x, x ∈ xs ↔ x ∈ ys) (hls : ∀ k ∈ ks, k ∈ ls) :
    s.Serves ys ds ls where
  callback := h.callback
  keyed := h.keyed
  known x := (h.known x).trans (hys x)
  covered d hd := (hys _).mp (h.covered d hd)
  log := h.log
  bound := h.bound
  inbox c hc := by
    obtain ⟨es, hx, hms, hks⟩ := h.inbox c hc
    exact ⟨es, hx, hms, fun k hk => hls k (hks k hk)⟩
  unused := h.unused

theorem Serves.datagram (h : s.Serves xs ds ks) (source : Source) (m : M) {during : List (Call K)}
    (hks : ∀ k ∈ during.filterMap Call.request, k ∈ ks) :
    (s.udpMultiplexReceivedMessage source.address m during).Serves
      (xs ++ [senderOf source.address]) (ds ++ [(senderOf source.address, m)]) ks ∧
    ∃ c, senderOf ((s.udpMultiplexReceivedMessage source.address m during).remote c).resolvedAddress =
        senderOf source.address ∧
      (s.udpMultiplexReceivedMessage source.address m during).log =
        s.log ++ (if senderOf source.address ∈ xs then [] else [.connectionReceived c]) ++
          [.onProtocolReceive c m] := by
  unfold udpMultiplexReceivedMessage
  split
  · next c hfound =>
    obtain ⟨hc, hsender⟩ := (h.keyed.found source c).mp hfound
    have hmem : senderOf source.address ∈ xs := (h.known _).mp ⟨c, hc, hsender⟩
    have hhanded := h.handed hc m
    rw [hsender] at hhanded
    refine ⟨hhanded.of_mem_iff (fun x => ?_) fun _ hk => hk, c, hsender, ?_⟩
    · rw [List.mem_append, List.mem_singleton]
      exact ⟨Or.inl, fun hx => hx.elim id fun heq => heq ▸ hmem⟩
    · rw [if_pos hmem, List.append_nil]
      rfl
  · next hnone =>
    have hnot := h.not_known hnone
    have hcreated := h.create hnone
    have hserves := hcreated.calls hks
    obtain ⟨hconns, hremote, hlog⟩ := calls_keep
      { s.createServerConnection source.address with
        log := s.log ++ [.connectionReceived s.numConns] } during
    have hsender := (h.keyed.create hnone).2
    have hcb : (s.createServerConnection source.address).connectionReceivedCb s.numConns during =
        during.foldl Listening.call { s.createServerConnection source.address with
          log := s.log ++ [.connectionReceived s.numConns] } := if_pos h.callback
    dsimp only
    rw [hcb]
    have hhanded := hserves.handed
      (Nat.lt_of_lt_of_eq (Nat.lt_succ_self s.numConns) hconns.symm) m
    rw [hremote] at hhanded
    refine ⟨hsender ▸ hhanded, s.numConns, ?_, ?_⟩
    · exact (congrArg (fun r => senderOf (r s.numConns).resolvedAddress) hremote).trans hsender
    · rw [if_neg hnot]
      exact congrArg (· ++ [Happening.onProtocolReceive s.numConns m]) hlog

end Listening

/-! ### Whole runs -/

theorem serves_run (inputs : List (Input M K)) :
    (Listening.run inputs).Serves ((datagrams inputs).map Prod.fst) (datagrams inputs)
      (requests inputs) := by
  refine Lib.run_history (p := fun _ => True)
    (I := fun inputs (s : Listening M K) => s.Serves ((datagrams inputs).map Prod.fst)
      (datagrams inputs) (requests inputs)) ?_ ?_ fun _ _ => trivial
  · intro inputs s input h _
    have hmore : ∀ k ∈ requests inputs, k ∈ requests (inputs ++ [input]) := by
      intro k hk
      rw [requests, List.flatMap_append]
      exact List.mem_append_left _ hk
    have hserves := h.of_mem_iff (fun _ => Iff.rfl) hmore
    cases input with
    | datagram source m during =>
      have hks : ∀ k ∈ during.filterMap Call.request,
          k ∈ requests (inputs ++ [.datagram source m during]) := fun k hk => by
        simpa [requests] using Or.inr (List.mem_filterMap.mp hk)
      have hnext := (hserves.datagram source m hks).1
      simpa [datagrams, Listening.step] using hnext
    | call x =>
      have hnext := hserves.call (x := x) fun k hk => by
        simp [requests, Option.mem_def.mp hk]
      simpa [datagrams, Listening.step] using hnext
  · refine ⟨rfl, ⟨fun source c => ?_, fun c hc => absurd hc (Nat.not_lt_zero c)⟩, fun x => ?_,
      fun d hd => absurd hd List.not_mem_nil, fun c hc => absurd hc (Nat.not_lt_zero c),
      fun g hg => absurd hg List.not_mem_nil, fun c hc => absurd hc (Nat.not_lt_zero c),
      fun _ _ => rfl⟩
    · obtain ⟨key, hkey⟩ := exists_keyOf source.inet
      simp [getFromDemuxTable, hkey]
    · simp [datagrams]

/-- Whatever datagrams come to a listening socket and whatever the application asks for: each sender
has one connection, for which `connection_received` is called once, by the first datagram and before
the first payload; it is handed the payloads of its sender, in order and once each, and without NULL
callbacks these are what its callbacks got and what waits for them. -/
theorem udp_demultiplexing (inputs : List (Input M K)) :
    (∀ c < (Listening.run inputs).numConns, ∀ d < (Listening.run inputs).numConns,
      senderOf ((Listening.run inputs).remote c).resolvedAddress =
        senderOf ((Listening.run inputs).remote d).resolvedAddress → c = d) ∧
    (∀ x, (∃ c < (Listening.run inputs).numConns,
      senderOf ((Listening.run inputs).remote c).resolvedAddress = x) ↔
        x ∈ (datagrams inputs).map Prod.fst) ∧
    (∀ h ∈ (Listening.run inputs).log, h.connection < (Listening.run inputs).numConns) ∧
    (∀ c < (Listening.run inputs).numConns,
      (Listening.run inputs).log.filter (fun h => decide (h.connection = c)) =
        .connectionReceived c ::
          (payloads (datagrams inputs)
            (senderOf ((Listening.run inputs).remote c).resolvedAddress)).map
              (.onProtocolReceive c)) ∧
    (∀ c < (Listening.run inputs).numConns, ∃ es, (Listening.run inputs).inbox c = Inbox.run es ∧
      Inbox.arrivals es = payloads (datagrams inputs)
        (senderOf ((Listening.run inputs).remote c).resolvedAddress)) ∧
    ((∀ k ∈ requests inputs, k.receiveCallback = true) →
      ∀ c < (Listening.run inputs).numConns,
        ((Listening.run inputs).inbox c).delivered.map Prod.fst ++
            ((Listening.run inputs).inbox c).receivedMessages =
          payloads (datagrams inputs)
            (senderOf ((Listening.run inputs).remote c).resolvedAddress) ∧
        ((Listening.run inputs).inbox c).crashed = false) ∧
    ∀ (source : Source) (m : M) (during : List (Call K)), ∃ c,
      senderOf ((Listening.run (inputs ++ [.datagram source m during])).remote c).resolvedAddress =
        senderOf source.address ∧
      (Listening.run (inputs ++ [.datagram source m during])).log =
        (Listening.run inputs).log ++
          (if senderOf source.address ∈ (datagrams inputs).map Prod.fst then []
            else [.connectionReceived c]) ++ [.onProtocolReceive c m] := by
  have h := serves_run inputs
  refine ⟨fun c hc d hd hsame => h.keyed.inj hc hd hsame, h.known, h.bound, h.log,
    fun c hc => ?_, fun hks c hc => (h.inbox c hc).data hks, fun source m during => ?_⟩
  · obtain ⟨es, hx, hms, -⟩ := h.inbox c hc
    exact ⟨es, hx, hms⟩
  · have hrun : Listening.run (inputs ++ [.datagram source m during]) =
        (Listening.run inputs).udpMultiplexReceivedMessage source.address m during :=
      Lib.run_append ..
    have hmore : (Listening.run inputs).Serves _ _ (requests inputs ++ during.filterMap Call.request) :=
      h.of_mem_iff (fun _ => Iff.rfl) fun _ hk => List.mem_append_left _ hk
    rw [hrun]
    exact (hmore.datagram source m fun _ hk => List.mem_append_right _ hk).2

end CTaps.Demux
