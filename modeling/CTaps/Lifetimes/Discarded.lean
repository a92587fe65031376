import CTaps.Lifetimes.Routing

/-! Connections that are discarded while they are made. Cloning a TCP or UDP connection and
accepting a TCP connection first make the connection and its socket manager, and then ask libuv for
a handle, a connection, the name of the socket or for data. Beside the objects there are now the
handles being closed and the requests of `uv_tcp_connect`. -/

namespace CTaps.Lifetimes

open Gathering (Protocol)

/-- What libuv answers. A handle that cannot be allocated is one that cannot be created. -/
structure Answers where
  handle : Int := 0
  accept : Int := 0
  connect : Int := 0
  sockname : Int := 0
  readStart : Int := 0
deriving DecidableEq, Repr

structure Sockets where
  world : World
  /-- The socket managers that the handles being closed point to; none where `data` was not set. -/
  closing : List (Option Nat) := []
  /-- The connect request that the socket state of a socket manager points to, by the number of its
  releases. -/
  connectReq : Nat → Option Nat := fun _ => none

namespace Sockets

/-- `ct_connection_free`. The last reference to a TCP socket manager frees its socket state, and the
connect request with it. -/
def connectionFree (n : Sockets) (c : Nat) : Sockets :=
  let w := n.world.connectionFree c
  { n with
    world := w
    connectReq := fun s =>
      if (n.world.sm s).frees < (w.sm s).frees then (n.connectReq s).map (· + 1)
      else n.connectReq s }

def tcpCloneConnection (n : Sockets) (target : Nat) (a : Answers) : Sockets × Int :=
  if a.handle < 0 then (n, a.handle)
  else
    let s := n.world.numSms
    let n := { n with
      world := n.world.tcpCloneConnection target
      connectReq := Function.update n.connectReq s (some 0) }
    if a.connect < 0 then
      -- the request is released, and the socket state keeps the pointer to it
      ({ n with
        connectReq := Function.update n.connectReq s ((n.connectReq s).map (· + 1))
        closing := some s :: n.closing }, a.connect)
    else (n, 0)

/-- `udp_clone_connection`. Without a handle it goes on, and stops at the NULL pointer. -/
def udpCloneConnection (n : Sockets) (target : Nat) (a : Answers) : Option (Sockets × Int) :=
  let s := n.world.numSms
  let n := { n with world := n.world.udpCloneConnection target }
  if a.handle < 0 then none
  else if a.sockname < 0 then some ({ n with closing := some s :: n.closing }, a.sockname)
  else some (n, 0)

/-- `clone_connection` of the protocol; none if it does not return. -/
def cloneConnection (n : Sockets) (p : Protocol) (target : Nat) (a : Answers) :
    Option (Sockets × Int) :=
  match p with
  | .tcp => some (n.tcpCloneConnection target a)
  | .udp => n.udpCloneConnection target a
  | .quic => some (n, 0)

def connectionCloneFull (n : Sockets) (source uuid : Nat) (a : Answers) : Option (Sockets × Int) :=
  let c := n.world.numConns
  let n := { n with world := n.world.createClone source uuid }
  match (n.world.conn source).socketManager with
  | none => none
  | some s =>
    (n.cloneConnection (n.world.sm s).protocol c a).map fun r =>
      if r.2 < 0 then (r.1.connectionFree c, r.2) else r

/-- `new_stream_connection_cb`, and whether the new connection is discarded. A failure to get the
name of the socket is only logged. -/
def newStreamConnectionCb (n : Sockets) (uuid remote : Nat) (a : Answers) : Sockets × Bool :=
  if a.handle < 0 then (n, false)
  else if a.accept < 0 then ({ n with closing := none :: n.closing }, false)
  else
    let c := n.world.numConns
    let s := n.world.numSms
    let n := { n with world := n.world.newStreamConnectionCb uuid remote }
    if a.readStart < 0 then
      -- the handle is closed here and again by `ct_connection_close`; `free` takes the connection
      -- out of nothing
      ({ n with
        world := n.world.modConn c fun x => { x with freed := true }
        closing := some s :: some s :: n.closing }, true)
    else (n, false)

end Sockets

inductive Making
  | clone (source uuid : Nat)
  | accepted (s uuid remote : Nat)
deriving DecidableEq, Repr

def Making.event : Making → Event
  | .clone source uuid => .clone source uuid
  | .accepted s uuid remote => .accepted s uuid remote

def Sockets.make (n : Sockets) (a : Answers) : Making → Option (Sockets × Bool)
  | .clone source uuid => (n.connectionCloneFull source uuid a).map fun r => (r.1, decide (r.2 < 0))
  | .accepted _ uuid remote => some (n.newStreamConnectionCb uuid remote a)

structure Sockets.LeavesNothing (n n' : Sockets) : Prop where
  group : ∀ g < n.world.numGroups, n'.world.group g = n.world.group g
  sm : ∀ s < n.world.numSms, n'.world.sm s = n.world.sm s
  members : ∀ g, n.world.numConns ∉ (n'.world.group g).connections.map Prod.snd
  connections : ∀ s, n.world.numConns ∉ (n'.world.sm s).allConnections
  connectReq : ∀ s, n.world.numSms ≤ s → ∀ k, n'.connectReq s = some k → k = 1
  closing : ∀ s, some s ∈ n'.closing → (n'.world.sm s).frees = 0

def World.failsLate (w : World) (a : Answers) : Making → Bool
  | .clone source _ =>
    match (w.conn source).socketManager.map fun s => (w.sm s).protocol with
    | some .tcp => decide (0 ≤ a.handle ∧ a.connect < 0)
    | some .udp => decide (0 ≤ a.handle ∧ a.sockname < 0)
    | _ => false
  | .accepted .. => decide (0 ≤ a.handle ∧ 0 ≤ a.accept ∧ a.readStart < 0)

namespace World

variable {w : World}

/-! ### A clone and its release -/

theorem createClone_sm_eq (w : World) {source : Nat} (hne : source ≠ w.numConns) (uuid t : Nat) :
    (w.createClone source uuid).sm t =
      if (w.conn source).socketManager = some t then ((w.sm t).prepend w.numConns).ref
      else w.sm t := by
  have hsource : ((w.addConn { uuid := uuid, remote := (w.conn source).remote }).conn
      source).socketManager = (w.conn source).socketManager := by simp [hne]
  have hshare : (((w.addConn { uuid := uuid, remote := (w.conn source).remote }).shareSocketManager
      source w.numConns).sm t) =
      if (w.conn source).socketManager = some t then ((w.sm t).prepend w.numConns).ref
      else w.sm t := by
    unfold shareSocketManager
    rw [hsource]
    cases hs : (w.conn source).socketManager with
    | none => simp
    | some s =>
      dsimp only
      rw [socketManagerAddConnection_sm]
      rcases eq_or_ne t s with rfl | hts
      · simp [SocketManager.prepend, SocketManager.ref]
      · simp [hts, Ne.symm hts]
  unfold createClone shareGroup
  split
  · rw [(groupAddConnection_keeps _ _ _).2.2.2.1]
    exact hshare
  · exact hshare

theorem createClone_protocol (w : World) {source : Nat} (hne : source ≠ w.numConns) (uuid s : Nat) :
    ((w.createClone source uuid).sm s).protocol = (w.sm s).protocol := by
  rw [createClone_sm_eq w hne]
  split <;> rfl

theorem shareSocketManager_ties (w : World) (source c : Nat) :
    (w.shareSocketManager source c).ties = w.ties ∧
      (w.shareSocketManager source c).group = w.group := by
  unfold shareSocketManager
  split
  · exact ⟨ties_socketManagerAddConnection _ _ _, rfl⟩
  · exact ⟨rfl, rfl⟩

theorem createClone_source (w : World) {source : Nat} (hne : source ≠ w.numConns) (uuid : Nat) :
    ((w.createClone source uuid).conn source).socketManager = (w.conn source).socketManager := by
  have hshare (w' : World) :
      ((w'.shareSocketManager source w.numConns).conn source).socketManager =
        (w'.conn source).socketManager := by
    unfold shareSocketManager
    split
    · rw [socketManagerAddConnection_conn, if_neg hne]
    · rfl
  unfold createClone shareGroup
  split
  · rw [(groupAddConnection_conn _ _ _ source).1, hshare]
    simp [hne]
  · rw [hshare]
    simp [hne]

theorem Grouped.createClone_group_eq (h : Grouped none w) {source uuid : Nat}
    (hlive : w.live source = true) (hu : w.newUuid uuid) (k : Nat) :
    ((w.createClone source uuid).conn w.numConns).uuid = uuid ∧
      ((w.createClone source uuid).conn w.numConns).connectionGroup =
        (w.conn source).connectionGroup ∧
      (w.createClone source uuid).group k =
        if (w.conn source).connectionGroup = some k then
          { w.group k with
            connections := (uuid, w.numConns) :: (w.group k).connections
            refCount := (w.group k).refCount + 1 }
        else w.group k := by
  have hne : source ≠ w.numConns := Nat.ne_of_lt (live_iff.mp hlive).1
  set x : Connection := { uuid := uuid, remote := (w.conn source).remote }
  set v := (w.addConn x).shareSocketManager source w.numConns with hv
  obtain ⟨hties, hgroups⟩ := shareSocketManager_ties (w.addConn x) source w.numConns
  have hgrouped : Grouped none v := (h.newConn (x := x) rfl hu).of_ties hties
  have hlt : w.numConns < v.numConns := by
    rw [show v.numConns = w.numConns + 1 from congrArg Ties.numConns hties]
    exact Nat.lt_succ_self _
  obtain ⟨huuid, hnone, -⟩ := conn_of_ties hties w.numConns
  have hown : (v.conn w.numConns).uuid = uuid := by rw [huuid]; simp [x]
  have hnone : (v.conn w.numConns).connectionGroup = none := by rw [hnone]; simp [x]
  have hsource : (v.conn source).connectionGroup = (w.conn source).connectionGroup := by
    rw [(conn_of_ties hties source).2.1]
    simp [hne]
  have hgroups : v.group = w.group := hgroups
  show ((v.shareGroup source w.numConns).conn w.numConns).uuid = uuid ∧ _
  unfold createClone shareGroup
  rw [← hv, hsource]
  cases (w.conn source).connectionGroup with
  | none => simp [hown, hnone, hgroups]
  | some g =>
    dsimp only
    rw [hgrouped.groupAddConnection_eq hlt hnone]
    rcases eq_or_ne k g with rfl | hk
    · simp [hown, hgroups]
    · simp [hown, hgroups, hk, Ne.symm hk]

theorem connectionFree_sm (w : World) (c t : Nat) :
    (w.connectionFree c).sm t =
      if (w.conn c).socketManager = some t then ((w.sm t).remove c).unref else w.sm t := by
  obtain ⟨hconn, hsm, -⟩ := w.groupUnref_keeps c
  have hhome : (((w.groupUnref c).modConn c fun x => { x with connectionGroup := none }).conn
      c).socketManager = (w.conn c).socketManager := by simp [hconn]
  unfold connectionFree
  dsimp only
  rw [hhome]
  cases (w.conn c).socketManager with
  | none => simp [hsm]
  | some s =>
    rcases eq_or_ne t s with rfl | hts
    · simp [hsm]
    · simp [hsm, hts, Ne.symm hts]

theorem connectionFree_group (w : World) (c k : Nat) :
    (w.connectionFree c).group k = (w.groupUnref c).group k := by
  unfold connectionFree
  dsimp only
  split <;> rfl

theorem groupUnref_group {c g : Nat} (hg : (w.conn c).connectionGroup = some g)
    (hcount : (w.group g).refCount ≠ 1) (k : Nat) :
    (w.groupUnref c).group k =
      if k = g then
        { w.group g with
          connections := (w.group g).connections.filter (·.1 ≠ (w.conn c).uuid)
          refCount := (w.group g).refCount - 1 }
      else w.group k := by
  have hpos : (w.group g).refCount - 1 ≠ 0 := fun h => hcount (by omega)
  unfold groupUnref
  rw [hg]
  dsimp only
  rw [if_neg (by simpa using hpos)]
  rcases eq_or_ne k g with rfl | hk
  · simp
  · simp [hk]

theorem ref_unref {m : SocketManager} {c : Nat} (hm : m.refCount ≠ 0) :
    (((m.prepend c).ref).remove c).unref = m := by
  unfold SocketManager.prepend SocketManager.ref SocketManager.remove SocketManager.unref
  rw [if_neg (by simpa using hm)]
  simp

theorem Counted.sm_clone_free (h : Counted none w) {source : Nat} (hlive : w.live source = true)
    (uuid t : Nat) : ((w.createClone source uuid).connectionFree w.numConns).sm t = w.sm t := by
  have hlt := (live_iff.mp hlive).1
  have hne : source ≠ w.numConns := Nat.ne_of_lt hlt
  rw [connectionFree_sm, createClone_home w hne, createClone_sm_eq w hne,
    createClone_source w hne uuid]
  split
  · next hs =>
    have hmem := mem_holders_connection.mpr ((h.mem_iff t source).mpr ⟨hlt, hs⟩)
    obtain ⟨-, -, -, hpos⟩ := h.balanced.alive hmem
    exact ref_unref (Int.ne_of_gt hpos)
  · rfl

theorem Grouped.group_clone_free (h : Grouped none w) {source uuid : Nat}
    (hlive : w.live source = true) (hu : w.newUuid uuid) (k : Nat) :
    ((w.createClone source uuid).connectionFree w.numConns).group k = w.group k := by
  obtain ⟨hown, hgroup, hk⟩ := h.createClone_group_eq hlive hu k
  rw [connectionFree_group]
  cases hg : (w.conn source).connectionGroup with
  | none =>
    rw [hg] at hgroup hk
    rw [groupUnref, hgroup, hk]
    rfl
  | some g =>
    rw [hg] at hgroup
    have hjoined := (h.createClone_group_eq hlive hu g).2.2
    rw [if_pos hg] at hjoined
    have hmem := (h.mem_iff g _ source).mpr ⟨(live_iff.mp hlive).1, hg, rfl⟩
    obtain ⟨-, -, -, hpos⟩ := h.balanced.alive hmem
    have hpos : 0 < (w.group g).refCount := hpos
    have hkeys : (w.group g).connections.filter (·.1 ≠ uuid) = (w.group g).connections := by
      refine List.filter_eq_self.mpr fun e he => decide_eq_true ?_
      obtain ⟨hlt, -, huuid⟩ := (h.mem_iff g e.1 e.2).mp he
      exact huuid ▸ hu e.2 hlt
    have hcount : ((w.createClone source uuid).group g).refCount ≠ 1 := by
      rw [hjoined]
      exact fun hone => absurd hone (by show (w.group g).refCount + 1 ≠ 1; omega)
    rw [groupUnref_group hgroup hcount]
    split
    · next heq =>
      rw [heq, hjoined, hown]
      simp only [ne_eq, not_true_eq_false, decide_false, Bool.false_eq_true, not_false_eq_true,
        List.filter_cons_of_neg, Int.add_sub_cancel]
      rw [hkeys]
    · next hne =>
      rw [hk, hg, if_neg fun heq => hne (Option.some.inj heq).symm]

/-! ### Socket managers of their own -/

def Alone (w : World) (c s : Nat) : Prop :=
  (w.conn c).socketManager = some s ∧ (w.sm s).refCount = 1 ∧ (w.sm s).frees = 0

theorem Alone.freed {c s : Nat} (h : w.Alone c s) : ((w.connectionFree c).sm s).frees = 1 := by
  obtain ⟨hs, hcount, hfrees⟩ := h
  have hcount : ((w.sm s).remove c).refCount = 1 := hcount
  have hfrees : ((w.sm s).remove c).frees = 0 := hfrees
  rw [connectionFree_sm, if_pos hs, (unref_eq _).2.2.2, hcount, hfrees]
  rfl

theorem alone_socketManagerAddConnection {c s : Nat} (hcount : (w.sm s).refCount = 0)
    (hfrees : (w.sm s).frees = 0) : (w.socketManagerAddConnection s c).Alone c s := by
  unfold Alone
  rw [socketManagerAddConnection_conn, socketManagerAddConnection_sm, if_pos rfl, if_pos rfl]
  exact ⟨rfl, congrArg (· + 1) hcount, hfrees⟩

theorem alone_rehome {c : Nat} (hold : ∀ s, (w.conn c).socketManager = some s → s < w.numSms)
    (p : Protocol) : (w.rehome p c).Alone c w.numSms := by
  unfold rehome
  have hnew : ((w.addSm { protocol := p }).detachTcp c).sm w.numSms = { protocol := p } := by
    unfold detachTcp
    split
    · next s hs =>
      have hne : w.numSms ≠ s := Nat.ne_of_gt (hold s hs)
      simp [hne]
    · simp
  apply alone_socketManagerAddConnection
  · rw [hnew]
  · rw [hnew]

theorem alone_udpCloneConnection {c : Nat}
    (hold : ∀ s, (w.conn c).socketManager = some s → s < w.numSms) :
    (w.udpCloneConnection c).Alone c w.numSms := by
  obtain ⟨hs, hcount, hfrees⟩ := alone_rehome hold .udp
  rw [udpCloneConnection_eq fun s hs => Nat.ne_of_lt (hold s hs)]
  refine ⟨hs, ?_, ?_⟩
  · rw [modSm_sm, Function.update_self, SocketManager.insertDemuxed]
    split <;> exact hcount
  · rw [modSm_sm, Function.update_self, SocketManager.insertDemuxed]
    split <;> exact hfrees

end World

/-! ### Discarded connections -/

namespace Sockets

open World

def settle (c : Nat) (r : Sockets × Int) : Sockets × Bool :=
  if r.2 < 0 then (r.1.connectionFree c, true) else (r.1, false)

variable {w : World} {a : Answers}

theorem make_clone {source : Nat} (hne : source ≠ w.numConns) (uuid : Nat) :
    ({ world := w } : Sockets).make a (.clone source uuid) =
      (w.conn source).socketManager.bind fun s =>
        (({ world := w.createClone source uuid } : Sockets).cloneConnection (w.sm s).protocol
          w.numConns a).map (settle w.numConns) := by
  unfold make connectionCloneFull
  dsimp only
  rw [createClone_source w hne]
  cases (w.conn source).socketManager with
  | none => rfl
  | some s =>
    dsimp only
    rw [createClone_protocol w hne, Option.map_map, Option.bind_some]
    refine congrArg (fun f => Option.map f _) (funext fun r => ?_)
    unfold settle
    by_cases hr : r.2 < 0
    · simp [hr]
    · simp [hr]

theorem leavesNothing_clone_free {es : List Event} {source uuid : Nat}
    (he : (World.run es).enabled (.clone source uuid)) :
    LeavesNothing { world := World.run es }
      (({ world := (World.run es).createClone source uuid } : Sockets).connectionFree
        (World.run es).numConns) := by
  have hc := counted_run es
  have hg := grouped_run es
  obtain ⟨hlive, hu⟩ := he
  have hsm := hc.sm_clone_free hlive uuid
  have hgroup := hg.group_clone_free hlive hu
  constructor
  · exact fun g _ => hgroup g
  · exact fun s _ => hsm s
  · intro g hmem
    obtain ⟨e, hmem, heq⟩ := List.mem_map.mp hmem
    have hmem : e ∈ ((World.run es).group g).connections := hgroup g ▸ hmem
    have hlt := ((hg.mem_iff g e.1 e.2).mp hmem).1
    exact absurd heq (Nat.ne_of_lt hlt)
  · intro s hmem
    have hmem : (World.run es).numConns ∈ ((World.run es).sm s).allConnections := hsm s ▸ hmem
    exact absurd ((hc.mem_iff s _).mp hmem).1 (Nat.lt_irrefl _)
  · intro s _ k hk
    unfold connectionFree at hk
    dsimp only at hk
    split at hk
    · cases hk
    · cases hk
  · exact fun s hs => absurd hs List.not_mem_nil

theorem not_leavesNothing_of_alone {n n' : Sockets} {c s : Nat} (h : n'.world.Alone c s)
    (hclosing : some s ∈ n'.closing) : ¬ LeavesNothing n (n'.connectionFree c) := by
  intro hnothing
  have hfrees := hnothing.closing s hclosing
  rw [show ((n'.connectionFree c).world.sm s).frees = 1 from h.freed] at hfrees
  exact absurd hfrees (by decide)

theorem clone_iff {es : List Event} {source uuid : Nat}
    (he : (World.run es).enabled (.clone source uuid)) :
    (∀ n', ({ world := World.run es } : Sockets).make a (.clone source uuid) = some (n', true) →
      LeavesNothing { world := World.run es } n') ↔
      (World.run es).failsLate a (.clone source uuid) = false := by
  have hlt := (live_iff.mp he.1).1
  have hne : source ≠ (World.run es).numConns := Nat.ne_of_lt hlt
  have hnew := ((World.run es).createClone_new source uuid).1
  have hold := fun s hs => ((counted_run es).cloned he.1 uuid |>.alive
    (hnew ▸ Nat.lt_succ_self _ : (World.run es).numConns < _) (s := s) hs).1
  rw [make_clone hne, failsLate]
  cases (World.run es).conn source |>.socketManager with
  | none => simp
  | some s =>
    simp only [Option.bind_some, Option.map_some]
    cases ((World.run es).sm s).protocol with
    | tcp =>
      simp only [cloneConnection, tcpCloneConnection, Option.map_some, Option.some.injEq]
      by_cases hh : a.handle < 0
      · have hpos : ¬ 0 ≤ a.handle := Int.not_le.mpr hh
        simp only [hh, if_true, settle, hpos, false_and, decide_false]
        refine iff_of_true (fun n' hn' => ?_) trivial
        rw [← (Prod.mk.inj hn').1]
        exact leavesNothing_clone_free he
      · have hpos : 0 ≤ a.handle := Int.not_lt.mp hh
        by_cases hconnect : a.connect < 0
        · simp only [hh, hconnect, if_true, if_false, settle, hpos, and_self, decide_true]
          refine iff_of_false (fun h => ?_) (by decide)
          exact not_leavesNothing_of_alone (alone_rehome hold .tcp) List.mem_cons_self
            (h _ rfl)
        · simp [hh, hconnect, settle]
    | udp =>
      simp only [cloneConnection, udpCloneConnection]
      by_cases hh : a.handle < 0
      · have hpos : ¬ 0 ≤ a.handle := Int.not_le.mpr hh
        simp [hh, hpos]
      · have hpos : 0 ≤ a.handle := Int.not_lt.mp hh
        by_cases hname : a.sockname < 0
        · simp only [hh, hname, if_true, if_false, settle, hpos, and_self, decide_true,
            Option.map_some, Option.some.injEq]
          refine iff_of_false (fun h => ?_) (by decide)
          exact not_leavesNothing_of_alone (alone_udpCloneConnection hold) List.mem_cons_self
            (h _ rfl)
        · simp [hh, hname, settle]
    | quic => simp [cloneConnection, settle]

theorem accepted_iff (w : World) (s uuid remote : Nat) :
    (∀ n', ({ world := w } : Sockets).make a (.accepted s uuid remote) = some (n', true) →
      LeavesNothing { world := w } n') ↔ w.failsLate a (.accepted s uuid remote) = false := by
  simp only [make, newStreamConnectionCb, failsLate, Option.some.injEq]
  by_cases hh : a.handle < 0
  · simp [hh]
  by_cases haccept : a.accept < 0
  · simp [hh, haccept]
  by_cases hread : a.readStart < 0
  · simp only [hh, haccept, hread, if_true, if_false, Int.not_lt.mp hh, Int.not_lt.mp haccept,
      and_self, decide_true]
    refine iff_of_false (fun h => ?_) (by decide)
    -- nothing has taken the connection out of the list of its socket manager
    refine (h _ rfl).connections w.numSms ?_
    exact mem_socketManagerAddConnection _ w.numSms w.numConns
  · simp [hh, haccept, hread]

theorem make_eq (w : World) {m : Making} (he : w.enabled m.event) :
    (({ world := w } : Sockets).make {} m).map (fun r => r.1.world) =
      (({ world := w } : Sockets).make {} m).map fun _ => w.act m.event := by
  cases m with
  | accepted s uuid remote => rfl
  | clone source uuid =>
    have hne : source ≠ w.numConns := Nat.ne_of_lt (live_iff.mp he.1).1
    simp only [make_clone hne, Making.event, act, connectionClone]
    rw [createClone_source w hne]
    cases (w.conn source).socketManager with
    | none => rfl
    | some s =>
      dsimp only [Option.bind_some]
      rw [createClone_protocol w hne]
      cases (w.sm s).protocol with
      | tcp => rfl
      | udp => rfl
      | quic => rfl

/-- When a clone or an accepted connection is discarded, nothing of it is left and all else is as it
was, unless a step failed after it had got a socket manager of its own. A UDP clone without a handle
does not return at all. -/
theorem discarded_iff (es : List Event) (m : Making) (he : (World.run es).enabled m.event)
    (a : Answers) :
    ((∀ n', ({ world := World.run es } : Sockets).make a m = some (n', true) →
      LeavesNothing { world := World.run es } n') ↔ (World.run es).failsLate a m = false) ∧
    ∀ source uuid s, m = .clone source uuid →
      ((World.run es).conn source).socketManager = some s →
      ((World.run es).sm s).protocol = .udp → a.handle < 0 →
      ({ world := World.run es } : Sockets).make a m = none := by
  constructor
  · cases m with
    | clone source uuid => exact clone_iff he
    | accepted s uuid remote => exact accepted_iff _ s uuid remote
  · rintro source uuid s rfl hs hp hh
    have hne : source ≠ (World.run es).numConns := Nat.ne_of_lt (live_iff.mp he.1).1
    rw [make_clone hne, hs, Option.bind_some, hp]
    simp [cloneConnection, udpCloneConnection, hh]

/-! ### Examples -/

def client (p : Protocol) : Sockets :=
  { world := World.run [.initiate p 7 1 (.begun none)] }

theorem discarded_iff_handle :
    ((client .tcp).make { handle := -12 } (.clone 0 8)).isSome = true ∧
    LeavesNothing (client .tcp)
      (({ world := (client .tcp).world.createClone 0 8 } : Sockets).connectionFree 1) :=
  ⟨by decide, (discarded_iff [.initiate .tcp 7 1 (.begun none)] (.clone 0 8) (by decide)
    { handle := -12 }).1.mpr (by decide) _ rfl⟩

/-- A TCP clone that cannot connect: its connect request is released twice, and its socket manager
before the close callback of its handle. A UDP clone whose socket has no name leaves that callback
too. An accepted connection that cannot be read from stays in its group and on the list of its
socket manager. -/
theorem discarded_leaves_behind :
    (((client .tcp).make { connect := -101 } (.clone 0 8)).any fun r =>
      r.2 && decide (r.1.connectReq 1 = some 2 ∧ r.1.closing = [some 1] ∧
        (r.1.world.sm 1).frees = 1)) = true ∧
    (((client .udp).make { sockname := -105 } (.clone 0 8)).any fun r =>
      r.2 && decide (r.1.closing = [some 1] ∧ (r.1.world.sm 1).frees = 1)) = true ∧
    ((({ world := World.run [.listen .tcp] } : Sockets).make { readStart := -107 }
      (.accepted 0 8 3)).any fun r =>
        r.2 && decide ((r.1.world.group 0).connections = [(8, 0)] ∧
          (r.1.world.sm 1).allConnections = [0])) = true := by
  decide

end Sockets

end CTaps.Lifetimes
