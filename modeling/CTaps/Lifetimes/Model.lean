import CTaps.Gathering.Candidate
import CTaps.Lib.Machine
import Mathlib.Logic.Function.Basic

/-! The objects of the library and the references between them: connections, the socket managers and
groups they share, and listeners. Memory is always there, and every uuid is new. A connection can be
reported closed at any time, which is all that is kept of how it comes to its end. -/

namespace CTaps.Lifetimes

open Function
open Gathering (Protocol)

structure Connection where
  uuid : Nat := 0
  socketManager : Option Nat := none
  connectionGroup : Option Nat := none
  /-- The address of the active remote endpoint. -/
  remote : Nat := 0
  /-- The QUIC stream, once it is initialized. -/
  stream : Option Nat := none
  closed : Bool := false
  freed : Bool := false
deriving DecidableEq, Repr

structure SocketManager where
  protocol : Protocol := .tcp
  refCount : Int := 0
  listener : Option Nat := none
  allConnections : List Nat := []
  /-- From addresses to connections. -/
  demuxTable : List (Nat × Nat) := []
  frees : Nat := 0
deriving DecidableEq, Repr

structure Group where
  refCount : Int := 0
  /-- From uuids to connections. -/
  connections : List (Nat × Nat) := []
  /-- `connection_group_state` is not NULL. -/
  state : Bool := false
  frees : Nat := 0
  stateFrees : Nat := 0
  /-- picoquic has reported the end of the connection. -/
  cnxClosed : Bool := false
  /-- The connections set as contexts of streams. -/
  streamCtx : List (Nat × Nat) := []
deriving DecidableEq, Repr

structure Listener where
  socketManager : Option Nat := none
  closed : Bool := false
  freed : Bool := false
deriving DecidableEq, Repr

structure World where
  numConns : Nat := 0
  conn : Nat → Connection := fun _ => {}
  numSms : Nat := 0
  sm : Nat → SocketManager := fun _ => {}
  numGroups : Nat := 0
  group : Nat → Group := fun _ => {}
  numListeners : Nat := 0
  listener : Nat → Listener := fun _ => {}
  /-- How often a group was released through a socket manager that was freed or NULL. -/
  deadReaches : Nat := 0

namespace World

@[simps] def modConn (w : World) (c : Nat) (f : Connection → Connection) : World :=
  { w with conn := update w.conn c (f (w.conn c)) }

@[simps] def modSm (w : World) (s : Nat) (f : SocketManager → SocketManager) : World :=
  { w with sm := update w.sm s (f (w.sm s)) }

@[simps] def modGroup (w : World) (g : Nat) (f : Group → Group) : World :=
  { w with group := update w.group g (f (w.group g)) }

@[simps] def modListener (w : World) (l : Nat) (f : Listener → Listener) : World :=
  { w with listener := update w.listener l (f (w.listener l)) }

@[simps] def addConn (w : World) (x : Connection) : World :=
  { w with numConns := w.numConns + 1, conn := update w.conn w.numConns x }

/-- `ct_socket_manager_new`, which takes no reference. -/
@[simps] def addSm (w : World) (m : SocketManager) : World :=
  { w with numSms := w.numSms + 1, sm := update w.sm w.numSms m }

/-- `ct_connection_group_new`, which takes none either. -/
@[simps] def addGroup (w : World) : World :=
  { w with numGroups := w.numGroups + 1, group := update w.group w.numGroups {} }

@[simps] def addListener (w : World) (l : Listener) : World :=
  { w with numListeners := w.numListeners + 1, listener := update w.listener w.numListeners l }

end World

/-! ### References to socket managers -/

namespace SocketManager

def ref (m : SocketManager) : SocketManager := { m with refCount := m.refCount + 1 }

/-- `ct_socket_manager_unref`. -/
def unref (m : SocketManager) : SocketManager :=
  if m.refCount - 1 = 0 then { m with refCount := m.refCount - 1, frees := m.frees + 1 }
  else { m with refCount := m.refCount - 1 }

/-- `g_slist_prepend` and `g_slist_remove` on `all_connections`. -/
def prepend (c : Nat) (m : SocketManager) : SocketManager :=
  { m with allConnections := c :: m.allConnections }

def remove (c : Nat) (m : SocketManager) : SocketManager :=
  { m with allConnections := m.allConnections.erase c }

/-- `socket_manager_insert_demuxed_connection`. -/
def insertDemuxed (addr c : Nat) (m : SocketManager) : SocketManager :=
  if (m.demuxTable.lookup addr).isSome then m
  else { m with demuxTable := (addr, c) :: m.demuxTable }

end SocketManager

namespace World

def socketManagerAddConnection (w : World) (s c : Nat) : World :=
  ((w.modSm s (SocketManager.prepend c)).modSm s SocketManager.ref).modConn c fun x =>
    { x with socketManager := some s }

/-! ### Groups -/

/-- `ct_connection_group_add_connection`. A uuid that the table already has is given to the new
connection, but the connection does not join the group. -/
def groupAddConnection (w : World) (g c : Nat) : World :=
  if (w.conn c).connectionGroup.isSome then w
  else
    -- `g_hash_table_insert` replaces an entry with this key, and says whether there was none
    let isNew := ((w.group g).connections.lookup (w.conn c).uuid).isNone
    let w := w.modGroup g fun x =>
      { x with
        connections := ((w.conn c).uuid, c) :: x.connections.filter (·.1 ≠ (w.conn c).uuid) }
    if isNew then
      (w.modGroup g fun x => { x with refCount := x.refCount + 1 }).modConn c fun x =>
        { x with connectionGroup := some g }
    else w

/-- The group is released: first the state that QUIC keeps for it, which is reached through the
socket manager of the last connection `c`, then the group. -/
def freeGroup (w : World) (c g : Nat) : World :=
  let isAlive := (w.conn c).socketManager.any fun s => (w.sm s).frees = 0
  let isQuic := (w.conn c).socketManager.any fun s => (w.sm s).protocol = .quic
  { w with deadReaches := w.deadReaches + if isAlive then 0 else 1 }.modGroup g fun x =>
    { x with
      stateFrees := x.stateFrees + if isQuic && x.state then 1 else 0
      frees := x.frees + 1 }

/-- `ct_connection_group_unref`. -/
def groupUnref (w : World) (c : Nat) : World :=
  match (w.conn c).connectionGroup with
  | some g =>
    let w := w.modGroup g fun x =>
      { x with
        connections := x.connections.filter (·.1 ≠ (w.conn c).uuid), refCount := x.refCount - 1 }
    if (w.group g).refCount = 0 then w.freeGroup c g else w
  | none => w

/-! ### New connections -/

/-- `ct_connection_create_client`. -/
def createClient (w : World) (p : Protocol) (uuid remote : Nat) : World :=
  let c := w.numConns
  let s := w.numSms
  let g := w.numGroups
  let w := ((w.addConn { uuid := uuid, remote := remote }).addSm { protocol := p }).addGroup
  let w := (w.groupAddConnection g c).socketManagerAddConnection s c
  if p = .udp then w.modSm s (SocketManager.insertDemuxed remote c) else w

/-- `ct_connection_create_server_connection`. -/
def createServerConnection (w : World) (s uuid remote : Nat) : World :=
  (((w.addConn { uuid := uuid, remote := remote }).addGroup).groupAddConnection w.numGroups
    w.numConns).socketManagerAddConnection s w.numConns

def shareSocketManager (w : World) (source c : Nat) : World :=
  match (w.conn source).socketManager with
  | some s => w.socketManagerAddConnection s c
  | none => w

def shareGroup (w : World) (source c : Nat) : World :=
  match (w.conn source).connectionGroup with
  | some g => w.groupAddConnection g c
  | none => w

/-- `ct_connection_create_clone` on the socket manager of its source. -/
def createClone (w : World) (source uuid : Nat) : World :=
  ((w.addConn { uuid := uuid, remote := (w.conn source).remote }).shareSocketManager source
    w.numConns).shareGroup source w.numConns

/-- `tcp_clone_connection` unlinks the clone, then drops the reference. -/
def detachTcp (w : World) (target : Nat) : World :=
  match (w.conn target).socketManager with
  | some old =>
    ((w.modSm old (SocketManager.remove target)).modSm old SocketManager.unref).modConn target
      fun x => { x with socketManager := none }
  | none => w

def tcpCloneConnection (w : World) (target : Nat) : World :=
  ((w.addSm { protocol := .tcp }).detachTcp target).socketManagerAddConnection w.numSms target

/-- `udp_clone_connection` drops the reference, then unlinks the clone. -/
def detachUdp (w : World) (target : Nat) : World :=
  match (w.conn target).socketManager with
  | some old => (w.modSm old SocketManager.unref).modSm old (SocketManager.remove target)
  | none => w

def udpCloneConnection (w : World) (target : Nat) : World :=
  let s := w.numSms
  let w := ((w.detachUdp target).addSm { protocol := .udp }).socketManagerAddConnection s target
  w.modSm s (SocketManager.insertDemuxed (w.conn target).remote target)

/-- `ct_connection_clone_full`. A QUIC clone stays where `ct_connection_create_clone` puts it. -/
def connectionClone (w : World) (source uuid : Nat) : World :=
  let c := w.numConns
  let w := w.createClone source uuid
  match (w.conn source).socketManager with
  | some s =>
    match (w.sm s).protocol with
    | .tcp => w.tcpCloneConnection c
    | .udp => w.udpCloneConnection c
    | .quic => w
  | none => w

def newStreamConnectionCb (w : World) (uuid remote : Nat) : World :=
  (w.addSm { protocol := .tcp }).createServerConnection w.numSms uuid remote

def listens (w : World) (s : Nat) : Bool :=
  (w.sm s).listener.any fun l => (w.listener l).closed = false

/-- `udp_multiplex_received_message` for a datagram from `addr`. -/
def udpMultiplexReceivedMessage (w : World) (s addr uuid : Nat) : World :=
  if ((w.sm s).demuxTable.lookup addr).isNone ∧ w.listens s then
    (w.createServerConnection s uuid addr).modSm s (SocketManager.insertDemuxed addr w.numConns)
  else w

/-! ### QUIC -/

/-- `on_quic_poll_read` for a packet that begins a new picoquic connection. -/
def newCnx (w : World) (s uuid addr : Nat) : World :=
  if w.listens s then
    (w.createServerConnection s uuid addr).modGroup w.numGroups fun x => { x with state := true }
  else w

inductive Init
  /-- There is no group state, as without ALPN strings, which `ct_quic_socket_state_new` refuses
  before. -/
  | failed
  /-- The state is made; `early` is the stream of a message that is sent as early data. -/
  | begun (early : Option Nat)
deriving DecidableEq, Repr

/-- `picoquic_set_app_stream_ctx`. -/
def setAppStreamCtx (w : World) (g sid c : Nat) : World :=
  w.modGroup g fun x => { x with streamCtx := (sid, c) :: x.streamCtx.filter (·.1 ≠ sid) }

def setStream (w : World) (g sid c : Nat) : World :=
  (w.modConn c fun x => { x with stream := some sid }).setAppStreamCtx g sid c

/-- `quic_init` and `quic_init_with_send`. -/
def quicInit (w : World) (g c : Nat) : Init → World
  | .failed => w
  | .begun none => w.modGroup g fun x => { x with state := true }
  | .begun (some sid) => (w.modGroup g fun x => { x with state := true }).setStream g sid c

/-- A racing attempt: `ct_connection_create_client` and the `init` of the protocol. -/
def initiate (w : World) (p : Protocol) (uuid remote : Nat) (init : Init) : World :=
  let w' := w.createClient p uuid remote
  if p = .quic then w'.quicInit w.numGroups w.numConns init else w'

def assignNextFreeStream (w : World) (c sid : Nat) : World :=
  match (w.conn c).connectionGroup, (w.conn c).stream with
  | some g, none => w.setStream g sid c
  | _, _ => w

/-- `resolve_or_create_stream_connection` for a stream without context; `first` is the first
connection of the group. -/
def resolveOrCreateStreamConnection (w : World) (g sid first uuid : Nat) : World :=
  if ((w.group g).streamCtx.lookup sid).isSome then w
  else if (w.conn first).stream.isSome then (w.createClone first uuid).setStream g sid w.numConns
  else w.setStream g sid first

/-! ### Ends -/

def connectionFree (w : World) (c : Nat) : World :=
  -- the group goes first, since its release reaches through the socket manager of `c`
  let w := (w.groupUnref c).modConn c fun x => { x with connectionGroup := none }
  let w := match (w.conn c).socketManager with
    | some s =>
      ((w.modSm s (SocketManager.remove c)).modSm s SocketManager.unref).modConn c fun x =>
        { x with socketManager := none }
    | none => w
  w.modConn c fun x => { x with freed := true }

def listenerNew (w : World) (p : Protocol) : World :=
  let s := w.numSms
  ((w.addSm { protocol := p, listener := some w.numListeners }).modSm s
    SocketManager.ref).addListener { socketManager := some s }

def listenerFree (w : World) (l : Nat) : World :=
  let w := match (w.listener l).socketManager with
    | some s =>
      ((w.modSm s fun m => { m with listener := none }).modSm s SocketManager.unref).modListener l
        fun x => { x with socketManager := none }
    | none => w
  w.modListener l fun x => { x with freed := true }

end World

/-! ### The machine -/

inductive Event
  | initiate (p : Protocol) (uuid remote : Nat) (init : World.Init)
  | listen (p : Protocol)
  | clone (c uuid : Nat)
  | accepted (s uuid remote : Nat)
  | datagram (s addr uuid : Nat)
  | newCnx (s uuid addr : Nat)
  /-- The first message on a QUIC connection. -/
  | send (c sid : Nat)
  /-- Data or FIN on a stream. -/
  | stream (g sid first uuid : Nat)
  /-- picoquic forgets a stream that has ended. -/
  | streamDeleted (g sid : Nat)
  | cnxClosed (g : Nat)
  | closed (c : Nat)
  | listenerClosed (l : Nat)
  | free (c : Nat)
  | listenerFree (l : Nat)
deriving DecidableEq, Repr

namespace World

def live (w : World) (c : Nat) : Bool := c < w.numConns ∧ (w.conn c).freed = false

def newUuid (w : World) (uuid : Nat) : Prop := ∀ d < w.numConns, (w.conn d).uuid ≠ uuid

instance (w : World) (uuid : Nat) : Decidable (w.newUuid uuid) :=
  inferInstanceAs (Decidable (∀ d < w.numConns, _))

def enabled (w : World) : Event → Prop
  | .initiate _ uuid _ _ => w.newUuid uuid
  | .clone c uuid => w.live c = true ∧ w.newUuid uuid
  | .accepted s uuid _ =>
    (w.sm s).protocol = .tcp ∧ (w.sm s).listener.isSome = true ∧ w.newUuid uuid
  | .datagram s _ uuid => (w.sm s).protocol = .udp ∧ w.newUuid uuid
  | .newCnx s uuid _ => (w.sm s).protocol = .quic ∧ w.newUuid uuid
  | .send c sid =>
    w.live c = true ∧ (∃ s ∈ (w.conn c).socketManager, (w.sm s).protocol = .quic) ∧
      ∀ g ∈ (w.conn c).connectionGroup, ((w.group g).streamCtx.lookup sid).isNone
  | .stream g _ first uuid =>
    (w.group g).cnxClosed = false ∧ first ∈ (w.group g).connections.map Prod.snd ∧ w.newUuid uuid
  | .closed c | .free c => w.live c = true
  | .listenerFree l => l < w.numListeners ∧ (w.listener l).freed = false
  | .listen _ | .streamDeleted .. | .cnxClosed _ | .listenerClosed _ => True

instance (w : World) (e : Event) : Decidable (w.enabled e) := by
  rcases e with ⟨⟩ <;> dsimp only [enabled] <;> infer_instance

def act (w : World) : Event → World
  | .initiate p uuid remote init => w.initiate p uuid remote init
  | .listen p => w.listenerNew p
  | .clone c uuid => w.connectionClone c uuid
  | .accepted _ uuid remote => w.newStreamConnectionCb uuid remote
  | .datagram s addr uuid => w.udpMultiplexReceivedMessage s addr uuid
  | .newCnx s uuid addr => w.newCnx s uuid addr
  | .send c sid => w.assignNextFreeStream c sid
  | .stream g sid first uuid => w.resolveOrCreateStreamConnection g sid first uuid
  | .streamDeleted g sid => w.modGroup g fun x =>
    { x with streamCtx := x.streamCtx.filter (·.1 ≠ sid) }
  | .cnxClosed g => w.modGroup g fun x => { x with cnxClosed := true }
  | .closed c => w.modConn c fun x => { x with closed := true }
  | .listenerClosed l => w.modListener l fun x => { x with closed := true }
  | .free c => w.connectionFree c
  | .listenerFree l => w.listenerFree l

def step (w : World) (e : Event) : World := if w.enabled e then w.act e else w

theorem step_keeps {I : World → Prop} {w : World} (h : I w) {e : Event}
    (hact : w.enabled e → I (w.act e)) : I (w.step e) := by
  unfold step
  split
  · next he => exact hact he
  · exact h

def run (es : List Event) : World := Lib.run step {} es

end World

end CTaps.Lifetimes
