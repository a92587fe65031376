import CTaps.Gathering.Candidate
import CTaps.Lib.Machine
import Mathlib.Logic.Function.Basic

/-! Connections, listeners and the socket managers they depend on. All connections of one world
use one protocol. Every state a connection is put into and every callback made on it is noted in
its history, newest first; a listener notes its callbacks. -/

namespace CTaps.Connections

open Gathering (Protocol)

/-! ### Connections -/

inductive ConnState
  | establishing | established | closing | closed
deriving DecidableEq, Repr

/-- The order of the enumeration `ct_connection_state_enum_t`. -/
def ConnState.rank : ConnState → Nat
  | .establishing => 0
  | .established => 1
  | .closing => 2
  | .closed => 3

inductive Callback
  | ready | closed | connectionError | establishmentError
deriving DecidableEq, Repr

def Callback.isTerminal : Callback → Bool
  | .ready => false
  | _ => true

structure UserCallbacks where
  ready : Bool := true
  closed : Bool := true
  connectionError : Bool := true
  establishmentError : Bool := true
deriving DecidableEq, Repr

def UserCallbacks.has (cbs : UserCallbacks) : Callback → Bool
  | .ready => cbs.ready
  | .closed => cbs.closed
  | .connectionError => cbs.connectionError
  | .establishmentError => cbs.establishmentError

/-- Whose callbacks the connection carries: those of the candidate race that started it, the same
with `closed` set by `cancel_all_other_attempts`, or the application's own. -/
inductive Owner
  | race | canceledRace | application
deriving DecidableEq, Repr

inductive Happening
  | entered (s : ConnState)
  | called (k : Callback)
  | raced (k : Callback)
deriving DecidableEq, Repr

inductive Role
  | client | server
deriving DecidableEq, Repr

structure Connection where
  state : ConnState := .establishing
  canSend : Bool := false
  canReceive : Bool := false
  role : Role := .client
  /-- The `connection_group` the connection is in. -/
  group : Nat := 0
  socketManager : Nat := 0
  /-- The QUIC stream, once it is initialized. -/
  stream : Option Nat := none
  owner : Owner := .application
  callbacks : UserCallbacks := {}
  /-- The application has called `ct_connection_free`. -/
  freed : Bool := false
  history : List Happening := []
deriving DecidableEq, Repr

namespace Connection

def isClosed (x : Connection) : Bool := x.state = .closed

def isClosedOrClosing (x : Connection) : Bool := x.state = .closed ∨ x.state = .closing

/-- The state setters of `connection.c`. None of them looks at the state it replaces. -/
def enter (s : ConnState) (x : Connection) : Connection :=
  { x with state := s, history := .entered s :: x.history }

def markAsEstablished (x : Connection) : Connection :=
  { x.enter .established with canSend := true, canReceive := true }

def callOf (x : Connection) (k : Callback) : List Happening :=
  match x.owner with
  | .application => if x.callbacks.has k then [.called k] else []
  | .race => if k = .ready ∨ k = .establishmentError then [.raced k] else []
  | .canceledRace => if k = .connectionError then [] else [.raced k]

def invoke (k : Callback) (x : Connection) : Connection :=
  { x with history := x.callOf k ++ x.history }

/-- `ct_connection_create_clone`. -/
def cloneOf (x : Connection) (s : Nat) : Connection :=
  { role := x.role, group := x.group, socketManager := s, owner := x.owner,
    callbacks := x.callbacks }

end Connection

/-! ### Socket managers -/

inductive CloseReason
  | graceful | connectionError | establishmentError
deriving DecidableEq, Repr

def CloseReason.callback : CloseReason → Callback
  | .graceful => .closed
  | .connectionError => .connectionError
  | .establishmentError => .establishmentError

inductive ListenerCall
  | closed | establishmentError | connectionReceived (c : Nat)
deriving DecidableEq, Repr

structure ListenerCallbacks where
  closed : Bool := true
  establishmentError : Bool := true
  connectionReceived : Bool := true
deriving DecidableEq, Repr

structure Listener where
  closed : Bool := false
  callbacks : ListenerCallbacks := {}
  connectionCallbacks : UserCallbacks := {}
  history : List ListenerCall := []
deriving DecidableEq, Repr

namespace Listener

def notifyOfListenerClose (r : CloseReason) (l : Listener) : Listener :=
  match r with
  | .establishmentError =>
    if l.callbacks.establishmentError then { l with history := .establishmentError :: l.history }
    else l
  | _ => if l.callbacks.closed then { l with history := .closed :: l.history } else l

/-- `ct_listener_mark_as_closed` and the notification after it. -/
def close (r : CloseReason) (l : Listener) : Listener :=
  notifyOfListenerClose r { l with closed := true }

def received (c : Nat) (l : Listener) : Listener :=
  if l.callbacks.connectionReceived then { l with history := .connectionReceived c :: l.history }
  else l

end Listener

inductive CloseCb
  | onLibuvClose | onLibuvCloseAfterError | onAbort | onStopListen
  | socketClosedSuccess | null
  | socketTimerClose | quicClosedPollHandle
deriving DecidableEq, Repr

inductive Handle
  | none | open | closing (cb : CloseCb) | closed
deriving DecidableEq, Repr

inductive ConnectCb
  | onConnect | onCloneConnect
deriving DecidableEq, Repr

structure SocketManager where
  listener : Option Listener := none
  /-- `all_connections`, to which connections are prepended. -/
  allConnections : List Nat := []
  closeReason : CloseReason := .graceful
  /-- The TCP or UDP handle; for QUIC the timer handle and after it the poll handle. -/
  handle : Handle := .none
  connectPending : Option ConnectCb := none
  /-- The connection of a TCP socket. -/
  tcpConnection : Option Nat := none
  /-- The UDP demux table, from remote addresses to connections. -/
  demuxTable : List (Nat × Nat) := []
  /-- The QUIC socket state has a poll handle. -/
  pollHandle : Bool := true
  /-- How often the protocol was asked to close the socket. -/
  closeRequests : Nat := 0
  /-- How often a handle that was no longer open was closed again. -/
  repeatedCloses : Nat := 0
deriving DecidableEq, Repr

namespace SocketManager

def listenerOpen (m : SocketManager) : Bool :=
  match m.listener with
  | some l => !l.closed
  | none => false

def closeListener (m : SocketManager) : SocketManager :=
  { m with listener := m.listener.map (Listener.close m.closeReason) }

/-- `uv_close` and `uv_tcp_close_reset`. libuv asserts that a handle given to the first is not being
closed, and the second returns an error then. Such a second close is counted, and an end of a
connection asks that there was none. -/
def uvClose (cb : CloseCb) (m : SocketManager) : SocketManager :=
  match m.handle with
  | .none => m
  | .open => { m with handle := .closing cb }
  | _ => { m with repeatedCloses := m.repeatedCloses + 1 }

end SocketManager

/-- The picoquic connection of a connection group. -/
structure Cnx where
  isClient : Bool := true
  /-- `picoquic_callback_ready` has been made. -/
  ready : Bool := false
  /-- `picoquic_close` or `picoquic_close_immediate` has been called. -/
  closing : Bool := false
  /-- How often `picoquic_close` was called. -/
  closeCalls : Nat := 0
  /-- How often it returned an error, the connection being closed or about to be. -/
  refusedCloses : Nat := 0
  /-- picoquic has reported the end of the connection. -/
  closed : Bool := false
  /-- The connection set as context of a stream. -/
  streamCtx : List (Nat × Nat) := []
deriving DecidableEq, Repr

structure World where
  protocol : Protocol
  numConns : Nat := 0
  conn : Nat → Connection := fun _ => {}
  numSms : Nat := 0
  sm : Nat → SocketManager := fun _ => {}
  numGroups : Nat := 0
  cnx : Nat → Cnx := fun _ => {}

namespace World

@[simps] def modConn (w : World) (c : Nat) (f : Connection → Connection) : World :=
  { w with conn := Function.update w.conn c (f (w.conn c)) }

@[simps] def modSm (w : World) (s : Nat) (f : SocketManager → SocketManager) : World :=
  { w with sm := Function.update w.sm s (f (w.sm s)) }

@[simps] def modCnx (w : World) (g : Nat) (f : Cnx → Cnx) : World :=
  { w with cnx := Function.update w.cnx g (f (w.cnx g)) }

/-! ### Reports to the socket manager -/

/-- `ct_socket_manager_get_num_open_dependents`. -/
def numOpenDependents (w : World) (s : Nat) : Nat :=
  (if (w.sm s).listenerOpen then 1 else 0) +
    (w.sm s).allConnections.countP fun c => !(w.conn c).isClosed

/-- `ct_socket_manager_get_last_open_connection`. -/
def lastOpenConnection (w : World) (s : Nat) : Option Nat :=
  (w.sm s).allConnections.find? fun c => !(w.conn c).isClosed

def terminate (w : World) (c : Nat) (r : CloseReason) : World :=
  w.modConn c fun x => (x.enter .closed).invoke r.callback

/-- `ct_socket_manager_closed_socket_cb`. -/
def closedSocketCb (w : World) (s : Nat) : World :=
  match w.lastOpenConnection s with
  | some c => w.terminate c (w.sm s).closeReason
  | none => w.modSm s SocketManager.closeListener

/-- `close_socket` of the protocols. TCP has already closed the handle when the report is made. -/
def closeSocket (w : World) (s : Nat) : World :=
  match w.protocol with
  | .tcp => w.closedSocketCb s
  | .udp => w.modSm s (SocketManager.uvClose .socketClosedSuccess)
  | .quic => w.modSm s (SocketManager.uvClose .socketTimerClose)

/-- The reason is stored and the protocol asked to close the socket. -/
def socketManagerClose (w : World) (s : Nat) (r : CloseReason) : World :=
  (w.modSm s fun m => { m with closeReason := r, closeRequests := m.closeRequests + 1 }).closeSocket s

def reportEnd (w : World) (c : Nat) (r : CloseReason) : World :=
  if w.numOpenDependents (w.conn c).socketManager = 1 then
    w.socketManagerClose (w.conn c).socketManager r
  else w.terminate c r

def closedConnectionCb (w : World) (c : Nat) : World := w.reportEnd c .graceful

def establishmentErrorCb (w : World) (c : Nat) : World := w.reportEnd c .establishmentError

def abortedConnectionCb (w : World) (c : Nat) : World :=
  w.reportEnd c (if (w.conn c).state = .establishing then .establishmentError else .connectionError)

def listenerClosedCb (w : World) (s : Nat) : World :=
  if w.numOpenDependents s = 1 then w.socketManagerClose s .graceful
  else w.modSm s SocketManager.closeListener

def connectionReadyCb (w : World) (c : Nat) : World :=
  w.modConn c fun x => x.markAsEstablished.invoke .ready

/-- The listener is the one of socket manager `s`. -/
def connectionReceivedCb (w : World) (s c : Nat) : World :=
  (w.modConn c Connection.markAsEstablished).modSm s fun m =>
    { m with listener := m.listener.map (Listener.received c) }

end World

end CTaps.Connections
