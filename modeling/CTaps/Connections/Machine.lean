import CTaps.Connections.Events

/-! The callbacks of picoquic, and the machine that handles the calls of the application and of the
candidate race and the callbacks of libuv and picoquic one after the other. A callback of the
application makes no call itself: what it would call is called right after the event. -/

namespace CTaps.Connections

open Gathering (Protocol)

/-! ### Streams -/

/-- `(can_send, can_receive)` of a stream the peer has opened, from the two low bits of its id. -/
def streamCapabilities (isClient : Bool) (sid : Nat) : Bool × Bool :=
  let serverInitiated : Bool := sid % 2 ≠ 0
  let unidirectional : Bool := sid / 2 % 2 ≠ 0
  if isClient then (!serverInitiated || !unidirectional, serverInitiated || !unidirectional)
  else (serverInitiated || !unidirectional, !serverInitiated || !unidirectional)

namespace World

def streamCtx (w : World) (g sid : Nat) : Option Nat := (w.cnx g).streamCtx.lookup sid

def bindStream (w : World) (g sid c : Nat) : World :=
  let caps := streamCapabilities (w.cnx g).isClient sid
  (w.modConn c fun x => { x with canSend := caps.1, canReceive := caps.2, stream := some sid }).modCnx
    g fun x => { x with streamCtx := (sid, c) :: x.streamCtx }

/-- `resolve_or_create_stream_connection`, where `first` is the first connection of the group's
table: the connection of the stream, and whether it is new. -/
def resolveOrCreateStreamConnection (w : World) (g sid first : Nat) : World × Nat × Bool :=
  match w.streamCtx g sid with
  | some c => (w, c, false)
  | none =>
    if (w.conn first).stream.isSome then
      ((w.addConnection ((w.conn first).cloneOf (w.conn first).socketManager)).bindStream g sid
        w.numConns, w.numConns, true)
    else (w.bindStream g sid first, first, false)

def handleStreamFin (w : World) (c : Nat) : World :=
  let w := w.modConn c fun x => { x with canReceive := false }
  if w.anyActive (w.conn c).group then
    if (w.conn c).canSend then w else w.closedConnectionCb c
  else w.picoquicClose (w.conn c).group

/-! ### Callbacks of picoquic -/

/-- `picoquic_callback_ready`. -/
def cnxReady (w : World) (g first : Nat) : World :=
  let w := w.modCnx g fun x => { x with ready := true }
  match (w.conn first).role with
  | .server => w.connectionReceivedCb (w.conn first).socketManager first
  | .client => w.connectionReadyCb first

def announceIf (w : World) (isNew : Bool) (c : Nat) : World :=
  if isNew then w.connectionReadyCb c else w

/-- `picoquic_callback_stream_data`. Data on a connection that no longer receives is an error. -/
def streamData (w : World) (g sid first : Nat) (hasData : Bool) : World :=
  let (w, c, isNew) := w.resolveOrCreateStreamConnection g sid first
  if hasData ∧ (w.conn c).canReceive = false then w else w.announceIf isNew c

/-- `picoquic_callback_stream_fin`. -/
def streamFin (w : World) (g sid first : Nat) (hasData : Bool) : World :=
  let (w, c, isNew) := w.resolveOrCreateStreamConnection g sid first
  if hasData ∧ (w.conn c).canReceive = false then w else (w.handleStreamFin c).announceIf isNew c

/-- `handle_closed_picoquic_connection` and `handle_aborted_picoquic_connection_group`: the
connections that are open are collected before the first one is reported. -/
def reportGroup (w : World) (order : List Nat) (report : World → Nat → World) : World :=
  (order.filter fun d => !(w.conn d).isClosed).foldl report w

/-- `picoquic_callback_close`, with the remote error of the connection or without, and
`picoquic_callback_stateless_reset`. -/
def cnxClosed (w : World) (g : Nat) (order : List Nat) (error : Bool) : World :=
  (w.modCnx g fun x => { x with closed := true }).reportGroup order
    (if error then abortedConnectionCb else closedConnectionCb)

/-- `on_quic_poll_read` for a packet that begins a new picoquic connection. Packets are read until
the timer handle is closed. -/
def newCnx (w : World) (s : Nat) : World :=
  match (w.sm s).listener with
  | some l =>
    if ((w.sm s).handle = .open ∨ (w.sm s).handle = .closing .socketTimerClose) ∧ l.closed = false then
      (w.addGroup { isClient := false }).addConnection
        { role := .server, group := w.numGroups, socketManager := s,
          callbacks := l.connectionCallbacks }
    else w
  | none => w

end World

/-! ### The machine -/

/-- A permutation of the connections of a group is the order of its hash table. Where libuv refuses
a clone, a listener or reading, see `Failures`. -/
inductive Event
  -- the application and the candidate race
  | initiate (cbs : UserCallbacks) (early : Option Nat) (start : World.Start)
  | listen (l : ListenerCallbacks) (cbs : UserCallbacks)
  | close (c : Nat)
  | abort (c : Nat) (refused : List Nat)
  | closeGroup (c : Nat) (order : List Nat)
  | abortGroup (c : Nat) (order refused : List Nat)
  | clone (c : Nat)
  | send (c : Nat) (isFinal : Bool) (sid : Nat)
  | free (c : Nat)
  | listenerClose (s : Nat)
  | raceWon (c : Nat)
  | raceCanceled (c : Nat) (order : List Nat)
  -- libuv
  | handleClosed (s : Nat)
  | connected (s : Nat) (ok readStarted : Bool)
  | readEnded (s : Nat) (e : World.ReadEnd)
  | accepted (s : Nat)
  | datagram (s addr : Nat)
  | datagramError (s : Nat)
  -- picoquic
  | newCnx (s : Nat)
  | cnxReady (g first : Nat)
  | streamData (g sid first : Nat) (hasData : Bool)
  | streamFin (g sid first : Nat) (hasData : Bool)
  | streamReset (g sid : Nat)
  | stopSending (g sid : Nat)
  | cnxClosed (g : Nat) (order : List Nat) (error : Bool)
deriving DecidableEq, Repr

namespace World

def reports (w : World) (g sid : Nat) : Prop :=
  w.protocol = .quic ∧ (w.cnx g).closed = false ∧ ∀ c ∈ w.streamCtx g sid, w.live c = true
deriving Decidable

def streamReset (w : World) (g sid : Nat) : World :=
  match w.streamCtx g sid with
  | some c => w.abortedConnectionCb c
  | none => w

def stopSending (w : World) (g sid : Nat) : World :=
  match w.streamCtx g sid with
  | some c => w.modConn c fun x => { x with canSend := false }
  | none => w

def handOver (w : World) (c : Nat) : World :=
  w.modConn c fun x => { x with owner := .application }.invoke .ready

/-- `cancel_all_other_attempts` on the connection of an attempt. -/
def cancelAttempt (w : World) (c : Nat) (order : List Nat) : World :=
  (w.modConn c fun x => { x with owner := .canceledRace }).closeGroup (w.conn c).group order

/-- When the application can make the call, or libuv or picoquic the callback. -/
def enabled (w : World) : Event → Bool
  | .close c | .abort c _ | .clone c | .send c _ _ => w.held c
  | .closeGroup c order | .abortGroup c order _ =>
    w.held c ∧ order.Perm (w.members (w.conn c).group)
  | .free c => w.held c ∧ (w.conn c).isClosed
  | .listenerClose s => (w.sm s).listener.isSome
  | .raceWon c => w.live c ∧ (w.conn c).owner = .race ∧ (w.conn c).state = .established
  | .raceCanceled c order =>
    w.live c ∧ (w.conn c).owner = .race ∧ order.Perm (w.members (w.conn c).group)
  | .connected .. | .readEnded .. | .accepted _ => w.protocol = .tcp
  | .datagram .. | .datagramError _ => w.protocol = .udp
  | .newCnx _ => w.protocol = .quic
  | .cnxReady g first =>
    w.protocol = .quic ∧ (w.cnx g).ready = false ∧ (w.cnx g).closed = false ∧ first ∈ w.members g
  | .streamData g sid first _ | .streamFin g sid first _ => w.reports g sid ∧ first ∈ w.members g
  | .streamReset g sid | .stopSending g sid => w.reports g sid
  | .cnxClosed g order _ =>
    w.protocol = .quic ∧ (w.cnx g).closed = false ∧ order.Perm (w.members g)
  | .initiate .. | .listen .. | .handleClosed _ => true

def act (w : World) : Event → World
  | .initiate cbs early start => w.initiate cbs early start
  | .listen l cbs => w.listen l cbs
  | .close c => w.connectionClose c
  | .abort c refused => w.connectionAbort c refused
  | .closeGroup c order => w.closeGroup (w.conn c).group order
  | .abortGroup _ order refused => w.abortAll order refused
  | .clone c => w.cloneConnection c
  | .send c isFinal sid => w.sendMessage c isFinal sid
  | .free c => w.connectionFree c
  | .listenerClose s => w.listenerClose s
  | .raceWon c => w.handOver c
  | .raceCanceled c order => w.cancelAttempt c order
  | .handleClosed s => w.handleClosed s
  | .connected s ok readStarted => w.connected s ok readStarted
  | .readEnded s e => w.tcpOnRead s e
  | .accepted s => w.newStreamConnectionCb s true
  | .datagram s addr => w.udpMultiplexReceivedMessage s addr
  | .datagramError s => w.udpReadError s
  | .newCnx s => w.newCnx s
  | .cnxReady g first => w.cnxReady g first
  | .streamData g sid first hasData => w.streamData g sid first hasData
  | .streamFin g sid first hasData => w.streamFin g sid first hasData
  | .streamReset g sid => w.streamReset g sid
  | .stopSending g sid => w.stopSending g sid
  | .cnxClosed g order error => w.cnxClosed g order error

def step (w : World) (e : Event) : World := if w.enabled e then w.act e else w

theorem step_keeps {I : World → Prop} {w : World} (h : I w) {e : Event}
    (hact : w.enabled e = true → I (w.act e)) : I (w.step e) := by
  unfold step
  split
  · next he => exact hact he
  · exact h

def run (p : Protocol) (es : List Event) : World := Lib.run step { protocol := p } es

end World

end CTaps.Connections
