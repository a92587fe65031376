import CTaps.Connections.Model

/-! The functions by which the application, the candidate race, libuv and the protocols act on
connections and socket managers. Where libuv would not make a callback in a state, the callback
leaves the state as it is. -/

namespace CTaps.Connections

open Function
open Gathering (Protocol)

namespace World

def live (w : World) (c : Nat) : Bool := c < w.numConns ∧ (w.conn c).freed = false

def held (w : World) (c : Nat) : Bool := w.live c ∧ (w.conn c).owner = .application

/-- The connections of a group. Where the order of the hash table matters it is given with the
event, as a permutation of this list. -/
def members (w : World) (g : Nat) : List Nat :=
  (List.range w.numConns).filter fun c => (w.conn c).freed = false ∧ (w.conn c).group = g

/-! ### New connections, groups and socket managers -/

@[simps] def addSocketManager (w : World) (m : SocketManager) : World :=
  { w with numSms := w.numSms + 1, sm := update w.sm w.numSms m }

@[simps] def addGroup (w : World) (x : Cnx) : World :=
  { w with numGroups := w.numGroups + 1, cnx := update w.cnx w.numGroups x }

/-- `ct_socket_manager_add_connection` for a connection that is new. -/
@[simps] def addConnection (w : World) (x : Connection) : World :=
  { w with
    numConns := w.numConns + 1
    conn := update w.conn w.numConns x
    sm := update w.sm x.socketManager
      { w.sm x.socketManager with
        allConnections := w.numConns :: (w.sm x.socketManager).allConnections } }

section
variable {β : Type*} (w : World)

theorem sm_addConnection (x : Connection) (s : Nat) (f : SocketManager → β)
    (hf : ∀ m l, f { m with allConnections := l } = f m) :
    f ((w.addConnection x).sm s) = f (w.sm s) := by
  rcases eq_or_ne s x.socketManager with rfl | hs
  · rw [addConnection_sm, update_self, hf]
  · rw [addConnection_sm, update_of_ne hs]

theorem conn_addConnection_of_lt (x : Connection) {c : Nat} (hc : c < w.numConns) :
    (w.addConnection x).conn c = w.conn c := by
  simp [Nat.ne_of_lt hc]

end

/-! ### TCP -/

def tcpClose (w : World) (c : Nat) : World :=
  w.modSm (w.conn c).socketManager (SocketManager.uvClose .onLibuvClose)

def tcpAbort (w : World) (c : Nat) : World :=
  w.modSm (w.conn c).socketManager (SocketManager.uvClose .onAbort)

def tcpCloseConnectionGroup (w : World) (order : List Nat) : World :=
  order.foldl (fun w d => if (w.conn d).isClosedOrClosing then w else w.tcpClose d) w

/-! ### UDP -/

def udpClose (w : World) (c : Nat) : World := w.closedConnectionCb c

def udpAbort (w : World) (c : Nat) : World := w.abortedConnectionCb c

def udpCloseConnectionGroup (w : World) (order : List Nat) : World := order.foldl udpClose w

/-! ### QUIC -/

/-- Closing or closed, it returns an error, which `quic_close_connection` passes on,
`handle_stream_fin` ignores and `quic_close_connection_group` asserts not to be there. -/
def picoquicClose (w : World) (g : Nat) : World :=
  w.modCnx g fun x =>
    { x with
      closing := true
      closeCalls := x.closeCalls + 1
      refusedCloses := x.refusedCloses + if x.closing ∨ x.closed then 1 else 0 }

def picoquicCloseImmediate (w : World) (g : Nat) : World :=
  w.modCnx g fun x => { x with closing := true }

def anyActive (w : World) (g : Nat) : Bool :=
  (w.members g).any fun d => (w.conn d).canSend || (w.conn d).canReceive

/-- The stream of a connection that is not the last active one gets a FIN, which is no event of
this model. -/
def quicCloseConnection (w : World) (c : Nat) : World :=
  let w := w.modConn c fun x => { x with canSend := false }
  if w.anyActive (w.conn c).group then w else w.picoquicClose (w.conn c).group

/-- `ct_connection_group_get_num_active_connections`. -/
def numActiveConnections (w : World) (g : Nat) : Nat :=
  (w.members g).countP fun d => !(w.conn d).isClosed

/-- `refused` are the connections whose stream picoquic does not reset. -/
def quicAbort (w : World) (c : Nat) (refused : List Nat) : World :=
  if 1 < w.numActiveConnections (w.conn c).group then
    if (w.conn c).stream.isSome ∧ c ∉ refused then w.modConn c (Connection.enter .closed) else w
  else w.picoquicCloseImmediate (w.conn c).group

/-! ### Calls of the application -/

def protocolClose (w : World) (c : Nat) : World :=
  match w.protocol with
  | .tcp => w.tcpClose c
  | .udp => w.udpClose c
  | .quic => w.quicCloseConnection c

def connectionClose (w : World) (c : Nat) : World :=
  if (w.conn c).isClosedOrClosing then w
  else (w.modConn c (Connection.enter .closing)).protocolClose c

def connectionAbort (w : World) (c : Nat) (refused : List Nat) : World :=
  match w.protocol with
  | .tcp => w.tcpAbort c
  | .udp => w.udpAbort c
  | .quic => w.quicAbort c refused

/-- `ct_connection_close_group` on a connection of group `g`. -/
def closeGroup (w : World) (g : Nat) (order : List Nat) : World :=
  match w.protocol with
  | .tcp => w.tcpCloseConnectionGroup order
  | .udp => w.udpCloseConnectionGroup order
  | .quic => w.picoquicClose g

/-- `ct_connection_group_abort_all`. -/
def abortAll (w : World) (order refused : List Nat) : World :=
  order.foldl (fun w d => if (w.conn d).isClosed then w else w.connectionAbort d refused) w

def listenerClose (w : World) (s : Nat) : World :=
  match w.protocol with
  | .tcp => w.modSm s (SocketManager.uvClose .onStopListen)
  | _ => w.listenerClosedCb s

/-- The part of `ct_send_message_full` that changes a connection: a final message ends sending, and
the first message of a QUIC connection takes the next free stream, `sid`. -/
def sendMessage (w : World) (c : Nat) (isFinal : Bool) (sid : Nat) : World :=
  if (w.conn c).canSend then
    let w := w.modConn c fun x => { x with canSend := !isFinal }
    if w.protocol = .quic ∧ (w.conn c).stream = none ∧ (w.cnx (w.conn c).group).ready then
      (w.modConn c fun x => { x with stream := some sid }).modCnx (w.conn c).group fun x =>
        { x with streamCtx := (sid, c) :: x.streamCtx }
    else w
  else w

/-- `ct_connection_free`, of a connection that is closed. -/
def connectionFree (w : World) (c : Nat) : World :=
  (w.modConn c fun x => { x with freed := true }).modSm (w.conn c).socketManager fun m =>
    { m with allConnections := m.allConnections.erase c }

section
variable {β : Type*} (w : World)

theorem sm_connectionFree (c s : Nat) (f : SocketManager → β)
    (hf : ∀ m l, f { m with allConnections := l } = f m) :
    f ((w.connectionFree c).sm s) = f (w.sm s) := by
  unfold connectionFree
  rcases eq_or_ne s (w.conn c).socketManager with rfl | hs
  · simp [hf]
  · simp [hs]

theorem conn_connectionFree (c d : Nat) (f : Connection → β)
    (hf : ∀ x, f { x with freed := true } = f x) :
    f ((w.connectionFree c).conn d) = f (w.conn d) := by
  unfold connectionFree
  rcases eq_or_ne d c with rfl | hd
  · simp [hf]
  · simp [hd]

end

def cloneConnection (w : World) (c : Nat) : World :=
  match w.protocol with
  | .tcp =>
    (w.addSocketManager
      { handle := .open, connectPending := some .onCloneConnect,
        tcpConnection := some w.numConns }).addConnection ((w.conn c).cloneOf w.numSms)
  | .udp =>
    ((w.addSocketManager { handle := .open }).addConnection
      ((w.conn c).cloneOf w.numSms)).connectionReadyCb w.numConns
  | .quic =>
    (w.addConnection ((w.conn c).cloneOf (w.conn c).socketManager)).connectionReadyCb w.numConns

inductive CloneStart
  | begun
  /-- `uv_tcp_init` has failed, or there is no memory for the stream state of QUIC. -/
  | noHandle
  /-- `uv_tcp_connect` has failed, or UDP has not got the name of its socket. -/
  | refused
deriving DecidableEq, Repr

/-- `ct_connection_clone_full`, none if it does not return. A clone that has failed is freed, and with
it the socket manager it was moved to; libuv still closes the handle. -/
def connectionCloneFull (w : World) (c : Nat) (start : CloneStart) : Option World :=
  match start, w.protocol with
  | .begun, _ => some (w.cloneConnection c)
  -- UDP uses the handle without looking whether there is one
  | .noHandle, .udp => none
  | .noHandle, _ | .refused, .quic =>
    some ((w.addConnection ((w.conn c).cloneOf (w.conn c).socketManager)).connectionFree w.numConns)
  | .refused, .tcp =>
    some (((w.addSocketManager
      { handle := .closing .onLibuvClose, tcpConnection := some w.numConns }).addConnection
        ((w.conn c).cloneOf w.numSms)).connectionFree w.numConns)
  | .refused, .udp =>
    some (((w.addSocketManager { handle := .closing .null }).addConnection
      ((w.conn c).cloneOf w.numSms)).connectionFree w.numConns)

/-- The `listen` of the protocols, where it succeeds. -/
def listen (w : World) (l : ListenerCallbacks) (cbs : UserCallbacks) : World :=
  w.addSocketManager
    { listener := some { callbacks := l, connectionCallbacks := cbs }, handle := .open }

/-- The `listen` of the protocols, where it fails. QUIC may have a timer handle to close. -/
def listenFailed (w : World) (l : ListenerCallbacks) (cbs : UserCallbacks) (handle : Handle) : World :=
  w.addSocketManager
    { listener := some { callbacks := l, connectionCallbacks := cbs }, handle := handle,
      pollHandle := false }

def addClient (w : World) (cbs : UserCallbacks) (m : SocketManager) (early : Option Nat) : World :=
  ((w.addGroup { streamCtx := (early.map fun sid => (sid, w.numConns)).toList }).addSocketManager
    m).addConnection
    { role := .client, group := w.numGroups, socketManager := w.numSms, owner := .race,
      callbacks := cbs, stream := early }

inductive Start
  /-- Connecting has begun. -/
  | begun
  /-- There is no handle, and nothing is reported. -/
  | noHandle
  /-- `uv_tcp_connect` has failed, or there is no poll handle for QUIC. -/
  | refused
  /-- A later step has failed. -/
  | abandoned
deriving DecidableEq, Repr

/-- What TCP does after a failed connect: `ct_connection_close`, and a call of
`establishment_error`. -/
def refuse (w : World) (c : Nat) : World :=
  (w.connectionClose c).modConn c (Connection.invoke .establishmentError)

/-- The `init` of the protocols; `early` is the stream of the initial message that QUIC sends as
early data. -/
def initiate (w : World) (cbs : UserCallbacks) (early : Option Nat) (start : Start) : World :=
  let c := w.numConns
  match w.protocol, start with
  | .tcp, .begun =>
    w.addClient cbs
      { handle := .open, connectPending := some .onConnect, tcpConnection := some c } none
  | .tcp, .noHandle => w.addClient cbs { tcpConnection := some c } none
  | .tcp, .refused => (w.addClient cbs { handle := .open, tcpConnection := some c } none).refuse c
  | .tcp, .abandoned =>
    (w.addClient cbs
      { handle := .open, connectPending := some .onConnect, tcpConnection := some c } none).refuse c
  | .udp, .begun => (w.addClient cbs { handle := .open } none).connectionReadyCb c
  | .udp, _ => w.addClient cbs {} none
  | .quic, .begun => w.addClient cbs { handle := .open } early
  | .quic, .noHandle => w.addClient cbs {} none
  | .quic, .refused =>
    (w.addClient cbs { handle := .open, pollHandle := false } none).abortedConnectionCb c
  | .quic, .abandoned => (w.addClient cbs { handle := .open } early).abortedConnectionCb c

/-! ### libuv -/

/-- `on_connect` and `on_clone_connect`. `ok` is a status of 0, which libuv never reports for a
handle that is being closed; `readStarted` is the result of `uv_read_start`. -/
def connected (w : World) (s : Nat) (ok readStarted : Bool) : World :=
  match (w.sm s).connectPending, (w.sm s).tcpConnection with
  | some cb, some c =>
    let w' := w.modSm s fun m => { m with connectPending := none }
    match cb, ok with
    | .onConnect, true => if (w.sm s).handle = .open then w'.connectionReadyCb c else w
    | .onConnect, false =>
      if (w.sm s).handle = .open then w'.modSm s (SocketManager.uvClose .onLibuvCloseAfterError)
      else w'
    | .onCloneConnect, true =>
      if (w.sm s).handle = .open then
        if readStarted then w'.connectionReadyCb c else w'.connectionClose c
      else w
    | .onCloneConnect, false => w'.refuse c
  | _, _ => w

inductive ReadEnd
  | eof | connReset | otherError
deriving DecidableEq, Repr

/-- `tcp_on_read` for a negative `nread`. libuv reads from open handles only. -/
def tcpOnRead (w : World) (s : Nat) (e : ReadEnd) : World :=
  if (w.sm s).handle = .open ∧ (w.sm s).tcpConnection.isSome then
    match e with
    | .eof => w.modSm s (SocketManager.uvClose .onLibuvClose)
    | .connReset => w.modSm s (SocketManager.uvClose .onAbort)
    | .otherError => w.modSm s (SocketManager.uvClose .onAbort)
  else w

/-- The new connection of `new_stream_connection_cb` has a socket manager without listener. -/
def addAccepted (w : World) (l : Listener) : World :=
  ((w.addGroup { isClient := false }).addSocketManager
    { handle := .open, tcpConnection := some w.numConns }).addConnection
    { role := .server, group := w.numGroups, socketManager := w.numSms,
      callbacks := l.connectionCallbacks }

/-- `new_stream_connection_cb`; `readStarted` is the result of `uv_read_start`. Without it the handle
is closed, `ct_connection_close` called and the memory of the connection released. -/
def newStreamConnectionCb (w : World) (s : Nat) (readStarted : Bool) : World :=
  match (w.sm s).listener with
  | some l =>
    if (w.sm s).handle = .open then
      if readStarted then (w.addAccepted l).connectionReceivedCb s w.numConns
      else
        (((w.addAccepted l).modSm w.numSms (SocketManager.uvClose .onLibuvClose)).connectionClose
          w.numConns).modConn w.numConns fun x => { x with freed := true }
    else w
  | none => w

theorem newStreamConnectionCb_started (w : World) (s : Nat) :
    w.newStreamConnectionCb s true =
      match (w.sm s).listener with
      | some l =>
        if (w.sm s).handle = .open then
          (((w.addGroup { isClient := false }).addSocketManager
            { handle := .open, tcpConnection := some w.numConns }).addConnection
            { role := .server, group := w.numGroups, socketManager := w.numSms,
              callbacks := l.connectionCallbacks }).connectionReceivedCb s w.numConns
        else w
      | none => w := rfl

/-- `udp_multiplex_received_message` for a datagram from `addr`. -/
def udpMultiplexReceivedMessage (w : World) (s addr : Nat) : World :=
  match (w.sm s).listener, (w.sm s).demuxTable.lookup addr with
  | some l, none =>
    if (w.sm s).handle = .open ∧ l.closed = false then
      (((w.addGroup {}).addConnection
        { role := .server, group := w.numGroups, socketManager := s, canSend := true,
          canReceive := true, callbacks := l.connectionCallbacks }).modSm s fun m =>
        { m with demuxTable := (addr, w.numConns) :: m.demuxTable }).connectionReceivedCb s w.numConns
    else w
  | _, _ => w

/-- `on_read` of a socket without listener for a negative `nread`. -/
def udpReadError (w : World) (s : Nat) : World :=
  if (w.sm s).handle = .open ∧ (w.sm s).listener = none then
    w.modSm s (SocketManager.uvClose .null)
  else w

/-! The close callbacks of the handles. -/

@[simps!] def markHandleClosed (w : World) (s : Nat) : World :=
  w.modSm s fun m => { m with handle := .closed }

def tcpHandleClosed (w : World) (s : Nat) : World :=
  if (w.sm s).connectPending = none then
    match (w.sm s).handle, (w.sm s).tcpConnection with
    | .closing .onLibuvClose, some c => (w.markHandleClosed s).closedConnectionCb c
    | .closing .onLibuvCloseAfterError, some c => (w.markHandleClosed s).establishmentErrorCb c
    | .closing .onAbort, some c => (w.markHandleClosed s).abortedConnectionCb c
    | .closing .onStopListen, none => (w.markHandleClosed s).listenerClosedCb s
    | _, _ => w
  else w

def udpHandleClosed (w : World) (s : Nat) : World :=
  match (w.sm s).handle with
  | .closing .socketClosedSuccess => (w.markHandleClosed s).closedSocketCb s
  | .closing .null => w.markHandleClosed s
  | _ => w

def quicHandleClosed (w : World) (s : Nat) : World :=
  match (w.sm s).handle with
  | .closing .socketTimerClose =>
    if (w.sm s).pollHandle then w.modSm s fun m => { m with handle := .closing .quicClosedPollHandle }
    else (w.markHandleClosed s).closedSocketCb s
  | .closing .quicClosedPollHandle => (w.markHandleClosed s).closedSocketCb s
  | _ => w

def handleClosed (w : World) (s : Nat) : World :=
  match w.protocol with
  | .tcp => w.tcpHandleClosed s
  | .udp => w.udpHandleClosed s
  | .quic => w.quicHandleClosed s

end World

end CTaps.Connections
