import CTaps.Connections.Machine

/-! Where connections are: the socket manager and the group of every connection, and the
connections every socket manager lists. Only a new connection, a new listener and
`ct_connection_free` change this; every other call and callback keeps it. -/

namespace CTaps.Connections

open Gathering (Protocol)

def Connection.site (x : Connection) : Nat × Nat × Bool := (x.socketManager, x.group, x.freed)

def SocketManager.site (m : SocketManager) : List Nat × Option Nat × Bool :=
  (m.allConnections, m.tcpConnection, m.listener.isSome)

@[simp] theorem SocketManager.site_uvClose (m : SocketManager) (cb : CloseCb) :
    (m.uvClose cb).site = m.site := by
  unfold uvClose
  split <;> rfl

@[simp] theorem SocketManager.site_closeListener (m : SocketManager) :
    m.closeListener.site = m.site := by
  simp [closeListener, site]

structure Site where
  protocol : Protocol
  numConns : Nat
  numSms : Nat
  numGroups : Nat
  conn : Nat → Nat × Nat × Bool
  sm : Nat → List Nat × Option Nat × Bool

namespace World

def site (w : World) : Site :=
  ⟨w.protocol, w.numConns, w.numSms, w.numGroups, fun c => (w.conn c).site, fun s => (w.sm s).site⟩

variable (w : World)

theorem site_modConn (c : Nat) {f : Connection → Connection}
    (hf : ∀ x, (f x).site = x.site) : (w.modConn c f).site = w.site := by
  have hconn := funext (Lib.update_keeps Connection.site (hf (w.conn c)))
  exact congrArg (fun conn => { w.site with conn := conn }) hconn

@[simp] theorem site_modSm (s : Nat) {f : SocketManager → SocketManager}
    (hf : ∀ m, (f m).site = m.site) : (w.modSm s f).site = w.site := by
  have hsm := funext (Lib.update_keeps SocketManager.site (hf (w.sm s)))
  exact congrArg (fun sm => { w.site with sm := sm }) hsm

@[simp] theorem site_modCnx (g : Nat) (f : Cnx → Cnx) : (w.modCnx g f).site = w.site := rfl

@[simp] theorem site_modConn_enter (c : Nat) (s : ConnState) :
    (w.modConn c (Connection.enter s)).site = w.site :=
  site_modConn w c fun _ => rfl

@[simp] theorem site_modConn_invoke (c : Nat) (k : Callback) :
    (w.modConn c (Connection.invoke k)).site = w.site :=
  site_modConn w c fun _ => rfl

@[simp] theorem site_terminate (c : Nat) (r : CloseReason) : (w.terminate c r).site = w.site := by
  unfold terminate
  exact site_modConn w c fun _ => rfl

@[simp] theorem site_closedSocketCb (s : Nat) : (w.closedSocketCb s).site = w.site := by
  unfold closedSocketCb
  split <;> simp

@[simp] theorem site_socketManagerClose (s : Nat) (r : CloseReason) :
    (w.socketManagerClose s r).site = w.site := by
  unfold socketManagerClose
  have hreason : (w.modSm s fun m =>
      { m with closeReason := r, closeRequests := m.closeRequests + 1 }).site = w.site :=
    site_modSm w s fun _ => rfl
  unfold closeSocket
  split <;> simp [hreason]

@[simp] theorem site_reportEnd (c : Nat) (r : CloseReason) : (w.reportEnd c r).site = w.site := by
  unfold reportEnd
  split <;> simp

@[simp] theorem site_abortedConnectionCb (c : Nat) : (w.abortedConnectionCb c).site = w.site :=
  site_reportEnd w c _

@[simp] theorem site_closedConnectionCb (c : Nat) : (w.closedConnectionCb c).site = w.site :=
  site_reportEnd w c _

@[simp] theorem site_listenerClosedCb (s : Nat) : (w.listenerClosedCb s).site = w.site := by
  unfold listenerClosedCb
  split <;> simp

@[simp] theorem site_connectionReadyCb (c : Nat) : (w.connectionReadyCb c).site = w.site := by
  unfold connectionReadyCb
  exact site_modConn w c fun _ => rfl

@[simp] theorem site_connectionReceivedCb (s c : Nat) :
    (w.connectionReceivedCb s c).site = w.site := by
  unfold connectionReceivedCb
  rw [site_modSm _ s fun m => by simp [SocketManager.site]]
  exact site_modConn w c fun _ => rfl

/-! ### Protocols and calls -/

@[simp] theorem site_tcpClose (c : Nat) : (w.tcpClose c).site = w.site := by
  simp [tcpClose]

@[simp] theorem site_udpClose (c : Nat) : (w.udpClose c).site = w.site :=
  site_closedConnectionCb w c

@[simp] theorem site_picoquicClose (g : Nat) : (w.picoquicClose g).site = w.site := rfl

@[simp] theorem site_quicCloseConnection (c : Nat) :
    (w.quicCloseConnection c).site = w.site := by
  have hsend : (w.modConn c fun x => { x with canSend := false }).site = w.site :=
    site_modConn w c fun _ => rfl
  unfold quicCloseConnection
  dsimp only
  split
  · exact hsend
  · rw [site_picoquicClose, hsend]

@[simp] theorem site_connectionClose (c : Nat) : (w.connectionClose c).site = w.site := by
  unfold connectionClose protocolClose
  split
  · rfl
  · split <;> simp

@[simp] theorem site_refuse (c : Nat) : (w.refuse c).site = w.site :=
  (site_modConn_invoke _ c _).trans (site_connectionClose w c)

@[simp] theorem site_connectionAbort (c : Nat) (refused : List Nat) :
    (w.connectionAbort c refused).site = w.site := by
  unfold connectionAbort tcpAbort udpAbort quicAbort
  split
  · simp
  · simp
  · split
    · split
      · exact site_modConn_enter w c _
      · rfl
    · rfl

@[simp] theorem site_closeGroup (g : Nat) (order : List Nat) :
    (w.closeGroup g order).site = w.site := by
  unfold closeGroup
  split
  · exact Lib.foldl_keeps site (fun w d => by split <;> simp) w order
  · exact Lib.foldl_keeps site site_udpClose w order
  · rfl

@[simp] theorem site_abortAll (order refused : List Nat) :
    (w.abortAll order refused).site = w.site :=
  Lib.foldl_keeps site (fun w d => by split <;> simp) w order

@[simp] theorem site_listenerClose (s : Nat) : (w.listenerClose s).site = w.site := by
  unfold listenerClose
  split <;> simp

@[simp] theorem site_sendMessage (c : Nat) (isFinal : Bool) (sid : Nat) :
    (w.sendMessage c isFinal sid).site = w.site := by
  have hsend : (w.modConn c fun x => { x with canSend := !isFinal }).site = w.site :=
    site_modConn w c fun _ => rfl
  unfold sendMessage
  split
  · dsimp only
    split
    · rw [site_modCnx, site_modConn _ c, hsend]
      exact fun _ => rfl
    · exact hsend
  · rfl

@[simp] theorem site_handOver (c : Nat) : (w.handOver c).site = w.site := by
  unfold handOver
  exact site_modConn w c fun _ => rfl

@[simp] theorem site_cancelAttempt (c : Nat) (order : List Nat) :
    (w.cancelAttempt c order).site = w.site := by
  unfold cancelAttempt
  rw [site_closeGroup]
  exact site_modConn w c fun _ => rfl

structure ClientSocket (m : SocketManager) : Prop where
  connections : m.allConnections = []
  listener : m.listener = none
  demuxTable : m.demuxTable = []
  closes : m.repeatedCloses = 0
  handle : m.handle = .none ∨ m.handle = .open
  tcp : w.protocol = .tcp → m.tcpConnection = some w.numConns

/-- A client is left to wait, is ready at once (UDP) or fails at once, and then has a handle. -/
theorem initiate_cases (cbs : UserCallbacks) (early : Option Nat) (start : Start) :
    ∃ m stream, (w.initiate cbs early start = w.addClient cbs m stream ∨
        w.protocol = .udp ∧ w.initiate cbs early start =
          (w.addClient cbs m stream).connectionReadyCb w.numConns ∨
        m.handle = .open ∧ (w.protocol = .tcp ∧ w.initiate cbs early start =
            (w.addClient cbs m stream).refuse w.numConns ∨
          w.protocol = .quic ∧ w.initiate cbs early start =
            (w.addClient cbs m stream).abortedConnectionCb w.numConns)) ∧
      (stream = early ∨ stream = none) ∧ w.ClientSocket m := by
  unfold initiate
  dsimp only
  split
  · exact ⟨_, _, .inl rfl, .inr rfl, by constructor <;> simp⟩
  · exact ⟨_, _, .inl rfl, .inr rfl, by constructor <;> simp⟩
  · next hp => exact ⟨_, _, .inr (.inr ⟨rfl, .inl ⟨hp, rfl⟩⟩), .inr rfl, by constructor <;> simp⟩
  · next hp => exact ⟨_, _, .inr (.inr ⟨rfl, .inl ⟨hp, rfl⟩⟩), .inr rfl, by constructor <;> simp⟩
  · next hp => exact ⟨_, _, .inr (.inl ⟨hp, rfl⟩), .inr rfl, by constructor <;> simp [hp]⟩
  · next hp _ => exact ⟨_, _, .inl rfl, .inr rfl, by constructor <;> simp [hp]⟩
  · next hp => exact ⟨_, _, .inl rfl, .inl rfl, by constructor <;> simp [hp]⟩
  · next hp => exact ⟨_, _, .inl rfl, .inr rfl, by constructor <;> simp [hp]⟩
  · next hp =>
    exact ⟨_, _, .inr (.inr ⟨rfl, .inr ⟨hp, rfl⟩⟩), .inr rfl, by constructor <;> simp [hp]⟩
  · next hp =>
    exact ⟨_, _, .inr (.inr ⟨rfl, .inr ⟨hp, rfl⟩⟩), .inl rfl, by constructor <;> simp [hp]⟩

theorem site_initiate (cbs : UserCallbacks) (early : Option Nat) (start : Start) :
    ∃ m stream, m.allConnections = [] ∧ m.listener = none ∧
      (w.protocol = .tcp → m.tcpConnection = some w.numConns) ∧
      (w.initiate cbs early start).site = (w.addClient cbs m stream).site := by
  obtain ⟨m, stream, h, -, hm⟩ := w.initiate_cases cbs early start
  refine ⟨m, stream, hm.connections, hm.listener, hm.tcp, ?_⟩
  obtain h | ⟨-, h⟩ | ⟨-, ⟨-, h⟩ | ⟨-, h⟩⟩ := h <;> simp [h]

/-! ### Callbacks of libuv and picoquic -/

@[simp] theorem site_connected (s : Nat) (ok readStarted : Bool) :
    (w.connected s ok readStarted).site = w.site := by
  have hpending : (w.modSm s fun m => { m with connectPending := none }).site = w.site :=
    site_modSm w s fun _ => rfl
  unfold connected
  dsimp only
  repeat' split
  all_goals simp [hpending]

@[simp] theorem site_tcpOnRead (s : Nat) (e : ReadEnd) : (w.tcpOnRead s e).site = w.site := by
  unfold tcpOnRead
  split
  · split <;> simp
  · rfl

@[simp] theorem site_udpReadError (s : Nat) : (w.udpReadError s).site = w.site := by
  unfold udpReadError
  split <;> simp

@[simp] theorem site_markHandleClosed (s : Nat) : (w.markHandleClosed s).site = w.site := by
  unfold markHandleClosed
  exact site_modSm w s fun _ => rfl

inductive HandleEnd (s : Nat) : World → Prop
  | idle : HandleEnd s w
  | report {cb : CloseCb} {c : Nat} (r : CloseReason) : w.protocol = .tcp →
    (w.sm s).connectPending = none → (w.sm s).handle = .closing cb →
    (w.sm s).tcpConnection = some c → HandleEnd s ((w.markHandleClosed s).reportEnd c r)
  | listener : w.protocol = .tcp → (w.sm s).handle = .closing .onStopListen →
    (w.sm s).tcpConnection = none → HandleEnd s ((w.markHandleClosed s).listenerClosedCb s)
  | socket {cb : CloseCb} : w.protocol ≠ .tcp → (w.sm s).handle = .closing cb →
    (cb = .socketClosedSuccess ∨ cb = .quicClosedPollHandle ∨
      cb = .socketTimerClose ∧ (w.sm s).pollHandle = false) →
    HandleEnd s ((w.markHandleClosed s).closedSocketCb s)
  | poll : (w.sm s).handle = .closing .socketTimerClose → w.protocol ≠ .tcp →
    HandleEnd s (w.modSm s fun m => { m with handle := .closing .quicClosedPollHandle })
  | discarded : (w.sm s).handle = .closing .null → HandleEnd s (w.markHandleClosed s)

theorem handleEnd (s : Nat) : w.HandleEnd s (w.handleClosed s) := by
  unfold handleClosed
  split
  · next hp =>
    unfold tcpHandleClosed
    split
    · next hpending =>
      split
      · next hh hc => exact .report _ hp hpending hh hc
      · next hh hc => exact .report _ hp hpending hh hc
      · next hh hc => exact .report _ hp hpending hh hc
      · next hh hc => exact .listener hp hh hc
      · exact .idle
    · exact .idle
  · next hp =>
    have htcp : w.protocol ≠ .tcp := by simp [hp]
    unfold udpHandleClosed
    split
    · next hh => exact .socket htcp hh (.inl rfl)
    · next hh => exact .discarded hh
    · exact .idle
  · next hp =>
    have htcp : w.protocol ≠ .tcp := by simp [hp]
    unfold quicHandleClosed
    split
    · next hh =>
      split
      · exact .poll hh htcp
      · next hpoll => exact .socket htcp hh (.inr (.inr ⟨rfl, Bool.not_eq_true _ ▸ hpoll⟩))
    · next hh => exact .socket htcp hh (.inr (.inl rfl))
    · exact .idle

@[simp] theorem site_handleClosed (s : Nat) : (w.handleClosed s).site = w.site := by
  have h := w.handleEnd s
  generalize w.handleClosed s = w' at h ⊢
  cases h with
  | idle => rfl
  | poll _ => exact site_modSm w s fun _ => rfl
  | _ => simp

@[simp] theorem site_bindStream (g sid c : Nat) : (w.bindStream g sid c).site = w.site := by
  unfold bindStream
  rw [site_modCnx]
  exact site_modConn w c fun _ => rfl

@[simp] theorem site_handleStreamFin (c : Nat) : (w.handleStreamFin c).site = w.site := by
  have hreceive : (w.modConn c fun x => { x with canReceive := false }).site = w.site :=
    site_modConn w c fun _ => rfl
  unfold handleStreamFin
  dsimp only
  repeat' split
  all_goals simp [hreceive]

@[simp] theorem site_cnxReady (g first : Nat) : (w.cnxReady g first).site = w.site := by
  unfold cnxReady
  dsimp only
  split <;> simp

@[simp] theorem site_announceIf (isNew : Bool) (c : Nat) :
    (w.announceIf isNew c).site = w.site := by
  unfold announceIf
  split <;> simp

@[simp] theorem site_cnxClosed (g : Nat) (order : List Nat) (error : Bool) :
    (w.cnxClosed g order error).site = w.site := by
  unfold cnxClosed reportGroup
  rw [Lib.foldl_keeps site (fun w c => by split <;> simp), site_modCnx]

@[simp] theorem site_streamReset (g sid : Nat) : (w.streamReset g sid).site = w.site := by
  unfold streamReset
  split <;> simp

@[simp] theorem site_stopSending (g sid : Nat) : (w.stopSending g sid).site = w.site := by
  unfold stopSending
  split
  · exact site_modConn w _ fun _ => rfl
  · rfl

end World

end CTaps.Connections
