import CTaps.Connections.Placed

/-! The outline of a QUIC world: of a connection its stream, its flags and how often it was
announced, of a listener the connections it was told of, of a picoquic connection its streams. Most
calls and callbacks only report ends, which leaves the outline alone; the others are sends, new
connections and streams, and what is announced. -/

namespace CTaps.Connections

open Function
open Gathering (Protocol)

structure Connection.Outline where
  role : Role
  group : Nat
  socketManager : Nat
  stream : Option Nat
  canSend : Bool
  canReceive : Bool
  callbacks : UserCallbacks
  /-- The connection has the callbacks of the application. -/
  isHeld : Bool
  /-- How often `ready` of the application was called. -/
  readies : Nat

namespace Connection

def isHeld (x : Connection) : Bool :=
  match x.owner with
  | .application => true
  | _ => false

def outline (x : Connection) : Outline :=
  { role := x.role
    group := x.group
    socketManager := x.socketManager
    stream := x.stream
    canSend := x.canSend
    canReceive := x.canReceive
    callbacks := x.callbacks
    isHeld := x.isHeld
    readies := x.history.count (.called .ready) }

def Outline.ready (x : Outline) : Outline :=
  { x with
    canSend := true
    canReceive := true
    readies := x.readies + (x.isHeld && x.callbacks.ready).toNat }

def Outline.received (x : Outline) : Outline := { x with canSend := true, canReceive := true }

def Outline.handOver (x : Outline) : Outline :=
  { x with isHeld := true, readies := x.readies + x.callbacks.ready.toNat }

theorem outline_enter (s : ConnState) (x : Connection) : (x.enter s).outline = x.outline := by
  simp [outline, enter, isHeld]

theorem outline_invoke {k : Callback} (hk : k ≠ .ready) (x : Connection) :
    (x.invoke k).outline = x.outline := by
  have hcall : Happening.called .ready ∉ x.callOf k := by
    unfold callOf
    split
    · split
      · simpa using Ne.symm hk
      · exact List.not_mem_nil
    · split <;> simp
    · split <;> simp
  simp [outline, invoke, isHeld, List.count_append, List.count_eq_zero.mpr hcall]

theorem outline_established (x : Connection) :
    x.markAsEstablished.outline = x.outline.received := by
  simp [outline, markAsEstablished, enter, isHeld, Outline.received]

theorem outline_ready (x : Connection) :
    (x.markAsEstablished.invoke .ready).outline = x.outline.ready := by
  have hcount : (x.callOf .ready).count (.called .ready) =
      (x.isHeld && x.callbacks.ready).toNat := by
    unfold callOf isHeld
    cases x.owner with
    | application => cases hready : x.callbacks.ready <;> simp [UserCallbacks.has, hready]
    | race => simp
    | canceledRace => simp
  have hown : x.markAsEstablished.callOf .ready = x.callOf .ready := rfl
  simp only [outline, invoke, Outline.ready, List.count_append, hown, hcount]
  simp [markAsEstablished, enter, isHeld, Nat.add_comm]

theorem outline_handOver (x : Connection) :
    ({ x with owner := .application }.invoke .ready).outline = x.outline.handOver := by
  cases hready : x.callbacks.ready with
  | false => simp [outline, invoke, callOf, UserCallbacks.has, hready, isHeld, Outline.handOver]
  | true => simp [outline, invoke, callOf, UserCallbacks.has, hready, isHeld, Outline.handOver]

end Connection

def Listener.heard (l : Listener) : List Nat :=
  l.history.filterMap fun
    | .connectionReceived c => some c
    | _ => none

structure Listener.Outline where
  callbacks : ListenerCallbacks
  connectionCallbacks : UserCallbacks
  heard : List Nat

def Listener.outline (l : Listener) : Outline :=
  { callbacks := l.callbacks, connectionCallbacks := l.connectionCallbacks, heard := l.heard }

def Listener.Outline.received (c : Nat) (l : Outline) : Outline :=
  if l.callbacks.connectionReceived then { l with heard := c :: l.heard } else l

theorem Listener.outline_close (r : CloseReason) (l : Listener) : (l.close r).outline = l.outline := by
  unfold close notifyOfListenerClose
  cases r <;> dsimp only <;> split <;> rfl

theorem Listener.outline_received (c : Nat) (l : Listener) :
    (l.received c).outline = l.outline.received c := by
  unfold Listener.received Outline.received
  cases hreceived : l.callbacks.connectionReceived with
  | false => simp [outline, hreceived]
  | true => simp [outline, hreceived, heard]

structure Cnx.Outline where
  isClient : Bool
  ready : Bool
  streamCtx : List (Nat × Nat)

def Cnx.outline (x : Cnx) : Outline :=
  { isClient := x.isClient, ready := x.ready, streamCtx := x.streamCtx }

structure Outline where
  numConns : Nat
  conn : Nat → Connection.Outline
  numSms : Nat
  listener : Nat → Option Listener.Outline
  numGroups : Nat
  cnx : Nat → Cnx.Outline

/-! ### What happens to an outline -/

namespace Outline

@[simps] def modConn (o : Outline) (c : Nat) (f : Connection.Outline → Connection.Outline) : Outline :=
  { o with conn := update o.conn c (f (o.conn c)) }

@[simps] def modCnx (o : Outline) (g : Nat) (f : Cnx.Outline → Cnx.Outline) : Outline :=
  { o with cnx := update o.cnx g (f (o.cnx g)) }

@[simps] def addConnection (o : Outline) (x : Connection.Outline) : Outline :=
  { o with numConns := o.numConns + 1, conn := update o.conn o.numConns x }

@[simps] def addSocketManager (o : Outline) (l : Option Listener.Outline) : Outline :=
  { o with numSms := o.numSms + 1, listener := update o.listener o.numSms l }

@[simps] def addGroup (o : Outline) (x : Cnx.Outline) : Outline :=
  { o with numGroups := o.numGroups + 1, cnx := update o.cnx o.numGroups x }

def fresh (role : Role) (g s : Nat) (isHeld : Bool) (cbs : UserCallbacks) : Connection.Outline :=
  { role := role, group := g, socketManager := s, stream := none, canSend := false,
    canReceive := false, callbacks := cbs, isHeld := isHeld, readies := 0 }

def cloneOf (x : Connection.Outline) : Connection.Outline :=
  fresh x.role x.group x.socketManager x.isHeld x.callbacks

def addClient (o : Outline) (cbs : UserCallbacks) (early : Option Nat) : Outline :=
  ((o.addGroup ⟨true, false, (early.map fun sid => (sid, o.numConns)).toList⟩).addSocketManager
    none).addConnection { fresh .client o.numGroups o.numSms false cbs with stream := early }

def newCnx (o : Outline) (s : Nat) (l : Listener.Outline) : Outline :=
  (o.addGroup ⟨false, false, []⟩).addConnection
    (fresh .server o.numGroups s true l.connectionCallbacks)

def ready (o : Outline) (c : Nat) : Outline := o.modConn c Connection.Outline.ready

@[simps!] def noSend (o : Outline) (c : Nat) : Outline :=
  o.modConn c fun x => { x with canSend := false }

@[simps!] def noReceive (o : Outline) (c : Nat) : Outline :=
  o.modConn c fun x => { x with canReceive := false }

def received (o : Outline) (s c : Nat) : Outline :=
  { o.modConn c Connection.Outline.received with
    listener := update o.listener s ((o.listener s).map (Listener.Outline.received c)) }

def take (o : Outline) (g sid c : Nat) : Outline :=
  (o.modConn c fun x => { x with stream := some sid }).modCnx g fun x =>
    { x with streamCtx := (sid, c) :: x.streamCtx }

def send (o : Outline) (c : Nat) (isFinal : Bool) (sid : Nat) : Outline :=
  if (o.conn c).canSend then
    let o := o.modConn c fun x => { x with canSend := !isFinal }
    if (o.conn c).stream = none ∧ (o.cnx (o.conn c).group).ready then o.take (o.conn c).group sid c
    else o
  else o

def clone (o : Outline) (c : Nat) : Outline := (o.addConnection (cloneOf (o.conn c))).ready o.numConns

def streamCtx (o : Outline) (g sid : Nat) : Option Nat := (o.cnx g).streamCtx.lookup sid

def bind (o : Outline) (g sid c : Nat) : Outline :=
  let caps := streamCapabilities (o.cnx g).isClient sid
  (o.modConn c fun x => { x with canSend := caps.1, canReceive := caps.2 }).take g sid c

def resolve (o : Outline) (g sid first : Nat) : Outline × Nat × Bool :=
  match o.streamCtx g sid with
  | some c => (o, c, false)
  | none =>
    if (o.conn first).stream.isSome then
      ((o.addConnection (cloneOf (o.conn first))).bind g sid o.numConns, o.numConns, true)
    else (o.bind g sid first, first, false)

def announceIf (o : Outline) (isNew : Bool) (c : Nat) : Outline := if isNew then o.ready c else o

def streamData (o : Outline) (g sid first : Nat) (hasData : Bool) : Outline :=
  let r := o.resolve g sid first
  if hasData ∧ (r.1.conn r.2.1).canReceive = false then r.1 else r.1.announceIf r.2.2 r.2.1

def streamFin (o : Outline) (g sid first : Nat) (hasData : Bool) : Outline :=
  let r := o.resolve g sid first
  if hasData ∧ (r.1.conn r.2.1).canReceive = false then r.1
  else (r.1.noReceive r.2.1).announceIf r.2.2 r.2.1

def stopSending (o : Outline) (g sid : Nat) : Outline :=
  match o.streamCtx g sid with
  | some c => o.noSend c
  | none => o

def cnxReady (o : Outline) (g first : Nat) : Outline :=
  let o := o.modCnx g fun x => { x with ready := true }
  match (o.conn first).role with
  | .server => o.received (o.conn first).socketManager first
  | .client => o.ready first

/-! ### Connections and streams that are new -/

variable (o : Outline)

theorem addConnection_conn_of_lt (x : Connection.Outline) {c : Nat} (hc : c < o.numConns) :
    (o.addConnection x).conn c = o.conn c := by
  simp [Nat.ne_of_lt hc]

theorem addConnection_conn_self (x : Connection.Outline) :
    (o.addConnection x).conn o.numConns = x := by
  simp

variable {o} in
theorem forall_addConnection {x : Connection.Outline} {P : Connection.Outline → Prop}
    (hold : ∀ c < o.numConns, P (o.conn c)) (hnew : P x) :
    ∀ c < (o.addConnection x).numConns, P ((o.addConnection x).conn c) := by
  intro c hc
  rcases Nat.lt_succ_iff_lt_or_eq.mp hc with hlt | rfl
  · rw [addConnection_conn_of_lt o x hlt]
    exact hold c hlt
  · rw [addConnection_conn_self]
    exact hnew

theorem take_conn_self (g sid c : Nat) :
    (o.take g sid c).conn c = { o.conn c with stream := some sid } := by
  simp [take]

theorem take_conn_of_ne (g sid : Nat) {c d : Nat} (hd : d ≠ c) :
    (o.take g sid c).conn d = o.conn d := by
  simp [take, hd]

theorem take_isClient (g sid c k : Nat) :
    ((o.take g sid c).cnx k).isClient = (o.cnx k).isClient := by
  rcases eq_or_ne k g with rfl | hk
  · simp [take]
  · simp [take, hk]

theorem take_streamCtx_self (g sid c : Nat) : (o.take g sid c).streamCtx g sid = some c := by
  simp [take, streamCtx]

theorem take_streamCtx_of_ne {g sid k r : Nat} (hne : k ≠ g ∨ r ≠ sid) (c : Nat) :
    (o.take g sid c).streamCtx k r = o.streamCtx k r := by
  unfold streamCtx
  rcases eq_or_ne k g with rfl | hk
  · have hr : r ≠ sid := hne.resolve_left fun hkk => hkk rfl
    have hbeq : (r == sid) = false := beq_eq_false_iff_ne.mpr hr
    simp [take, List.lookup_cons, hbeq]
  · simp [take, hk]

end Outline

namespace World

def outline (w : World) : Outline :=
  { numConns := w.numConns
    conn := fun c => (w.conn c).outline
    numSms := w.numSms
    listener := fun s => (w.sm s).listener.map Listener.outline
    numGroups := w.numGroups
    cnx := fun g => (w.cnx g).outline }

variable (w : World)

/-! ### Updates -/

theorem outline_update (c : Nat) (f : Connection → Connection) :
    (w.modConn c f).outline =
      { w.outline with conn := update w.outline.conn c (f (w.conn c)).outline } := by
  have hconn := comp_update Connection.outline w.conn c (f (w.conn c))
  exact congrArg (fun conn => { w.outline with conn := conn }) hconn

theorem outline_modConn (c : Nat) {f : Connection → Connection}
    (hf : (f (w.conn c)).outline = (w.conn c).outline) : (w.modConn c f).outline = w.outline := by
  rw [outline_update, hf]
  have hself : update w.outline.conn c (w.conn c).outline = w.outline.conn :=
    update_eq_self c w.outline.conn
  rw [hself]

theorem outline_modSm (s : Nat) {f : SocketManager → SocketManager}
    (hf : (f (w.sm s)).listener.map Listener.outline = (w.sm s).listener.map Listener.outline) :
    (w.modSm s f).outline = w.outline := by
  have hsm := funext (Lib.update_keeps (fun m : SocketManager => m.listener.map Listener.outline) hf)
  exact congrArg (fun listener => { w.outline with listener := listener }) hsm

theorem outline_modCnx (g : Nat) {f : Cnx → Cnx} (hf : (f (w.cnx g)).outline = (w.cnx g).outline) :
    (w.modCnx g f).outline = w.outline := by
  have hcnx := funext (Lib.update_keeps Cnx.outline hf)
  exact congrArg (fun cnx => { w.outline with cnx := cnx }) hcnx

@[simp] theorem outline_uvClose (s : Nat) (cb : CloseCb) :
    (w.modSm s (SocketManager.uvClose cb)).outline = w.outline := by
  refine w.outline_modSm s ?_
  unfold SocketManager.uvClose
  split <;> rfl

@[simp] theorem outline_markHandleClosed (s : Nat) : (w.markHandleClosed s).outline = w.outline :=
  w.outline_modSm s rfl

@[simp] theorem outline_closeListener (s : Nat) :
    (w.modSm s SocketManager.closeListener).outline = w.outline := by
  refine w.outline_modSm s ?_
  unfold SocketManager.closeListener
  cases (w.sm s).listener with
  | none => rfl
  | some l => exact congrArg some (Listener.outline_close _ l)

@[simp] theorem outline_picoquicClose (g : Nat) : (w.picoquicClose g).outline = w.outline :=
  w.outline_modCnx g rfl

@[simp] theorem outline_picoquicCloseImmediate (g : Nat) :
    (w.picoquicCloseImmediate g).outline = w.outline :=
  w.outline_modCnx g rfl

@[simp] theorem outline_enterState (c : Nat) (s : ConnState) :
    (w.modConn c (Connection.enter s)).outline = w.outline :=
  w.outline_modConn c (Connection.outline_enter s _)

/-! ### Reports -/

@[simp] theorem outline_terminate (c : Nat) (r : CloseReason) :
    (w.terminate c r).outline = w.outline := by
  refine w.outline_modConn c ?_
  have hr : r.callback ≠ .ready := by cases r <;> exact Callback.noConfusion
  rw [Connection.outline_invoke hr, Connection.outline_enter]

@[simp] theorem outline_closedSocketCb (s : Nat) : (w.closedSocketCb s).outline = w.outline := by
  unfold closedSocketCb
  split <;> simp

@[simp] theorem outline_socketManagerClose (s : Nat) (r : CloseReason) :
    (w.socketManagerClose s r).outline = w.outline := by
  have hnote : (w.modSm s fun m =>
      { m with closeReason := r, closeRequests := m.closeRequests + 1 }).outline = w.outline :=
    w.outline_modSm s rfl
  unfold socketManagerClose closeSocket
  split <;> simp [hnote]

@[simp] theorem outline_reportEnd (c : Nat) (r : CloseReason) :
    (w.reportEnd c r).outline = w.outline := by
  unfold reportEnd
  split <;> simp

@[simp] theorem outline_closedConnectionCb (c : Nat) : (w.closedConnectionCb c).outline = w.outline :=
  w.outline_reportEnd c _

@[simp] theorem outline_abortedConnectionCb (c : Nat) :
    (w.abortedConnectionCb c).outline = w.outline :=
  w.outline_reportEnd c _

@[simp] theorem outline_listenerClosedCb (s : Nat) : (w.listenerClosedCb s).outline = w.outline := by
  unfold listenerClosedCb
  split <;> simp

/-! ### Calls and callbacks that only report -/

variable {w} (hp : w.protocol = .quic)

include hp in
theorem outline_connectionAbort (c : Nat) (refused : List Nat) :
    (w.connectionAbort c refused).outline = w.outline := by
  unfold connectionAbort quicAbort
  rw [hp]
  dsimp only
  split
  · split <;> simp
  · simp

include hp in
theorem outline_abortAll (order refused : List Nat) :
    (w.abortAll order refused).outline = w.outline := by
  have hboth : (w.abortAll order refused).outline = w.outline ∧
      (w.abortAll order refused).protocol = .quic := by
    refine Lib.foldl_invariant (I := fun v : World => v.outline = w.outline ∧ v.protocol = .quic)
      (fun v d _ hv => ?_) ⟨rfl, hp⟩
    split
    · exact hv
    · refine ⟨(outline_connectionAbort hv.2 d refused).trans hv.1, ?_⟩
      exact (protocol_of_site (site_connectionAbort v d refused)).trans hv.2
  exact hboth.1

include hp in
theorem outline_closeGroup (g : Nat) (order : List Nat) :
    (w.closeGroup g order).outline = w.outline := by
  unfold closeGroup
  rw [hp]
  exact w.outline_picoquicClose g

include hp in
theorem outline_cancelAttempt {c : Nat} (hc : (w.conn c).owner = .race) (order : List Nat) :
    (w.cancelAttempt c order).outline = w.outline := by
  have howner : (w.modConn c fun x => { x with owner := .canceledRace }).outline = w.outline :=
    w.outline_modConn c (by simp [Connection.outline, Connection.isHeld, hc])
  exact (outline_closeGroup (w := w.modConn c _) hp _ order).trans howner

include hp in
theorem outline_handleClosed (s : Nat) : (w.handleClosed s).outline = w.outline := by
  unfold handleClosed quicHandleClosed
  rw [hp]
  dsimp only
  split
  · split
    · exact w.outline_modSm s rfl
    · simp
  · simp
  · rfl

variable (w) in
theorem outline_cnxClosed (g : Nat) (order : List Nat) (error : Bool) :
    (w.cnxClosed g order error).outline = w.outline := by
  unfold cnxClosed reportGroup
  rw [Lib.foldl_keeps outline fun v d => by split <;> simp]
  exact w.outline_modCnx g rfl

variable (w) in
theorem outline_connectionFree (c : Nat) : (w.connectionFree c).outline = w.outline := by
  unfold connectionFree
  rw [outline_modSm _ _ rfl]
  exact w.outline_modConn c rfl

/-! ### The other calls and callbacks -/

section
variable (w)

theorem outline_modConn_eq (c : Nat) {f : Connection → Connection}
    {k : Connection.Outline → Connection.Outline}
    (hf : (f (w.conn c)).outline = k (w.conn c).outline) :
    (w.modConn c f).outline = w.outline.modConn c k := by
  rw [outline_update, hf]
  rfl

theorem outline_modCnx_eq (g : Nat) {f : Cnx → Cnx} {k : Cnx.Outline → Cnx.Outline}
    (hf : (f (w.cnx g)).outline = k (w.cnx g).outline) :
    (w.modCnx g f).outline = w.outline.modCnx g k := by
  have hcnx : (fun h => ((w.modCnx g f).cnx h).outline) =
      update w.outline.cnx g (k (w.outline.cnx g)) := by
    funext h
    by_cases hh : h = g
    · subst hh
      simpa [outline] using hf
    · simp [hh, outline]
  unfold outline at hcnx ⊢
  rw [hcnx]
  rfl

theorem outline_connectionReadyCb (c : Nat) :
    (w.connectionReadyCb c).outline = w.outline.ready c :=
  w.outline_modConn_eq c (Connection.outline_ready _)

theorem outline_connectionReceivedCb (s c : Nat) :
    (w.connectionReceivedCb s c).outline = w.outline.received s c := by
  have hconn := w.outline_modConn_eq c (f := Connection.markAsEstablished)
    (Connection.outline_established _)
  have hlistener : (fun t => ((w.connectionReceivedCb s c).sm t).listener.map Listener.outline) =
      update w.outline.listener s
        ((w.outline.listener s).map (Listener.Outline.received c)) := by
    funext t
    by_cases ht : t = s
    · subst ht
      cases hl : (w.sm t).listener with
      | none => simp [connectionReceivedCb, outline, hl]
      | some l => simp [connectionReceivedCb, outline, hl, Listener.outline_received]
    · simp [connectionReceivedCb, ht, outline]
  unfold Outline.received
  rw [← hconn, ← hlistener]
  rfl

theorem outline_addConnection (x : Connection) :
    (w.addConnection x).outline = w.outline.addConnection x.outline := by
  have hconn : (fun d => ((w.addConnection x).conn d).outline) =
      update w.outline.conn w.numConns x.outline := by
    funext d
    by_cases hd : d = w.numConns
    · subst hd
      simp
    · simp [hd, outline]
  have hlistener : (fun t => ((w.addConnection x).sm t).listener.map Listener.outline) =
      w.outline.listener := by
    funext t
    rw [w.sm_addConnection x t SocketManager.listener fun _ _ => rfl]
    rfl
  unfold outline at hconn hlistener ⊢
  rw [hconn, hlistener]
  rfl

theorem outline_addSocketManager (m : SocketManager) :
    (w.addSocketManager m).outline =
      w.outline.addSocketManager (m.listener.map Listener.outline) := by
  have hlistener : (fun t => ((w.addSocketManager m).sm t).listener.map Listener.outline) =
      update w.outline.listener w.numSms (m.listener.map Listener.outline) := by
    funext t
    by_cases ht : t = w.numSms
    · subst ht
      simp
    · simp [ht, outline]
  unfold outline at hlistener ⊢
  rw [hlistener]
  rfl

theorem outline_addGroup (x : Cnx) : (w.addGroup x).outline = w.outline.addGroup x.outline := by
  have hcnx : (fun h => ((w.addGroup x).cnx h).outline) =
      update w.outline.cnx w.numGroups x.outline := by
    funext h
    by_cases hh : h = w.numGroups
    · subst hh
      simp
    · simp [hh, outline]
  unfold outline at hcnx ⊢
  rw [hcnx]
  rfl

theorem outline_cloneOf (x : Connection) :
    (x.cloneOf x.socketManager).outline = Outline.cloneOf x.outline := by
  simp [Connection.outline, Connection.cloneOf, Connection.isHeld, Outline.cloneOf, Outline.fresh]

theorem outline_addClient (cbs : UserCallbacks) {m : SocketManager} (hm : m.listener = none)
    (early : Option Nat) : (w.addClient cbs m early).outline = w.outline.addClient cbs early := by
  unfold addClient
  rw [outline_addConnection, outline_addSocketManager, outline_addGroup, hm]
  rfl

theorem outline_initiate (hp : w.protocol = .quic) (cbs : UserCallbacks) (early : Option Nat)
    (start : Start) : ∃ stream, (stream = early ∨ stream = none) ∧
      (w.initiate cbs early start).outline = w.outline.addClient cbs stream := by
  obtain ⟨m, stream, h, hstream, hm⟩ := w.initiate_cases cbs early start
  refine ⟨stream, hstream, ?_⟩
  rw [← w.outline_addClient cbs hm.listener stream]
  obtain he | ⟨ht, -⟩ | ⟨-, ⟨ht, -⟩ | ⟨-, he⟩⟩ := h
  · rw [he]
  · cases hp.symm.trans ht
  · cases hp.symm.trans ht
  · rw [he, outline_abortedConnectionCb]

theorem outline_withoutSend (c : Nat) :
    (w.modConn c fun x => { x with canSend := false }).outline = w.outline.noSend c :=
  w.outline_modConn_eq c rfl

theorem outline_connectionClose (hp : w.protocol = .quic) (c : Nat) :
    (w.connectionClose c).outline =
      if (w.conn c).isClosedOrClosing then w.outline else w.outline.noSend c := by
  unfold connectionClose
  split
  · rfl
  · have hproto : (w.modConn c (Connection.enter .closing)).protocol = .quic := hp
    unfold protocolClose quicCloseConnection
    rw [hproto]
    dsimp only
    split
    · rw [outline_withoutSend, outline_enterState]
    · rw [outline_picoquicClose, outline_withoutSend, outline_enterState]

theorem outline_take (g sid c : Nat) :
    ((w.modConn c fun x => { x with stream := some sid }).modCnx g fun x =>
      { x with streamCtx := (sid, c) :: x.streamCtx }).outline = w.outline.take g sid c := by
  rw [outline_modCnx_eq _ g (k := fun x => { x with streamCtx := (sid, c) :: x.streamCtx }) rfl,
    outline_modConn_eq _ c (k := fun x => { x with stream := some sid }) rfl]
  rfl

theorem outline_sendMessage (hp : w.protocol = .quic) (c : Nat) (isFinal : Bool) (sid : Nat) :
    (w.sendMessage c isFinal sid).outline = w.outline.send c isFinal sid := by
  have hsend : (w.modConn c fun x => { x with canSend := !isFinal }).outline =
      w.outline.modConn c fun x => { x with canSend := !isFinal } := w.outline_modConn_eq c rfl
  unfold sendMessage Outline.send
  by_cases hs : (w.conn c).canSend = true
  · rw [if_pos hs, if_pos (show (w.outline.conn c).canSend = true from hs), ← hsend]
    set v := w.modConn c fun x => { x with canSend := !isFinal }
    have hproto : v.protocol = .quic := hp
    dsimp only
    by_cases hbind : (v.conn c).stream = none ∧ (v.cnx (v.conn c).group).ready = true
    · have hbind' : (v.outline.conn c).stream = none ∧
          (v.outline.cnx (v.outline.conn c).group).ready = true := hbind
      rw [if_pos ⟨hproto, hbind⟩, if_pos hbind']
      exact v.outline_take _ sid c
    · have hbind' : ¬ ((v.outline.conn c).stream = none ∧
          (v.outline.cnx (v.outline.conn c).group).ready = true) := hbind
      rw [if_neg fun h => hbind h.2, if_neg hbind']
  · rw [if_neg hs, if_neg (show ¬ (w.outline.conn c).canSend = true from hs)]

theorem outline_cloneConnection (hp : w.protocol = .quic) (c : Nat) :
    (w.cloneConnection c).outline = w.outline.clone c := by
  unfold cloneConnection
  rw [hp]
  dsimp only
  rw [outline_connectionReadyCb, outline_addConnection, outline_cloneOf]
  rfl

theorem outline_bindStream (g sid c : Nat) :
    (w.bindStream g sid c).outline = w.outline.bind g sid c := by
  unfold bindStream
  dsimp only
  rw [outline_modCnx_eq _ g (k := fun x => { x with streamCtx := (sid, c) :: x.streamCtx }) rfl,
    outline_modConn_eq _ c (k := fun x =>
      { x with
        canSend := (streamCapabilities (w.cnx g).isClient sid).1
        canReceive := (streamCapabilities (w.cnx g).isClient sid).2
        stream := some sid }) rfl]
  unfold Outline.bind Outline.take
  congr 1
  simp [Outline.modConn, outline, Cnx.outline]

theorem outline_resolve (g sid first : Nat) :
    (w.resolveOrCreateStreamConnection g sid first).1.outline = (w.outline.resolve g sid first).1 ∧
      (w.resolveOrCreateStreamConnection g sid first).2 = (w.outline.resolve g sid first).2 := by
  have hctx : w.outline.streamCtx g sid = w.streamCtx g sid := rfl
  have hstream : (w.outline.conn first).stream = (w.conn first).stream := rfl
  unfold resolveOrCreateStreamConnection Outline.resolve
  rw [hctx, hstream]
  cases w.streamCtx g sid with
  | some c => exact ⟨rfl, rfl⟩
  | none =>
    dsimp only
    split
    · refine ⟨?_, rfl⟩
      rw [outline_bindStream, outline_addConnection, outline_cloneOf]
      rfl
    · exact ⟨w.outline_bindStream g sid first, rfl⟩

theorem outline_announceIf (isNew : Bool) (c : Nat) :
    (w.announceIf isNew c).outline = w.outline.announceIf isNew c := by
  unfold announceIf Outline.announceIf
  split
  · exact w.outline_connectionReadyCb c
  · rfl

theorem outline_handleStreamFin (c : Nat) : (w.handleStreamFin c).outline = w.outline.noReceive c := by
  have hreceive : (w.modConn c fun x => { x with canReceive := false }).outline =
      w.outline.noReceive c := w.outline_modConn_eq c rfl
  unfold handleStreamFin
  dsimp only
  split
  · split
    · exact hreceive
    · rw [outline_closedConnectionCb, hreceive]
  · rw [outline_picoquicClose, hreceive]

theorem outline_canReceive (c : Nat) : (w.outline.conn c).canReceive = (w.conn c).canReceive := rfl

theorem outline_streamData (g sid first : Nat) (hasData : Bool) :
    (w.streamData g sid first hasData).outline = w.outline.streamData g sid first hasData := by
  obtain ⟨hworld, hconn⟩ := w.outline_resolve g sid first
  unfold streamData Outline.streamData
  dsimp only
  rw [← hworld, ← hconn, outline_canReceive]
  split
  · rfl
  · exact outline_announceIf _ _ _

theorem outline_streamFin (g sid first : Nat) (hasData : Bool) :
    (w.streamFin g sid first hasData).outline = w.outline.streamFin g sid first hasData := by
  obtain ⟨hworld, hconn⟩ := w.outline_resolve g sid first
  unfold streamFin Outline.streamFin
  dsimp only
  rw [← hworld, ← hconn, outline_canReceive]
  split
  · rfl
  · rw [outline_announceIf, outline_handleStreamFin]

theorem outline_stopSending (g sid : Nat) :
    (w.stopSending g sid).outline = w.outline.stopSending g sid := by
  have hctx : w.outline.streamCtx g sid = w.streamCtx g sid := rfl
  unfold stopSending Outline.stopSending
  rw [hctx]
  cases w.streamCtx g sid with
  | some c => exact w.outline_withoutSend c
  | none => rfl

theorem outline_cnxReady (g first : Nat) : (w.cnxReady g first).outline = w.outline.cnxReady g first := by
  have hready : (w.modCnx g fun x => { x with ready := true }).outline =
      w.outline.modCnx g fun x => { x with ready := true } := w.outline_modCnx_eq g rfl
  unfold cnxReady Outline.cnxReady
  rw [← hready]
  set v := w.modCnx g fun x => { x with ready := true }
  have hrole : (v.outline.conn first).role = (v.conn first).role := rfl
  dsimp only
  rw [hrole]
  cases (v.conn first).role with
  | server => exact v.outline_connectionReceivedCb _ first
  | client => exact v.outline_connectionReadyCb first

theorem outline_newCnx (s : Nat) :
    (w.newCnx s).outline = w.outline ∨ ∃ l, w.outline.listener s = some l ∧
      (w.newCnx s).outline = w.outline.newCnx s l := by
  unfold newCnx
  cases hl : (w.sm s).listener with
  | none => exact Or.inl rfl
  | some l =>
    dsimp only
    split
    · refine Or.inr ⟨l.outline, by simp [outline, hl], ?_⟩
      rw [outline_addConnection, outline_addGroup]
      rfl
    · exact Or.inl rfl

end

end World

/-! ### Steps -/

def Event.onlyReports : Event → Bool
  | .abort .. | .closeGroup .. | .abortGroup .. | .free _ | .listenerClose _ | .raceCanceled ..
  | .handleClosed _ | .streamReset .. | .cnxClosed .. => true
  | _ => false

inductive Outline.Next : Outline → Event → Outline → Prop
  | reports {o : Outline} {e : Event} (h : e.onlyReports = true) : Next o e o
  | initiate {o : Outline} (cbs : UserCallbacks) (early : Option Nat) (start : World.Start)
      {stream : Option Nat} (h : stream = early ∨ stream = none) :
      Next o (.initiate cbs early start) (o.addClient cbs stream)
  | listen {o : Outline} (l : ListenerCallbacks) (cbs : UserCallbacks) :
      Next o (.listen l cbs) (o.addSocketManager (some ⟨l, cbs, []⟩))
  | closed {o : Outline} (c : Nat) : Next o (.close c) o
  | close {o : Outline} (c : Nat) : Next o (.close c) (o.noSend c)
  | clone {o : Outline} (c : Nat) : Next o (.clone c) (o.clone c)
  | send {o : Outline} (c : Nat) (isFinal : Bool) (sid : Nat) :
      Next o (.send c isFinal sid) (o.send c isFinal sid)
  | raceWon {o : Outline} {c : Nat} (h : (o.conn c).isHeld = false) :
      Next o (.raceWon c) (o.modConn c Connection.Outline.handOver)
  | refused {o : Outline} (s : Nat) : Next o (.newCnx s) o
  | newCnx {o : Outline} {s : Nat} {l : Listener.Outline} (h : o.listener s = some l) :
      Next o (.newCnx s) (o.newCnx s l)
  | cnxReady {o : Outline} (g first : Nat) : Next o (.cnxReady g first) (o.cnxReady g first)
  | streamData {o : Outline} (g sid first : Nat) (hasData : Bool) :
      Next o (.streamData g sid first hasData) (o.streamData g sid first hasData)
  | streamFin {o : Outline} (g sid first : Nat) (hasData : Bool) :
      Next o (.streamFin g sid first hasData) (o.streamFin g sid first hasData)
  | stopSending {o : Outline} (g sid : Nat) : Next o (.stopSending g sid) (o.stopSending g sid)

namespace World

variable {w : World}

theorem outline_act (hp : w.protocol = .quic) {e : Event} (he : w.enabled e = true) :
    Outline.Next w.outline e (w.act e).outline := by
  have hother {p : Protocol} (h : decide (w.protocol = p) = true) (hne : p ≠ .quic) : False :=
    hne ((of_decide_eq_true h).symm.trans hp)
  have hreports {v : World} (h : e.onlyReports = true) (hv : v.outline = w.outline) :
      Outline.Next w.outline e v.outline := hv ▸ .reports h
  cases e with
  | initiate cbs early start =>
    obtain ⟨stream, hstream, heq⟩ := w.outline_initiate hp cbs early start
    exact heq ▸ .initiate cbs early start hstream
  | listen l cbs =>
    have heq : (w.listen l cbs).outline = w.outline.addSocketManager (some ⟨l, cbs, []⟩) :=
      w.outline_addSocketManager _
    exact heq ▸ .listen l cbs
  | close c =>
    have heq := w.outline_connectionClose hp c
    by_cases hc : (w.conn c).isClosedOrClosing = true
    · exact (heq.trans (if_pos hc)) ▸ .closed c
    · exact (heq.trans (if_neg hc)) ▸ .close c
  | abort c refused => exact hreports rfl (outline_connectionAbort hp c refused)
  | closeGroup c order => exact hreports rfl (outline_closeGroup hp _ order)
  | abortGroup c order refused => exact hreports rfl (outline_abortAll hp order refused)
  | clone c => exact w.outline_cloneConnection hp c ▸ .clone c
  | send c isFinal sid => exact w.outline_sendMessage hp c isFinal sid ▸ .send c isFinal sid
  | free c => exact hreports rfl (w.outline_connectionFree c)
  | listenerClose s =>
    refine hreports rfl ?_
    dsimp only [act, listenerClose]
    rw [hp]
    exact w.outline_listenerClosedCb s
  | raceWon c =>
    have howner : (w.conn c).owner = .race := (of_decide_eq_true he).2.1
    have heq : (w.handOver c).outline = w.outline.modConn c Connection.Outline.handOver :=
      w.outline_modConn_eq c (Connection.outline_handOver _)
    exact heq ▸ .raceWon (by simp [outline, Connection.outline, Connection.isHeld, howner])
  | raceCanceled c order =>
    exact hreports rfl (outline_cancelAttempt hp (of_decide_eq_true he).2.1 order)
  | handleClosed s => exact hreports rfl (outline_handleClosed hp s)
  | connected s ok readStarted => exact (hother he Protocol.noConfusion).elim
  | readEnded s e => exact (hother he Protocol.noConfusion).elim
  | accepted s => exact (hother he Protocol.noConfusion).elim
  | datagram s addr => exact (hother he Protocol.noConfusion).elim
  | datagramError s => exact (hother he Protocol.noConfusion).elim
  | newCnx s =>
    rcases w.outline_newCnx s with heq | ⟨l, hl, heq⟩
    · exact heq ▸ .refused s
    · exact heq ▸ .newCnx hl
  | cnxReady g first => exact w.outline_cnxReady g first ▸ .cnxReady g first
  | streamData g sid first hasData =>
    exact w.outline_streamData g sid first hasData ▸ .streamData g sid first hasData
  | streamFin g sid first hasData =>
    exact w.outline_streamFin g sid first hasData ▸ .streamFin g sid first hasData
  | streamReset g sid =>
    refine hreports rfl ?_
    dsimp only [act, streamReset]
    split <;> simp
  | stopSending g sid => exact w.outline_stopSending g sid ▸ .stopSending g sid
  | cnxClosed g order error => exact hreports rfl (w.outline_cnxClosed g order error)

end World

end CTaps.Connections
