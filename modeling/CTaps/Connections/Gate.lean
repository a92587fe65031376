import CTaps.Connections.Lifetime

/-! Who can send. `ct_send_message_full` asks for `can_send` alone, so a connection that is closing
or closed, or has accepted its final message, is kept from sending only as long as `can_send` is
false. Only QUIC clears it when a connection is closed, and everything that makes a connection ready
sets it. -/

namespace CTaps.Connections

open Gathering (Protocol)

def Connection.Gated (isFinal : Bool) (x : Connection) : Prop :=
  x.canSend = true → x.isClosedOrClosing = false ∧ isFinal = false

theorem Connection.gated_of_not_canSend {x : Connection} (h : x.canSend = false) (isFinal : Bool) :
    x.Gated isFinal := by
  intro hs
  rw [h] at hs
  cases hs

theorem Connection.Gated.congr {x y : Connection} {isFinal : Bool} (h : x.Gated isFinal)
    (hs : y.canSend = x.canSend) (hst : y.state = x.state) : y.Gated isFinal := by
  intro hy
  obtain ⟨hopen, hfinal⟩ := h (hs ▸ hy)
  refine ⟨?_, hfinal⟩
  unfold Connection.isClosedOrClosing at hopen ⊢
  rw [hst]
  exact hopen

namespace World

structure AllGated (finals : Nat → Bool) (w : World) : Prop where
  gated : ∀ c, (w.conn c).Gated (finals c)
  lt : ∀ c, finals c = true → c < w.numConns

variable {finals : Nat → Bool} {w w' : World}

/-! ### Updates -/

theorem AllGated.change (h : AllGated finals w) {c : Nat} (hn : w'.numConns = w.numConns)
    (hother : ∀ d, d ≠ c → w'.conn d = w.conn d) (hc : (w'.conn c).Gated (finals c)) :
    AllGated finals w' := by
  refine ⟨fun d => ?_, fun d hd => hn ▸ h.lt d hd⟩
  by_cases hd : d = c
  · subst hd
    exact hc
  · rw [hother d hd]
    exact h.gated d

theorem AllGated.modConn (h : AllGated finals w) {c : Nat} {f : Connection → Connection}
    (hf : (f (w.conn c)).Gated (finals c)) : AllGated finals (w.modConn c f) := by
  refine h.change (c := c) rfl (fun d hd => ?_) ?_
  · simp [hd]
  · simpa using hf

theorem AllGated.enter (h : AllGated finals w) {c : Nat} (hc : (w.conn c).canSend = false)
    (st : ConnState) : AllGated finals (w.modConn c (Connection.enter st)) :=
  h.modConn (Connection.gated_of_not_canSend (x := (w.conn c).enter st) hc _)

theorem AllGated.silent (h : AllGated finals w) (c : Nat) {f : Connection → Connection}
    (hs : ∀ x, (f x).canSend = x.canSend) (hst : ∀ x, (f x).state = x.state) :
    AllGated finals (w.modConn c f) :=
  h.modConn ((h.gated c).congr (hs _) (hst _))

theorem AllGated.modSm (h : AllGated finals w) (s : Nat) (f : SocketManager → SocketManager) :
    AllGated finals (w.modSm s f) :=
  ⟨h.gated, h.lt⟩

theorem AllGated.modCnx (h : AllGated finals w) (g : Nat) (f : Cnx → Cnx) :
    AllGated finals (w.modCnx g f) :=
  ⟨h.gated, h.lt⟩

theorem AllGated.withSocketManager (h : AllGated finals w) (m : SocketManager) :
    AllGated finals (w.addSocketManager m) :=
  ⟨h.gated, h.lt⟩

theorem AllGated.withGroup (h : AllGated finals w) (x : Cnx) : AllGated finals (w.addGroup x) :=
  ⟨h.gated, h.lt⟩

theorem AllGated.new (h : AllGated finals w) : finals w.numConns = false := by
  cases hf : finals w.numConns with
  | false => rfl
  | true => exact absurd (h.lt _ hf) (Nat.lt_irrefl _)

theorem AllGated.withConnection (h : AllGated finals w) {x : Connection}
    (hx : x.isClosedOrClosing = false) : AllGated finals (w.addConnection x) := by
  refine ⟨fun c => ?_, fun c hc => Nat.lt_succ_of_lt (h.lt c hc)⟩
  by_cases hn : c = w.numConns
  · subst hn
    intro _
    rw [addConnection_conn, Function.update_self]
    exact ⟨hx, h.new⟩
  · simpa [hn] using h.gated c

theorem AllGated.ready (h : AllGated finals w) {c : Nat} (hc : finals c = false) :
    AllGated finals (w.connectionReadyCb c) :=
  h.modConn fun _ => ⟨rfl, hc⟩

theorem AllGated.received (h : AllGated finals w) {c : Nat} (hc : finals c = false) (s : Nat) :
    AllGated finals (w.connectionReceivedCb s c) :=
  AllGated.modSm (h.modConn fun _ => ⟨rfl, hc⟩) s _

/-! ### Reports -/

theorem AllGated.terminate (h : AllGated finals w) {c : Nat} (hc : (w.conn c).canSend = false)
    (r : CloseReason) : AllGated finals (w.terminate c r) :=
  h.modConn (Connection.gated_of_not_canSend (x := ((w.conn c).enter .closed).invoke r.callback) hc _)

theorem AllGated.closedSocket (h : AllGated finals w) {s : Nat}
    (hs : ∀ c ∈ w.lastOpenConnection s, (w.conn c).canSend = false) :
    AllGated finals (w.closedSocketCb s) := by
  unfold closedSocketCb
  split
  · next c hc => exact h.terminate (hs c hc) _
  · exact h.modSm s _

theorem AllGated.managerClose (h : AllGated finals w) {s : Nat}
    (htcp : w.protocol = .tcp → ∀ c ∈ w.lastOpenConnection s, (w.conn c).canSend = false)
    (r : CloseReason) : AllGated finals (w.socketManagerClose s r) := by
  have hnote := h.modSm s fun m => { m with closeReason := r, closeRequests := m.closeRequests + 1 }
  have hlast : (w.modSm s fun m =>
      { m with closeReason := r, closeRequests := m.closeRequests + 1 }).lastOpenConnection s =
      w.lastOpenConnection s := by simp [lastOpenConnection]
  unfold socketManagerClose closeSocket
  split
  · next hp =>
    refine hnote.closedSocket fun c hc => ?_
    rw [hlast] at hc
    exact htcp hp c hc
  · exact hnote.modSm s _
  · exact hnote.modSm s _

def ReportSends (w : World) (c : Nat) : Prop :=
  w.numOpenDependents (w.conn c).socketManager ≠ 1 ∧ (w.conn c).canSend = true
deriving Decidable

theorem AllGated.report (h : AllGated finals w) (hp : w.protocol ≠ .tcp) {c : Nat}
    (hc : ¬ w.ReportSends c) (r : CloseReason) : AllGated finals (w.reportEnd c r) := by
  unfold reportEnd
  split
  · exact h.managerClose (fun ht => absurd ht hp) r
  · next hne => exact h.terminate (Bool.not_eq_true _ ▸ fun hs => hc ⟨hne, hs⟩) r

theorem AllGated.listenerClosed (h : AllGated finals w) (s : Nat)
    (htcp : w.protocol = .tcp → ∀ c ∈ w.lastOpenConnection s, (w.conn c).canSend = false) :
    AllGated finals (w.listenerClosedCb s) := by
  unfold listenerClosedCb
  split
  · exact h.managerClose htcp _
  · exact h.modSm s _

/-! ### Calls -/

def CloseSends (w : World) (c : Nat) : Prop :=
  w.protocol ≠ .quic ∧ (w.conn c).isClosedOrClosing = false ∧ (w.conn c).canSend = true
deriving Decidable

def AbortSends (w : World) (c : Nat) (refused : List Nat) : Prop :=
  (w.protocol = .udp ∧ w.ReportSends c) ∨
    (w.protocol = .quic ∧ 1 < w.numActiveConnections (w.conn c).group ∧
      (w.conn c).stream.isSome = true ∧ c ∉ refused ∧ (w.conn c).canSend = true)
deriving Decidable

def GroupSends (w : World) (order : List Nat) : Prop :=
  w.protocol = .udp ∧ ¬ Lib.AllSteps udpClose (fun w d => ¬ w.ReportSends d) w order
deriving Decidable

def AbortAllSends (w : World) (order refused : List Nat) : Prop :=
  ¬ Lib.AllSteps (fun w d => if (w.conn d).isClosed then w else w.connectionAbort d refused)
    (fun w d => (w.conn d).isClosed = false → ¬ w.AbortSends d refused) w order
deriving Decidable

theorem not_canSend {c : Nat} (h : ¬ (w.conn c).canSend = true) : (w.conn c).canSend = false :=
  Bool.not_eq_true _ ▸ h

theorem AllGated.close (h : AllGated finals w) {c : Nat} (hc : ¬ w.CloseSends c) :
    AllGated finals (w.connectionClose c) := by
  unfold connectionClose
  split
  · exact h
  · next hstate =>
    have hstate : (w.conn c).isClosedOrClosing = false := Bool.not_eq_true _ ▸ hstate
    have hclosing : w.protocol ≠ .quic →
        AllGated finals (w.modConn c (Connection.enter .closing)) := fun hp =>
      h.enter (not_canSend fun hs => hc ⟨hp, hstate, hs⟩) _
    unfold protocolClose
    split
    · next hp =>
      have hp : w.protocol = .tcp := hp
      exact (hclosing (by rw [hp]; decide)).modSm _ _
    · next hp =>
      have hp : w.protocol = .udp := hp
      have hne : w.protocol ≠ .quic := by rw [hp]; decide
      refine (hclosing hne).report (by rw [modConn_protocol, hp]; decide) (fun hr => ?_) _
      refine hc ⟨hne, hstate, ?_⟩
      simpa [Connection.enter] using hr.2
    · have hmute : AllGated finals ((w.modConn c (Connection.enter .closing)).modConn c
          fun x => { x with canSend := false }) := by
        refine h.change (c := c) rfl (fun d hd => by simp [hd]) ?_
        exact Connection.gated_of_not_canSend (by simp) _
      unfold quicCloseConnection
      dsimp only
      split
      · exact hmute
      · exact hmute.modCnx _ _

theorem AllGated.abort (h : AllGated finals w) {c : Nat} {refused : List Nat}
    (hc : ¬ w.AbortSends c refused) : AllGated finals (w.connectionAbort c refused) := by
  obtain ⟨hudp, hquic⟩ := not_or.mp hc
  unfold connectionAbort
  split
  · exact h.modSm _ _
  · next hp => exact h.report (by rw [hp]; decide) (fun hr => hudp ⟨hp, hr⟩) _
  · next hp =>
    unfold quicAbort
    split
    · next hactive =>
      split
      · next hreset =>
        refine h.enter (not_canSend fun hs => ?_) _
        exact hquic ⟨hp, hactive, hreset.1, hreset.2, hs⟩
      · exact h
    · exact h.modCnx _ _

theorem AllGated.group (h : AllGated finals w) {order : List Nat} (ho : ¬ w.GroupSends order)
    (g : Nat) : AllGated finals (w.closeGroup g order) := by
  unfold closeGroup
  split
  · refine Lib.foldl_invariant (I := AllGated finals) (fun w d _ hw => ?_) h
    split
    · exact hw
    · exact hw.modSm _ _
  · next hp =>
    have hsteps : Lib.AllSteps udpClose (fun w d => ¬ w.ReportSends d) w order :=
      not_not.mp fun hs => ho ⟨hp, hs⟩
    unfold udpCloseConnectionGroup
    rw [Lib.foldl_eq_run]
    refine (Lib.run_invariant (I := fun w => AllGated finals w ∧ w.protocol = .udp)
      (fun w d hw hd => ?_) ⟨h, hp⟩ hsteps).1
    refine ⟨hw.1.report (by rw [hw.2]; decide) hd _, ?_⟩
    rw [← hw.2]
    exact congrArg Site.protocol (site_udpClose w d)
  · exact h.modCnx g _

theorem AllGated.abortMembers (h : AllGated finals w) {order refused : List Nat}
    (ho : ¬ w.AbortAllSends order refused) : AllGated finals (w.abortAll order refused) := by
  unfold abortAll
  rw [Lib.foldl_eq_run]
  refine Lib.run_invariant (fun w d hw hd => ?_) h (not_not.mp ho)
  split
  · exact hw
  · next hstate => exact hw.abort (hd (Bool.not_eq_true _ ▸ hstate))

theorem AllGated.send (h : AllGated finals w) (c : Nat) (isFinal : Bool) (sid : Nat) :
    AllGated finals (w.sendMessage c isFinal sid) := by
  unfold sendMessage
  split
  · next hs =>
    have hsent : AllGated finals (w.modConn c fun x => { x with canSend := !isFinal }) :=
      h.modConn fun _ => h.gated c hs
    dsimp only
    split
    · refine AllGated.modCnx (hsent.silent c ?_ ?_) _ _
      · exact fun _ => rfl
      · exact fun _ => rfl
    · exact hsent
  · exact h

theorem AllGated.freed (h : AllGated finals w) (c : Nat) :
    AllGated finals (w.connectionFree c) := by
  refine AllGated.modSm (h.silent c ?_ ?_) _ _
  · exact fun _ => rfl
  · exact fun _ => rfl

theorem AllGated.clone (h : AllGated finals w) (c : Nat) :
    AllGated finals (w.cloneConnection c) := by
  unfold cloneConnection
  split
  · exact (h.withSocketManager _).withConnection rfl
  · exact ((h.withSocketManager _).withConnection rfl).ready h.new
  · exact (h.withConnection rfl).ready h.new

theorem AllGated.client (h : AllGated finals w) (cbs : UserCallbacks) (m : SocketManager)
    (early : Option Nat) : AllGated finals (w.addClient cbs m early) :=
  ((h.withGroup _).withSocketManager m).withConnection rfl

theorem AllGated.initiated (h : AllGated finals w) (cbs : UserCallbacks) (early : Option Nat)
    (start : Start) : AllGated finals (w.initiate cbs early start) := by
  obtain ⟨m, stream, he | ⟨-, he⟩ | ⟨-, ⟨-, he⟩ | ⟨hp, he⟩⟩, -⟩ := w.initiate_cases cbs early start <;>
    rw [he]
  · exact h.client cbs m stream
  · exact (h.client cbs m stream).ready h.new
  · -- a client that is refused at once could not send yet
    refine AllGated.silent ((h.client cbs m stream).close fun hc => ?_) _ (fun _ => rfl) fun _ => rfl
    have hs := hc.2.2
    rw [addClient_conn] at hs
    cases hs
  · refine (h.client cbs m stream).report ?_ (fun hr => ?_) _
    · show w.protocol ≠ .tcp
      rw [hp]
      decide
    · have hs := hr.2
      rw [addClient_conn] at hs
      cases hs

/-! ### Callbacks of libuv -/

def SocketSends (w : World) (s : Nat) : Prop :=
  (w.protocol = .tcp ∧ (w.sm s).connectPending = none ∧ (w.sm s).handle ≠ .open ∧
    ∃ c ∈ (w.sm s).tcpConnection, (w.conn c).canSend = true) ∨
  (w.protocol ≠ .tcp ∧ ((w.sm s).handle = .closing .socketClosedSuccess ∨
    (w.sm s).handle = .closing .quicClosedPollHandle ∨
    ((w.sm s).handle = .closing .socketTimerClose ∧ (w.sm s).pollHandle = false)) ∧
    ∃ c ∈ w.lastOpenConnection s, (w.conn c).canSend = true)
deriving Decidable

def ConnectSends (w : World) (finals : Nat → Bool) (s : Nat) (ok readStarted : Bool) : Prop :=
  ∃ c ∈ (w.sm s).tcpConnection, (ok = true ∧ finals c = true) ∨
    ((ok = false ∨ readStarted = false) ∧ w.CloseSends c)
deriving Decidable

theorem AllGated.reportTcp (h : AllGated finals w) (ht : TcpPlaced w) {s c : Nat}
    (hc : (w.sm s).tcpConnection = some c) (hs : (w.conn c).canSend = false) (r : CloseReason) :
    AllGated finals (w.reportEnd c r) := by
  have hhome : (w.conn c).socketManager = s := ht.home s c hc
  unfold reportEnd
  rw [hhome]
  split
  · refine h.managerClose (fun _ c' hc' => ?_) r
    have hsame := ht.of_mem s c' (mem_of_lastOpenConnection hc')
    rw [hc] at hsame
    obtain rfl := Option.some.inj hsame
    exact hs
  · exact h.terminate hs r

theorem AllGated.handle (h : AllGated finals w) (ht : w.protocol = .tcp → TcpPlaced w) {s : Nat}
    (hs : ¬ w.SocketSends s) : AllGated finals (w.handleClosed s) := by
  obtain ⟨htcp, hother⟩ := not_or.mp hs
  have hmark : AllGated finals (w.markHandleClosed s) := h.modSm s _
  have hlast : (w.markHandleClosed s).lastOpenConnection s = w.lastOpenConnection s := by
    simp [lastOpenConnection]
  have hend := w.handleEnd s
  generalize w.handleClosed s = w' at hend ⊢
  cases hend with
  | idle => exact h
  | report r hp hpending hh hc =>
    have hplaced : TcpPlaced (w.markHandleClosed s) := (ht hp).of_site (site_markHandleClosed w s)
    refine hmark.reportTcp hplaced (s := s) (by simpa using hc) (not_canSend fun hsend => ?_) r
    exact htcp ⟨hp, hpending, by simp [hh], _, hc, hsend⟩
  -- a socket without connection belongs to a listener, and no connection is told of its close
  | listener hp _ hnone =>
    refine hmark.listenerClosed s fun _ c hc => ?_
    have hsome := (ht hp).of_mem s c (mem_of_lastOpenConnection (hlast ▸ hc))
    rw [hnone] at hsome
    cases hsome
  | socket hp hh hcb =>
    refine hmark.closedSocket fun c hc => not_canSend fun hsend => ?_
    rw [hlast] at hc
    refine hother ⟨hp, ?_, c, hc, hsend⟩
    simpa [hh] using hcb
  | poll _ => exact h.modSm s _
  | discarded _ => exact hmark

theorem AllGated.connect (h : AllGated finals w) {s : Nat} {ok readStarted : Bool}
    (hc : ¬ w.ConnectSends finals s ok readStarted) :
    AllGated finals (w.connected s ok readStarted) := by
  set w' := w.modSm s fun m => { m with connectPending := none }
  have h' : AllGated finals w' := h.modSm s _
  unfold connected
  split
  · next cb c hcb ht =>
    have hready : ok = true → AllGated finals (w'.connectionReadyCb c) := by
      intro hok
      refine h'.ready ?_
      cases hf : finals c with
      | false => rfl
      | true => exact absurd ⟨c, ht, Or.inl ⟨hok, hf⟩⟩ hc
    have hclose : ok = false ∨ readStarted = false → AllGated finals (w'.connectionClose c) :=
      fun hfail => h'.close fun hs => hc ⟨c, ht, Or.inr ⟨hfail, hs⟩⟩
    dsimp only
    split
    · split
      · exact hready rfl
      · exact h
    · split
      · exact h'.modSm s _
      · exact h'
    · split
      · split
        · exact hready rfl
        · next hr => exact hclose (Or.inr (Bool.not_eq_true _ ▸ hr))
      · exact h
    · exact (hclose (Or.inl rfl)).silent c (fun _ => rfl) fun _ => rfl
  · exact h

/-! ### Callbacks of picoquic -/

def BindSends (w : World) (finals : Nat → Bool) (g sid first : Nat) : Prop :=
  w.streamCtx g sid = none ∧ (w.conn first).stream.isSome = false ∧
    (streamCapabilities (w.cnx g).isClient sid).1 = true ∧
    ((w.conn first).isClosedOrClosing = true ∨ finals first = true)
deriving Decidable

def EndSends (w : World) (order : List Nat) (error : Bool) : Prop :=
  ¬ Lib.AllSteps (if error then abortedConnectionCb else closedConnectionCb)
    (fun w d => ¬ w.ReportSends d) w (order.filter fun d => !(w.conn d).isClosed)
deriving Decidable

theorem AllGated.fin (h : AllGated finals w) (hp : w.protocol ≠ .tcp) (c : Nat) :
    AllGated finals (w.handleStreamFin c) := by
  have hdone : AllGated finals (w.modConn c fun x => { x with canReceive := false }) :=
    h.silent c (fun _ => rfl) fun _ => rfl
  obtain heq | heq | ⟨hs, -, heq⟩ := w.handleStreamFin_cases c
  · rw [heq]
    exact hdone
  · rw [heq]
    exact hdone.modCnx _ _
  · rw [heq]
    refine hdone.report hp (fun hr => ?_) _
    have hsend : (w.conn c).canSend = true := by simpa using hr.2
    rw [hs] at hsend
    cases hsend

theorem AllGated.announce (h : AllGated finals w) {isNew : Bool} {c : Nat}
    (hc : isNew = true → finals c = false) : AllGated finals (w.announceIf isNew c) := by
  unfold announceIf
  split
  · next hn => exact h.ready (hc hn)
  · exact h

theorem AllGated.bind (h : AllGated finals w) {g sid c : Nat}
    (hb : (streamCapabilities (w.cnx g).isClient sid).1 = true →
      (w.conn c).isClosedOrClosing = false ∧ finals c = false) :
    AllGated finals (w.bindStream g sid c) := by
  unfold bindStream
  exact AllGated.modCnx (h.modConn fun hcaps => hb hcaps) _ _

theorem AllGated.streamEvent (h : AllGated finals w) {g sid first : Nat}
    (hb : ¬ w.BindSends finals g sid first) :
    AllGated finals (w.resolveOrCreateStreamConnection g sid first).1 ∧
      ((w.resolveOrCreateStreamConnection g sid first).2.2 = true →
        finals (w.resolveOrCreateStreamConnection g sid first).2.1 = false) := by
  obtain ⟨c, -, heq⟩ | ⟨-, -, heq⟩ | ⟨hctx, hst, heq⟩ := w.resolveOrCreate_cases g sid first
  · rw [heq]
    exact ⟨h, fun hn => absurd hn Bool.false_ne_true⟩
  · rw [heq]
    refine ⟨?_, fun _ => h.new⟩
    have hnew := h.withConnection (x := (w.conn first).cloneOf (w.conn first).socketManager) rfl
    refine hnew.bind fun _ => ?_
    simpa [Connection.cloneOf, Connection.isClosedOrClosing] using h.new
  · rw [heq]
    refine ⟨h.bind fun hcaps => ?_, fun hn => absurd hn Bool.false_ne_true⟩
    obtain ⟨hopen, hfinal⟩ := not_or.mp fun hbad => hb ⟨hctx, hst, hcaps, hbad⟩
    exact ⟨Bool.not_eq_true _ ▸ hopen, Bool.not_eq_true _ ▸ hfinal⟩

theorem AllGated.accepted (h : AllGated finals w) (s : Nat) :
    AllGated finals (w.newStreamConnectionCb s true) := by
  rw [newStreamConnectionCb_started]
  split
  · split
    · exact (((h.withGroup _).withSocketManager _).withConnection rfl).received h.new s
    · exact h
  · exact h

theorem AllGated.datagram (h : AllGated finals w) (s addr : Nat) :
    AllGated finals (w.udpMultiplexReceivedMessage s addr) := by
  unfold udpMultiplexReceivedMessage
  split
  · split
    · exact AllGated.received (AllGated.modSm ((h.withGroup _).withConnection rfl) s _) h.new s
    · exact h
  · exact h

theorem AllGated.cnx (h : AllGated finals w) (s : Nat) : AllGated finals (w.newCnx s) := by
  unfold World.newCnx
  split
  · split
    · exact (h.withGroup _).withConnection rfl
    · exact h
  · exact h

theorem AllGated.cnxReady (h : AllGated finals w) (g : Nat) {first : Nat}
    (hfirst : finals first = false) : AllGated finals (w.cnxReady g first) := by
  have hready : AllGated finals (w.modCnx g fun x => { x with ready := true }) := h.modCnx g _
  dsimp only [World.cnxReady]
  split
  · exact hready.received hfirst _
  · exact hready.ready hfirst

theorem AllGated.ended (h : AllGated finals w) (hp : w.protocol ≠ .tcp) {order : List Nat}
    {error : Bool} {g : Nat}
    (ho : ¬ (w.modCnx g fun x => { x with closed := true }).EndSends order error) :
    AllGated finals (w.cnxClosed g order error) := by
  unfold cnxClosed reportGroup
  rw [Lib.foldl_eq_run]
  refine (Lib.run_invariant (I := fun w => AllGated finals w ∧ w.protocol ≠ .tcp)
    (fun w d hw hd => ?_) ⟨h.modCnx g _, hp⟩ (not_not.mp ho)).1
  have hreport : ∀ r, AllGated finals (w.reportEnd d r) ∧ (w.reportEnd d r).protocol ≠ .tcp := by
    intro r
    refine ⟨hw.1.report hw.2 hd r, ?_⟩
    rw [show (w.reportEnd d r).protocol = w.protocol from
      congrArg Site.protocol (site_reportEnd w d r)]
    exact hw.2
  cases error with
  | true => exact hreport _
  | false => exact hreport _

/-! ### Steps -/

def Unblocks (w : World) (finals : Nat → Bool) : Event → Prop
  | .close c => w.CloseSends c
  | .abort c refused => w.AbortSends c refused
  | .closeGroup _ order => w.GroupSends order
  | .abortGroup _ order refused => w.AbortAllSends order refused
  | .raceCanceled c order =>
    (w.modConn c fun x => { x with owner := .canceledRace }).GroupSends order
  | .handleClosed s => w.SocketSends s
  | .connected s ok readStarted => w.ConnectSends finals s ok readStarted
  | .cnxReady _ first => finals first = true
  | .streamData g sid first _ => w.BindSends finals g sid first
  | .streamFin g sid first _ => w.BindSends finals g sid first
  | .streamReset g sid => ∃ c ∈ w.streamCtx g sid, w.ReportSends c
  | .cnxClosed g order error =>
    (w.modCnx g fun x => { x with closed := true }).EndSends order error
  | _ => False

theorem AllGated.step (h : AllGated finals w) (ht : w.protocol = .tcp → TcpPlaced w) {e : Event}
    (he : ¬ w.Unblocks finals e) : AllGated finals (w.step e) := by
  refine step_keeps h fun hen => ?_
  cases e with
  | initiate cbs early start => exact h.initiated cbs early start
  | listen l cbs => exact h.withSocketManager _
  | close c => exact h.close he
  | abort c refused => exact h.abort he
  | closeGroup c order => exact h.group he _
  | abortGroup c order refused => exact h.abortMembers he
  | clone c => exact h.clone c
  | send c isFinal sid => exact h.send c isFinal sid
  | free c => exact h.freed c
  | listenerClose s =>
    dsimp only [act, listenerClose]
    split
    · exact h.modSm s _
    · next hp => exact h.listenerClosed s fun hq => absurd hq hp
  | raceWon c =>
    dsimp only [act, handOver]
    exact h.silent c (fun _ => rfl) fun _ => rfl
  | raceCanceled c order =>
    have howner : AllGated finals (w.modConn c fun x => { x with owner := .canceledRace }) :=
      h.silent c (fun _ => rfl) fun _ => rfl
    exact howner.group he _
  | handleClosed s => exact h.handle ht he
  | connected s ok readStarted => exact h.connect he
  | readEnded s e =>
    dsimp only [act, tcpOnRead]
    split
    · split <;> exact h.modSm s _
    · exact h
  | accepted s => exact h.accepted s
  | datagram s addr => exact h.datagram s addr
  | datagramError s =>
    dsimp only [act, udpReadError]
    split
    · exact h.modSm s _
    · exact h
  | newCnx s => exact h.cnx s
  | cnxReady g first => exact h.cnxReady g (Bool.not_eq_true _ ▸ he)
  | streamData g sid first hasData =>
    obtain ⟨hstream, hnew⟩ := h.streamEvent he
    dsimp only [act, World.streamData]
    split
    · exact hstream
    · exact hstream.announce hnew
  | streamFin g sid first hasData =>
    obtain ⟨⟨hp, -, -⟩, -⟩ := of_decide_eq_true hen
    obtain ⟨hstream, hnew⟩ := h.streamEvent he
    dsimp only [act, World.streamFin]
    split
    · exact hstream
    · refine AllGated.announce (hstream.fin ?_ _) hnew
      rw [protocol_resolveOrCreate, hp]
      decide
  | streamReset g sid =>
    obtain ⟨hp, -, -⟩ := of_decide_eq_true hen
    dsimp only [act, World.streamReset]
    split
    · next c hctx => exact h.report (by rw [hp]; decide) (fun hr => he ⟨c, hctx, hr⟩) _
    · exact h
  | stopSending g sid =>
    dsimp only [act, World.stopSending]
    split
    · exact h.modConn (Connection.gated_of_not_canSend rfl _)
    · exact h
  | cnxClosed g order error =>
    obtain ⟨hp, -, -⟩ := of_decide_eq_true hen
    exact h.ended (by rw [hp]; decide) he

instance (w : World) (finals : Nat → Bool) (e : Event) : Decidable (w.Unblocks finals e) := by
  rcases e with ⟨⟩ <;> dsimp only [Unblocks] <;> infer_instance

end World

end CTaps.Connections
