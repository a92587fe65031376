import CTaps.Connections.Opens
import CTaps.Connections.TcpHandles
import Mathlib.Logic.Relation

/-! What an event can do to a socket manager, its handle, its listener and its open dependents. Every
call and callback other than a new listener and the close of one is a chain of a few moves. What
each of them keeps is kept by every event. -/

namespace CTaps.Connections

open Gathering (Protocol)

def CloseCb.closesSocket : CloseCb → Bool
  | .socketClosedSuccess | .socketTimerClose | .quicClosedPollHandle => true
  | _ => false

def Event.isListeners : Event → Bool
  | .listen .. | .listenerClose _ => true
  | _ => false

namespace World

inductive Move : World → World → Prop
  | conn {w : World} (c : Nat) (f : Connection → Connection)
      (h : (f (w.conn c)).isClosed = true → (w.conn c).isClosed = true) : Move w (w.modConn c f)
  /-- A connection is closed. A socket it is on keeps an open dependent if it has one. -/
  | shut {w : World} (c : Nat) (f : Connection → Connection)
      (h : ∀ s, c ∈ (w.sm s).allConnections → (∃ d, d ∈ w.opens s) →
        ∃ d ∈ w.opens s, d ≠ .connection c) : Move w (w.modConn c f)
  | cnx {w : World} (g : Nat) (f : Cnx → Cnx) : Move w (w.modCnx g f)
  | note {w : World} (s : Nat) (f : SocketManager → SocketManager)
      (h : ∀ m, (f m).listener = m.listener ∧ (f m).allConnections = m.allConnections ∧
        (f m).handle = m.handle) : Move w (w.modSm s f)
  | received {w : World} (s c : Nat) : Move w (w.modSm s fun m =>
      { m with listener := m.listener.map (Listener.received c) })
  /-- A handle is closed, by `close_socket` only for the last open dependent. -/
  | uvClose {w : World} (s : Nat) (cb : CloseCb)
      (h : cb.closesSocket = true → w.numOpenDependents s = 1) :
      Move w (w.modSm s (SocketManager.uvClose cb))
  | pollHandle {w : World} (s : Nat) (h : (w.sm s).handle = .closing .socketTimerClose) :
      Move w (w.modSm s fun m => { m with handle := .closing .quicClosedPollHandle })
  | handleClosed {w : World} (s : Nat) (h : (w.sm s).handle ≠ .none) : Move w (w.markHandleClosed s)
  | socketClosed {w : World} (s : Nat) {cb : CloseCb} (hpl : Placed w)
      (h : (w.sm s).handle = .closing cb) (hcb : cb.closesSocket = true) :
      Move w ((w.markHandleClosed s).closedSocketCb s)
  | lastClosed {w : World} (s : Nat) (hpl : Placed w) (h : (w.sm s).handle = .closed)
      (hone : w.numOpenDependents s = 1) : Move w (w.closedSocketCb s)
  | stopped {w : World} (s : Nat) (hpl : Placed w) (hp : w.protocol = .tcp)
      (h : (w.sm s).handle = .closing .onStopListen) :
      Move w ((w.markHandleClosed s).modSm s SocketManager.closeListener)
  | group {w : World} (y : Cnx) : Move w (w.addGroup y)
  | client {w : World} {m : SocketManager} {x : Connection} (hpl : Placed w)
      (hm : m.allConnections = []) (hl : m.listener = none) (hh : ∀ cb, m.handle ≠ .closing cb)
      (ho : x.isClosed = false) (hx : x.socketManager = w.numSms) :
      Move w ((w.addSocketManager m).addConnection x)
  | connection {w : World} {x : Connection} (hpl : Placed w) (ho : x.isClosed = false)
      (hhome : (w.sm x.socketManager).listener = none ∨
        (w.sm x.socketManager).allConnections ≠ [] ∨ (w.sm x.socketManager).handle ≠ .none) :
      Move w (w.addConnection x)
  | free {w : World} {c : Nat} (hc : (w.conn c).isClosed = true) : Move w (w.connectionFree c)

abbrev Moves : World → World → Prop := Relation.ReflTransGen Move

variable {w w' : World}

theorem Move.moves (h : Move w w') : Moves w w' := Relation.ReflTransGen.single h

theorem Moves.keeps {I : World → Prop} (hI : ∀ {v v'}, I v → Move v v' → I v') (hm : Moves w w')
    (h : I w) : I w' := by
  induction hm with
  | refl => exact h
  | tail _ hstep ih => exact hI ih hstep

theorem moves_silent (w : World) (c : Nat) {f : Connection → Connection}
    (hf : ∀ x, (f x).state = x.state) : Moves w (w.modConn c f) :=
  (Move.conn c f fun h => by rwa [Connection.isClosed, hf] at h).moves

theorem moves_enter (w : World) (c : Nat) {s : ConnState} (hs : s ≠ .closed) :
    Moves w (w.modConn c (Connection.enter s)) :=
  (Move.conn c _ fun h => absurd (of_decide_eq_true h) hs).moves

theorem moves_ready (w : World) (c : Nat) : Moves w (w.connectionReadyCb c) :=
  (Move.conn c _ fun h => by cases h).moves

theorem moves_received (w : World) (s c : Nat) : Moves w (w.connectionReceivedCb s c) := by
  have hready : Moves w (w.modConn c Connection.markAsEstablished) :=
    (Move.conn c _ fun h => by cases h).moves
  exact hready.tail (.received s c)

theorem moves_foldl {α : Type} {I : World → Prop} {f : World → α → World} {l : List α}
    (hI : ∀ v, ∀ a ∈ l, I v → I (f v a)) (hf : ∀ v, ∀ a ∈ l, I v → Moves v (f v a)) (hw : I w) :
    Moves w (l.foldl f w) := by
  have hboth : I (l.foldl f w) ∧ Moves w (l.foldl f w) :=
    Lib.foldl_invariant (I := fun v => I v ∧ Moves w v)
      (fun v a ha hv => ⟨hI v a ha hv.1, hv.2.trans (hf v a ha hv.1)⟩) ⟨hw, .refl⟩
  exact hboth.2

/-! ### Reports -/

theorem moves_note (w : World) (s : Nat) (r : CloseReason) : Moves w (w.noteRequest s r) := by
  refine (Move.note s _ ?_).moves
  exact fun _ => ⟨rfl, rfl, rfl⟩

theorem numOpenDependents_noteRequest (w : World) (s : Nat) (r : CloseReason) :
    (w.noteRequest s r).numOpenDependents s = w.numOpenDependents s := by
  rw [numOpenDependents_eq, opens_noteRequest, numOpenDependents_eq]

theorem moves_managerClose (hp : w.protocol ≠ .tcp) {s : Nat} (hone : w.numOpenDependents s = 1)
    (r : CloseReason) : Moves w (w.socketManagerClose s r) := by
  have hone' := (numOpenDependents_noteRequest w s r).trans hone
  rw [socketManagerClose_eq]
  split
  · next ht => exact absurd ht hp
  · exact (moves_note w s r).tail (.uvClose s _ fun _ => hone')
  · exact (moves_note w s r).tail (.uvClose s _ fun _ => hone')

theorem moves_managerClose_tcp (hpl : Placed w) (hp : w.protocol = .tcp) {s : Nat}
    (hs : (w.sm s).handle = .closed) (hone : w.numOpenDependents s = 1) (r : CloseReason) :
    Moves w (w.socketManagerClose s r) := by
  rw [socketManagerClose_eq, hp]
  refine (moves_note w s r).tail (.lastClosed s (hpl.of_site (site_modSm w s fun _ => rfl)) ?_ ?_)
  · rw [noteRequest_sm]
    exact hs
  · rw [numOpenDependents_noteRequest, hone]

theorem moves_terminate (hpl : Placed w) {c : Nat}
    (hne : w.numOpenDependents (w.conn c).socketManager ≠ 1) (r : CloseReason) :
    Moves w (w.terminate c r) := by
  refine (Move.shut c _ fun s hc ho => ?_).moves
  rw [hpl.home_of_mem s c hc] at hne
  exact exists_other_open hpl hne ho _

theorem moves_report (hpl : Placed w) (hp : w.protocol ≠ .tcp) (c : Nat) (r : CloseReason) :
    Moves w (w.reportEnd c r) := by
  unfold reportEnd
  split
  · next hone => exact moves_managerClose hp hone r
  · next hne => exact moves_terminate hpl hne r

theorem moves_report_tcp (hpl : Placed w) (hp : w.protocol = .tcp) {c : Nat}
    (hs : (w.sm (w.conn c).socketManager).handle = .closed) (r : CloseReason) :
    Moves w (w.reportEnd c r) := by
  unfold reportEnd
  split
  · next hone => exact moves_managerClose_tcp hpl hp hs hone r
  · next hne => exact moves_terminate hpl hne r

/-! ### Calls -/

theorem moves_uvClose (w : World) (s : Nat) {cb : CloseCb} (hcb : cb.closesSocket = false) :
    Moves w (w.modSm s (SocketManager.uvClose cb)) :=
  (Move.uvClose s cb fun h => by rw [hcb] at h; cases h).moves

theorem moves_close (hpl : Placed w) (c : Nat) : Moves w (w.connectionClose c) := by
  unfold connectionClose
  split
  · exact .refl
  · have hclosing := moves_enter w c (s := .closing) (by decide)
    have hsite := site_modConn_enter w c .closing
    refine hclosing.trans ?_
    unfold protocolClose
    split
    · exact moves_uvClose _ _ rfl
    · next hp => exact moves_report (hpl.of_site hsite) (by rw [hp]; decide) c _
    · set w₁ := w.modConn c (Connection.enter .closing)
      have hsend : Moves w₁ (w₁.modConn c fun x => { x with canSend := false }) :=
        moves_silent w₁ c fun _ => rfl
      unfold quicCloseConnection
      dsimp only
      split
      · exact hsend
      · exact hsend.tail (.cnx _ _)

theorem moves_refuse (hpl : Placed w) (c : Nat) : Moves w (w.refuse c) :=
  (moves_close hpl c).trans (moves_silent _ c fun _ => rfl)

theorem moves_abort (hpl : Placed w) (c : Nat) (refused : List Nat) :
    Moves w (w.connectionAbort c refused) := by
  unfold connectionAbort
  split
  · exact moves_uvClose _ _ rfl
  · next hp => exact moves_report hpl (by rw [hp]; decide) c _
  · next hp =>
    unfold quicAbort
    split
    · next hactive =>
      split
      · exact (Move.shut c _ fun s hc _ => exists_other_active hpl hp hc hactive).moves
      · exact .refl
    · exact (Move.cnx _ _).moves

theorem moves_closeGroup (hpl : Placed w) (g : Nat) (order : List Nat) :
    Moves w (w.closeGroup g order) := by
  unfold closeGroup
  split
  · unfold tcpCloseConnectionGroup
    refine moves_foldl (I := fun _ => True) (fun _ _ _ _ => trivial) (fun v d _ _ => ?_) trivial
    split
    · exact .refl
    · exact moves_uvClose _ _ rfl
  · next hp =>
    refine moves_foldl (I := fun v => Placed v ∧ v.protocol ≠ .tcp) (fun v d _ hv => ?_)
      (fun v d _ hv => moves_report hv.1 hv.2 d _) ⟨hpl, by rw [hp]; decide⟩
    have hsite := site_udpClose v d
    exact ⟨hv.1.of_site hsite, by rw [protocol_of_site hsite]; exact hv.2⟩
  · exact (Move.cnx _ _).moves

theorem moves_abortAll (hpl : Placed w) (order refused : List Nat) :
    Moves w (w.abortAll order refused) := by
  refine moves_foldl (I := Placed) (fun v d _ hv => ?_) (fun v d _ hv => ?_) hpl
  · split
    · exact hv
    · exact hv.of_site (site_connectionAbort v d refused)
  · split
    · exact .refl
    · exact moves_abort hv d refused

theorem moves_send (w : World) (c : Nat) (isFinal : Bool) (sid : Nat) :
    Moves w (w.sendMessage c isFinal sid) := by
  unfold sendMessage
  split
  · have hsent : Moves w (w.modConn c fun x => { x with canSend := !isFinal }) :=
      moves_silent w c fun _ => rfl
    dsimp only
    split
    · refine (hsent.trans (moves_silent _ c ?_)).tail (.cnx _ _)
      exact fun _ => rfl
    · exact hsent
  · exact .refl

theorem moves_client (hpl : Placed w) (cbs : UserCallbacks) {m : SocketManager}
    (hm : m.allConnections = []) (hl : m.listener = none) (hh : ∀ cb, m.handle ≠ .closing cb)
    (early : Option Nat) : Moves w (w.addClient cbs m early) := by
  unfold addClient
  exact (Move.group _).moves.tail (.client (hpl.withGroup _) hm hl hh rfl rfl)

theorem moves_initiate (hpl : Placed w) (cbs : UserCallbacks) (early : Option Nat) (start : Start) :
    Moves w (w.initiate cbs early start) := by
  obtain ⟨m, stream, h, -, hm⟩ := w.initiate_cases cbs early start
  have hclient : Moves w (w.addClient cbs m stream) :=
    moves_client hpl cbs hm.connections hm.listener (fun _ => by cases hm.handle <;> simp [*]) stream
  have hplaced := placed_addClient hpl cbs hm.connections stream
  obtain he | ⟨-, he⟩ | ⟨-, ⟨-, he⟩ | ⟨hp, he⟩⟩ := h <;> rw [he]
  · exact hclient
  · exact hclient.trans (moves_ready _ _)
  · exact hclient.trans (moves_refuse hplaced _)
  · refine hclient.trans (moves_report hplaced ?_ _ _)
    show w.protocol ≠ .tcp
    rw [hp]
    decide

theorem moves_clone (hpl : Placed w) {c : Nat} (hc : w.live c = true) :
    Moves w (w.cloneConnection c) := by
  have hopen : ∀ cb, Handle.open ≠ .closing cb := fun _ => Handle.noConfusion
  -- TCP and UDP clone to a socket of its own
  have hown : ∀ {m : SocketManager}, m.allConnections = [] → m.listener = none →
      (∀ cb, m.handle ≠ .closing cb) →
      Moves w ((w.addSocketManager m).addConnection ((w.conn c).cloneOf w.numSms)) :=
    fun hm hl hh => (Move.client hpl hm hl hh rfl rfl).moves
  unfold cloneConnection
  split
  · exact hown rfl rfl hopen
  · exact (hown rfl rfl hopen).trans (moves_ready _ _)
  · refine ((Move.connection hpl rfl (Or.inr (Or.inl ?_))).moves).trans (moves_ready _ _)
    obtain ⟨hlt, hfreed⟩ := of_decide_eq_true hc
    exact List.ne_nil_of_mem (hpl.mem_home c hlt hfreed)

/-! ### Callbacks -/

theorem moves_handleClosed (hpl : Placed w) (ht : w.protocol = .tcp → TcpPlaced w) (s : Nat) :
    Moves w (w.handleClosed s) := by
  have hmark : ∀ {cb}, (w.sm s).handle = .closing cb → Moves w (w.markHandleClosed s) :=
    fun h => (Move.handleClosed s (by simp [h])).moves
  have hplaced : Placed (w.markHandleClosed s) := hpl.of_site (site_markHandleClosed w s)
  have hclosed : ((w.markHandleClosed s).sm s).handle = .closed := by simp
  have hend := w.handleEnd s
  generalize w.handleClosed s = w' at hend ⊢
  cases hend with
  | idle => exact .refl
  | report r hp _ hh hc =>
    refine (hmark hh).trans (moves_report_tcp hplaced hp ?_ r)
    rw [markHandleClosed_conn, (ht hp).home s _ hc]
    exact hclosed
  | listener hp hh _ =>
    unfold listenerClosedCb
    split
    · next hone => exact (hmark hh).trans (moves_managerClose_tcp hplaced hp hclosed hone _)
    · exact (Move.stopped s hpl hp hh).moves
  | socket _ hh hcb =>
    refine (Move.socketClosed s hpl hh ?_).moves
    obtain rfl | rfl | ⟨rfl, -⟩ := hcb <;> rfl
  | poll hh => exact (Move.pollHandle s hh).moves
  | discarded hh => exact hmark hh

theorem moves_connected (hpl : Placed w) (s : Nat) (ok readStarted : Bool) :
    Moves w (w.connected s ok readStarted) := by
  have hpending : Moves w (w.modSm s fun m => { m with connectPending := none }) := by
    refine (Move.note s _ ?_).moves
    exact fun _ => ⟨rfl, rfl, rfl⟩
  have hplaced : Placed (w.modSm s fun m => { m with connectPending := none }) :=
    hpl.of_site (site_modSm w s fun _ => rfl)
  unfold connected
  split
  · dsimp only
    split
    · split
      · exact hpending.trans (moves_ready _ _)
      · exact .refl
    · split
      · exact hpending.trans (moves_uvClose _ s rfl)
      · exact hpending
    · split
      · split
        · exact hpending.trans (moves_ready _ _)
        · exact hpending.trans (moves_close hplaced _)
      · exact .refl
    · exact hpending.trans (moves_refuse hplaced _)
  · exact .refl

theorem moves_readEnded (w : World) (s : Nat) (e : ReadEnd) : Moves w (w.tcpOnRead s e) := by
  unfold tcpOnRead
  split
  · cases e <;> exact moves_uvClose w s rfl
  · exact .refl

theorem moves_accepted (hpl : Placed w) (s : Nat) : Moves w (w.newStreamConnectionCb s true) := by
  rw [newStreamConnectionCb_started]
  split
  · split
    · refine Relation.ReflTransGen.trans ?_ (moves_received _ _ _)
      refine (Move.group _).moves.tail (.client (hpl.withGroup _) rfl rfl ?_ rfl rfl)
      exact fun _ => Handle.noConfusion
    · exact .refl
  · exact .refl

theorem moves_datagram (hpl : Placed w) (s addr : Nat) :
    Moves w (w.udpMultiplexReceivedMessage s addr) := by
  unfold udpMultiplexReceivedMessage
  split
  · split
    · next hopen =>
      refine Relation.ReflTransGen.trans ?_ (moves_received _ _ _)
      refine ((Move.group _).moves.tail (.connection (hpl.withGroup _) rfl ?_)).tail (.note s _ ?_)
      · refine Or.inr (Or.inr ?_)
        show (w.sm s).handle ≠ .none
        rw [hopen.1]
        exact Handle.noConfusion
      · exact fun _ => ⟨rfl, rfl, rfl⟩
    · exact .refl
  · exact .refl

theorem moves_newCnx (hpl : Placed w) (s : Nat) : Moves w (w.newCnx s) := by
  unfold newCnx
  split
  · split
    · next hopen =>
      refine (Move.group _).moves.tail (.connection (hpl.withGroup _) rfl (Or.inr (Or.inr ?_)))
      show (w.sm s).handle ≠ .none
      rcases hopen.1 with hh | hh
      · rw [hh]
        exact Handle.noConfusion
      · rw [hh]
        exact Handle.noConfusion
    · exact .refl
  · exact .refl

theorem moves_cnxReady (w : World) (g first : Nat) : Moves w (w.cnxReady g first) := by
  unfold cnxReady
  dsimp only
  split
  · exact (Move.cnx g _).moves.trans (moves_received _ _ _)
  · exact (Move.cnx g _).moves.trans (moves_ready _ _)

theorem moves_bind (w : World) (g sid c : Nat) : Moves w (w.bindStream g sid c) := by
  unfold bindStream
  refine (moves_silent w c ?_).tail (.cnx _ _)
  exact fun _ => rfl

theorem moves_resolve (hpl : Placed w) (g sid : Nat) {first : Nat} (hfirst : first ∈ w.members g) :
    Moves w (w.resolveOrCreateStreamConnection g sid first).1 := by
  unfold resolveOrCreateStreamConnection
  split
  · exact .refl
  · split
    · refine (Move.connection hpl rfl (Or.inr (Or.inl ?_))).moves.trans (moves_bind _ g sid _)
      exact List.ne_nil_of_mem (hpl.mem_of_mem_members hfirst)
    · exact moves_bind w g sid first

theorem moves_announce (w : World) (isNew : Bool) (c : Nat) : Moves w (w.announceIf isNew c) := by
  unfold announceIf
  split
  · exact moves_ready w c
  · exact .refl

theorem moves_fin (hpl : Placed w) (hp : w.protocol = .quic) (c : Nat) :
    Moves w (w.handleStreamFin c) := by
  have hdone : Moves w (w.modConn c fun x => { x with canReceive := false }) :=
    moves_silent w c fun _ => rfl
  obtain heq | heq | ⟨-, -, heq⟩ := w.handleStreamFin_cases c
  · rw [heq]
    exact hdone
  · rw [heq]
    exact hdone.tail (.cnx _ _)
  · have hsite : (w.modConn c fun x => { x with canReceive := false }).site = w.site :=
      site_modConn w c fun _ => rfl
    rw [heq]
    refine hdone.trans (moves_report (hpl.of_site hsite) ?_ c _)
    rw [modConn_protocol, hp]
    decide

theorem moves_cnxClosed (hpl : Placed w) (hp : w.protocol = .quic) (g : Nat) (order : List Nat)
    (error : Bool) : Moves w (w.cnxClosed g order error) := by
  have hclosed : Moves w (w.modCnx g fun x => { x with closed := true }) := (Move.cnx g _).moves
  refine hclosed.trans (moves_foldl (I := fun v => Placed v ∧ v.protocol ≠ .tcp)
    (fun v d _ hv => ?_) (fun v d _ hv => ?_)
    ⟨hpl.of_site (site_modCnx w g _), by rw [modCnx_protocol, hp]; decide⟩)
  · have hreport : ∀ r, Placed (v.reportEnd d r) ∧ (v.reportEnd d r).protocol ≠ .tcp := fun r =>
      ⟨hv.1.of_site (site_reportEnd v d r), by
        rw [protocol_of_site (site_reportEnd v d r)]
        exact hv.2⟩
    cases error with
    | false => exact hreport _
    | true => exact hreport _
  · cases error with
    | false => exact moves_report hv.1 hv.2 d _
    | true => exact moves_report hv.1 hv.2 d _

/-! ### Events -/

theorem moves_step (hpl : Placed w) (ht : w.protocol = .tcp → TcpPlaced w) {e : Event}
    (hl : e.isListeners = false) : Moves w (w.step e) := by
  refine step_keeps .refl fun hen => ?_
  cases e with
  | listen l cbs => cases hl
  | listenerClose s => cases hl
  | initiate cbs early start => exact moves_initiate hpl cbs early start
  | close c => exact moves_close hpl c
  | abort c refused => exact moves_abort hpl c refused
  | closeGroup c order => exact moves_closeGroup hpl _ order
  | abortGroup c order refused => exact moves_abortAll hpl order refused
  | clone c => exact moves_clone hpl (of_decide_eq_true hen).1
  | send c isFinal sid => exact moves_send w c isFinal sid
  | free c => exact (Move.free (of_decide_eq_true hen).2).moves
  | raceWon c =>
    dsimp only [act, handOver]
    refine moves_silent w c ?_
    exact fun _ => rfl
  | raceCanceled c order =>
    have howner : Moves w (w.modConn c fun x => { x with owner := .canceledRace }) :=
      moves_silent w c fun _ => rfl
    refine howner.trans (moves_closeGroup (hpl.of_site ?_) _ order)
    exact site_modConn w c fun _ => rfl
  | handleClosed s => exact moves_handleClosed hpl ht s
  | connected s ok readStarted => exact moves_connected hpl s ok readStarted
  | readEnded s e => exact moves_readEnded w s e
  | accepted s => exact moves_accepted hpl s
  | datagram s addr => exact moves_datagram hpl s addr
  | datagramError s =>
    dsimp only [act, udpReadError]
    split
    · exact moves_uvClose w s rfl
    · exact .refl
  | newCnx s => exact moves_newCnx hpl s
  | cnxReady g first => exact moves_cnxReady w g first
  | streamData g sid first hasData =>
    have hstream := moves_resolve hpl g sid (of_decide_eq_true hen).2
    dsimp only [act, World.streamData]
    split
    · exact hstream
    · exact hstream.trans (moves_announce _ _ _)
  | streamFin g sid first hasData =>
    have hfirst := (of_decide_eq_true hen).2
    have hp := (of_decide_eq_true hen).1.1
    have hstream := moves_resolve hpl g sid hfirst
    have hplaced := placed_resolveOrCreate hpl g sid (lt_of_mem_members hfirst)
    dsimp only [act, World.streamFin]
    split
    · exact hstream
    · refine (hstream.trans (moves_fin hplaced ?_ _)).trans (moves_announce _ _ _)
      rw [protocol_resolveOrCreate, hp]
  | streamReset g sid =>
    have hp := (of_decide_eq_true hen).1
    dsimp only [act, World.streamReset]
    split
    · exact moves_report hpl (by rw [hp]; decide) _ _
    · exact .refl
  | stopSending g sid =>
    dsimp only [act, World.stopSending]
    split
    · exact moves_silent w _ fun _ => rfl
    · exact .refl
  | cnxClosed g order error => exact moves_cnxClosed hpl (of_decide_eq_true hen).1 g order error

end World

end CTaps.Connections
