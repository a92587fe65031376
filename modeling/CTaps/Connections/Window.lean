import CTaps.Connections.Isolation
import CTaps.Connections.Streams

/-! The window between the call of `close_socket` and the `socket_closed` callback. When it opens,
the reporter is the only open dependent. It stays the only one as long as no connection comes to
the socket and no closed one is announced, and then it is the one `socket_closed` closes. -/

namespace CTaps.Connections.World

open Gathering (Protocol)

structure Window (s : Nat) (t : Dependent) (w : World) : Prop where
  placed : Placed w
  notTcp : w.protocol ≠ .tcp
  only : w.opens s = [t]
  shut : (w.sm s).handle ≠ .open

variable {s : Nat} {t : Dependent} {w w' : World}

/-! ### Updates -/

theorem Window.keep (h : Window s t w) (hpl : Placed w') (hp : w'.protocol = w.protocol)
    (hl : (w'.sm s).listenerOpen = (w.sm s).listenerOpen)
    (ha : (w'.sm s).allConnections = (w.sm s).allConnections) (hh : (w'.sm s).handle ≠ .open)
    (hc : ∀ c ∈ (w.sm s).allConnections, (w'.conn c).isClosed = (w.conn c).isClosed) :
    Window s t w' := by
  refine ⟨hpl, hp ▸ h.notTcp, ?_, hh⟩
  have hfilter : ((w.sm s).allConnections.filter fun c => !(w'.conn c).isClosed) =
      (w.sm s).allConnections.filter fun c => !(w.conn c).isClosed :=
    List.filter_congr fun c hmem => by rw [hc c hmem]
  rw [opens_eq, hl, ha, hfilter, ← opens_eq, h.only]

theorem Window.modConn (h : Window s t w) {c : Nat} {f : Connection → Connection}
    (hsite : ∀ x, (f x).site = x.site)
    (hf : c ∈ (w.sm s).allConnections → (f (w.conn c)).isClosed = (w.conn c).isClosed) :
    Window s t (w.modConn c f) := by
  refine h.keep (h.placed.of_site (site_modConn w c hsite)) rfl rfl rfl h.shut fun d hd => ?_
  by_cases hdc : d = c
  · subst hdc
    simpa using hf hd
  · simp [hdc]

theorem Window.silent (h : Window s t w) (c : Nat) {f : Connection → Connection}
    (hsite : ∀ x, (f x).site = x.site) (hf : ∀ x, (f x).state = x.state) :
    Window s t (w.modConn c f) :=
  h.modConn hsite fun _ => by simp only [Connection.isClosed, hf]

theorem Window.modSm (h : Window s t w) {u : Nat} {f : SocketManager → SocketManager}
    (hsite : ∀ m, (f m).site = m.site)
    (hf : u = s → (f (w.sm s)).listenerOpen = (w.sm s).listenerOpen ∧ (f (w.sm s)).handle ≠ .open) :
    Window s t (w.modSm u f) := by
  have hpl := h.placed.of_site (site_modSm w u hsite)
  by_cases hu : u = s
  · subst hu
    have ha : (f (w.sm u)).allConnections = (w.sm u).allConnections :=
      congrArg Prod.fst (hsite (w.sm u))
    refine h.keep hpl rfl ?_ ?_ ?_ fun _ _ => rfl
    · simpa using (hf rfl).1
    · simpa using ha
    · simpa using (hf rfl).2
  · have hs : (w.modSm u f).sm s = w.sm s := by simp [Ne.symm hu]
    exact h.keep hpl rfl (by rw [hs]) (by rw [hs]) (hs ▸ h.shut) fun _ _ => rfl

theorem Window.modCnx (h : Window s t w) (g : Nat) (f : Cnx → Cnx) : Window s t (w.modCnx g f) :=
  h.keep (h.placed.of_site rfl) rfl rfl rfl h.shut fun _ _ => rfl

theorem Window.uvClose (h : Window s t w) (u : Nat) (cb : CloseCb) :
    Window s t (w.modSm u (SocketManager.uvClose cb)) := by
  refine h.modSm (fun m => SocketManager.site_uvClose m cb) fun _ => ⟨?_, ?_⟩
  · unfold SocketManager.listenerOpen
    rw [(uvClose_keeps _ _).2.1]
  · unfold SocketManager.uvClose
    split
    · exact h.shut
    · next ho => exact absurd ho h.shut
    · exact h.shut

/-! ### Reports -/

theorem Window.managerClose (h : Window s t w) (u : Nat) (r : CloseReason) :
    Window s t (w.socketManagerClose u r) := by
  have hnote : Window s t (w.noteRequest u r) :=
    h.modSm (fun _ => rfl) fun _ => ⟨rfl, h.shut⟩
  rw [socketManagerClose_eq]
  split
  · next hp => exact absurd hp h.notTcp
  · exact hnote.uvClose u _
  · exact hnote.uvClose u _

theorem Window.terminate (h : Window s t w) {c : Nat} (hc : c ∉ (w.sm s).allConnections)
    (r : CloseReason) : Window s t (w.terminate c r) :=
  h.modConn (fun _ => rfl) fun hmem => absurd hmem hc

theorem Window.report (h : Window s t w) (c : Nat) (r : CloseReason) :
    Window s t (w.reportEnd c r) := by
  unfold reportEnd
  split
  · exact h.managerClose _ r
  · next hne =>
    -- a connection of `s` would be the last open dependent
    refine h.terminate (fun hc => hne ?_) r
    rw [h.placed.home_of_mem s c hc]
    exact numOpenDependents_of_opens h.only

theorem Window.closedSocket (h : Window s t w) {u : Nat} (hu : u ≠ s) :
    Window s t (w.closedSocketCb u) := by
  unfold closedSocketCb
  split
  · next c hc =>
    refine h.terminate (fun hmem => hu ?_) _
    rw [← h.placed.home_of_mem u c (mem_of_lastOpenConnection hc), h.placed.home_of_mem s c hmem]
  · exact h.modSm (fun m => SocketManager.site_closeListener m) fun he => absurd he hu

theorem Window.listenerClosed (h : Window s t w) (u : Nat) : Window s t (w.listenerClosedCb u) := by
  unfold listenerClosedCb
  split
  · exact h.managerClose u _
  · next hne =>
    refine h.modSm (fun m => SocketManager.site_closeListener m) fun he => ?_
    exact absurd (he ▸ numOpenDependents_of_opens h.only) hne

/-! ### Calls -/

theorem Window.close (h : Window s t w) (c : Nat) : Window s t (w.connectionClose c) := by
  unfold connectionClose
  split
  · exact h
  · next hc =>
    have hclosing : Window s t (w.modConn c (Connection.enter .closing)) := by
      refine h.modConn (fun _ => rfl) fun _ => ?_
      have hopen : (w.conn c).isClosed = false := by
        simp only [Connection.isClosedOrClosing, decide_eq_true_eq, not_or] at hc
        simpa [Connection.isClosed] using hc.1
      rw [hopen]
      rfl
    unfold protocolClose
    split
    · next hp => exact absurd hp h.notTcp
    · exact hclosing.report c _
    · unfold quicCloseConnection
      have hsend := hclosing.silent c (f := fun x => { x with canSend := false })
        (fun _ => rfl) fun _ => rfl
      dsimp only
      split
      · exact hsend
      · exact hsend.modCnx _ _

theorem Window.mem_opens_iff (h : Window s t w) {c : Nat} (hc : c ∈ (w.sm s).allConnections) :
    (w.conn c).isClosed = false ↔ .connection c = t := by
  have hmem : Dependent.connection c ∈ w.opens s ↔ (w.conn c).isClosed = false := by
    rw [mem_opens, mem_dependents_connection]
    simp [hc, isOpen]
  rw [← hmem, h.only, List.mem_singleton]

theorem Window.numActive_le (h : Window s t w) (hp : w.protocol = .quic) {c : Nat}
    (hc : c ∈ (w.sm s).allConnections) :
    w.numActiveConnections (w.conn c).group ≤ 1 := by
  have hopen : ∀ d ∈ (w.members (w.conn c).group).filter fun d => !(w.conn d).isClosed,
      .connection d = t := by
    intro d hd
    obtain ⟨hd, ho⟩ := List.mem_filter.mp hd
    obtain ⟨hlt, hmem⟩ := List.mem_filter.mp hd
    simp only [decide_eq_true_eq] at hmem
    have hlt : d < w.numConns := List.mem_range.mp hlt
    have hhome := h.placed.quic_home hp d hlt c (h.placed.lt_of_mem s c hc) hmem.2
    rw [h.placed.home_of_mem s c hc] at hhome
    have hlist := h.placed.mem_home d hlt hmem.1
    rw [hhome] at hlist
    exact (h.mem_opens_iff hlist).mp (by simpa using ho)
  unfold numActiveConnections
  rw [List.countP_eq_length_filter]
  have hnodup := (List.nodup_range (n := w.numConns)).filter
    (fun c' => (w.conn c').freed = false ∧ (w.conn c').group = (w.conn c).group)
  have hnodup := hnodup.filter fun d => !(w.conn d).isClosed
  match hlist : (w.members (w.conn c).group).filter fun d => !(w.conn d).isClosed with
  | [] => exact Nat.zero_le _
  | [a] => exact Nat.le_refl _
  | a :: b :: l =>
    exfalso
    rw [hlist] at hopen
    have hab : a = b := Dependent.connection.inj
      ((hopen a (by simp)).trans (hopen b (by simp)).symm)
    have hcons : (a :: b :: l).Nodup := hlist ▸ hnodup
    exact (List.nodup_cons.mp hcons).1 (hab ▸ List.mem_cons_self)

theorem Window.abort (h : Window s t w) (c : Nat) (refused : List Nat) :
    Window s t (w.connectionAbort c refused) := by
  unfold connectionAbort
  split
  · next hp => exact absurd hp h.notTcp
  · exact h.report c _
  · next hp =>
    unfold quicAbort
    split
    · next hactive =>
      split
      · refine h.modConn (fun _ => rfl) fun hc => ?_
        exact absurd (h.numActive_le hp hc) (Nat.not_le.mpr hactive)
      · exact h
    · exact h.modCnx _ _

theorem Window.group (h : Window s t w) (g : Nat) (order : List Nat) :
    Window s t (w.closeGroup g order) := by
  unfold closeGroup
  split
  · next hp => exact absurd hp h.notTcp
  · exact Lib.foldl_invariant (I := Window s t) (fun w c _ hw => hw.report c _) h
  · exact h.modCnx _ _

theorem Window.abortMembers (h : Window s t w) (order refused : List Nat) :
    Window s t (w.abortAll order refused) := by
  refine Lib.foldl_invariant (I := Window s t) (fun w c _ hw => ?_) h
  split
  · exact hw
  · exact hw.abort c refused

theorem Window.send (h : Window s t w) (c : Nat) (isFinal : Bool) (sid : Nat) :
    Window s t (w.sendMessage c isFinal sid) := by
  unfold sendMessage
  split
  · have hsend := h.silent c (f := fun x => { x with canSend := !isFinal })
      (fun _ => rfl) fun _ => rfl
    dsimp only
    split
    · refine Window.modCnx (hsend.silent c ?_ ?_) _ _
      · exact fun _ => rfl
      · exact fun _ => rfl
    · exact hsend
  · exact h

theorem Window.freed (h : Window s t w) {c : Nat} (hc : (w.conn c).isClosed = true) :
    Window s t (w.connectionFree c) := by
  have hpl := h.placed.withFreed c
  have hclosed (d : Nat) : ((w.connectionFree c).conn d).isClosed = (w.conn d).isClosed :=
    w.conn_connectionFree c d Connection.isClosed fun _ => rfl
  by_cases hs : s = (w.conn c).socketManager
  · subst hs
    refine ⟨hpl, h.notTcp, ?_, by simpa [connectionFree] using h.shut⟩
    -- the connection that leaves the list was not open
    have hfilter : ((w.sm (w.conn c).socketManager).allConnections.erase c).filter
        (fun d => !(w.conn d).isClosed) =
        (w.sm (w.conn c).socketManager).allConnections.filter fun d => !(w.conn d).isClosed := by
      rw [(h.placed.nodup _).erase_eq_filter, List.filter_filter]
      refine List.filter_congr fun d _ => ?_
      by_cases hd : d = c
      · subst hd
        simp [hc]
      · simp [hd]
    have hl : ((w.connectionFree c).sm (w.conn c).socketManager).listenerOpen =
        (w.sm (w.conn c).socketManager).listenerOpen :=
      w.sm_connectionFree c _ SocketManager.listenerOpen fun _ _ => rfl
    have ha : ((w.connectionFree c).sm (w.conn c).socketManager).allConnections =
        (w.sm (w.conn c).socketManager).allConnections.erase c := by simp [connectionFree]
    rw [opens_eq, hl, ha]
    simp only [hclosed]
    rw [hfilter, ← opens_eq, h.only]
  · have hsm : (w.connectionFree c).sm s = w.sm s := by simp [connectionFree, hs]
    exact h.keep hpl rfl (by rw [hsm]) (by rw [hsm]) (hsm ▸ h.shut) fun d _ => hclosed d

theorem Window.listenerClosing (h : Window s t w) (u : Nat) : Window s t (w.listenerClose u) := by
  unfold listenerClose
  split
  · next hp => exact absurd hp h.notTcp
  · exact h.listenerClosed u

theorem Window.canceled (h : Window s t w) (c : Nat) (order : List Nat) :
    Window s t (w.cancelAttempt c order) := by
  unfold cancelAttempt
  refine Window.group (h.silent c ?_ ?_) _ order
  · exact fun _ => rfl
  · exact fun _ => rfl

/-! ### New connections -/

theorem Window.lt (h : Window s t w) : s < w.numSms := by
  have hmem : t ∈ w.dependents s := (mem_opens.mp (h.only ▸ List.mem_singleton_self t)).1
  cases t with
  | listener => exact h.placed.listener_lt s (mem_dependents_listener.mp hmem)
  | connection c =>
    have hc := mem_dependents_connection.mp hmem
    rw [← h.placed.home_of_mem s c hc]
    exact h.placed.home_lt c (h.placed.lt_of_mem s c hc)

theorem Window.withSocketManager (h : Window s t w) {m : SocketManager}
    (hm : m.allConnections = []) : Window s t (w.addSocketManager m) := by
  have hs : (w.addSocketManager m).sm s = w.sm s := by simp [Nat.ne_of_lt h.lt]
  exact h.keep (h.placed.withSocketManager hm) rfl (by rw [hs]) (by rw [hs]) (hs ▸ h.shut)
    fun _ _ => rfl

theorem Window.withGroup (h : Window s t w) (y : Cnx) : Window s t (w.addGroup y) :=
  h.keep (h.placed.withGroup y) rfl rfl rfl h.shut fun _ _ => rfl

theorem Window.withConnection (h : Window s t w) {x : Connection}
    (hpl : Placed (w.addConnection x)) (hx : x.socketManager ≠ s) : Window s t (w.addConnection x) := by
  have hs : (w.addConnection x).sm s = w.sm s := by simp [Ne.symm hx]
  refine h.keep hpl rfl (by rw [hs]) (by rw [hs]) (hs ▸ h.shut) fun c hc => ?_
  simp [Nat.ne_of_lt (h.placed.lt_of_mem s c hc)]

theorem Window.ready (h : Window s t w) {c : Nat}
    (hc : c ∈ (w.sm s).allConnections → (w.conn c).isClosed = false) :
    Window s t (w.connectionReadyCb c) := by
  refine h.modConn (fun _ => rfl) fun hmem => ?_
  rw [hc hmem]
  rfl

theorem Window.received (h : Window s t w) {c : Nat} (u : Nat)
    (hc : c ∈ (w.sm s).allConnections → (w.conn c).isClosed = false) :
    Window s t (w.connectionReceivedCb u c) := by
  unfold connectionReceivedCb
  have hest : Window s t (w.modConn c Connection.markAsEstablished) := by
    refine h.modConn (fun _ => rfl) fun hmem => ?_
    rw [hc hmem]
    rfl
  refine hest.modSm (fun m => by simp [SocketManager.site]) fun _ => ⟨?_, h.shut⟩
  exact listenerOpen_received (w.sm s) c

theorem Window.not_mem (h : Window s t w) {c : Nat} (hc : (w.conn c).socketManager ≠ s) :
    c ∉ (w.sm s).allConnections :=
  fun hmem => hc (h.placed.home_of_mem s c hmem)

theorem Window.readyElsewhere (h : Window s t w) {c : Nat} (hc : (w.conn c).socketManager ≠ s) :
    Window s t (w.connectionReadyCb c) :=
  h.ready fun hmem => absurd hmem (h.not_mem hc)

theorem Window.client (h : Window s t w) (cbs : UserCallbacks) {m : SocketManager}
    (hm : m.allConnections = []) (early : Option Nat) : Window s t (w.addClient cbs m early) :=
  ((h.withGroup _).withSocketManager hm).withConnection (placed_addClient h.placed cbs hm early)
    (Nat.ne_of_gt h.lt)

theorem Window.initiated (h : Window s t w) (cbs : UserCallbacks) (early : Option Nat)
    (start : Start) : Window s t (w.initiate cbs early start) := by
  obtain ⟨m, stream, hcases, -, hm⟩ := w.initiate_cases cbs early start
  have hclient := h.client cbs hm.connections stream
  obtain he | ⟨-, he⟩ | ⟨-, ⟨hp, -⟩ | ⟨-, he⟩⟩ := hcases
  · exact he ▸ hclient
  · rw [he]
    refine hclient.readyElsewhere ?_
    rw [addClient_conn]
    exact Nat.ne_of_gt h.lt
  · exact absurd hp h.notTcp
  · exact he ▸ hclient.report _ _

theorem Window.clone (h : Window s t w) {c : Nat} (hlt : c < w.numConns)
    (hc : w.protocol = .quic → (w.conn c).socketManager ≠ s) :
    Window s t (w.cloneConnection c) := by
  unfold cloneConnection
  split
  · next hp => exact absurd hp h.notTcp
  · next hp =>
    have hpl : Placed ((w.addSocketManager { handle := .open }).addConnection
        ((w.conn c).cloneOf w.numSms)) :=
      (h.placed.withSocketManager rfl).withConnection (Nat.lt_succ_self _)
        (h.placed.group_lt c hlt) rfl fun hq => absurd (hp.symm.trans hq) (by decide)
    refine ((h.withSocketManager rfl).withConnection hpl (Nat.ne_of_gt h.lt)).readyElsewhere ?_
    simpa [Connection.cloneOf] using Nat.ne_of_gt h.lt
  · next hp =>
    refine (h.withConnection (h.placed.withClone hlt) (hc hp)).readyElsewhere ?_
    simpa [Connection.cloneOf] using hc hp

theorem Window.datagram (h : Window s t w) (u addr : Nat) :
    Window s t (w.udpMultiplexReceivedMessage u addr) := by
  unfold udpMultiplexReceivedMessage
  split
  · next l hl _ =>
    split
    · next ho =>
      -- reading has stopped on the socket that is being closed
      have hu : u ≠ s := by
        rintro rfl
        exact h.shut ho.1
      have hpl := h.placed.withGroupOfOne {} (h.placed.listener_lt u (by simp [hl]))
        (x := { role := .server, group := w.numGroups, socketManager := u, canSend := true,
                canReceive := true, callbacks := l.connectionCallbacks }) rfl rfl
      have hnew := (h.withGroup _).withConnection hpl hu
      refine Window.received (hnew.modSm ?_ fun he => absurd he hu) u fun _ => ?_
      · exact fun _ => rfl
      · simp [Connection.isClosed]
    · exact h
  · exact h

theorem Window.newCnx (h : Window s t w) {u : Nat} (hu : u = s → (w.sm s).listenerOpen = false) :
    Window s t (w.newCnx u) := by
  unfold World.newCnx
  split
  · next l hl =>
    split
    · next ho =>
      have hne : u ≠ s := by
        rintro rfl
        have := hu rfl
        simp [SocketManager.listenerOpen, hl, ho.2] at this
      exact (h.withGroup _).withConnection
        (h.placed.withGroupOfOne _ (h.placed.listener_lt u (by simp [hl])) rfl rfl) hne
    · exact h
  · exact h

/-! ### Callbacks -/

theorem Window.handle (h : Window s t w) {u : Nat}
    (hu : u = s → (w.sm u).handle = .closing .socketTimerClose ∧ (w.sm u).pollHandle = true) :
    Window s t (w.handleClosed u) := by
  have hmark (hne : u ≠ s) : Window s t (w.markHandleClosed u) :=
    h.modSm (fun _ => rfl) fun he => absurd he hne
  have hend := w.handleEnd u
  generalize w.handleClosed u = w' at hend ⊢
  cases hend with
  | idle => exact h
  | report _ hp _ _ _ => exact absurd hp h.notTcp
  | listener hp _ _ => exact absurd hp h.notTcp
  | socket _ hh hcb =>
    have hne : u ≠ s := by
      intro he
      rw [(hu he).1] at hh
      cases hh
      simp [(hu he).2] at hcb
    exact (hmark hne).closedSocket hne
  | poll _ => exact h.modSm (fun _ => rfl) fun _ => ⟨rfl, Handle.noConfusion⟩
  | discarded hh => exact hmark fun he => by simp [(hu he).1] at hh

theorem Window.cnxReady (h : Window s t w) (g : Nat) {first : Nat}
    (hfirst : (w.conn first).socketManager = s → (w.conn first).isClosed = false) :
    Window s t (w.cnxReady g first) := by
  unfold World.cnxReady
  have hcnx := h.modCnx g fun x => { x with ready := true }
  have hopen : first ∈ (w.sm s).allConnections → (w.conn first).isClosed = false :=
    fun hmem => hfirst (h.placed.home_of_mem s first hmem)
  dsimp only
  split
  · exact hcnx.received _ hopen
  · exact hcnx.ready hopen

theorem Window.bind (h : Window s t w) (g sid c : Nat) : Window s t (w.bindStream g sid c) := by
  unfold bindStream
  refine Window.modCnx (h.silent c ?_ ?_) _ _
  · exact fun _ => rfl
  · exact fun _ => rfl

theorem Window.withStream (h : Window s t w) (g sid : Nat) {first : Nat}
    (hlt : first < w.numConns) (hfirst : (w.conn first).socketManager ≠ s) :
    Window s t (w.withStream g sid first) :=
  Window.bind (h.withConnection (h.placed.withClone hlt) hfirst) g sid _

theorem Window.fin (h : Window s t w) (c : Nat) : Window s t (w.handleStreamFin c) := by
  have hrecv := h.silent c (f := fun x => { x with canReceive := false })
    (fun _ => rfl) fun _ => rfl
  unfold handleStreamFin
  dsimp only
  split
  · split
    · exact hrecv
    · exact hrecv.report c _
  · exact hrecv.modCnx _ _

/-! ### Runs -/

def Disturbs (s : Nat) (w : World) (e : Event) : Prop :=
  w.enabled e = true ∧
    match e with
    | .newCnx u => u = s ∧ (w.sm s).listenerOpen = true
    | .clone c => w.protocol = .quic ∧ (w.conn c).socketManager = s
    | .streamData g sid first _ | .streamFin g sid first _ =>
      w.streamCtx g sid = none ∧ (w.conn first).stream.isSome = true ∧
        (w.conn first).socketManager = s
    | .cnxReady _ first => (w.conn first).socketManager = s ∧ (w.conn first).isClosed = true
    | .handleClosed u => u = s ∧ ¬ (w.protocol = .quic ∧
        (w.sm s).handle = .closing .socketTimerClose ∧ (w.sm s).pollHandle = true)
    | _ => False

instance (s : Nat) (w : World) (e : Event) : Decidable (w.Disturbs s e) := by
  rcases e with ⟨⟩ <;> dsimp only [Disturbs] <;> infer_instance

theorem Window.data (h : Window s t w) {g sid first : Nat} (hlt : first < w.numConns)
    (hnew : w.streamCtx g sid = none → (w.conn first).stream.isSome = true →
      (w.conn first).socketManager ≠ s) (hasData : Bool) :
    Window s t (w.streamData g sid first hasData) := by
  unfold streamData
  obtain ⟨c, -, heq⟩ | ⟨hctx, hst, heq⟩ | ⟨-, -, heq⟩ := w.resolveOrCreate_cases g sid first
  · rw [heq]
    dsimp only [announceIf]
    split <;> exact h
  · rw [heq]
    have hstream := h.withStream g sid hlt (hnew hctx hst)
    dsimp only [announceIf]
    split
    · exact hstream
    · refine hstream.readyElsewhere ?_
      rw [withStream_conn]
      exact hnew hctx hst
  · rw [heq]
    have hfirst := h.bind g sid first
    dsimp only [announceIf]
    split <;> exact hfirst

theorem Window.finEvent (h : Window s t w) {g sid first : Nat} (hlt : first < w.numConns)
    (hnew : w.streamCtx g sid = none → (w.conn first).stream.isSome = true →
      (w.conn first).socketManager ≠ s) (hasData : Bool) :
    Window s t (w.streamFin g sid first hasData) := by
  unfold streamFin
  obtain ⟨c, -, heq⟩ | ⟨hctx, hst, heq⟩ | ⟨-, -, heq⟩ := w.resolveOrCreate_cases g sid first
  · rw [heq]
    dsimp only [announceIf]
    split
    · exact h
    · exact h.fin c
  · rw [heq]
    have hstream := h.withStream g sid hlt (hnew hctx hst)
    dsimp only [announceIf]
    split
    · exact hstream
    · refine (hstream.fin _).readyElsewhere ?_
      have hsite := congrFun (congrArg Site.conn (site_handleStreamFin (w.withStream g sid first)
        w.numConns)) w.numConns
      have hhome := congrArg Prod.fst hsite
      refine fun he => hnew hctx hst ?_
      have hold : ((w.withStream g sid first).conn w.numConns).socketManager = s :=
        hhome.symm.trans he
      rwa [withStream_conn] at hold
  · rw [heq]
    have hfirst := h.bind g sid first
    dsimp only [announceIf]
    split
    · exact hfirst
    · exact hfirst.fin first

theorem Window.step (h : Window s t w) {e : Event} (hd : ¬ w.Disturbs s e) :
    Window s t (w.step e) := by
  refine step_keeps h fun he => ?_
  cases e with
  | initiate cbs early start => exact h.initiated cbs early start
  | listen l cbs => exact h.withSocketManager rfl
  | close c => exact h.close c
  | abort c refused => exact h.abort c refused
  | closeGroup c order => exact h.group _ order
  | abortGroup c order refused => exact h.abortMembers order refused
  | clone c => exact h.clone (lt_of_held he) fun hp hc => hd ⟨he, hp, hc⟩
  | send c isFinal sid => exact h.send c isFinal sid
  | free c => exact h.freed (of_decide_eq_true he).2
  | listenerClose u => exact h.listenerClosing u
  | raceWon c =>
    dsimp only [act, handOver]
    refine h.silent c ?_ ?_
    · exact fun _ => rfl
    · exact fun _ => rfl
  | raceCanceled c order => exact h.canceled c order
  | handleClosed u =>
    refine h.handle fun hu => ?_
    subst hu
    by_contra hnot
    exact hd ⟨he, rfl, fun hq => hnot hq.2⟩
  | connected u ok readStarted => exact absurd (of_decide_eq_true he) h.notTcp
  | readEnded u e => exact absurd (of_decide_eq_true he) h.notTcp
  | accepted u => exact absurd (of_decide_eq_true he) h.notTcp
  | datagram u addr => exact h.datagram u addr
  | datagramError u =>
    dsimp only [act, udpReadError]
    split
    · exact h.uvClose u _
    · exact h
  | newCnx u => exact h.newCnx fun hu => Bool.eq_false_iff.mpr fun hl => hd ⟨he, hu, hl⟩
  | cnxReady g first =>
    exact h.cnxReady g fun hs => Bool.eq_false_iff.mpr fun hc => hd ⟨he, hs, hc⟩
  | streamData g sid first hasData =>
    exact h.data (lt_of_mem_members (of_decide_eq_true he).2)
      (fun hctx hst hs => hd ⟨he, hctx, hst, hs⟩) hasData
  | streamFin g sid first hasData =>
    exact h.finEvent (lt_of_mem_members (of_decide_eq_true he).2)
      (fun hctx hst hs => hd ⟨he, hctx, hst, hs⟩) hasData
  | streamReset g sid =>
    dsimp only [act, streamReset]
    split
    · exact h.report _ _
    · exact h
  | stopSending g sid =>
    dsimp only [act, stopSending]
    split
    · refine h.silent _ ?_ ?_
      · exact fun _ => rfl
      · exact fun _ => rfl
    · exact h
  | cnxClosed g order error =>
    dsimp only [act, World.cnxClosed, reportGroup]
    refine Lib.foldl_invariant (I := Window s t) (fun w c _ hw => ?_) (h.modCnx _ _)
    split
    · exact hw.report c _
    · exact hw.report c _

/-! ### The end of the window -/

def Told (w w' : World) (s : Nat) : Dependent → Prop
  | .listener => (w'.sm s).listener = (w.sm s).listener.map (Listener.close (w.sm s).closeReason)
  | .connection c =>
    w'.conn c = ((w.conn c).enter .closed).invoke (w.sm s).closeReason.callback

structure ClosesTrigger (w w' : World) (s : Nat) (t : Dependent) : Prop where
  allClosed : ∀ d ∈ w'.dependents s, w'.isOpen s d = false
  told : Told w w' s t
  others : ∀ d ∈ w.dependents s, d ≠ t → Same w w' s d

theorem told_closedSocketCb (h : w.opens s = [t]) : Told w (w.closedSocketCb s) s t := by
  unfold closedSocketCb
  cases t with
  | listener =>
    rw [lastOpenConnection_eq_none h]
    simp [Told, SocketManager.closeListener]
  | connection c =>
    rw [lastOpenConnection_eq_some h]
    simp [Told, terminate]

theorem isOpen_of_told (h : Told w w' s t) : w'.isOpen s t = false := by
  cases t with
  | listener =>
    have hclose : ∀ (r : CloseReason) (l : Listener), (l.close r).closed = true := by
      intro r l
      unfold Listener.close Listener.notifyOfListenerClose
      cases r <;> dsimp only <;> split <;> rfl
    have hl : (w'.sm s).listener = _ := h
    unfold isOpen SocketManager.listenerOpen
    rw [hl]
    cases (w.sm s).listener with
    | none => rfl
    | some l => simp [hclose]
  | connection c =>
    have hc : w'.conn c = _ := h
    dsimp only [isOpen]
    rw [hc]
    rfl

theorem isOpen_of_same {d : Dependent} (h : Same w w' s d) : w'.isOpen s d = w.isOpen s d := by
  cases d with
  | listener =>
    have hl : (w'.sm s).listener = (w.sm s).listener := h
    unfold isOpen SocketManager.listenerOpen
    rw [hl]
  | connection c =>
    have hc : w'.conn c = w.conn c := h
    dsimp only [isOpen]
    rw [hc]

theorem closesTrigger (h : w.opens s = [t]) : ClosesTrigger w (w.closedSocketCb s) s t := by
  refine ⟨fun d hd => ?_, told_closedSocketCb h, fun d _ hne => same_closedSocketCb h hne⟩
  rw [dependents_of_site (site_closedSocketCb w s)] at hd
  by_cases hdt : d = t
  · exact hdt ▸ isOpen_of_told (told_closedSocketCb h)
  · rw [isOpen_of_same (same_closedSocketCb h hdt)]
    exact closed_of_opens h hd hdt

theorem handle_uvClose_ne (m : SocketManager) (cb : CloseCb) : (m.uvClose cb).handle ≠ .open := by
  rw [handle_uvClose]
  split
  · exact Handle.noConfusion
  · next hh => exact hh

theorem window_opens (hpl : Placed w) (hp : w.protocol ≠ .tcp) {r : Report}
    (h : w.opens (r.manager w) = [r.reporter]) :
    Window (r.manager w) r.reporter (w.handleReport r) := by
  have hone := numOpenDependents_of_opens h
  rw [handleReport_last hone]
  have hproto := protocol_of_site (site_socketManagerClose w (r.manager w) (r.reason w))
  refine ⟨hpl.of_site (site_socketManagerClose w _ _), hproto ▸ hp,
    (opens_socketManagerClose hp _ _).trans h, ?_⟩
  rw [socketManagerClose_eq]
  split
  · next ht => exact absurd ht hp
  · simpa using handle_uvClose_ne _ _
  · simpa using handle_uvClose_ne _ _

/-- An open dependent makes the report that closes the socket. If nothing disturbs the window, the
`socket_closed` callback at its end, which with TCP the report makes itself, closes and tells this
dependent, and leaves every dependent closed. -/
theorem socket_close_window (p : Protocol) (es : List Event) (r : Report)
    (hr : r.Possible (run p es)) (hask : (run p es).Asks r)
    (hopen : (run p es).isOpen (r.manager (run p es)) r.reporter = true) (fs : List Event)
    (hfs : Lib.AllSteps step (fun w e => ¬ w.Disturbs (r.manager (run p es)) e)
      ((run p es).handleReport r) fs) :
    (p = .tcp → ClosesTrigger ((run p es).noteRequest (r.manager (run p es)) (r.reason (run p es)))
      ((run p es).handleReport r) (r.manager (run p es)) r.reporter) ∧
    (p ≠ .tcp → ClosesTrigger (Lib.run step ((run p es).handleReport r) fs)
      ((Lib.run step ((run p es).handleReport r) fs).closedSocketCb (r.manager (run p es)))
      (r.manager (run p es)) r.reporter) := by
  have hpl := placed_run p es
  have hproto : (run p es).protocol = p := protocol_run p es
  set w := run p es
  have hone := (asks_iff w r).mp hask
  have honly := opens_eq_singleton hone (mem_opens.mpr ⟨reporter_mem hpl hr, hopen⟩)
  constructor
  · intro hp
    rw [handleReport_last hone, socketManagerClose_eq, hproto, hp]
    exact closesTrigger ((opens_noteRequest _ _ _).trans honly)
  · intro hp
    have hw := window_opens hpl (hproto ▸ hp) honly
    have hend := Lib.run_invariant (I := Window (r.manager w) r.reporter)
      (fun _ _ hi hg => hi.step hg) hw hfs
    exact closesTrigger hend.only

theorem socket_close_window_quic :
    ClosesTrigger
      (Lib.run step ((run .quic [.initiate {} none .begun, .cnxReady 0 0, .raceWon 0]).handleReport
        (.closedConnection 0)) [.close 0, .initiate {} none .begun, .handleClosed 0])
      ((Lib.run step ((run .quic [.initiate {} none .begun, .cnxReady 0 0, .raceWon 0]).handleReport
        (.closedConnection 0)) [.close 0, .initiate {} none .begun, .handleClosed 0]).closedSocketCb 0)
      0 (.connection 0) :=
  (socket_close_window .quic [.initiate {} none .begun, .cnxReady 0 0, .raceWon 0]
    (.closedConnection 0) (by decide) (by unfold Asks; decide) (by decide)
    [.close 0, .initiate {} none .begun, .handleClosed 0] (by decide)).2 (by decide)

/-- A QUIC listener is closed, and a connection is accepted before the socket is. The connection is
closed and told, and the listener stays open. -/
theorem socket_close_window_accepts :
    (run .quic [.listen {} {}]).Asks (.closedListener 0) ∧
      ((run .quic [.listen {} {}, .listenerClose 0, .newCnx 0, .handleClosed 0,
        .handleClosed 0]).sm 0).handle = .closed ∧
      ((run .quic [.listen {} {}, .listenerClose 0, .newCnx 0, .handleClosed 0,
        .handleClosed 0]).conn 0).history = [.called .closed, .entered .closed] ∧
      (run .quic [.listen {} {}, .listenerClose 0, .newCnx 0, .handleClosed 0,
        .handleClosed 0]).isOpen 0 .listener = true ∧
      .listener ∈ (run .quic [.listen {} {}, .listenerClose 0, .newCnx 0, .handleClosed 0,
        .handleClosed 0]).dependents 0 := by
  refine ⟨?_, by decide, by decide, by decide, by decide⟩
  unfold Asks
  decide

end CTaps.Connections.World
