import CTaps.Connections.Histories

/-! The handle of a TCP socket and the state of its connection: while the handle is open the
connection is neither closing nor closed, and it is not closed before the handle is. So libuv never
reports a connect or a close for a connection that is already closed. -/

namespace CTaps.Connections

def HandleFits : Handle → ConnState → Prop
  | .open, st => st.rank ≤ ConnState.established.rank
  | .closing _, st => st ≠ .closed
  | _, _ => True

theorem HandleFits.uvClose {m : SocketManager} {st : ConnState} (h : HandleFits m.handle st)
    (cb : CloseCb) : HandleFits (m.uvClose cb).handle st := by
  unfold SocketManager.uvClose
  split
  · exact h
  · next ho =>
    rw [ho] at h
    rintro rfl
    exact absurd (show ConnState.closed.rank ≤ ConnState.established.rank from h) (by decide)
  · exact h

theorem HandleFits.closing (m : SocketManager) (cb : CloseCb) :
    HandleFits (m.uvClose cb).handle .closing := by
  unfold SocketManager.uvClose
  split
  · next hn => simp [HandleFits, hn]
  · exact ConnState.noConfusion
  · next hn ho =>
    cases hh : m.handle with
    | none => exact absurd hh hn
    | «open» => exact absurd hh ho
    | closing cb => exact ConnState.noConfusion
    | closed => trivial

namespace World

def TcpSafe (w : World) : Prop :=
  ∀ s c, (w.sm s).tcpConnection = some c → HandleFits (w.sm s).handle (w.conn c).state

variable {w : World}

theorem TcpSafe.modSm (h : TcpSafe w) {s : Nat} {f : SocketManager → SocketManager}
    (ht : ∀ m, (f m).tcpConnection = m.tcpConnection)
    (hf : ∀ m st, HandleFits m.handle st → HandleFits (f m).handle st) : TcpSafe (w.modSm s f) := by
  intro t c hc
  by_cases hts : t = s
  · subst hts
    simp only [modSm_sm, Function.update_self, ht] at hc ⊢
    exact hf _ _ (h t c hc)
  · simp only [modSm_sm, Function.update_of_ne hts] at hc ⊢
    exact h t c hc

theorem tcpConnection_uvClose (m : SocketManager) (cb : CloseCb) :
    (m.uvClose cb).tcpConnection = m.tcpConnection := by
  unfold SocketManager.uvClose
  split <;> rfl

theorem TcpSafe.uvClose (h : TcpSafe w) (s : Nat) (cb : CloseCb) :
    TcpSafe (w.modSm s (SocketManager.uvClose cb)) :=
  h.modSm (fun m => tcpConnection_uvClose m cb) fun _ _ hfit => hfit.uvClose cb

theorem TcpSafe.modConn (h : TcpSafe w) {c : Nat} {f : Connection → Connection}
    (hf : ∀ s, (w.sm s).tcpConnection = some c →
      HandleFits (w.sm s).handle (f (w.conn c)).state) : TcpSafe (w.modConn c f) := by
  intro s d hd
  by_cases hdc : d = c
  · subst hdc
    simpa using hf s hd
  · simpa [hdc] using h s d hd

theorem TcpSafe.silent (h : TcpSafe w) (c : Nat) {f : Connection → Connection}
    (hf : ∀ x, (f x).state = x.state) : TcpSafe (w.modConn c f) := by
  refine h.modConn fun s hs => ?_
  rw [hf]
  exact h s c hs

/-! ### Reports once the handle is closed -/

theorem TcpSafe.terminate (h : TcpSafe w) {c : Nat}
    (hc : ∀ s, (w.sm s).tcpConnection = some c → (w.sm s).handle = .closed) (r : CloseReason) :
    TcpSafe (w.terminate c r) := by
  refine h.modConn fun s hs => ?_
  rw [hc s hs]
  trivial

theorem TcpSafe.closedSocket (h : TcpSafe w) (hpl : TcpPlaced w) {s : Nat}
    (hs : (w.sm s).handle = .closed) : TcpSafe (w.closedSocketCb s) := by
  unfold closedSocketCb
  split
  · next c hc =>
    refine h.terminate (fun t ht => ?_) _
    have hcs := hpl.home s c (hpl.of_mem s c (mem_of_lastOpenConnection hc))
    have hct := hpl.home t c ht
    rw [← hct, hcs]
    exact hs
  · exact h.modSm (fun _ => rfl) fun _ _ hfit => hfit

theorem TcpSafe.managerClose (h : TcpSafe w) (hpl : TcpPlaced w) (hp : w.protocol = .tcp) {s : Nat}
    (hs : (w.sm s).handle = .closed) (r : CloseReason) : TcpSafe (w.socketManagerClose s r) := by
  have hsite : (w.modSm s fun m =>
      { m with closeReason := r, closeRequests := m.closeRequests + 1 }).site = w.site :=
    site_modSm w s fun _ => rfl
  unfold socketManagerClose closeSocket
  simp only [modSm_protocol, hp]
  refine TcpSafe.closedSocket ?_ (hpl.of_site hsite) ?_
  · exact h.modSm (fun _ => rfl) fun _ _ hfit => hfit
  · simpa using hs

theorem TcpSafe.report (h : TcpSafe w) (hpl : TcpPlaced w) (hp : w.protocol = .tcp) {c : Nat}
    (hc : (w.sm (w.conn c).socketManager).handle = .closed) (r : CloseReason) :
    TcpSafe (w.reportEnd c r) := by
  unfold reportEnd
  split
  · exact h.managerClose hpl hp hc r
  · refine h.terminate (fun s hs => ?_) r
    rw [← hpl.home s c hs]
    exact hc

theorem TcpSafe.handleClosed (h : TcpSafe w) (hpl : TcpPlaced w) (hp : w.protocol = .tcp) (s : Nat) :
    TcpSafe (w.handleClosed s) := by
  have h' : TcpSafe (w.markHandleClosed s) := h.modSm (fun _ => rfl) fun _ _ _ => trivial
  have hpl' : TcpPlaced (w.markHandleClosed s) := hpl.of_site (site_markHandleClosed w s)
  have hs : ((w.markHandleClosed s).sm s).handle = .closed := by simp
  have hend := w.handleEnd s
  generalize w.handleClosed s = w' at hend ⊢
  cases hend with
  | idle => exact h
  | report r _ _ _ hc =>
    refine h'.report hpl' hp ?_ r
    rw [markHandleClosed_conn, hpl.home s _ hc]
    exact hs
  | listener _ _ _ =>
    unfold listenerClosedCb
    split
    · exact h'.managerClose hpl' hp hs _
    · exact h'.modSm (fun _ => rfl) fun _ _ hfit => hfit
  | socket htcp _ _ => exact absurd hp htcp
  | poll _ htcp => exact absurd hp htcp
  | discarded _ => exact h'

/-! ### Calls -/

theorem TcpSafe.close (h : TcpSafe w) (hpl : TcpPlaced w) (hp : w.protocol = .tcp) (c : Nat) :
    TcpSafe (w.connectionClose c) := by
  unfold connectionClose
  split
  · exact h
  · simp only [protocolClose, modConn_protocol, hp]
    unfold tcpClose
    intro s d hd
    have hhome : ((w.modConn c (Connection.enter .closing)).conn c).socketManager =
        (w.conn c).socketManager := by simp [Connection.enter]
    rw [hhome] at hd ⊢
    by_cases hdc : d = c
    · -- the handle of the connection is no longer open, whatever it was
      subst hdc
      have hs : s = (w.conn d).socketManager := by
        have hsd : (w.sm s).tcpConnection = some d := by
          by_cases hs : s = (w.conn d).socketManager
          · subst hs
            simpa [tcpConnection_uvClose] using hd
          · simpa [hs] using hd
        exact (hpl.home s d hsd).symm
      subst hs
      simpa [Connection.enter] using HandleFits.closing _ _
    · have hsafe := (h.uvClose (w.conn c).socketManager .onLibuvClose) s d hd
      simp only [modSm_conn, modConn_conn, Function.update_of_ne hdc]
      exact hsafe

theorem TcpSafe.refused (h : TcpSafe w) (hpl : TcpPlaced w) (hp : w.protocol = .tcp) (c : Nat) :
    TcpSafe (w.refuse c) :=
  (h.close hpl hp c).silent c fun _ => rfl

theorem TcpSafe.group (h : TcpSafe w) (order : List Nat) :
    TcpSafe (w.tcpCloseConnectionGroup order) := by
  unfold tcpCloseConnectionGroup
  induction order generalizing w with
  | nil => exact h
  | cons c order ih =>
    refine ih ?_
    dsimp only
    split
    · exact h
    · exact h.uvClose _ _

theorem TcpSafe.abortMembers (h : TcpSafe w) (hp : w.protocol = .tcp) (order refused : List Nat) :
    TcpSafe (w.abortAll order refused) := by
  unfold abortAll
  induction order generalizing w with
  | nil => exact h
  | cons c order ih =>
    dsimp only [List.foldl_cons]
    split
    · exact ih h hp
    · refine ih ?_ (by rw [protocol_of_site (site_connectionAbort w c refused), hp])
      simp only [connectionAbort, hp]
      exact h.uvClose _ _

theorem TcpSafe.withConnection (h : TcpSafe w) (hpl : TcpPlaced w) {m : SocketManager}
    {x : Connection} (hx : x.socketManager = w.numSms)
    (hfit : HandleFits m.handle x.state) (ht : m.tcpConnection = some w.numConns) :
    TcpSafe ((w.addSocketManager m).addConnection x) := by
  intro s c hc
  by_cases hs : s = w.numSms
  · subst hs
    have hcn : w.numConns = c := by simpa [hx, ht] using hc
    subst hcn
    simpa [hx] using hfit
  · have hold : (w.sm s).tcpConnection = some c := by simpa [hx, hs] using hc
    simpa [hx, hs, Nat.ne_of_lt (hpl.lt s c hold)] using h s c hold

theorem TcpSafe.freed (h : TcpSafe w) (c : Nat) : TcpSafe (w.connectionFree c) := by
  refine TcpSafe.modSm (h.silent c (f := fun x => { x with freed := true }) fun _ => rfl) ?_ ?_
  · exact fun _ => rfl
  · exact fun _ _ hfit => hfit

theorem TcpSafe.ready (h : TcpSafe w) {c : Nat}
    (hc : ∀ s, (w.sm s).tcpConnection = some c → (w.sm s).handle = .open) :
    TcpSafe (w.connectionReadyCb c) := by
  refine h.modConn fun s hs => ?_
  rw [hc s hs]
  exact Nat.le_refl _

theorem TcpSafe.received (h : TcpSafe w) {c : Nat}
    (hc : ∀ s, (w.sm s).tcpConnection = some c → (w.sm s).handle = .open) (s : Nat) :
    TcpSafe (w.connectionReceivedCb s c) := by
  unfold connectionReceivedCb
  refine TcpSafe.modSm (h.modConn fun t ht => ?_) (fun _ => rfl) fun _ _ hfit => hfit
  rw [hc t ht]
  exact Nat.le_refl _

theorem TcpSafe.accept (h : TcpSafe w) (hpl : TcpPlaced w) (s : Nat) :
    TcpSafe (w.newStreamConnectionCb s true) := by
  rw [newStreamConnectionCb_started]
  split
  · split
    · have hplg := hpl.withGroup { isClient := false }
      refine TcpSafe.received
        (TcpSafe.withConnection (w := w.addGroup _) h hplg rfl (Nat.zero_le _) rfl) (fun t ht => ?_) s
      by_cases htn : t = w.numSms
      · subst htn
        simp
      · have hold : (w.sm t).tcpConnection = some w.numConns := by simpa [htn] using ht
        exact absurd (hpl.lt t _ hold) (Nat.lt_irrefl _)
    · exact h
  · exact h

theorem TcpSafe.connect (h : TcpSafe w) (hpl : TcpPlaced w) (hp : w.protocol = .tcp) (s : Nat)
    (ok readStarted : Bool) : TcpSafe (w.connected s ok readStarted) := by
  have h' : TcpSafe (w.modSm s fun m => { m with connectPending := none }) :=
    h.modSm (fun _ => rfl) fun _ _ hfit => hfit
  have hpl' : TcpPlaced (w.modSm s fun m => { m with connectPending := none }) :=
    hpl.of_site (site_modSm w s fun _ => rfl)
  have hready : ∀ c, (w.sm s).tcpConnection = some c → (w.sm s).handle = .open →
      TcpSafe ((w.modSm s fun m => { m with connectPending := none }).connectionReadyCb c) := by
    intro c hc ho
    refine h'.ready fun t ht => ?_
    have hts : t = s := (hpl'.home t c ht).symm.trans (hpl.home s c hc)
    subst hts
    simpa using ho
  unfold connected
  split
  · next cb c _ hc =>
    dsimp only
    split
    · split
      · next ho => exact hready c hc ho
      · exact h
    · split
      · exact h'.uvClose _ _
      · exact h'
    · split
      · next ho =>
        split
        · exact hready c hc ho
        · exact h'.close hpl' hp c
      · exact h
    · exact h'.refused hpl' hp c
  · exact h

/-! ### Runs -/

theorem TcpSafe.initiated (h : TcpSafe w) (hpl : TcpPlaced w) (hp : w.protocol = .tcp)
    (cbs : UserCallbacks) (early : Option Nat) (start : Start) :
    TcpSafe (w.initiate cbs early start) := by
  have hclient : ∀ m : SocketManager, m.handle = .open ∨ m.handle = .none →
      m.allConnections = [] → m.tcpConnection = some w.numConns →
      TcpSafe (w.addClient cbs m none) ∧ TcpPlaced (w.addClient cbs m none) := by
    intro m hm hl ht
    refine ⟨TcpSafe.withConnection (w := w.addGroup _) h (hpl.withGroup _) rfl ?_ ht,
      tcpPlaced_addClient hpl cbs hl ht none⟩
    rcases hm with hm | hm
    · rw [hm]
      exact Nat.zero_le _
    · rw [hm]
      trivial
  have hrefused : ∀ m : SocketManager, m.handle = .open → m.allConnections = [] →
      m.tcpConnection = some w.numConns →
      TcpSafe ((w.addClient cbs m none).refuse w.numConns) := by
    intro m hm hl ht
    obtain ⟨hsafe, hplaced⟩ := hclient m (Or.inl hm) hl ht
    exact hsafe.refused hplaced hp _
  simp only [initiate, hp]
  cases start with
  | begun => exact (hclient _ (Or.inl rfl) rfl rfl).1
  | noHandle => exact (hclient _ (Or.inr rfl) rfl rfl).1
  | refused => exact hrefused _ rfl rfl rfl
  | abandoned => exact hrefused _ rfl rfl rfl

theorem TcpSafe.listening (h : TcpSafe w) (l : ListenerCallbacks) (cbs : UserCallbacks) :
    TcpSafe (w.listen l cbs) := by
  intro s c hc
  by_cases hs : s = w.numSms
  · subst hs
    simp [World.listen] at hc
  · simp only [World.listen, addSocketManager_sm, addSocketManager_conn,
      Function.update_of_ne hs] at hc ⊢
    exact h s c hc

theorem TcpSafe.step (h : TcpSafe w) (hpl : TcpPlaced w) (hp : w.protocol = .tcp) (e : Event) :
    TcpSafe (w.step e) := by
  refine step_keeps h fun he => ?_
  cases e with
  | initiate cbs early start => exact h.initiated hpl hp cbs early start
  | listen l cbs => exact h.listening l cbs
  | close c => exact h.close hpl hp c
  | abort c refused =>
    simp only [act, connectionAbort, hp]
    exact h.uvClose _ _
  | closeGroup c order =>
    simp only [act, World.closeGroup, hp]
    exact h.group order
  | abortGroup c order refused => exact h.abortMembers hp order refused
  | clone c =>
    simp only [act, cloneConnection, hp]
    exact h.withConnection hpl rfl (Nat.zero_le _) rfl
  | send c isFinal sid =>
    have hsend := h.silent c (f := fun x => { x with canSend := !isFinal }) fun _ => rfl
    simp only [act, sendMessage, modConn_protocol, hp]
    split
    · simpa using hsend
    · exact h
  | free c => exact h.freed c
  | listenerClose s =>
    simp only [act, World.listenerClose, hp]
    exact h.uvClose _ _
  | raceWon c =>
    dsimp only [act, handOver]
    refine h.silent c ?_
    exact fun _ => rfl
  | raceCanceled c order =>
    simp only [act, cancelAttempt, World.closeGroup, modConn_protocol, hp]
    refine TcpSafe.group (h.silent c ?_) order
    exact fun _ => rfl
  | handleClosed s => exact h.handleClosed hpl hp s
  | connected s ok readStarted => exact h.connect hpl hp s ok readStarted
  | readEnded s e =>
    dsimp only [act, tcpOnRead]
    split
    · split <;> exact h.uvClose _ _
    · exact h
  | accepted s =>
    exact h.accept hpl s
  | _ => simp [enabled, reports, hp] at he

end World

end CTaps.Connections
