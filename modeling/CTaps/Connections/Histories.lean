import CTaps.Connections.Sound

/-! The histories of all connections of a world. Each function of the model keeps them sound if
the connections it reports or announces are in the states given here. -/

namespace CTaps.Connections.World

open Connection (Sound MayEnter mayEnter_closed mayEnter_of_establishing)

def AllSound (o q : Prop) (w : World) : Prop := ∀ c, (w.conn c).Sound o q

variable {o q : Prop} {w w' : World}

theorem AllSound.of_conn (h : AllSound o q w) (hc : w'.conn = w.conn) : AllSound o q w' := by
  intro c
  rw [hc]
  exact h c

theorem AllSound.modConn (h : AllSound o q w) {c : Nat} {f : Connection → Connection}
    (hf : (f (w.conn c)).Sound o q) : AllSound o q (w.modConn c f) := by
  intro d
  by_cases hd : d = c
  · subst hd
    simpa using hf
  · simpa [hd] using h d

theorem AllSound.silent (h : AllSound o q w) (c : Nat) {f : Connection → Connection}
    (hs : ∀ x, (f x).state = x.state) (hh : ∀ x, (f x).history = x.history) :
    AllSound o q (w.modConn c f) :=
  h.modConn ((h c).silent (hs _) (hh _))

theorem AllSound.withConnection (h : AllSound o q w) {x : Connection} (hx : x.history = []) :
    AllSound o q (w.addConnection x) := by
  intro c
  by_cases hc : c = w.numConns
  · subst hc
    simpa using Sound.fresh hx
  · simpa [hc] using h c

/-! ### Reports -/

theorem AllSound.terminate (h : AllSound o q w) {c : Nat} (hc : q → (w.conn c).state ≠ .closed)
    (r : CloseReason) : AllSound o q (w.terminate c r) :=
  h.modConn ((h c).terminate hc r)

theorem open_of_lastOpenConnection {s c : Nat} (hc : w.lastOpenConnection s = some c) :
    (w.conn c).state ≠ .closed := by
  have := List.find?_some hc
  simpa [Connection.isClosed] using this

theorem mem_of_lastOpenConnection {s c : Nat} (hc : w.lastOpenConnection s = some c) :
    c ∈ (w.sm s).allConnections :=
  List.mem_of_find?_eq_some hc

theorem AllSound.closedSocket (h : AllSound o q w) (s : Nat) : AllSound o q (w.closedSocketCb s) := by
  unfold closedSocketCb
  split
  · next hc => exact h.terminate (fun _ => open_of_lastOpenConnection hc) _
  · exact h

theorem AllSound.managerClose (h : AllSound o q w) (s : Nat) (r : CloseReason) :
    AllSound o q (w.socketManagerClose s r) := by
  unfold socketManagerClose closeSocket
  split
  · refine AllSound.closedSocket ?_ s
    exact h
  · exact h
  · exact h

theorem AllSound.report (h : AllSound o q w) {c : Nat} (hc : q → (w.conn c).state ≠ .closed)
    (r : CloseReason) : AllSound o q (w.reportEnd c r) := by
  unfold reportEnd
  split
  · exact h.managerClose _ r
  · exact h.terminate hc r

theorem AllSound.listenerClosed (h : AllSound o q w) (s : Nat) :
    AllSound o q (w.listenerClosedCb s) := by
  unfold listenerClosedCb
  split
  · exact h.managerClose s _
  · exact h

theorem AllSound.ready (h : AllSound o q w) {c : Nat}
    (hc : MayEnter o q (w.conn c).state .established) :
    AllSound o q (w.connectionReadyCb c) := by
  refine h.modConn (((h c).established hc).ready ?_)
  exact ConnState.noConfusion

theorem AllSound.received (h : AllSound o q w) (s : Nat) {c : Nat}
    (hc : MayEnter o q (w.conn c).state .established) :
    AllSound o q (w.connectionReceivedCb s c) :=
  (h.modConn ((h c).established hc)).of_conn rfl

theorem socketManagerClose_conn (hp : w.protocol ≠ .tcp) (s : Nat) (r : CloseReason) :
    (w.socketManagerClose s r).conn = w.conn := by
  unfold socketManagerClose closeSocket
  split
  · next ht => exact absurd ht hp
  · rfl
  · rfl

theorem reportEnd_conn_of_ne (hp : w.protocol ≠ .tcp) {c d : Nat} (hd : d ≠ c) (r : CloseReason) :
    (w.reportEnd c r).conn d = w.conn d := by
  unfold reportEnd
  split
  · rw [socketManagerClose_conn hp]
  · simp [terminate, hd]

theorem AllSound.reports (h : AllSound o q w) (hp : w.protocol ≠ .tcp)
    (r : World → Nat → CloseReason) {cs : List Nat} (hcs : cs.Nodup)
    (hopen : q → ∀ c ∈ cs, (w.conn c).state ≠ .closed) :
    AllSound o q (cs.foldl (fun w c => w.reportEnd c (r w c)) w) := by
  induction cs generalizing w with
  | nil => exact h
  | cons c cs ih =>
    obtain ⟨hc, hcs⟩ := List.nodup_cons.mp hcs
    refine ih (h.report (fun hq => hopen hq c List.mem_cons_self) _) ?_ hcs ?_
    · rw [protocol_of_site (site_reportEnd w c _)]
      exact hp
    · intro hq d hd
      have hne : d ≠ c := fun he => hc (he ▸ hd)
      rw [reportEnd_conn_of_ne hp hne]
      exact hopen hq d (List.mem_cons_of_mem c hd)

/-! ### Calls -/

theorem tcpClose_conn (w : World) (c : Nat) : (w.tcpClose c).conn = w.conn := rfl

theorem AllSound.close (h : AllSound o q w) (c : Nat) : AllSound o q (w.connectionClose c) := by
  unfold connectionClose
  split
  · exact h
  · next hc =>
    have hopen : (w.conn c).state.rank ≤ ConnState.closing.rank := by
      revert hc
      unfold Connection.isClosedOrClosing
      cases (w.conn c).state <;> decide
    have hclosing : AllSound o q (w.modConn c (Connection.enter .closing)) :=
      h.modConn ((h c).enter (MayEnter.of_rank_le hopen))
    unfold protocolClose
    split
    · exact hclosing.of_conn (tcpClose_conn _ c)
    · exact hclosing.report (fun _ => by simp [Connection.enter]) _
    · unfold quicCloseConnection
      have hsend := hclosing.silent c (f := fun x => { x with canSend := false })
        (fun _ => rfl) (fun _ => rfl)
      dsimp only
      split
      · exact hsend
      · exact hsend

theorem AllSound.abort (h : AllSound o q w) {c : Nat}
    (hc : q → w.protocol = .udp → (w.conn c).state ≠ .closed) (refused : List Nat) :
    AllSound o q (w.connectionAbort c refused) := by
  unfold connectionAbort
  split
  · exact h
  · next hp => exact h.report (fun hq => hc hq hp) _
  · unfold quicAbort
    split
    · split
      · exact h.modConn ((h c).enter (mayEnter_closed _))
      · exact h
    · exact h

theorem AllSound.group (h : AllSound o q w) (g : Nat) {order : List Nat} (hnd : order.Nodup)
    (hopen : q → w.protocol = .udp → ∀ c ∈ order, (w.conn c).state ≠ .closed) :
    AllSound o q (w.closeGroup g order) := by
  unfold closeGroup
  split
  · exact h.of_conn (Lib.foldl_keeps conn (fun w d => by split <;> rfl) w order)
  · next hp => exact h.reports (by simp [hp]) (fun _ _ => .graceful) hnd fun hq => hopen hq hp
  · exact h

theorem AllSound.abortMembers (h : AllSound o q w) (order refused : List Nat) :
    AllSound o q (w.abortAll order refused) := by
  unfold abortAll
  induction order generalizing w with
  | nil => exact h
  | cons c order ih =>
    refine ih ?_
    dsimp only
    split
    · exact h
    · next hc => exact h.abort (fun _ _ => by simpa [Connection.isClosed] using hc) refused

theorem AllSound.send (h : AllSound o q w) (c : Nat) (isFinal : Bool) (sid : Nat) :
    AllSound o q (w.sendMessage c isFinal sid) := by
  unfold sendMessage
  split
  · have hsend := h.silent c (f := fun x => { x with canSend := !isFinal })
      (fun _ => rfl) (fun _ => rfl)
    dsimp only
    split
    · exact (hsend.silent c (f := fun x => { x with stream := some sid })
        (fun _ => rfl) (fun _ => rfl)).of_conn rfl
    · exact hsend
  · exact h

theorem AllSound.handedOver (h : AllSound o q w) {c : Nat} (hc : (w.conn c).state = .established) :
    AllSound o q (w.handOver c) := by
  have howner : Sound o q { w.conn c with owner := .application } := (h c).silent rfl rfl
  refine h.modConn (howner.ready ?_)
  rw [hc]
  exact ConnState.noConfusion

theorem AllSound.canceled (h : AllSound o q w) (c : Nat) {order : List Nat} (hnd : order.Nodup)
    (hopen : q → w.protocol = .udp → ∀ d ∈ order, (w.conn d).state ≠ .closed) :
    AllSound o q (w.cancelAttempt c order) := by
  refine (h.silent c (f := fun x => { x with owner := .canceledRace }) (fun _ => rfl)
    (fun _ => rfl)).group _ hnd fun hq hp d hd => ?_
  have hd := hopen hq hp d hd
  by_cases hdc : d = c
  · subst hdc
    simpa using hd
  · simpa [hdc] using hd

/-! ### New connections -/

theorem AllSound.withReady (h : AllSound o q w) {x : Connection} (hx : x.history = [])
    (hs : x.state = .establishing) :
    AllSound o q ((w.addConnection x).connectionReadyCb w.numConns) := by
  refine (h.withConnection hx).ready ?_
  rw [addConnection_conn, Function.update_self, hs]
  exact mayEnter_of_establishing _

theorem AllSound.withReceived (h : AllSound o q w) {x : Connection} (hx : x.history = [])
    (hs : x.state = .establishing) (s : Nat) :
    AllSound o q ((w.addConnection x).connectionReceivedCb s w.numConns) := by
  refine (h.withConnection hx).received s ?_
  rw [addConnection_conn, Function.update_self, hs]
  exact mayEnter_of_establishing _

theorem AllSound.clone (h : AllSound o q w) (c : Nat) : AllSound o q (w.cloneConnection c) := by
  unfold cloneConnection
  split
  · exact AllSound.withConnection (w := w.addSocketManager _) h rfl
  · exact AllSound.withReady (w := w.addSocketManager _) h rfl rfl
  · exact h.withReady rfl rfl

theorem AllSound.client (h : AllSound o q w) (cbs : UserCallbacks) (m : SocketManager)
    (early : Option Nat) : AllSound o q (w.addClient cbs m early) :=
  AllSound.withConnection (w := (w.addGroup _).addSocketManager m) h rfl

theorem addClient_conn (w : World) (cbs : UserCallbacks) (m : SocketManager) (early : Option Nat) :
    (w.addClient cbs m early).conn w.numConns =
      { role := .client, group := w.numGroups, socketManager := w.numSms, owner := .race,
        callbacks := cbs, stream := early } := by
  simp [addClient]

theorem tcp_connectionClose_conn (hp : w.protocol = .tcp) (c : Nat) :
    (w.connectionClose c).conn c =
      if (w.conn c).isClosedOrClosing then w.conn c else (w.conn c).enter .closing := by
  unfold connectionClose
  split
  · rfl
  · simp [protocolClose, hp, tcpClose_conn]

theorem AllSound.refused (h : AllSound o q w) (hp : w.protocol = .tcp) {c : Nat}
    (hc : q → (w.conn c).owner ≠ .application) : AllSound o q (w.refuse c) := by
  have howner : ((w.connectionClose c).conn c).owner = (w.conn c).owner := by
    rw [tcp_connectionClose_conn hp]
    split <;> rfl
  refine (h.close c).modConn (((h.close c) c).invoke_uncounted (fun hk => absurd hk (by decide)) ?_)
  exact fun hq => Or.inr (howner ▸ hc hq)

theorem AllSound.initiated (h : AllSound o q w) (cbs : UserCallbacks) (early : Option Nat)
    (start : Start) : AllSound o q (w.initiate cbs early start) := by
  obtain ⟨m, stream, he | ⟨-, he⟩ | ⟨-, ⟨hp, he⟩ | ⟨-, he⟩⟩, -⟩ := w.initiate_cases cbs early start <;>
    rw [he]
  · exact h.client cbs m stream
  · refine (h.client cbs m stream).ready ?_
    rw [addClient_conn]
    exact mayEnter_of_establishing _
  · refine (h.client cbs m stream).refused hp fun _ => ?_
    rw [addClient_conn]
    exact Owner.noConfusion
  · refine (h.client cbs m stream).report (fun _ => ?_) _
    rw [addClient_conn]
    exact ConnState.noConfusion

theorem AllSound.accepted (h : AllSound o q w) (s : Nat) :
    AllSound o q (w.newStreamConnectionCb s true) := by
  rw [newStreamConnectionCb_started]
  split
  · split
    · exact AllSound.withReceived (w := (w.addGroup _).addSocketManager _) h rfl rfl s
    · exact h
  · exact h

theorem AllSound.datagram (h : AllSound o q w) (s addr : Nat) :
    AllSound o q (w.udpMultiplexReceivedMessage s addr) := by
  unfold udpMultiplexReceivedMessage
  split
  · split
    · refine AllSound.received ?_ s ?_
      · exact AllSound.withConnection (w := w.addGroup _) h rfl
      · simp [mayEnter_of_establishing]
    · exact h
  · exact h

theorem AllSound.newCnx (h : AllSound o q w) (s : Nat) : AllSound o q (w.newCnx s) := by
  unfold World.newCnx
  split
  · split
    · exact AllSound.withConnection (w := w.addGroup _) h rfl
    · exact h
  · exact h

/-! ### Callbacks of libuv -/

theorem AllSound.connect (h : AllSound o q w) (hp : w.protocol = .tcp) {s : Nat}
    (hopen : ∀ c, (w.sm s).tcpConnection = some c → (w.sm s).handle = .open →
      (w.conn c).state.rank ≤ ConnState.established.rank) {ok : Bool}
    (hclone : q → (w.sm s).connectPending = some .onCloneConnect → ok = true) (readStarted : Bool) :
    AllSound o q (w.connected s ok readStarted) := by
  unfold connected
  split
  · next cb c hpending hc =>
    dsimp only
    have h' : AllSound o q (w.modSm s fun m => { m with connectPending := none }) := h
    split
    · split
      · next ho => exact h'.ready (MayEnter.of_rank_le (hopen c hc ho))
      · exact h
    · split <;> exact h
    · split
      · next ho =>
        split
        · exact h'.ready (MayEnter.of_rank_le (hopen c hc ho))
        · exact h'.close c
      · exact h
    · exact h'.refused hp fun hq => absurd (hclone hq hpending) Bool.noConfusion
  · exact h

theorem AllSound.handle (h : AllSound o q w) {s : Nat}
    (hopen : w.protocol = .tcp → ∀ c cb, (w.sm s).tcpConnection = some c →
      (w.sm s).handle = .closing cb → (w.conn c).state ≠ .closed) :
    AllSound o q (w.handleClosed s) := by
  have hmark : AllSound o q (w.markHandleClosed s) := h
  have hend := w.handleEnd s
  generalize w.handleClosed s = w' at hend ⊢
  cases hend with
  | report r hp _ hh hc => exact hmark.report (fun _ => hopen hp _ _ hc hh) r
  | listener _ _ _ => exact hmark.listenerClosed s
  | socket _ _ _ => exact hmark.closedSocket s
  | _ => exact h

end CTaps.Connections.World
