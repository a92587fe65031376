import CTaps.Connections.Apart
import CTaps.Connections.Lifetime

/-! What is pending is completed. libuv cancels the connect request of a handle that is being closed
and calls the close callbacks, and picoquic reports the end of a connection whose close was asked
for. Outside QUIC each member of a group ends as if it had been called alone. -/

namespace CTaps.Connections.World

open Gathering (Protocol)

def settleConnect (w : World) (s : Nat) : World :=
  match (w.sm s).handle with
  | .closing _ => w.step (.connected s false false)
  | _ => w

def settleSocket (w : World) (s : Nat) : World :=
  ((w.settleConnect s).step (.handleClosed s)).step (.handleClosed s)

def settleCnx (w : World) (g : Nat) (order : List Nat) (error : Bool) : World :=
  if (w.cnx g).closing ∧ (w.cnx g).closed = false then w.step (.cnxClosed g order error) else w

def settleHome (w : World) (c : Nat) : World := w.settleSocket (w.conn c).socketManager

def settle (w : World) (g : Nat) (order : List Nat) (error : Bool) (cs : List Nat) : World :=
  cs.foldl settleHome (w.settleCnx g order error)

variable {w v : World} {s u c : Nat}

theorem step_handleClosed_eq (w : World) (s : Nat) : w.step (.handleClosed s) = w.handleClosed s :=
  if_pos rfl

theorem step_connected_eq (hp : w.protocol = .tcp) (s : Nat) (ok readStarted : Bool) :
    w.step (.connected s ok readStarted) = w.connected s ok readStarted :=
  if_pos (decide_eq_true hp)

theorem settleConnect_eq (hp : w.protocol ≠ .tcp) (s : Nat) : w.settleConnect s = w := by
  unfold settleConnect
  split
  · exact if_neg (by simpa [enabled] using hp)
  · rfl

theorem settleCnx_eq (hp : w.protocol ≠ .quic) (g : Nat) (order : List Nat) (error : Bool) :
    w.settleCnx g order error = w := by
  unfold settleCnx
  split
  · exact if_neg (by simp [enabled, hp])
  · rfl

/-! ### Connections that are closed -/

section Closed

variable {g : Nat} {order : List Nat}

theorem terminate_conn_self (w : World) (c : Nat) (r : CloseReason) :
    (w.terminate c r).conn c = ((w.conn c).enter .closed).invoke r.callback := by
  simp [terminate]

theorem closedSocketCb_conn_of_closed {s : Nat} (hc : (w.conn c).isClosed = true) :
    (w.closedSocketCb s).conn c = w.conn c := by
  unfold closedSocketCb
  split
  · next d hlast =>
    have hne : c ≠ d := by
      rintro rfl
      exact open_of_lastOpenConnection hlast (of_decide_eq_true hc)
    simp [terminate, hne]
  · rfl

theorem udpHandleClosed_conn_of_closed {s : Nat} (hc : (w.conn c).isClosed = true) :
    (w.udpHandleClosed s).conn c = w.conn c := by
  unfold udpHandleClosed
  split
  · exact closedSocketCb_conn_of_closed (w := w.markHandleClosed s) hc
  · rfl
  · rfl

theorem settleSocket_eq_udp (hp : w.protocol = .udp) (s : Nat) :
    w.settleSocket s = (w.udpHandleClosed s).udpHandleClosed s := by
  have hhandle : ∀ {v : World}, v.protocol = .udp → v.step (.handleClosed s) = v.udpHandleClosed s := by
    intro v hv
    rw [step_handleClosed_eq, handleClosed, hv]
  rw [settleSocket, settleConnect_eq (by rw [hp]; decide), hhandle ((protocol_step _ _).trans hp),
    hhandle hp]

theorem settleSocket_conn_of_closed_udp (hp : w.protocol = .udp) (hc : (w.conn c).isClosed = true) :
    (w.settleSocket s).conn c = w.conn c := by
  have hfirst := udpHandleClosed_conn_of_closed (s := s) hc
  rw [settleSocket_eq_udp hp, udpHandleClosed_conn_of_closed (by rw [hfirst]; exact hc), hfirst]

theorem settle_singleton (hp : w.protocol ≠ .quic) (error : Bool) :
    w.settle g order error [c] = w.settleSocket (w.conn c).socketManager := by
  rw [settle, settleCnx_eq hp]
  rfl

theorem settle_conn_of_closed_udp (hp : w.protocol = .udp) (hc : (w.conn c).isClosed = true)
    (g : Nat) (order : List Nat) (error : Bool) : (w.settle g order error [c]).conn c = w.conn c := by
  rw [settle_singleton (by rw [hp]; decide), settleSocket_conn_of_closed_udp hp hc]

end Closed

/-! ### One socket -/

section Socket

theorem SameAt.connectionClose (h : SameAt s w v) (hpl : Placed w) (hp : w.protocol ≠ .quic)
    (hc : (w.conn c).socketManager = s) :
    SameAt s (w.connectionClose c) (v.connectionClose c) := by
  have hconn := h.conn c hc
  have hclosing : SameAt s (w.modConn c (Connection.enter .closing))
      (v.modConn c (Connection.enter .closing)) := h.modConn c fun _ => rfl
  have hhome : ((w.modConn c (Connection.enter .closing)).conn c).socketManager = s :=
    (home_of_site (site_modConn_enter w c _) c).trans hc
  unfold World.connectionClose protocolClose
  rw [hconn, hclosing.protocol]
  split
  · exact h
  · split
    · unfold tcpClose
      rw [hhome, home_of_site hclosing.site, hhome]
      exact hclosing.modSm fun m => SocketManager.site_uvClose m _
    · exact hclosing.reportEnd (hpl.of_site (site_modConn_enter w c _)) hhome .graceful
    · next hq => exact absurd hq hp

theorem SameAt.connected (h : SameAt s w v) (hpl : Placed w) (ht : TcpPlaced w)
    (hp : w.protocol = .tcp) :
    SameAt s (w.connected s false false) (v.connected s false false) := by
  have hpending : SameAt s (w.modSm s fun m => { m with connectPending := none })
      (v.modSm s fun m => { m with connectPending := none }) := h.modSm fun _ => rfl
  have hsite : (w.modSm s fun m => { m with connectPending := none }).site = w.site :=
    site_modSm w s fun _ => rfl
  unfold World.connected
  rw [h.sm]
  split
  · next cb c _ htcp =>
    cases cb with
    | onConnect =>
      dsimp only
      split
      · exact hpending.modSm fun m => SocketManager.site_uvClose m _
      · exact hpending
    | onCloneConnect =>
      have hhome : ((w.modSm s fun m => { m with connectPending := none }).conn c).socketManager = s :=
        ht.home s c htcp
      have hclose := hpending.connectionClose (hpl.of_site hsite) (by rw [modSm_protocol, hp]; decide)
        hhome
      exact hclose.modConn c fun _ => rfl
  · exact h

theorem SameAt.handleClosed (h : SameAt s w v) (hpl : Placed w)
    (ht : w.protocol = .tcp → TcpPlaced w) :
    SameAt s (w.handleClosed s) (v.handleClosed s) := by
  have hmark : SameAt s (w.markHandleClosed s) (v.markHandleClosed s) := h.modSm fun _ => rfl
  have hplaced : Placed (w.markHandleClosed s) := hpl.of_site (site_markHandleClosed w s)
  unfold World.handleClosed
  rw [h.protocol]
  split
  · next hp =>
    unfold tcpHandleClosed
    rw [h.sm]
    split
    · split
      · next htcp => exact hmark.reportEnd hplaced ((ht hp).home s _ htcp) _
      · next htcp => exact hmark.reportEnd hplaced ((ht hp).home s _ htcp) _
      · next c _ htcp =>
        have hhome : ((w.markHandleClosed s).conn c).socketManager = s := (ht hp).home s c htcp
        unfold abortedConnectionCb
        rw [hmark.conn c hhome]
        exact hmark.reportEnd hplaced hhome _
      · unfold listenerClosedCb
        rw [hmark.numOpenDependents hplaced]
        split
        · exact hmark.socketManagerClose hplaced _
        · exact hmark.modSm SocketManager.site_closeListener
      · exact h
    · exact h
  · unfold udpHandleClosed
    rw [h.sm]
    split
    · exact hmark.closedSocketCb hplaced
    · exact hmark
    · exact h
  · unfold quicHandleClosed
    rw [h.sm]
    split
    · split
      · exact h.modSm fun _ => rfl
      · exact hmark.closedSocketCb hplaced
    · exact hmark.closedSocketCb hplaced
    · exact h

theorem site_settleConnect (w : World) (s : Nat) : (w.settleConnect s).site = w.site := by
  unfold settleConnect
  split
  · exact step_keeps (I := fun w' => w'.site = w.site) rfl fun _ => site_connected w s _ _
  · rfl

theorem site_settleSocket (w : World) (s : Nat) : (w.settleSocket s).site = w.site := by
  unfold settleSocket
  rw [step_handleClosed_eq, step_handleClosed_eq, site_handleClosed, site_handleClosed,
    site_settleConnect]

theorem SameAt.settleSocket (h : SameAt s w v) (hpl : Placed w)
    (ht : w.protocol = .tcp → TcpPlaced w) :
    SameAt s (w.settleSocket s) (v.settleSocket s) := by
  have hconnect : SameAt s (w.settleConnect s) (v.settleConnect s) := by
    by_cases hp : w.protocol = .tcp
    · unfold settleConnect
      rw [h.sm, step_connected_eq hp, step_connected_eq (h.protocol.trans hp)]
      split
      · exact h.connected hpl (ht hp) hp
      · exact h
    · rw [settleConnect_eq hp, settleConnect_eq (by rwa [h.protocol])]
      exact h
  have hsite := site_settleConnect w s
  have hclosed := hconnect.handleClosed (hpl.of_site hsite) fun hp =>
    (ht ((protocol_of_site hsite).symm.trans hp)).of_site hsite
  have hsite' : ((w.settleConnect s).handleClosed s).site = w.site := by
    rw [site_handleClosed, hsite]
  unfold World.settleSocket
  rw [step_handleClosed_eq, step_handleClosed_eq, step_handleClosed_eq, step_handleClosed_eq]
  exact hclosed.handleClosed (hpl.of_site hsite') fun hp =>
    (ht ((protocol_of_site hsite').symm.trans hp)).of_site hsite'

/-! The other sockets stay as they are. -/

theorem sameAt_connectionClose (hc : (w.conn c).socketManager ≠ s) (hpl : Placed w)
    (hp : w.protocol ≠ .quic) : SameAt s w (w.connectionClose c) := by
  have hclosing : SameAt s w (w.modConn c (Connection.enter .closing)) :=
    sameAt_modConn hc fun _ => rfl
  have hhome : ((w.modConn c (Connection.enter .closing)).conn c).socketManager ≠ s := by
    rw [home_of_site hclosing.site]
    exact hc
  unfold World.connectionClose protocolClose
  split
  · exact .refl s w
  · split
    · exact hclosing.trans (sameAt_modSm hhome.symm fun m => SocketManager.site_uvClose m _)
    · exact hclosing.trans (sameAt_reportEnd hhome (hpl.of_site hclosing.site) .graceful)
    · next hq => exact absurd hq hp

theorem sameAt_connected (hu : s ≠ u) (hpl : Placed w) (ht : TcpPlaced w)
    (hp : w.protocol = .tcp) : SameAt s w (w.connected u false false) := by
  have hpending : SameAt s w (w.modSm u fun m => { m with connectPending := none }) :=
    sameAt_modSm hu fun _ => rfl
  unfold World.connected
  split
  · next cb c _ htcp =>
    cases cb with
    | onConnect =>
      dsimp only
      split
      · exact hpending.trans (sameAt_modSm hu fun m => SocketManager.site_uvClose m _)
      · exact hpending
    | onCloneConnect =>
      have hhome : ((w.modSm u fun m => { m with connectPending := none }).conn c).socketManager
          ≠ s := by
        rw [modSm_conn, ht.home u c htcp]
        exact hu.symm
      have hclose := sameAt_connectionClose hhome (hpl.of_site hpending.site)
        (by rw [modSm_protocol, hp]; decide)
      refine (hpending.trans hclose).trans (sameAt_modConn ?_ fun _ => rfl)
      rw [home_of_site hclose.site]
      exact hhome
  · exact .refl s w

theorem sameAt_handleClosed (hu : s ≠ u) (hpl : Placed w)
    (ht : w.protocol = .tcp → TcpPlaced w) : SameAt s w (w.handleClosed u) := by
  have hmark : SameAt s w (w.markHandleClosed u) := sameAt_modSm hu fun _ => rfl
  have hplaced : Placed (w.markHandleClosed u) := hpl.of_site hmark.site
  have hend := w.handleEnd u
  generalize w.handleClosed u = w' at hend ⊢
  cases hend with
  | idle => exact .refl s w
  | report r hp _ _ hc =>
    refine hmark.trans (sameAt_reportEnd ?_ hplaced r)
    rw [home_of_site hmark.site, (ht hp).home u _ hc]
    exact hu.symm
  | listener _ _ _ =>
    unfold listenerClosedCb
    split
    · exact hmark.trans (sameAt_socketManagerClose hu hplaced _)
    · exact hmark.trans (sameAt_modSm hu SocketManager.site_closeListener)
  | socket _ _ _ => exact hmark.trans (sameAt_closedSocketCb hu hplaced)
  | poll _ => exact sameAt_modSm hu fun _ => rfl
  | discarded _ => exact hmark

theorem sameAt_settleSocket (hu : s ≠ u) (hpl : Placed w)
    (ht : w.protocol = .tcp → TcpPlaced w) : SameAt s w (w.settleSocket u) := by
  have hconnect : SameAt s w (w.settleConnect u) := by
    by_cases hp : w.protocol = .tcp
    · unfold settleConnect
      rw [step_connected_eq hp]
      split
      · exact sameAt_connected hu hpl (ht hp) hp
      · exact .refl s w
    · rw [settleConnect_eq hp]
      exact .refl s w
  have htcp : ∀ {v : World}, v.site = w.site → v.protocol = .tcp → TcpPlaced v :=
    fun hsite hp => (ht ((protocol_of_site hsite).symm.trans hp)).of_site hsite
  have hclosed := hconnect.trans
    (sameAt_handleClosed hu (hpl.of_site hconnect.site) (htcp hconnect.site))
  unfold World.settleSocket
  rw [step_handleClosed_eq, step_handleClosed_eq]
  exact hclosed.trans (sameAt_handleClosed hu (hpl.of_site hclosed.site) (htcp hclosed.site))

end Socket

/-! ### The members of a group -/

section Members

structure Around (w₀ w : World) : Prop where
  site : w.site = w₀.site
  placed : Placed w
  tcp : w.protocol = .tcp → TcpPlaced w

variable {w₀ : World}

theorem Around.keep (h : Around w₀ w) (hs : v.site = w.site) : Around w₀ v :=
  ⟨hs.trans h.site, h.placed.of_site hs,
    fun hp => (h.tcp ((protocol_of_site hs).symm.trans hp)).of_site hs⟩

theorem Around.protocol (h : Around w₀ w) : w.protocol = w₀.protocol := protocol_of_site h.site

theorem Around.home (h : Around w₀ w) (c : Nat) :
    (w.conn c).socketManager = (w₀.conn c).socketManager :=
  home_of_site h.site c

theorem placewise_settleHome (w₀ : World) :
    Lib.Placewise (Around w₀) SameAt (fun c => (w₀.conn c).socketManager) settleHome where
  equiv := sameAt_equivalence
  keep w c h := h.keep (site_settleSocket w _)
  frame w c s h hs := by
    unfold settleHome
    rw [h.home c]
    exact sameAt_settleSocket hs h.placed h.tcp
  turn w v c h h' hsame := by
    unfold settleHome
    rw [h.home c, h'.home c]
    exact hsame.settleSocket h.placed h.tcp

theorem placewise_connectionClose (hp : w₀.protocol ≠ .quic) :
    Lib.Placewise (Around w₀) SameAt (fun c => (w₀.conn c).socketManager) connectionClose where
  equiv := sameAt_equivalence
  keep w c h := h.keep (site_connectionClose w c)
  frame w c s h hs := by
    refine sameAt_connectionClose ?_ h.placed (by rwa [h.protocol])
    rw [h.home c]
    exact hs.symm
  turn w v c h _ hsame := hsame.connectionClose h.placed (by rwa [h.protocol]) (h.home c)

theorem placewise_udpClose (w₀ : World) :
    Lib.Placewise (Around w₀) SameAt (fun c => (w₀.conn c).socketManager) udpClose where
  equiv := sameAt_equivalence
  keep w c h := h.keep (site_udpClose w c)
  frame w c s h hs := by
    refine sameAt_reportEnd ?_ h.placed .graceful
    rw [h.home c]
    exact hs.symm
  turn w v c h _ hsame := hsame.reportEnd h.placed (h.home c) .graceful

def abortTurn (refused : List Nat) (w : World) (c : Nat) : World :=
  if (w.conn c).isClosed then w else w.connectionAbort c refused

theorem site_abortTurn (refused : List Nat) (w : World) (c : Nat) :
    (abortTurn refused w c).site = w.site := by
  unfold abortTurn
  split
  · rfl
  · exact site_connectionAbort w c refused

theorem placewise_abortTurn (hp : w₀.protocol ≠ .quic) (refused : List Nat) :
    Lib.Placewise (Around w₀) SameAt (fun c => (w₀.conn c).socketManager) (abortTurn refused) where
  equiv := sameAt_equivalence
  keep w c h := h.keep (site_abortTurn refused w c)
  frame w c s h hs := by
    have hhome : (w.conn c).socketManager ≠ s := by
      rw [h.home c]
      exact hs.symm
    unfold abortTurn connectionAbort
    split
    · exact .refl s w
    · split
      · exact sameAt_modSm hhome.symm fun m => SocketManager.site_uvClose m _
      · exact sameAt_reportEnd hhome h.placed _
      · next hq => exact absurd (h.protocol.symm.trans hq) hp
  turn w v c h h' hsame := by
    have hconn := hsame.conn c (h.home c)
    unfold abortTurn connectionAbort
    rw [hconn, hsame.protocol]
    split
    · exact hsame
    · split
      · unfold tcpAbort
        rw [hconn, h.home c]
        exact hsame.modSm fun m => SocketManager.site_uvClose m _
      · unfold udpAbort abortedConnectionCb
        rw [hconn]
        exact hsame.reportEnd h.placed (h.home c) _
      · next hq => exact absurd (h.protocol.symm.trans hq) hp

theorem settled_alone {op : World → Nat → World} (hp : w₀.protocol ≠ .quic) (hsolo : Solo w₀)
    (hw₀ : Around w₀ w₀)
    (hop : Lib.Placewise (Around w₀) SameAt (fun c => (w₀.conn c).socketManager) op) {g : Nat}
    {order : List Nat} (horder : order.Perm (w₀.members g)) {c : Nat} (hc : c ∈ order)
    (order' : List Nat) (error : Bool) :
    SameAt (w₀.conn c).socketManager ((op w₀ c).settle g order' error [c])
      ((order.foldl op w₀).settle g order' error order) := by
  have hhomes := hsolo.nodup_homes hp horder
  have hturn := hop.foldl_turn hw₀ hhomes hc
  have halone := hop.keep w₀ c hw₀
  have hgroup := hop.foldl_keep hw₀ order
  unfold settle
  rw [settleCnx_eq (by rwa [halone.protocol]), settleCnx_eq (by rwa [hgroup.protocol])]
  have hsettle := (placewise_settleHome w₀).turn _ _ c halone hgroup hturn
  exact hsettle.trans ((placewise_settleHome w₀).foldl_turn hgroup hhomes hc)

end Members

theorem inv_run (p : Protocol) (es : List Event) : Inv False False (run p es) :=
  Lib.run_invariant_of_step (I := Inv False False) (fun _ _ h => h.step False.elim False.elim)
    (inv_init False False p) es

theorem around_run (p : Protocol) (es : List Event) : Around (run p es) (run p es) :=
  ⟨rfl, (inv_run p es).placed, fun hp => ((inv_run p es).tcp hp).1⟩

end CTaps.Connections.World
