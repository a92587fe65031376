import CTaps.Connections.Reach
import CTaps.Connections.Settle

/-! Closing a group. The header calls `ct_connection_close_group` equivalent to closing its members
one after the other. No protocol marks the members as closing, UDP reports those that are closed
again, and QUIC closes the connection where a member-wise close would only end its streams. -/

namespace CTaps.Connections

open Gathering (Protocol)

def Happening.isCall : Happening → Bool
  | .entered _ => false
  | .called _ | .raced _ => true

def Connection.calls (x : Connection) : List Happening := x.history.filter Happening.isCall

@[simp] theorem Connection.calls_enter (x : Connection) (s : ConnState) :
    (x.enter s).calls = x.calls :=
  List.filter_cons_of_neg Bool.false_ne_true

theorem Connection.calls_invoke (x : Connection) (k : Callback) :
    (x.invoke k).calls = (x.callOf k).filter Happening.isCall ++ x.calls :=
  List.filter_append ..

namespace World

def closeMembers (w : World) (order : List Nat) : World := order.foldl connectionClose w

/-- Closing the group has the effect of closing its members: no open member is left, those that were
closing or closed are spared, picoquic is asked to close as often and with the same results, and
when all is complete every member has come to the same state by the same callbacks. -/
structure ClosesAlike (w : World) (g : Nat) (order : List Nat) (error : Bool) : Prop where
  started : ∀ c ∈ w.members g, (w.conn c).isClosed = false →
    ((w.closeGroup g order).conn c).isClosedOrClosing = true
  spared : ∀ c ∈ w.members g, (w.conn c).isClosedOrClosing = true →
    (w.closeGroup g order).conn c = w.conn c ∧
      (w.closeGroup g order).sm (w.conn c).socketManager = w.sm (w.conn c).socketManager
  cnx : (w.closeGroup g order).cnx g = (w.closeMembers order).cnx g
  state : ∀ c ∈ w.members g,
    (((w.closeGroup g order).settle g order error order).conn c).state =
      (((w.closeMembers order).settle g order error order).conn c).state
  calls : ∀ c ∈ w.members g,
    (((w.closeGroup g order).settle g order error order).conn c).calls =
      (((w.closeMembers order).settle g order error order).conn c).calls

def GroupInHand (w : World) (g : Nat) : Prop :=
  match w.protocol with
  | .tcp => ∀ c ∈ w.members g, (w.conn c).isClosedOrClosing = true
  | .udp => ∀ c ∈ w.members g, (w.conn c).isClosedOrClosing = false ∧
      w.numOpenDependents (w.conn c).socketManager ≠ 1
  | .quic => False

variable {w : World} {g : Nat} {order : List Nat}

/-! ### Members that are all closing or closed -/

theorem closeMembers_eq_self (h : ∀ c ∈ order, (w.conn c).isClosedOrClosing = true) :
    w.closeMembers order = w :=
  Lib.foldl_eq_self fun c hc => if_pos (h c hc)

theorem ClosesAlike.of_eq {error : Bool}
    (hall : ∀ c ∈ w.members g, (w.conn c).isClosedOrClosing = true)
    (hgroup : w.closeGroup g order = w) (hmembers : w.closeMembers order = w) :
    ClosesAlike w g order error := by
  refine ⟨fun c hc _ => ?_, fun c _ _ => ?_, ?_, fun c _ => ?_, fun c _ => ?_⟩
  · rw [hgroup]
    exact hall c hc
  · rw [hgroup]
    exact ⟨rfl, rfl⟩
  · rw [hgroup, hmembers]
  · rw [hgroup, hmembers]
  · rw [hgroup, hmembers]

/-! ### TCP and QUIC -/

theorem tcpCloseConnectionGroup_conn (w : World) (order : List Nat) :
    (w.tcpCloseConnectionGroup order).conn = w.conn :=
  Lib.foldl_keeps World.conn (fun w c => by split <;> rfl) w order

theorem ClosesAlike.all_closing {error : Bool} (h : ClosesAlike w g order error)
    (hconn : (w.closeGroup g order).conn = w.conn) :
    ∀ c ∈ w.members g, (w.conn c).isClosedOrClosing = true := by
  intro c hc
  cases hclosed : (w.conn c).isClosed with
  | true =>
    have hstate : (w.conn c).state = .closed := of_decide_eq_true hclosed
    exact decide_eq_true (Or.inl hstate)
  | false =>
    have hstarted := h.started c hc hclosed
    rwa [hconn] at hstarted

theorem closesAlike_tcp (hp : w.protocol = .tcp) (horder : order.Perm (w.members g))
    (error : Bool) : ClosesAlike w g order error ↔
      ∀ c ∈ w.members g, (w.conn c).isClosedOrClosing = true := by
  have hgroup : w.closeGroup g order = w.tcpCloseConnectionGroup order := by
    rw [closeGroup, hp]
  constructor
  · intro h
    refine h.all_closing ?_
    rw [hgroup]
    exact tcpCloseConnectionGroup_conn w order
  · intro hall
    have horder' : ∀ c ∈ order, (w.conn c).isClosedOrClosing = true :=
      fun c hc => hall c (horder.mem_iff.mp hc)
    refine ClosesAlike.of_eq hall ?_ (closeMembers_eq_self horder')
    rw [hgroup]
    exact Lib.foldl_eq_self fun c hc => if_pos (horder' c hc)

theorem not_closesAlike_quic (hp : w.protocol = .quic) (horder : order.Perm (w.members g))
    (error : Bool) : ¬ ClosesAlike w g order error := by
  have hgroup : w.closeGroup g order = w.picoquicClose g := by
    rw [closeGroup, hp]
  intro h
  have hall := h.all_closing (by rw [hgroup]; rfl)
  have hcnx := h.cnx
  rw [hgroup, closeMembers_eq_self fun c hc => hall c (horder.mem_iff.mp hc), picoquicClose,
    modCnx_cnx, Function.update_self] at hcnx
  exact Nat.succ_ne_self _ (congrArg Cnx.closeCalls hcnx)

/-! ### UDP -/

section Udp

variable {c : Nat}

theorem udpClose_of_others (h : w.numOpenDependents (w.conn c).socketManager ≠ 1) :
    w.udpClose c = w.terminate c .graceful :=
  if_neg h

theorem connectionClose_of_others (hp : w.protocol = .udp)
    (hc : (w.conn c).isClosedOrClosing = false)
    (h : w.numOpenDependents (w.conn c).socketManager ≠ 1) :
    w.connectionClose c = (w.modConn c (Connection.enter .closing)).terminate c .graceful := by
  have hclose : w.connectionClose c = (w.modConn c (Connection.enter .closing)).udpClose c := by
    rw [connectionClose, hc, if_neg Bool.false_ne_true, protocolClose, modConn_protocol, hp]
  rw [hclose]
  refine udpClose_of_others ?_
  rw [home_of_site (site_modConn_enter w c _), numOpenDependents_closing hc]
  exact h

theorem udpClose_conn_of_others (h : w.numOpenDependents (w.conn c).socketManager ≠ 1) :
    (w.udpClose c).conn c = ((w.conn c).enter .closed).invoke .closed := by
  rw [udpClose_of_others h]
  exact terminate_conn_self w c .graceful

theorem connectionClose_conn_of_others (hp : w.protocol = .udp)
    (hc : (w.conn c).isClosedOrClosing = false)
    (h : w.numOpenDependents (w.conn c).socketManager ≠ 1) :
    (w.connectionClose c).conn c =
      (((w.conn c).enter .closing).enter .closed).invoke .closed := by
  rw [connectionClose_of_others hp hc h, terminate_conn_self, modConn_conn, Function.update_self]
  rfl

theorem udpClose_cnx (w : World) (c : Nat) : (w.udpClose c).cnx = w.cnx := reportEnd_cnx w c _

theorem foldl_connectionClose_cnx (hp : w.protocol = .udp) (l : List Nat) :
    (l.foldl connectionClose w).cnx = w.cnx := by
  have hkeep : (l.foldl connectionClose w).protocol = .udp ∧
      (l.foldl connectionClose w).cnx = w.cnx := by
    refine Lib.foldl_invariant (I := fun v : World => v.protocol = .udp ∧ v.cnx = w.cnx)
      (fun v c _ hv => ?_) ⟨hp, rfl⟩
    refine ⟨(protocol_of_site (site_connectionClose v c)).trans hv.1, ?_⟩
    rw [← hv.2, connectionClose]
    split
    · rfl
    · rw [protocolClose, modConn_protocol, hv.1]
      exact udpClose_cnx _ c
  exact hkeep.2

theorem closeGroup_udp (hp : w.protocol = .udp) :
    w.closeGroup g order = order.foldl udpClose w := by
  rw [closeGroup, hp]
  rfl

variable (hw : Around w w) (hsolo : Solo w) (hp : w.protocol = .udp)
  (horder : order.Perm (w.members g))

include hw hsolo hp horder

theorem sameAt_closeGroup_udp (hc : c ∈ w.members g) :
    SameAt (w.conn c).socketManager (w.udpClose c) (w.closeGroup g order) := by
  have hhomes := hsolo.nodup_homes (by rw [hp]; decide) horder
  rw [closeGroup_udp hp]
  exact (placewise_udpClose w).foldl_turn hw hhomes (horder.mem_iff.mpr hc)

theorem closeGroup_conn_udp (hc : c ∈ w.members g) :
    (w.closeGroup g order).conn c = (w.udpClose c).conn c :=
  (sameAt_closeGroup_udp hw hsolo hp horder hc).conn c (home_of_site (site_udpClose w c) c)

theorem settled_conn_of_turn {op : World → Nat → World}
    (hop : Lib.Placewise (Around w) SameAt (fun c => (w.conn c).socketManager) op)
    (hc : c ∈ w.members g) (hclosed : ((op w c).conn c).isClosed = true) (error : Bool) :
    ((order.foldl op w).settle g order error order).conn c = (op w c).conn c := by
  have halone := settled_alone (by rw [hp]; decide) hsolo hw hop horder (horder.mem_iff.mpr hc)
    order error
  have hturn := hop.keep w c hw
  have hdone := settle_conn_of_closed_udp (hturn.protocol.trans hp) hclosed g order error
  rw [halone.conn c (by rw [hdone, hturn.home]), hdone]

theorem ClosesAlike.others_udp {error : Bool} (h : ClosesAlike w g order error)
    (hc : c ∈ w.members g) : w.numOpenDependents (w.conn c).socketManager ≠ 1 := by
  intro hlast
  -- the last one has its socket closed, and no state is entered
  have hreport : w.udpClose c = w.socketManagerClose (w.conn c).socketManager .graceful :=
    if_pos hlast
  cases hstate : (w.conn c).isClosedOrClosing with
  | true =>
    have hsm := (h.spared c hc hstate).2
    rw [(sameAt_closeGroup_udp hw hsolo hp horder hc).sm, hreport] at hsm
    have hrequests := congrArg SocketManager.closeRequests hsm
    rw [closeRequests_socketManagerClose] at hrequests
    exact Nat.succ_ne_self _ hrequests
  | false =>
    have hopen : (w.conn c).isClosed = false := by
      rw [Connection.isClosedOrClosing, decide_eq_false_iff_not, not_or] at hstate
      exact decide_eq_false hstate.1
    have hstarted := h.started c hc hopen
    rw [closeGroup_conn_udp hw hsolo hp horder hc, hreport,
      socketManagerClose_conn (by rw [hp]; decide), hstate] at hstarted
    exact Bool.noConfusion hstarted

theorem ClosesAlike.open_udp {error : Bool} (h : ClosesAlike w g order error)
    (hc : c ∈ w.members g) : (w.conn c).isClosedOrClosing = false := by
  have hothers := h.others_udp hw hsolo hp horder hc
  cases hstate : (w.conn c).isClosedOrClosing with
  | false => rfl
  | true =>
    have hsame := (h.spared c hc hstate).1
    rw [closeGroup_conn_udp hw hsolo hp horder hc, udpClose_conn_of_others hothers] at hsame
    have hlength := congrArg (fun x => x.history.length) hsame
    simp only [Connection.invoke, Connection.enter, List.length_append, List.length_cons]
      at hlength
    omega

theorem closesAlike_of_open_udp
    (hall : ∀ c ∈ w.members g, (w.conn c).isClosedOrClosing = false ∧
      w.numOpenDependents (w.conn c).socketManager ≠ 1) (error : Bool) :
    ClosesAlike w g order error := by
  have hclosed : ∀ c ∈ w.members g,
      (w.udpClose c).conn c = ((w.conn c).enter .closed).invoke .closed :=
    fun c hc => udpClose_conn_of_others (hall c hc).2
  have hgroup : ∀ c ∈ w.members g,
      ((w.closeGroup g order).settle g order error order).conn c =
        ((w.conn c).enter .closed).invoke .closed := by
    intro c hc
    rw [closeGroup_udp hp, settled_conn_of_turn hw hsolo hp horder (placewise_udpClose w) hc
      (by rw [hclosed c hc]; rfl), hclosed c hc]
  have hmembers : ∀ c ∈ w.members g,
      ((w.closeMembers order).settle g order error order).conn c =
        (((w.conn c).enter .closing).enter .closed).invoke .closed := by
    intro c hc
    have hclosing := connectionClose_conn_of_others hp (hall c hc).1 (hall c hc).2
    rw [closeMembers, settled_conn_of_turn hw hsolo hp horder
      (placewise_connectionClose (by rw [hp]; decide)) hc (by rw [hclosing]; rfl), hclosing]
  refine ⟨fun c hc _ => ?_, fun c hc hstate => ?_, ?_, fun c hc => ?_, fun c hc => ?_⟩
  · rw [closeGroup_conn_udp hw hsolo hp horder hc, hclosed c hc]
    rfl
  · rw [(hall c hc).1] at hstate
    exact Bool.noConfusion hstate
  · rw [closeGroup_udp hp, closeMembers, Lib.foldl_keeps World.cnx udpClose_cnx,
      foldl_connectionClose_cnx hp]
  · rw [hgroup c hc, hmembers c hc]
    rfl
  · rw [hgroup c hc, hmembers c hc, Connection.calls_invoke, Connection.calls_invoke]
    simp only [Connection.calls_enter]
    rfl

theorem closesAlike_udp (error : Bool) : ClosesAlike w g order error ↔
    ∀ c ∈ w.members g, (w.conn c).isClosedOrClosing = false ∧
      w.numOpenDependents (w.conn c).socketManager ≠ 1 := by
  constructor
  · intro h c hc
    exact ⟨h.open_udp hw hsolo hp horder hc, h.others_udp hw hsolo hp horder hc⟩
  · intro hall
    exact closesAlike_of_open_udp hw hsolo hp horder hall error

end Udp

/-! ### Every run -/

/-- In every reachable state, closing a group is closing its members exactly where, with TCP,
nothing is left to close or, with UDP, every member is open beside another dependent of its socket.
With QUIC it never is. -/
theorem closesAlike_iff (p : Protocol) (es : List Event) (g : Nat) (order : List Nat)
    (horder : order.Perm ((run p es).members g)) (error : Bool) :
    ClosesAlike (run p es) g order error ↔ (run p es).GroupInHand g := by
  unfold GroupInHand
  split
  · next hp => exact closesAlike_tcp hp horder error
  · next hp => exact closesAlike_udp (around_run p es) (solo_run p es) hp horder error
  · next hp => exact iff_of_false (not_closesAlike_quic hp horder error) id

theorem closesAlike_iff_closing_tcp :
    ClosesAlike (run .tcp [.initiate {} none .begun, .connected 0 true true, .raceWon 0, .clone 0,
        .close 0, .close 1]) 0 [1, 0] false :=
  (closesAlike_iff .tcp _ 0 [1, 0] (by decide) false).mpr (by
    show ∀ c ∈ [0, 1], _
    decide)

theorem closeGroup_established_tcp :
    ¬ ClosesAlike (run .tcp [.initiate {} none .begun, .connected 0 true true, .raceWon 0])
      0 [0] false := by
  intro h
  have hstarted := h.started 0 (by decide) (by decide)
  revert hstarted
  decide

end World

end CTaps.Connections
