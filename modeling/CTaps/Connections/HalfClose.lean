import CTaps.Connections.Handles
import CTaps.Connections.Teardown

/-! A QUIC connection ends when both sides have ended its stream: the application by
`ct_connection_close` or a message marked FINAL, the peer by a FIN. Whether both have is tested when
the FIN of the peer arrives, and only then. -/

namespace CTaps.Connections

namespace Connection

structure Untold (x y : Connection) : Prop where
  site : y.site = x.site
  owner : y.owner = x.owner
  callbacks : y.callbacks = x.callbacks
  isClosed : y.isClosed = x.isClosed
  told : y.history.countP (· = .called .closed) = x.history.countP (· = .called .closed)
  terminal : y.terminalCalls = x.terminalCalls

theorem Untold.refl (x : Connection) : Untold x x := ⟨rfl, rfl, rfl, rfl, rfl, rfl⟩

theorem Untold.trans {x y z : Connection} (h : Untold x y) (h' : Untold y z) : Untold x z :=
  ⟨h'.site.trans h.site, h'.owner.trans h.owner, h'.callbacks.trans h.callbacks,
    h'.isClosed.trans h.isClosed, h'.told.trans h.told, h'.terminal.trans h.terminal⟩

theorem Untold.home {x y : Connection} (h : Untold x y) : y.socketManager = x.socketManager :=
  congrArg Prod.fst h.site

theorem Untold.group {x y : Connection} (h : Untold x y) : y.group = x.group :=
  congrArg (fun p => p.2.1) h.site

theorem Untold.freed {x y : Connection} (h : Untold x y) : y.freed = x.freed :=
  congrArg (fun p => p.2.2) h.site

theorem untold_canSend (x : Connection) : Untold x { x with canSend := false } :=
  ⟨rfl, rfl, rfl, rfl, rfl, rfl⟩

theorem untold_canReceive (x : Connection) : Untold x { x with canReceive := false } :=
  ⟨rfl, rfl, rfl, rfl, rfl, rfl⟩

theorem untold_closing {x : Connection} (h : x.isClosedOrClosing = false) :
    Untold x (x.enter .closing) := by
  refine ⟨rfl, rfl, rfl, World.isClosedOrClosing_enter_closing x h, ?_, terminalCalls_enter x _⟩
  simp [enter]

end Connection

namespace World

open Function
open Gathering (Protocol)

/-- How the application ends its side of the stream. `sid` is the stream that a first message would
take. -/
inductive LocalEnd
  | close
  | final (sid : Nat)
deriving DecidableEq, Repr

def LocalEnd.event (c : Nat) : LocalEnd → Event
  | .close => .close c
  | .final sid => .send c true sid

def completed (s : Nat) (w w' : World) : World :=
  if (w'.sm s).closeRequests = (w.sm s).closeRequests then w'
  else Lib.run step w' [.handleClosed s, .handleClosed s]

structure EndsClosed (c : Nat) (w w' : World) : Prop where
  state : (w'.conn c).state = .closed
  told : (w'.conn c).history.countP (· = .called .closed) =
    (w.conn c).history.countP (· = .called .closed) + 1
  once : (w'.conn c).terminalCalls = (w.conn c).terminalCalls + 1
  handle : (w'.sm (w.conn c).socketManager).repeatedCloses =
    (w.sm (w.conn c).socketManager).repeatedCloses

structure HalfOpen (w : World) (c sid : Nat) : Prop where
  held : w.held c = true
  isOpen : (w.conn c).isClosed = false
  stream : (w.conn c).stream = some sid
  bidirectional : sid / 2 % 2 = 0
  ctx : w.streamCtx (w.conn c).group sid = some c
  receives : (w.conn c).canReceive = true
  others : w.othersActive c = true
  cnx : (w.cnx (w.conn c).group).closed = false
  callback : (w.conn c).callbacks.closed = true

def CloseHeeded (w : World) (c : Nat) : Prop :=
  (w.sm (w.conn c).socketManager).handle = .open ∨
    ∃ d ∈ w.opens (w.conn c).socketManager, d ≠ .connection c

structure Touched (c : Nat) (w w' : World) : Prop where
  world : w' = { w with conn := update w.conn c (w'.conn c) }
  untold : (w.conn c).Untold (w'.conn c)

variable {w w' w'' : World} {c sid s : Nat}

theorem closeHeeded_of_last (h : w.opens (w.conn c).socketManager = [.connection c]) :
    w.CloseHeeded c ↔ (w.sm (w.conn c).socketManager).handle = .open := by
  unfold CloseHeeded
  rw [h]
  simp

theorem closeHeeded_of_others (hpl : Placed w)
    (hc : .connection c ∈ w.opens (w.conn c).socketManager)
    (h : w.opens (w.conn c).socketManager ≠ [.connection c]) : w.CloseHeeded c := by
  refine Or.inr (by_contra fun hnone => h (opens_eq_of_forall (hpl.nodup _) hc fun d hd => ?_))
  by_contra hne
  exact hnone ⟨d, hd, hne⟩

theorem touched_modConn {f : Connection → Connection} (hf : (w.conn c).Untold (f (w.conn c))) :
    Touched c w (w.modConn c f) := by
  constructor
  · simp [World.modConn]
  · rw [modConn_conn, update_self]
    exact hf

theorem Touched.refl (c : Nat) (w : World) : Touched c w w := by
  constructor
  · simp
  · exact Connection.Untold.refl (w.conn c)

theorem Touched.trans (h : Touched c w w') (h' : Touched c w' w'') : Touched c w w'' := by
  constructor
  · rw [h'.world, h.world]
    simp
  · exact h.untold.trans h'.untold

theorem Touched.other (h : Touched c w w') {d : Nat} (hd : d ≠ c) : w'.conn d = w.conn d := by
  rw [h.world]
  simp [hd]

theorem Touched.sm (h : Touched c w w') : w'.sm = w.sm := by
  rw [h.world]

theorem Touched.opens (h : Touched c w w') (s : Nat) : w'.opens s = w.opens s := by
  have hclosed : ∀ d, (w'.conn d).isClosed = (w.conn d).isClosed := by
    intro d
    by_cases hd : d = c
    · rw [hd, h.untold.isClosed]
    · rw [h.other hd]
  rw [opens_eq, opens_eq, h.sm]
  simp only [hclosed]

theorem Touched.members (h : Touched c w w') (g : Nat) : w'.members g = w.members g := by
  have hsite : ∀ d, (w'.conn d).freed = (w.conn d).freed ∧ (w'.conn d).group = (w.conn d).group := by
    intro d
    by_cases hd : d = c
    · rw [hd]
      exact ⟨h.untold.freed, h.untold.group⟩
    · rw [h.other hd]
      exact ⟨rfl, rfl⟩
  have hn : w'.numConns = w.numConns := by rw [h.world]
  unfold World.members
  simp only [hn, hsite]

theorem Touched.othersActive (h : Touched c w w') (ho : w.othersActive c = true) :
    w'.othersActive c = true := by
  obtain ⟨d, hd, hactive⟩ := List.any_eq_true.mp ho
  have hdc : d ≠ c := of_decide_eq_true ((Bool.and_eq_true _ _).mp hactive).1
  refine List.any_eq_true.mpr ⟨d, ?_, ?_⟩
  · rw [h.untold.group, h.members]
    exact hd
  · rw [h.other hdc]
    exact hactive

theorem Touched.held (h : Touched c w w') (hc : w.held c = true) : w'.held c = true := by
  obtain ⟨hlive, howner⟩ := of_decide_eq_true hc
  obtain ⟨hlt, hfreed⟩ := of_decide_eq_true hlive
  have hn : w'.numConns = w.numConns := by rw [h.world]
  refine decide_eq_true ⟨decide_eq_true ⟨hn ▸ hlt, ?_⟩, ?_⟩
  · rw [h.untold.freed, hfreed]
  · rw [h.untold.owner, howner]

theorem anyActive_of_othersActive (h : w.othersActive c = true) :
    w.anyActive (w.conn c).group = true := by
  obtain ⟨d, hd, hactive⟩ := List.any_eq_true.mp h
  exact List.any_eq_true.mpr ⟨d, hd, ((Bool.and_eq_true _ _).mp hactive).2⟩

/-! ### The two events -/

def received (w : World) (c : Nat) : World := w.modConn c fun x => { x with canReceive := false }

theorem touched_received (w : World) (c : Nat) : Touched c w (w.received c) :=
  touched_modConn (Connection.untold_canReceive _)

theorem handleStreamFin_of_others (h : w.othersActive c = true) :
    w.handleStreamFin c =
      if (w.conn c).canSend then w.received c else (w.received c).closedConnectionCb c := by
  have hothers := (touched_received w c).othersActive h
  have hactive := anyActive_of_othersActive hothers
  have hsend : ((w.received c).conn c).canSend = (w.conn c).canSend := by simp [received]
  unfold handleStreamFin
  dsimp only
  rw [← received, if_pos hactive, hsend]

theorem touched_localEnd (hp : w.protocol = .quic) (hst : (w.conn c).stream.isSome = true)
    (ho : w.othersActive c = true) (hheld : w.held c = true) (l : LocalEnd) :
    Touched c w (w.step (l.event c)) := by
  cases l with
  | close =>
    have hen : w.enabled (.close c) = true := hheld
    rw [LocalEnd.event, step, if_pos hen, act, connectionClose]
    split
    · exact Touched.refl c w
    · next hstate =>
      have hstate : (w.conn c).isClosedOrClosing = false := Bool.not_eq_true _ ▸ hstate
      have hclosing : Touched c w (w.modConn c (Connection.enter .closing)) :=
        touched_modConn (Connection.untold_closing hstate)
      have hsend : Touched c w ((w.modConn c (Connection.enter .closing)).modConn c fun x =>
          { x with canSend := false }) :=
        hclosing.trans (touched_modConn (Connection.untold_canSend _))
      have hactive := anyActive_of_othersActive (hsend.othersActive ho)
      rw [protocolClose, modConn_protocol, hp]
      dsimp only [quicCloseConnection]
      rw [if_pos hactive]
      exact hsend
  | final sid =>
    have hen : w.enabled (.send c true sid) = true := hheld
    rw [LocalEnd.event, step, if_pos hen, act, sendMessage]
    split
    · dsimp only
      rw [if_neg]
      · exact touched_modConn (Connection.untold_canSend _)
      · rintro ⟨-, hnone, -⟩
        simp only [modConn_conn, update_self] at hnone
        rw [hnone] at hst
        cases hst
    · exact Touched.refl c w

theorem localEnd_sides (hp : w.protocol = .quic) (c : Nat) (l : LocalEnd) :
    ((w.step (l.event c)).conn c).canReceive = (w.conn c).canReceive ∧
      ((w.conn c).canSend = false → ((w.step (l.event c)).conn c).canSend = false) := by
  refine step_keeps (I := fun w' => (w'.conn c).canReceive = (w.conn c).canReceive ∧
    ((w.conn c).canSend = false → (w'.conn c).canSend = false)) ⟨rfl, id⟩ fun _ => ?_
  cases l with
  | close =>
    rw [LocalEnd.event, act, connectionClose]
    split
    · exact ⟨rfl, id⟩
    · rw [protocolClose, modConn_protocol, hp]
      dsimp only [quicCloseConnection]
      split
      · simp [Connection.enter]
      · simp [Connection.enter, picoquicClose]
  | final sid =>
    rw [LocalEnd.event, act, sendMessage]
    split
    · dsimp only
      split
      · simp
      · simp
    · exact ⟨rfl, id⟩

theorem step_streamFin (hp : w.protocol = .quic) {g first : Nat} (hcnx : (w.cnx g).closed = false)
    (hctx : w.streamCtx g sid = some c) (hlive : w.live c = true) (hfirst : first ∈ w.members g)
    (hr : (w.conn c).canReceive = true) (hasData : Bool) :
    w.step (.streamFin g sid first hasData) = w.handleStreamFin c := by
  have hen : w.enabled (.streamFin g sid first hasData) = true := by
    refine decide_eq_true ⟨⟨hp, hcnx, fun d hd => ?_⟩, hfirst⟩
    rw [hctx] at hd
    exact Option.some.inj hd ▸ hlive
  have hresolve : w.resolveOrCreateStreamConnection g sid first = (w, c, false) := by
    unfold resolveOrCreateStreamConnection
    rw [hctx]
  rw [step, if_pos hen, act, streamFin, hresolve]
  dsimp only
  rw [if_neg]
  · rfl
  · rintro ⟨-, hno⟩
    rw [hr] at hno
    cases hno

/-! ### The end of the connection -/

theorem completed_of_same (hsm : w'.sm = w.sm) : completed s w w' = w' := by
  unfold completed
  rw [hsm, if_pos rfl]

theorem completed_of_asked (hp : w'.protocol = .quic)
    (h : (w'.sm s).closeRequests ≠ (w.sm s).closeRequests) :
    completed s w w' =
      (w'.quicHandleClosedFreeing (fun _ => false) s).quicHandleClosedFreeing (fun _ => false) s := by
  unfold completed
  rw [if_neg h, Lib.run_cons, Lib.run_cons, Lib.run_nil, step_handleClosed hp, step_handleClosed]
  rw [← step_handleClosed hp, protocol_step, hp]

section

variable (howner : (w.conn c).owner = .application) (hcb : (w.conn c).callbacks.closed = true)
include howner hcb

theorem ends_terminate (h : (w.conn c).Untold (w'.conn c))
    (hsm : (w'.sm (w.conn c).socketManager).repeatedCloses =
      (w.sm (w.conn c).socketManager).repeatedCloses) :
    EndsClosed c w (w'.terminate c .graceful) := by
  have hcall : (w'.conn c).callOf .closed = [.called .closed] := by
    unfold Connection.callOf
    rw [h.owner, h.callbacks, howner]
    simp [UserCallbacks.has, hcb]
  have hhistory : ((w'.terminate c .graceful).conn c).history =
      .called .closed :: .entered .closed :: (w'.conn c).history := by
    have hterminate : ((w'.terminate c .graceful).conn c).history =
        (w'.conn c).callOf .closed ++ .entered .closed :: (w'.conn c).history := by
      simp only [terminate, modConn_conn, update_self]
      rfl
    rw [hterminate, hcall]
    rfl
  refine ⟨?_, ?_, ?_, hsm⟩
  · simp [terminate, Connection.enter, Connection.invoke]
  · rw [hhistory, ← h.told]
    simp
  · rw [← h.terminal]
    unfold Connection.terminalCalls
    rw [hhistory, List.countP_cons_of_pos rfl, List.countP_cons_of_neg Bool.false_ne_true]

theorem ends_asked (hp : w.protocol = .quic) (hs : (w.conn c).socketManager = s)
    (hh : (w.sm s).handle = .open) (h : Touched c w w') (hopens : w'.opens s = [.connection c])
    (h' : Touched c (w'.closedConnectionCb c) w'') : EndsClosed c w (completed s w w'') := by
  have hp' : w'.protocol = .quic := by rw [h.world, hp]
  have htcp : w'.protocol ≠ .tcp := by rw [hp']; decide
  have hclose : w'.closedConnectionCb c = w'.socketManagerClose s .graceful := by
    unfold closedConnectionCb reportEnd
    rw [h.untold.home, hs, if_pos (numOpenDependents_of_opens hopens)]
  rw [hclose] at h'
  have hsm := socketManagerClose_sm_of_open hp' (by rw [h.sm]; exact hh) .graceful
  rw [← h'.sm] at hsm
  have hopens' : w''.opens s = [.connection c] := by
    rw [h'.opens, opens_socketManagerClose htcp, hopens]
  have huntold : (w.conn c).Untold ((w''.markHandleClosed s).conn c) := by
    have hconn := h'.untold
    rw [socketManagerClose_conn htcp] at hconn
    exact h.untold.trans hconn
  have hlast : (w''.markHandleClosed s).lastOpenConnection s = some c := by
    refine lastOpenConnection_eq_some ?_
    rw [← hopens']
    exact opens_modSm rfl rfl
  have hp'' : w''.protocol = .quic := by
    rw [h'.world]
    exact (protocol_of_site (site_socketManagerClose w' s _)).trans hp'
  have hdone : completed s w w'' = (w''.markHandleClosed s).terminate c .graceful := by
    have hrequests : (w''.sm s).closeRequests ≠ (w.sm s).closeRequests := by
      rw [hsm, h.sm]
      exact Nat.succ_ne_self _
    rw [completed_of_asked hp'' hrequests, handlesClosed_eq _ (by rw [hsm]),
      closedSocketCbFreeing_none, closedSocketCb, hlast]
    simp [hsm]
  rw [hdone]
  refine ends_terminate howner hcb huntold ?_
  rw [hs, markHandleClosed_sm, update_self, hsm, h.sm]

end

theorem report_cases (hs : (w.conn c).socketManager = s) (hc : .connection c ∈ w.opens s) :
    w.opens s = [.connection c] ∨
      w.opens s ≠ [.connection c] ∧ w.closedConnectionCb c = w.terminate c .graceful := by
  by_cases hone : w.numOpenDependents s = 1
  · exact Or.inl (opens_eq_singleton hone hc)
  · refine Or.inr ⟨fun hlast => hone (numOpenDependents_of_opens hlast), ?_⟩
    unfold closedConnectionCb reportEnd
    rw [hs, if_neg hone]

theorem not_ends_asked (hp : w.protocol = .quic) (hc : (w.conn c).socketManager = s)
    (hh : (w.sm s).handle ≠ .open) (h : Touched c w w') (hopens : w'.opens s = [.connection c]) :
    ¬ EndsClosed c w (completed s w (w'.closedConnectionCb c)) := by
  have hp' : w'.protocol = .quic := by rw [h.world, hp]
  have hreport : w'.closedConnectionCb c = reportFreeing (fun _ => false) false w' c := by
    rw [reportFreeing_none]
    rfl
  obtain ⟨hrequests, hagain⟩ := report_last_again (fun _ => false) false hp'
    (h.untold.home.trans hc) hopens (by rw [h.sm]; exact hh) hreport
  rw [h.sm] at hrequests hagain
  rw [completed_of_asked ((protocol_of_site (site_closedConnectionCb w' c)).trans hp')
    (by rw [hrequests]; exact Nat.succ_ne_self _)]
  intro hends
  rcases hagain with hleft | htwice
  · rw [Connection.isClosed, hends.state] at hleft
    cases hleft
  · have honce := hends.handle
    rw [hc, htwice] at honce
    exact Nat.succ_ne_self _ honce

theorem step_close_closed (h : (w.conn c).state = .closed) : w.step (.close c) = w := by
  have hclosed : (w.conn c).isClosedOrClosing = true := by simp [Connection.isClosedOrClosing, h]
  refine step_keeps (I := fun w' => w' = w) rfl fun _ => ?_
  rw [act, connectionClose, if_pos hclosed]

/-! ### The two orders -/

namespace HalfOpen

variable {first : Nat} (h : HalfOpen w c sid) (hp : w.protocol = .quic)
include h

theorem mem_opens (hpl : Placed w) : .connection c ∈ w.opens (w.conn c).socketManager := by
  obtain ⟨hlt, hlive⟩ := of_decide_eq_true (of_decide_eq_true h.held).1
  exact World.mem_opens.mpr ⟨mem_dependents_connection.mpr (hpl.mem_home c hlt hlive),
    isOpen_connection.mpr h.isOpen⟩

theorem owner : (w.conn c).owner = .application := (of_decide_eq_true h.held).2

include hp

theorem step_fin (hw' : Touched c w w')
    (hr : (w'.conn c).canReceive = (w.conn c).canReceive)
    (hfirst : first ∈ w.members (w.conn c).group) (hasData : Bool) :
    w'.step (.streamFin (w.conn c).group sid first hasData) =
      if (w'.conn c).canSend then w'.received c else (w'.received c).closedConnectionCb c := by
  have hp' : w'.protocol = .quic := by rw [hw'.world, hp]
  have hcnx : w'.cnx = w.cnx := by rw [hw'.world]
  have hlive : w'.live c = true := (of_decide_eq_true (hw'.held h.held)).1
  rw [step_streamFin hp' (by rw [hcnx, h.cnx]) (by rw [streamCtx, hcnx]; exact h.ctx) hlive
    (by rw [hw'.members]; exact hfirst) (by rw [hr, h.receives]),
    handleStreamFin_of_others (hw'.othersActive h.others)]

variable (hpl : Placed w) (hfirst : first ∈ w.members (w.conn c).group)
include hpl hfirst

theorem close_then_fin (hsend : (w.conn c).canSend = false) (l : LocalEnd) (hasData : Bool) :
    EndsClosed c w (completed (w.conn c).socketManager w
      (Lib.run step w [l.event c, .streamFin (w.conn c).group sid first hasData])) ↔
      w.CloseHeeded c := by
  have hended : Touched c w (w.step (l.event c)) :=
    touched_localEnd hp (by rw [h.stream]; rfl) h.others h.held l
  obtain ⟨hr, hs⟩ := localEnd_sides hp c l
  rw [Lib.run_cons, Lib.run_cons, Lib.run_nil, h.step_fin hp hended hr hfirst, hs hsend]
  have hboth := hended.trans (touched_received _ c)
  have hmem : .connection c ∈ ((w.step (l.event c)).received c).opens (w.conn c).socketManager := by
    rw [hboth.opens]
    exact h.mem_opens hpl
  rw [if_neg Bool.false_ne_true]
  rcases report_cases hboth.untold.home hmem with hlast | ⟨hmany, hother⟩
  · have hlast' := hlast
    rw [hboth.opens] at hlast'
    rw [closeHeeded_of_last hlast']
    constructor
    · intro hends
      by_contra hh
      exact not_ends_asked hp rfl hh hboth hlast hends
    · intro hh
      exact ends_asked h.owner h.callback hp rfl hh hboth hlast (Touched.refl c _)
  · rw [hboth.opens] at hmany
    have hsm : (((w.step (l.event c)).received c).terminate c .graceful).sm = w.sm := hboth.sm
    rw [hother, completed_of_same hsm]
    refine iff_of_true (ends_terminate h.owner h.callback hboth.untold ?_)
      (closeHeeded_of_others hpl (h.mem_opens hpl) hmany)
    rw [hboth.sm]

theorem fin_then_close (hsend : (w.conn c).canSend = false) (hh : w.CloseHeeded c)
    (hasData : Bool) : EndsClosed c w (completed (w.conn c).socketManager w
      (Lib.run step w [.streamFin (w.conn c).group sid first hasData, .close c])) := by
  rw [Lib.run_cons, Lib.run_cons, Lib.run_nil, h.step_fin hp (Touched.refl c w) rfl hfirst, hsend,
    if_neg Bool.false_ne_true]
  have hreceived := touched_received w c
  have hmem : .connection c ∈ (w.received c).opens (w.conn c).socketManager := by
    rw [hreceived.opens]
    exact h.mem_opens hpl
  rcases report_cases hreceived.untold.home hmem with hlast | ⟨-, hother⟩
  · have hlast' := hlast
    rw [hreceived.opens] at hlast'
    refine ends_asked h.owner h.callback hp rfl ((closeHeeded_of_last hlast').mp hh) hreceived
      hlast ?_
    -- the connection is still open, and may be closed while the socket is being closed
    have hsite := site_closedConnectionCb (w.received c) c
    have hconn : ((w.received c).closedConnectionCb c).conn = (w.received c).conn := by
      unfold closedConnectionCb reportEnd
      rw [hreceived.untold.home, if_pos (numOpenDependents_of_opens hlast)]
      refine socketManagerClose_conn ?_ _ _
      rw [show (w.received c).protocol = .quic from hp]
      decide
    have hn : ((w.received c).closedConnectionCb c).numConns = (w.received c).numConns :=
      congrArg Site.numConns hsite
    refine touched_localEnd ((protocol_of_site hsite).trans hp) ?_ ?_ ?_ .close
    · rw [hconn]
      simp [received, h.stream]
    · have hothers := hreceived.othersActive h.others
      unfold othersActive members at hothers ⊢
      rw [hconn, hn]
      exact hothers
    · have hheld := hreceived.held h.held
      unfold World.held live at hheld ⊢
      rw [hconn, hn]
      exact hheld
  · have hends := ends_terminate h.owner h.callback hreceived.untold (by rw [hreceived.sm])
    have hsm : ((w.received c).terminate c .graceful).sm = w.sm := hreceived.sm
    rw [hother, step_close_closed hends.state, completed_of_same hsm]
    exact hends

omit hpl

theorem fin_then_localEnd (hsend : (w.conn c).canSend = true) (l : LocalEnd) (hasData : Bool) :
    Touched c w (completed (w.conn c).socketManager w
      (Lib.run step w [.streamFin (w.conn c).group sid first hasData, l.event c])) := by
  have hreceived := touched_received w c
  have hended : Touched c (w.received c) ((w.received c).step (l.event c)) := by
    have hp' : (w.received c).protocol = .quic := hp
    refine touched_localEnd hp' ?_ (hreceived.othersActive h.others) (hreceived.held h.held) l
    simp [received, h.stream]
  have hboth := hreceived.trans hended
  rw [Lib.run_cons, Lib.run_cons, Lib.run_nil, h.step_fin hp (Touched.refl c w) rfl hfirst, hsend,
    if_pos rfl, completed_of_same hboth.sm]
  exact hboth

end HalfOpen

/-- Both orders of the end of the application's side and the FIN of the peer leave the connection
closed and told so once exactly if `ct_connection_close` closes it, it had ended its sending before,
and its socket is open or has another user: otherwise the timer handle is closed again. -/
theorem either_order_iff (es : List Event) (c sid first : Nat) (l : LocalEnd) (hasData : Bool)
    (h : HalfOpen (run .quic es) c sid)
    (hfirst : first ∈ (run .quic es).members ((run .quic es).conn c).group)
    (hl : l ≠ .close → ((run .quic es).conn c).canSend = true) :
    (EndsClosed c (run .quic es) (completed ((run .quic es).conn c).socketManager (run .quic es)
      (Lib.run step (run .quic es)
        [l.event c, .streamFin ((run .quic es).conn c).group sid first hasData])) ∧
    EndsClosed c (run .quic es) (completed ((run .quic es).conn c).socketManager (run .quic es)
      (Lib.run step (run .quic es)
        [.streamFin ((run .quic es).conn c).group sid first hasData, l.event c]))) ↔
      l = .close ∧ ((run .quic es).conn c).canSend = false ∧ (run .quic es).CloseHeeded c := by
  set w := run .quic es
  have hpl : Placed w := placed_run .quic es
  have hp : w.protocol = .quic := protocol_run .quic es
  constructor
  · rintro ⟨hclose, hfin⟩
    have hsend : (w.conn c).canSend = false := by
      refine Bool.not_eq_true _ ▸ fun hs => ?_
      have hopen := (h.fin_then_localEnd hp hfirst hs l hasData).untold.isClosed
      rw [h.isOpen, Connection.isClosed, hfin.state] at hopen
      cases hopen
    refine ⟨not_not.mp fun hne => ?_, hsend,
      (h.close_then_fin hp hpl hfirst hsend l hasData).mp hclose⟩
    rw [hl hne] at hsend
    cases hsend
  · rintro ⟨rfl, hsend, hh⟩
    exact ⟨(h.close_then_fin hp hpl hfirst hsend .close hasData).mpr hh,
      h.fin_then_close hp hpl hfirst hsend hh hasData⟩

theorem either_order_after_final :
    EndsClosed 0 (run .quic [.initiate {} (some 0) .begun, .cnxReady 0 0, .raceWon 0, .clone 0,
      .send 0 true 0]) (completed 0 (run .quic [.initiate {} (some 0) .begun, .cnxReady 0 0,
        .raceWon 0, .clone 0, .send 0 true 0]) (Lib.run step (run .quic [.initiate {} (some 0) .begun,
          .cnxReady 0 0, .raceWon 0, .clone 0, .send 0 true 0]) [.streamFin 0 0 0 false, .close 0])) :=
  ((either_order_iff [.initiate {} (some 0) .begun, .cnxReady 0 0, .raceWon 0, .clone 0,
    .send 0 true 0] 0 0 0 .close false ⟨by decide, by decide, by decide, by decide, by decide,
      by decide, by decide, by decide, by decide⟩ (by decide)
      (by decide)).mpr ⟨rfl, by decide, Or.inl (by decide)⟩).2

/-- A client beside its clone: closed before the FIN of the peer, or after its final message, it is
closed by the FIN. After the FIN, the close leaves it closing and the final message established, and
it is told nothing. -/
theorem either_order_differs :
    HalfOpen (run .quic [.initiate {} (some 0) .begun, .cnxReady 0 0, .raceWon 0, .clone 0]) 0 0 ∧
    (((Lib.run step (run .quic [.initiate {} (some 0) .begun, .cnxReady 0 0, .raceWon 0, .clone 0])
      [.close 0, .streamFin 0 0 0 false]).conn 0).state = .closed ∧
    ((Lib.run step (run .quic [.initiate {} (some 0) .begun, .cnxReady 0 0, .raceWon 0, .clone 0])
      [.send 0 true 0, .streamFin 0 0 0 false]).conn 0).state = .closed) ∧
    (((Lib.run step (run .quic [.initiate {} (some 0) .begun, .cnxReady 0 0, .raceWon 0, .clone 0])
      [.streamFin 0 0 0 false, .close 0]).conn 0).state = .closing ∧
    ((Lib.run step (run .quic [.initiate {} (some 0) .begun, .cnxReady 0 0, .raceWon 0, .clone 0])
      [.streamFin 0 0 0 false, .close 0]).conn 0).terminalCalls = 0) ∧
    (((Lib.run step (run .quic [.initiate {} (some 0) .begun, .cnxReady 0 0, .raceWon 0, .clone 0])
      [.streamFin 0 0 0 false, .send 0 true 0]).conn 0).state = .established ∧
    ((Lib.run step (run .quic [.initiate {} (some 0) .begun, .cnxReady 0 0, .raceWon 0, .clone 0])
      [.streamFin 0 0 0 false, .send 0 true 0]).conn 0).terminalCalls = 0) :=
  ⟨⟨by decide, by decide, by decide, by decide, by decide, by decide, by decide, by decide,
    by decide⟩, by decide⟩

end World

end CTaps.Connections
