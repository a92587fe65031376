import CTaps.Connections.Occupied

/-! The end of a QUIC connection. picoquic reports it for the group, and the open members are
reported to the socket manager one after the other. The last open dependent of the socket asks for
its close and is told when libuv has closed the handles. The application may free a connection in
its callback, so that the list of the socket manager changes under the loop. -/

namespace CTaps.Connections.World

open Function
open Gathering (Protocol)

/-! ### Callbacks that free their connection

The functions of the socket manager again, for an application whose terminal callbacks free the
connections `frees`. -/

def calledBack (frees : Nat → Bool) (w : World) (c : Nat) (k : Callback) : World :=
  if frees c ∧ (w.conn c).callOf k ≠ [] then w.connectionFree c else w

def terminateFreeing (frees : Nat → Bool) (w : World) (c : Nat) (r : CloseReason) : World :=
  (w.terminate c r).calledBack frees c r.callback

/-- `ct_socket_manager_closed_socket_cb`. -/
def closedSocketCbFreeing (frees : Nat → Bool) (w : World) (s : Nat) : World :=
  match w.lastOpenConnection s with
  | some c => w.terminateFreeing frees c (w.sm s).closeReason
  | none => w.modSm s SocketManager.closeListener

def reportEndFreeing (frees : Nat → Bool) (w : World) (c : Nat) (r : CloseReason) : World :=
  if w.numOpenDependents (w.conn c).socketManager = 1 then
    w.socketManagerClose (w.conn c).socketManager r
  else w.terminateFreeing frees c r

def endReason (error : Bool) (x : Connection) : CloseReason :=
  if error then if x.state = .establishing then .establishmentError else .connectionError
  else .graceful

/-- `ct_socket_manager_aborted_connection_cb` and `ct_socket_manager_closed_connection_cb`. -/
def reportFreeing (frees : Nat → Bool) (error : Bool) (w : World) (c : Nat) : World :=
  w.reportEndFreeing frees c (endReason error (w.conn c))

/-- `picoquic_callback_close` and `picoquic_callback_stateless_reset`. -/
def cnxClosedFreeing (frees : Nat → Bool) (w : World) (g : Nat) (order : List Nat) (error : Bool) :
    World :=
  (w.modCnx g fun x => { x with closed := true }).reportGroup order (reportFreeing frees error)

/-- `socket_timer_close_cb` and `quic_closed_poll_handle_cb`. -/
def quicHandleClosedFreeing (frees : Nat → Bool) (w : World) (s : Nat) : World :=
  match (w.sm s).handle with
  | .closing .socketTimerClose =>
    if (w.sm s).pollHandle then w.modSm s fun m => { m with handle := .closing .quicClosedPollHandle }
    else (w.markHandleClosed s).closedSocketCbFreeing frees s
  | .closing .quicClosedPollHandle => (w.markHandleClosed s).closedSocketCbFreeing frees s
  | _ => w

/-- picoquic reports the end of group `g`, and if that asks for the close of socket `s`, libuv closes
the timer handle and the poll handle. -/
def teardown (frees : Nat → Bool) (w : World) (s g : Nat) (order : List Nat) (error : Bool) : World :=
  let w' := w.cnxClosedFreeing frees g order error
  if (w'.sm s).closeRequests = (w.sm s).closeRequests then w'
  else (w'.quicHandleClosedFreeing frees s).quicHandleClosedFreeing frees s

/-! With callbacks that free nothing these are the functions of the machine. -/

theorem terminateFreeing_none (w : World) (c : Nat) (r : CloseReason) :
    w.terminateFreeing (fun _ => false) c r = w.terminate c r := by
  simp [terminateFreeing, calledBack]

theorem closedSocketCbFreeing_none (w : World) (s : Nat) :
    w.closedSocketCbFreeing (fun _ => false) s = w.closedSocketCb s := by
  unfold closedSocketCbFreeing closedSocketCb
  cases w.lastOpenConnection s with
  | some c => exact terminateFreeing_none w c _
  | none => rfl

theorem reportFreeing_none (error : Bool) :
    reportFreeing (fun _ => false) error =
      if error then abortedConnectionCb else closedConnectionCb := by
  funext w c
  have hreport : ∀ r, w.reportEndFreeing (fun _ => false) c r = w.reportEnd c r := by
    intro r
    unfold reportEndFreeing reportEnd
    rw [terminateFreeing_none]
  cases error with
  | false => exact hreport _
  | true => exact hreport _

theorem quicHandleClosedFreeing_none (w : World) (s : Nat) :
    w.quicHandleClosedFreeing (fun _ => false) s = w.quicHandleClosed s := by
  unfold quicHandleClosedFreeing
  rw [closedSocketCbFreeing_none]
  rfl

theorem step_handleClosed {w : World} (hp : w.protocol = .quic) (s : Nat) :
    w.step (.handleClosed s) = w.quicHandleClosedFreeing (fun _ => false) s := by
  have hen : w.enabled (.handleClosed s) = true := rfl
  rw [quicHandleClosedFreeing_none, step, if_pos hen, act, handleClosed, hp]

theorem teardown_none {w : World} (hp : w.protocol = .quic) {g : Nat} (hg : (w.cnx g).closed = false)
    {order : List Nat} (horder : order.Perm (w.members g)) (s : Nat) (error : Bool) :
    ∃ fs, w.teardown (fun _ => false) s g order error =
      Lib.run step w (.cnxClosed g order error :: fs) := by
  have hclosed : w.cnxClosedFreeing (fun _ => false) g order error =
      w.step (.cnxClosed g order error) := by
    have hen : w.enabled (.cnxClosed g order error) = true := decide_eq_true ⟨hp, hg, horder⟩
    rw [step, if_pos hen]
    unfold cnxClosedFreeing
    rw [reportFreeing_none]
    rfl
  unfold teardown
  dsimp only
  rw [hclosed]
  split
  · exact ⟨[], rfl⟩
  · refine ⟨[.handleClosed s, .handleClosed s], ?_⟩
    have hp' : (w.step (.cnxClosed g order error)).protocol = .quic := (protocol_step w _).trans hp
    rw [← step_handleClosed hp', ← step_handleClosed ((protocol_step _ _).trans hp')]
    rfl

/-! ### One report after the other -/

section

variable {frees : Nat → Bool} {error : Bool} {cs ds : List Nat} {s : Nat} {w w' w'' : World}

structure Ended (error : Bool) (cs : List Nat) (s : Nat) (w w' : World) : Prop where
  state : ∀ c ∈ cs, (w'.conn c).state = .closed
  history : ∀ c ∈ cs, (w'.conn c).history =
    (w.conn c).callOf (endReason error (w.conn c)).callback ++ .entered .closed :: (w.conn c).history
  other : ∀ c, c ∉ cs → w'.conn c = w.conn c
  sublist : (w'.sm s).allConnections.Sublist (w.sm s).allConnections
  kept : ∀ c ∈ (w.sm s).allConnections, c ∉ cs → c ∈ (w'.sm s).allConnections
  listener : (w'.sm s).listener = (w.sm s).listener
  sockets : ∀ u, u ≠ s → w'.sm u = w.sm u
  protocol : w'.protocol = w.protocol

theorem ended_nil (error : Bool) (s : Nat) (w : World) : Ended error [] s w w := by
  refine ⟨fun c hc => ?_, fun c hc => ?_, fun _ _ => rfl, List.Sublist.refl _, fun _ hc _ => hc, rfl,
    fun _ _ => rfl, rfl⟩
  · cases hc
  · cases hc

theorem Ended.trans (h : Ended error cs s w w') (h' : Ended error ds s w' w'')
    (hdisjoint : ∀ d ∈ ds, d ∉ cs) : Ended error (cs ++ ds) s w w'' := by
  constructor
  · intro c hc
    by_cases hd : c ∈ ds
    · exact h'.state c hd
    · rw [h'.other c hd]
      exact h.state c ((List.mem_append.mp hc).resolve_right hd)
  · intro c hc
    by_cases hd : c ∈ ds
    · rw [h'.history c hd, h.other c (hdisjoint c hd)]
    · rw [h'.other c hd]
      exact h.history c ((List.mem_append.mp hc).resolve_right hd)
  · intro c hc
    obtain ⟨hcs, hds⟩ := not_or.mp (mt List.mem_append.mpr hc)
    rw [h'.other c hds, h.other c hcs]
  · exact h'.sublist.trans h.sublist
  · intro c hmem hc
    obtain ⟨hcs, hds⟩ := not_or.mp (mt List.mem_append.mpr hc)
    exact h'.kept c (h.kept c hmem hcs) hds
  · rw [h'.listener, h.listener]
  · intro u hu
    rw [h'.sockets u hu, h.sockets u hu]
  · rw [h'.protocol, h.protocol]

theorem Ended.mem_opens (h : Ended error cs s w w') {d : Dependent} (hd : d ∈ w.opens s)
    (hne : ∀ c ∈ cs, d ≠ .connection c) : d ∈ w'.opens s := by
  obtain ⟨hdep, hopen⟩ := World.mem_opens.mp hd
  refine World.mem_opens.mpr ?_
  cases d with
  | listener =>
    refine ⟨mem_dependents_listener.mpr ?_, ?_⟩
    · rw [h.listener]
      exact mem_dependents_listener.mp hdep
    · unfold isOpen SocketManager.listenerOpen at hopen ⊢
      rw [h.listener]
      exact hopen
  | connection c =>
    have hc : c ∉ cs := fun hmem => hne c hmem rfl
    refine ⟨mem_dependents_connection.mpr (h.kept c (mem_dependents_connection.mp hdep) hc), ?_⟩
    rw [isOpen_connection] at hopen ⊢
    rw [h.other c hc]
    exact hopen

theorem Ended.of_mem_opens (h : Ended error cs s w w') {d : Dependent} (hd : d ∈ w'.opens s) :
    d ∈ w.opens s ∧ ∀ c ∈ cs, d ≠ .connection c := by
  obtain ⟨hdep, hopen⟩ := World.mem_opens.mp hd
  cases d with
  | listener =>
    refine ⟨World.mem_opens.mpr ⟨mem_dependents_listener.mpr ?_, ?_⟩, fun _ _ => Dependent.noConfusion⟩
    · rw [← h.listener]
      exact mem_dependents_listener.mp hdep
    · unfold isOpen SocketManager.listenerOpen at hopen ⊢
      rw [← h.listener]
      exact hopen
  | connection c =>
    rw [isOpen_connection] at hopen
    have hc : c ∉ cs := by
      intro hmem
      rw [Connection.isClosed, h.state c hmem] at hopen
      cases hopen
    rw [h.other c hc] at hopen
    have hmem := h.sublist.subset (mem_dependents_connection.mp hdep)
    refine ⟨World.mem_opens.mpr ⟨mem_dependents_connection.mpr hmem, isOpen_connection.mpr hopen⟩, ?_⟩
    intro e he heq
    exact hc (Dependent.connection.inj heq ▸ he)

def SameButList (s : Nat) (w w' : World) : Prop :=
  w'.sm s = { w.sm s with allConnections := (w'.sm s).allConnections }

theorem SameButList.trans (h : SameButList s w w') (h' : SameButList s w' w'') :
    SameButList s w w'' := by
  unfold SameButList at h h' ⊢
  rw [h', h]

theorem ended_terminate (frees : Nat → Bool) (error : Bool) {c : Nat}
    (hs : (w.conn c).socketManager = s) :
    Ended error [c] s w (w.terminateFreeing frees c (endReason error (w.conn c))) ∧
      SameButList s w (w.terminateFreeing frees c (endReason error (w.conn c))) := by
  set r := endReason error (w.conn c)
  have hhome : ((w.terminate c r).conn c).socketManager = s := by
    simpa [terminate, Connection.enter, Connection.invoke] using hs
  unfold terminateFreeing calledBack
  split
  · refine ⟨⟨?_, ?_, ?_, ?_, ?_, ?_, ?_, rfl⟩, ?_⟩
    · intro d hd
      simp [List.mem_singleton.mp hd, connectionFree, terminate, Connection.enter, Connection.invoke]
    · intro d hd
      obtain rfl := List.mem_singleton.mp hd
      simp only [connectionFree, terminate, modSm_conn, modConn_conn, update_self]
      rfl
    · intro d hd
      have hne : d ≠ c := fun he => hd (List.mem_singleton.mpr he)
      simp [connectionFree, terminate, hne]
    · unfold connectionFree
      rw [hhome]
      simpa [terminate] using List.erase_sublist
    · intro d hmem hd
      have hne : d ≠ c := fun he => hd (List.mem_singleton.mpr he)
      unfold connectionFree
      rw [hhome]
      simpa [terminate] using (List.mem_erase_of_ne hne).mpr hmem
    · unfold connectionFree
      rw [hhome]
      simp [terminate]
    · intro u hu
      unfold connectionFree
      rw [hhome]
      simp [terminate, hu]
    · unfold SameButList connectionFree
      rw [hhome]
      simp [terminate]
  · refine ⟨⟨?_, ?_, ?_, List.Sublist.refl _, fun _ hmem _ => hmem, rfl, fun _ _ => rfl, rfl⟩, rfl⟩
    · intro d hd
      simp [List.mem_singleton.mp hd, terminate, Connection.enter, Connection.invoke]
    · intro d hd
      obtain rfl := List.mem_singleton.mp hd
      simp only [terminate, modConn_conn, update_self]
      rfl
    · intro d hd
      have hne : d ≠ c := fun he => hd (List.mem_singleton.mpr he)
      simp [terminate, hne]

theorem report_other (frees : Nat → Bool) (error : Bool) {c : Nat} {t : Dependent}
    (hs : (w.conn c).socketManager = s) (hc : .connection c ∈ w.opens s) (ht : t ∈ w.opens s) (hne : t ≠ .connection c) :
    Ended error [c] s w (reportFreeing frees error w c) ∧
      SameButList s w (reportFreeing frees error w c) := by
  have hmany : w.numOpenDependents (w.conn c).socketManager ≠ 1 := by
    rw [hs]
    intro hone
    rw [opens_eq_singleton hone hc] at ht
    exact hne (List.mem_singleton.mp ht)
  unfold reportFreeing reportEndFreeing
  rw [if_neg hmany]
  exact ended_terminate frees error hs

theorem reports_other (frees : Nat → Bool) (error : Bool) (hnodup : cs.Nodup)
    (hs : ∀ c ∈ cs, (w.conn c).socketManager = s) (hcs : ∀ c ∈ cs, .connection c ∈ w.opens s)
    {t : Dependent} (ht : t ∈ w.opens s) (hne : ∀ c ∈ cs, t ≠ .connection c) :
    Ended error cs s w (cs.foldl (reportFreeing frees error) w) ∧
      SameButList s w (cs.foldl (reportFreeing frees error) w) := by
  induction cs generalizing w with
  | nil => exact ⟨ended_nil error s w, rfl⟩
  | cons c cs ih =>
    obtain ⟨hc, hnodup⟩ := List.nodup_cons.mp hnodup
    obtain ⟨hended, hsame⟩ := report_other frees error (hs c List.mem_cons_self)
      (hcs c List.mem_cons_self) ht (hne c List.mem_cons_self)
    set w' := reportFreeing frees error w c
    have hold : ∀ d ∈ cs, d ∉ [c] := by
      intro d hd hdc
      rw [List.mem_singleton.mp hdc] at hd
      exact hc hd
    -- the connections still to be reported have not been touched
    have hs' : ∀ d ∈ cs, (w'.conn d).socketManager = s := by
      intro d hd
      rw [hended.other d (hold d hd)]
      exact hs d (List.mem_cons_of_mem c hd)
    have hcs' : ∀ d ∈ cs, .connection d ∈ w'.opens s := by
      intro d hd
      refine hended.mem_opens (hcs d (List.mem_cons_of_mem c hd)) fun e he => ?_
      intro heq
      exact hold d hd (Dependent.connection.inj heq ▸ he)
    have ht' : t ∈ w'.opens s := by
      refine hended.mem_opens ht fun e he => ?_
      rw [List.mem_singleton.mp he]
      exact hne c List.mem_cons_self
    obtain ⟨hrest, hsame'⟩ := ih hnodup hs' hcs' ht' fun d hd => hne d (List.mem_cons_of_mem c hd)
    exact ⟨hended.trans hrest hold, hsame.trans hsame'⟩

/-! ### The close of the socket -/

theorem sameButList_terminateFreeing (frees : Nat → Bool) (w : World) (c : Nat) (r : CloseReason)
    (u : Nat) : SameButList u w (w.terminateFreeing frees c r) := by
  unfold SameButList terminateFreeing calledBack
  split
  · unfold connectionFree
    by_cases hu : u = ((w.terminate c r).conn c).socketManager
    · subst hu
      simp [terminate]
    · rw [modSm_sm, update_of_ne hu]
      rfl
  · rfl

theorem closedSocketCbFreeing_sm (frees : Nat → Bool) (w : World) (s : Nat) :
    ((w.closedSocketCbFreeing frees s).sm s).handle = (w.sm s).handle ∧
      ((w.closedSocketCbFreeing frees s).sm s).repeatedCloses = (w.sm s).repeatedCloses := by
  unfold closedSocketCbFreeing
  split
  · rw [sameButList_terminateFreeing frees w _ _ s]
    exact ⟨rfl, rfl⟩
  · simp [SocketManager.closeListener]

theorem repeatedCloses_quicHandleClosedFreeing (frees : Nat → Bool) (w : World) (s : Nat) :
    ((w.quicHandleClosedFreeing frees s).sm s).repeatedCloses = (w.sm s).repeatedCloses := by
  have hclosed := (closedSocketCbFreeing_sm frees (w.markHandleClosed s) s).2
  rw [markHandleClosed_sm, update_self] at hclosed
  unfold quicHandleClosedFreeing
  split
  · split
    · simp
    · exact hclosed
  · exact hclosed
  · rfl

theorem handlesClosed_eq (frees : Nat → Bool) (hh : (w.sm s).handle = .closing .socketTimerClose) :
    (w.quicHandleClosedFreeing frees s).quicHandleClosedFreeing frees s =
      (w.markHandleClosed s).closedSocketCbFreeing frees s := by
  cases hpoll : (w.sm s).pollHandle with
  | true =>
    set w' := w.modSm s fun m => { m with handle := .closing .quicClosedPollHandle }
    have hfirst : w.quicHandleClosedFreeing frees s = w' := by
      unfold quicHandleClosedFreeing
      rw [hh, hpoll]
      rfl
    have hmark : w'.markHandleClosed s = w.markHandleClosed s := by
      simp [w', markHandleClosed, World.modSm]
    rw [hfirst, ← hmark]
    unfold quicHandleClosedFreeing
    rw [show (w'.sm s).handle = .closing .quicClosedPollHandle by simp [w']]
  | false =>
    have hfirst : w.quicHandleClosedFreeing frees s =
        (w.markHandleClosed s).closedSocketCbFreeing frees s := by
      unfold quicHandleClosedFreeing
      rw [hh, hpoll]
      rfl
    rw [hfirst]
    -- there is no other handle to close
    have hclosed := (closedSocketCbFreeing_sm frees (w.markHandleClosed s) s).1
    rw [markHandleClosed_sm, update_self] at hclosed
    nth_rewrite 1 [quicHandleClosedFreeing]
    rw [hclosed]

theorem socketManagerClose_sm (hp : w.protocol = .quic) (r : CloseReason) :
    (w.socketManagerClose s r).sm s = SocketManager.uvClose .socketTimerClose
      { w.sm s with closeReason := r, closeRequests := (w.sm s).closeRequests + 1 } := by
  rw [socketManagerClose_eq, hp]
  dsimp only
  rw [modSm_sm, update_self, noteRequest_sm]

theorem socketManagerClose_sm_of_open (hp : w.protocol = .quic) (hh : (w.sm s).handle = .open)
    (r : CloseReason) : (w.socketManagerClose s r).sm s =
      { w.sm s with
        closeReason := r, closeRequests := (w.sm s).closeRequests + 1
        handle := .closing .socketTimerClose } := by
  rw [socketManagerClose_sm hp]
  unfold SocketManager.uvClose
  rw [hh]

theorem report_last_eq (frees : Nat → Bool) (error : Bool) {c : Nat}
    (hs : (w.conn c).socketManager = s) (hc : w.opens s = [.connection c]) :
    reportFreeing frees error w c = w.socketManagerClose s (endReason error (w.conn c)) := by
  rw [reportFreeing, reportEndFreeing, hs, if_pos (numOpenDependents_of_opens hc)]

theorem report_last (frees : Nat → Bool) (error : Bool) (hp : w.protocol = .quic) {c : Nat}
    (hs : (w.conn c).socketManager = s) (hc : w.opens s = [.connection c])
    (hh : (w.sm s).handle = .open) (hw' : w' = reportFreeing frees error w c) :
    (w'.sm s).closeRequests = (w.sm s).closeRequests + 1 ∧
    Ended error [c] s w ((w'.quicHandleClosedFreeing frees s).quicHandleClosedFreeing frees s) ∧
    (((w'.quicHandleClosedFreeing frees s).quicHandleClosedFreeing frees s).sm s).handle =
      .closed ∧
    (((w'.quicHandleClosedFreeing frees s).quicHandleClosedFreeing frees s).sm s).repeatedCloses =
      (w.sm s).repeatedCloses := by
  set r := endReason error (w.conn c)
  have hreport : w' = w.socketManagerClose s r := hw'.trans (report_last_eq frees error hs hc)
  have hquic : w' = (w.noteRequest s r).modSm s (SocketManager.uvClose .socketTimerClose) := by
    rw [hreport, socketManagerClose_eq, hp]
  have hopens : w'.opens s = [.connection c] := by
    rw [hreport, opens_socketManagerClose (by rw [hp]; decide), hc]
  have hsm := socketManagerClose_sm_of_open hp hh r
  rw [← hreport] at hsm
  set w₁ := w'.markHandleClosed s
  -- up to here no connection has been touched
  have hnone : Ended error [] s w w₁ := by
    refine ⟨fun _ hd => ?_, fun _ hd => ?_, fun d _ => ?_, ?_, fun d hd _ => ?_, ?_, fun u hu => ?_, ?_⟩
    · cases hd
    · cases hd
    · simp [w₁, hquic, noteRequest]
    · simp [w₁, hsm]
    · simpa [w₁, hsm] using hd
    · simp [w₁, hsm]
    · simp [w₁, hquic, noteRequest, hu]
    · simp [w₁, hquic, noteRequest]
  have hconn : w₁.conn c = w.conn c := hnone.other c (List.not_mem_nil)
  have hlast : w₁.lastOpenConnection s = some c := by
    refine lastOpenConnection_eq_some ?_
    rw [← hopens]
    exact opens_modSm rfl rfl
  -- the socket manager tells the connection when the last handle is closed
  have hclosed : (w'.quicHandleClosedFreeing frees s).quicHandleClosedFreeing frees s =
      w₁.terminateFreeing frees c (endReason error (w₁.conn c)) := by
    have hr : (w₁.sm s).closeReason = endReason error (w₁.conn c) := by
      rw [hconn]
      simp [w₁, hsm, r]
    rw [handlesClosed_eq frees (by rw [hsm]), closedSocketCbFreeing, hlast, hr]
  have hended := (ended_terminate frees error (hconn ▸ hs)).1
  rw [← hclosed] at hended
  refine ⟨by rw [hsm], hnone.trans hended fun _ _ => List.not_mem_nil, ?_⟩
  rw [hclosed, sameButList_terminateFreeing]
  simp [w₁, hsm]

theorem report_last_again (frees : Nat → Bool) (error : Bool) (hp : w.protocol = .quic) {c : Nat}
    (hs : (w.conn c).socketManager = s) (hc : w.opens s = [.connection c])
    (hh : (w.sm s).handle ≠ .open) (hw' : w' = reportFreeing frees error w c) :
    (w'.sm s).closeRequests = (w.sm s).closeRequests + 1 ∧
    ((((w'.quicHandleClosedFreeing frees s).quicHandleClosedFreeing frees s).conn c).isClosed = false ∨
      (((w'.quicHandleClosedFreeing frees s).quicHandleClosedFreeing frees s).sm s).repeatedCloses =
        (w.sm s).repeatedCloses + 1) := by
  have hreport := hw'.trans (report_last_eq frees error hs hc)
  have hsm := socketManagerClose_sm (s := s) hp (endReason error (w.conn c))
  rw [← hreport] at hsm
  unfold SocketManager.uvClose at hsm
  split at hsm
  · next hnone =>
    dsimp only at hnone
    have hstays : w'.quicHandleClosedFreeing frees s = w' := by
      unfold quicHandleClosedFreeing
      rw [hsm]
      dsimp only
      rw [hnone]
    refine ⟨by rw [hsm], Or.inl ?_⟩
    rw [hstays, hstays, hreport, socketManagerClose_conn (by rw [hp]; decide)]
    exact isOpen_connection.mp (World.mem_opens.mp (hc ▸ List.mem_singleton_self _)).2
  · next hopen => exact absurd hopen hh
  · refine ⟨by rw [hsm], Or.inr ?_⟩
    rw [repeatedCloses_quicHandleClosedFreeing, repeatedCloses_quicHandleClosedFreeing, hsm]

end

/-! ### The group -/

def OutsideOpen (w : World) (s g : Nat) : Prop :=
  ∃ d ∈ w.opens s, ∀ c ∈ w.members g, d ≠ .connection c

/-- Group `g` has ended between `w` and `w'`. Its members that were open are closed and have been
told so once, by the callback that fits; all else is as it was. Socket `s`, if open, is closed
unless it is used outside the group, and no handle that was being closed has been closed again, for
which libuv asserts. -/
structure TornDown (error : Bool) (g s : Nat) (w w' : World) : Prop where
  closed : ∀ c ∈ w.members g, (w.conn c).isClosed = false → (w'.conn c).state = .closed
  told : ∀ c ∈ w.members g, (w.conn c).isClosed = false → (w'.conn c).history =
    (w.conn c).callOf (endReason error (w.conn c)).callback ++ .entered .closed :: (w.conn c).history
  silent : ∀ c ∈ w.members g, (w.conn c).isClosed = true → w'.conn c = w.conn c
  outside : ∀ c, c ∉ w.members g → w'.conn c = w.conn c
  listener : ∀ u, (w'.sm u).listener = (w.sm u).listener
  sockets : ∀ u, u ≠ s → w'.sm u = w.sm u
  socket : (w.sm s).handle = .open → ((w'.sm s).handle = .closed ↔ ¬ w.OutsideOpen s g)
  once : (w'.sm s).repeatedCloses = (w.sm s).repeatedCloses

structure OpenMembers (w : World) (g s : Nat) (cs : List Nat) : Prop where
  nodup : cs.Nodup
  home : ∀ c ∈ cs, (w.conn c).socketManager = s
  opens : ∀ c ∈ cs, .connection c ∈ w.opens s
  mem_iff : ∀ c, c ∈ cs ↔ c ∈ w.members g ∧ (w.conn c).isClosed = false

section

variable {error : Bool} {cs : List Nat} {s g : Nat} {w w' : World}

theorem Ended.tornDown (h : Ended error cs s w w') (hcs : OpenMembers w g s cs)
    (hsocket : (w.sm s).handle = .open → ((w'.sm s).handle = .closed ↔ ¬ w.OutsideOpen s g))
    (honce : (w'.sm s).repeatedCloses = (w.sm s).repeatedCloses) : TornDown error g s w w' := by
  refine ⟨fun c hc ho => ?_, fun c hc ho => ?_, fun c hc hclosed => ?_, fun c hc => ?_, fun u => ?_,
    h.sockets, hsocket, honce⟩
  · exact h.state c ((hcs.mem_iff c).mpr ⟨hc, ho⟩)
  · exact h.history c ((hcs.mem_iff c).mpr ⟨hc, ho⟩)
  · refine h.other c fun hmem => ?_
    have ho := ((hcs.mem_iff c).mp hmem).2
    rw [hclosed] at ho
    cases ho
  · exact h.other c fun hmem => hc ((hcs.mem_iff c).mp hmem).1
  · by_cases hu : u = s
    · rw [hu, h.listener]
    · rw [h.sockets u hu]

theorem OpenMembers.used (h : OpenMembers w g s cs) (hout : w.OutsideOpen s g)
    (frees : Nat → Bool) (error : Bool) (hw' : w' = cs.foldl (reportFreeing frees error) w) :
    (w'.sm s).closeRequests = (w.sm s).closeRequests ∧ TornDown error g s w w' := by
  obtain ⟨t, ht, hne⟩ := id hout
  obtain ⟨hended, hsame⟩ := reports_other frees error h.nodup h.home h.opens ht fun c hc =>
    hne c ((h.mem_iff c).mp hc).1
  rw [← hw'] at hended hsame
  refine ⟨by rw [hsame], hended.tornDown h (fun ho => ?_) (by rw [hsame])⟩
  have hhandle : (w'.sm s).handle = .open := by rw [hsame, ← ho]
  constructor
  · intro hclosed
    rw [hhandle] at hclosed
    cases hclosed
  · exact fun hno => absurd hout hno

theorem OpenMembers.unused {c : Nat} (h : OpenMembers w g s (cs ++ [c]))
    (hp : w.protocol = .quic) (hnodup : (w.sm s).allConnections.Nodup)
    (hout : ¬ w.OutsideOpen s g) (frees : Nat → Bool) (error : Bool)
    (hw' : w' = (cs ++ [c]).foldl (reportFreeing frees error) w) :
    (w'.sm s).closeRequests ≠ (w.sm s).closeRequests ∧
      (TornDown error g s w ((w'.quicHandleClosedFreeing frees s).quicHandleClosedFreeing frees s) ↔
        (w.sm s).handle = .open) := by
  have hmem : ∀ d ∈ cs, d ∈ cs ++ [c] := fun d hd => List.mem_append_left _ hd
  have hc : c ∈ cs ++ [c] := List.mem_append_right _ (List.mem_singleton_self c)
  obtain ⟨hcs, -, hnot⟩ := List.nodup_append.mp h.nodup
  have hnot : ∀ d ∈ cs, d ≠ c := fun d hd => hnot d hd c (List.mem_singleton_self c)
  -- while the others are told, the last one is open
  obtain ⟨hended, hsame⟩ := reports_other frees error hcs (fun d hd => h.home d (hmem d hd))
    (fun d hd => h.opens d (hmem d hd)) (h.opens c hc)
    fun d hd heq => hnot d hd (Dependent.connection.inj heq).symm
  set w₁ := cs.foldl (reportFreeing frees error) w
  have hlast : w' = reportFreeing frees error w₁ c := by rw [hw', List.foldl_append]; rfl
  have hc₁ : .connection c ∈ w₁.opens s := hended.mem_opens (h.opens c hc) fun d hd heq =>
    hnot d hd (Dependent.connection.inj heq).symm
  have hopens : w₁.opens s = [.connection c] := by
    refine opens_eq_of_forall (hended.sublist.nodup hnodup) hc₁ fun d hd => ?_
    obtain ⟨hd, hne⟩ := hended.of_mem_opens hd
    by_contra hdc
    refine hout ⟨d, hd, fun e he heq => ?_⟩
    subst heq
    have hopen := isOpen_connection.mp (World.mem_opens.mp hd).2
    rcases List.mem_append.mp ((h.mem_iff e).mpr ⟨he, hopen⟩) with hin | hin
    · exact hne e hin rfl
    · exact hdc (congrArg _ (List.mem_singleton.mp hin))
  have hnotin : c ∉ cs := fun hin => hnot c hin rfl
  have hp₁ : w₁.protocol = .quic := hended.protocol.trans hp
  have hs₁ : (w₁.conn c).socketManager = s := by rw [hended.other c hnotin, h.home c hc]
  have hhandle : (w₁.sm s).handle = (w.sm s).handle := by rw [hsame]
  have hcount : (w₁.sm s).repeatedCloses = (w.sm s).repeatedCloses := by rw [hsame]
  have hasked : (w₁.sm s).closeRequests + 1 ≠ (w.sm s).closeRequests := by
    rw [hsame]
    exact Nat.succ_ne_self _
  by_cases hh : (w.sm s).handle = .open
  · obtain ⟨hrequests, hend, hclosed, honce⟩ := report_last frees error hp₁ hs₁ hopens
      (hhandle.trans hh) hlast
    refine ⟨hrequests ▸ hasked, fun _ => hh, fun _ => ?_⟩
    refine Ended.tornDown (hended.trans hend fun d hd => ?_) h (fun _ => ?_) (honce.trans hcount)
    · rw [List.mem_singleton.mp hd]
      exact hnotin
    · exact ⟨fun _ => hout, fun _ => hclosed⟩
  · obtain ⟨hrequests, hagain⟩ := report_last_again frees error hp₁ hs₁ hopens
      (fun ho => hh (hhandle.symm.trans ho)) hlast
    refine ⟨hrequests ▸ hasked, fun htorn => ?_, fun ho => absurd ho hh⟩
    -- the last one is left open, or the timer handle has been closed a second time
    obtain ⟨hcm, hco⟩ := (h.mem_iff c).mp hc
    rcases hagain with hleft | htwice
    · rw [Connection.isClosed, htorn.closed c hcm hco] at hleft
      cases hleft
    · rw [htorn.once, hcount] at htwice
      exact absurd htwice (Nat.succ_ne_self _).symm

theorem OpenMembers.none (h : OpenMembers w g s []) (hocc : Occupied w) (error : Bool) :
    TornDown error g s w w := by
  refine (ended_nil error s w).tornDown h (fun ho => ?_) rfl
  obtain ⟨d, hd⟩ := hocc s ho
  have hout : w.OutsideOpen s g := by
    refine ⟨d, hd, fun c hc heq => ?_⟩
    subst heq
    have hopen := isOpen_connection.mp (World.mem_opens.mp hd).2
    exact List.not_mem_nil ((h.mem_iff c).mpr ⟨hc, hopen⟩)
  constructor
  · intro hclosed
    rw [ho] at hclosed
    cases hclosed
  · exact fun hno => absurd hout hno

theorem OpenMembers.tornDown_iff (h : OpenMembers w g s cs) (hp : w.protocol = .quic)
    (hnodup : (w.sm s).allConnections.Nodup) (hocc : Occupied w)
    (frees : Nat → Bool) (error : Bool) (hw' : w' = cs.foldl (reportFreeing frees error) w) :
    TornDown error g s w (if (w'.sm s).closeRequests = (w.sm s).closeRequests then w'
      else (w'.quicHandleClosedFreeing frees s).quicHandleClosedFreeing frees s) ↔
      (w.sm s).handle = .open ∨ w.OutsideOpen s g ∨ ∀ c ∈ w.members g, (w.conn c).isClosed = true := by
  by_cases hout : w.OutsideOpen s g
  · obtain ⟨hrequests, htorn⟩ := h.used hout frees error hw'
    rw [if_pos hrequests]
    exact ⟨fun _ => Or.inr (Or.inl hout), fun _ => htorn⟩
  · rcases cs.eq_nil_or_concat with hnil | ⟨ds, c, hcons⟩
    · rw [hnil] at h hw'
      rw [hw', List.foldl_nil, if_pos rfl]
      refine ⟨fun _ => Or.inr (Or.inr fun c hc => ?_), fun _ => h.none hocc error⟩
      by_contra hopen
      exact List.not_mem_nil ((h.mem_iff c).mpr ⟨hc, Bool.eq_false_iff.mpr hopen⟩)
    · rw [hcons, List.concat_eq_append] at h hw'
      obtain ⟨hrequests, htorn⟩ := h.unused hp hnodup hout frees error hw'
      rw [if_neg hrequests, htorn]
      have hsome : ¬ ∀ c ∈ w.members g, (w.conn c).isClosed = true := by
        intro hall
        obtain ⟨hc, hopen⟩ := (h.mem_iff c).mp (List.mem_append_right _ (List.mem_singleton_self c))
        rw [hall c hc] at hopen
        cases hopen
      exact ⟨Or.inl, fun hor => hor.resolve_right fun hor => hor.elim hout hsome⟩

theorem openMembers_of_perm (hpl : Placed w) (hp : w.protocol = .quic)
    (hs : ∃ c ∈ w.members g, (w.conn c).socketManager = s) {order : List Nat}
    (horder : order.Perm (w.members g)) :
    OpenMembers w g s (order.filter fun c => !(w.conn c).isClosed) := by
  obtain ⟨first, hfirst, hs⟩ := hs
  have hhome : ∀ c ∈ w.members g, (w.conn c).socketManager = s := by
    intro c hc
    rw [← hs]
    refine hpl.quic_home hp c (lt_of_mem_members hc) first (lt_of_mem_members hfirst) ?_
    rw [group_of_mem_members hc, group_of_mem_members hfirst]
  have hmem : ∀ c, c ∈ order.filter (fun c => !(w.conn c).isClosed) ↔
      c ∈ w.members g ∧ (w.conn c).isClosed = false := by
    intro c
    rw [List.mem_filter, horder.mem_iff]
    simp
  refine ⟨(nodup_of_perm_members horder).filter _, fun c hc => ?_, fun c hc => ?_, hmem⟩
  · exact hhome c ((hmem c).mp hc).1
  · obtain ⟨hc, hopen⟩ := (hmem c).mp hc
    have hlist := hpl.mem_of_mem_members hc
    rw [hhome c hc] at hlist
    exact World.mem_opens.mpr ⟨mem_dependents_connection.mpr hlist, isOpen_connection.mpr hopen⟩

end

/-- In every reachable world, whichever connections the application frees in their callbacks,
picoquic reports the end of a group, in any order of the hash table, and the close of the socket is
completed. The group is torn down unless its last open member asks for the close of a socket that is
being closed already. -/
theorem group_torn_down_iff (es : List Event) (frees : Nat → Bool) (error : Bool) (g s : Nat)
    (hs : ∃ c ∈ (run .quic es).members g, ((run .quic es).conn c).socketManager = s)
    (order : List Nat) (horder : order.Perm ((run .quic es).members g)) :
    TornDown error g s (run .quic es) ((run .quic es).teardown frees s g order error) ↔
      ((run .quic es).sm s).handle = .open ∨ (run .quic es).OutsideOpen s g ∨
        ∀ c ∈ (run .quic es).members g, ((run .quic es).conn c).isClosed = true := by
  have hpl := placed_run .quic es
  have hp := protocol_run .quic es
  have hocc := occupied_run es
  set w := run .quic es
  -- picoquic has marked its connection when the members are collected
  set w₀ := w.modCnx g fun x => { x with closed := true }
  have hcs : OpenMembers w₀ g s (order.filter fun c => !(w₀.conn c).isClosed) := by
    have hcs := openMembers_of_perm hpl hp hs horder
    exact ⟨hcs.nodup, hcs.home, hcs.opens, hcs.mem_iff⟩
  have htorn := hcs.tornDown_iff hp (hpl.nodup s) (hocc.move (.cnx g _)) frees error rfl
  refine Iff.trans ⟨fun h => ?_, fun h => ?_⟩ htorn
  · exact ⟨h.closed, h.told, h.silent, h.outside, h.listener, h.sockets, h.socket, h.once⟩
  · exact ⟨h.closed, h.told, h.silent, h.outside, h.listener, h.sockets, h.socket, h.once⟩

theorem group_torn_down_clone :
    (((run .quic [.initiate {} (some 0) .begun, .cnxReady 0 0, .raceWon 0, .clone 0]).teardown
      (fun _ => true) 0 0 [1, 0] true).conn 0).history =
        [.called .connectionError, .entered .closed, .called .ready, .raced .ready,
          .entered .established] := by
  have htorn := (group_torn_down_iff
    [.initiate {} (some 0) .begun, .cnxReady 0 0, .raceWon 0, .clone 0]
    (fun _ => true) true 0 0 ⟨0, by decide, by decide⟩ [1, 0] (by decide)).mpr (Or.inl (by decide))
  exact htorn.told 0 (by decide) (by decide)

theorem group_torn_down_after_reset :
    ¬ TornDown false 0 0
      (run .quic [.initiate {} (some 0) .begun, .cnxReady 0 0, .raceWon 0, .streamReset 0 0])
      ((run .quic [.initiate {} (some 0) .begun, .cnxReady 0 0, .raceWon 0,
        .streamReset 0 0]).teardown (fun _ => false) 0 0 [0] false) := by
  intro h
  have honce := h.once
  revert honce
  decide

end CTaps.Connections.World
