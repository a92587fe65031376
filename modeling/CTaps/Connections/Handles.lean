import CTaps.Connections.Streams

/-! How often a handle is closed. Only `tcp_on_read` looks at the handle first. Every other function
closes it on the strength of the state of a connection or of the number of open dependents, and
either can be what it was before the handle was closed. -/

namespace CTaps.Connections.World

open Gathering (Protocol)

def Spent (w : World) (s : Nat) : Prop := (w.sm s).handle ≠ .none ∧ (w.sm s).handle ≠ .open
deriving Decidable

def ClosedOnce (w : World) : Prop := ∀ s, (w.sm s).repeatedCloses = 0

variable {w w' : World}

theorem not_spent_of_open {s : Nat} (h : (w.sm s).handle = .open) : ¬ w.Spent s :=
  fun hs => hs.2 h

/-! ### Updates -/

theorem ClosedOnce.modSm (h : ClosedOnce w) (s : Nat) {f : SocketManager → SocketManager}
    (hf : (f (w.sm s)).repeatedCloses = (w.sm s).repeatedCloses) : ClosedOnce (w.modSm s f) := by
  intro t
  by_cases ht : t = s
  · subst ht
    simpa [hf] using h t
  · simpa [ht] using h t

theorem ClosedOnce.uvClose (h : ClosedOnce w) {s : Nat} (hs : ¬ w.Spent s) (cb : CloseCb) :
    ClosedOnce (w.modSm s (SocketManager.uvClose cb)) := by
  refine h.modSm s ?_
  unfold SocketManager.uvClose
  split
  · rfl
  · rfl
  · next hn ho => exact absurd ⟨hn, ho⟩ hs

theorem ClosedOnce.withSocketManager (h : ClosedOnce w) {m : SocketManager}
    (hm : m.repeatedCloses = 0) : ClosedOnce (w.addSocketManager m) := by
  intro s
  by_cases hs : s = w.numSms
  · subst hs
    simpa using hm
  · simpa [hs] using h s

theorem ClosedOnce.withConnection (h : ClosedOnce w) (x : Connection) :
    ClosedOnce (w.addConnection x) := by
  intro s
  by_cases hs : s = x.socketManager
  · subst hs
    simpa using h x.socketManager
  · simpa [hs] using h s

theorem spent_of_handle {s : Nat} (h : (w'.sm s).handle = (w.sm s).handle) :
    w'.Spent s ↔ w.Spent s := by
  unfold Spent
  rw [h]

/-! ### Reports -/

def ReportClosesAgain (w : World) (s : Nat) : Prop :=
  w.protocol ≠ .tcp ∧ w.numOpenDependents s = 1 ∧ w.Spent s
deriving Decidable

theorem reportClosesAgain_congr {s : Nat}
    (hn : w'.numOpenDependents s = w.numOpenDependents s) (hp : w'.protocol = w.protocol)
    (hh : (w'.sm s).handle = (w.sm s).handle) :
    w'.ReportClosesAgain s ↔ w.ReportClosesAgain s := by
  unfold ReportClosesAgain
  rw [hp, hn, spent_of_handle hh]

theorem ClosedOnce.closedSocket (h : ClosedOnce w) (s : Nat) : ClosedOnce (w.closedSocketCb s) := by
  unfold closedSocketCb
  split
  · exact h
  · exact h.modSm s rfl

theorem ClosedOnce.managerClose (h : ClosedOnce w) {s : Nat} (r : CloseReason)
    (hs : w.protocol ≠ .tcp → ¬ w.Spent s) : ClosedOnce (w.socketManagerClose s r) := by
  have hnote := h.modSm s
    (f := fun m => { m with closeReason := r, closeRequests := m.closeRequests + 1 }) rfl
  have hspent : (w.modSm s fun m =>
      { m with closeReason := r, closeRequests := m.closeRequests + 1 }).Spent s ↔ w.Spent s :=
    spent_of_handle (by simp)
  unfold socketManagerClose closeSocket
  split
  · exact hnote.closedSocket s
  · next hp =>
    exact hnote.uvClose (mt hspent.mp (hs (by rw [show w.protocol = .udp from hp]; decide))) _
  · next hp =>
    exact hnote.uvClose (mt hspent.mp (hs (by rw [show w.protocol = .quic from hp]; decide))) _

theorem ClosedOnce.report (h : ClosedOnce w) {c : Nat} (r : CloseReason)
    (hc : ¬ w.ReportClosesAgain (w.conn c).socketManager) : ClosedOnce (w.reportEnd c r) := by
  unfold reportEnd
  split
  · next hone => exact h.managerClose r fun hp hs => hc ⟨hp, hone, hs⟩
  · exact h

theorem ClosedOnce.listenerClosed (h : ClosedOnce w) {s : Nat} (hs : ¬ w.ReportClosesAgain s) :
    ClosedOnce (w.listenerClosedCb s) := by
  unfold listenerClosedCb
  split
  · next hone => exact h.managerClose _ fun hp hspent => hs ⟨hp, hone, hspent⟩
  · exact h.modSm s rfl

/-! ### Calls -/

def EndsAgain (w : World) (c : Nat) : Prop :=
  (w.protocol = .tcp ∧ w.Spent (w.conn c).socketManager) ∨
    (w.protocol = .udp ∧ w.ReportClosesAgain (w.conn c).socketManager)
deriving Decidable

def CloseClosesAgain (w : World) (c : Nat) : Prop :=
  (w.conn c).isClosedOrClosing = false ∧ w.EndsAgain c
deriving Decidable

def GroupClosesAgain (w : World) (order : List Nat) : Prop :=
  (w.protocol = .tcp ∧ ¬ Lib.AllSteps
    (fun w d => if (w.conn d).isClosedOrClosing then w else w.tcpClose d)
    (fun w d => (w.conn d).isClosedOrClosing = false → ¬ w.Spent (w.conn d).socketManager)
    w order) ∨
  (w.protocol = .udp ∧ ¬ Lib.AllSteps udpClose
    (fun w d => ¬ w.ReportClosesAgain (w.conn d).socketManager) w order)
deriving Decidable

def AbortAllClosesAgain (w : World) (order refused : List Nat) : Prop :=
  ¬ Lib.AllSteps (fun w d => if (w.conn d).isClosed then w else w.connectionAbort d refused)
    (fun w d => (w.conn d).isClosed = false → ¬ w.EndsAgain d) w order
deriving Decidable

def ListenerClosesAgain (w : World) (s : Nat) : Prop :=
  (w.protocol = .tcp ∧ w.Spent s) ∨ (w.protocol ≠ .tcp ∧ w.ReportClosesAgain s)
deriving Decidable

theorem isClosedOrClosing_enter_closing (x : Connection) (h : x.isClosedOrClosing = false) :
    (x.enter .closing).isClosed = x.isClosed := by
  simp only [Connection.isClosedOrClosing, decide_eq_false_iff_not, not_or] at h
  simp [Connection.isClosed, Connection.enter, h.1]

theorem numOpenDependents_closing {c : Nat} (hc : (w.conn c).isClosedOrClosing = false) (s : Nat) :
    (w.modConn c (Connection.enter .closing)).numOpenDependents s = w.numOpenDependents s := by
  have hclosed : ∀ d, ((w.modConn c (Connection.enter .closing)).conn d).isClosed =
      (w.conn d).isClosed :=
    Lib.update_keeps Connection.isClosed (isClosedOrClosing_enter_closing _ hc)
  unfold numOpenDependents
  simp only [hclosed]
  rfl

theorem ClosedOnce.close (h : ClosedOnce w) {c : Nat} (hc : ¬ w.CloseClosesAgain c) :
    ClosedOnce (w.connectionClose c) := by
  unfold connectionClose
  split
  · exact h
  · next hstate =>
    have hstate : (w.conn c).isClosedOrClosing = false := Bool.not_eq_true _ ▸ hstate
    have hhome : ((w.modConn c (Connection.enter .closing)).conn c).socketManager =
        (w.conn c).socketManager := by simp [Connection.enter]
    have hclosing : ClosedOnce (w.modConn c (Connection.enter .closing)) := h
    unfold protocolClose
    split
    · next hp =>
      refine hclosing.uvClose ?_ _
      rw [hhome]
      exact fun hs => hc ⟨hstate, Or.inl ⟨hp, hs⟩⟩
    · next hp =>
      have hagain : (w.modConn c (Connection.enter .closing)).ReportClosesAgain
          (w.conn c).socketManager ↔ w.ReportClosesAgain (w.conn c).socketManager :=
        reportClosesAgain_congr (numOpenDependents_closing hstate _) rfl rfl
      refine hclosing.report _ ?_
      rw [hhome, hagain]
      exact fun hs => hc ⟨hstate, Or.inr ⟨hp, hs⟩⟩
    · unfold quicCloseConnection
      dsimp only
      split <;> exact h

theorem ClosedOnce.abort (h : ClosedOnce w) {c : Nat} (hc : ¬ w.EndsAgain c)
    (refused : List Nat) : ClosedOnce (w.connectionAbort c refused) := by
  unfold connectionAbort
  split
  · next hp => exact h.uvClose (fun hs => hc (Or.inl ⟨hp, hs⟩)) _
  · next hp => exact h.report _ fun hr => hc (Or.inr ⟨hp, hr⟩)
  · unfold quicAbort
    split
    · split <;> exact h
    · exact h

theorem ClosedOnce.group (h : ClosedOnce w) {order : List Nat} (ho : ¬ w.GroupClosesAgain order)
    (g : Nat) : ClosedOnce (w.closeGroup g order) := by
  obtain ⟨htcp, hudp⟩ := not_or.mp ho
  unfold closeGroup
  split
  · next hp =>
    unfold tcpCloseConnectionGroup
    rw [Lib.foldl_eq_run]
    refine Lib.run_invariant (fun w d hw hd => ?_) h (not_not.mp fun hs => htcp ⟨hp, hs⟩)
    split
    · exact hw
    · next hstate => exact hw.uvClose (hd (Bool.not_eq_true _ ▸ hstate)) _
  · next hp =>
    unfold udpCloseConnectionGroup
    rw [Lib.foldl_eq_run]
    exact Lib.run_invariant (fun w d hw hd => hw.report _ hd) h
      (not_not.mp fun hs => hudp ⟨hp, hs⟩)
  · exact h

theorem ClosedOnce.abortMembers (h : ClosedOnce w) {order refused : List Nat}
    (ho : ¬ w.AbortAllClosesAgain order refused) : ClosedOnce (w.abortAll order refused) := by
  unfold abortAll
  rw [Lib.foldl_eq_run]
  refine Lib.run_invariant (fun w d hw hd => ?_) h (not_not.mp ho)
  split
  · exact hw
  · next hstate => exact hw.abort (hd (Bool.not_eq_true _ ▸ hstate)) refused

theorem ClosedOnce.listenerClosing (h : ClosedOnce w) {s : Nat} (hs : ¬ w.ListenerClosesAgain s) :
    ClosedOnce (w.listenerClose s) := by
  unfold listenerClose
  split
  · next hp => exact h.uvClose (fun hspent => hs (Or.inl ⟨hp, hspent⟩)) _
  · next hp => exact h.listenerClosed fun hr => hs (Or.inr ⟨hp, hr⟩)

theorem ClosedOnce.refused (h : ClosedOnce w) {c : Nat} (hc : ¬ w.CloseClosesAgain c) :
    ClosedOnce (w.refuse c) :=
  h.close hc

/-! ### New connections -/

theorem ClosedOnce.client (h : ClosedOnce w) (cbs : UserCallbacks) {m : SocketManager}
    (hm : m.repeatedCloses = 0) (early : Option Nat) : ClosedOnce (w.addClient cbs m early) :=
  ((show ClosedOnce (w.addGroup _) from h).withSocketManager hm).withConnection _

theorem addClient_handle (w : World) (cbs : UserCallbacks) (m : SocketManager) (early : Option Nat) :
    ((w.addClient cbs m early).sm
      ((w.addClient cbs m early).conn w.numConns).socketManager).handle = m.handle := by
  simp [addClient]

theorem ClosedOnce.initiate (h : ClosedOnce w) (cbs : UserCallbacks) (early : Option Nat)
    (start : Start) : ClosedOnce (w.initiate cbs early start) := by
  obtain ⟨m, stream, hcases, -, hm⟩ := w.initiate_cases cbs early start
  have hclient := h.client cbs hm.closes stream
  have hhandle := addClient_handle w cbs m stream
  obtain he | ⟨-, he⟩ | ⟨hopen, ⟨hp, he⟩ | ⟨-, he⟩⟩ := hcases <;> rw [he]
  · exact hclient
  · exact hclient
  · -- a handle that `init` closes was opened by it
    refine hclient.refused fun hc => ?_
    obtain ⟨-, hs⟩ | ⟨hq, -⟩ := hc.2
    · exact not_spent_of_open (hhandle.trans hopen) hs
    · exact absurd (hp.symm.trans hq) (by decide)
  · exact hclient.report _ fun hc => not_spent_of_open (hhandle.trans hopen) hc.2.2

/-! ### Callbacks -/

def FinClosesAgain (w : World) (c : Nat) : Prop :=
  (w.conn c).canSend = false ∧ w.othersActive c = true ∧
    w.ReportClosesAgain (w.conn c).socketManager
deriving Decidable

def NewFinClosesAgain (w : World) (g sid first : Nat) : Prop :=
  (streamCapabilities (w.cnx g).isClient sid).1 = false ∧
    if (w.conn first).stream.isSome then
      w.anyActive (w.conn first).group = true ∧
        w.numOpenDependents (w.conn first).socketManager = 0 ∧ w.Spent (w.conn first).socketManager
    else w.othersActive first = true ∧ w.ReportClosesAgain (w.conn first).socketManager
deriving Decidable

def EndClosesAgain (w : World) (order : List Nat) (error : Bool) : Prop :=
  ¬ Lib.AllSteps (if error then abortedConnectionCb else closedConnectionCb)
    (fun w d => ¬ w.ReportClosesAgain (w.conn d).socketManager) w
    (order.filter fun d => !(w.conn d).isClosed)
deriving Decidable

theorem ClosedOnce.fin (h : ClosedOnce w) {c : Nat} (hc : ¬ w.FinClosesAgain c) :
    ClosedOnce (w.handleStreamFin c) := by
  obtain heq | heq | ⟨hsend, hothers, heq⟩ := w.handleStreamFin_cases c
  · rw [heq]
    exact h
  · rw [heq]
    exact h
  · rw [heq]
    set w' := w.modConn c fun x => { x with canReceive := false }
    have hhome : (w'.conn c).socketManager = (w.conn c).socketManager := by simp [w']
    have hstate : ∀ d, (w'.conn d).state = (w.conn d).state :=
      Lib.update_keeps Connection.state rfl
    have hagain : w'.ReportClosesAgain (w.conn c).socketManager ↔
        w.ReportClosesAgain (w.conn c).socketManager :=
      reportClosesAgain_congr (numOpenDependents_congr rfl hstate) rfl rfl
    refine (show ClosedOnce w' from h).report _ ?_
    rw [hhome, hagain]
    exact fun hr => hc ⟨hsend, hothers, hr⟩

theorem anyActive_of_othersActive_withStream {g sid first : Nat}
    (h : (w.withStream g sid first).othersActive w.numConns = true) :
    w.anyActive (w.conn first).group = true := by
  have hold : ∀ d, d ≠ w.numConns → (w.withStream g sid first).conn d = w.conn d := by
    intro d hd
    simp [withStream, bindStream, hd]
  unfold othersActive at h
  obtain ⟨d, hd, hactive⟩ := List.any_eq_true.mp h
  simp only [Bool.and_eq_true, decide_eq_true_eq] at hactive
  rw [hold d hactive.1] at hactive
  refine List.any_eq_true.mpr ⟨d, ?_, hactive.2⟩
  rw [withStream_conn] at hd
  obtain ⟨hlt, hmem⟩ := List.mem_filter.mp hd
  rw [hold d hactive.1] at hmem
  have hlt : d < w.numConns + 1 := List.mem_range.mp hlt
  refine List.mem_filter.mpr ⟨List.mem_range.mpr ?_, hmem⟩
  exact Nat.lt_of_le_of_ne (Nat.le_of_lt_succ hlt) hactive.1

theorem ClosedOnce.finNew (h : ClosedOnce w) (hpl : Placed w) {g sid first : Nat}
    (hf : ¬ w.NewFinClosesAgain g sid first) (hst : (w.conn first).stream.isSome = true) :
    ClosedOnce ((w.withStream g sid first).handleStreamFin w.numConns) := by
  have hnew : ClosedOnce (w.withStream g sid first) := h.withConnection _
  refine hnew.fin fun ⟨hsend, hothers, hreport⟩ => hf ?_
  unfold NewFinClosesAgain
  rw [if_pos hst]
  rw [withStream_conn] at hsend hreport
  have hnum := hreport.2.1
  rw [Connection.cloneOf, numOpenDependents_withStream hpl] at hnum
  have hhandle : ((w.withStream g sid first).sm (w.conn first).socketManager).handle =
      (w.sm (w.conn first).socketManager).handle := by
    simp [withStream, bindStream, Connection.cloneOf]
  exact ⟨hsend, anyActive_of_othersActive_withStream hothers, Nat.succ.inj hnum,
    (spent_of_handle hhandle).mp hreport.2.2⟩

theorem ClosedOnce.finFirst (h : ClosedOnce w) {g sid first : Nat}
    (hf : ¬ w.NewFinClosesAgain g sid first) (hst : (w.conn first).stream.isSome = false) :
    ClosedOnce ((w.bindStream g sid first).handleStreamFin first) := by
  have hbind : ClosedOnce (w.bindStream g sid first) := h
  have hfirst : ((w.bindStream g sid first).conn first).socketManager =
      (w.conn first).socketManager ∧ ((w.bindStream g sid first).conn first).group =
      (w.conn first).group ∧ ((w.bindStream g sid first).conn first).canSend =
      (streamCapabilities (w.cnx g).isClient sid).1 := by simp [bindStream]
  have hother : ∀ d, d ≠ first → (w.bindStream g sid first).conn d = w.conn d := by
    intro d hd
    simp [bindStream, hd]
  refine hbind.fin ?_
  rintro ⟨hsend, hothers, hreport⟩
  refine hf ?_
  unfold NewFinClosesAgain
  rw [if_neg (by rw [hst]; decide)]
  refine ⟨hfirst.2.2 ▸ hsend, ?_, ?_⟩
  · unfold othersActive at hothers ⊢
    obtain ⟨d, hd, hactive⟩ := List.any_eq_true.mp hothers
    simp only [Bool.and_eq_true, decide_eq_true_eq] at hactive
    rw [hother d hactive.1] at hactive
    refine List.any_eq_true.mpr ⟨d, ?_, by simpa using hactive⟩
    obtain ⟨hlt, hmem⟩ := List.mem_filter.mp hd
    rw [hother d hactive.1, hfirst.2.1] at hmem
    exact List.mem_filter.mpr ⟨hlt, hmem⟩
  · rw [hfirst.1] at hreport
    have hnum : (w.bindStream g sid first).numOpenDependents (w.conn first).socketManager =
        w.numOpenDependents (w.conn first).socketManager :=
      numOpenDependents_congr rfl fun d => bindStream_state w g sid first d
    exact (reportClosesAgain_congr hnum rfl rfl).mp hreport

theorem ClosedOnce.received (h : ClosedOnce w) (s c : Nat) :
    ClosedOnce (w.connectionReceivedCb s c) :=
  (show ClosedOnce (w.modConn c Connection.markAsEstablished) from h).modSm s
    (f := fun m => { m with listener := m.listener.map (Listener.received c) }) rfl

theorem ClosedOnce.announce (h : ClosedOnce w) (isNew : Bool) (c : Nat) :
    ClosedOnce (w.announceIf isNew c) := by
  unfold announceIf
  split <;> exact h

theorem ClosedOnce.ended (h : ClosedOnce w) {order : List Nat} {error : Bool} {g : Nat}
    (ho : ¬ (w.modCnx g fun x => { x with closed := true }).EndClosesAgain order error) :
    ClosedOnce (w.cnxClosed g order error) := by
  unfold cnxClosed reportGroup
  rw [Lib.foldl_eq_run]
  refine Lib.run_invariant (fun w d hw hd => ?_) (show ClosedOnce (w.modCnx g _) from h)
    (not_not.mp ho)
  cases error with
  | true => exact hw.report _ hd
  | false => exact hw.report _ hd

theorem ClosedOnce.connect (h : ClosedOnce w) {s : Nat} {ok readStarted : Bool}
    (hc : ∀ c, (w.sm s).connectPending = some .onCloneConnect → (w.sm s).tcpConnection = some c →
      ok = false ∨ readStarted = false → ¬ w.CloseClosesAgain c) :
    ClosedOnce (w.connected s ok readStarted) := by
  set w' := w.modSm s fun m => { m with connectPending := none }
  have h' : ClosedOnce w' := h.modSm s rfl
  have hhandle : ∀ t, (w'.sm t).handle = (w.sm t).handle := Lib.update_keeps SocketManager.handle rfl
  have hnum : ∀ t, w'.numOpenDependents t = w.numOpenDependents t := by
    intro t
    unfold numOpenDependents SocketManager.listenerOpen
    by_cases ht : t = s
    · subst ht
      simp [w']
    · simp [w', ht]
  have hclose : ∀ c, w'.CloseClosesAgain c ↔ w.CloseClosesAgain c := by
    intro c
    unfold CloseClosesAgain EndsAgain
    rw [show w'.protocol = w.protocol from rfl, show w'.conn = w.conn from rfl]
    rw [spent_of_handle (hhandle _), reportClosesAgain_congr (hnum _) rfl (hhandle _)]
  unfold connected
  split
  · next cb c hcb ht =>
    dsimp only
    split
    · split
      · exact h'
      · exact h
    · split
      · next ho => exact h'.uvClose (not_spent_of_open ((hhandle s).trans ho)) _
      · exact h'
    · split
      · split
        · exact h'
        · next hr =>
          refine h'.close fun hagain => ?_
          exact hc c hcb ht (Or.inr (Bool.not_eq_true _ ▸ hr)) ((hclose c).mp hagain)
      · exact h
    · refine h'.refused fun hagain => ?_
      exact hc c hcb ht (Or.inl rfl) ((hclose c).mp hagain)
  · exact h

theorem ClosedOnce.handle (h : ClosedOnce w) (s : Nat) : ClosedOnce (w.handleClosed s) := by
  have hmark : ClosedOnce (w.markHandleClosed s) := h.modSm s rfl
  have hend := w.handleEnd s
  generalize w.handleClosed s = w' at hend ⊢
  cases hend with
  | idle => exact h
  | report r hp _ _ _ => exact hmark.report r fun hr => hr.1 hp
  | listener hp _ _ => exact hmark.listenerClosed fun hr => hr.1 hp
  | socket _ _ _ => exact hmark.closedSocket s
  | poll _ => exact h.modSm s rfl
  | discarded _ => exact hmark

/-! ### Events that make connections -/

theorem ClosedOnce.clone (h : ClosedOnce w) (c : Nat) : ClosedOnce (w.cloneConnection c) := by
  unfold cloneConnection
  split
  · exact (h.withSocketManager rfl).withConnection _
  · exact (h.withSocketManager rfl).withConnection _
  · exact h.withConnection _

theorem ClosedOnce.accept (h : ClosedOnce w) (s : Nat) : ClosedOnce (w.newStreamConnectionCb s true) := by
  rw [newStreamConnectionCb_started]
  split
  · split
    · have hnew := ((show ClosedOnce (w.addGroup { isClient := false }) from h).withSocketManager
        (m := { handle := .open, tcpConnection := some w.numConns }) rfl)
      exact (hnew.withConnection _).received s _
    · exact h
  · exact h

theorem ClosedOnce.datagram (h : ClosedOnce w) (s addr : Nat) :
    ClosedOnce (w.udpMultiplexReceivedMessage s addr) := by
  unfold udpMultiplexReceivedMessage
  split
  · split
    · refine ClosedOnce.received (ClosedOnce.modSm ?_ s rfl) s _
      exact (show ClosedOnce (w.addGroup {}) from h).withConnection _
    · exact h
  · exact h

theorem ClosedOnce.cnx (h : ClosedOnce w) (s : Nat) : ClosedOnce (w.newCnx s) := by
  unfold World.newCnx
  split
  · split
    · exact (show ClosedOnce (w.addGroup { isClient := false }) from h).withConnection _
    · exact h
  · exact h

theorem ClosedOnce.dataEvent (h : ClosedOnce w) (g sid first : Nat) (hasData : Bool) :
    ClosedOnce (w.streamData g sid first hasData) := by
  unfold World.streamData
  obtain ⟨c, -, heq⟩ | ⟨-, -, heq⟩ | ⟨-, -, heq⟩ := w.resolveOrCreate_cases g sid first
  all_goals rw [heq]; dsimp only; split
  · exact h
  · exact h.announce _ _
  · exact h.withConnection _
  · exact ClosedOnce.announce (w := w.withStream g sid first) (h.withConnection _) _ _
  · exact h
  · exact ClosedOnce.announce (w := w.bindStream g sid first) h _ _

theorem ClosedOnce.finEvent (h : ClosedOnce w) (hpl : Placed w) {g sid first : Nat}
    (hold : ¬∃ c ∈ w.streamCtx g sid, w.FinClosesAgain c)
    (hnew : ¬(w.streamCtx g sid = none ∧ w.NewFinClosesAgain g sid first)) (hasData : Bool) :
    ClosedOnce (w.streamFin g sid first hasData) := by
  unfold World.streamFin
  obtain ⟨c, hctx, heq⟩ | ⟨hctx, hst, heq⟩ | ⟨hctx, hst, heq⟩ :=
    w.resolveOrCreate_cases g sid first
  all_goals rw [heq]; dsimp only; split
  · exact h
  · exact (h.fin fun hf => hold ⟨c, hctx, hf⟩).announce _ _
  · exact h.withConnection _
  · exact (h.finNew hpl (fun hf => hnew ⟨hctx, hf⟩) hst).announce _ _
  · exact h
  · exact (h.finFirst (fun hf => hnew ⟨hctx, hf⟩) hst).announce _ _

/-! ### Runs -/

def ClosesAgain (w : World) : Event → Prop
  | .close c => w.CloseClosesAgain c
  | .abort c _ => w.EndsAgain c
  | .closeGroup _ order => w.GroupClosesAgain order
  | .raceCanceled c order =>
    (w.modConn c fun x => { x with owner := .canceledRace }).GroupClosesAgain order
  | .abortGroup _ order refused => w.AbortAllClosesAgain order refused
  | .listenerClose s => w.ListenerClosesAgain s
  | .connected s ok readStarted =>
    (w.sm s).connectPending = some .onCloneConnect ∧ (ok = false ∨ readStarted = false) ∧
      ∃ c ∈ (w.sm s).tcpConnection, w.CloseClosesAgain c
  | .streamFin g sid first _ =>
    (∃ c ∈ w.streamCtx g sid, w.FinClosesAgain c) ∨
      (w.streamCtx g sid = none ∧ w.NewFinClosesAgain g sid first)
  | .streamReset g sid => ∃ c ∈ w.streamCtx g sid, w.ReportClosesAgain (w.conn c).socketManager
  | .cnxClosed g order error =>
    (w.modCnx g fun x => { x with closed := true }).EndClosesAgain order error
  | _ => False

theorem ClosedOnce.step (h : ClosedOnce w) (hpl : Placed w) {e : Event} (he : ¬ w.ClosesAgain e) :
    ClosedOnce (w.step e) := by
  refine step_keeps h fun hen => ?_
  cases e with
  | initiate cbs early start => exact h.initiate cbs early start
  | listen l cbs => exact h.withSocketManager rfl
  | close c => exact h.close he
  | abort c refused => exact h.abort he refused
  | closeGroup c order => exact h.group he _
  | abortGroup c order refused => exact h.abortMembers he
  | clone c => exact h.clone c
  | send c isFinal sid =>
    dsimp only [act, sendMessage]
    split
    · split <;> exact h
    · exact h
  | free c =>
    dsimp only [act, connectionFree]
    refine ClosedOnce.modSm ?_ _ ?_
    · exact h
    · rfl
  | listenerClose s => exact h.listenerClosing he
  | raceWon c => exact h
  | raceCanceled c order => exact ClosedOnce.group (w := w.modConn c _) h he _
  | handleClosed s => exact h.handle s
  | connected s ok readStarted =>
    exact h.connect fun c hcb ht hfail hc => he ⟨hcb, hfail, c, ht, hc⟩
  | readEnded s e =>
    dsimp only [act, tcpOnRead]
    split
    -- `tcp_on_read` tests `uv_is_closing`
    · next ho => split <;> exact h.uvClose (not_spent_of_open ho.1) _
    · exact h
  | accepted s => exact h.accept s
  | datagram s addr => exact h.datagram s addr
  | datagramError s =>
    dsimp only [act, udpReadError]
    split
    · next ho => exact h.uvClose (not_spent_of_open ho.1) _
    · exact h
  | newCnx s => exact h.cnx s
  | cnxReady g first =>
    dsimp only [act, World.cnxReady]
    split
    · exact ClosedOnce.received (w := w.modCnx g _) h _ _
    · exact h
  | streamData g sid first hasData => exact h.dataEvent g sid first hasData
  | streamFin g sid first hasData =>
    obtain ⟨hold, hnew⟩ := not_or.mp he
    exact h.finEvent hpl hold hnew hasData
  | streamReset g sid =>
    dsimp only [act, World.streamReset]
    split
    · next c hc => exact h.report _ fun hr => he ⟨c, hc, hr⟩
    · exact h
  | stopSending g sid =>
    dsimp only [act, World.stopSending]
    split <;> exact h
  | cnxClosed g order error => exact h.ended he

instance (w : World) (e : Event) : Decidable (w.ClosesAgain e) := by
  rcases e with ⟨⟩ <;> dsimp only [ClosesAgain] <;> infer_instance

/-- Where no step closes a handle that is no longer open, no handle is closed twice. -/
theorem handles_closed_once (p : Protocol) (es : List Event)
    (hes : Lib.AllSteps step (fun w e => ¬ w.ClosesAgain e) { protocol := p } es) (s : Nat) :
    ((run p es).sm s).repeatedCloses = 0 := by
  have hrun : ClosedOnce (run p es) ∧ Placed (run p es) := by
    refine Lib.run_invariant (I := fun w => ClosedOnce w ∧ Placed w) (fun w e hw he => ?_)
      ⟨fun _ => rfl, placed_init p⟩ hes
    exact ⟨hw.1.step hw.2 he, hw.2.step e⟩
  exact hrun.1 s

theorem handles_closed_once_eof :
    ((run .tcp [.initiate {} none .begun, .connected 0 true true, .raceWon 0, .readEnded 0 .eof,
      .handleClosed 0, .close 0, .free 0]).sm 0).repeatedCloses = 0 :=
  handles_closed_once .tcp _ (by decide) 0

theorem handle_closed_twice :
    ((run .tcp [.initiate {} none .begun, .connected 0 true true, .raceWon 0, .close 0,
      .abort 0 []]).sm 0).repeatedCloses = 1 := by
  decide

end CTaps.Connections.World
