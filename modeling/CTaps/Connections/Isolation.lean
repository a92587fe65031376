import CTaps.Connections.Dependents
import CTaps.Connections.Histories

/-! Which dependents a report touches. A report of a dependent that is open concerns that dependent
alone. A report of one that is closed is taken for the report of the last open dependent whenever
one other dependent is open. -/

namespace CTaps.Connections

open Gathering (Protocol)

inductive Report
  | closedConnection (c : Nat)
  | establishmentError (c : Nat)
  | abortedConnection (c : Nat)
  | closedListener (s : Nat)
deriving DecidableEq, Repr

namespace World

def handleReport (w : World) : Report → World
  | .closedConnection c => w.closedConnectionCb c
  | .establishmentError c => w.establishmentErrorCb c
  | .abortedConnection c => w.abortedConnectionCb c
  | .closedListener s => w.listenerClosedCb s

end World

namespace Report

def manager (w : World) : Report → Nat
  | .closedConnection c | .establishmentError c | .abortedConnection c => (w.conn c).socketManager
  | .closedListener s => s

def reporter : Report → Dependent
  | .closedConnection c | .establishmentError c | .abortedConnection c => .connection c
  | .closedListener _ => .listener

def Possible (w : World) : Report → Prop
  | .closedConnection c | .establishmentError c | .abortedConnection c => w.live c = true
  | .closedListener s => (w.sm s).listener.isSome = true

def reason (w : World) : Report → CloseReason
  | .closedConnection _ | .closedListener _ => .graceful
  | .establishmentError _ => .establishmentError
  | .abortedConnection c =>
    if (w.conn c).state = .establishing then .establishmentError else .connectionError

instance (w : World) (r : Report) : Decidable (r.Possible w) := by
  rcases r with ⟨⟩ <;> dsimp only [Possible] <;> infer_instance

end Report

namespace World

variable {w w' : World} {s : Nat}

def Same (w w' : World) (s : Nat) : Dependent → Prop
  | .listener => (w'.sm s).listener = (w.sm s).listener
  | .connection c => w'.conn c = w.conn c

def Asks (w : World) (r : Report) : Prop :=
  ((w.handleReport r).sm (r.manager w)).closeRequests ≠ (w.sm (r.manager w)).closeRequests

/-- The report closes the socket only if the other dependents are closed, and neither it nor the
`socket_closed` callback that follows, with TCP within it, touches one of them. -/
def Isolates (w : World) (r : Report) : Prop :=
  ∀ d ∈ w.dependents (r.manager w), d ≠ r.reporter →
    (w.Asks r → w.isOpen (r.manager w) d = false) ∧
    Same w (w.handleReport r) (r.manager w) d ∧
    (w.Asks r → w.protocol ≠ .tcp →
      Same w ((w.handleReport r).closedSocketCb (r.manager w)) (r.manager w) d)

theorem Same.trans {w'' : World} {d : Dependent} (h : Same w w' s d) (h' : Same w' w'' s d) :
    Same w w'' s d := by
  cases d with
  | listener => exact Eq.trans h' h
  | connection c => exact Eq.trans h' h

/-! ### Closing the socket -/

theorem same_closedSocketCb {t d : Dependent} (h : w.opens s = [t]) (hd : d ≠ t) :
    Same w (w.closedSocketCb s) s d := by
  unfold closedSocketCb
  cases t with
  | listener =>
    rw [lastOpenConnection_eq_none h]
    cases d with
    | listener => exact absurd rfl hd
    | connection c => rfl
  | connection c =>
    rw [lastOpenConnection_eq_some h]
    cases d with
    | listener => rfl
    | connection e =>
      have hec : e ≠ c := fun he => hd (congrArg _ he)
      simp [Same, terminate, hec]

def noteRequest (w : World) (s : Nat) (r : CloseReason) : World :=
  w.modSm s fun m => { m with closeReason := r, closeRequests := m.closeRequests + 1 }

theorem noteRequest_sm (w : World) (s : Nat) (r : CloseReason) :
    (w.noteRequest s r).sm s =
      { w.sm s with closeReason := r, closeRequests := (w.sm s).closeRequests + 1 } := by
  simp [noteRequest]

theorem opens_of_keeps (hl : (w'.sm s).listener = (w.sm s).listener)
    (ha : (w'.sm s).allConnections = (w.sm s).allConnections) (hc : w'.conn = w.conn) :
    w'.opens s = w.opens s := by
  rw [opens_eq, opens_eq]
  unfold SocketManager.listenerOpen
  rw [hl, ha, hc]

theorem opens_noteRequest (w : World) (s : Nat) (r : CloseReason) :
    (w.noteRequest s r).opens s = w.opens s :=
  opens_of_keeps (by simp [noteRequest]) (by simp [noteRequest]) rfl

theorem socketManagerClose_eq (w : World) (s : Nat) (r : CloseReason) :
    w.socketManagerClose s r = match w.protocol with
      | .tcp => (w.noteRequest s r).closedSocketCb s
      | .udp => (w.noteRequest s r).modSm s (SocketManager.uvClose .socketClosedSuccess)
      | .quic => (w.noteRequest s r).modSm s (SocketManager.uvClose .socketTimerClose) := rfl

theorem closeRequests_closedSocketCb (w : World) (s : Nat) :
    ((w.closedSocketCb s).sm s).closeRequests = (w.sm s).closeRequests := by
  unfold closedSocketCb
  split
  · rfl
  · simp [SocketManager.closeListener]

theorem uvClose_keeps (m : SocketManager) (cb : CloseCb) :
    (m.uvClose cb).closeRequests = m.closeRequests ∧ (m.uvClose cb).listener = m.listener ∧
      (m.uvClose cb).allConnections = m.allConnections := by
  unfold SocketManager.uvClose
  split <;> simp

theorem handle_uvClose (m : SocketManager) (cb : CloseCb) :
    (m.uvClose cb).handle = if m.handle = .open then .closing cb else m.handle := by
  unfold SocketManager.uvClose
  split
  · next h => rw [h, if_neg Handle.noConfusion]
  · next h => rw [h, if_pos rfl]
  · next h => rw [if_neg h]

theorem closeRequests_socketManagerClose (w : World) (s : Nat) (r : CloseReason) :
    ((w.socketManagerClose s r).sm s).closeRequests = (w.sm s).closeRequests + 1 := by
  rw [socketManagerClose_eq]
  split
  · rw [closeRequests_closedSocketCb, noteRequest_sm]
  · simp [(uvClose_keeps _ _).1, noteRequest_sm]
  · simp [(uvClose_keeps _ _).1, noteRequest_sm]

theorem opens_uvClose (w : World) (s : Nat) (cb : CloseCb) :
    (w.modSm s (SocketManager.uvClose cb)).opens s = w.opens s :=
  opens_of_keeps (by simp [(uvClose_keeps _ _).2.1]) (by simp [(uvClose_keeps _ _).2.2]) rfl

theorem same_uvClose (w : World) (s : Nat) (cb : CloseCb) (d : Dependent) :
    Same w (w.modSm s (SocketManager.uvClose cb)) s d := by
  cases d with
  | listener => simp [Same, (uvClose_keeps _ _).2.1]
  | connection c => rfl

theorem same_noteRequest (w : World) (s : Nat) (r : CloseReason) (d : Dependent) :
    Same w (w.noteRequest s r) s d := by
  cases d with
  | listener => simp [Same, noteRequest_sm]
  | connection c => rfl

theorem same_socketManagerClose {t d : Dependent} (h : w.opens s = [t]) (hd : d ≠ t)
    (r : CloseReason) : Same w (w.socketManagerClose s r) s d := by
  rw [socketManagerClose_eq]
  have hnote := same_noteRequest w s r d
  split
  · have hopens : (w.noteRequest s r).opens s = [t] := by rw [opens_noteRequest, h]
    exact hnote.trans (same_closedSocketCb hopens hd)
  · exact hnote.trans (same_uvClose _ s _ d)
  · exact hnote.trans (same_uvClose _ s _ d)

theorem opens_socketManagerClose (hp : w.protocol ≠ .tcp) (s : Nat) (r : CloseReason) :
    (w.socketManagerClose s r).opens s = w.opens s := by
  rw [socketManagerClose_eq]
  split
  · next ht => exact absurd ht hp
  · rw [opens_uvClose, opens_noteRequest]
  · rw [opens_uvClose, opens_noteRequest]

/-! ### Reports -/

theorem handleReport_last {r : Report} (h : w.numOpenDependents (r.manager w) = 1) :
    w.handleReport r = w.socketManagerClose (r.manager w) (r.reason w) := by
  cases r <;> exact if_pos h

theorem handleReport_other {r : Report} (h : w.numOpenDependents (r.manager w) ≠ 1) :
    w.handleReport r = match r.reporter with
      | .connection c => w.terminate c (r.reason w)
      | .listener => w.modSm (r.manager w) SocketManager.closeListener := by
  cases r <;> exact if_neg h

theorem asks_iff (w : World) (r : Report) :
    w.Asks r ↔ w.numOpenDependents (r.manager w) = 1 := by
  unfold Asks
  by_cases h : w.numOpenDependents (r.manager w) = 1
  · rw [handleReport_last h, closeRequests_socketManagerClose]
    simp [h]
  · refine ⟨fun hne => absurd ?_ hne, fun hone => absurd hone h⟩
    rw [handleReport_other h]
    cases r <;> simp [Report.reporter, Report.manager, terminate, SocketManager.closeListener]

theorem same_handleReport_other {r : Report} (h : w.numOpenDependents (r.manager w) ≠ 1)
    {d : Dependent} (hd : d ≠ r.reporter) : Same w (w.handleReport r) (r.manager w) d := by
  rw [handleReport_other h]
  cases hr : r.reporter with
  | listener =>
    cases d with
    | listener => exact absurd hr.symm hd
    | connection c => rfl
  | connection c =>
    cases d with
    | listener => rfl
    | connection e =>
      have hec : e ≠ c := by
        rintro rfl
        exact hd hr.symm
      simp [Same, terminate, hec]

theorem reporter_mem (h : Placed w) {r : Report} (hr : r.Possible w) :
    r.reporter ∈ w.dependents (r.manager w) := by
  have hconn : ∀ c, w.live c = true → .connection c ∈ w.dependents (w.conn c).socketManager := by
    intro c hc
    simp only [live, decide_eq_true_eq] at hc
    exact mem_dependents_connection.mpr (h.mem_home c hc.1 hc.2)
  cases r with
  | closedConnection c => exact hconn c hr
  | establishmentError c => exact hconn c hr
  | abortedConnection c => exact hconn c hr
  | closedListener s => exact mem_dependents_listener.mpr hr

theorem isolates_of_not_last {r : Report} (h : w.numOpenDependents (r.manager w) ≠ 1) :
    w.Isolates r := by
  have hask : ¬ w.Asks r := mt (asks_iff w r).mp h
  exact fun d _ hd => ⟨fun ha => absurd ha hask, same_handleReport_other h hd,
    fun ha => absurd ha hask⟩

theorem isolates_of_open {r : Report} (h : w.opens (r.manager w) = [r.reporter]) :
    w.Isolates r := by
  have hone := numOpenDependents_of_opens h
  intro d hd hne
  have hsame := same_socketManagerClose h hne (r.reason w)
  rw [handleReport_last hone]
  refine ⟨fun _ => closed_of_opens h hd hne, hsame, fun _ hp => hsame.trans ?_⟩
  exact same_closedSocketCb ((opens_socketManagerClose hp _ _).trans h) hne

/-- In every world the machine reaches, a report touches the reporter alone exactly if the reporter
is open or the number of open dependents is not 1. -/
theorem report_isolates_iff (p : Protocol) (es : List Event) (r : Report)
    (hr : r.Possible (run p es)) :
    (run p es).Isolates r ↔
      (run p es).isOpen (r.manager (run p es)) r.reporter = true ∨
        (run p es).numOpenDependents (r.manager (run p es)) ≠ 1 := by
  set w := run p es
  have hmem := reporter_mem (placed_run p es) hr
  constructor
  · intro h
    by_contra hnot
    obtain ⟨hclosed, hone⟩ := not_or.mp hnot
    have hone := not_not.mp hone
    -- the one dependent that is open is not the reporter
    obtain ⟨t, ht⟩ := List.length_eq_one_iff.mp ((numOpenDependents_eq w _).symm.trans hone)
    have htmem : t ∈ w.opens (r.manager w) := ht ▸ List.mem_singleton_self t
    have htr : t ≠ r.reporter := by
      rintro rfl
      exact hclosed (mem_opens.mp htmem).2
    have hask := (h t (mem_opens.mp htmem).1 htr).1 ((asks_iff w r).mpr hone)
    rw [(mem_opens.mp htmem).2] at hask
    cases hask
  · rintro (ho | hne)
    · by_cases hone : w.numOpenDependents (r.manager w) = 1
      · exact isolates_of_open (opens_eq_singleton hone (mem_opens.mpr ⟨hmem, ho⟩))
      · exact isolates_of_not_last hone
    · exact isolates_of_not_last hne

theorem report_isolates_listener :
    (run .quic [.listen {} {}, .newCnx 0, .cnxReady 0 0]).Isolates (.closedListener 0) :=
  (report_isolates_iff .quic _ (.closedListener 0) (by decide)).mpr (Or.inl (by decide))

/-- A QUIC connection is aborted, which closes it without a report. The RESET of the peer is then
taken for the end of its clone, which is told of an error. -/
theorem report_closes_sibling :
    ¬ (run .quic [.initiate {} (some 0) .begun, .cnxReady 0 0, .raceWon 0, .clone 0,
        .abort 0 []]).Isolates (.abortedConnection 0) ∧
      ((run .quic [.initiate {} (some 0) .begun, .cnxReady 0 0, .raceWon 0, .clone 0, .abort 0 [],
        .streamReset 0 0, .handleClosed 0, .handleClosed 0]).conn 1).history =
        [.called .connectionError, .entered .closed, .called .ready, .entered .established] := by
  refine ⟨fun h => ?_, by decide⟩
  have hclone := (h (.connection 1) (by decide) (by decide)).1
  exact absurd (hclone (by unfold Asks; decide)) (by decide)

end World

end CTaps.Connections
