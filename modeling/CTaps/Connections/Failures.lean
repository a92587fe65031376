import CTaps.Connections.Placed

/-! Calls that fail. A clone that cannot be started and a listener that cannot be opened leave all
else as it was. Two failures are not harmless, and no event of the machine: a TCP clone is freed
while libuv is closing its handle, and an accepted TCP connection that cannot be read from is closed
twice and freed where its socket manager still lists it. -/

namespace CTaps.Connections

open Gathering (Protocol)

namespace World

variable {w w' : World}

structure Spared (w w' : World) : Prop where
  conns : ∀ d < w.numConns, w'.conn d = w.conn d
  sms : ∀ s < w.numSms, w'.sm s = w.sm s
  cnxs : w'.cnx = w.cnx
  members : ∀ g, w'.members g = w.members g

theorem Spared.of_discarded (x : Connection) :
    Spared w ((w.addConnection x).connectionFree w.numConns) := by
  have hconn : ∀ d < w.numConns, ((w.addConnection x).connectionFree w.numConns).conn d = w.conn d := by
    intro d hd
    simp [connectionFree, Nat.ne_of_lt hd]
  refine ⟨hconn, fun s _ => ?_, rfl, fun g => ?_⟩
  · by_cases hs : s = x.socketManager
    · subst hs
      simp [connectionFree]
    · simp [connectionFree, hs]
  · have hnew : (((w.addConnection x).connectionFree w.numConns).conn w.numConns).freed = true := by
      simp [connectionFree]
    unfold World.members
    rw [show ((w.addConnection x).connectionFree w.numConns).numConns = w.numConns + 1 from rfl,
      List.range_succ, List.filter_append, List.filter_singleton]
    simp only [hnew, Bool.true_eq_false, false_and, decide_false, cond_false, List.append_nil]
    refine List.filter_congr fun d hd => ?_
    rw [hconn d (List.mem_range.mp hd)]

theorem Spared.withSocketManager (m : SocketManager) (h : Spared (w.addSocketManager m) w') :
    Spared w w' where
  conns := h.conns
  sms s hs := by
    rw [h.sms s (Nat.lt_succ_of_lt hs)]
    exact Function.update_of_ne (Nat.ne_of_lt hs) _ _
  cnxs := h.cnxs
  members := h.members

/-- A clone that has failed was freed, and nothing else has changed. -/
theorem connectionCloneFull_spares {c : Nat} {start : CloneStart} (hstart : start ≠ .begun)
    (h : w.connectionCloneFull c start = some w') :
    Spared w w' ∧ w'.numConns = w.numConns + 1 ∧ (w'.conn w.numConns).freed = true := by
  unfold connectionCloneFull at h
  split at h
  · exact absurd rfl hstart
  · cases h
  all_goals
    cases h
    refine ⟨?_, rfl, by simp [connectionFree]⟩
  · exact .of_discarded _
  · exact .of_discarded _
  · exact .withSocketManager _ (.of_discarded _)
  · exact .withSocketManager _ (.of_discarded _)

theorem listenFailed_spares (l : ListenerCallbacks) (cbs : UserCallbacks) (handle : Handle) :
    Spared w (w.listenFailed l cbs handle) where
  conns _ _ := rfl
  sms s hs := by simp [listenFailed, Nat.ne_of_lt hs]
  cnxs := rfl
  members _ := rfl

/-! ### Runs with failures -/

inductive Attempted
  | event (e : Event)
  | cloneFailed (c : Nat) (start : CloneStart)
  | listenFailed (l : ListenerCallbacks) (cbs : UserCallbacks) (handle : Handle)
deriving DecidableEq, Repr

def attempt (w : World) : Attempted → World
  | .event e => w.step e
  | .cloneFailed c start =>
    if w.held c ∧ start ≠ .begun then (w.connectionCloneFull c start).getD w else w
  | .listenFailed l cbs handle => w.listenFailed l cbs handle

theorem Placed.discarded (h : Placed w) {x : Connection} (hs : x.socketManager < w.numSms)
    (hg : x.group < w.numGroups) (hf : x.freed = false)
    (hq : w.protocol = .quic → ∀ c < w.numConns, (w.conn c).group = x.group →
      (w.conn c).socketManager = x.socketManager) :
    Placed ((w.addConnection x).connectionFree w.numConns) :=
  (h.withConnection hs hg hf hq).withFreed _

theorem placed_connectionCloneFull (h : Placed w) {c : Nat} (hc : c < w.numConns)
    {start : CloneStart} (hw' : w.connectionCloneFull c start = some w') : Placed w' := by
  have hmoved : w.protocol ≠ .quic → ∀ m : SocketManager, m.allConnections = [] →
      Placed (((w.addSocketManager m).addConnection ((w.conn c).cloneOf w.numSms)).connectionFree
        w.numConns) := by
    intro hp m hm
    exact (h.withSocketManager hm).discarded (Nat.lt_succ_self _) (h.group_lt c hc) rfl
      fun hq => absurd hq hp
  unfold connectionCloneFull at hw'
  split at hw'
  · cases hw'
    exact placed_cloneConnection h hc
  · cases hw'
  · cases hw'
    exact (h.withClone hc).withFreed _
  · cases hw'
    exact (h.withClone hc).withFreed _
  · next hp =>
    cases hw'
    exact hmoved (by simp [hp]) _ rfl
  · next hp =>
    cases hw'
    exact hmoved (by simp [hp]) _ rfl

theorem Placed.attempt (h : Placed w) (a : Attempted) : Placed (w.attempt a) := by
  cases a with
  | event e => exact h.step e
  | cloneFailed c start =>
    unfold World.attempt
    dsimp only
    split
    · next hc =>
      cases hw' : w.connectionCloneFull c start with
      | none => exact h
      | some w' => exact placed_connectionCloneFull h (lt_of_held hc.1) hw'
    · exact h
  | listenFailed l cbs handle => exact h.withSocketManager rfl

/-- The layout of the world holds in every run, whatever fails in it: in particular, a connection that
was freed because it could not be cloned is on no list and in no group. -/
theorem placed_attempts (p : Protocol) (as : List Attempted) :
    Placed (Lib.run attempt { protocol := p } as) :=
  Lib.run_invariant_of_step (fun _ a h => h.attempt a) (placed_init p) as

/-! ### Failures that are not harmless -/

/-- libuv refuses to connect the clone: it is freed, and once its handle is closed it is told so. -/
theorem freed_clone_told (hp : w.protocol = .tcp) {c : Nat}
    (h : w.connectionCloneFull c .refused = some w') :
    (w'.conn w.numConns).freed = true ∧
      ((w'.handleClosed w.numSms).conn w.numConns).state = .closed ∧
      ((w'.handleClosed w.numSms).conn w.numConns).history =
        ((w.conn c).cloneOf w.numSms).callOf .closed ++ [.entered .closed] := by
  simp only [connectionCloneFull, hp, Option.some.injEq] at h
  set m : SocketManager := { handle := .closing .onLibuvClose, tcpConnection := some w.numConns }
  set x := (w.conn c).cloneOf w.numSms
  have hconn : w'.conn w.numConns = { x with freed := true } := by simp [← h, connectionFree]
  have hsm : w'.sm w.numSms = m := by simp [← h, connectionFree, m, x, Connection.cloneOf]
  have hproto : w'.protocol = .tcp := by rw [← h, ← hp]; rfl
  -- the list of its socket manager is empty, so nothing is left to be closed first
  have hclosed : w'.handleClosed w.numSms =
      (w'.markHandleClosed w.numSms).terminate w.numConns .graceful := by
    have hdependents : (w'.markHandleClosed w.numSms).numOpenDependents w.numSms = 0 := by
      simp [numOpenDependents, hsm, m, SocketManager.listenerOpen]
    have hhome : ((w'.markHandleClosed w.numSms).conn w.numConns).socketManager = w.numSms := by
      simp [hconn, x, Connection.cloneOf]
    rw [handleClosed, hproto]
    dsimp only
    rw [tcpHandleClosed, hsm]
    dsimp only [m]
    rw [if_pos rfl, closedConnectionCb, reportEnd, hhome, hdependents, if_neg (by decide)]
  refine ⟨by rw [hconn], ?_, ?_⟩
  · simp [hclosed, terminate, Connection.invoke, Connection.enter]
  · simp [hclosed, terminate, Connection.invoke, Connection.enter, hconn, Connection.callOf, x,
      Connection.cloneOf, CloseReason.callback]

/-- `uv_read_start` fails for an accepted connection: its handle is closed, and closed again by
`ct_connection_close`, and the connection is freed while its socket manager still lists it. -/
theorem accepted_closed_twice (hp : w.protocol = .tcp) {s : Nat} {l : Listener}
    (hl : (w.sm s).listener = some l) (hopen : (w.sm s).handle = .open) :
    ((w.newStreamConnectionCb s false).sm w.numSms).repeatedCloses = 1 ∧
      ((w.newStreamConnectionCb s false).conn w.numConns).freed = true ∧
      w.numConns ∈ ((w.newStreamConnectionCb s false).sm w.numSms).allConnections := by
  set w₁ := (w.addAccepted l).modSm w.numSms (SocketManager.uvClose .onLibuvClose) with hw₁
  have hresult : w.newStreamConnectionCb s false =
      (w₁.connectionClose w.numConns).modConn w.numConns fun x => { x with freed := true } := by
    rw [newStreamConnectionCb, hl]
    dsimp only
    rw [if_pos hopen, if_neg Bool.false_ne_true]
  have hclose : w₁.connectionClose w.numConns =
      (w₁.modConn w.numConns (Connection.enter .closing)).tcpClose w.numConns := by
    have hstate : (w₁.conn w.numConns).isClosedOrClosing = false := by
      simp [hw₁, addAccepted, Connection.isClosedOrClosing]
    have hproto : w₁.protocol = .tcp := hp
    rw [connectionClose, hstate, if_neg Bool.false_ne_true, protocolClose]
    simp [hproto]
  have hsm : ((w₁.connectionClose w.numConns).sm w.numSms) =
      { handle := .closing .onLibuvClose, tcpConnection := some w.numConns,
        allConnections := [w.numConns], repeatedCloses := 1 } := by
    rw [hclose]
    simp [tcpClose, hw₁, addAccepted, SocketManager.uvClose, Connection.enter]
  rw [hresult]
  refine ⟨?_, ?_, ?_⟩
  · rw [modConn_sm, hsm]
  · simp
  · rw [modConn_sm, hsm]
    exact List.mem_singleton_self _

end World

end CTaps.Connections
