import CTaps.Connections.Window

/-! The two ways in which a connection hears of its end. One of several open dependents is told at
once; the last one waits until its socket is closed, and is told with the reason that the socket
manager has kept. As long as nothing else touches the socket manager, both come to the same. -/

namespace CTaps.Connections

inductive Ending
  | closedConnection | establishmentError | abortedConnection
deriving DecidableEq, Repr

namespace Ending

def report (c : Nat) : Ending → Report
  | .closedConnection => .closedConnection c
  | .establishmentError => .establishmentError c
  | .abortedConnection => .abortedConnection c

def callback (establishing : Bool) : Ending → Callback
  | .closedConnection => .closed
  | .establishmentError => .establishmentError
  | .abortedConnection => if establishing then .establishmentError else .connectionError

end Ending

def Connection.toldOf (e : Ending) (x : Connection) : Connection :=
  (x.enter .closed).invoke (e.callback (x.state = .establishing))

namespace World

variable {w v : World} {e : Ending} {c s : Nat}

structure Untouched (s : Nat) (w v : World) : Prop where
  protocol : v.protocol = w.protocol
  sm : v.sm s = w.sm s
  conn : ∀ c ∈ (w.sm s).allConnections, v.conn c = w.conn c

theorem Untouched.refl (s : Nat) (w : World) : Untouched s w w := ⟨rfl, rfl, fun _ _ => rfl⟩

theorem Untouched.opens_eq (h : Untouched s w v) : v.opens s = w.opens s := by
  rw [World.opens_eq, World.opens_eq, h.sm]
  refine congrArg₂ _ rfl (congrArg _ (List.filter_congr fun d hd => ?_))
  rw [h.conn d hd]

structure Awaits (w : World) (e : Ending) (c s : Nat) (v : World) : Prop where
  only : v.opens s = [.connection c]
  reason : (v.sm s).closeReason.callback = e.callback ((w.conn c).state = .establishing)
  conn : v.conn c = w.conn c

theorem Awaits.mem (h : Awaits w e c s v) : c ∈ (v.sm s).allConnections := by
  have hmem : .connection c ∈ v.opens s := h.only ▸ List.mem_singleton_self _
  exact mem_dependents_connection.mp (mem_opens.mp hmem).1

theorem Awaits.untouched {v' : World} (h : Awaits w e c s v) (hv : Untouched s v v') :
    Awaits w e c s v' :=
  ⟨hv.opens_eq.trans h.only, hv.sm ▸ h.reason, (hv.conn c h.mem).trans h.conn⟩

theorem Awaits.withHandle (h : Awaits w e c s v) (hd : Handle) :
    Awaits w e c s (v.modSm s fun m => { m with handle := hd }) := by
  refine ⟨?_, by simpa using h.reason, h.conn⟩
  rw [← h.only]
  exact opens_of_keeps (by simp) (by simp) rfl

theorem Awaits.closedSocketCb (h : Awaits w e c s v) :
    (v.closedSocketCb s).conn c = (w.conn c).toldOf e := by
  have htold : (v.closedSocketCb s).conn c = _ := told_closedSocketCb h.only
  rw [htold, h.reason, h.conn]
  rfl

def Closing (w : World) (e : Ending) (c s : Nat) (v : World) : Prop :=
  (v.protocol = .udp ∧ (v.sm s).handle = .closing .socketClosedSuccess ∧ Awaits w e c s v) ∨
  (v.protocol = .quic ∧ ((v.sm s).handle = .closing .socketTimerClose ∨
    (v.sm s).handle = .closing .quicClosedPollHandle) ∧ Awaits w e c s v) ∨
  ((v.sm s).handle = .closed ∧ c ∈ (v.sm s).allConnections ∧ v.conn c = (w.conn c).toldOf e)

def handlesLeft (v : World) (s : Nat) : Nat :=
  match (v.sm s).handle with
  | .closing .socketTimerClose => 2
  | .closing _ => 1
  | _ => 0

theorem Closing.untouched {v' : World} (h : Closing w e c s v) (hv : Untouched s v v') :
    Closing w e c s v' := by
  unfold Closing
  rw [hv.protocol, hv.sm]
  rcases h with ⟨hp, hh, ha⟩ | ⟨hp, hh, ha⟩ | ⟨hh, hmem, hc⟩
  · exact Or.inl ⟨hp, hh, ha.untouched hv⟩
  · exact Or.inr (Or.inl ⟨hp, hh, ha.untouched hv⟩)
  · exact Or.inr (Or.inr ⟨hh, hmem, (hv.conn c hmem).trans hc⟩)

theorem Awaits.closed (h : Awaits w e c s v) :
    Closing w e c s ((v.markHandleClosed s).closedSocketCb s) ∧
      ((v.markHandleClosed s).closedSocketCb s).handlesLeft s = 0 := by
  have hmark : Awaits w e c s (v.markHandleClosed s) := h.withHandle .closed
  have hsm : ((v.markHandleClosed s).closedSocketCb s).sm s = (v.markHandleClosed s).sm s := by
    unfold World.closedSocketCb
    rw [lastOpenConnection_eq_some hmark.only]
    rfl
  refine ⟨Or.inr (Or.inr ⟨?_, ?_, hmark.closedSocketCb⟩), ?_⟩
  · rw [hsm]
    simp
  · rw [hsm]
    exact hmark.mem
  · unfold handlesLeft
    rw [hsm]
    simp

theorem Closing.handleClosed (h : Closing w e c s v) (hp : v.protocol ≠ .tcp) :
    Closing w e c s (v.handleClosed s) ∧
      (v.handleClosed s).handlesLeft s ≤ v.handlesLeft s - 1 := by
  have hlast (ha : Awaits w e c s v) := And.intro ha.closed.1
    ((Nat.le_of_eq ha.closed.2).trans (Nat.zero_le (v.handlesLeft s - 1)))
  rcases h with ⟨hudp, hh, ha⟩ | ⟨hquic, hh | hh, ha⟩ | ⟨hh, hmem, hc⟩
  · rw [World.handleClosed, hudp, udpHandleClosed, hh]
    exact hlast ha
  · rw [World.handleClosed, hquic, quicHandleClosed, hh]
    dsimp only
    split
    · -- the poll handle is next
      refine ⟨Or.inr (Or.inl ⟨hquic, Or.inr (by simp), ha.withHandle _⟩), ?_⟩
      simp [handlesLeft, hh]
    · exact hlast ha
  · rw [World.handleClosed, hquic, quicHandleClosed, hh]
    exact hlast ha
  · have hsame : v.handleClosed s = v := by
      unfold World.handleClosed tcpHandleClosed udpHandleClosed quicHandleClosed
      rw [hh]
      cases hproto : v.protocol with
      | tcp => exact absurd hproto hp
      | udp => rfl
      | quic => rfl
    rw [hsame]
    refine ⟨Or.inr (Or.inr ⟨hh, hmem, hc⟩), ?_⟩
    simp [handlesLeft, hh]

def Waits (s : Nat) (w : World) (f : Event) : Prop := f = .handleClosed s ∨ Untouched s w (w.step f)

theorem Closing.run (h : Closing w e c s v) (hp : v.protocol ≠ .tcp) {fs : List Event}
    (hfs : Lib.AllSteps step (Waits s) v fs) :
    Closing w e c s (Lib.run step v fs) ∧
      (Lib.run step v fs).handlesLeft s ≤ v.handlesLeft s - fs.count (.handleClosed s) := by
  induction fs generalizing v with
  | nil => exact ⟨h, Nat.le_refl _⟩
  | cons f fs ih =>
    have hproto : (v.step f).protocol ≠ .tcp := by rwa [protocol_step]
    rw [Lib.run_cons]
    by_cases hf : f = .handleClosed s
    · subst hf
      obtain ⟨hnext, hleft⟩ := h.handleClosed hp
      obtain ⟨hrun, hcount⟩ := ih hnext hproto hfs.2
      refine ⟨hrun, hcount.trans ?_⟩
      rw [List.count_cons_self]
      have hstep : (v.step (.handleClosed s)).handlesLeft s ≤ v.handlesLeft s - 1 := hleft
      omega
    · have hv : Untouched s v (v.step f) := hfs.1.resolve_left hf
      obtain ⟨hrun, hcount⟩ := ih (h.untouched hv) hproto hfs.2
      refine ⟨hrun, ?_⟩
      rw [List.count_cons_of_ne hf]
      have hleft : (v.step f).handlesLeft s = v.handlesLeft s := by
        unfold handlesLeft
        rw [hv.sm]
      rw [← hleft]
      exact hcount

end World

end CTaps.Connections
