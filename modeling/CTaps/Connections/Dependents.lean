import CTaps.Connections.Placed

/-! The dependents of a socket manager, its listener and its connections, and which of them are
open. `opens` lists the open ones; the socket manager only ever asks how many there are and which
connection among them is the first. -/

namespace CTaps.Connections

inductive Dependent
  | listener
  | connection (c : Nat)
deriving DecidableEq, Repr

namespace World

def dependents (w : World) (s : Nat) : List Dependent :=
  (if (w.sm s).listener.isSome then [.listener] else []) ++
    (w.sm s).allConnections.map .connection

def isOpen (w : World) (s : Nat) : Dependent → Bool
  | .listener => (w.sm s).listenerOpen
  | .connection c => !(w.conn c).isClosed

def opens (w : World) (s : Nat) : List Dependent := (w.dependents s).filter (w.isOpen s)

variable {w w' : World} {s : Nat}

theorem mem_dependents_connection {c : Nat} :
    .connection c ∈ w.dependents s ↔ c ∈ (w.sm s).allConnections := by
  unfold dependents
  split <;> simp

theorem mem_dependents_listener :
    Dependent.listener ∈ w.dependents s ↔ (w.sm s).listener.isSome = true := by
  unfold dependents
  split <;> simp_all

theorem isSome_of_listenerOpen (h : (w.sm s).listenerOpen = true) :
    (w.sm s).listener.isSome = true := by
  unfold SocketManager.listenerOpen at h
  split at h
  · next hl => simp [hl]
  · cases h

theorem listenerOpen_received (m : SocketManager) (c : Nat) :
    { m with listener := m.listener.map (Listener.received c) }.listenerOpen = m.listenerOpen := by
  have hclosed : ∀ l : Listener, (l.received c).closed = l.closed := by
    intro l
    unfold Listener.received
    split <;> rfl
  unfold SocketManager.listenerOpen
  cases hl : m.listener with
  | none => simp
  | some l => simp [hclosed]

theorem opens_eq (w : World) (s : Nat) :
    w.opens s = (if (w.sm s).listenerOpen then [.listener] else []) ++
      ((w.sm s).allConnections.filter fun c => !(w.conn c).isClosed).map .connection := by
  unfold opens dependents
  rw [List.filter_append, List.filter_map]
  refine congrArg₂ _ ?_ rfl
  by_cases ho : (w.sm s).listenerOpen = true
  · simp [isSome_of_listenerOpen ho, isOpen, ho]
  · split <;> simp [isOpen, ho]

theorem numOpenDependents_eq (w : World) (s : Nat) : w.numOpenDependents s = (w.opens s).length := by
  rw [opens_eq, List.length_append, List.length_map, ← List.countP_eq_length_filter]
  unfold numOpenDependents
  split <;> rfl

theorem mem_opens {d : Dependent} : d ∈ w.opens s ↔ d ∈ w.dependents s ∧ w.isOpen s d = true :=
  List.mem_filter

theorem opens_eq_singleton (h : w.numOpenDependents s = 1) {d : Dependent} (hd : d ∈ w.opens s) :
    w.opens s = [d] := by
  rw [numOpenDependents_eq] at h
  obtain ⟨a, ha⟩ := List.length_eq_one_iff.mp h
  rw [ha, List.mem_singleton] at hd
  rw [ha, hd]

theorem numOpenDependents_of_opens {d : Dependent} (h : w.opens s = [d]) :
    w.numOpenDependents s = 1 := by
  rw [numOpenDependents_eq, h]
  rfl

theorem closed_of_opens {t d : Dependent} (h : w.opens s = [t]) (hd : d ∈ w.dependents s)
    (hne : d ≠ t) : w.isOpen s d = false := by
  cases ho : w.isOpen s d with
  | false => rfl
  | true =>
    have hmem : d ∈ w.opens s := mem_opens.mpr ⟨hd, ho⟩
    rw [h] at hmem
    exact absurd (List.mem_singleton.mp hmem) hne

theorem dependents_of_site (hs : w'.site = w.site) (s : Nat) :
    w'.dependents s = w.dependents s := by
  have hsm : (w'.sm s).site = (w.sm s).site := congrFun (congrArg Site.sm hs) s
  simp only [SocketManager.site, Prod.mk.injEq] at hsm
  unfold dependents
  rw [hsm.1, hsm.2.2]

theorem lastOpenConnection_eq_none (h : w.opens s = [.listener]) :
    w.lastOpenConnection s = none := by
  refine List.find?_eq_none.mpr fun c hc => ?_
  have hclosed := closed_of_opens h (mem_dependents_connection.mpr hc) Dependent.noConfusion
  simpa [isOpen] using hclosed

theorem lastOpenConnection_eq_some {c : Nat} (h : w.opens s = [.connection c]) :
    w.lastOpenConnection s = some c := by
  rw [opens_eq] at h
  have hlistener : (w.sm s).listenerOpen = false := by
    cases ho : (w.sm s).listenerOpen with
    | false => rfl
    | true => simp [ho] at h
  have hfilter : ((w.sm s).allConnections.filter fun c => !(w.conn c).isClosed) = [c] := by
    simpa [hlistener, List.map_eq_singleton_iff] using h
  unfold lastOpenConnection
  rw [← List.head?_filter, hfilter]
  rfl

end World

end CTaps.Connections
