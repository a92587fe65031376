import CTaps.Connections.Window

/-! The open dependents of a socket manager, and what updates of a connection, of a socket manager
and of the world leave of them. -/

namespace CTaps.Connections.World

variable {w : World}

theorem nodup_opens {s : Nat} (h : (w.sm s).allConnections.Nodup) : (w.opens s).Nodup := by
  rw [opens_eq]
  have hconns : (((w.sm s).allConnections.filter fun c => !(w.conn c).isClosed).map
      Dependent.connection).Nodup :=
    (h.filter _).map fun _ _ heq => Dependent.connection.inj heq
  split
  · refine List.nodup_cons.mpr ⟨fun hmem => ?_, hconns⟩
    obtain ⟨c, -, hc⟩ := List.mem_map.mp hmem
    cases hc
  · exact hconns

theorem opens_eq_of_forall {s : Nat} (h : (w.sm s).allConnections.Nodup) {t : Dependent}
    (ht : t ∈ w.opens s) (hall : ∀ d ∈ w.opens s, d = t) : w.opens s = [t] := by
  refine List.perm_singleton.mp ((List.perm_ext_iff_of_nodup (nodup_opens h) ?_).mpr fun d => ?_)
  · exact List.nodup_singleton t
  · rw [List.mem_singleton]
    exact ⟨hall d, fun hd => hd ▸ ht⟩

theorem exists_other_open (h : Placed w) {s : Nat} (hne : w.numOpenDependents s ≠ 1)
    (ho : ∃ d, d ∈ w.opens s) (t : Dependent) : ∃ d ∈ w.opens s, d ≠ t := by
  obtain ⟨d, hd⟩ := ho
  by_contra hall
  simp only [not_exists, not_and, not_not] at hall
  exact hne (numOpenDependents_of_opens (opens_eq_of_forall (h.nodup s) (hall d hd ▸ hd) hall))

theorem exists_mem_opens {s : Nat} (hone : w.numOpenDependents s = 1) : ∃ d, d ∈ w.opens s := by
  rw [numOpenDependents_eq] at hone
  exact List.exists_mem_of_length_pos (by rw [hone]; exact Nat.one_pos)

theorem isOpen_connection {s c : Nat} : w.isOpen s (.connection c) = true ↔
    (w.conn c).isClosed = false := by
  simp [isOpen]

/-! ### Updates -/

theorem mem_opens_modConn {s c : Nat} {f : Connection → Connection} {d : Dependent}
    (hd : d ∈ w.opens s) (hc : d = .connection c → (f (w.conn c)).isClosed = false) :
    d ∈ (w.modConn c f).opens s := by
  obtain ⟨hdep, hopen⟩ := mem_opens.mp hd
  refine mem_opens.mpr ⟨hdep, ?_⟩
  cases d with
  | listener => exact hopen
  | connection e =>
    rw [isOpen_connection] at hopen ⊢
    by_cases he : e = c
    · subst he
      simpa using hc rfl
    · simpa [he] using hopen

theorem opens_modSm {s u : Nat} {f : SocketManager → SocketManager}
    (hl : (f (w.sm u)).listenerOpen = (w.sm u).listenerOpen)
    (ha : (f (w.sm u)).allConnections = (w.sm u).allConnections) :
    (w.modSm u f).opens s = w.opens s := by
  rw [opens_eq, opens_eq]
  by_cases hs : s = u
  · subst hs
    simp [hl, ha]
  · simp [hs]

theorem opens_addSocketManager {m : SocketManager} {s : Nat} (hs : s ≠ w.numSms) :
    (w.addSocketManager m).opens s = w.opens s := by
  rw [opens_eq, opens_eq]
  simp [hs]

/-! ### Connections that come and go -/

theorem sm_addConnection_keeps (w : World) (x : Connection) (s : Nat) :
    ((w.addConnection x).sm s).listener = (w.sm s).listener ∧
      ((w.addConnection x).sm s).handle = (w.sm s).handle :=
  ⟨w.sm_addConnection x s SocketManager.listener fun _ _ => rfl,
    w.sm_addConnection x s SocketManager.handle fun _ _ => rfl⟩

theorem mem_opens_addConnection (hpl : Placed w) {x : Connection} {s : Nat} {d : Dependent}
    (hd : d ∈ w.opens s) : d ∈ (w.addConnection x).opens s := by
  obtain ⟨hdep, hopen⟩ := mem_opens.mp hd
  refine mem_opens.mpr ?_
  cases d with
  | listener =>
    have hlistener := (sm_addConnection_keeps w x s).1
    refine ⟨mem_dependents_listener.mpr ?_, ?_⟩
    · rw [hlistener]
      exact mem_dependents_listener.mp hdep
    · rw [isOpen, SocketManager.listenerOpen, hlistener]
      exact hopen
  | connection c =>
    have hmem := mem_dependents_connection.mp hdep
    have hlt : c ≠ w.numConns := Nat.ne_of_lt (hpl.lt_of_mem s c hmem)
    refine ⟨mem_dependents_connection.mpr ((mem_addConnection x s c).mpr ?_), ?_⟩
    · exact Or.inr hmem
    · simpa [isOpen, hlt] using hopen

theorem mem_opens_new {x : Connection} (hx : x.isClosed = false) :
    .connection w.numConns ∈ (w.addConnection x).opens x.socketManager := by
  refine mem_opens.mpr ⟨mem_dependents_connection.mpr ?_, ?_⟩
  · simp
  · simpa [isOpen] using hx

theorem listener_connectionFree (w : World) (c s : Nat) :
    ((w.connectionFree c).sm s).listener = (w.sm s).listener :=
  w.sm_connectionFree c s SocketManager.listener fun _ _ => rfl

theorem handle_connectionFree (w : World) (c s : Nat) :
    ((w.connectionFree c).sm s).handle = (w.sm s).handle :=
  w.sm_connectionFree c s SocketManager.handle fun _ _ => rfl

theorem mem_opens_free {c : Nat} (hc : (w.conn c).isClosed = true) {s : Nat} {d : Dependent}
    (hd : d ∈ w.opens s) : d ∈ (w.connectionFree c).opens s := by
  obtain ⟨hdep, hopen⟩ := mem_opens.mp hd
  have hlistener := listener_connectionFree w c s
  refine mem_opens.mpr ?_
  cases d with
  | listener =>
    refine ⟨mem_dependents_listener.mpr ?_, ?_⟩
    · rw [hlistener]
      exact mem_dependents_listener.mp hdep
    · rw [isOpen, SocketManager.listenerOpen, hlistener]
      exact hopen
  | connection e =>
    have hne : e ≠ c := by
      rintro rfl
      rw [isOpen_connection, hc] at hopen
      cases hopen
    have hmem := mem_dependents_connection.mp hdep
    refine ⟨mem_dependents_connection.mpr ?_, ?_⟩
    · unfold connectionFree
      by_cases hsm : s = (w.conn c).socketManager
      · subst hsm
        simpa using (List.mem_erase_of_ne hne).mpr hmem
      · simpa [hsm] using hmem
    · simpa [isOpen, connectionFree, hne] using hopen

theorem exists_other_active (hpl : Placed w) (hp : w.protocol = .quic) {s c : Nat}
    (hc : c ∈ (w.sm s).allConnections) (h : 1 < w.numActiveConnections (w.conn c).group) :
    ∃ d ∈ w.opens s, d ≠ .connection c := by
  by_contra hall
  simp only [not_exists, not_and, not_not] at hall
  have hsub : ((w.members (w.conn c).group).filter fun d => !(w.conn d).isClosed) ⊆ [c] := by
    intro d hd
    obtain ⟨hd, hopen⟩ := List.mem_filter.mp hd
    obtain ⟨hlt, hmem⟩ := List.mem_filter.mp hd
    have hlt : d < w.numConns := List.mem_range.mp hlt
    obtain ⟨hlive, hgroup⟩ := of_decide_eq_true hmem
    have hhome := hpl.quic_home hp d hlt c (hpl.lt_of_mem s c hc) hgroup
    rw [hpl.home_of_mem s c hc] at hhome
    have hlist := hhome ▸ hpl.mem_home d hlt hlive
    have hdopen : Dependent.connection d ∈ w.opens s :=
      mem_opens.mpr ⟨mem_dependents_connection.mpr hlist, hopen⟩
    exact List.mem_singleton.mpr (Dependent.connection.inj (hall _ hdopen))
  have hnodup : ((w.members (w.conn c).group).filter fun d => !(w.conn d).isClosed).Nodup :=
    (List.nodup_range.filter _).filter _
  have hle := (List.subperm_of_subset hnodup hsub).length_le
  rw [← List.countP_eq_length_filter] at hle
  exact absurd h (Nat.not_lt.mpr hle)

end CTaps.Connections.World
