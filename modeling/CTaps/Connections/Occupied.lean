import CTaps.Connections.Moves

/-! An open socket has an open dependent. The socket is closed by the report of the last one, and the
other ways in which a connection is closed leave an open dependent on its socket. -/

namespace CTaps.Connections.World

open Gathering (Protocol)

def Occupied (w : World) : Prop := ∀ s, (w.sm s).handle = .open → ∃ d, d ∈ w.opens s

variable {w w' : World}

/-! ### Updates -/

theorem Occupied.keep (h : Occupied w)
    (hh : ∀ s, (w'.sm s).handle = .open → (w.sm s).handle = .open)
    (hd : ∀ s, ∀ d ∈ w.opens s, d ∈ w'.opens s) : Occupied w' := by
  intro s hs
  obtain ⟨d, hmem⟩ := h s (hh s hs)
  exact ⟨d, hd s d hmem⟩

theorem Occupied.modSm (h : Occupied w) {u : Nat} {f : SocketManager → SocketManager}
    (hh : (f (w.sm u)).handle = .open → (w.sm u).handle = .open)
    (hl : (f (w.sm u)).listenerOpen = (w.sm u).listenerOpen)
    (ha : (f (w.sm u)).allConnections = (w.sm u).allConnections) : Occupied (w.modSm u f) := by
  refine h.keep (fun s hs => ?_) fun s d hd => (opens_modSm hl ha).symm ▸ hd
  by_cases hu : s = u
  · subst hu
    exact hh (by simpa using hs)
  · simpa [hu] using hs

theorem Occupied.uvClose (h : Occupied w) (u : Nat) (cb : CloseCb) :
    Occupied (w.modSm u (SocketManager.uvClose cb)) := by
  obtain ⟨-, hl, ha⟩ := uvClose_keeps (w.sm u) cb
  refine h.modSm (fun hopen => absurd hopen (handle_uvClose_ne _ _)) ?_ ha
  unfold SocketManager.listenerOpen
  rw [hl]

theorem occupied_addConnection (hpl : Placed w) {x : Connection} (hx : x.isClosed = false)
    (h : ∀ s, s ≠ x.socketManager → (w.sm s).handle = .open → ∃ d, d ∈ w.opens s) :
    Occupied (w.addConnection x) := by
  intro s hs
  by_cases hsx : s = x.socketManager
  · subst hsx
    exact ⟨_, mem_opens_new hx⟩
  · obtain ⟨d, hd⟩ := h s hsx (by simpa [hsx] using hs)
    exact ⟨d, mem_opens_addConnection hpl hd⟩

theorem Occupied.closeConn (h : Occupied w) {c : Nat} {f : Connection → Connection}
    (ho : ∀ s, (w.sm s).handle = .open → c ∈ (w.sm s).allConnections →
      ∃ d ∈ w.opens s, d ≠ .connection c) : Occupied (w.modConn c f) := by
  intro s hs
  by_cases hc : c ∈ (w.sm s).allConnections
  · obtain ⟨d, hd, hne⟩ := ho s hs hc
    exact ⟨d, mem_opens_modConn hd fun he => absurd he hne⟩
  · obtain ⟨d, hd⟩ := h s hs
    refine ⟨d, mem_opens_modConn hd fun he => absurd ?_ hc⟩
    exact mem_dependents_connection.mp (he ▸ (mem_opens.mp hd).1)

theorem Occupied.closeListener (h : Occupied w) (hpl : Placed w) {s : Nat}
    (hs : (w.sm s).handle = .open → w.numOpenDependents s ≠ 1) :
    Occupied (w.modSm s SocketManager.closeListener) := by
  intro u hu
  by_cases hus : u = s
  · subst hus
    have hu : (w.sm u).handle = .open := by simpa [SocketManager.closeListener] using hu
    obtain ⟨d, hd, hdl⟩ := exists_other_open hpl (hs hu) (h u hu) .listener
    obtain ⟨hdep, hopen⟩ := mem_opens.mp hd
    cases d with
    | listener => exact absurd rfl hdl
    | connection c =>
      refine ⟨.connection c, mem_opens.mpr ⟨mem_dependents_connection.mpr ?_, hopen⟩⟩
      simpa [SocketManager.closeListener] using mem_dependents_connection.mp hdep
  · obtain ⟨d, hd⟩ := h u (by simpa [hus] using hu)
    refine ⟨d, ?_⟩
    rw [opens_eq] at hd ⊢
    simpa [hus] using hd

theorem Occupied.closedSocket (h : Occupied w) (hpl : Placed w) {s : Nat}
    (hs : (w.sm s).handle ≠ .open) : Occupied (w.closedSocketCb s) := by
  unfold closedSocketCb
  split
  · next c hc =>
    refine h.closeConn fun u hu hmem => absurd hu ?_
    rw [← hpl.home_of_mem u c hmem, hpl.home_of_mem s c (mem_of_lastOpenConnection hc)]
    exact hs
  · exact h.closeListener hpl fun ho => absurd ho hs

theorem Occupied.handleMarked (h : Occupied w) (s : Nat) : Occupied (w.markHandleClosed s) :=
  h.modSm (fun hopen => by cases hopen) rfl rfl

theorem Occupied.listen (h : Occupied w) (l : ListenerCallbacks) (cbs : UserCallbacks) :
    Occupied (w.listen l cbs) := by
  intro s hs
  unfold World.listen at hs ⊢
  by_cases hnew : s = w.numSms
  · subst hnew
    refine ⟨.listener, mem_opens.mpr ⟨mem_dependents_listener.mpr ?_, ?_⟩⟩
    · simp
    · simp [isOpen, SocketManager.listenerOpen]
  · obtain ⟨d, hd⟩ := h s (by simpa [hnew] using hs)
    refine ⟨d, ?_⟩
    rw [opens_eq] at hd ⊢
    simpa [hnew] using hd

/-! ### Runs -/

theorem Occupied.move (h : Occupied w) (hm : Move w w') : Occupied w' := by
  cases hm with
  | conn c f hf =>
    refine h.keep (fun _ hs => hs) fun s d hd => mem_opens_modConn hd fun he => ?_
    subst he
    have hopen := isOpen_connection.mp (mem_opens.mp hd).2
    refine Bool.not_eq_true _ ▸ fun hclosed => ?_
    rw [hf hclosed] at hopen
    cases hopen
  | shut c f hf => exact h.closeConn fun s hs hc => hf s hc (h s hs)
  | cnx g f => exact h
  | note s f hf =>
    obtain ⟨hl, ha, hh⟩ := hf (w.sm s)
    refine h.modSm (fun ho => hh.symm.trans ho) ?_ ha
    rw [SocketManager.listenerOpen, SocketManager.listenerOpen, hl]
  | received s c => exact h.modSm id (listenerOpen_received (w.sm s) c) rfl
  | uvClose s cb hcb => exact h.uvClose s cb
  | pollHandle s hh => exact h.modSm (fun hopen => by cases hopen) rfl rfl
  | handleClosed s hh => exact h.handleMarked s
  | socketClosed s hpl hh hcb =>
    exact (h.handleMarked s).closedSocket (hpl.of_site (site_markHandleClosed w s)) (by simp)
  | lastClosed s hpl hh hone => exact h.closedSocket hpl (by rw [hh]; exact Handle.noConfusion)
  | stopped s hpl hp hh =>
    exact (h.handleMarked s).closeListener (hpl.of_site (site_markHandleClosed w s)) (by simp)
  | group y => exact h
  | @client m x hpl hm hl hh ho hx =>
    refine occupied_addConnection (hpl.withSocketManager hm) ho fun s hs hopen => ?_
    rw [hx] at hs
    rw [addSocketManager_sm, Function.update_of_ne hs] at hopen
    rw [opens_addSocketManager hs]
    exact h s hopen
  | connection hpl ho hhome => exact occupied_addConnection hpl ho fun s _ => h s
  | @free c hc =>
    exact h.keep (fun s hs => handle_connectionFree w c s ▸ hs) fun _ _ hd => mem_opens_free hc hd

theorem Occupied.listenerClose (h : Occupied w) (hpl : Placed w) (s : Nat) :
    Occupied (w.listenerClose s) := by
  unfold World.listenerClose
  split
  · exact h.uvClose s _
  · next hp =>
    unfold listenerClosedCb
    split
    · next hone => exact (moves_managerClose hp hone _).keeps Occupied.move h
    · next hne => exact h.closeListener hpl fun _ => hne

theorem Occupied.step (h : Occupied w) (hpl : Placed w) (ht : w.protocol = .tcp → TcpPlaced w)
    (e : Event) : Occupied (w.step e) := by
  cases hl : e.isListeners with
  | false => exact (moves_step hpl ht hl).keeps Occupied.move h
  | true =>
    refine step_keeps h fun _ => ?_
    cases e with
    | listen l cbs => exact h.listen l cbs
    | listenerClose s => exact h.listenerClose hpl s
    | _ => cases hl

theorem occupied_run (es : List Event) : Occupied (run .quic es) := by
  refine (Lib.run_invariant_of_step (I := fun w => Occupied w ∧ Placed w ∧ w.protocol = .quic)
    (fun w e hw => ?_) ⟨fun s hs => ?_, placed_init .quic, rfl⟩ es).1
  · refine ⟨hw.1.step hw.2.1 (fun hp => ?_) e, hw.2.1.step e, (protocol_step w e).trans hw.2.2⟩
    cases hw.2.2.symm.trans hp
  · cases hs

end CTaps.Connections.World
