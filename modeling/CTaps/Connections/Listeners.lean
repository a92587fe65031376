import CTaps.Connections.Moves

/-! What a listener is told. `ct_socket_manager_listen` calls `listener_ready` or
`establishment_error`, and the socket manager reports the end of the listener. A QUIC listener that
gets no UDP handle is told twice, since the context made for it reports its own close, and so is a
closed listener that is closed again. -/

namespace CTaps.Connections

open Function
open Gathering (Protocol)

inductive Notice
  | ready | establishmentError | closed
deriving DecidableEq, Repr

def Notice.isEnd : Notice → Bool
  | .ready => false
  | .establishmentError | .closed => true

def ListenerCall.ending : ListenerCall → Option Notice
  | .closed => some .closed
  | .establishmentError => some .establishmentError
  | .connectionReceived _ => none

def Listener.endings (l : Listener) : List Notice := l.history.filterMap ListenerCall.ending

theorem Listener.endings_received (l : Listener) (c : Nat) :
    (l.received c).endings = l.endings ∧ (l.received c).closed = l.closed := by
  unfold received
  split
  · exact ⟨rfl, rfl⟩
  · exact ⟨rfl, rfl⟩

theorem Listener.endings_close (l : Listener) (r : CloseReason) :
    (l.close r).endings.length ≤ l.endings.length + 1 ∧ (l.close r).closed = true := by
  unfold close notifyOfListenerClose
  split
  · split
    · exact ⟨Nat.le_refl _, rfl⟩
    · exact ⟨Nat.le_succ _, rfl⟩
  · split
    · exact ⟨Nat.le_refl _, rfl⟩
    · exact ⟨Nat.le_succ _, rfl⟩

namespace World

def listenerHistory (w : World) (s : Nat) : List ListenerCall :=
  ((w.sm s).listener.map Listener.history).getD []

/-! ### The listener of a socket -/

structure Listens (w : World) : Prop where
  busy : ∀ s cb, (w.sm s).handle = .closing cb → cb.closesSocket = true → ∃ d, d ∈ w.opens s
  stopping : w.protocol = .tcp → ∀ s l, (w.sm s).listener = some l → (w.sm s).handle ≠ .closed →
    l.closed = false
  once : ∀ s l, (w.sm s).listener = some l → l.endings.length ≤ if l.closed then 1 else 0

variable {w w' : World} {s : Nat}

theorem Listens.keep (h : Listens w) (hp : w'.protocol = w.protocol)
    (hl : ∀ s l', (w'.sm s).listener = some l' → ∃ l, (w.sm s).listener = some l ∧
      l'.closed = l.closed ∧ l'.endings = l.endings ∧
      ((w.sm s).handle = .closed → (w'.sm s).handle = .closed))
    (hb : ∀ s cb, (w'.sm s).handle = .closing cb → cb.closesSocket = true → ∃ d, d ∈ w'.opens s) :
    Listens w' := by
  refine ⟨hb, fun htcp s l' hl' hclosed => ?_, fun s l' hl' => ?_⟩
  · obtain ⟨l, hsome, heq, -, hhandle⟩ := hl s l' hl'
    rw [heq]
    exact h.stopping (hp.symm.trans htcp) s l hsome (mt hhandle hclosed)
  · obtain ⟨l, hsome, heq, hends, -⟩ := hl s l' hl'
    rw [heq, hends]
    exact h.once s l hsome

theorem Listens.same (h : Listens w) (hp : w'.protocol = w.protocol)
    (hsm : ∀ s, (w'.sm s).listener = (w.sm s).listener ∧ (w'.sm s).handle = (w.sm s).handle)
    (ho : ∀ s, (∃ d, d ∈ w.opens s) → ∃ d, d ∈ w'.opens s) : Listens w' := by
  refine h.keep hp (fun s l' hl' => ⟨l', (hsm s).1 ▸ hl', rfl, rfl, fun hc => ?_⟩)
    fun s cb hh hcb => ?_
  · rw [(hsm s).2, hc]
  · rw [(hsm s).2] at hh
    exact ho s (h.busy s cb hh hcb)

theorem Listens.modSm (h : Listens w) {u : Nat} {f : SocketManager → SocketManager}
    (hl : ∀ l', (f (w.sm u)).listener = some l' → ∃ l, (w.sm u).listener = some l ∧
      l'.closed = l.closed ∧ l'.endings = l.endings)
    (ha : (f (w.sm u)).allConnections = (w.sm u).allConnections)
    (ho : (f (w.sm u)).listenerOpen = (w.sm u).listenerOpen)
    (hc : (w.sm u).handle = .closed → (f (w.sm u)).handle = .closed)
    (hb : ∀ cb, (f (w.sm u)).handle = .closing cb → cb.closesSocket = true → ∃ d, d ∈ w.opens u) :
    Listens (w.modSm u f) := by
  refine h.keep rfl (fun s l' hl' => ?_) fun s cb hh hcb => ?_
  · by_cases hs : s = u
    · subst hs
      rw [modSm_sm, update_self] at hl' ⊢
      obtain ⟨l, hsome, hclosed, hends⟩ := hl l' hl'
      exact ⟨l, hsome, hclosed, hends, hc⟩
    · rw [modSm_sm, update_of_ne hs] at hl' ⊢
      exact ⟨l', hl', rfl, rfl, id⟩
  · rw [opens_modSm ho ha]
    by_cases hsu : s = u
    · subst hsu
      rw [modSm_sm, update_self] at hh
      exact hb cb hh hcb
    · rw [modSm_sm, update_of_ne hsu] at hh
      exact h.busy s cb hh hcb

theorem Listens.closeListener (h : Listens w)
    (hopen : ∀ l, (w.sm s).listener = some l → l.closed = false)
    (hb : ∀ cb, (w.sm s).handle = .closing cb → cb.closesSocket = true →
      ∃ c, .connection c ∈ w.opens s)
    (ht : w.protocol = .tcp → (w.sm s).handle = .closed) :
    Listens (w.modSm s SocketManager.closeListener) := by
  have hother : ∀ u, u ≠ s → (w.modSm s SocketManager.closeListener).opens u = w.opens u := by
    intro u hu
    rw [opens_eq, opens_eq, modSm_sm, update_of_ne hu]
    rfl
  refine ⟨fun u cb hh hcb => ?_, fun htcp u l' hl' hclosed => ?_, fun u l' hl' => ?_⟩
  · by_cases hu : u = s
    · subst hu
      obtain ⟨c, hc⟩ := hb cb (by simpa [SocketManager.closeListener] using hh) hcb
      obtain ⟨hdep, ho⟩ := mem_opens.mp hc
      refine ⟨.connection c, mem_opens.mpr ⟨mem_dependents_connection.mpr ?_, ho⟩⟩
      simpa [SocketManager.closeListener] using mem_dependents_connection.mp hdep
    · rw [hother u hu]
      exact h.busy u cb (by simpa [hu] using hh) hcb
  · by_cases hu : u = s
    · subst hu
      rw [modSm_sm, update_self] at hclosed
      exact absurd (ht htcp) hclosed
    · rw [modSm_sm, update_of_ne hu] at hl' hclosed
      exact h.stopping htcp u l' hl' hclosed
  · by_cases hu : u = s
    · subst hu
      rw [modSm_sm, update_self] at hl'
      obtain ⟨l, hl, rfl⟩ := Option.map_eq_some_iff.mp hl'
      have honce := h.once u l hl
      rw [hopen l hl] at honce
      obtain ⟨hends, hclosed⟩ := l.endings_close (w.sm u).closeReason
      rw [hclosed]
      exact Nat.le_trans hends (Nat.succ_le_succ honce)
    · rw [modSm_sm, update_of_ne hu] at hl'
      exact h.once u l' hl'

theorem listenerOpen_of_none (hnone : w.lastOpenConnection s = none) (ho : ∃ d, d ∈ w.opens s) :
    ∀ l, (w.sm s).listener = some l → l.closed = false := by
  obtain ⟨d, hd⟩ := ho
  obtain ⟨hdep, hopen⟩ := mem_opens.mp hd
  cases d with
  | connection c =>
    have hclosed := List.find?_eq_none.mp hnone c (mem_dependents_connection.mp hdep)
    exact absurd hopen hclosed
  | listener =>
    intro l hl
    rw [isOpen, SocketManager.listenerOpen, hl] at hopen
    simpa using hopen

theorem Listens.closedSocket (h : Listens w) (hpl : Placed w) (hh : (w.sm s).handle = .closed)
    (ho : ∃ d, d ∈ w.opens s) : Listens (w.closedSocketCb s) := by
  unfold closedSocketCb
  split
  · next c hlast =>
    refine h.keep rfl (fun u l' hl' => ⟨l', hl', rfl, rfl, id⟩) fun u cb hu hcb => ?_
    have hu : (w.sm u).handle = .closing cb := hu
    obtain ⟨d, hd⟩ := h.busy u cb hu hcb
    refine ⟨d, mem_opens_modConn hd fun hdc => ?_⟩
    -- the connection is on no socket that is still being closed
    have hmem := mem_dependents_connection.mp (hdc ▸ (mem_opens.mp hd).1)
    have hus : u = s := by
      rw [← hpl.home_of_mem u c hmem, hpl.home_of_mem s c (mem_of_lastOpenConnection hlast)]
    rw [hus, hh] at hu
    cases hu
  · next hnone =>
    refine h.closeListener (listenerOpen_of_none hnone ho) (fun cb hu => ?_) fun _ => hh
    rw [hh] at hu
    cases hu

theorem Listens.modSm_kept (h : Listens w) {u : Nat} {f : SocketManager → SocketManager}
    (hl : (f (w.sm u)).listener = (w.sm u).listener)
    (ha : (f (w.sm u)).allConnections = (w.sm u).allConnections)
    (hc : (w.sm u).handle = .closed → (f (w.sm u)).handle = .closed)
    (hb : ∀ cb, (f (w.sm u)).handle = .closing cb → cb.closesSocket = true → ∃ d, d ∈ w.opens u) :
    Listens (w.modSm u f) := by
  refine h.modSm (fun l' hl' => ⟨l', hl ▸ hl', rfl, rfl⟩) ha ?_ hc hb
  rw [SocketManager.listenerOpen, SocketManager.listenerOpen, hl]

theorem Listens.handleMarked (h : Listens w) (s : Nat) : Listens (w.markHandleClosed s) := by
  refine h.modSm_kept rfl rfl (fun _ => rfl) fun cb hh => ?_
  cases hh

theorem Listens.uvClose (h : Listens w) {cb : CloseCb}
    (hcb : cb.closesSocket = true → w.numOpenDependents s = 1) :
    Listens (w.modSm s (SocketManager.uvClose cb)) := by
  obtain ⟨-, hl, ha⟩ := uvClose_keeps (w.sm s) cb
  refine h.modSm_kept hl ha (fun hc => ?_) fun cb' hh hcb' => ?_
  · rw [handle_uvClose, hc, if_neg Handle.noConfusion]
  · rw [handle_uvClose] at hh
    split at hh
    · cases hh
      exact exists_mem_opens (hcb hcb')
    · exact h.busy s cb' hh hcb'

theorem Listens.withSocketManager (h : Listens w) {m : SocketManager} (hl : m.listener = none)
    (hh : ∀ cb, m.handle ≠ .closing cb) : Listens (w.addSocketManager m) := by
  refine h.keep rfl (fun s l' hl' => ?_) fun s cb hcb hcloses => ?_
  · by_cases hs : s = w.numSms
    · subst hs
      rw [addSocketManager_sm, update_self, hl] at hl'
      cases hl'
    · rw [addSocketManager_sm, update_of_ne hs] at hl' ⊢
      exact ⟨l', hl', rfl, rfl, id⟩
  · by_cases hs : s = w.numSms
    · subst hs
      rw [addSocketManager_sm, update_self] at hcb
      exact absurd hcb (hh cb)
    · rw [addSocketManager_sm, update_of_ne hs] at hcb
      rw [opens_addSocketManager hs]
      exact h.busy s cb hcb hcloses

theorem Listens.withConnection (h : Listens w) (hpl : Placed w) (x : Connection) :
    Listens (w.addConnection x) := by
  refine h.same rfl (sm_addConnection_keeps w x) fun s hd => ?_
  obtain ⟨d, hd⟩ := hd
  exact ⟨d, mem_opens_addConnection hpl hd⟩

theorem Listens.move (h : Listens w) (hm : Move w w') : Listens w' := by
  cases hm with
  | conn c f hf =>
    refine h.same rfl (fun _ => ⟨rfl, rfl⟩) fun s ho => ?_
    obtain ⟨d, hd⟩ := ho
    refine ⟨d, mem_opens_modConn hd fun hdc => ?_⟩
    subst hdc
    have hopen := isOpen_connection.mp (mem_opens.mp hd).2
    refine Bool.not_eq_true _ ▸ fun hclosed => ?_
    rw [hf hclosed] at hopen
    cases hopen
  | shut c f hf =>
    refine h.same rfl (fun _ => ⟨rfl, rfl⟩) fun s ho => ?_
    by_cases hc : c ∈ (w.sm s).allConnections
    · obtain ⟨d, hd, hne⟩ := hf s hc ho
      exact ⟨d, mem_opens_modConn hd fun hdc => absurd hdc hne⟩
    · obtain ⟨d, hd⟩ := ho
      refine ⟨d, mem_opens_modConn hd fun hdc => absurd ?_ hc⟩
      exact mem_dependents_connection.mp (hdc ▸ (mem_opens.mp hd).1)
  | cnx g f => exact h.same rfl (fun _ => ⟨rfl, rfl⟩) fun _ ho => ho
  | note s f hf =>
    obtain ⟨hl, ha, hh⟩ := hf (w.sm s)
    exact h.modSm_kept hl ha (fun hc => hh.trans hc) fun cb hcb => h.busy s cb (hh.symm.trans hcb)
  | received s c =>
    refine h.modSm (fun l' hl' => ?_) rfl (listenerOpen_received (w.sm s) c) id (h.busy s)
    obtain ⟨l, hl, rfl⟩ := Option.map_eq_some_iff.mp hl'
    obtain ⟨hends, hclosed⟩ := l.endings_received c
    exact ⟨l, hl, hclosed, hends⟩
  | uvClose s cb hcb => exact h.uvClose hcb
  | pollHandle s hh =>
    refine h.modSm_kept rfl rfl (fun hc => ?_) fun _ _ _ => h.busy s _ hh rfl
    rw [hh] at hc
    cases hc
  | handleClosed s hh => exact h.handleMarked s
  | socketClosed s hpl hh hcb =>
    refine (h.handleMarked s).closedSocket (hpl.of_site (site_markHandleClosed w s)) (by simp) ?_
    have hopens : (w.markHandleClosed s).opens s = w.opens s := opens_modSm rfl rfl
    rw [hopens]
    exact h.busy s _ hh hcb
  | lastClosed s hpl hh hone =>
    exact h.closedSocket hpl hh (exists_mem_opens hone)
  | stopped s hpl hp hh =>
    refine (h.handleMarked s).closeListener (fun l hl => ?_) (fun cb hcb => ?_) fun _ => by simp
    · refine h.stopping hp s l (by simpa using hl) fun hc => ?_
      rw [hh] at hc
      cases hc
    · simp at hcb
  | group y => exact h.same rfl (fun _ => ⟨rfl, rfl⟩) fun _ ho => ho
  | client hpl hm hl hh ho hx =>
    exact (h.withSocketManager hl hh).withConnection (hpl.withSocketManager hm) _
  | connection hpl ho hhome => exact h.withConnection hpl _
  | @free c hc =>
    refine h.same rfl (fun s => ⟨listener_connectionFree w c s, handle_connectionFree w c s⟩)
      fun s hd => ?_
    obtain ⟨d, hd⟩ := hd
    exact ⟨d, mem_opens_free hc hd⟩

theorem Listens.moves (h : Listens w) (hm : Moves w w') : Listens w' := hm.keeps Listens.move h

/-! ### Listeners that could not listen -/

structure Idle (w : World) (s : Nat) : Prop where
  lt : s < w.numSms
  handle : (w.sm s).handle = .none
  list : (w.sm s).allConnections = []
  listener : ∃ l, (w.sm s).listener = some l ∧ l.closed = false

theorem Idle.keep (h : Idle w s) (hn : w.numSms ≤ w'.numSms) (hsm : w'.sm s = w.sm s) :
    Idle w' s := by
  refine ⟨Nat.lt_of_lt_of_le h.lt hn, ?_, ?_, ?_⟩
  · rw [hsm, h.handle]
  · rw [hsm, h.list]
  · rw [hsm]
    exact h.listener

theorem Idle.modSm (h : Idle w s) {u : Nat} {f : SocketManager → SocketManager}
    (hu : u = s → (f (w.sm s)).handle = .none ∧ (f (w.sm s)).allConnections = [] ∧
      ∃ l, (f (w.sm s)).listener = some l ∧ l.closed = false) : Idle (w.modSm u f) s := by
  by_cases hs : s = u
  · subst hs
    obtain ⟨hh, ha, hl⟩ := hu rfl
    refine ⟨h.lt, ?_, ?_, ?_⟩
    · rw [modSm_sm, update_self, hh]
    · rw [modSm_sm, update_self, ha]
    · rw [modSm_sm, update_self]
      exact hl
  · exact h.keep (Nat.le_refl _) (by rw [modSm_sm, update_of_ne hs])

theorem Idle.closedSocket (h : Idle w s) {u : Nat} (hu : s ≠ u) : Idle (w.closedSocketCb u) s := by
  unfold closedSocketCb
  split
  · exact h.keep (Nat.le_refl _) rfl
  · exact h.modSm fun hus => absurd hus.symm hu

theorem Idle.ne_of_handle (h : Idle w s) {u : Nat} (hu : (w.sm u).handle ≠ .none) : s ≠ u := by
  rintro rfl
  exact hu h.handle

theorem Idle.move (h : Idle w s) (hm : Move w w') : Idle w' s := by
  have hmarked : ∀ {u}, s ≠ u → Idle (w.markHandleClosed u) s :=
    fun hu => h.modSm fun hus => absurd hus.symm hu
  cases hm with
  | conn c f hf => exact h.keep (Nat.le_refl _) rfl
  | shut c f hf => exact h.keep (Nat.le_refl _) rfl
  | cnx g f => exact h.keep (Nat.le_refl _) rfl
  | note u f hf =>
    obtain ⟨hl, ha, hh⟩ := hf (w.sm s)
    refine h.modSm fun _ => ⟨hh.trans h.handle, ha.trans h.list, ?_⟩
    rw [hl]
    exact h.listener
  | received u c =>
    refine h.modSm fun _ => ⟨h.handle, h.list, ?_⟩
    obtain ⟨l, hl, hopen⟩ := h.listener
    exact ⟨l.received c, by rw [hl]; rfl, (l.endings_received c).2.trans hopen⟩
  | uvClose u cb hcb =>
    have hself : (w.sm s).uvClose cb = w.sm s := by
      unfold SocketManager.uvClose
      rw [h.handle]
    refine h.modSm fun _ => ?_
    rw [hself]
    exact ⟨h.handle, h.list, h.listener⟩
  | pollHandle u hh =>
    have hu := h.ne_of_handle (u := u) (by rw [hh]; exact Handle.noConfusion)
    exact h.modSm fun hus => absurd hus.symm hu
  | handleClosed u hh => exact hmarked (h.ne_of_handle hh)
  | socketClosed u hpl hh hcb =>
    have hu := h.ne_of_handle (u := u) (by rw [hh]; exact Handle.noConfusion)
    exact (hmarked hu).closedSocket hu
  | lastClosed u hpl hh hone =>
    exact h.closedSocket (h.ne_of_handle (by rw [hh]; exact Handle.noConfusion))
  | stopped u hpl hp hh =>
    have hu := h.ne_of_handle (u := u) (by rw [hh]; exact Handle.noConfusion)
    exact (hmarked hu).modSm fun hus => absurd hus.symm hu
  | group y => exact h.keep (Nat.le_refl _) rfl
  | client hpl hm hl hh ho hx =>
    have hne := Nat.ne_of_lt h.lt
    refine h.keep (Nat.le_succ _) ?_
    rw [addConnection_sm, hx, update_of_ne hne, addSocketManager_sm,
      update_of_ne hne]
  | @connection x hpl ho hhome =>
    refine h.keep (Nat.le_refl _) ?_
    rw [addConnection_sm, update_of_ne]
    -- nobody comes to a socket that is not in use
    rintro rfl
    obtain ⟨l, hl, -⟩ := h.listener
    rcases hhome with hnone | hlist | hhandle
    · rw [hl] at hnone
      cases hnone
    · exact hlist h.list
    · exact hhandle h.handle
  | @free c hc =>
    unfold connectionFree
    have hfreed : Idle (w.modConn c fun x => { x with freed := true }) s :=
      h.keep (Nat.le_refl _) rfl
    refine hfreed.modSm fun _ => ⟨h.handle, ?_, h.listener⟩
    rw [modConn_sm, h.list]
    rfl

theorem Idle.moves (h : Idle w s) (hm : Moves w w') : Idle w' s := hm.keeps Idle.move h

theorem Idle.numOpenDependents (h : Idle w s) : w.numOpenDependents s = 1 := by
  obtain ⟨l, hl, hopen⟩ := h.listener
  rw [World.numOpenDependents, h.list, SocketManager.listenerOpen, hl]
  simp [hopen]

/-! ### Histories of listeners -/

def HistoryGrows (w w' : World) (s : Nat) : Prop :=
  ∃ new, w'.listenerHistory s = new ++ w.listenerHistory s

theorem HistoryGrows.refl (w : World) (s : Nat) : HistoryGrows w w s := ⟨[], rfl⟩

theorem HistoryGrows.trans {w'' : World} (h : HistoryGrows w w' s) (h' : HistoryGrows w' w'' s) :
    HistoryGrows w w'' s := by
  obtain ⟨new, hnew⟩ := h
  obtain ⟨new', hnew'⟩ := h'
  exact ⟨new' ++ new, by rw [hnew', hnew, List.append_assoc]⟩

theorem historyGrows_of_eq (h : (w'.sm s).listener = (w.sm s).listener) : HistoryGrows w w' s :=
  ⟨[], by rw [listenerHistory, listenerHistory, h]; rfl⟩

theorem historyGrows_modSm {u : Nat} {f : SocketManager → SocketManager}
    {k : Listener → Listener} (hf : (f (w.sm u)).listener = (w.sm u).listener.map k)
    (hk : ∀ l : Listener, ∃ new, (k l).history = new ++ l.history) :
    HistoryGrows w (w.modSm u f) s := by
  by_cases hs : s = u
  · subst hs
    unfold HistoryGrows listenerHistory
    rw [modSm_sm, update_self, hf]
    cases (w.sm s).listener with
    | none => exact ⟨[], rfl⟩
    | some l => exact hk l
  · exact historyGrows_of_eq (by rw [modSm_sm, update_of_ne hs])

theorem historyGrows_closeListener (w : World) (u s : Nat) :
    HistoryGrows w (w.modSm u SocketManager.closeListener) s := by
  refine historyGrows_modSm rfl fun l => ?_
  unfold Listener.close Listener.notifyOfListenerClose
  split
  · split
    · exact ⟨[.establishmentError], rfl⟩
    · exact ⟨[], rfl⟩
  · split
    · exact ⟨[.closed], rfl⟩
    · exact ⟨[], rfl⟩

theorem historyGrows_closedSocketCb (w : World) (u s : Nat) :
    HistoryGrows w (w.closedSocketCb u) s := by
  unfold closedSocketCb
  split
  · exact historyGrows_of_eq rfl
  · exact historyGrows_closeListener w u s

theorem historyGrows_kept {u : Nat} {f : SocketManager → SocketManager}
    (hf : (f (w.sm u)).listener = (w.sm u).listener) : HistoryGrows w (w.modSm u f) s :=
  historyGrows_modSm (k := id) (hf.trans (Option.map_id_apply).symm) fun _ => ⟨[], rfl⟩

theorem Move.historyGrows (hm : Move w w') (s : Nat) : HistoryGrows w w' s := by
  cases hm with
  | conn c f hf => exact historyGrows_of_eq rfl
  | shut c f hf => exact historyGrows_of_eq rfl
  | cnx g f => exact historyGrows_of_eq rfl
  | note u f hf => exact historyGrows_kept (hf _).1
  | received u c =>
    refine historyGrows_modSm rfl fun l => ?_
    unfold Listener.received
    split
    · exact ⟨[.connectionReceived c], rfl⟩
    · exact ⟨[], rfl⟩
  | uvClose u cb hcb => exact historyGrows_kept (uvClose_keeps _ cb).2.1
  | pollHandle u hh => exact historyGrows_kept rfl
  | handleClosed u hh => exact historyGrows_kept rfl
  | socketClosed u hpl hh hcb =>
    have hmark : HistoryGrows w (w.markHandleClosed u) s := historyGrows_kept rfl
    exact hmark.trans (historyGrows_closedSocketCb _ u s)
  | lastClosed u hpl hh hone => exact historyGrows_closedSocketCb w u s
  | stopped u hpl hp hh =>
    have hmark : HistoryGrows w (w.markHandleClosed u) s := historyGrows_kept rfl
    exact hmark.trans (historyGrows_closeListener _ u s)
  | group y => exact historyGrows_of_eq rfl
  | @client m x hpl hm hl hh ho hx =>
    refine historyGrows_of_eq ((sm_addConnection_keeps _ x s).1.trans ?_)
    by_cases hs : s = w.numSms
    · subst hs
      rw [addSocketManager_sm, update_self, hl]
      cases hold : (w.sm w.numSms).listener with
      | none => rfl
      | some l => exact absurd (hpl.listener_lt _ (by rw [hold]; rfl)) (Nat.lt_irrefl _)
    · rw [addSocketManager_sm, update_of_ne hs]
  | @connection x hpl ho hhome => exact historyGrows_of_eq (sm_addConnection_keeps w x s).1
  | @free c hc => exact historyGrows_of_eq (listener_connectionFree w c s)

theorem Moves.historyGrows (hm : Moves w w') (s : Nat) : HistoryGrows w w' s := by
  induction hm with
  | refl => exact .refl _ s
  | tail _ hstep ih => exact ih.trans (hstep.historyGrows s)

end World

end CTaps.Connections
