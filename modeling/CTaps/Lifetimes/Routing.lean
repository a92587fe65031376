import CTaps.Lifetimes.Releases

/-! Where datagrams and stream events are routed: the demux table of a UDP socket manager and the
stream contexts that picoquic keeps. `ct_connection_free` takes a connection from the list of its
socket manager and from the table of its group, but out of neither of these. -/

namespace CTaps.Lifetimes.World

open Function
open Gathering (Protocol)

structure Routed (w : World) : Prop where
  demux : ∀ s, (w.sm s).frees = 0 → ∀ e ∈ (w.sm s).demuxTable, e.2 ∈ (w.sm s).allConnections
  ctx : ∀ g, (w.group g).cnxClosed = false → ∀ e ∈ (w.group g).streamCtx,
    e.2 < w.numConns ∧ (w.conn e.2).connectionGroup = some g

theorem routed_init : Routed {} := by
  constructor <;> simp

variable {w w' : World}

/-! ### Operations -/

theorem Routed.newConn (h : Routed w) (x : Connection) : Routed (w.addConn x) := by
  refine ⟨h.demux, fun g hg e he => ?_⟩
  obtain ⟨hlt, hgroup⟩ := h.ctx g hg e he
  refine ⟨Nat.lt_succ_of_lt hlt, ?_⟩
  simpa [Nat.ne_of_lt hlt] using hgroup

theorem Routed.newSm (h : Routed w) {m : SocketManager} (hm : m.demuxTable = []) :
    Routed (w.addSm m) := by
  refine ⟨fun s hs e he => ?_, h.ctx⟩
  by_cases hn : s = w.numSms
  · subst hn
    simp [hm] at he
  · simp only [addSm_sm, update_of_ne hn] at hs he ⊢
    exact h.demux s hs e he

theorem Routed.newGroup (h : Routed w) : Routed w.addGroup := by
  refine ⟨h.demux, fun g hg e he => ?_⟩
  by_cases hn : g = w.numGroups
  · subst hn
    simp at he
  · simp only [addGroup_group, update_of_ne hn] at hg he
    exact h.ctx g hg e he

theorem Routed.modSm (h : Routed w) {s : Nat} {f : SocketManager → SocketManager}
    (hf : (f (w.sm s)).frees = 0 → (w.sm s).frees = 0)
    (hd : ∀ e ∈ (f (w.sm s)).demuxTable, e ∈ (w.sm s).demuxTable ∨
      e.2 ∈ (f (w.sm s)).allConnections)
    (ha : ∀ e ∈ (w.sm s).demuxTable, e.2 ∈ (w.sm s).allConnections →
      (f (w.sm s)).frees = 0 → e.2 ∈ (f (w.sm s)).allConnections) :
    Routed (w.modSm s f) := by
  refine ⟨fun t ht e he => ?_, h.ctx⟩
  by_cases hts : t = s
  · subst hts
    simp only [modSm_sm, update_self] at ht he ⊢
    rcases hd e he with hold | hnew
    · exact ha e hold (h.demux t (hf ht) e hold) ht
    · exact hnew
  · simp only [modSm_sm, update_of_ne hts] at ht he ⊢
    exact h.demux t ht e he

theorem Routed.modGroup (h : Routed w) {g : Nat} {f : Group → Group}
    (hc : (f (w.group g)).cnxClosed = false → (w.group g).cnxClosed = false)
    (hs : ∀ e ∈ (f (w.group g)).streamCtx, e ∈ (w.group g).streamCtx ∨
      (e.2 < w.numConns ∧ (w.conn e.2).connectionGroup = some g)) : Routed (w.modGroup g f) := by
  refine ⟨h.demux, fun k hk e he => ?_⟩
  by_cases hkg : k = g
  · subst hkg
    simp only [modGroup_group, update_self] at hk he
    rcases hs e he with hold | hnew
    · exact h.ctx k (hc hk) e hold
    · exact hnew
  · simp only [modGroup_group, update_of_ne hkg] at hk he
    exact h.ctx k hk e he

theorem Routed.modConn (h : Routed w) {c : Nat} {f : Connection → Connection}
    (hf : ∀ g, (w.conn c).connectionGroup = some g → (f (w.conn c)).connectionGroup = some g) :
    Routed (w.modConn c f) := by
  refine ⟨h.demux, fun g hg e he => ?_⟩
  obtain ⟨hlt, hgroup⟩ := h.ctx g hg e he
  refine ⟨hlt, ?_⟩
  by_cases hec : e.2 = c
  · rw [hec] at hgroup ⊢
    simpa using hf g hgroup
  · simpa [hec] using hgroup

theorem Routed.member (h : Routed w) (g c : Nat) : Routed (w.groupAddConnection g c) := by
  unfold groupAddConnection
  dsimp only
  split
  · exact h
  · next hnone =>
    have hnone : (w.conn c).connectionGroup = none := by simpa using hnone
    have htable := h.modGroup (g := g) (f := fun x => { x with
      connections := ((w.conn c).uuid, c) :: x.connections.filter (·.1 ≠ (w.conn c).uuid) })
      id (fun _ he => Or.inl he)
    split
    · refine Routed.modConn (htable.modGroup (fun hc => ?_) fun e he => ?_) fun k hk => ?_
      · exact hc
      · exact Or.inl he
      · rw [show (w.conn c).connectionGroup = some k from hk] at hnone
        cases hnone
    · exact htable

theorem Routed.home (h : Routed w) (s c : Nat) : Routed (w.socketManagerAddConnection s c) := by
  unfold socketManagerAddConnection
  refine Routed.modConn (Routed.modSm (h.modSm ?_ ?_ ?_) ?_ ?_ ?_) ?_
  · exact id
  · exact fun e he => Or.inl he
  · exact fun e _ he _ => List.mem_cons_of_mem _ he
  · exact id
  · exact fun e he => Or.inl he
  · exact fun e _ he _ => he
  · exact fun g hg => hg

theorem Routed.demuxed (h : Routed w) {s c : Nat} (hc : c ∈ (w.sm s).allConnections) (addr : Nat) :
    Routed (w.modSm s (SocketManager.insertDemuxed addr c)) := by
  have hkeeps : ∀ m : SocketManager, (m.insertDemuxed addr c).frees = m.frees ∧
      (m.insertDemuxed addr c).allConnections = m.allConnections := by
    intro m
    unfold SocketManager.insertDemuxed
    split <;> exact ⟨rfl, rfl⟩
  refine h.modSm (fun hf => (hkeeps _).1.symm.trans hf) (fun e he => ?_) fun e _ he _ => ?_
  · unfold SocketManager.insertDemuxed at he
    split at he
    · exact Or.inl he
    · rcases List.mem_cons.mp he with rfl | hold
      · right
        rw [(hkeeps _).2]
        exact hc
      · exact Or.inl hold
  · rw [(hkeeps _).2]
    exact he

theorem Routed.left (h : Routed w) {s c : Nat}
    (hc : (w.sm s).refCount ≠ 1 → ∀ e ∈ (w.sm s).demuxTable, e.2 ≠ c) : Routed (w.leave s c) := by
  have hsm : ((w.modSm s (SocketManager.remove c)).modSm s SocketManager.unref) =
      w.modSm s fun m => (m.remove c).unref := by
    simp [World.modSm]
  unfold leave
  rw [hsm]
  obtain ⟨-, -, hlist, hfrees⟩ := unref_eq ((w.sm s).remove c)
  have hdemux : ((w.sm s).remove c).unref.demuxTable = (w.sm s).demuxTable := by
    unfold SocketManager.unref SocketManager.remove
    dsimp only
    split <;> rfl
  refine Routed.modConn (h.modSm (fun hf => ?_) (fun e he => ?_) fun e he hin hf => ?_) ?_
  · rw [hfrees] at hf
    exact (Nat.add_eq_zero_iff.mp hf).1
  · rw [hdemux] at he
    exact Or.inl he
  · rw [hlist]
    have hcount : (w.sm s).refCount ≠ 1 := by
      intro hone
      rw [hfrees] at hf
      have hone : ((w.sm s).remove c).refCount = 1 := hone
      simp [hone] at hf
    exact (List.mem_erase_of_ne (hc hcount e he)).mpr hin
  · exact fun g hg => hg

theorem Routed.unref (h : Routed w) (s : Nat) : Routed (w.modSm s SocketManager.unref) := by
  obtain ⟨-, -, hlist, hfrees⟩ := unref_eq (w.sm s)
  have hdemux : (w.sm s).unref.demuxTable = (w.sm s).demuxTable := by
    unfold SocketManager.unref
    split <;> rfl
  refine h.modSm (fun hf => ?_) (fun e he => ?_) fun e _ hin _ => ?_
  · rw [hfrees] at hf
    exact (Nat.add_eq_zero_iff.mp hf).1
  · rw [hdemux] at he
    exact Or.inl he
  · rw [hlist]
    exact hin

theorem Routed.setStream (h : Routed w) {g c : Nat} (hc : c < w.numConns)
    (hg : (w.conn c).connectionGroup = some g) (sid : Nat) : Routed (w.setStream g sid c) := by
  unfold World.setStream setAppStreamCtx
  refine Routed.modGroup (h.modConn ?_) ?_ fun e he => ?_
  · exact fun _ hk => hk
  · exact id
  · rcases List.mem_cons.mp he with rfl | hold
    · right
      refine ⟨hc, ?_⟩
      simpa using hg
    · exact Or.inl (List.mem_of_mem_filter hold)

/-! ### Connections -/

theorem Routed.server (h : Routed w) (s uuid remote : Nat) :
    Routed (w.createServerConnection s uuid remote) :=
  ((h.newConn _).newGroup.member _ _).home s _

theorem mem_socketManagerAddConnection (w : World) (s c : Nat) :
    c ∈ ((w.socketManagerAddConnection s c).sm s).allConnections := by
  rw [socketManagerAddConnection_sm, if_pos rfl]
  exact List.mem_cons_self

theorem Routed.client (h : Routed w) (p : Protocol) (uuid remote : Nat) :
    Routed (w.createClient p uuid remote) := by
  unfold createClient
  dsimp only
  have hhome := ((((h.newConn { uuid := uuid, remote := remote }).newSm (m := { protocol := p })
    rfl).newGroup).member w.numGroups w.numConns).home w.numSms w.numConns
  split
  · exact hhome.demuxed (mem_socketManagerAddConnection _ _ _) remote
  · exact hhome

theorem Routed.cloned (h : Routed w) (source uuid : Nat) : Routed (w.createClone source uuid) := by
  have hnew : ∀ x : Connection, Routed ((w.addConn x).shareSocketManager source w.numConns) := by
    intro x
    unfold shareSocketManager
    split
    · exact (h.newConn x).home _ _
    · exact h.newConn x
  unfold createClone shareGroup shareSocketManager
  split
  · exact (hnew _).member _ _
  · exact hnew _

theorem createClone_sm (w : World) (source uuid s : Nat) :
    ((w.createClone source uuid).sm s).demuxTable = (w.sm s).demuxTable ∧
      ((w.createClone source uuid).sm s).frees = (w.sm s).frees := by
  have hadd : ∀ (x : Connection) (t : Nat),
      (((w.addConn x).socketManagerAddConnection t w.numConns).sm s).demuxTable =
        (w.sm s).demuxTable ∧
      (((w.addConn x).socketManagerAddConnection t w.numConns).sm s).frees = (w.sm s).frees := by
    intro x t
    rw [socketManagerAddConnection_sm]
    split
    · next hst =>
      rw [hst]
      exact ⟨rfl, rfl⟩
    · exact ⟨rfl, rfl⟩
  unfold createClone shareGroup shareSocketManager
  split
  · rw [(groupAddConnection_keeps _ _ _).2.2.2.1]
    split
    · exact hadd _ _
    · exact ⟨rfl, rfl⟩
  · split
    · exact hadd _ _
    · exact ⟨rfl, rfl⟩

theorem Routed.clone_not_demuxed (h : Routed w) (hc : Counted none w) (source uuid : Nat) {s : Nat}
    (hs : ((w.createClone source uuid).sm s).frees = 0) :
    ∀ e ∈ ((w.createClone source uuid).sm s).demuxTable, e.2 ≠ w.numConns := by
  obtain ⟨hdemux, hfrees⟩ := w.createClone_sm source uuid s
  rw [hfrees] at hs
  rw [hdemux]
  intro e he
  exact Nat.ne_of_lt ((hc.mem_iff s e.2).mp (h.demux s hs e he)).1

theorem Routed.rehome (h : Routed w) {c : Nat}
    (hc : ∀ s, (w.conn c).socketManager = some s → s ≠ w.numSms ∧
      ∀ e ∈ (w.sm s).demuxTable, e.2 ≠ c) (p : Protocol) : Routed (w.rehome p c) := by
  have hsm := h.newSm (m := { protocol := p }) rfl
  unfold World.rehome detachTcp
  refine Routed.home ?_ _ _
  split
  · next s hs =>
    obtain ⟨hne, hd⟩ := hc s hs
    refine hsm.left fun _ => ?_
    simpa [hne] using hd
  · exact hsm

theorem Routed.clone (h : Routed w) (hc : Counted none w) {source : Nat}
    (hlive : w.live source = true) (uuid : Nat) : Routed (w.connectionClone source uuid) := by
  have hclone := h.cloned source uuid
  have hcount := hc.cloned hlive uuid
  have hlt : w.numConns < (w.createClone source uuid).numConns :=
    (w.createClone_new source uuid).1 ▸ Nat.lt_succ_self _
  have hfree : ∀ s, ((w.createClone source uuid).conn w.numConns).socketManager = some s →
      s ≠ (w.createClone source uuid).numSms ∧
      ∀ e ∈ ((w.createClone source uuid).sm s).demuxTable, e.2 ≠ w.numConns := by
    intro s hs
    obtain ⟨hslt, halive⟩ := hcount.alive hlt hs
    exact ⟨Nat.ne_of_lt hslt, h.clone_not_demuxed hc source uuid halive⟩
  unfold connectionClone
  dsimp only
  split
  · split
    · exact hclone.rehome hfree .tcp
    · rw [udpCloneConnection_eq fun s hs => (hfree s hs).1]
      exact (hclone.rehome hfree .udp).demuxed (mem_socketManagerAddConnection _ _ _) _
    · exact hclone
  · exact hclone

/-! ### Streams -/

theorem Grouped.joined {y : Option Nat} (h : Grouped y w) {g c : Nat} (hc : c < w.numConns)
    (hnone : (w.conn c).connectionGroup = none) :
    ((w.groupAddConnection g c).conn c).connectionGroup = some g := by
  rw [h.groupAddConnection_eq hc hnone]
  simp

theorem createClient_group (h : Grouped none w) (p : Protocol) {uuid : Nat} (hu : w.newUuid uuid)
    (remote : Nat) :
    ((w.createClient p uuid remote).conn w.numConns).connectionGroup = some w.numGroups := by
  set x : Connection := { uuid := uuid, remote := remote }
  have hyoung : Grouped (some w.numGroups) ((w.addConn x).addSm { protocol := p }).addGroup :=
    (h.newConn (x := x) rfl hu).newGroup.of_ties rfl
  have hjoin := hyoung.joined (g := w.numGroups) (Nat.lt_succ_self w.numConns) (by simp [x])
  have hhome : ∀ s, (((((w.addConn x).addSm { protocol := p }).addGroup.groupAddConnection
      w.numGroups w.numConns).socketManagerAddConnection s w.numConns).conn
      w.numConns).connectionGroup = some w.numGroups := by
    intro s
    rw [(conn_of_ties (ties_socketManagerAddConnection _ s w.numConns) w.numConns).2.1]
    exact hjoin
  unfold createClient
  dsimp only
  split
  · exact hhome _
  · exact hhome _

theorem createClone_group (h : Grouped none w) {source uuid g : Nat} (hlt : source < w.numConns)
    (hu : w.newUuid uuid) (hg : (w.conn source).connectionGroup = some g) :
    ((w.createClone source uuid).conn w.numConns).connectionGroup = some g := by
  set x : Connection := { uuid := uuid, remote := (w.conn source).remote }
  have hjoin : ∀ w' : World, w'.ties = (w.addConn x).ties →
      ((w'.shareGroup source w.numConns).conn w.numConns).connectionGroup = some g := by
    intro w' he
    unfold shareGroup
    have h' : Grouped none w' := (h.newConn (x := x) rfl hu).of_ties he
    have hn : w'.numConns = w.numConns + 1 := congrArg Ties.numConns he
    have hsource : (w'.conn source).connectionGroup = some g := by
      rw [(conn_of_ties he source).2.1]
      simpa [Nat.ne_of_lt hlt] using hg
    rw [hsource]
    refine h'.joined (hn ▸ Nat.lt_succ_self _) ?_
    rw [(conn_of_ties he w.numConns).2.1]
    simp [x]
  unfold createClone shareGroup shareSocketManager
  refine hjoin _ ?_
  split
  · exact ties_socketManagerAddConnection _ _ _
  · rfl

theorem Routed.initiate (h : Routed w) (hg : Grouped none w) (p : Protocol) {uuid : Nat}
    (hu : w.newUuid uuid) (remote : Nat) (init : Init) :
    Routed (w.initiate p uuid remote init) := by
  have hclient := h.client p uuid remote
  have hstate : Routed
      ((w.createClient p uuid remote).modGroup w.numGroups fun x => { x with state := true }) := by
    refine hclient.modGroup ?_ ?_
    · exact id
    · exact fun _ he => Or.inl he
  unfold World.initiate
  dsimp only
  split
  · unfold quicInit
    split
    · exact hclient
    · exact hstate
    · refine hstate.setStream ?_ ?_ _
      · have hn : (w.createClient p uuid remote).numConns = w.numConns + 1 := by
          unfold createClient
          dsimp only
          split
          · exact (groupAddConnection_keeps _ _ _).1
          · exact (groupAddConnection_keeps _ _ _).1
        exact hn ▸ Nat.lt_succ_self _
      · exact createClient_group hg p hu remote
  · exact hclient

theorem Routed.stream (h : Routed w) (hg : Grouped none w) {g sid first uuid : Nat}
    (hfirst : first ∈ (w.group g).connections.map Prod.snd) (hu : w.newUuid uuid) :
    Routed (w.resolveOrCreateStreamConnection g sid first uuid) := by
  obtain ⟨hlive, hgroup⟩ := hg.live_of_mem hfirst
  have hlt := (live_iff.mp hlive).1
  unfold resolveOrCreateStreamConnection
  split
  · exact h
  · split
    · refine (h.cloned first uuid).setStream ?_ (createClone_group hg hlt hu hgroup) sid
      exact (w.createClone_new first uuid).1 ▸ Nat.lt_succ_self _
    · exact h.setStream hlt hgroup sid

/-! ### Runs -/

def FreesRouted (w : World) : Event → Prop
  | .free c =>
    (∃ s ∈ (w.conn c).socketManager, (w.sm s).refCount ≠ 1 ∧
      ∃ e ∈ (w.sm s).demuxTable, e.2 = c) ∨
    (∃ g ∈ (w.conn c).connectionGroup, (w.group g).cnxClosed = false ∧
      ∃ e ∈ (w.group g).streamCtx, e.2 = c)
  | _ => False

instance (w : World) (e : Event) : Decidable (w.FreesRouted e) := by
  rcases e with ⟨⟩ <;> dsimp only [FreesRouted] <;> infer_instance

theorem Routed.free (h : Routed w) {c : Nat} (hc : ¬ w.FreesRouted (.free c)) :
    Routed (w.connectionFree c) := by
  obtain ⟨hdemux, hctx⟩ := not_or.mp hc
  obtain ⟨hconn, hsm, hn, _, hgroup⟩ := w.groupUnref_keeps c
  unfold connectionFree
  dsimp only
  set w₁ := (w.groupUnref c).modConn c fun x => { x with connectionGroup := none }
  have hhome : (w₁.conn c).socketManager = (w.conn c).socketManager := by simp [w₁, hconn]
  have h₁ : Routed w₁ := by
    refine ⟨fun s hs e he => ?_, fun g hg e he => ?_⟩
    · simp only [w₁, modConn_sm, hsm] at hs he ⊢
      exact h.demux s hs e he
    · simp only [w₁, modConn_group, (hgroup g).1, (hgroup g).2] at hg he
      obtain ⟨hlt, hin⟩ := h.ctx g hg e he
      -- `c` leaves its group, so it must not be the context of one of its streams
      have hec : e.2 ≠ c := by
        intro hec
        rw [hec] at hin
        exact hctx ⟨g, hin, hg, e, he, hec⟩
      refine ⟨hn ▸ hlt, ?_⟩
      simpa [w₁, hec, hconn] using hin
  refine Routed.modConn ?_ ?_
  · rw [hhome]
    split
    · next s hs =>
      refine h₁.left fun hcount e he hec => ?_
      simp only [w₁, modConn_sm, hsm] at hcount he
      exact hdemux ⟨s, hs, hcount, e, he, hec⟩
    · exact h₁
  · exact fun _ hg => hg

theorem Routed.step (h : Routed w) (hc : Counted none w) (hg : Grouped none w) {e : Event}
    (hsafe : ¬ w.FreesRouted e) : Routed (w.step e) := by
  refine step_keeps h fun he => ?_
  cases e with
  | initiate p uuid remote init => exact h.initiate hg p he remote init
  | listen p =>
    have hsm := (h.newSm (m := { protocol := p, listener := some w.numListeners }) rfl).modSm
      (s := w.numSms) (f := SocketManager.ref) id (fun _ he => Or.inl he) fun _ _ he _ => he
    exact ⟨hsm.demux, hsm.ctx⟩
  | clone c uuid => exact h.clone hc he.1 uuid
  | accepted s uuid remote =>
    exact Routed.server (w := w.addSm { protocol := .tcp }) (h.newSm rfl) _ _ _
  | datagram s addr uuid =>
    dsimp only [act, udpMultiplexReceivedMessage]
    split
    · exact (h.server s uuid addr).demuxed (mem_socketManagerAddConnection _ _ _) addr
    · exact h
  | newCnx s uuid addr =>
    dsimp only [act, World.newCnx]
    split
    · refine (h.server s uuid addr).modGroup ?_ ?_
      · exact id
      · exact fun _ he => Or.inl he
    · exact h
  | send c sid =>
    dsimp only [act, assignNextFreeStream]
    split
    · next g hgroup _ => exact h.setStream (live_iff.mp he.1).1 hgroup sid
    · exact h
  | stream g sid first uuid => exact h.stream hg he.2.1 he.2.2
  | streamDeleted g sid =>
    dsimp only [act]
    refine h.modGroup ?_ ?_
    · exact id
    · exact fun _ he => Or.inl (List.mem_of_mem_filter he)
  | cnxClosed g =>
    dsimp only [act]
    refine h.modGroup ?_ ?_
    · exact fun hf => Bool.noConfusion hf
    · exact fun _ he => Or.inl he
  | closed c =>
    dsimp only [act]
    refine h.modConn ?_
    exact fun _ hk => hk
  | listenerClosed l => exact ⟨h.demux, h.ctx⟩
  | free c => exact h.free hsafe
  | listenerFree l =>
    dsimp only [act, World.listenerFree]
    split
    · next s _ =>
      have hsm := (h.modSm (s := s) (f := fun m => { m with listener := none }) id
        (fun _ he => Or.inl he) fun _ _ he _ => he).unref s
      exact ⟨hsm.demux, hsm.ctx⟩
    · exact ⟨h.demux, h.ctx⟩

/-- As long as no connection is freed that something is routed to, the entries of a demux table are
connections of its socket manager, and the stream contexts of a QUIC connection that has not ended
are members of its group: every datagram and stream event goes to a connection that is there. -/
theorem routes_run (es : List Event)
    (hes : Lib.AllSteps step (fun w e => ¬ w.FreesRouted e) {} es) :
    (∀ s, ((run es).sm s).frees = 0 → ∀ e ∈ ((run es).sm s).demuxTable,
      (run es).live e.2 = true ∧ e.2 ∈ ((run es).sm s).allConnections) ∧
    (∀ g, ((run es).group g).cnxClosed = false → ∀ e ∈ ((run es).group g).streamCtx,
      (run es).live e.2 = true ∧ e.2 ∈ (run es).membersOf g) := by
  have hrun : Routed (run es) ∧ Counted none (run es) ∧ Grouped none (run es) := by
    refine Lib.run_invariant (I := fun w => Routed w ∧ Counted none w ∧ Grouped none w)
      (fun w e hw he => ?_) ⟨routed_init, counted_init, grouped_init⟩ hes
    exact ⟨hw.1.step hw.2.1 hw.2.2 he, hw.2.1.step hw.2.2 e, hw.2.2.step e⟩
  set w := run es
  obtain ⟨h, hc, hg⟩ := hrun
  constructor
  · intro s hs e he
    have hmem := h.demux s hs e he
    have hlist : e.2 ∈ w.connectionsOf s := (hc.perm_connectionsOf s).mem_iff.mp hmem
    rw [connectionsOf, List.mem_filter, List.mem_range, decide_eq_true_eq] at hlist
    exact ⟨live_iff.mpr ⟨hlist.1, hlist.2.1⟩, hmem⟩
  · intro g hg' e he
    obtain ⟨hlt, hgroup⟩ := h.ctx g hg' e he
    have hmem : e.2 ∈ w.membersOf g :=
      hg.mem_membersOf.mpr ((hg.mem_iff g _ e.2).mpr ⟨hlt, hgroup, rfl⟩)
    have hlive := (List.mem_filter.mp hmem).2
    rw [decide_eq_true_eq] at hlive
    exact ⟨live_iff.mpr ⟨hlt, hlive.1⟩, hmem⟩

theorem routes_run_closed :
    (7, 0) ∈ ((run [.listen .udp, .datagram 0 7 1, .initiate .quic 2 8 (.begun (some 0)),
      .cnxClosed 1, .closed 1, .free 1]).sm 0).demuxTable ∧
    (run [.listen .udp, .datagram 0 7 1, .initiate .quic 2 8 (.begun (some 0)), .cnxClosed 1,
      .closed 1, .free 1]).live 0 = true :=
  ⟨by decide, ((routes_run _ (by decide)).1 0 (by decide) (7, 0) (by decide)).1⟩

def FreesUnreported (w : World) : Event → Prop
  | .free c => (w.conn c).closed = false
  | _ => False

instance (w : World) (e : Event) : Decidable (w.FreesUnreported e) := by
  rcases e with ⟨⟩ <;> dsimp only [FreesUnreported] <;> infer_instance

/-- A connection of a UDP listener is closed and freed, and datagrams from its address are still
routed to it. -/
theorem datagram_routed_to_freed :
    Lib.AllSteps step (fun w e => ¬ w.FreesUnreported e) {}
      [.listen .udp, .datagram 0 7 1, .closed 0, .free 0] ∧
    ((run [.listen .udp, .datagram 0 7 1, .closed 0, .free 0]).sm 0).frees = 0 ∧
    ((run [.listen .udp, .datagram 0 7 1, .closed 0, .free 0]).sm 0).demuxTable.lookup 7 = some 0 ∧
    (run [.listen .udp, .datagram 0 7 1, .closed 0, .free 0]).live 0 = false := by
  decide

end CTaps.Lifetimes.World
