import CTaps.Lifetimes.References

/-! The release of a group and of the state that QUIC keeps for it. Both go with the last connection
of the group, whose own socket manager is still there. -/

namespace CTaps.Lifetimes.World

open Gathering (Protocol)

structure Released (w : World) : Prop where
  reaches : w.deadReaches = 0
  state_eq : ∀ g, (w.group g).stateFrees =
    if (w.group g).frees ≠ 0 ∧ (w.group g).state = true then 1 else 0
  homed : ∀ c < w.numConns, ∀ g, (w.conn c).connectionGroup = some g →
    ∃ s, (w.conn c).socketManager = some s ∧
      ((w.group g).state = true → (w.sm s).protocol = .quic)
  fresh : ∀ g, w.numGroups ≤ g → (w.group g).state = false

variable {w w' : World}

/-! ### New connections -/

structure Grows (w w' : World) : Prop where
  conns : w'.numConns = w.numConns + 1
  conn : ∀ d, d ≠ w.numConns → (w'.conn d).connectionGroup = (w.conn d).connectionGroup ∧
    (w'.conn d).socketManager = (w.conn d).socketManager
  sms : w.numSms ≤ w'.numSms
  protocol : ∀ s < w.numSms, (w'.sm s).protocol = (w.sm s).protocol
  groups : w.numGroups ≤ w'.numGroups
  group : ∀ g, (w'.group g).state = (w.group g).state ∧
    (w'.group g).stateFrees = (w.group g).stateFrees ∧ (w'.group g).frees = (w.group g).frees
  reaches : w'.deadReaches = w.deadReaches

theorem Released.grow {y : Option Nat} (h : Released w) (hc : Counted y w) (hw : Grows w w')
    (hnew : ∀ g, (w'.conn w.numConns).connectionGroup = some g →
      ∃ s, (w'.conn w.numConns).socketManager = some s ∧
        ((w.group g).state = true → (w'.sm s).protocol = .quic)) : Released w' := by
  refine ⟨hw.reaches.trans h.reaches, fun g => ?_, fun c hlt g hg => ?_, fun g hg => ?_⟩
  · rw [(hw.group g).1, (hw.group g).2.1, (hw.group g).2.2]
    exact h.state_eq g
  · rw [(hw.group g).1]
    by_cases hcn : c = w.numConns
    · subst hcn
      exact hnew g hg
    · rw [hw.conns] at hlt
      have hlt : c < w.numConns := Nat.lt_of_le_of_ne (Nat.le_of_lt_succ hlt) hcn
      rw [(hw.conn c hcn).1] at hg
      obtain ⟨s, hs, hquic⟩ := h.homed c hlt g hg
      refine ⟨s, (hw.conn c hcn).2.trans hs, ?_⟩
      rw [hw.protocol s (hc.alive hlt hs).1]
      exact hquic
  · rw [(hw.group g).1]
    exact h.fresh g (Nat.le_trans hw.groups hg)

theorem groupAddConnection_keeps (w : World) (g c : Nat) :
    (w.groupAddConnection g c).numConns = w.numConns ∧
      (w.groupAddConnection g c).numGroups = w.numGroups ∧
      (w.groupAddConnection g c).numSms = w.numSms ∧ (w.groupAddConnection g c).sm = w.sm ∧
      (w.groupAddConnection g c).deadReaches = w.deadReaches := by
  unfold groupAddConnection
  dsimp only
  split
  · exact ⟨rfl, rfl, rfl, rfl, rfl⟩
  · split <;> exact ⟨rfl, rfl, rfl, rfl, rfl⟩

theorem groupAddConnection_conn (w : World) (g c d : Nat) :
    ((w.groupAddConnection g c).conn d).socketManager = (w.conn d).socketManager ∧
      (d ≠ c → ((w.groupAddConnection g c).conn d).connectionGroup =
        (w.conn d).connectionGroup) ∧
      ((w.conn c).connectionGroup = none → ∀ k,
        ((w.groupAddConnection g c).conn c).connectionGroup = some k → k = g) := by
  refine ⟨(conn_of_refs (refs_groupAddConnection w g c) d).1, fun hd => ?_, fun hnone k hk => ?_⟩
  · unfold groupAddConnection
    dsimp only
    split
    · rfl
    · split
      · simp [hd]
      · rfl
  · unfold groupAddConnection at hk
    dsimp only at hk
    split at hk
    · simp [hnone] at hk
    · split at hk
      · simpa using hk.symm
      · simp [hnone] at hk

theorem groupAddConnection_group (w : World) (g c k : Nat) :
    ((w.groupAddConnection g c).group k).state = (w.group k).state ∧
      ((w.groupAddConnection g c).group k).stateFrees = (w.group k).stateFrees ∧
      ((w.groupAddConnection g c).group k).frees = (w.group k).frees := by
  unfold groupAddConnection
  dsimp only
  by_cases hk : k = g
  · subst hk
    split
    · simp
    · split <;> simp
  · split
    · simp
    · split <;> simp [hk]

theorem grows_addConn (w : World) (x : Connection) : Grows w (w.addConn x) := by
  refine ⟨rfl, fun d hd => ?_, Nat.le_refl _, fun _ _ => rfl, Nat.le_refl _, fun _ => ⟨rfl, rfl, rfl⟩,
    rfl⟩
  simp [hd]

theorem Grows.withSm (hw : Grows w w') (m : SocketManager) : Grows w (w'.addSm m) := by
  refine { hw with sms := Nat.le_succ_of_le hw.sms, protocol := fun s hs => ?_ }
  have hne : s ≠ w'.numSms := Nat.ne_of_lt (Nat.lt_of_lt_of_le hs hw.sms)
  simpa [hne] using hw.protocol s hs

theorem Released.fresh_group (h : Released w) (hg : Grouped none w) {g : Nat} (hn : w.numGroups ≤ g) :
    (w.group g).state = false ∧ (w.group g).stateFrees = 0 ∧ (w.group g).frees = 0 := by
  have hfrees : (w.group g).frees = 0 := congrArg Lib.Cell.frees (hg.balanced.fresh g hn)
  refine ⟨h.fresh g hn, ?_, hfrees⟩
  rw [h.state_eq, hfrees]
  simp

theorem Grows.withGroup (hw : Grows w w') (h : Released w) (hg : Grouped none w) :
    Grows w w'.addGroup := by
  refine { hw with groups := Nat.le_succ_of_le hw.groups, group := fun g => ?_ }
  by_cases hn : g = w'.numGroups
  · subst hn
    obtain ⟨hstate, hsf, hfrees⟩ := h.fresh_group hg hw.groups
    simp [hstate, hsf, hfrees]
  · simpa [hn] using hw.group g

theorem Grows.withMember (hw : Grows w w') (g : Nat) :
    Grows w (w'.groupAddConnection g w.numConns) := by
  obtain ⟨hconns, hgroups, hsms, hsm, hreaches⟩ := w'.groupAddConnection_keeps g w.numConns
  constructor
  · rw [hconns]
    exact hw.conns
  · intro d hd
    obtain ⟨hhome, hgroup, -⟩ := w'.groupAddConnection_conn g w.numConns d
    rw [hhome, hgroup hd]
    exact hw.conn d hd
  · rw [hsms]
    exact hw.sms
  · rw [hsm]
    exact hw.protocol
  · rw [hgroups]
    exact hw.groups
  · intro k
    obtain ⟨hstate, hsf, hfrees⟩ := w'.groupAddConnection_group g w.numConns k
    rw [hstate, hsf, hfrees]
    exact hw.group k
  · rw [hreaches]
    exact hw.reaches

theorem protocol_socketManagerAddConnection (w : World) (s c t : Nat) :
    ((w.socketManagerAddConnection s c).sm t).protocol = (w.sm t).protocol := by
  rw [socketManagerAddConnection_sm]
  split
  · next ht => rw [ht]; rfl
  · rfl

theorem Grows.withHome (hw : Grows w w') (s : Nat) :
    Grows w (w'.socketManagerAddConnection s w.numConns) := by
  refine { hw with conn := fun d hd => ?_, protocol := fun t ht => ?_ }
  · rw [socketManagerAddConnection_conn, if_neg hd]
    exact hw.conn d hd
  · rw [protocol_socketManagerAddConnection]
    exact hw.protocol t ht

theorem Released.member {y : Option Nat} (h : Released w) (hc : Counted y w) (hw : Grows w w')
    (hnone : (w'.conn w.numConns).connectionGroup = none) (g s : Nat)
    (hquic : (w.group g).state = true → (w'.sm s).protocol = .quic) :
    Released ((w'.groupAddConnection g w.numConns).socketManagerAddConnection s w.numConns) := by
  refine h.grow hc ((hw.withMember g).withHome s) fun k hk => ?_
  rw [socketManagerAddConnection_conn, if_pos rfl] at hk ⊢
  have hkg : k = g := (w'.groupAddConnection_conn g w.numConns w.numConns).2.2 hnone k hk
  subst hkg
  refine ⟨s, rfl, ?_⟩
  rw [protocol_socketManagerAddConnection, (w'.groupAddConnection_keeps k w.numConns).2.2.2.1]
  exact hquic

theorem Released.server {y : Option Nat} (h : Released w) (hc : Counted y w) (hg : Grouped none w)
    (s uuid remote : Nat) : Released (w.createServerConnection s uuid remote) := by
  refine h.member hc ((grows_addConn w _).withGroup h hg) (by simp) w.numGroups s fun hstate => ?_
  rw [h.fresh w.numGroups (Nat.le_refl _)] at hstate
  cases hstate

theorem Released.modSm (h : Released w) {s : Nat} {f : SocketManager → SocketManager}
    (hf : (f (w.sm s)).protocol = (w.sm s).protocol) : Released (w.modSm s f) := by
  refine ⟨h.reaches, h.state_eq, fun c hc g hg => ?_, h.fresh⟩
  obtain ⟨t, ht, hquic⟩ := h.homed c hc g hg
  refine ⟨t, ht, fun hstate => ?_⟩
  rw [← hquic hstate]
  exact Lib.update_keeps SocketManager.protocol hf t

theorem protocol_insertDemuxed (m : SocketManager) (addr c : Nat) :
    (m.insertDemuxed addr c).protocol = m.protocol := by
  unfold SocketManager.insertDemuxed
  split <;> rfl

theorem Released.client (h : Released w) (hc : Counted none w) (hg : Grouped none w) (p : Protocol)
    (uuid remote : Nat) : Released (w.createClient p uuid remote) := by
  have hmember := h.member hc
    (((grows_addConn w { uuid := uuid, remote := remote }).withSm { protocol := p }).withGroup h hg)
    (by simp) w.numGroups w.numSms fun hstate => by
      rw [h.fresh w.numGroups (Nat.le_refl _)] at hstate
      cases hstate
  unfold createClient
  dsimp only
  split
  · exact hmember.modSm (protocol_insertDemuxed _ _ _)
  · exact hmember

theorem Released.newSm {y : Option Nat} (h : Released w) (hc : Counted y w) (m : SocketManager) :
    Released (w.addSm m) := by
  refine ⟨h.reaches, h.state_eq, fun c hlt g hg => ?_, h.fresh⟩
  obtain ⟨s, hs, hquic⟩ := h.homed c hlt g hg
  refine ⟨s, hs, fun hstate => ?_⟩
  have hne : s ≠ w.numSms := Nat.ne_of_lt (hc.alive hlt hs).1
  simpa [hne] using hquic hstate

theorem Released.cloned (h : Released w) (hc : Counted none w) {source : Nat}
    (hlive : w.live source = true) (uuid : Nat) : Released (w.createClone source uuid) := by
  have hlt := (live_iff.mp hlive).1
  have hne : source ≠ w.numConns := Nat.ne_of_lt hlt
  set x : Connection := { uuid := uuid, remote := (w.conn source).remote }
  have hsource : ((w.addConn x).conn source).socketManager = (w.conn source).socketManager := by
    simp [hne]
  unfold createClone shareGroup shareSocketManager
  rw [hsource]
  cases hs : (w.conn source).socketManager with
  | none =>
    -- a member of a group has a socket manager
    have hnoGroup : (w.conn source).connectionGroup = none := by
      cases hgroup : (w.conn source).connectionGroup with
      | none => rfl
      | some g =>
        obtain ⟨s, hs', -⟩ := h.homed source hlt g hgroup
        rw [hs] at hs'
        cases hs'
    have hsource : ((w.addConn x).conn source).connectionGroup = none := by
      simpa [hne] using hnoGroup
    dsimp only
    rw [hsource]
    refine h.grow hc (grows_addConn w x) fun g hg => ?_
    simp at hg
  | some s =>
    have hsource : (((w.addConn x).socketManagerAddConnection s w.numConns).conn
        source).connectionGroup = (w.conn source).connectionGroup := by
      rw [socketManagerAddConnection_conn, if_neg hne]
      simp [hne]
    have hgrows := (grows_addConn w x).withHome s
    have hnew : ((w.addConn x).socketManagerAddConnection s w.numConns).conn w.numConns =
        { x with socketManager := some s } := by
      rw [socketManagerAddConnection_conn, if_pos rfl]
      simp
    dsimp only
    rw [hsource]
    split
    · next g hg =>
      refine h.grow hc (hgrows.withMember g) fun k hk => ?_
      have hkeeps := ((w.addConn x).socketManagerAddConnection s w.numConns).groupAddConnection_conn
        g w.numConns w.numConns
      have hkg : k = g := hkeeps.2.2 (by rw [hnew]) k hk
      subst hkg
      refine ⟨s, by rw [hkeeps.1, hnew], fun hstate => ?_⟩
      -- the clone shares the socket manager of its source, a QUIC one if the group has a state
      obtain ⟨t, ht, hquic⟩ := h.homed source hlt k hg
      have hts : t = s := Option.some.inj (ht.symm.trans hs)
      rw [(groupAddConnection_keeps _ _ _).2.2.2.1, protocol_socketManagerAddConnection, ← hts]
      exact hquic hstate
    · refine h.grow hc hgrows fun k hk => ?_
      rw [hnew] at hk
      cases hk

/-! ### Clones on a socket of their own -/

theorem Released.moved {y : Option Nat} (h : Released w) (hc : Counted y w) {c : Nat}
    (hties : w'.ties = w.ties)
    (hconn : ∀ d, d ≠ c → (w'.conn d).socketManager = (w.conn d).socketManager)
    (hprotocol : ∀ s < w.numSms, (w'.sm s).protocol = (w.sm s).protocol)
    (hgroup : w'.group = w.group ∧ w'.deadReaches = w.deadReaches)
    (hhome : ∃ s, (w'.conn c).socketManager = some s)
    (hstate : ∀ g, (w.conn c).connectionGroup = some g → (w.group g).state = false) :
    Released w' := by
  have hconns : w'.numConns = w.numConns := congrArg Ties.numConns hties
  have hgroups : w'.numGroups = w.numGroups := congrArg Ties.numGroups hties
  refine ⟨hgroup.2.trans h.reaches, ?_, fun d hd g hg => ?_, ?_⟩
  · rw [hgroup.1]
    exact h.state_eq
  · rw [(conn_of_ties hties d).2.1] at hg
    rw [hgroup.1]
    by_cases hdc : d = c
    · subst hdc
      obtain ⟨s, hs⟩ := hhome
      refine ⟨s, hs, fun ht => ?_⟩
      rw [hstate g hg] at ht
      cases ht
    · rw [hconns] at hd
      obtain ⟨s, hs, hquic⟩ := h.homed d hd g hg
      refine ⟨s, (hconn d hdc).trans hs, fun ht => ?_⟩
      rw [hprotocol s (hc.alive hd hs).1]
      exact hquic ht
  · rw [hgroup.1, hgroups]
    exact h.fresh

theorem protocol_unref (m : SocketManager) : m.unref.protocol = m.protocol := by
  unfold SocketManager.unref
  split <;> rfl

theorem Released.rehome (h : Released w) (hc : Counted none w) {c : Nat}
    (hstate : ∀ g, (w.conn c).connectionGroup = some g → (w.group g).state = false)
    (p : Protocol) : Released (w.rehome p c) := by
  refine h.moved hc (ties_rehome w p c) (fun d hd => ?_) (fun s hs => ?_) ?_
    ⟨w.numSms, ?_⟩ hstate
  · unfold World.rehome detachTcp
    rw [socketManagerAddConnection_conn, if_neg hd]
    split
    · simp [hd]
    · rfl
  · have hne : s ≠ w.numSms := Nat.ne_of_lt hs
    unfold World.rehome detachTcp
    rw [protocol_socketManagerAddConnection]
    split
    · next old _ =>
      by_cases hso : s = old
      · subst hso
        simp [hne, SocketManager.remove, protocol_unref]
      · simp [hne, hso]
    · simp [hne]
  · unfold World.rehome detachTcp
    split <;> exact ⟨rfl, rfl⟩
  · unfold World.rehome detachTcp
    rw [socketManagerAddConnection_conn, if_pos rfl]

theorem createClone_home (w : World) {source : Nat} (hne : source ≠ w.numConns) (uuid : Nat) :
    ((w.createClone source uuid).conn w.numConns).socketManager =
      ((w.createClone source uuid).conn source).socketManager := by
  have hgroup : ∀ (w' : World) (g d : Nat), ((w'.groupAddConnection g w.numConns).conn
      d).socketManager = (w'.conn d).socketManager :=
    fun w' g d => (conn_of_refs (refs_groupAddConnection w' g w.numConns) d).1
  have hsource : ((w.addConn { uuid := uuid, remote := (w.conn source).remote }).conn
      source).socketManager = (w.conn source).socketManager := by simp [hne]
  unfold createClone shareGroup shareSocketManager
  rw [hsource]
  cases hs : (w.conn source).socketManager with
  | none =>
    dsimp only
    split
    · rw [hgroup, hgroup]
      simp [hne, hs]
    · simp [hne, hs]
  | some s =>
    dsimp only
    split
    · rw [hgroup, hgroup, socketManagerAddConnection_conn, socketManagerAddConnection_conn,
        if_pos rfl, if_neg hne]
      simp [hne, hs]
    · rw [socketManagerAddConnection_conn, socketManagerAddConnection_conn, if_pos rfl, if_neg hne]
      simp [hne, hs]

theorem Released.clone (h : Released w) (hc : Counted none w) {source : Nat}
    (hlive : w.live source = true) (uuid : Nat) : Released (w.connectionClone source uuid) := by
  have hclone := h.cloned hc hlive uuid
  have hcount := hc.cloned hlive uuid
  have hlt : w.numConns < (w.createClone source uuid).numConns :=
    (w.createClone_new source uuid).1 ▸ Nat.lt_succ_self _
  have hhome := w.createClone_home (Nat.ne_of_lt (live_iff.mp hlive).1) uuid
  -- a group with state has QUIC connections only, and a QUIC clone is not moved
  have hstate : ∀ s, ((w.createClone source uuid).conn source).socketManager = some s →
      ((w.createClone source uuid).sm s).protocol ≠ .quic →
      ∀ g, ((w.createClone source uuid).conn w.numConns).connectionGroup = some g →
      ((w.createClone source uuid).group g).state = false := by
    intro s hs hp g hg
    obtain ⟨t, ht, hquic⟩ := hclone.homed w.numConns hlt g hg
    have hts : t = s := Option.some.inj (ht.symm.trans (hhome.trans hs))
    subst hts
    cases hstate : ((w.createClone source uuid).group g).state with
    | false => rfl
    | true => exact absurd (hquic hstate) hp
  unfold connectionClone
  dsimp only
  split
  · next s hs =>
    split
    · next hp => exact hclone.rehome hcount (hstate s hs (by simp [hp])) .tcp
    · next hp =>
      rw [udpCloneConnection_eq fun t ht => Nat.ne_of_lt (hcount.alive hlt ht).1]
      exact (hclone.rehome hcount (hstate s hs (by simp [hp])) .udp).modSm
        (protocol_insertDemuxed _ _ _)
    · exact hclone
  · exact hclone

/-! ### The state of a QUIC group -/

theorem Released.modConn (h : Released w) {c : Nat} {f : Connection → Connection}
    (hf : ∀ x, (f x).connectionGroup = x.connectionGroup ∧ (f x).socketManager = x.socketManager) :
    Released (w.modConn c f) := by
  have hconn : ∀ d, ((w.modConn c f).conn d).connectionGroup = (w.conn d).connectionGroup ∧
      ((w.modConn c f).conn d).socketManager = (w.conn d).socketManager := by
    intro d
    by_cases hd : d = c
    · subst hd
      simpa using hf (w.conn d)
    · simp [hd]
  refine ⟨h.reaches, h.state_eq, ?_, h.fresh⟩
  simp only [(hconn _).1, (hconn _).2]
  exact h.homed

theorem Released.modGroup (h : Released w) {g : Nat} {f : Group → Group}
    (hf : ∀ x, (f x).state = x.state ∧ (f x).stateFrees = x.stateFrees ∧ (f x).frees = x.frees) :
    Released (w.modGroup g f) := by
  have hgroup : ∀ k, ((w.modGroup g f).group k).state = (w.group k).state ∧
      ((w.modGroup g f).group k).stateFrees = (w.group k).stateFrees ∧
      ((w.modGroup g f).group k).frees = (w.group k).frees := by
    intro k
    by_cases hk : k = g
    · subst hk
      simpa using hf (w.group k)
    · simp [hk]
  refine ⟨h.reaches, ?_, ?_, ?_⟩
  · simp only [(hgroup _).1, (hgroup _).2.1, (hgroup _).2.2]
    exact h.state_eq
  · simp only [(hgroup _).1]
    exact h.homed
  · simp only [(hgroup _).1]
    exact h.fresh

theorem Released.setStream (h : Released w) (g sid c : Nat) : Released (w.setStream g sid c) := by
  unfold World.setStream setAppStreamCtx
  refine Released.modGroup (h.modConn ?_) ?_
  · exact fun _ => ⟨rfl, rfl⟩
  · exact fun _ => ⟨rfl, rfl, rfl⟩

theorem Released.begin (h : Released w) (hg : Grouped none w) (h' : Released w') (hw : Grows w w')
    (hlt : w.numGroups < w'.numGroups) {s : Nat}
    (hs : (w'.conn w.numConns).socketManager = some s) (hp : (w'.sm s).protocol = .quic) :
    Released (w'.modGroup w.numGroups fun x => { x with state := true }) := by
  have hnoMember : ∀ d < w.numConns, (w.conn d).connectionGroup ≠ some w.numGroups := by
    intro d hd hgroup
    have hmem := (hg.mem_iff w.numGroups _ d).mpr ⟨hd, hgroup, rfl⟩
    exact Nat.lt_irrefl _ (hg.balanced.alive hmem).1
  have hfresh := h.fresh_group hg (Nat.le_refl w.numGroups)
  refine ⟨h'.reaches, fun k => ?_, fun c hc k hk => ?_, fun k hk => ?_⟩
  · by_cases hkg : k = w.numGroups
    · subst hkg
      obtain ⟨-, hsf, hfrees⟩ := hw.group w.numGroups
      simp [hsf, hfrees, hfresh]
    · simpa [hkg] using h'.state_eq k
  · by_cases hkg : k = w.numGroups
    · subst hkg
      by_cases hcn : c = w.numConns
      · subst hcn
        exact ⟨s, hs, fun _ => hp⟩
      · have hc : c < w.numConns + 1 := hw.conns ▸ hc
        have hc : c < w.numConns := Nat.lt_of_le_of_ne (Nat.le_of_lt_succ hc) hcn
        exact absurd ((hw.conn c hcn).1.symm.trans hk) (hnoMember c hc)
    · obtain ⟨t, ht, hquic⟩ := h'.homed c hc k hk
      refine ⟨t, ht, fun hstate => hquic ?_⟩
      simpa [hkg] using hstate
  · have hkg : k ≠ w.numGroups := Nat.ne_of_gt (Nat.lt_of_lt_of_le hlt hk)
    simpa [hkg] using h'.fresh k hk

theorem Released.newCnx (h : Released w) (hc : Counted none w) (hg : Grouped none w) {s : Nat}
    (hp : (w.sm s).protocol = .quic) (uuid addr : Nat) : Released (w.newCnx s uuid addr) := by
  unfold World.newCnx
  split
  · have hw : Grows w (w.createServerConnection s uuid addr) :=
      (((grows_addConn w _).withGroup h hg).withMember _).withHome s
    refine h.begin hg (h.server hc hg s uuid addr) hw ?_ (s := s) ?_ ?_
    · show w.numGroups < (World.groupAddConnection _ _ _).numGroups
      rw [(groupAddConnection_keeps _ _ _).2.1]
      exact Nat.lt_succ_self _
    · unfold createServerConnection
      rw [socketManagerAddConnection_conn, if_pos rfl]
    · unfold createServerConnection
      rw [protocol_socketManagerAddConnection, (groupAddConnection_keeps _ _ _).2.2.2.1]
      exact hp
  · exact h

theorem Released.initiate (h : Released w) (hc : Counted none w) (hg : Grouped none w) (p : Protocol)
    (uuid remote : Nat) (init : Init) : Released (w.initiate p uuid remote init) := by
  have hclient := h.client hc hg p uuid remote
  unfold World.initiate
  dsimp only
  split
  · next hp =>
    subst hp
    have hw : Grows w (w.createClient .quic uuid remote) :=
      ((((grows_addConn w _).withSm _).withGroup h hg).withMember _).withHome _
    have hstate : Released
        ((w.createClient .quic uuid remote).modGroup w.numGroups fun x => { x with state := true }) := by
      refine h.begin hg hclient hw ?_ (s := w.numSms) ?_ ?_
      · show w.numGroups < (World.groupAddConnection _ _ _).numGroups
        rw [(groupAddConnection_keeps _ _ _).2.1]
        exact Nat.lt_succ_self _
      · show ((World.socketManagerAddConnection _ _ _).conn _).socketManager = _
        rw [socketManagerAddConnection_conn, if_pos rfl]
      · show ((World.socketManagerAddConnection _ _ _).sm _).protocol = _
        rw [protocol_socketManagerAddConnection, (groupAddConnection_keeps _ _ _).2.2.2.1]
        simp
    cases init with
    | failed => exact hclient
    | begun early =>
      cases early with
      | none => exact hstate
      | some sid => exact hstate.setStream _ _ _
  · exact hclient

/-! ### The last connection -/

theorem Released.unref (h : Released w) (hc : Counted none w) (hg : Grouped none w) {c : Nat}
    (hlt : c < w.numConns) : Released (w.groupUnref c) := by
  unfold groupUnref
  split
  · next g hgroup =>
    obtain ⟨s, hs, hquic⟩ := h.homed c hlt g hgroup
    have hsm : (w.sm s).frees = 0 := (hc.alive hlt hs).2
    have hfrees : (w.group g).frees = 0 :=
      (hg.balanced.alive ((hg.mem_iff g _ c).mpr ⟨hlt, hgroup, rfl⟩)).2.1
    have hsf : (w.group g).stateFrees = 0 := by
      rw [h.state_eq, hfrees]
      simp
    dsimp only
    split
    · -- the group and its state go together
      have hreached : (w.conn c).socketManager.any (fun s => (w.sm s).frees = 0) = true := by
        simp [hs, hsm]
      refine ⟨?_, fun k => ?_, fun d hd k hk => ?_, fun k hk => ?_⟩
      · simp [freeGroup, hreached, h.reaches]
      · by_cases hkg : k = g
        · subst hkg
          cases hstate : (w.group k).state with
          | false => simp [freeGroup, hstate, hsf]
          | true => simp [freeGroup, hstate, hsf, hs, hquic hstate]
        · simpa [freeGroup, hkg] using h.state_eq k
      · obtain ⟨t, ht, htquic⟩ := h.homed d hd k hk
        refine ⟨t, ht, fun hstate => htquic ?_⟩
        by_cases hkg : k = g
        · subst hkg
          simpa [freeGroup] using hstate
        · simpa [freeGroup, hkg] using hstate
      · have hfresh := h.fresh k hk
        by_cases hkg : k = g
        · subst hkg
          simpa [freeGroup] using hfresh
        · simpa [freeGroup, hkg] using hfresh
    · refine h.modGroup ?_
      exact fun _ => ⟨rfl, rfl, rfl⟩
  · exact h

theorem Released.free (h : Released w) (hc : Counted none w) (hg : Grouped none w) {c : Nat}
    (hlt : c < w.numConns) : Released (w.connectionFree c) := by
  have hunref := h.unref hc hg hlt
  unfold connectionFree
  dsimp only
  set w₁ := (w.groupUnref c).modConn c fun x => { x with connectionGroup := none }
  have h₁ : Released w₁ := by
    refine ⟨hunref.reaches, hunref.state_eq, fun d hd g hg => ?_, hunref.fresh⟩
    by_cases hdc : d = c
    · subst hdc
      simp [w₁] at hg
    · have hold : w₁.conn d = (w.groupUnref c).conn d := by simp [w₁, hdc]
      rw [hold] at hg ⊢
      exact hunref.homed d hd g hg
  refine Released.modConn ?_ ?_
  · split
    · next s hs =>
      -- the connection is in no group any more, so it need not have a socket manager
      have hsm := (h₁.modSm (f := SocketManager.remove c) (s := s) rfl).modSm (s := s)
        (protocol_unref _)
      refine ⟨hsm.reaches, hsm.state_eq, fun d hd g hg => ?_, hsm.fresh⟩
      by_cases hdc : d = c
      · subst hdc
        simp [w₁] at hg
      · simp only [modConn_conn, Function.update_of_ne hdc] at hg ⊢
        exact hsm.homed d hd g hg
    · exact h₁
  · exact fun _ => ⟨rfl, rfl⟩

theorem Released.newListener (h : Released w) (hc : Counted none w) (p : Protocol) :
    Released (w.listenerNew p) := by
  have hsm := (h.newSm hc { protocol := p, listener := some w.numListeners }).modSm
    (s := w.numSms) (f := SocketManager.ref) rfl
  exact ⟨hsm.reaches, hsm.state_eq, hsm.homed, hsm.fresh⟩

theorem Released.freeListener (h : Released w) (l : Nat) : Released (w.listenerFree l) := by
  unfold listenerFree
  dsimp only
  split
  · next s _ =>
    have hsm := (h.modSm (f := fun m => { m with listener := none }) (s := s) rfl).modSm (s := s)
      (protocol_unref _)
    exact ⟨hsm.reaches, hsm.state_eq, hsm.homed, hsm.fresh⟩
  · exact ⟨h.reaches, h.state_eq, h.homed, h.fresh⟩

/-! ### Runs -/

theorem Released.step (h : Released w) (hc : Counted none w) (hg : Grouped none w) (e : Event) :
    Released (w.step e) := by
  refine step_keeps h fun he => ?_
  cases e with
  | initiate p uuid remote init => exact h.initiate hc hg p uuid remote init
  | listen p => exact h.newListener hc p
  | clone c uuid => exact h.clone hc he.1 uuid
  | accepted s uuid remote =>
    exact (h.newSm hc _).server (hc.newSm .tcp) (hg.of_ties rfl) _ _ _
  | datagram s addr uuid =>
    dsimp only [act, udpMultiplexReceivedMessage]
    split
    · exact (h.server hc hg s uuid addr).modSm (protocol_insertDemuxed _ _ _)
    · exact h
  | newCnx s uuid addr => exact h.newCnx hc hg he.1 uuid addr
  | send c sid =>
    dsimp only [act, assignNextFreeStream]
    split
    · exact h.setStream _ _ _
    · exact h
  | stream g sid first uuid =>
    dsimp only [act, resolveOrCreateStreamConnection]
    split
    · exact h
    · split
      · exact (h.cloned hc (hg.live_of_mem he.2.1).1 uuid).setStream _ _ _
      · exact h.setStream _ _ _
  | streamDeleted g sid =>
    dsimp only [act]
    refine h.modGroup ?_
    exact fun _ => ⟨rfl, rfl, rfl⟩
  | cnxClosed g =>
    dsimp only [act]
    refine h.modGroup ?_
    exact fun _ => ⟨rfl, rfl, rfl⟩
  | closed c =>
    dsimp only [act]
    refine h.modConn ?_
    exact fun _ => ⟨rfl, rfl⟩
  | listenerClosed l => exact ⟨h.reaches, h.state_eq, h.homed, h.fresh⟩
  | free c => exact h.free hc hg (live_iff.mp he).1
  | listenerFree l => exact h.freeListener l

def membersOf (w : World) (g : Nat) : List Nat :=
  (List.range w.numConns).filter fun c =>
    (w.conn c).freed = false ∧ (w.conn c).connectionGroup = some g

theorem Grouped.mem_membersOf (h : Grouped none w) {g c : Nat} :
    c ∈ w.membersOf g ↔ ((w.conn c).uuid, c) ∈ (w.group g).connections := by
  rw [h.mem_iff, membersOf, List.mem_filter, List.mem_range, decide_eq_true_eq]
  refine and_congr_right fun _ => ⟨fun hg => ⟨hg.2, rfl⟩, fun hg => ⟨?_, hg.1⟩⟩
  cases hf : (w.conn c).freed with
  | false => rfl
  | true =>
    rw [h.freed_none c hf] at hg
    cases hg.1

theorem Grouped.perm_membersOf (h : Grouped none w) (g : Nat) :
    (w.group g).connections.Perm ((w.membersOf g).map fun c => ((w.conn c).uuid, c)) := by
  have hrange : (w.membersOf g).Nodup := List.nodup_range.filter _
  have hinj : Function.Injective fun c => ((w.conn c).uuid, c) :=
    fun _ _ he => congrArg Prod.snd he
  refine (List.perm_ext_iff_of_nodup (h.nodup g) (hrange.map hinj)).mpr fun e => ?_
  rw [List.mem_map]
  constructor
  · intro he
    have huuid := ((h.mem_iff g e.1 e.2).mp he).2.2
    refine ⟨e.2, h.mem_membersOf.mpr ?_, by rw [huuid]⟩
    rw [huuid]
    exact he
  · rintro ⟨c, hc, rfl⟩
    exact h.mem_membersOf.mp hc

theorem Grouped.refCount_eq (h : Grouped none w) (g : Nat) :
    (w.group g).refCount = (w.group g).connections.length ∧
      (w.group g).connections.length = (w.membersOf g).length := by
  refine ⟨h.balanced.count_eq g, ?_⟩
  rw [(h.perm_membersOf g).length_eq, List.length_map]

theorem Grouped.frees_eq (h : Grouped none w) {g : Nat} (hg : g < w.numGroups) :
    (w.group g).frees = if w.membersOf g = [] then 1 else 0 := by
  have hfrees : (w.group g).frees = if (w.group g).refCount = 0 then 1 else 0 :=
    h.balanced.frees_eq g hg (by simp)
  obtain ⟨hcount, hlength⟩ := h.refCount_eq g
  rw [hfrees, hcount, hlength]
  simp

end CTaps.Lifetimes.World
