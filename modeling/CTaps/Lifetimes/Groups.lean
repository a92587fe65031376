import CTaps.Lib.RefCount
import CTaps.Lifetimes.Model

/-! The connections of a group. The table of a group has exactly the connections that refer to the
group, each under its own uuid, and the count of the group is the size of the table. -/

namespace CTaps.Lifetimes.World

open Function
open Gathering (Protocol)

def groupCell (w : World) (g : Nat) : Lib.Cell (Nat × Nat) :=
  ⟨(w.group g).refCount, (w.group g).connections, (w.group g).frees⟩

structure Grouped (young : Option Nat) (w : World) : Prop where
  balanced : Lib.Balanced young w.numGroups w.groupCell
  mem_iff : ∀ g u c, (u, c) ∈ (w.group g).connections ↔
    c < w.numConns ∧ (w.conn c).connectionGroup = some g ∧ (w.conn c).uuid = u
  uuid_inj : ∀ c < w.numConns, ∀ d < w.numConns, (w.conn c).uuid = (w.conn d).uuid → c = d
  freed_none : ∀ c, (w.conn c).freed = true → (w.conn c).connectionGroup = none

theorem grouped_init : Grouped none {} :=
  ⟨Lib.balanced_empty, by simp, by simp, by simp⟩

variable {w w' : World} {y : Option Nat}

/-! ### What the groups depend on -/

structure Ties where
  numConns : Nat
  conn : Nat → Nat × Option Nat × Bool
  numGroups : Nat
  cell : Nat → Lib.Cell (Nat × Nat)

def ties (w : World) : Ties :=
  { numConns := w.numConns
    conn := fun c => ((w.conn c).uuid, (w.conn c).connectionGroup, (w.conn c).freed)
    numGroups := w.numGroups
    cell := w.groupCell }

theorem conn_of_ties (he : w'.ties = w.ties) (c : Nat) :
    (w'.conn c).uuid = (w.conn c).uuid ∧
      (w'.conn c).connectionGroup = (w.conn c).connectionGroup ∧
      (w'.conn c).freed = (w.conn c).freed := by
  have hconn := congrFun (congrArg Ties.conn he) c
  simpa only [ties, Prod.mk.injEq] using hconn

theorem Grouped.of_ties (h : Grouped y w) (he : w'.ties = w.ties) : Grouped y w' := by
  have hn : w'.numConns = w.numConns := congrArg Ties.numConns he
  have hG : w'.numGroups = w.numGroups := congrArg Ties.numGroups he
  have hcell : w'.groupCell = w.groupCell := congrArg Ties.cell he
  have htable : ∀ g, (w'.group g).connections = (w.group g).connections :=
    fun g => congrArg Lib.Cell.holders (congrFun hcell g)
  have hconn := conn_of_ties he
  constructor
  · rw [hG, hcell]
    exact h.balanced
  · simpa only [hn, htable, (hconn _).1, (hconn _).2.1] using h.mem_iff
  · simpa only [hn, (hconn _).1] using h.uuid_inj
  · simpa only [(hconn _).2.1, (hconn _).2.2] using h.freed_none

theorem ties_modConn (w : World) (c : Nat) {f : Connection → Connection}
    (hf : ∀ x, (f x).uuid = x.uuid ∧ (f x).connectionGroup = x.connectionGroup ∧
      (f x).freed = x.freed) : (w.modConn c f).ties = w.ties := by
  have hconn := funext (Lib.update_keeps
    (fun x : Connection => (x.uuid, x.connectionGroup, x.freed)) (f := w.conn) (a := c)
    (x := f (w.conn c)) (by simp [hf]))
  exact congrArg (fun conn => { w.ties with conn := conn }) hconn

@[simp] theorem ties_modSm (w : World) (s : Nat) (f : SocketManager → SocketManager) :
    (w.modSm s f).ties = w.ties := rfl

@[simp] theorem ties_addSm (w : World) (m : SocketManager) : (w.addSm m).ties = w.ties := rfl

theorem ties_modGroup (w : World) (g : Nat) {f : Group → Group}
    (hf : ∀ x, (f x).refCount = x.refCount ∧ (f x).connections = x.connections ∧
      (f x).frees = x.frees) : (w.modGroup g f).ties = w.ties := by
  have hcell := funext (Lib.update_keeps
    (fun x : Group => (⟨x.refCount, x.connections, x.frees⟩ : Lib.Cell (Nat × Nat)))
    (f := w.group) (a := g) (x := f (w.group g)) (by simp [hf]))
  exact congrArg (fun cell => { w.ties with cell := cell }) hcell

@[simp] theorem ties_socketManagerAddConnection (w : World) (s c : Nat) :
    (w.socketManagerAddConnection s c).ties = w.ties := by
  unfold socketManagerAddConnection
  refine (ties_modConn _ c ?_).trans rfl
  exact fun _ => ⟨rfl, rfl, rfl⟩

@[simp] theorem ties_setStream (w : World) (g sid c : Nat) :
    (w.setStream g sid c).ties = w.ties := by
  unfold setStream setAppStreamCtx
  refine (ties_modGroup _ g ?_).trans (ties_modConn w c ?_)
  · exact fun _ => ⟨rfl, rfl, rfl⟩
  · exact fun _ => ⟨rfl, rfl, rfl⟩

@[simp] theorem ties_quicInit (w : World) (g c : Nat) (init : Init) :
    (w.quicInit g c init).ties = w.ties := by
  have hstate : (w.modGroup g fun x => { x with state := true }).ties = w.ties :=
    ties_modGroup w g fun _ => ⟨rfl, rfl, rfl⟩
  unfold quicInit
  split
  · rfl
  · exact hstate
  · rw [ties_setStream]
    exact hstate

/-- `tcp_clone_connection` moves a clone to a socket manager of its own, and so does
`udp_clone_connection`. -/
def rehome (w : World) (p : Protocol) (c : Nat) : World :=
  ((w.addSm { protocol := p }).detachTcp c).socketManagerAddConnection w.numSms c

theorem unref_remove (m : SocketManager) (c : Nat) : m.unref.remove c = (m.remove c).unref := by
  unfold SocketManager.unref SocketManager.remove
  dsimp only
  split <;> rfl

theorem udpCloneConnection_eq {c : Nat}
    (hne : ∀ s, (w.conn c).socketManager = some s → s ≠ w.numSms) :
    w.udpCloneConnection c = (w.rehome .udp c).modSm w.numSms
      (SocketManager.insertDemuxed (w.conn c).remote c) := by
  have hhome : ((w.detachUdp c).addSm { protocol := .udp }).socketManagerAddConnection w.numSms c =
      w.rehome .udp c := by
    unfold rehome detachUdp detachTcp
    simp only [addSm_conn]
    split
    · next s hs =>
      simp [socketManagerAddConnection, addSm, modSm, modConn, unref_remove, hne s hs,
        Ne.symm (hne s hs), update_comm (hne s hs)]
    · rfl
  have hremote : ((w.rehome .udp c).conn c).remote = (w.conn c).remote := by
    unfold rehome detachTcp
    split <;> simp [socketManagerAddConnection]
  unfold udpCloneConnection
  dsimp only
  rw [hhome, hremote]

theorem ties_rehome (w : World) (p : Protocol) (c : Nat) : (w.rehome p c).ties = w.ties := by
  unfold rehome detachTcp
  rw [ties_socketManagerAddConnection]
  split
  · refine (ties_modConn _ c ?_).trans rfl
    exact fun _ => ⟨rfl, rfl, rfl⟩
  · rfl

@[simp] theorem ties_udpCloneConnection (w : World) (c : Nat) :
    (w.udpCloneConnection c).ties = w.ties := by
  unfold udpCloneConnection detachUdp
  dsimp only
  rw [ties_modSm, ties_socketManagerAddConnection, ties_addSm]
  split <;> rfl

/-! ### Joining and leaving -/

theorem mem_iff_addConn (h : ∀ g u c, (u, c) ∈ (w.group g).connections ↔
      c < w.numConns ∧ (w.conn c).connectionGroup = some g ∧ (w.conn c).uuid = u)
    {x : Connection} (hx : x.connectionGroup = none) (g u c : Nat) :
    (u, c) ∈ ((w.addConn x).group g).connections ↔ c < (w.addConn x).numConns ∧
      ((w.addConn x).conn c).connectionGroup = some g ∧ ((w.addConn x).conn c).uuid = u := by
  by_cases hc : c = w.numConns
  · subst hc
    have hnot : (u, w.numConns) ∉ (w.group g).connections :=
      fun hmem => Nat.lt_irrefl _ ((h g u _).mp hmem).1
    simp [hx, hnot]
  · have hn : c < w.numConns + 1 ↔ c < w.numConns :=
      ⟨fun hlt => Nat.lt_of_le_of_ne (Nat.le_of_lt_succ hlt) hc, Nat.lt_succ_of_lt⟩
    simpa [hc, hn] using h g u c

theorem Grouped.newConn (h : Grouped y w) {x : Connection} (hx : x.connectionGroup = none)
    (hu : w.newUuid x.uuid) : Grouped y (w.addConn x) := by
  have hold : ∀ {c}, c < w.numConns + 1 → c ≠ w.numConns → c < w.numConns :=
    fun hlt hne => Nat.lt_of_le_of_ne (Nat.le_of_lt_succ hlt) hne
  refine ⟨h.balanced, mem_iff_addConn h.mem_iff hx, fun c hc d hd hcd => ?_, fun c hc => ?_⟩
  · by_cases hcn : c = w.numConns <;> by_cases hdn : d = w.numConns
    · rw [hcn, hdn]
    · subst hcn
      have huuid : x.uuid = (w.conn d).uuid := by simpa [hdn] using hcd
      exact absurd huuid.symm (hu d (hold hd hdn))
    · subst hdn
      have huuid : (w.conn c).uuid = x.uuid := by simpa [hcn] using hcd
      exact absurd huuid (hu c (hold hc hcn))
    · simp only [addConn_conn, update_of_ne hcn, update_of_ne hdn] at hcd
      exact h.uuid_inj c (hold hc hcn) d (hold hd hdn) hcd
  · by_cases hcn : c = w.numConns
    · subst hcn
      simpa using hx
    · simp only [addConn_conn, update_of_ne hcn] at hc ⊢
      exact h.freed_none c hc

theorem Grouped.newGroup (h : Grouped none w) : Grouped (some w.numGroups) w.addGroup := by
  have hfresh := h.balanced.fresh w.numGroups (Nat.le_refl _)
  have hcell : w.addGroup.groupCell = w.groupCell := by
    funext g
    by_cases hg : g = w.numGroups
    · subst hg
      rw [hfresh]
      simp [groupCell, Lib.Cell.empty]
    · simp [groupCell, hg]
  have htable : ∀ g, (w.addGroup.group g).connections = (w.group g).connections :=
    fun g => congrArg Lib.Cell.holders (congrFun hcell g)
  refine ⟨?_, fun g u c => ?_, h.uuid_inj, h.freed_none⟩
  · rw [hcell]
    exact h.balanced.create
  · rw [htable]
    exact h.mem_iff g u c

theorem Grouped.nodup (h : Grouped y w) (g : Nat) : (w.group g).connections.Nodup :=
  h.balanced.nodup g

theorem Grouped.key_ne (h : Grouped y w) {c : Nat} (hc : c < w.numConns)
    (hnone : (w.conn c).connectionGroup = none) {g : Nat} {e : Nat × Nat}
    (he : e ∈ (w.group g).connections) : e.1 ≠ (w.conn c).uuid := by
  obtain ⟨hlt, hgroup, huuid⟩ := (h.mem_iff g e.1 e.2).mp he
  intro hkey
  have hec : e.2 = c := h.uuid_inj e.2 hlt c hc (huuid.trans hkey)
  rw [hec, hnone] at hgroup
  cases hgroup

theorem Grouped.groupAddConnection_eq (h : Grouped y w) {c : Nat} (hc : c < w.numConns)
    (hnone : (w.conn c).connectionGroup = none) (g : Nat) :
    w.groupAddConnection g c =
      ((w.modGroup g fun x => { x with connections := ((w.conn c).uuid, c) :: x.connections }).modGroup
        g fun x => { x with refCount := x.refCount + 1 }).modConn c fun x =>
          { x with connectionGroup := some g } := by
  have hlookup : (w.group g).connections.lookup (w.conn c).uuid = none := by
    rw [List.lookup_eq_none_iff]
    intro e he
    exact bne_iff_ne.mpr (Ne.symm (h.key_ne hc hnone he))
  have hfilter : (w.group g).connections.filter (·.1 ≠ (w.conn c).uuid) =
      (w.group g).connections := by
    rw [List.filter_eq_self]
    intro e he
    exact decide_eq_true (h.key_ne hc hnone he)
  unfold groupAddConnection
  dsimp only
  rw [if_neg (by simp [hnone]), hlookup, if_pos (by rfl)]
  simp only [modGroup, hfilter]

theorem Grouped.regroup (h : Grouped y w) {y' q : Option Nat} {c : Nat} (hc : c < w.numConns)
    (hconn : w'.conn = w.conn) (hn : w'.numConns = w.numConns)
    (hfreed : (w.conn c).freed = true → q = none)
    (htable : ∀ k e, e ∈ (w'.group k).connections ↔
      e.2 ≠ c ∧ e ∈ (w.group k).connections ∨ q = some k ∧ e = ((w.conn c).uuid, c))
    (hbalanced : Lib.Balanced y' w'.numGroups w'.groupCell) :
    Grouped y' (w'.modConn c fun x => { x with connectionGroup := q }) := by
  have hother : ∀ d, ((w'.modConn c fun x => { x with connectionGroup := q }).conn d).uuid =
        (w.conn d).uuid ∧
      ((w'.modConn c fun x => { x with connectionGroup := q }).conn d).freed = (w.conn d).freed ∧
      ((w'.modConn c fun x => { x with connectionGroup := q }).conn d).connectionGroup =
        if d = c then q else (w.conn d).connectionGroup := by
    intro d
    by_cases hd : d = c
    · subst hd
      simp [hconn]
    · simp [hconn, hd]
  constructor
  · exact hbalanced
  · intro k u d
    rw [(hother d).1, (hother d).2.2, modConn_numConns, hn, modConn_group, htable]
    by_cases hd : d = c
    · subst hd
      simp [hc, eq_comm]
    · simpa [hd] using h.mem_iff k u d
  · simp only [(hother _).1, modConn_numConns, hn]
    exact h.uuid_inj
  · intro d hd
    rw [(hother d).2.1] at hd
    rw [(hother d).2.2]
    split
    · next hdc => exact hfreed (hdc ▸ hd)
    · exact h.freed_none d hd

theorem Grouped.join (h : Grouped y w) {c g : Nat} (hc : c < w.numConns)
    (hnone : (w.conn c).connectionGroup = none) (hfreed : (w.conn c).freed = false)
    (hg : g < w.numGroups) (halive : (w.group g).frees = 0) {y' : Option Nat}
    (hy : y' = if y = some g then none else y) : Grouped y' (w.groupAddConnection g c) := by
  have hnot : ((w.conn c).uuid, c) ∉ (w.group g).connections :=
    fun hmem => h.key_ne hc hnone hmem rfl
  have hout : ∀ k, ∀ e ∈ (w.group k).connections, e.2 ≠ c := by
    intro k e he hec
    rw [← hec, ((h.mem_iff k e.1 e.2).mp he).2.1] at hnone
    cases hnone
  rw [h.groupAddConnection_eq hc hnone]
  refine h.regroup hc rfl rfl (by simp [hfreed]) (fun k e => ?_) ?_
  · rw [and_iff_right_of_imp (hout k e)]
    by_cases hk : k = g
    · subst hk
      simp [or_comm]
    · simp [hk, Ne.symm hk]
  · have hcell : ((w.modGroup g fun x =>
        { x with connections := ((w.conn c).uuid, c) :: x.connections }).modGroup g fun x =>
          { x with refCount := x.refCount + 1 }).groupCell =
        update w.groupCell g ((w.groupCell g).acquire ((w.conn c).uuid, c)) := by
      funext k
      by_cases hk : k = g
      · subst hk
        simp [groupCell, Lib.Cell.acquire]
      · simp [groupCell, hk]
    rw [hcell]
    exact h.balanced.acquire hg halive hnot hy

theorem groupUnref_keeps (w : World) (c : Nat) :
    (w.groupUnref c).conn = w.conn ∧ (w.groupUnref c).sm = w.sm ∧
      (w.groupUnref c).numConns = w.numConns ∧ (w.groupUnref c).numGroups = w.numGroups ∧
      ∀ g, ((w.groupUnref c).group g).cnxClosed = (w.group g).cnxClosed ∧
        ((w.groupUnref c).group g).streamCtx = (w.group g).streamCtx := by
  unfold groupUnref freeGroup
  split
  · next k _ =>
    dsimp only
    split
    · refine ⟨rfl, rfl, rfl, rfl, fun g => ?_⟩
      by_cases hg : g = k
      · subst hg
        simp
      · simp [hg]
    · refine ⟨rfl, rfl, rfl, rfl, fun g => ?_⟩
      by_cases hg : g = k
      · subst hg
        simp
      · simp [hg]
  · exact ⟨rfl, rfl, rfl, rfl, fun _ => ⟨rfl, rfl⟩⟩

theorem Grouped.filter_key (h : Grouped y w) {c : Nat} (hc : c < w.numConns) (g : Nat) :
    (w.group g).connections.filter (fun e => !decide (e.1 = (w.conn c).uuid)) =
      (w.group g).connections.erase ((w.conn c).uuid, c) := by
  rw [(h.nodup g).erase_eq_filter]
  refine List.filter_congr fun e he => ?_
  obtain ⟨hlt, _, huuid⟩ := (h.mem_iff g e.1 e.2).mp he
  have hkey : e.1 = (w.conn c).uuid ↔ e = ((w.conn c).uuid, c) := by
    constructor
    · intro hkey
      exact Prod.ext hkey (h.uuid_inj e.2 hlt c hc (huuid.trans hkey))
    · exact fun he => congrArg Prod.fst he
  by_cases hec : e = ((w.conn c).uuid, c)
  · simp [hec]
  · simp [hkey, hec]

theorem Grouped.groupCell_groupUnref (h : Grouped y w) {c g : Nat} (hc : c < w.numConns)
    (hgroup : (w.conn c).connectionGroup = some g) :
    (w.groupUnref c).groupCell =
      update w.groupCell g ((w.groupCell g).release ((w.conn c).uuid, c)) := by
  funext k
  unfold groupUnref freeGroup
  rw [hgroup]
  dsimp only
  by_cases hk : k = g
  · subst hk
    split
    · next hz =>
      simp only [modGroup_group, update_self] at hz
      simp [groupCell, Lib.Cell.release, h.filter_key hc, hz]
    · next hz =>
      simp only [modGroup_group, update_self] at hz
      simp [groupCell, Lib.Cell.release, h.filter_key hc, hz]
  · split <;> simp [groupCell, hk]

theorem Grouped.left (h : Grouped y w) {c : Nat} (hc : c < w.numConns) :
    Grouped y ((w.groupUnref c).modConn c fun x => { x with connectionGroup := none }) := by
  cases hgroup : (w.conn c).connectionGroup with
  | none =>
    have hself : (w.groupUnref c).modConn c (fun x => { x with connectionGroup := none }) = w := by
      have hx : { w.conn c with connectionGroup := none } = w.conn c := by rw [← hgroup]
      simp [groupUnref, hgroup, modConn, hx]
    rw [hself]
    exact h
  | some g =>
    obtain ⟨hconn, _, hn, hgroups, _⟩ := w.groupUnref_keeps c
    have hcell := h.groupCell_groupUnref hc hgroup
    refine h.regroup hc hconn hn (fun _ => rfl) (fun k e => ?_) ?_
    · have htable := congrArg Lib.Cell.holders (congrFun hcell k)
      by_cases hk : k = g
      · subst hk
        rw [update_self] at htable
        rw [show ((w.groupUnref c).group k).connections = _ from htable]
        show e ∈ (w.group k).connections.erase ((w.conn c).uuid, c) ↔ _
        rw [(h.nodup k).mem_erase_iff]
        -- the entry of `c` is the only one that leads to it
        have hentry : e ∈ (w.group k).connections → (e = ((w.conn c).uuid, c) ↔ e.2 = c) := by
          intro he
          refine ⟨fun hec => congrArg Prod.snd hec, fun hec => Prod.ext ?_ hec⟩
          rw [← ((h.mem_iff k e.1 e.2).mp he).2.2, hec]
        simpa using fun he => not_congr (hentry he)
      · rw [update_of_ne hk] at htable
        rw [show ((w.groupUnref c).group k).connections = _ from htable]
        show e ∈ (w.group k).connections ↔ _
        have hout : e ∈ (w.group k).connections → e.2 ≠ c := by
          intro he hec
          rw [← hec, ((h.mem_iff k e.1 e.2).mp he).2.1] at hgroup
          exact hk (Option.some.inj hgroup)
        simpa using hout
    · rw [hcell, hgroups]
      exact h.balanced.release ((h.mem_iff g _ c).mpr ⟨hc, hgroup, rfl⟩)

/-! ### Connections -/

theorem Grouped.alone (h : Grouped none w) {x : Connection} (hx : x.connectionGroup = none)
    (hfreed : x.freed = false) (hu : w.newUuid x.uuid) (he : w'.ties = (w.addConn x).addGroup.ties) :
    Grouped none (w'.groupAddConnection w.numGroups w.numConns) := by
  have hyoung : Grouped (some w.numGroups) w' := (h.newConn hx hu).newGroup.of_ties he
  have hn : w'.numConns = w.numConns + 1 := congrArg Ties.numConns he
  have hG : w'.numGroups = w.numGroups + 1 := congrArg Ties.numGroups he
  obtain ⟨-, hgroup, hfree⟩ := conn_of_ties he w.numConns
  refine hyoung.join (hn ▸ Nat.lt_succ_self _) ?_ ?_ (hG ▸ Nat.lt_succ_self _) ?_ (by simp)
  · rw [hgroup]
    simpa using hx
  · rw [hfree]
    simpa using hfreed
  · exact (hyoung.balanced.frees_young _ rfl).1

theorem Grouped.client (h : Grouped none w) (p : Protocol) {uuid : Nat} (hu : w.newUuid uuid)
    (remote : Nat) : Grouped none (w.createClient p uuid remote) := by
  have hties (x : Connection) : (((w.addConn x).addSm { protocol := p }).addGroup).ties
      = (w.addConn x).addGroup.ties := rfl
  have halone := h.alone rfl rfl hu (hties { uuid := uuid, remote := remote })
  unfold createClient
  dsimp only
  split
  · exact halone.of_ties (by simp)
  · exact halone.of_ties (by simp)

theorem Grouped.server (h : Grouped none w) {uuid : Nat} (hu : w.newUuid uuid) (s remote : Nat) :
    Grouped none (w.createServerConnection s uuid remote) := by
  have halone := h.alone (x := { uuid := uuid, remote := remote }) rfl rfl hu rfl
  exact halone.of_ties (ties_socketManagerAddConnection _ _ _)

theorem live_iff {c : Nat} : w.live c = true ↔ c < w.numConns ∧ (w.conn c).freed = false := by
  simp [live]

theorem Grouped.cloned (h : Grouped none w) {source uuid : Nat} (hlive : w.live source = true)
    (hu : w.newUuid uuid) : Grouped none (w.createClone source uuid) := by
  have hlt := (live_iff.mp hlive).1
  have hne : source ≠ w.numConns := Nat.ne_of_lt hlt
  set x : Connection := { uuid := uuid, remote := (w.conn source).remote }
  have hnew : Grouped none (w.addConn x) := h.newConn rfl hu
  -- wherever the clone is on its way, it is in no group yet
  have hjoin : ∀ w' : World, w'.ties = (w.addConn x).ties →
      Grouped none (w'.shareGroup source w.numConns) := by
    intro w' he
    unfold shareGroup
    have h' : Grouped none w' := hnew.of_ties he
    have hn : w'.numConns = w.numConns + 1 := congrArg Ties.numConns he
    obtain ⟨-, hgroup, hfree⟩ := conn_of_ties he w.numConns
    split
    · next g hg =>
      have hmem : ((w'.conn source).uuid, source) ∈ (w'.group g).connections :=
        (h'.mem_iff g _ source).mpr ⟨hn ▸ Nat.lt_succ_of_lt hlt, hg, rfl⟩
      obtain ⟨hglt, halive, -, -⟩ := h'.balanced.alive hmem
      refine h'.join (hn ▸ Nat.lt_succ_self _) ?_ ?_ hglt halive (by simp)
      · rw [hgroup]
        simp [x]
      · rw [hfree]
        simp [x]
    · exact h'
  unfold createClone shareGroup shareSocketManager
  refine hjoin _ ?_
  split
  · exact ties_socketManagerAddConnection _ _ _
  · rfl

theorem Grouped.clone (h : Grouped none w) {source uuid : Nat} (hlive : w.live source = true)
    (hu : w.newUuid uuid) : Grouped none (w.connectionClone source uuid) := by
  have hclone := h.cloned hlive hu
  unfold connectionClone
  dsimp only
  split
  · split
    · exact hclone.of_ties (ties_rehome _ .tcp _)
    · exact hclone.of_ties (ties_udpCloneConnection _ _)
    · exact hclone
  · exact hclone

theorem Grouped.free (h : Grouped none w) {c : Nat} (hc : c < w.numConns) :
    Grouped none (w.connectionFree c) := by
  have hleft := h.left hc
  unfold connectionFree
  dsimp only
  set w₁ := (w.groupUnref c).modConn c fun x => { x with connectionGroup := none }
  have hnone : (w₁.conn c).connectionGroup = none := by simp [w₁]
  -- what follows concerns the socket manager only, up to the mark of the connection as freed
  have hmark : ∀ w₂ : World, w₂.ties = w₁.ties →
      Grouped none (w₂.modConn c fun x => { x with freed := true }) := by
    intro w₂ he
    have h₂ : Grouped none w₂ := hleft.of_ties he
    have hconn : ∀ d, ((w₂.modConn c fun x => { x with freed := true }).conn d).uuid =
        (w₂.conn d).uuid ∧
        ((w₂.modConn c fun x => { x with freed := true }).conn d).connectionGroup =
        (w₂.conn d).connectionGroup := by
      intro d
      by_cases hd : d = c
      · subst hd
        simp
      · simp [hd]
    refine ⟨h₂.balanced, fun g u d => ?_, ?_, fun d hd => ?_⟩
    · rw [(hconn d).1, (hconn d).2]
      exact h₂.mem_iff g u d
    · simp only [(hconn _).1]
      exact h₂.uuid_inj
    · rw [(hconn d).2]
      by_cases hdc : d = c
      · rw [hdc, (conn_of_ties he c).2.1, hnone]
      · simp only [modConn_conn, update_of_ne hdc] at hd
        exact h₂.freed_none d hd
  split
  · next s _ =>
    refine hmark _ ((ties_modConn _ c ?_).trans rfl)
    exact fun _ => ⟨rfl, rfl, rfl⟩
  · exact hmark _ rfl

/-! ### Runs -/

theorem Grouped.live_of_mem (h : Grouped y w) {g first : Nat}
    (hfirst : first ∈ (w.group g).connections.map Prod.snd) :
    w.live first = true ∧ (w.conn first).connectionGroup = some g := by
  obtain ⟨e, he, rfl⟩ := List.mem_map.mp hfirst
  obtain ⟨hlt, hgroup, -⟩ := (h.mem_iff g e.1 e.2).mp he
  refine ⟨live_iff.mpr ⟨hlt, ?_⟩, hgroup⟩
  cases hf : (w.conn e.2).freed with
  | false => rfl
  | true =>
    rw [h.freed_none e.2 hf] at hgroup
    cases hgroup

theorem Grouped.step (h : Grouped none w) (e : Event) : Grouped none (w.step e) := by
  refine step_keeps h fun he => ?_
  cases e with
  | initiate p uuid remote init =>
    dsimp only [act, World.initiate]
    split
    · exact (h.client p he remote).of_ties (ties_quicInit _ _ _ _)
    · exact h.client p he remote
  | listen p => exact h.of_ties rfl
  | clone c uuid => exact h.clone he.1 he.2
  | accepted s uuid remote =>
    exact Grouped.server (w := w.addSm { protocol := .tcp }) (h.of_ties rfl) he.2.2 _ _
  | datagram s addr uuid =>
    dsimp only [act, udpMultiplexReceivedMessage]
    split
    · exact (h.server he.2 s addr).of_ties rfl
    · exact h
  | newCnx s uuid addr =>
    dsimp only [act, World.newCnx]
    split
    · refine (h.server he.2 s addr).of_ties (ties_modGroup _ _ ?_)
      exact fun _ => ⟨rfl, rfl, rfl⟩
    · exact h
  | send c sid =>
    dsimp only [act, assignNextFreeStream]
    split
    · exact h.of_ties (ties_setStream _ _ _ _)
    · exact h
  | stream g sid first uuid =>
    dsimp only [act, resolveOrCreateStreamConnection]
    split
    · exact h
    · split
      · exact (h.cloned (h.live_of_mem he.2.1).1 he.2.2).of_ties (ties_setStream _ _ _ _)
      · exact h.of_ties (ties_setStream _ _ _ _)
  | streamDeleted g sid =>
    refine h.of_ties (ties_modGroup w g ?_)
    exact fun _ => ⟨rfl, rfl, rfl⟩
  | cnxClosed g =>
    refine h.of_ties (ties_modGroup w g ?_)
    exact fun _ => ⟨rfl, rfl, rfl⟩
  | closed c =>
    refine h.of_ties (ties_modConn w c ?_)
    exact fun _ => ⟨rfl, rfl, rfl⟩
  | listenerClosed l => exact h.of_ties rfl
  | free c => exact h.free (live_iff.mp he).1
  | listenerFree l =>
    refine h.of_ties ?_
    dsimp only [act, World.listenerFree]
    split <;> rfl

theorem grouped_run (es : List Event) : Grouped none (run es) :=
  Lib.run_invariant_of_step (fun _ e h => h.step e) grouped_init es

end CTaps.Lifetimes.World
