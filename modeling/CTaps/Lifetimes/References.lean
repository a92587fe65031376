import CTaps.Lifetimes.Groups

/-! The references to socket managers. Between two operations the count of a socket manager is the
number of its connections, and one more for its listener, and it has been freed if and only if that
number is 0. -/

namespace CTaps.Lifetimes

open Function
open Gathering (Protocol)

inductive Holder
  | connection (c : Nat)
  | listener (l : Nat)
deriving DecidableEq, Repr

namespace World

def smCell (w : World) (s : Nat) : Lib.Cell Holder :=
  ⟨(w.sm s).refCount,
    (w.sm s).allConnections.map .connection ++ ((w.sm s).listener.map .listener).toList,
    (w.sm s).frees⟩

structure Counted (young : Option Nat) (w : World) : Prop where
  balanced : Lib.Balanced young w.numSms w.smCell
  mem_iff : ∀ s c, c ∈ (w.sm s).allConnections ↔
    c < w.numConns ∧ (w.conn c).socketManager = some s
  listener_iff : ∀ s l, (w.sm s).listener = some l ↔
    l < w.numListeners ∧ (w.listener l).socketManager = some s
  conn_freed : ∀ c, (w.conn c).freed = true → (w.conn c).socketManager = none
  listener_freed : ∀ l, (w.listener l).freed = true → (w.listener l).socketManager = none

theorem counted_init : Counted none {} :=
  ⟨Lib.balanced_empty, by simp, by simp, by simp, by simp⟩

variable {w w' : World} {y : Option Nat}

/-! ### What the counts depend on -/

structure Refs where
  numConns : Nat
  conn : Nat → Option Nat × Bool
  numSms : Nat
  sm : Nat → Int × Option Nat × List Nat × Nat
  numListeners : Nat
  listener : Nat → Option Nat × Bool

def refs (w : World) : Refs :=
  { numConns := w.numConns
    conn := fun c => ((w.conn c).socketManager, (w.conn c).freed)
    numSms := w.numSms
    sm := fun s => ((w.sm s).refCount, (w.sm s).listener, (w.sm s).allConnections, (w.sm s).frees)
    numListeners := w.numListeners
    listener := fun l => ((w.listener l).socketManager, (w.listener l).freed) }

theorem conn_of_refs (he : w'.refs = w.refs) (c : Nat) :
    (w'.conn c).socketManager = (w.conn c).socketManager ∧ (w'.conn c).freed = (w.conn c).freed :=
  Prod.mk.inj (congrFun (congrArg Refs.conn he) c)

theorem frees_of_refs (he : w'.refs = w.refs) (s : Nat) : (w'.sm s).frees = (w.sm s).frees :=
  congrArg (fun m => m.2.2.2) (congrFun (congrArg Refs.sm he) s)

theorem Counted.of_refs (h : Counted y w) (he : w'.refs = w.refs) : Counted y w' := by
  have hn : w'.numConns = w.numConns := congrArg Refs.numConns he
  have hN : w'.numSms = w.numSms := congrArg Refs.numSms he
  have hL : w'.numListeners = w.numListeners := congrArg Refs.numListeners he
  have hconn := conn_of_refs he
  have hsm : ∀ s, (w'.refs.sm s) = w.refs.sm s := congrFun (congrArg Refs.sm he)
  have hlistener : ∀ l, (w'.refs.listener l) = w.refs.listener l :=
    congrFun (congrArg Refs.listener he)
  simp only [refs, Prod.mk.injEq] at hsm hlistener
  have hcell : w'.smCell = w.smCell := by
    funext s
    simp only [smCell, hsm]
  constructor
  · rw [hN, hcell]
    exact h.balanced
  · simpa only [hn, (hconn _).1, (hsm _).2.2.1] using h.mem_iff
  · simpa only [hL, (hsm _).2.1, (hlistener _).1] using h.listener_iff
  · simpa only [(hconn _).1, (hconn _).2] using h.conn_freed
  · simpa only [(hlistener _).1, (hlistener _).2] using h.listener_freed

theorem refs_modConn (w : World) (c : Nat) {f : Connection → Connection}
    (hf : ∀ x, (f x).socketManager = x.socketManager ∧ (f x).freed = x.freed) :
    (w.modConn c f).refs = w.refs := by
  have hconn := funext (Lib.update_keeps (fun x : Connection => (x.socketManager, x.freed))
    (Prod.ext (hf (w.conn c)).1 (hf (w.conn c)).2))
  exact congrArg (fun conn => { w.refs with conn := conn }) hconn

theorem refs_modSm (w : World) (s : Nat) {f : SocketManager → SocketManager}
    (hf : ∀ m, (f m).refCount = m.refCount ∧ (f m).listener = m.listener ∧
      (f m).allConnections = m.allConnections ∧ (f m).frees = m.frees) :
    (w.modSm s f).refs = w.refs := by
  have hsm := funext (Lib.update_keeps (fun m : SocketManager =>
    (m.refCount, m.listener, m.allConnections, m.frees)) (f := w.sm) (a := s) (x := f (w.sm s))
    (by simp [hf]))
  exact congrArg (fun sm => { w.refs with sm := sm }) hsm

@[simp] theorem refs_modGroup (w : World) (g : Nat) (f : Group → Group) :
    (w.modGroup g f).refs = w.refs := rfl

@[simp] theorem refs_addGroup (w : World) : w.addGroup.refs = w.refs := rfl

@[simp] theorem refs_insertDemuxed (w : World) (s addr c : Nat) :
    (w.modSm s (SocketManager.insertDemuxed addr c)).refs = w.refs := by
  refine refs_modSm w s fun m => ?_
  unfold SocketManager.insertDemuxed
  split <;> simp

@[simp] theorem refs_groupAddConnection (w : World) (g c : Nat) :
    (w.groupAddConnection g c).refs = w.refs := by
  unfold groupAddConnection
  dsimp only
  split
  · rfl
  · split
    · refine (refs_modConn _ c ?_).trans rfl
      exact fun _ => ⟨rfl, rfl⟩
    · rfl

@[simp] theorem refs_groupUnref (w : World) (c : Nat) : (w.groupUnref c).refs = w.refs := by
  unfold groupUnref freeGroup
  dsimp only
  split
  · split <;> rfl
  · rfl

@[simp] theorem refs_setStream (w : World) (g sid c : Nat) : (w.setStream g sid c).refs = w.refs := by
  unfold setStream setAppStreamCtx
  rw [refs_modGroup]
  exact refs_modConn w c fun _ => ⟨rfl, rfl⟩

@[simp] theorem refs_quicInit (w : World) (g c : Nat) (init : Init) :
    (w.quicInit g c init).refs = w.refs := by
  unfold quicInit
  split <;> simp

/-! ### Taking and dropping references -/

theorem mem_holders_connection {s c : Nat} :
    .connection c ∈ (w.smCell s).holders ↔ c ∈ (w.sm s).allConnections := by
  simp [smCell]

theorem mem_holders_listener {s l : Nat} :
    .listener l ∈ (w.smCell s).holders ↔ (w.sm s).listener = some l := by
  simp [smCell]

theorem Counted.newConn (h : Counted y w) {x : Connection} (hx : x.socketManager = none) :
    Counted y (w.addConn x) := by
  refine { h with mem_iff := fun s c => ?_, conn_freed := fun c hc => ?_ }
  · by_cases hc : c = w.numConns
    · subst hc
      have hnot : w.numConns ∉ (w.sm s).allConnections :=
        fun hmem => Nat.lt_irrefl _ ((h.mem_iff s _).mp hmem).1
      simp [hx, hnot]
    · have hn : c < w.numConns + 1 ↔ c < w.numConns :=
        ⟨fun hlt => Nat.lt_of_le_of_ne (Nat.le_of_lt_succ hlt) hc, Nat.lt_succ_of_lt⟩
      simpa [hc, hn] using h.mem_iff s c
  · by_cases hcn : c = w.numConns
    · subst hcn
      simpa using hx
    · simp only [addConn_conn, update_of_ne hcn] at hc ⊢
      exact h.conn_freed c hc

theorem Counted.newSm (h : Counted none w) (p : Protocol) :
    Counted (some w.numSms) (w.addSm { protocol := p }) := by
  have hfresh := h.balanced.fresh w.numSms (Nat.le_refl _)
  have hlist : (w.sm w.numSms).allConnections = [] ∧ (w.sm w.numSms).listener = none := by
    have hnil : (w.smCell w.numSms).holders = [] := congrArg Lib.Cell.holders hfresh
    simpa [smCell] using hnil
  have hsm : ∀ s, ((w.addSm { protocol := p }).sm s).allConnections = (w.sm s).allConnections ∧
      ((w.addSm { protocol := p }).sm s).listener = (w.sm s).listener := by
    intro s
    by_cases hs : s = w.numSms
    · subst hs
      simp [hlist]
    · simp [hs]
  have hcell : (w.addSm { protocol := p }).smCell = w.smCell := by
    funext s
    by_cases hs : s = w.numSms
    · subst hs
      rw [hfresh]
      simp [smCell, Lib.Cell.empty]
    · simp [smCell, hs]
  constructor
  · rw [hcell]
    exact h.balanced.create
  · simp only [(hsm _).1]
    exact h.mem_iff
  · simp only [(hsm _).2]
    exact h.listener_iff
  · exact h.conn_freed
  · exact h.listener_freed

theorem socketManagerAddConnection_sm (w : World) (s c t : Nat) :
    (w.socketManagerAddConnection s c).sm t =
      if t = s then ((w.sm s).prepend c).ref else w.sm t := by
  unfold socketManagerAddConnection
  by_cases ht : t = s
  · subst ht
    simp
  · simp [ht]

theorem socketManagerAddConnection_conn (w : World) (s c d : Nat) :
    (w.socketManagerAddConnection s c).conn d =
      if d = c then { w.conn c with socketManager := some s } else w.conn d := by
  unfold socketManagerAddConnection
  by_cases hd : d = c
  · subst hd
    simp
  · simp [hd]

theorem Counted.adopt (h : Counted y w) {s c : Nat} (hc : c < w.numConns)
    (hnone : (w.conn c).socketManager = none) (hfreed : (w.conn c).freed = false)
    (hs : s < w.numSms) (halive : (w.sm s).frees = 0) {y' : Option Nat}
    (hy : y' = if y = some s then none else y) :
    Counted y' (w.socketManagerAddConnection s c) := by
  have hnot : ∀ t, c ∉ (w.sm t).allConnections := by
    intro t hmem
    rw [((h.mem_iff t c).mp hmem).2] at hnone
    cases hnone
  have hcell : (w.socketManagerAddConnection s c).smCell =
      update w.smCell s ((w.smCell s).acquire (.connection c)) := by
    funext t
    unfold smCell
    rw [socketManagerAddConnection_sm]
    by_cases ht : t = s
    · subst ht
      simp [Lib.Cell.acquire, SocketManager.ref, SocketManager.prepend]
    · simp [ht]
  constructor
  · rw [hcell]
    exact h.balanced.acquire hs halive (mt mem_holders_connection.mp (hnot s)) hy
  · intro t d
    rw [socketManagerAddConnection_sm, socketManagerAddConnection_conn]
    show _ ↔ d < w.numConns ∧ _
    by_cases hd : d = c
    · subst hd
      by_cases ht : t = s
      · subst ht
        simp [SocketManager.ref, SocketManager.prepend, hc]
      · simp [ht, hnot t, Ne.symm ht]
    · by_cases ht : t = s
      · subst ht
        simpa [SocketManager.ref, SocketManager.prepend, hd] using h.mem_iff t d
      · simpa [ht, hd] using h.mem_iff t d
  · intro t l
    rw [socketManagerAddConnection_sm]
    split
    · next ht =>
      rw [ht]
      exact h.listener_iff s l
    · exact h.listener_iff t l
  · intro d hd
    rw [socketManagerAddConnection_conn] at hd ⊢
    split at hd
    · exact absurd hd (by simp [hfreed])
    · next hdc =>
      rw [if_neg hdc]
      exact h.conn_freed d hd
  · exact h.listener_freed

theorem unref_eq (m : SocketManager) :
    m.unref.refCount = m.refCount - 1 ∧ m.unref.listener = m.listener ∧
      m.unref.allConnections = m.allConnections ∧
      m.unref.frees = m.frees + if m.refCount - 1 = 0 then 1 else 0 := by
  unfold SocketManager.unref
  split <;> simp_all

def leave (w : World) (s c : Nat) : World :=
  ((w.modSm s (SocketManager.remove c)).modSm s SocketManager.unref).modConn c fun x =>
    { x with socketManager := none }

theorem leave_sm (w : World) (s c t : Nat) :
    (w.leave s c).sm t = if t = s then ((w.sm s).remove c).unref else w.sm t := by
  unfold leave
  by_cases ht : t = s
  · subst ht
    simp
  · simp [ht]

theorem leave_conn (w : World) (s c d : Nat) :
    (w.leave s c).conn d = if d = c then { w.conn c with socketManager := none } else w.conn d := by
  unfold leave
  by_cases hd : d = c
  · subst hd
    simp
  · simp [hd]

theorem Counted.alive (h : Counted y w) {s c : Nat} (hc : c < w.numConns)
    (hs : (w.conn c).socketManager = some s) : s < w.numSms ∧ (w.sm s).frees = 0 := by
  have hmem := mem_holders_connection.mpr ((h.mem_iff s c).mpr ⟨hc, hs⟩)
  obtain ⟨hlt, halive, -, -⟩ := h.balanced.alive hmem
  exact ⟨hlt, halive⟩

theorem Counted.nodup_allConnections (h : Counted y w) (s : Nat) :
    (w.sm s).allConnections.Nodup := by
  have hholders := h.balanced.nodup s
  exact (List.nodup_append.mp hholders).1.of_map _

theorem smCell_leave {s c : Nat} (hmem : c ∈ (w.sm s).allConnections) :
    (w.leave s c).smCell =
      update w.smCell s ((w.smCell s).release (.connection c)) := by
  obtain ⟨hcount, hlistener, hlist, hfrees⟩ := unref_eq ((w.sm s).remove c)
  have hlist : ((w.sm s).remove c).unref.allConnections = (w.sm s).allConnections.erase c := hlist
  have hinj : Injective Holder.connection := fun _ _ he => Holder.connection.inj he
  funext t
  unfold smCell
  rw [leave_sm]
  by_cases ht : t = s
  · subst ht
    have hin : Holder.connection c ∈ (w.sm t).allConnections.map Holder.connection :=
      List.mem_map_of_mem hmem
    simp only [if_true, update_self, Lib.Cell.release, hcount, hlist, hlistener, hfrees,
      List.erase_append_left _ hin, List.map_erase hinj]
    rfl
  · simp [ht]

theorem Counted.left (h : Counted y w) {s c : Nat} (hc : c < w.numConns)
    (hs : (w.conn c).socketManager = some s) : Counted y (w.leave s c) := by
  have hmem : c ∈ (w.sm s).allConnections := (h.mem_iff s c).mpr ⟨hc, hs⟩
  obtain ⟨_, hlistener, hlist, _⟩ := unref_eq ((w.sm s).remove c)
  have hlist : ((w.sm s).remove c).unref.allConnections = (w.sm s).allConnections.erase c := hlist
  constructor
  · rw [smCell_leave hmem]
    exact h.balanced.release (mem_holders_connection.mpr hmem)
  · intro t d
    rw [leave_sm, leave_conn]
    show _ ↔ d < w.numConns ∧ _
    by_cases hd : d = c
    · subst hd
      have hne : t ≠ s → d ∉ (w.sm t).allConnections := by
        intro ht hdt
        have := hs.symm.trans ((h.mem_iff t d).mp hdt).2
        exact ht (Option.some.inj this).symm
      by_cases ht : t = s
      · subst ht
        simp [hlist, (h.nodup_allConnections t).mem_erase_iff]
      · simp [ht, hne]
    · by_cases ht : t = s
      · subst ht
        simpa [hlist, hd, (h.nodup_allConnections t).mem_erase_iff] using h.mem_iff t d
      · simpa [ht, hd] using h.mem_iff t d
  · intro t l
    rw [leave_sm]
    split
    · next ht =>
      rw [ht, hlistener]
      exact h.listener_iff s l
    · exact h.listener_iff t l
  · intro d hd
    rw [leave_conn] at hd ⊢
    split
    · rfl
    · next hdc =>
      rw [if_neg hdc] at hd
      exact h.conn_freed d hd
  · exact h.listener_freed

/-! ### Connections -/

theorem Counted.joinNew (h : Counted y w) {x : Connection} (hx : x.socketManager = none)
    (hfreed : x.freed = false) (he : w'.refs = (w.addConn x).refs) {s : Nat} (hs : s < w.numSms)
    (halive : (w.sm s).frees = 0) {y' : Option Nat} (hy : y' = if y = some s then none else y) :
    Counted y' (w'.socketManagerAddConnection s w.numConns) := by
  have hcounted : Counted y w' := (h.newConn hx).of_refs he
  have hn : w'.numConns = w.numConns + 1 := congrArg Refs.numConns he
  have hN : w'.numSms = w.numSms := congrArg Refs.numSms he
  obtain ⟨hnone, hfree⟩ := conn_of_refs he w.numConns
  refine hcounted.adopt (hn ▸ Nat.lt_succ_self _) ?_ ?_ (hN ▸ hs) ?_ hy
  · rw [hnone]
    simpa using hx
  · rw [hfree]
    simpa using hfreed
  · rw [frees_of_refs he]
    exact halive

theorem Counted.server (h : Counted y w) {s : Nat} (hs : s < w.numSms)
    (halive : (w.sm s).frees = 0) {y' : Option Nat} (hy : y' = if y = some s then none else y)
    (uuid remote : Nat) : Counted y' (w.createServerConnection s uuid remote) := by
  refine h.joinNew (x := { uuid := uuid, remote := remote }) rfl rfl ?_ hs halive hy
  simp

theorem Counted.serverNew (h : Counted none w) (p : Protocol) (uuid remote : Nat) :
    Counted none ((w.addSm { protocol := p }).createServerConnection w.numSms uuid remote) := by
  refine (h.newSm p).server (Nat.lt_succ_self _) ?_ (by simp) uuid remote
  simp

theorem Counted.client (h : Counted none w) (p : Protocol) (uuid remote : Nat) :
    Counted none (w.createClient p uuid remote) := by
  have hyoung := h.newSm p
  unfold createClient
  dsimp only
  set w₁ := ((w.addConn { uuid := uuid, remote := remote }).addSm { protocol := p }).addGroup
  have hjoin : Counted none
      ((w₁.groupAddConnection w.numGroups w.numConns).socketManagerAddConnection w.numSms
        w.numConns) := by
    refine hyoung.joinNew (x := { uuid := uuid, remote := remote }) rfl rfl ?_
      (Nat.lt_succ_self _) (by simp) (by simp)
    rw [refs_groupAddConnection]
    rfl
  split
  · exact hjoin.of_refs (by simp)
  · exact hjoin

theorem Counted.cloned (h : Counted none w) {source : Nat} (hlive : w.live source = true)
    (uuid : Nat) : Counted none (w.createClone source uuid) := by
  have hlt := (live_iff.mp hlive).1
  have hne : source ≠ w.numConns := Nat.ne_of_lt hlt
  set x : Connection := { uuid := uuid, remote := (w.conn source).remote }
  have hsource : ((w.addConn x).conn source).socketManager = (w.conn source).socketManager := by
    simp [hne]
  unfold createClone shareGroup shareSocketManager
  have hjoin : Counted none ((w.addConn x).shareSocketManager source w.numConns) := by
    unfold shareSocketManager
    rw [hsource]
    split
    · next s hs =>
      obtain ⟨hslt, halive⟩ := h.alive hlt hs
      exact h.joinNew (x := x) rfl rfl rfl hslt halive (by simp)
    · exact h.newConn rfl
  split
  · exact hjoin.of_refs (refs_groupAddConnection _ _ _)
  · exact hjoin

theorem Counted.rehome (h : Counted none w) {c : Nat} (hc : c < w.numConns)
    (hfreed : (w.conn c).freed = false) (p : Protocol) :
    Counted none (w.rehome p c) := by
  have hyoung := h.newSm p
  unfold World.rehome detachTcp
  split
  · next old hold =>
    have hleft : Counted (some w.numSms) ((w.addSm { protocol := p }).leave old c) :=
      hyoung.left hc hold
    have hne : w.numSms ≠ old := Ne.symm (Nat.ne_of_lt (h.alive hc hold).1)
    refine hleft.adopt hc ?_ ?_ (Nat.lt_succ_self _) ?_ (by simp)
    · rw [leave_conn, if_pos rfl]
    · rw [leave_conn, if_pos rfl]
      exact hfreed
    · rw [leave_sm, if_neg hne]
      simp
  · next hnone =>
    exact hyoung.adopt hc hnone hfreed (Nat.lt_succ_self _) (by simp) (by simp)

theorem Counted.udpClone (h : Counted none w) {c : Nat} (hc : c < w.numConns)
    (hfreed : (w.conn c).freed = false) : Counted none (w.udpCloneConnection c) := by
  rw [udpCloneConnection_eq fun s hs => Nat.ne_of_lt (h.alive hc hs).1]
  exact (h.rehome hc hfreed .udp).of_refs (refs_insertDemuxed _ _ _ _)

theorem createClone_new (w : World) (source uuid : Nat) :
    (w.createClone source uuid).numConns = w.numConns + 1 ∧
      ((w.createClone source uuid).conn w.numConns).freed = false := by
  have hgroup : ∀ (w' : World) (g : Nat), (w'.groupAddConnection g w.numConns).numConns =
      w'.numConns ∧ ((w'.groupAddConnection g w.numConns).conn w.numConns).freed =
      (w'.conn w.numConns).freed := by
    intro w' g
    have he := refs_groupAddConnection w' g w.numConns
    exact ⟨congrArg Refs.numConns he, (conn_of_refs he w.numConns).2⟩
  unfold createClone shareGroup shareSocketManager
  split
  · split
    · rw [(hgroup _ _).1, (hgroup _ _).2, socketManagerAddConnection_conn]
      exact ⟨rfl, by simp⟩
    · rw [(hgroup _ _).1, (hgroup _ _).2]
      exact ⟨rfl, by simp⟩
  · split
    · rw [socketManagerAddConnection_conn]
      exact ⟨rfl, by simp⟩
    · exact ⟨rfl, by simp⟩

theorem Counted.clone (h : Counted none w) {source : Nat} (hlive : w.live source = true)
    (uuid : Nat) : Counted none (w.connectionClone source uuid) := by
  have hclone := h.cloned hlive uuid
  obtain ⟨hn, hfreed⟩ := w.createClone_new source uuid
  have hlt : w.numConns < (w.createClone source uuid).numConns := hn ▸ Nat.lt_succ_self _
  unfold connectionClone
  dsimp only
  split
  · split
    · exact hclone.rehome hlt hfreed .tcp
    · exact hclone.udpClone hlt hfreed
    · exact hclone
  · exact hclone

/-! ### Ends and listeners -/

theorem Counted.freed (h : Counted y w) {c : Nat} (hc : (w.conn c).socketManager = none) :
    Counted y (w.modConn c fun x => { x with freed := true }) := by
  have hconn : ∀ d, ((w.modConn c fun x => { x with freed := true }).conn d).socketManager =
      (w.conn d).socketManager := Lib.update_keeps Connection.socketManager rfl
  refine { h with mem_iff := fun s d => ?_, conn_freed := fun d hd => ?_ }
  · rw [hconn]
    exact h.mem_iff s d
  · rw [hconn]
    by_cases hdc : d = c
    · rw [hdc]
      exact hc
    · simp only [modConn_conn, update_of_ne hdc] at hd
      exact h.conn_freed d hd

theorem Counted.free (h : Counted none w) {c : Nat} (hc : c < w.numConns) :
    Counted none (w.connectionFree c) := by
  unfold connectionFree
  dsimp only
  set w₁ := (w.groupUnref c).modConn c fun x => { x with connectionGroup := none }
  have he : w₁.refs = w.refs := by
    refine (refs_modConn _ c ?_).trans (refs_groupUnref w c)
    exact fun _ => ⟨rfl, rfl⟩
  have h₁ : Counted none w₁ := h.of_refs he
  have hnum : w₁.numConns = w.numConns := congrArg Refs.numConns he
  have hn : c < w₁.numConns := hnum ▸ hc
  split
  · next s hs =>
    refine (h₁.left hn hs).freed ?_
    rw [leave_conn, if_pos rfl]
  · next hnone => exact h₁.freed hnone

theorem listenerNew_sm (w : World) (p : Protocol) (s : Nat) :
    (w.listenerNew p).sm s = if s = w.numSms then
      { protocol := p, listener := some w.numListeners, refCount := 1 } else w.sm s := by
  unfold listenerNew
  by_cases hs : s = w.numSms
  · subst hs
    simp [SocketManager.ref]
  · simp [hs]

theorem listenerNew_listener (w : World) (p : Protocol) (l : Nat) :
    (w.listenerNew p).listener l =
      if l = w.numListeners then { socketManager := some w.numSms } else w.listener l := by
  unfold listenerNew
  by_cases hl : l = w.numListeners
  · subst hl
    simp
  · simp [hl]

theorem smCell_listenerNew (p : Protocol) (hfresh : w.smCell w.numSms = .empty) :
    (w.listenerNew p).smCell =
      update w.smCell w.numSms ((w.smCell w.numSms).acquire (.listener w.numListeners)) := by
  funext s
  by_cases hs : s = w.numSms
  · subst hs
    rw [update_self, hfresh]
    simp [smCell, listenerNew_sm, Lib.Cell.acquire, Lib.Cell.empty]
  · simp [smCell, listenerNew_sm, hs]

theorem Counted.newListener (h : Counted none w) (p : Protocol) :
    Counted none (w.listenerNew p) := by
  have hfresh := h.balanced.fresh w.numSms (Nat.le_refl _)
  have hnil : (w.sm w.numSms).allConnections = [] ∧ (w.sm w.numSms).listener = none := by
    have hholders : (w.smCell w.numSms).holders = [] := congrArg Lib.Cell.holders hfresh
    simpa [smCell] using hholders
  constructor
  · rw [smCell_listenerNew p hfresh]
    refine h.balanced.create.acquire (Nat.lt_succ_self _) ?_ ?_ (by simp)
    · rw [hfresh]
      rfl
    · rw [hfresh]
      exact List.not_mem_nil
  · intro s c
    show _ ↔ c < w.numConns ∧ (w.conn c).socketManager = some s
    rw [← h.mem_iff, listenerNew_sm]
    split
    · next hs => rw [hs, hnil.1]
    · rfl
  · intro s l
    -- the number of the new listener is in no socket manager yet
    have hold : ∀ t, (w.sm t).listener = some l → l < w.numListeners :=
      fun t ht => ((h.listener_iff t l).mp ht).1
    rw [listenerNew_sm, listenerNew_listener]
    show _ ↔ l < w.numListeners + 1 ∧ _
    by_cases hl : l = w.numListeners
    · subst hl
      by_cases hs : s = w.numSms
      · simp [hs]
      · have hne : (w.sm s).listener ≠ some w.numListeners := fun ht => Nat.lt_irrefl _ (hold s ht)
        simp [hs, hne, Ne.symm hs]
    · have hn : l < w.numListeners + 1 ↔ l < w.numListeners :=
        ⟨fun hlt => Nat.lt_of_le_of_ne (Nat.le_of_lt_succ hlt) hl, Nat.lt_succ_of_lt⟩
      by_cases hs : s = w.numSms
      · have hne : ¬ (l < w.numListeners ∧ (w.listener l).socketManager = some w.numSms) := by
          rw [← h.listener_iff, hnil.2]
          simp
        simpa [hs, hl, Ne.symm hl, hn] using hne
      · simpa [hn, hs, hl] using h.listener_iff s l
  · exact h.conn_freed
  · intro l hl
    rw [listenerNew_listener] at hl ⊢
    split at hl
    · cases hl
    · next hne =>
      rw [if_neg hne]
      exact h.listener_freed l hl

def dropListener (w : World) (s l : Nat) : World :=
  ((w.modSm s fun m => { m with listener := none }).modSm s SocketManager.unref).modListener l fun x =>
    { x with socketManager := none }

theorem dropListener_sm (w : World) (s l t : Nat) :
    (w.dropListener s l).sm t =
      if t = s then SocketManager.unref { w.sm s with listener := none } else w.sm t := by
  unfold dropListener
  by_cases ht : t = s
  · subst ht
    simp
  · simp [ht]

theorem dropListener_listener (w : World) (s l k : Nat) :
    ((w.dropListener s l).listener k).freed = (w.listener k).freed ∧
      ((w.dropListener s l).listener k).socketManager =
        if k = l then none else (w.listener k).socketManager := by
  unfold dropListener
  by_cases hk : k = l
  · subst hk
    simp
  · simp [hk]

theorem smCell_dropListener {s l : Nat} (hsl : (w.sm s).listener = some l) :
    (w.dropListener s l).smCell =
      update w.smCell s ((w.smCell s).release (.listener l)) := by
  obtain ⟨hcount, hnoListener, hlist, hfrees⟩ := unref_eq { w.sm s with listener := none }
  funext t
  unfold smCell
  rw [dropListener_sm]
  by_cases ht : t = s
  · subst ht
    have hout : Holder.listener l ∉ (w.sm t).allConnections.map Holder.connection := by simp
    simp only [if_true, update_self, Lib.Cell.release, hcount, hlist, hnoListener, hfrees,
      List.erase_append_right _ hout, hsl]
    simp
  · simp [ht]

theorem Counted.dropped (h : Counted none w) {s l : Nat} (hl : l < w.numListeners)
    (hs : (w.listener l).socketManager = some s) : Counted none (w.dropListener s l) := by
  have hsl : (w.sm s).listener = some l := (h.listener_iff s l).mpr ⟨hl, hs⟩
  obtain ⟨_, hnoListener, hlist, _⟩ := unref_eq { w.sm s with listener := none }
  constructor
  · rw [smCell_dropListener hsl]
    exact h.balanced.release (mem_holders_listener.mpr hsl)
  · intro t c
    show _ ↔ c < w.numConns ∧ (w.conn c).socketManager = some t
    rw [← h.mem_iff, dropListener_sm]
    split
    · next ht => rw [hlist, ht]
    · rfl
  · intro t k
    show _ ↔ k < w.numListeners ∧ _
    rw [dropListener_sm, (w.dropListener_listener s l k).2]
    by_cases hk : k = l
    · subst hk
      by_cases ht : t = s
      · simp [ht, hnoListener]
      · have hne : (w.sm t).listener ≠ some k := by
          intro hkt
          have := hs.symm.trans ((h.listener_iff t k).mp hkt).2
          exact ht (Option.some.inj this).symm
        simp [ht, hne]
    · by_cases ht : t = s
      · subst ht
        have hne : ¬ (k < w.numListeners ∧ (w.listener k).socketManager = some t) := by
          rw [← h.listener_iff, hsl]
          exact fun he => hk (Option.some.inj he).symm
        simpa [hnoListener, hk] using hne
      · simpa [ht, hk] using h.listener_iff t k
  · exact h.conn_freed
  · intro k hk
    rw [(w.dropListener_listener s l k).1] at hk
    rw [(w.dropListener_listener s l k).2]
    split
    · rfl
    · exact h.listener_freed k hk

theorem Counted.modListener (h : Counted y w) {l : Nat} {f : Listener → Listener}
    (hf : (f (w.listener l)).socketManager = (w.listener l).socketManager)
    (hfreed : (f (w.listener l)).freed = true → (w.listener l).socketManager = none) :
    Counted y (w.modListener l f) := by
  have hlistener : ∀ k, ((w.modListener l f).listener k).socketManager =
      (w.listener k).socketManager := Lib.update_keeps Listener.socketManager hf
  refine { h with listener_iff := fun s k => ?_, listener_freed := fun k hk => ?_ }
  · rw [hlistener]
    exact h.listener_iff s k
  · rw [hlistener]
    by_cases hkl : k = l
    · subst hkl
      exact hfreed (by simpa using hk)
    · simp only [modListener_listener, update_of_ne hkl] at hk
      exact h.listener_freed k hk

theorem Counted.freeListener (h : Counted none w) {l : Nat} (hl : l < w.numListeners) :
    Counted none (w.listenerFree l) := by
  unfold listenerFree
  dsimp only
  split
  · next s hs =>
    refine (h.dropped hl hs).modListener rfl fun _ => ?_
    simp [dropListener]
  · next hs => exact h.modListener rfl fun _ => hs

/-! ### Runs -/

theorem Counted.serverOf (h : Counted none w) {s : Nat} (hs : w.listens s = true)
    (uuid remote : Nat) : Counted none (w.createServerConnection s uuid remote) := by
  unfold listens at hs
  cases hl : (w.sm s).listener with
  | none => simp [hl] at hs
  | some l =>
    obtain ⟨hlt, halive, -, -⟩ := h.balanced.alive (mem_holders_listener.mpr hl)
    exact h.server hlt halive (by simp) uuid remote

theorem Counted.step (h : Counted none w) (hg : Grouped none w) (e : Event) :
    Counted none (w.step e) := by
  refine step_keeps h fun he => ?_
  cases e with
  | initiate p uuid remote init =>
    dsimp only [act, World.initiate]
    split
    · exact (h.client p uuid remote).of_refs (refs_quicInit _ _ _ _)
    · exact h.client p uuid remote
  | listen p => exact h.newListener p
  | clone c uuid => exact h.clone he.1 uuid
  | accepted s uuid remote => exact h.serverNew .tcp uuid remote
  | datagram s addr uuid =>
    dsimp only [act, udpMultiplexReceivedMessage]
    split
    · next hs => exact (h.serverOf hs.2 uuid addr).of_refs (refs_insertDemuxed _ _ _ _)
    · exact h
  | newCnx s uuid addr =>
    dsimp only [act, World.newCnx]
    split
    · next hs => exact (h.serverOf hs uuid addr).of_refs rfl
    · exact h
  | send c sid =>
    dsimp only [act, assignNextFreeStream]
    split
    · exact h.of_refs (refs_setStream _ _ _ _)
    · exact h
  | stream g sid first uuid =>
    dsimp only [act, resolveOrCreateStreamConnection]
    split
    · exact h
    · split
      · exact (h.cloned (hg.live_of_mem he.2.1).1 uuid).of_refs (refs_setStream _ _ _ _)
      · exact h.of_refs (refs_setStream _ _ _ _)
  | streamDeleted g sid => exact h.of_refs rfl
  | cnxClosed g => exact h.of_refs rfl
  | closed c =>
    refine h.of_refs (refs_modConn w c ?_)
    exact fun _ => ⟨rfl, rfl⟩
  | listenerClosed l =>
    dsimp only [act]
    refine h.modListener ?_ ?_
    · rfl
    · exact h.listener_freed l
  | free c => exact h.free (live_iff.mp he).1
  | listenerFree l => exact h.freeListener he.1

theorem counted_run (es : List Event) : Counted none (run es) := by
  have hrun : Counted none (run es) ∧ Grouped none (run es) :=
    Lib.run_invariant_of_step (I := fun w => Counted none w ∧ Grouped none w)
      (fun w e h => ⟨h.1.step h.2 e, h.2.step e⟩) ⟨counted_init, grouped_init⟩ es
  exact hrun.1

def connectionsOf (w : World) (s : Nat) : List Nat :=
  (List.range w.numConns).filter fun c =>
    (w.conn c).freed = false ∧ (w.conn c).socketManager = some s

def listenersOf (w : World) (s : Nat) : List Nat :=
  (List.range w.numListeners).filter fun l =>
    (w.listener l).freed = false ∧ (w.listener l).socketManager = some s

theorem Counted.perm_connectionsOf (h : Counted none w) (s : Nat) :
    (w.sm s).allConnections.Perm (w.connectionsOf s) := by
  have hnodup : (w.sm s).allConnections.Nodup :=
    (List.nodup_append.mp (h.balanced.nodup s)).1.of_map _
  have hrange : (w.connectionsOf s).Nodup := List.nodup_range.filter _
  refine (List.perm_ext_iff_of_nodup hnodup hrange).mpr fun c => ?_
  rw [h.mem_iff, connectionsOf, List.mem_filter, List.mem_range, decide_eq_true_eq]
  refine and_congr_right fun _ => ⟨fun hs => ⟨?_, hs⟩, fun hs => hs.2⟩
  cases hf : (w.conn c).freed with
  | false => rfl
  | true =>
    rw [h.conn_freed c hf] at hs
    cases hs

theorem Counted.listenersOf_eq (h : Counted none w) (s : Nat) :
    w.listenersOf s = (w.sm s).listener.toList := by
  have hmem : ∀ l, l ∈ w.listenersOf s ↔ (w.sm s).listener = some l := by
    intro l
    rw [h.listener_iff, listenersOf, List.mem_filter, List.mem_range, decide_eq_true_eq]
    refine and_congr_right fun _ => ⟨fun hs => hs.2, fun hs => ⟨?_, hs⟩⟩
    cases hf : (w.listener l).freed with
    | false => rfl
    | true =>
      rw [h.listener_freed l hf] at hs
      cases hs
  have hperm : (w.listenersOf s).Perm (w.sm s).listener.toList := by
    have hrange : (w.listenersOf s).Nodup := List.nodup_range.filter _
    have hone : (w.sm s).listener.toList.Nodup := by cases (w.sm s).listener <;> simp
    refine (List.perm_ext_iff_of_nodup hrange hone).mpr fun l => ?_
    rw [hmem, Option.mem_toList]
  cases hl : (w.sm s).listener with
  | none =>
    rw [hl] at hperm
    exact hperm.eq_nil
  | some l =>
    rw [hl] at hperm
    exact List.perm_singleton.mp hperm

theorem Counted.refCount_eq (h : Counted none w) (s : Nat) : (w.sm s).refCount =
    (w.sm s).allConnections.length + (w.sm s).listener.toList.length := by
  have hholders := h.balanced.count_eq s
  have hlength : ((w.sm s).listener.map Holder.listener).toList.length =
      (w.sm s).listener.toList.length := by cases (w.sm s).listener <;> rfl
  simpa [smCell, hlength] using hholders

theorem Counted.frees_eq (h : Counted none w) {s : Nat} (hs : s < w.numSms) :
    (w.sm s).frees = if (w.sm s).refCount = 0 then 1 else 0 :=
  h.balanced.frees_eq s hs (by simp)

/-- After every run, the count of a socket manager is the number of connections that refer to it,
those it lists, and one more for a listener, and it is freed once that number is 0. -/
theorem refCount_run (es : List Event) (s : Nat) (hs : s < (run es).numSms) :
    ((run es).sm s).refCount =
        ((run es).connectionsOf s).length + ((run es).listenersOf s).length ∧
      ((run es).listenersOf s).length ≤ 1 ∧
      ((run es).sm s).allConnections.Perm ((run es).connectionsOf s) ∧
      ((run es).sm s).frees =
        if ((run es).connectionsOf s).length + ((run es).listenersOf s).length = 0 then 1 else 0 := by
  set w := run es
  have h : Counted none w := counted_run es
  have hperm := h.perm_connectionsOf s
  have hcount : (w.sm s).refCount =
      (w.connectionsOf s).length + (w.listenersOf s).length := by
    rw [← hperm.length_eq, h.listenersOf_eq]
    exact h.refCount_eq s
  refine ⟨hcount, ?_, hperm, ?_⟩
  · rw [h.listenersOf_eq]
    cases (w.sm s).listener <;> simp
  · rw [h.frees_eq hs, hcount]
    norm_cast

theorem refCount_run_clone :
    ((run [.initiate .udp 1 7 .failed, .clone 0 2, .free 0]).sm 0).frees = 1 ∧
      ((run [.initiate .udp 1 7 .failed, .clone 0 2, .free 0]).sm 1).refCount = 1 := by
  have hold := refCount_run [.initiate .udp 1 7 .failed, .clone 0 2, .free 0] 0 (by decide)
  have hnew := refCount_run [.initiate .udp 1 7 .failed, .clone 0 2, .free 0] 1 (by decide)
  exact ⟨hold.2.2.2.trans (by decide), hnew.1.trans (by decide)⟩

end World

end CTaps.Lifetimes
