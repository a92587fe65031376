import CTaps.Connections.Placed
import CTaps.Lifetimes.Releases
import Mathlib.Data.Fintype.EquivFin

/-! The connections of the machine that follows how they end are those of the machine that counts
references. A registry says who is where. Each event of the first machine is at most one change of
it, and the second has an event for every change, so the counts are counts of what the first machine
has. -/

namespace CTaps.Lifetimes

open Function
open Gathering (Protocol)

structure Registry where
  numConns : Nat
  numSms : Nat
  numGroups : Nat
  /-- The socket manager and the group of a connection that is not freed. -/
  conn : Nat → Option Nat × Option Nat
  /-- The connections a socket manager lists, its protocol, and whether it has a listener. -/
  sm : Nat → List Nat × Protocol × Bool

namespace Registry

def addSm (r : Registry) (p : Protocol) (hasListener : Bool) : Registry :=
  { r with numSms := r.numSms + 1, sm := update r.sm r.numSms ([], p, hasListener) }

def addGroup (r : Registry) : Registry := { r with numGroups := r.numGroups + 1 }

def addConn (r : Registry) (s g : Nat) : Registry :=
  { r with
    numConns := r.numConns + 1
    conn := update r.conn r.numConns (some s, some g)
    sm := update r.sm s (r.numConns :: (r.sm s).1, (r.sm s).2) }

def remove (r : Registry) (s c : Nat) : Registry :=
  { r with
    conn := update r.conn c (none, none)
    sm := update r.sm s ((r.sm s).1.erase c, (r.sm s).2) }

inductive Change (r : Registry) : Registry → Prop
  | client (p : Protocol) : Change r ((r.addSm p false).addGroup.addConn r.numSms r.numGroups)
  | listener (p : Protocol) : Change r (r.addSm p true)
  | accepted {s : Nat} (hl : (r.sm s).2 = (.tcp, true)) :
      Change r ((r.addSm .tcp false).addGroup.addConn r.numSms r.numGroups)
  | received {s : Nat} {p : Protocol} (hl : (r.sm s).2 = (p, true)) (htcp : p ≠ .tcp) :
      Change r (r.addGroup.addConn s r.numGroups)
  /-- A QUIC clone is on the socket of its source, others have a socket of their own. -/
  | clone {c s g : Nat} {p : Protocol} (hc : c < r.numConns) (hs : r.conn c = (some s, some g))
      (hp : (r.sm s).2.1 = p) : Change r
        (if p = .quic then r.addConn s g else (r.addSm p false).addConn r.numSms g)
  | free {c s g : Nat} (hc : c < r.numConns) (hs : r.conn c = (some s, some g)) :
      Change r (r.remove s c)

end Registry

end CTaps.Lifetimes

/-! ### How connections end -/

namespace CTaps.Connections

open Function
open Gathering (Protocol)
open Lifetimes (Registry)

def Connection.place (x : Connection) : Option Nat × Option Nat :=
  if x.freed then (none, none) else (some x.socketManager, some x.group)

namespace World

def registry (w : World) : Registry where
  numConns := w.numConns
  numSms := w.numSms
  numGroups := w.numGroups
  conn c := if c < w.numConns then (w.conn c).place else (none, none)
  sm s := ((w.sm s).allConnections, if s < w.numSms then w.protocol else .tcp,
    (w.sm s).listener.isSome)

variable {w w' : World}

theorem registry_of_site (hs : w'.site = w.site) : w'.registry = w.registry := by
  have hp : w'.protocol = w.protocol := congrArg Site.protocol hs
  have hn : w'.numConns = w.numConns := congrArg Site.numConns hs
  have hN : w'.numSms = w.numSms := congrArg Site.numSms hs
  have hG : w'.numGroups = w.numGroups := congrArg Site.numGroups hs
  have hconn : ∀ c, (w'.conn c).site = (w.conn c).site := congrFun (congrArg Site.conn hs)
  have hsm : ∀ s, (w'.sm s).site = (w.sm s).site := congrFun (congrArg Site.sm hs)
  simp only [Connection.site, SocketManager.site, Prod.mk.injEq] at hconn hsm
  simp only [registry, Connection.place, hp, hn, hN, hG, hconn, hsm]

theorem registry_addSocketManager (w : World) {m : SocketManager} (hm : m.allConnections = []) :
    (w.addSocketManager m).registry = w.registry.addSm w.protocol m.listener.isSome := by
  simp only [registry, Registry.addSm, Registry.mk.injEq, addSocketManager_numSms, true_and]
  refine ⟨rfl, rfl, rfl, funext fun s => ?_⟩
  by_cases hs : s = w.numSms
  · simp [hs, hm]
  · have hlt : s < w.numSms + 1 ↔ s < w.numSms := by omega
    simp [hs, hlt]

theorem registry_addGroup (w : World) (y : Cnx) : (w.addGroup y).registry = w.registry.addGroup := rfl

theorem registry_addConnection (w : World) {x : Connection} (hf : x.freed = false) :
    (w.addConnection x).registry = w.registry.addConn x.socketManager x.group := by
  simp only [registry, Registry.addConn, Registry.mk.injEq]
  refine ⟨rfl, rfl, rfl, funext fun c => ?_, funext fun s => ?_⟩
  · by_cases hc : c = w.numConns
    · simp [hc, Connection.place, hf]
    · have hlt : c < w.numConns + 1 ↔ c < w.numConns := by omega
      simp [hc, hlt]
  · by_cases hs : s = x.socketManager
    · simp [hs]
    · simp [hs]

theorem registry_connectionFree (w : World) (c : Nat) :
    (w.connectionFree c).registry = w.registry.remove (w.conn c).socketManager c := by
  simp only [registry, Registry.remove, Registry.mk.injEq]
  refine ⟨rfl, rfl, rfl, funext fun d => ?_, funext fun s => ?_⟩
  · by_cases hd : d = c
    · simp [hd, connectionFree, Connection.place]
    · simp [hd, connectionFree]
  · by_cases hs : s = (w.conn c).socketManager
    · simp [hs, connectionFree]
    · simp [hs, connectionFree]

/-! ### Events -/

def Registers (w w' : World) : Prop :=
  w'.registry = w.registry ∨ Registry.Change w.registry w'.registry

theorem Registers.of_site {w₁ : World} (h : Registers w w₁) (hs : w'.site = w₁.site) :
    Registers w w' := by
  rw [Registers, registry_of_site hs]
  exact h

theorem registers_client (w : World) (cbs : UserCallbacks) {m : SocketManager}
    (hm : m.allConnections = []) (hl : m.listener = none) (early : Option Nat) :
    Registers w (w.addClient cbs m early) := by
  refine Or.inr ?_
  unfold addClient
  rw [registry_addConnection _ rfl, registry_addSocketManager _ hm, registry_addGroup, hl]
  exact .client w.protocol

theorem conn_of_live {c : Nat} (hc : w.live c = true) :
    w.registry.conn c = (some (w.conn c).socketManager, some (w.conn c).group) := by
  obtain ⟨hlt, hf⟩ := of_decide_eq_true hc
  simp [registry, Connection.place, hlt, hf]

theorem Placed.protocol_home (h : Placed w) {c : Nat} (hc : c < w.numConns) :
    (w.registry.sm (w.conn c).socketManager).2.1 = w.protocol :=
  if_pos (h.home_lt c hc)

theorem registers_shared (h : Placed w) (hp : w.protocol = .quic) {c : Nat} (hc : w.live c = true) :
    Registers w (w.addConnection ((w.conn c).cloneOf (w.conn c).socketManager)) := by
  have hclone := Registry.Change.clone (lt_of_live hc) (conn_of_live hc)
    (h.protocol_home (lt_of_live hc))
  rw [if_pos hp] at hclone
  rw [Registers, registry_addConnection _ rfl]
  exact Or.inr hclone

theorem registers_moved (h : Placed w) (hp : w.protocol ≠ .quic) {c : Nat} (hc : w.live c = true)
    {m : SocketManager} (hm : m.allConnections = []) (hl : m.listener = none) :
    Registers w ((w.addSocketManager m).addConnection ((w.conn c).cloneOf w.numSms)) := by
  have hclone := Registry.Change.clone (lt_of_live hc) (conn_of_live hc)
    (h.protocol_home (lt_of_live hc))
  rw [if_neg hp] at hclone
  rw [Registers, registry_addConnection _ rfl, registry_addSocketManager _ hm, hl]
  exact Or.inr hclone

theorem registers_clone (h : Placed w) {c : Nat} (hc : w.live c = true) :
    Registers w (w.cloneConnection c) := by
  unfold cloneConnection
  split
  · next hp => exact registers_moved h (by simp [hp]) hc rfl rfl
  · next hp =>
    exact (registers_moved h (by simp [hp]) hc rfl rfl).of_site (site_connectionReadyCb _ _)
  · next hp => exact (registers_shared h hp hc).of_site (site_connectionReadyCb _ _)

theorem Placed.protocol_listener (h : Placed w) {s : Nat} {l : Listener}
    (hl : (w.sm s).listener = some l) : (w.registry.sm s).2 = (w.protocol, true) := by
  simp [registry, hl, h.listener_lt s (by simp [hl])]

theorem registers_accepted (h : Placed w) (hp : w.protocol = .tcp) (s : Nat) :
    Registers w (w.newStreamConnectionCb s true) := by
  rw [newStreamConnectionCb_started]
  split
  · next l hl =>
    split
    · refine Registers.of_site ?_ (site_connectionReceivedCb _ _ _)
      rw [Registers, registry_addConnection _ rfl, registry_addSocketManager _ rfl,
        registry_addGroup, addGroup_protocol, hp]
      exact Or.inr (.accepted (hp ▸ h.protocol_listener hl))
    · exact Or.inl rfl
  · exact Or.inl rfl

theorem registers_received (h : Placed w) (hp : w.protocol ≠ .tcp) {s : Nat} {l : Listener}
    (hl : (w.sm s).listener = some l) (y : Cnx) {x : Connection} (hf : x.freed = false)
    (hs : x.socketManager = s) (hg : x.group = w.numGroups) :
    Registers w ((w.addGroup y).addConnection x) := by
  rw [Registers, registry_addConnection _ hf, registry_addGroup, hs, hg]
  exact Or.inr (.received (h.protocol_listener hl) hp)

theorem registers_datagram (h : Placed w) (hp : w.protocol = .udp) (s addr : Nat) :
    Registers w (w.udpMultiplexReceivedMessage s addr) := by
  unfold udpMultiplexReceivedMessage
  split
  · next l hl _ =>
    split
    · refine Registers.of_site ?_ (site_connectionReceivedCb _ _ _)
      refine Registers.of_site ?_ (site_modSm _ s fun _ => rfl)
      exact registers_received h (by simp [hp]) hl _ rfl rfl rfl
    · exact Or.inl rfl
  · exact Or.inl rfl

theorem registers_newCnx (h : Placed w) (hp : w.protocol = .quic) (s : Nat) :
    Registers w (w.newCnx s) := by
  unfold newCnx
  split
  · next l hl =>
    split
    · exact registers_received h (by simp [hp]) hl _ rfl rfl rfl
    · exact Or.inl rfl
  · exact Or.inl rfl

theorem registers_resolveOrCreate (h : Placed w) (hp : w.protocol = .quic) (g sid : Nat)
    {first : Nat} (hfirst : w.live first = true) :
    Registers w (w.resolveOrCreateStreamConnection g sid first).1 := by
  unfold resolveOrCreateStreamConnection
  split
  · exact Or.inl rfl
  · split
    · exact (registers_shared h hp hfirst).of_site (site_bindStream _ _ _ _)
    · exact Or.inl (registry_of_site (site_bindStream _ _ _ _))

theorem live_of_mem_members {g c : Nat} (hc : c ∈ w.members g) : w.live c = true := by
  have hfreed := (of_decide_eq_true (List.mem_filter.mp hc).2).1
  simp [live, lt_of_mem_members hc, hfreed]

theorem registers_step (h : Placed w) (e : Event) : Registers w (w.step e) := by
  refine step_keeps (I := Registers w) (Or.inl rfl) fun he => ?_
  cases e with
  | initiate cbs early start =>
    obtain ⟨m, stream, hm, hl, -, hsite⟩ := w.site_initiate cbs early start
    exact (registers_client w cbs hm hl stream).of_site hsite
  | listen l cbs =>
    rw [act, listen, Registers, registry_addSocketManager _ rfl]
    exact Or.inr (.listener w.protocol)
  | clone c => exact registers_clone h (of_decide_eq_true he).1
  | free c =>
    have hc : w.live c = true := (of_decide_eq_true (of_decide_eq_true he).1).1
    rw [act, Registers, registry_connectionFree]
    exact Or.inr (.free (lt_of_live hc) (conn_of_live hc))
  | accepted s => exact registers_accepted h (of_decide_eq_true he) s
  | datagram s addr => exact registers_datagram h (of_decide_eq_true he) s addr
  | newCnx s => exact registers_newCnx h (of_decide_eq_true he) s
  | streamData g sid first hasData =>
    obtain ⟨⟨hp, -, -⟩, hfirst⟩ := of_decide_eq_true he
    have hr := registers_resolveOrCreate h hp g sid (live_of_mem_members hfirst)
    dsimp only [act, streamData]
    split
    · exact hr
    · exact hr.of_site (site_announceIf _ _ _)
  | streamFin g sid first hasData =>
    obtain ⟨⟨hp, -, -⟩, hfirst⟩ := of_decide_eq_true he
    have hr := registers_resolveOrCreate h hp g sid (live_of_mem_members hfirst)
    dsimp only [act, streamFin]
    split
    · exact hr
    · exact hr.of_site (by rw [site_announceIf, site_handleStreamFin])
  | _ => exact Or.inl (registry_of_site (by simp [act]))

end World

end CTaps.Connections


/-! ### References -/

namespace CTaps.Lifetimes

open Function
open Gathering (Protocol)

def Connection.place (x : Connection) : Option Nat × Option Nat :=
  (x.socketManager, x.connectionGroup)

def SocketManager.entry (m : SocketManager) : List Nat × Protocol × Bool :=
  (m.allConnections, m.protocol, m.listener.isSome)

namespace World

def registry (w : World) : Registry where
  numConns := w.numConns
  numSms := w.numSms
  numGroups := w.numGroups
  conn := Connection.place ∘ w.conn
  sm := SocketManager.entry ∘ w.sm

variable {w w' : World} {y : Option Nat}

theorem registry_modConn (w : World) (c : Nat) (f : Connection → Connection) :
    (w.modConn c f).registry =
      { w.registry with conn := update w.registry.conn c (f (w.conn c)).place } := by
  rw [registry, modConn, comp_update]
  rfl

theorem registry_modSm (w : World) (s : Nat) (f : SocketManager → SocketManager) :
    (w.modSm s f).registry =
      { w.registry with sm := update w.registry.sm s (f (w.sm s)).entry } := by
  rw [registry, modSm, comp_update]
  rfl

theorem registry_modSm_keeps (w : World) (s : Nat) {f : SocketManager → SocketManager}
    (hf : (f (w.sm s)).entry = (w.sm s).entry) : (w.modSm s f).registry = w.registry := by
  rw [registry_modSm, hf]
  exact congrArg (Registry.mk _ _ _ _) (update_eq_self s w.registry.sm)

theorem registry_insertDemuxed (w : World) (s addr c : Nat) :
    (w.modSm s (SocketManager.insertDemuxed addr c)).registry = w.registry := by
  refine registry_modSm_keeps w s ?_
  unfold SocketManager.insertDemuxed
  split <;> rfl

theorem entry_unref (m : SocketManager) : m.unref.entry = m.entry := by
  unfold SocketManager.unref
  split <;> rfl

theorem registry_addSm (w : World) {m : SocketManager} (hm : m.allConnections = []) :
    (w.addSm m).registry = w.registry.addSm m.protocol m.listener.isSome := by
  rw [registry, addSm, comp_update, SocketManager.entry, hm]
  rfl

theorem registry_addConn (w : World) (x : Connection) :
    (w.addConn x).registry =
      { w.registry with
        numConns := w.numConns + 1
        conn := update w.registry.conn w.numConns x.place } := by
  rw [registry, addConn, comp_update]
  rfl

theorem registry_enlist (w : World) (s c : Nat) :
    (w.socketManagerAddConnection s c).registry =
      { w.registry with
        conn := update w.registry.conn c (some s, (w.registry.conn c).2)
        sm := update w.registry.sm s (c :: (w.registry.sm s).1, (w.registry.sm s).2) } := by
  unfold socketManagerAddConnection
  rw [registry_modConn, registry_modSm, registry_modSm]
  simp only [modSm_sm, update_self, update_idem]
  rfl

theorem registry_leave (w : World) (s c : Nat) :
    (w.leave s c).registry =
      { w.registry with
        conn := update w.registry.conn c (none, (w.registry.conn c).2)
        sm := update w.registry.sm s
          ((w.registry.sm s).1.erase c, (w.registry.sm s).2) } := by
  unfold leave
  rw [registry_modConn, registry_modSm, registry_modSm]
  simp only [modSm_sm, update_self, update_idem, entry_unref]
  rfl

theorem Grouped.registry_enroll (h : Grouped y w) {c : Nat} (hc : c < w.numConns)
    (hnone : (w.conn c).connectionGroup = none) (g : Nat) :
    (w.groupAddConnection g c).registry =
      { w.registry with
        conn := update w.registry.conn c ((w.registry.conn c).1, some g) } := by
  rw [h.groupAddConnection_eq hc hnone, registry_modConn]
  rfl

/-! ### New connections -/

theorem Grouped.registry_alone (h : Grouped none w) {x : Connection}
    (hg : x.connectionGroup = none) (hu : w.newUuid x.uuid) (s : Nat) :
    (((w.addConn x).addGroup.groupAddConnection w.numGroups w.numConns).socketManagerAddConnection s
      w.numConns).registry = w.registry.addGroup.addConn s w.numGroups := by
  have hyoung : Grouped (some w.numGroups) (w.addConn x).addGroup := (h.newConn hg hu).newGroup
  have hgroups : (w.addConn x).addGroup.registry = (w.addConn x).registry.addGroup := rfl
  rw [registry_enlist, hyoung.registry_enroll (Nat.lt_succ_self _) (by simpa using hg), hgroups,
    registry_addConn]
  simp only [Registry.addConn, Registry.addGroup, update_self, update_idem]
  rfl

theorem Grouped.registry_server (h : Grouped none w) {uuid : Nat} (hu : w.newUuid uuid)
    (s remote : Nat) : (w.createServerConnection s uuid remote).registry =
      w.registry.addGroup.addConn s w.numGroups :=
  h.registry_alone rfl hu s

theorem Grouped.registry_client (h : Grouped none w) (p : Protocol) {uuid : Nat}
    (hu : w.newUuid uuid) (remote : Nat) : (w.createClient p uuid remote).registry =
      (w.registry.addSm p false).addGroup.addConn w.numSms w.numGroups := by
  have halone := Grouped.registry_alone (w := w.addSm { protocol := p }) (h.of_ties rfl)
    (x := { uuid := uuid, remote := remote }) rfl hu w.numSms
  rw [registry_addSm w rfl] at halone
  unfold createClient
  dsimp only
  split
  · rw [registry_insertDemuxed]
    exact halone
  · exact halone

theorem Grouped.registry_cloned (h : Grouped none w) {source uuid s g : Nat}
    (hlt : source < w.numConns) (hs : w.registry.conn source = (some s, some g))
    (hu : w.newUuid uuid) : (w.createClone source uuid).registry = w.registry.addConn s g := by
  obtain ⟨hhome, hgroup⟩ := Prod.mk.inj hs
  have hne : source ≠ w.numConns := Nat.ne_of_lt hlt
  set x : Connection := { uuid := uuid, remote := (w.conn source).remote }
  have hshare : (w.addConn x).shareSocketManager source w.numConns =
      (w.addConn x).socketManagerAddConnection s w.numConns := by
    simp [shareSocketManager, hne, hhome]
  have hnew : Grouped none ((w.addConn x).socketManagerAddConnection s w.numConns) :=
    (h.newConn rfl hu).of_ties (ties_socketManagerAddConnection _ _ _)
  have hjoin : ((w.addConn x).socketManagerAddConnection s w.numConns).shareGroup source w.numConns =
      ((w.addConn x).socketManagerAddConnection s w.numConns).groupAddConnection g w.numConns := by
    simp [shareGroup, socketManagerAddConnection_conn, hne, hgroup]
  unfold createClone
  rw [hshare, hjoin, hnew.registry_enroll (Nat.lt_succ_self _), registry_enlist, registry_addConn]
  · simp only [Registry.addConn, update_self, update_idem]
    rfl
  · simp [socketManagerAddConnection_conn, x]

theorem update_restore {β : Type*} (f : Nat → β) {s t : Nat} (hs : s ≠ t) (a b : β) :
    update (update (update f s a) t b) s (f s) = update f t b := by
  rw [update_comm hs, update_idem, update_comm (Ne.symm hs), update_eq_self]

theorem registry_rehome {r : Registry} {s g : Nat} (hr : w.registry = r.addConn s g)
    (hs : s ≠ r.numSms) (p : Protocol) :
    (w.rehome p r.numConns).registry = (r.addSm p false).addConn r.numSms g := by
  have hconn : w.registry.conn r.numConns = (some s, some g) := by simp [hr, Registry.addConn]
  have hN : w.numSms = r.numSms := congrArg Registry.numSms hr
  have hdetach : (w.addSm { protocol := p }).detachTcp r.numConns =
      (w.addSm { protocol := p }).leave s r.numConns := by
    simp [detachTcp, leave, (Prod.mk.inj hconn).1]
  unfold rehome
  rw [hdetach, registry_enlist, registry_leave, registry_addSm w rfl, hr, hN]
  simp only [Registry.addConn, Registry.addSm, update_self, update_idem,
    update_of_ne hs, List.erase_cons_head]
  rw [update_restore r.sm hs]
  simp

theorem registry_udpClone {r : Registry} {s g : Nat} (hr : w.registry = r.addConn s g)
    (hs : s ≠ r.numSms) :
    (w.udpCloneConnection r.numConns).registry = (r.addSm .udp false).addConn r.numSms g := by
  have hplace : (w.conn r.numConns).place = (some s, some g) :=
    (congrFun (congrArg Registry.conn hr) r.numConns).trans (update_self ..)
  have hhome : (w.conn r.numConns).socketManager = some s := congrArg Prod.fst hplace
  have hN : w.numSms = r.numSms := congrArg Registry.numSms hr
  rw [udpCloneConnection_eq, registry_insertDemuxed, registry_rehome hr hs]
  rintro t ht rfl
  exact hs ((Option.some.inj (hhome.symm.trans ht)).trans hN)

theorem registry_free (w : World) {c s g : Nat} (hs : w.registry.conn c = (some s, some g)) :
    (w.connectionFree c).registry = w.registry.remove s c := by
  have hunref : (w.groupUnref c).registry = w.registry := by
    unfold groupUnref freeGroup
    split
    · dsimp only
      split <;> rfl
    · rfl
  set w₁ := (w.groupUnref c).modConn c fun x => { x with connectionGroup := none }
  have hhome : (w₁.conn c).socketManager = some s := by
    simpa [w₁, (w.groupUnref_keeps c).1] using (Prod.mk.inj hs).1
  have hfree : w.connectionFree c = (w₁.leave s c).modConn c fun x => { x with freed := true } := by
    unfold connectionFree
    dsimp only
    rw [hhome]
    rfl
  have hplace : (((w₁.leave s c).conn c)).place = (none, none) := by
    simp [leave_conn, Connection.place, w₁]
  rw [hfree, registry_modConn, registry_leave, registry_modConn, hunref]
  simp only [update_idem, Registry.remove]
  exact congrArg (fun e => Registry.mk _ _ _ (update _ c e) _) hplace

theorem registry_listenerNew (w : World) (p : Protocol) :
    (w.listenerNew p).registry = w.registry.addSm p true :=
  (registry_modSm_keeps (w.addSm _) w.numSms rfl).trans (registry_addSm w rfl)

/-! ### Events for changes -/

def Listening (w : World) : Prop := ∀ l, (w.listener l).closed = false

theorem listener_groupAddConnection (w : World) (g c : Nat) :
    (w.groupAddConnection g c).listener = w.listener := by
  unfold groupAddConnection
  dsimp only
  split
  · rfl
  · split <;> rfl

theorem listener_createServerConnection (w : World) (s uuid remote : Nat) :
    (w.createServerConnection s uuid remote).listener = w.listener :=
  listener_groupAddConnection _ _ _

theorem listener_createClient (w : World) (p : Protocol) (uuid remote : Nat) :
    (w.createClient p uuid remote).listener = w.listener := by
  unfold createClient
  dsimp only
  split
  · exact listener_groupAddConnection _ _ _
  · exact listener_groupAddConnection _ _ _

theorem listener_createClone (w : World) (source uuid : Nat) :
    (w.createClone source uuid).listener = w.listener := by
  have hhome : ((w.addConn { uuid := uuid, remote := (w.conn source).remote }).shareSocketManager
      source w.numConns).listener = w.listener := by
    unfold shareSocketManager
    split <;> rfl
  unfold createClone shareGroup
  split
  · exact (listener_groupAddConnection _ _ _).trans hhome
  · exact hhome

theorem listener_connectionClone (w : World) (source uuid : Nat) :
    (w.connectionClone source uuid).listener = w.listener := by
  have htcp (c : Nat) (w : World) : (w.tcpCloneConnection c).listener = w.listener := by
    unfold tcpCloneConnection detachTcp
    split <;> rfl
  have hudp (c : Nat) (w : World) : (w.udpCloneConnection c).listener = w.listener := by
    unfold udpCloneConnection detachUdp
    dsimp only
    split <;> rfl
  unfold connectionClone
  dsimp only
  split
  · split
    · rw [htcp, listener_createClone]
    · rw [hudp, listener_createClone]
    · exact listener_createClone w source uuid
  · exact listener_createClone w source uuid

theorem listener_connectionFree (w : World) (c : Nat) :
    (w.connectionFree c).listener = w.listener := by
  have hunref : (w.groupUnref c).listener = w.listener := by
    unfold groupUnref freeGroup
    split
    · dsimp only
      split <;> rfl
    · rfl
  unfold connectionFree
  dsimp only
  split <;> exact hunref

theorem Listening.of_listener (h : w.Listening) (he : w'.listener = w.listener) : w'.Listening := by
  intro l
  rw [he]
  exact h l

theorem Listening.withListener (h : w.Listening) (p : Protocol) : (w.listenerNew p).Listening := by
  intro l
  rw [listenerNew_listener]
  split
  · rfl
  · exact h l

theorem exists_newUuid (w : World) : ∃ uuid, w.newUuid uuid := by
  obtain ⟨uuid, huuid⟩ := Infinite.exists_notMem_finset
    ((Finset.range w.numConns).image fun d => (w.conn d).uuid)
  refine ⟨uuid, fun d hd he => huuid ?_⟩
  exact Finset.mem_image.mpr ⟨d, Finset.mem_range.mpr hd, he⟩

theorem exists_newAddress (m : SocketManager) : ∃ addr, m.demuxTable.lookup addr = none := by
  obtain ⟨addr, haddr⟩ := Infinite.exists_notMem_finset (m.demuxTable.map Prod.fst).toFinset
  refine ⟨addr, List.lookup_eq_none_iff.mpr fun e he => bne_iff_ne.mpr ?_⟩
  rintro rfl
  exact haddr (List.mem_toFinset.mpr (List.mem_map_of_mem he))

theorem listens_of_registry (hopen : w.Listening) {s : Nat} {p : Protocol}
    (h : (w.registry.sm s).2 = (p, true)) : (w.sm s).protocol = p ∧ w.listens s = true := by
  obtain ⟨hp, hsome⟩ := Prod.mk.inj h
  obtain ⟨l, hl⟩ := Option.isSome_iff_exists.mp hsome
  exact ⟨hp, by simp [listens, hl, hopen l]⟩

def Performs (w : World) (r : Registry) : Prop :=
  ∃ e, (w.step e).registry = r ∧ (w.step e).Listening

theorem performs_act (e : Event) (he : w.enabled e) (hopen : (w.act e).Listening) {r : Registry}
    (hr : (w.act e).registry = r) : w.Performs r := by
  have hstep : w.step e = w.act e := if_pos he
  exact ⟨e, hstep ▸ hr, hstep ▸ hopen⟩

theorem performs_client (hg : Grouped none w) (hopen : w.Listening) (p : Protocol) :
    w.Performs ((w.registry.addSm p false).addGroup.addConn w.numSms w.numGroups) := by
  obtain ⟨uuid, hu⟩ := w.exists_newUuid
  have hact : w.act (.initiate p uuid 0 .failed) = w.createClient p uuid 0 := by
    dsimp only [act, initiate, quicInit]
    exact ite_self _
  refine performs_act (.initiate p uuid 0 .failed) hu ?_ ?_
  · rw [hact]
    exact hopen.of_listener (listener_createClient w p uuid 0)
  · rw [hact]
    exact hg.registry_client p hu 0

theorem performs_accepted (hg : Grouped none w) (hopen : w.Listening) {s : Nat}
    (hl : (w.registry.sm s).2 = (.tcp, true)) :
    w.Performs ((w.registry.addSm .tcp false).addGroup.addConn w.numSms w.numGroups) := by
  obtain ⟨uuid, hu⟩ := w.exists_newUuid
  have hserver := Grouped.registry_server (w := w.addSm { protocol := .tcp }) (hg.of_ties rfl)
    hu w.numSms 0
  rw [registry_addSm w rfl] at hserver
  obtain ⟨hp, hsome⟩ := Prod.mk.inj hl
  refine performs_act (.accepted s uuid 0) ⟨hp, hsome, hu⟩ ?_ hserver
  exact hopen.of_listener (listener_createServerConnection (w.addSm _) _ _ _)

theorem performs_received (hg : Grouped none w) (hopen : w.Listening) {s : Nat} {p : Protocol}
    (hl : (w.registry.sm s).2 = (p, true)) (htcp : p ≠ .tcp) :
    w.Performs (w.registry.addGroup.addConn s w.numGroups) := by
  obtain ⟨uuid, hu⟩ := w.exists_newUuid
  obtain ⟨hproto, hlistens⟩ := listens_of_registry hopen hl
  cases p with
  | tcp => exact absurd rfl htcp
  | udp =>
    obtain ⟨addr, haddr⟩ := exists_newAddress (w.sm s)
    have hact : w.act (.datagram s addr uuid) = (w.createServerConnection s uuid addr).modSm s
        (SocketManager.insertDemuxed addr w.numConns) := by
      simp [act, udpMultiplexReceivedMessage, haddr, hlistens]
    refine performs_act (.datagram s addr uuid) ⟨hproto, hu⟩ ?_ ?_
    · rw [hact]
      exact hopen.of_listener (listener_createServerConnection w s uuid addr)
    · rw [hact, registry_insertDemuxed]
      exact hg.registry_server hu s addr
  | quic =>
    have hact : w.act (.newCnx s uuid 0) = (w.createServerConnection s uuid 0).modGroup w.numGroups
        fun x => { x with state := true } := by
      simp [act, World.newCnx, hlistens]
    refine performs_act (.newCnx s uuid 0) ⟨hproto, hu⟩ ?_ ?_
    · rw [hact]
      exact hopen.of_listener (listener_createServerConnection w s uuid 0)
    · rw [hact]
      exact hg.registry_server hu s 0

theorem Counted.live_of_home (h : Counted none w) {c s g : Nat} (hc : c < w.numConns)
    (hs : w.registry.conn c = (some s, some g)) : w.live c = true := by
  refine live_iff.mpr ⟨hc, ?_⟩
  cases hf : (w.conn c).freed with
  | false => rfl
  | true => simp [registry, Connection.place, h.conn_freed c hf] at hs

theorem Grouped.registry_clone (hg : Grouped none w) (hc : Counted none w) {source uuid s g : Nat}
    {p : Protocol} (hlt : source < w.numConns) (hs : w.registry.conn source = (some s, some g))
    (hp : (w.registry.sm s).2.1 = p) (hu : w.newUuid uuid) :
    (w.connectionClone source uuid).registry =
      if p = .quic then w.registry.addConn s g else (w.registry.addSm p false).addConn w.numSms g := by
  have hclone := hg.registry_cloned hlt hs hu
  have hsms : s ≠ w.registry.numSms := Nat.ne_of_lt (hc.alive hlt (Prod.mk.inj hs).1).1
  have hhome : ((w.createClone source uuid).conn source).socketManager = some s := by
    have hconn := congrFun (congrArg Registry.conn hclone) source
    refine (Prod.mk.inj (hconn.trans (Eq.trans ?_ hs))).1
    exact update_of_ne (Nat.ne_of_lt hlt) _ _
  have hproto : ((w.createClone source uuid).sm s).protocol = p := by
    have hsm := congrFun (congrArg Registry.sm hclone) s
    simp only [Registry.addConn, update_self] at hsm
    exact (congrArg (fun e => e.2.1) hsm).trans hp
  unfold connectionClone
  dsimp only
  rw [hhome]
  dsimp only
  rw [hproto]
  cases p with
  | tcp => exact registry_rehome hclone hsms .tcp
  | udp => exact registry_udpClone hclone hsms
  | quic => exact hclone

theorem performs_change (hg : Grouped none w) (hc : Counted none w) (hopen : w.Listening)
    {r : Registry} (h : Registry.Change w.registry r) : w.Performs r := by
  cases h with
  | client p => exact performs_client hg hopen p
  | listener p =>
    exact performs_act (.listen p) trivial (hopen.withListener p) (registry_listenerNew w p)
  | accepted hl => exact performs_accepted hg hopen hl
  | received hl htcp => exact performs_received hg hopen hl htcp
  | @clone c s g p hlt hs hp =>
    obtain ⟨uuid, hu⟩ := w.exists_newUuid
    refine performs_act (.clone c uuid) ⟨hc.live_of_home hlt hs, hu⟩ ?_ ?_
    · exact hopen.of_listener (listener_connectionClone w c uuid)
    · exact hg.registry_clone hc hlt hs hp hu
  | @free c s g hlt hs =>
    refine performs_act (.free c) (hc.live_of_home hlt hs) ?_ (registry_free w hs)
    exact hopen.of_listener (listener_connectionFree w c)

/-! ### Runs -/

def Tracked (v : Connections.World) : Prop :=
  ∃ ls, (run ls).registry = v.registry ∧ (run ls).Listening

theorem Tracked.step {v : Connections.World} (hplaced : v.Placed) (h : Tracked v)
    (e : Connections.Event) : Tracked (v.step e) := by
  obtain ⟨ls, hls, hopen⟩ := h
  obtain hsame | hchange := Connections.World.registers_step hplaced e
  · exact ⟨ls, hls.trans hsame.symm, hopen⟩
  · rw [← hls] at hchange
    obtain ⟨f, hf, hopen'⟩ := performs_change (grouped_run ls) (counted_run ls) hopen hchange
    have happend : run (ls ++ [f]) = (run ls).step f := Lib.run_append _ ls [f]
    exact ⟨ls ++ [f], happend ▸ hf, happend ▸ hopen'⟩

/-- After every run of the machine of connections, the machine of references has a run that leaves
it with the same connections, in the same places. -/
theorem tracked_run (p : Protocol) (es : List Connections.Event) :
    Tracked (Connections.World.run p es) := by
  have hinit : Tracked { protocol := p } := by
    refine ⟨[], ?_, fun _ => rfl⟩
    simp only [run, Lib.run_nil, registry, Connections.World.registry, Registry.mk.injEq, true_and]
    exact ⟨rfl, rfl⟩
  have hstep : ∀ (v : Connections.World) e, v.Placed ∧ Tracked v →
      (v.step e).Placed ∧ Tracked (v.step e) := fun v e h => ⟨h.1.step e, h.2.step h.1 e⟩
  exact (Lib.run_invariant_of_step hstep ⟨Connections.World.placed_init p, hinit⟩ es).2

theorem membersOf_of_registry (h : Grouped none w) {v : Connections.World}
    (he : w.registry = v.registry) (g : Nat) : w.membersOf g = v.members g := by
  have hn : w.numConns = v.numConns := congrArg Registry.numConns he
  unfold membersOf Connections.World.members
  rw [hn]
  refine List.filter_congr fun c hc => ?_
  have hplace : (w.conn c).place = (v.conn c).place :=
    (congrFun (congrArg Registry.conn he) c).trans (if_pos (List.mem_range.mp hc))
  have hgroup : (w.conn c).connectionGroup = (v.conn c).place.2 := congrArg Prod.snd hplace
  -- a member that is freed has no group
  have hfreed : (w.conn c).connectionGroup = some g → (w.conn c).freed = false := by
    intro hg
    cases hf : (w.conn c).freed with
    | false => rfl
    | true => simp [h.freed_none c hf] at hg
  rw [hgroup] at hfreed ⊢
  cases hf : (v.conn c).freed with
  | true => simp [Connections.Connection.place, hf]
  | false => simpa [Connections.Connection.place, hf] using hfreed

/-- What the references come to in the machine of connections: a socket manager is counted once for
each connection it lists and once for its listener, a group once for each member, and both are freed
when there is none. -/
theorem references_run (p : Protocol) (es : List Connections.Event) :
    ∃ ls, (run ls).registry = (Connections.World.run p es).registry ∧
      (∀ s < (Connections.World.run p es).numSms,
        ((run ls).sm s).refCount = ((Connections.World.run p es).sm s).allConnections.length +
            ((Connections.World.run p es).sm s).listener.toList.length ∧
          ((run ls).sm s).frees =
            if ((Connections.World.run p es).sm s).allConnections = [] ∧
              ((Connections.World.run p es).sm s).listener = none then 1 else 0) ∧
      ∀ g < (Connections.World.run p es).numGroups,
        ((run ls).group g).refCount = ((Connections.World.run p es).members g).length ∧
          ((run ls).group g).frees =
            if (Connections.World.run p es).members g = [] then 1 else 0 := by
  obtain ⟨ls, he, -⟩ := tracked_run p es
  set v := Connections.World.run p es
  have hc : Counted none (run ls) := counted_run ls
  have hg : Grouped none (run ls) := grouped_run ls
  refine ⟨ls, he, fun s hs => ?_, fun g hlt => ?_⟩
  · have hsm := congrFun (congrArg Registry.sm he) s
    have hlisted : ((run ls).sm s).allConnections = (v.sm s).allConnections :=
      congrArg Prod.fst hsm
    have hlistener : ((run ls).sm s).listener.isSome = (v.sm s).listener.isSome :=
      congrArg (fun e => e.2.2) hsm
    have hsms : (run ls).numSms = v.numSms := congrArg Registry.numSms he
    have hlength : ((run ls).sm s).listener.toList.length = (v.sm s).listener.toList.length := by
      rw [Option.length_toList, Option.length_toList, hlistener]
    have hcount := hc.refCount_eq s
    rw [hlisted, hlength] at hcount
    refine ⟨hcount, ?_⟩
    rw [hc.frees_eq (hsms ▸ hs), hcount]
    have hnone : (v.sm s).listener.toList.length = 0 ↔ (v.sm s).listener = none := by
      cases (v.sm s).listener <;> simp
    norm_cast
    simp only [Nat.add_eq_zero_iff, List.length_eq_zero_iff, hnone]
  · have hgroups : (run ls).numGroups = v.numGroups := congrArg Registry.numGroups he
    obtain ⟨hcount, hlength⟩ := hg.refCount_eq g
    have hmembers := membersOf_of_registry hg he g
    rw [← hmembers]
    exact ⟨hcount.trans (congrArg Nat.cast hlength), hg.frees_eq (hgroups ▸ hlt)⟩

end World

end CTaps.Lifetimes
