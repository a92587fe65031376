import CTaps.Connections.Isolation
import CTaps.Connections.TcpHandles
import CTaps.Lib.Places

/-! One socket at a time. Outside QUIC the members of a group are on sockets of their own, and what
is done to one of them depends on its socket and the connections there, and changes nothing else. -/

namespace CTaps.Connections.World

open Function
open Gathering (Protocol)

variable {w w' v : World}

/-! ### The sockets of a group -/

def Solo (w : World) : Prop :=
  w.protocol ≠ .quic → ∀ c < w.numConns, ∀ d < w.numConns, (w.conn c).group = (w.conn d).group →
    (w.conn c).socketManager = (w.conn d).socketManager → c = d

theorem Solo.of_site (h : Solo w) (hs : w'.site = w.site) : Solo w' := by
  have hp : w'.protocol = w.protocol := congrArg Site.protocol hs
  have hn : w'.numConns = w.numConns := congrArg Site.numConns hs
  have hconn : ∀ c, (w'.conn c).site = (w.conn c).site := congrFun (congrArg Site.conn hs)
  simp only [Connection.site, Prod.mk.injEq] at hconn
  simpa only [Solo, hp, hn, (hconn _).1, (hconn _).2.1] using h

theorem Solo.withConnection (h : Solo w) {x : Connection}
    (hx : w.protocol ≠ .quic → ∀ c < w.numConns, (w.conn c).group = x.group →
      (w.conn c).socketManager ≠ x.socketManager) : Solo (w.addConnection x) := by
  intro hp c hc d hd hg hs
  have hold : ∀ e, e ≠ w.numConns → e < (w.addConnection x).numConns → e < w.numConns :=
    fun e he hlt => Nat.lt_of_le_of_ne (Nat.le_of_lt_succ hlt) he
  simp only [addConnection_conn] at hg hs
  by_cases hcn : c = w.numConns
  · by_cases hdn : d = w.numConns
    · rw [hcn, hdn]
    · subst hcn
      rw [update_self, update_of_ne hdn] at hg hs
      exact absurd hs.symm (hx hp d (hold d hdn hd) hg.symm)
  · by_cases hdn : d = w.numConns
    · subst hdn
      rw [update_self, update_of_ne hcn] at hg hs
      exact absurd hs (hx hp c (hold c hcn hc) hg)
    · rw [update_of_ne hcn, update_of_ne hdn] at hg hs
      exact h hp c (hold c hcn hc) d (hold d hdn hd) hg hs

theorem Solo.withGroupOfOne (h : Solo w) (hpl : Placed w) (y : Cnx) {x : Connection}
    (hg : x.group = w.numGroups) : Solo ((w.addGroup y).addConnection x) := by
  have hgroup : Solo (w.addGroup y) := h
  refine hgroup.withConnection fun _ c hc hcg => ?_
  exact absurd (hcg.trans hg) (Nat.ne_of_lt (hpl.group_lt c hc))

theorem Solo.withSocketOfOne (h : Solo w) (hpl : Placed w) (m : SocketManager) {x : Connection}
    (hs : x.socketManager = w.numSms) : Solo ((w.addSocketManager m).addConnection x) := by
  have hsocket : Solo (w.addSocketManager m) := h
  refine hsocket.withConnection fun _ c hc _ hcs => ?_
  exact absurd (hcs.trans hs) (Nat.ne_of_lt (hpl.home_lt c hc))

theorem Solo.step (h : Solo w) (hpl : Placed w) (e : Event) : Solo (w.step e) := by
  by_cases hquic : w.protocol = .quic
  · exact fun hp => absurd ((protocol_step w e).trans hquic) hp
  refine step_keeps h fun he => ?_
  cases e with
  | initiate cbs early start =>
    obtain ⟨m, stream, hm, -, -, hsite⟩ := w.site_initiate cbs early start
    have hsocket : Solo (w.addSocketManager m) := h
    exact (hsocket.withGroupOfOne (hpl.withSocketManager hm) _ rfl).of_site hsite
  | listen l cbs => exact h
  | clone c =>
    dsimp only [act, cloneConnection]
    split
    · exact h.withSocketOfOne hpl _ rfl
    · exact (h.withSocketOfOne hpl _ rfl).of_site (site_connectionReadyCb _ _)
    · next hp => exact absurd hp hquic
  | free c =>
    intro hp d hd e he
    have hgroup (k : Nat) : ((w.connectionFree c).conn k).group = (w.conn k).group :=
      w.conn_connectionFree c k Connection.group fun _ => rfl
    have hhome (k : Nat) :
        ((w.connectionFree c).conn k).socketManager = (w.conn k).socketManager :=
      w.conn_connectionFree c k Connection.socketManager fun _ => rfl
    dsimp only [act]
    rw [hgroup d, hgroup e, hhome d, hhome e]
    exact h hp d hd e he
  | accepted s =>
    dsimp only [act]
    rw [newStreamConnectionCb_started]
    split
    · split
      · have hsocket : Solo (w.addSocketManager
            { handle := .open, tcpConnection := some w.numConns }) := h
        refine Solo.of_site ?_ (site_connectionReceivedCb _ _ _)
        exact hsocket.withGroupOfOne (hpl.withSocketManager rfl) _ rfl
      · exact h
    · exact h
  | datagram s addr =>
    dsimp only [act, udpMultiplexReceivedMessage]
    split
    · split
      · refine Solo.of_site ?_ (site_connectionReceivedCb _ _ _)
        refine Solo.of_site ?_ (site_modSm _ s fun _ => rfl)
        exact h.withGroupOfOne hpl _ rfl
      · exact h
    · exact h
  | newCnx s => exact absurd (of_decide_eq_true he) hquic
  | streamData g sid first hasData => exact absurd (of_decide_eq_true he).1.1 hquic
  | streamFin g sid first hasData => exact absurd (of_decide_eq_true he).1.1 hquic
  | _ => exact h.of_site (by simp [act])

theorem solo_run (p : Protocol) (es : List Event) : Solo (run p es) := by
  have hinv : Placed (run p es) ∧ Solo (run p es) :=
    Lib.run_invariant_of_step (I := fun w => Placed w ∧ Solo w)
      (fun _ e h => ⟨h.1.step e, h.2.step h.1 e⟩)
      ⟨placed_init p, fun _ c hc => absurd hc (Nat.not_lt_zero c)⟩ es
  exact hinv.2

theorem Solo.nodup_homes (h : Solo w) (hp : w.protocol ≠ .quic) {g : Nat} {order : List Nat}
    (horder : order.Perm (w.members g)) :
    (order.map fun d => (w.conn d).socketManager).Nodup := by
  refine List.Nodup.map_on (fun c hc d hd hcd => ?_) (nodup_of_perm_members horder)
  have hc := horder.mem_iff.mp hc
  have hd := horder.mem_iff.mp hd
  refine h hp c (lt_of_mem_members hc) d (lt_of_mem_members hd) ?_ hcd
  rw [group_of_mem_members hc, group_of_mem_members hd]

/-! ### The same at a socket -/

structure SameAt (s : Nat) (w v : World) : Prop where
  site : v.site = w.site
  sm : v.sm s = w.sm s
  conn : ∀ c, (w.conn c).socketManager = s → v.conn c = w.conn c

theorem home_of_site (h : v.site = w.site) (c : Nat) :
    (v.conn c).socketManager = (w.conn c).socketManager := by
  have hconn : (v.conn c).site = (w.conn c).site := congrFun (congrArg Site.conn h) c
  exact congrArg Prod.fst hconn

theorem sameAt_equivalence (s : Nat) : Equivalence (SameAt s) where
  refl _ := ⟨rfl, rfl, fun _ _ => rfl⟩
  symm h := ⟨h.site.symm, h.sm.symm, fun c hc =>
    (h.conn c ((home_of_site h.site c).symm.trans hc)).symm⟩
  trans h h' := ⟨h'.site.trans h.site, h'.sm.trans h.sm, fun c hc =>
    (h'.conn c ((home_of_site h.site c).trans hc)).trans (h.conn c hc)⟩

theorem SameAt.refl (s : Nat) (w : World) : SameAt s w w := (sameAt_equivalence s).refl w

theorem SameAt.trans {u : World} {s : Nat} (h : SameAt s w v) (h' : SameAt s v u) :
    SameAt s w u :=
  (sameAt_equivalence s).trans h h'

section Same

variable {s u c : Nat}

/-! What works at `s` keeps worlds the same at `s`. -/

theorem SameAt.modSm (h : SameAt s w v) {f : SocketManager → SocketManager}
    (hf : ∀ m, (f m).site = m.site) : SameAt s (w.modSm s f) (v.modSm s f) := by
  refine ⟨?_, ?_, h.conn⟩
  · rw [site_modSm v s hf, site_modSm w s hf, h.site]
  · rw [modSm_sm, modSm_sm, update_self, update_self, h.sm]

theorem SameAt.modConn (h : SameAt s w v) (c : Nat) {f : Connection → Connection}
    (hf : ∀ x, (f x).site = x.site) : SameAt s (w.modConn c f) (v.modConn c f) := by
  refine ⟨?_, h.sm, fun d hd => ?_⟩
  · rw [site_modConn v c hf, site_modConn w c hf, h.site]
  · have hhome : (w.conn d).socketManager = s := by
      rw [← hd, home_of_site (site_modConn w c hf)]
    by_cases hdc : d = c
    · subst hdc
      rw [modConn_conn, modConn_conn, update_self, update_self, h.conn d hhome]
    · rw [modConn_conn, modConn_conn, update_of_ne hdc, update_of_ne hdc,
        h.conn d hhome]

theorem SameAt.conn_of_mem (h : SameAt s w v) (hpl : Placed w)
    (hc : c ∈ (w.sm s).allConnections) : v.conn c = w.conn c :=
  h.conn c (hpl.home_of_mem s c hc)

theorem SameAt.numOpenDependents (h : SameAt s w v) (hpl : Placed w) :
    v.numOpenDependents s = w.numOpenDependents s := by
  unfold World.numOpenDependents
  rw [h.sm]
  refine congrArg _ (List.countP_congr fun c hc => ?_)
  rw [h.conn_of_mem hpl hc]

theorem SameAt.lastOpenConnection (h : SameAt s w v) (hpl : Placed w) :
    v.lastOpenConnection s = w.lastOpenConnection s := by
  unfold World.lastOpenConnection
  rw [h.sm, ← List.head?_filter, ← List.head?_filter]
  refine congrArg _ (List.filter_congr fun c hc => ?_)
  rw [h.conn_of_mem hpl hc]

theorem SameAt.protocol (h : SameAt s w v) : v.protocol = w.protocol := protocol_of_site h.site

theorem SameAt.terminate (h : SameAt s w v) (c : Nat) (r : CloseReason) :
    SameAt s (w.terminate c r) (v.terminate c r) :=
  h.modConn c fun _ => rfl

theorem SameAt.closedSocketCb (h : SameAt s w v) (hpl : Placed w) :
    SameAt s (w.closedSocketCb s) (v.closedSocketCb s) := by
  unfold World.closedSocketCb
  rw [h.lastOpenConnection hpl, h.sm]
  split
  · exact h.terminate _ _
  · exact h.modSm SocketManager.site_closeListener

theorem SameAt.socketManagerClose (h : SameAt s w v) (hpl : Placed w) (r : CloseReason) :
    SameAt s (w.socketManagerClose s r) (v.socketManagerClose s r) := by
  have hnote : SameAt s (w.noteRequest s r) (v.noteRequest s r) := h.modSm fun _ => rfl
  have hplaced : Placed (w.noteRequest s r) := hpl.of_site (site_modSm w s fun _ => rfl)
  rw [socketManagerClose_eq, socketManagerClose_eq, h.protocol]
  split
  · exact hnote.closedSocketCb hplaced
  · exact hnote.modSm fun m => SocketManager.site_uvClose m _
  · exact hnote.modSm fun m => SocketManager.site_uvClose m _

theorem SameAt.reportEnd (h : SameAt s w v) (hpl : Placed w)
    (hc : (w.conn c).socketManager = s) (r : CloseReason) :
    SameAt s (w.reportEnd c r) (v.reportEnd c r) := by
  have hhome : (v.conn c).socketManager = s := (home_of_site h.site c).trans hc
  unfold World.reportEnd
  rw [hhome, hc, h.numOpenDependents hpl]
  split
  · exact h.socketManagerClose hpl r
  · exact h.terminate c r

/-! What works at another socket changes nothing at `s`. -/

theorem sameAt_modSm (hu : s ≠ u) {f : SocketManager → SocketManager}
    (hf : ∀ m, (f m).site = m.site) : SameAt s w (w.modSm u f) := by
  refine ⟨site_modSm w u hf, ?_, fun _ _ => rfl⟩
  rw [modSm_sm, update_of_ne hu]

theorem sameAt_modConn (hc : (w.conn c).socketManager ≠ s) {f : Connection → Connection}
    (hf : ∀ x, (f x).site = x.site) : SameAt s w (w.modConn c f) := by
  refine ⟨site_modConn w c hf, rfl, fun d hd => ?_⟩
  have hdc : d ≠ c := fun heq => hc (heq ▸ hd)
  rw [modConn_conn, update_of_ne hdc]

theorem sameAt_terminate (hc : (w.conn c).socketManager ≠ s) (r : CloseReason) :
    SameAt s w (w.terminate c r) :=
  sameAt_modConn hc fun _ => rfl

theorem sameAt_closedSocketCb (hu : s ≠ u) (hpl : Placed w) : SameAt s w (w.closedSocketCb u) := by
  unfold World.closedSocketCb
  split
  · next hlast =>
    refine sameAt_terminate ?_ _
    rw [hpl.home_of_mem u _ (mem_of_lastOpenConnection hlast)]
    exact hu.symm
  · exact sameAt_modSm hu SocketManager.site_closeListener

theorem sameAt_socketManagerClose (hu : s ≠ u) (hpl : Placed w) (r : CloseReason) :
    SameAt s w (w.socketManagerClose u r) := by
  have hnote : SameAt s w (w.noteRequest u r) := sameAt_modSm hu fun _ => rfl
  rw [socketManagerClose_eq]
  split
  · exact hnote.trans (sameAt_closedSocketCb hu (hpl.of_site hnote.site))
  · exact hnote.trans (sameAt_modSm hu fun m => SocketManager.site_uvClose m _)
  · exact hnote.trans (sameAt_modSm hu fun m => SocketManager.site_uvClose m _)

theorem sameAt_reportEnd (hc : (w.conn c).socketManager ≠ s) (hpl : Placed w) (r : CloseReason) :
    SameAt s w (w.reportEnd c r) := by
  unfold World.reportEnd
  split
  · exact sameAt_socketManagerClose hc.symm hpl r
  · exact sameAt_terminate hc r

end Same

end CTaps.Connections.World
