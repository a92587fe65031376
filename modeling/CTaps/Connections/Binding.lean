import CTaps.Connections.Outline
import CTaps.Connections.Streams

/-! The streams of a QUIC group. A connection gets its stream from its first message, from the early
data it was started with, or from an event on a stream of the peer, and the stream gets the
connection as its context. The context of a stream is always the one connection that has it. -/

namespace CTaps.Connections

open Gathering (Protocol)

namespace Outline

structure Bound (o : Outline) : Prop where
  ctx : ∀ g sid c, o.streamCtx g sid = some c →
    c < o.numConns ∧ (o.conn c).group = g ∧ (o.conn c).stream = some sid
  stream : ∀ c < o.numConns, ∀ sid, (o.conn c).stream = some sid →
    o.streamCtx (o.conn c).group sid = some c
  group_lt : ∀ c < o.numConns, (o.conn c).group < o.numGroups

variable {o : Outline}

theorem Bound.inj (h : Bound o) {c d sid : Nat} (hc : c < o.numConns) (hd : d < o.numConns)
    (hg : (o.conn c).group = (o.conn d).group) (hcs : (o.conn c).stream = some sid)
    (hds : (o.conn d).stream = some sid) : c = d := by
  have hctx := h.stream c hc sid hcs
  rw [hg, h.stream d hd sid hds] at hctx
  exact (Option.some.inj hctx).symm

/-! ### Updates -/

theorem Bound.modConn (h : Bound o) (c : Nat) {f : Connection.Outline → Connection.Outline}
    (hf : ∀ x, (f x).group = x.group ∧ (f x).stream = x.stream) : Bound (o.modConn c f) := by
  have hconn : ∀ d, ((o.modConn c f).conn d).group = (o.conn d).group ∧
      ((o.modConn c f).conn d).stream = (o.conn d).stream := by
    intro d
    by_cases hd : d = c
    · subst hd
      simpa using hf _
    · simp [hd]
  constructor
  · intro g sid d hd
    rw [(hconn d).1, (hconn d).2]
    exact h.ctx g sid d hd
  · intro d hd sid hsid
    rw [(hconn d).2] at hsid
    rw [(hconn d).1]
    exact h.stream d hd sid hsid
  · intro d hd
    rw [(hconn d).1]
    exact h.group_lt d hd

theorem Bound.modCnx (h : Bound o) (g : Nat) {f : Cnx.Outline → Cnx.Outline}
    (hf : ∀ x, (f x).streamCtx = x.streamCtx) : Bound (o.modCnx g f) := by
  have hctx : ∀ k sid, (o.modCnx g f).streamCtx k sid = o.streamCtx k sid := by
    intro k sid
    unfold streamCtx
    by_cases hk : k = g
    · subst hk
      simp [hf]
    · simp [hk]
  constructor
  · intro k sid c hc
    exact h.ctx k sid c (hctx k sid ▸ hc)
  · intro c hc sid hsid
    rw [hctx]
    exact h.stream c hc sid hsid
  · exact h.group_lt

theorem Bound.ready (h : Bound o) (c : Nat) : Bound (o.ready c) :=
  h.modConn c fun _ => ⟨rfl, rfl⟩

theorem Bound.received (h : Bound o) (s c : Nat) : Bound (o.received s c) := by
  have hest := h.modConn c (f := Connection.Outline.received) fun _ => ⟨rfl, rfl⟩
  exact ⟨hest.ctx, hest.stream, hest.group_lt⟩

theorem Bound.withSocketManager (h : Bound o) (l : Option Listener.Outline) :
    Bound (o.addSocketManager l) :=
  ⟨h.ctx, h.stream, h.group_lt⟩

theorem Bound.withGroup (h : Bound o) (isClient ready : Bool) :
    Bound (o.addGroup ⟨isClient, ready, []⟩) := by
  have hctx : ∀ g, g ≠ o.numGroups → ∀ sid,
      (o.addGroup ⟨isClient, ready, []⟩).streamCtx g sid = o.streamCtx g sid := by
    intro g hg sid
    simp [streamCtx, hg]
  constructor
  · intro g sid c hc
    by_cases hg : g = o.numGroups
    · subst hg
      simp [streamCtx] at hc
    · exact h.ctx g sid c (hctx g hg sid ▸ hc)
  · intro c hc sid hsid
    exact (hctx _ (Nat.ne_of_lt (h.group_lt c hc)) sid).trans (h.stream c hc sid hsid)
  · intro c hc
    exact Nat.lt_succ_of_lt (h.group_lt c hc)

theorem Bound.withConnection (h : Bound o) {x : Connection.Outline} (hx : x.stream = none)
    (hg : x.group < o.numGroups) : Bound (o.addConnection x) := by
  constructor
  · intro g sid c hc
    obtain ⟨hlt, hrest⟩ := h.ctx g sid c hc
    rw [addConnection_conn_of_lt o x hlt]
    exact ⟨Nat.lt_succ_of_lt hlt, hrest⟩
  · intro c hc sid hsid
    rcases Nat.lt_succ_iff_lt_or_eq.mp hc with hlt | rfl
    · rw [addConnection_conn_of_lt o x hlt] at hsid ⊢
      exact h.stream c hlt sid hsid
    · rw [addConnection_conn_self, hx] at hsid
      cases hsid
  · exact forall_addConnection (P := fun y => y.group < o.numGroups) h.group_lt hg

theorem Bound.take (h : Bound o) {g sid c : Nat} (hc : c < o.numConns)
    (hg : (o.conn c).group = g) (hnone : (o.conn c).stream = none)
    (hfree : o.streamCtx g sid = none) : Bound (o.take g sid c) := by
  constructor
  · intro k r d hd
    by_cases hthis : k = g ∧ r = sid
    · obtain ⟨rfl, rfl⟩ := hthis
      rw [take_streamCtx_self] at hd
      obtain rfl := Option.some.inj hd
      rw [take_conn_self]
      exact ⟨hc, hg, rfl⟩
    · rw [take_streamCtx_of_ne o (by tauto)] at hd
      obtain ⟨hlt, hgroup, hstream⟩ := h.ctx k r d hd
      have hdc : d ≠ c := by
        rintro rfl
        rw [hnone] at hstream
        cases hstream
      rw [take_conn_of_ne o g sid hdc]
      exact ⟨hlt, hgroup, hstream⟩
  · intro d hd r hr
    rcases eq_or_ne d c with rfl | hdc
    · rw [take_conn_self] at hr ⊢
      obtain rfl := Option.some.inj hr
      exact hg ▸ take_streamCtx_self o g sid d
    · rw [take_conn_of_ne o g sid hdc] at hr ⊢
      have hold := h.stream d hd r hr
      rw [take_streamCtx_of_ne, hold]
      by_contra hthis
      obtain ⟨hk, hrs⟩ := not_or.mp hthis
      rw [not_not.mp hk, not_not.mp hrs, hfree] at hold
      cases hold
  · intro d hd
    rcases eq_or_ne d c with rfl | hdc
    · rw [take_conn_self]
      exact h.group_lt d hd
    · rw [take_conn_of_ne o g sid hdc]
      exact h.group_lt d hd

theorem Bound.bind (h : Bound o) {g sid c : Nat} (hc : c < o.numConns)
    (hg : (o.conn c).group = g) (hnone : (o.conn c).stream = none)
    (hfree : o.streamCtx g sid = none) : Bound (o.bind g sid c) := by
  refine (h.modConn c ?_).take hc ?_ ?_ hfree
  · exact fun _ => ⟨rfl, rfl⟩
  · simpa using hg
  · simpa using hnone

/-! ### Events -/

theorem addClient_early (o : Outline) (cbs : UserCallbacks) (sid : Nat) :
    o.addClient cbs (some sid) = (o.addClient cbs none).take o.numGroups sid o.numConns := by
  simp [Outline.addClient, Outline.take, Outline.modConn, Outline.modCnx, Outline.addConnection,
    Outline.addSocketManager, Outline.addGroup]

theorem Bound.client (h : Bound o) (cbs : UserCallbacks) (early : Option Nat) :
    Bound (o.addClient cbs early) := by
  have hnone : Bound (o.addClient cbs none) :=
    ((h.withGroup true false).withSocketManager none).withConnection rfl (Nat.lt_succ_self _)
  cases early with
  | none => exact hnone
  | some sid =>
    rw [addClient_early]
    refine hnone.take (Nat.lt_succ_self _) ?_ ?_ ?_
    · simp [Outline.addClient, fresh]
    · simp [Outline.addClient, fresh]
    · simp [Outline.addClient, streamCtx]

theorem Bound.newCnx (h : Bound o) (s : Nat) (l : Listener.Outline) : Bound (o.newCnx s l) :=
  (h.withGroup false false).withConnection rfl (Nat.lt_succ_self _)

theorem Bound.resolve (h : Bound o) {g first : Nat} (hlt : first < o.numConns)
    (hg : (o.conn first).group = g) (sid : Nat) :
    Bound (o.resolve g sid first).1 ∧
      (o.resolve g sid first).1.streamCtx g sid = some (o.resolve g sid first).2.1 := by
  unfold Outline.resolve
  cases hctx : o.streamCtx g sid with
  | some c => exact ⟨h, hctx⟩
  | none =>
    dsimp only
    have hself : ∀ (o : Outline) c, (o.bind g sid c).streamCtx g sid = some c :=
      fun _ c => take_streamCtx_self _ g sid c
    split
    · refine ⟨?_, hself _ _⟩
      have hnew := h.withConnection (x := cloneOf (o.conn first)) rfl (h.group_lt first hlt)
      refine hnew.bind (Nat.lt_succ_self _) ?_ ?_ hctx
      · simpa [cloneOf, fresh] using hg
      · simp [cloneOf, fresh]
    · next hnone =>
      exact ⟨h.bind hlt hg (by simpa using hnone) hctx, hself _ _⟩

theorem Bound.announce (h : Bound o) (isNew : Bool) (c : Nat) : Bound (o.announceIf isNew c) := by
  unfold announceIf
  split
  · exact h.ready c
  · exact h

theorem Bound.sent (h : Bound o) {c : Nat} (hc : c < o.numConns) (isFinal : Bool) {sid : Nat}
    (hfree : (o.conn c).stream = none → o.streamCtx (o.conn c).group sid = none) :
    Bound (o.send c isFinal sid) := by
  unfold send
  split
  · have hsend := h.modConn c (f := fun x => { x with canSend := !isFinal }) fun _ => ⟨rfl, rfl⟩
    dsimp only
    split
    · next hbind =>
      refine hsend.take hc rfl hbind.1 ?_
      have hnone : (o.conn c).stream = none := by simpa using hbind.1
      rw [modConn_conn, Function.update_self]
      exact hfree hnone
    · exact hsend
  · exact h

end Outline

namespace World

variable {w : World}

def NextStreamFree (w : World) : Event → Prop
  | .send c _ sid => (w.conn c).stream = none → w.streamCtx (w.conn c).group sid = none
  | _ => True

instance (w : World) (e : Event) : Decidable (w.NextStreamFree e) := by
  rcases e with ⟨⟩ <;> dsimp only [NextStreamFree] <;> infer_instance

theorem first_of_enabled {g first : Nat} (h : first ∈ w.members g) :
    first < w.outline.numConns ∧ (w.outline.conn first).group = g :=
  ⟨lt_of_mem_members h, group_of_mem_members h⟩

theorem bound_step (h : w.outline.Bound) (hp : w.protocol = .quic) {e : Event}
    (he : w.NextStreamFree e) : (w.step e).outline.Bound := by
  refine step_keeps (I := fun v => v.outline.Bound) h fun hen => ?_
  have hnext := outline_act hp hen
  generalize (w.act e).outline = o' at hnext
  cases hnext with
  | reports _ => exact h
  | initiate cbs early start _ => exact h.client cbs _
  | listen l cbs => exact h.withSocketManager _
  | closed c => exact h
  | close c => exact h.modConn c fun _ => ⟨rfl, rfl⟩
  | clone c =>
    refine (h.withConnection rfl ?_).ready _
    exact h.group_lt c (lt_of_held hen)
  | send c isFinal sid => exact h.sent (lt_of_held hen) isFinal he
  | raceWon _ => exact h.modConn _ fun _ => ⟨rfl, rfl⟩
  | refused s => exact h
  | newCnx hl => exact h.newCnx _ _
  | cnxReady g first =>
    have hready := h.modCnx g (f := fun x => { x with ready := true }) fun _ => rfl
    unfold Outline.cnxReady
    dsimp only
    split
    · exact hready.received _ first
    · exact hready.ready first
  | streamData g sid first hasData =>
    obtain ⟨hlt, hg⟩ := first_of_enabled (of_decide_eq_true hen).2
    have hresolve := (h.resolve hlt hg sid).1
    unfold Outline.streamData
    dsimp only
    split
    · exact hresolve
    · exact hresolve.announce _ _
  | streamFin g sid first hasData =>
    obtain ⟨hlt, hg⟩ := first_of_enabled (of_decide_eq_true hen).2
    have hresolve := (h.resolve hlt hg sid).1
    unfold Outline.streamFin
    dsimp only
    split
    · exact hresolve
    · refine Outline.Bound.announce (hresolve.modConn _ ?_) _ _
      exact fun _ => ⟨rfl, rfl⟩
  | stopSending g sid =>
    unfold Outline.stopSending
    split
    · exact h.modConn _ fun _ => ⟨rfl, rfl⟩
    · exact h

theorem bound_run {es : List Event} {w : World} (h : w.outline.Bound) (hp : w.protocol = .quic)
    (hes : Lib.AllSteps step NextStreamFree w es) : (Lib.run step w es).outline.Bound := by
  have hboth : (Lib.run step w es).outline.Bound ∧ (Lib.run step w es).protocol = .quic :=
    Lib.run_invariant (I := fun v => v.outline.Bound ∧ v.protocol = .quic)
      (fun v e hv he => ⟨bound_step hv.1 hv.2 he, (protocol_step v e).trans hv.2⟩) ⟨h, hp⟩ hes
  exact hboth.1

theorem bound_init (p : Protocol) : (World.outline { protocol := p }).Bound := by
  constructor
  · intro g sid c hc
    cases hc
  · exact fun c hc => absurd hc (Nat.not_lt_zero c)
  · exact fun c hc => absurd hc (Nat.not_lt_zero c)

end World

/-! ### Streams stay -/

namespace Outline

structure Extends (o o' : Outline) : Prop where
  conns : o.numConns ≤ o'.numConns
  group : ∀ c < o.numConns, (o'.conn c).group = (o.conn c).group
  stream : ∀ c < o.numConns, (o.conn c).stream.isSome = true → (o'.conn c).stream = (o.conn c).stream

variable {o o' : Outline}

theorem Extends.refl (o : Outline) : Extends o o := ⟨Nat.le_refl _, fun _ _ => rfl, fun _ _ _ => rfl⟩

theorem Extends.trans {m n : Outline} (h : Extends o m) (h' : Extends m n) : Extends o n := by
  refine ⟨h.conns.trans h'.conns, fun c hc => ?_, fun c hc hsome => ?_⟩
  · rw [h'.group c (Nat.lt_of_lt_of_le hc h.conns), h.group c hc]
  · have hold := h.stream c hc hsome
    rw [h'.stream c (Nat.lt_of_lt_of_le hc h.conns) (hold ▸ hsome), hold]

theorem extends_modConn (o : Outline) (c : Nat) {f : Connection.Outline → Connection.Outline}
    (hf : ∀ x, (f x).group = x.group ∧ (f x).stream = x.stream) : Extends o (o.modConn c f) := by
  have hconn : ∀ d, ((o.modConn c f).conn d).group = (o.conn d).group ∧
      ((o.modConn c f).conn d).stream = (o.conn d).stream := by
    intro d
    by_cases hd : d = c
    · subst hd
      simpa using hf _
    · simp [hd]
  exact ⟨Nat.le_refl _, fun d _ => (hconn d).1, fun d _ _ => (hconn d).2⟩

theorem extends_take {c : Nat} (hc : (o.conn c).stream = none) (g sid : Nat) :
    Extends o (o.take g sid c) := by
  refine ⟨Nat.le_refl _, fun d _ => ?_, fun d _ hsome => ?_⟩
  · rcases eq_or_ne d c with rfl | hd
    · rw [take_conn_self]
    · rw [take_conn_of_ne o g sid hd]
  · have hd : d ≠ c := by
      rintro rfl
      rw [hc] at hsome
      cases hsome
    rw [take_conn_of_ne o g sid hd]

theorem extends_addConnection (o : Outline) (x : Connection.Outline) :
    Extends o (o.addConnection x) := by
  refine ⟨Nat.le_succ _, fun d hd => ?_, fun d hd _ => ?_⟩
  · rw [addConnection_conn_of_lt o x hd]
  · rw [addConnection_conn_of_lt o x hd]

theorem extends_bind {c : Nat} (hc : (o.conn c).stream = none) (g sid : Nat) :
    Extends o (o.bind g sid c) := by
  refine (extends_modConn o c ?_).trans (extends_take ?_ g sid)
  · exact fun _ => ⟨rfl, rfl⟩
  · simpa using hc

theorem extends_resolve (o : Outline) (g sid first : Nat) :
    Extends o (o.resolve g sid first).1 := by
  unfold resolve
  split
  · exact Extends.refl o
  · split
    · exact (extends_addConnection o _).trans (extends_bind (by simp [cloneOf, fresh]) g sid)
    · next hnone => exact extends_bind (by simpa using hnone) g sid

theorem extends_ready (o : Outline) (c : Nat) : Extends o (o.ready c) :=
  extends_modConn o c fun _ => ⟨rfl, rfl⟩

theorem extends_announceIf (o : Outline) (isNew : Bool) (c : Nat) :
    Extends o (o.announceIf isNew c) := by
  unfold announceIf
  split
  · exact extends_ready o c
  · exact Extends.refl o

theorem extends_received (o : Outline) (s c : Nat) : Extends o (o.received s c) := by
  have hest := extends_modConn o c (f := Connection.Outline.received) fun _ => ⟨rfl, rfl⟩
  exact ⟨hest.conns, hest.group, hest.stream⟩

theorem extends_same (hn : o'.numConns = o.numConns) (hc : o'.conn = o.conn) : Extends o o' := by
  refine ⟨Nat.le_of_eq hn.symm, fun c _ => ?_, fun c _ _ => ?_⟩
  · rw [hc]
  · rw [hc]

theorem Next.extends {e : Event} (h : Next o e o') : Extends o o' := by
  cases h with
  | reports _ => exact Extends.refl o
  | initiate cbs early start _ =>
    refine Extends.trans (m := (o.addGroup _).addSocketManager none) ?_ (extends_addConnection _ _)
    exact extends_same rfl rfl
  | listen l cbs => exact extends_same rfl rfl
  | closed c => exact Extends.refl o
  | close c => exact extends_modConn o c fun _ => ⟨rfl, rfl⟩
  | clone c => exact (extends_addConnection o _).trans (extends_ready _ _)
  | send c isFinal sid =>
    unfold Outline.send
    split
    · dsimp only
      have hsend := extends_modConn o c (f := fun x => { x with canSend := !isFinal })
        fun _ => ⟨rfl, rfl⟩
      split
      · next hbind => exact hsend.trans (extends_take hbind.1 _ sid)
      · exact hsend
    · exact Extends.refl o
  | raceWon _ => exact extends_modConn o _ fun _ => ⟨rfl, rfl⟩
  | refused s => exact Extends.refl o
  | newCnx _ =>
    refine Extends.trans (m := o.addGroup _) ?_ (extends_addConnection _ _)
    exact extends_same rfl rfl
  | cnxReady g first =>
    have hready : Extends o (o.modCnx g fun x => { x with ready := true }) := extends_same rfl rfl
    unfold Outline.cnxReady
    dsimp only
    split
    · exact hready.trans (extends_received _ _ first)
    · exact hready.trans (extends_ready _ first)
  | streamData g sid first hasData =>
    have hresolve := extends_resolve o g sid first
    unfold Outline.streamData
    dsimp only
    split
    · exact hresolve
    · exact hresolve.trans (extends_announceIf _ _ _)
  | streamFin g sid first hasData =>
    have hresolve := extends_resolve o g sid first
    unfold Outline.streamFin
    dsimp only
    split
    · exact hresolve
    · refine hresolve.trans (Extends.trans (extends_modConn _ _ ?_) (extends_announceIf _ _ _))
      exact fun _ => ⟨rfl, rfl⟩
  | stopSending g sid =>
    unfold Outline.stopSending
    split
    · exact extends_modConn o _ fun _ => ⟨rfl, rfl⟩
    · exact Extends.refl o

end Outline

namespace World

variable {w : World}

theorem extends_step (hp : w.protocol = .quic) (e : Event) : w.outline.Extends (w.step e).outline :=
  step_keeps (I := fun v => w.outline.Extends v.outline) (Outline.Extends.refl _)
    fun hen => (outline_act hp hen).extends

theorem extends_run (hp : w.protocol = .quic) (fs : List Event) :
    w.outline.Extends (Lib.run step w fs).outline := by
  have hboth : w.outline.Extends (Lib.run step w fs).outline ∧
      (Lib.run step w fs).protocol = .quic :=
    Lib.run_invariant_of_step (I := fun v => w.outline.Extends v.outline ∧ v.protocol = .quic)
      (fun v e hv => ⟨hv.1.trans (extends_step hv.2 e), (protocol_step v e).trans hv.2⟩)
      ⟨Outline.Extends.refl _, hp⟩ fs
  exact hboth.1

/-! ### The connection of an event -/

structure HandledOn (w w' : World) (g sid c : Nat) : Prop where
  member : c ∈ w'.members g
  stream : (w'.conn c).stream = some sid
  unique : ∀ d ∈ w'.members g, (w'.conn d).stream = some sid → d = c
  before : ∀ d ∈ w.members g, (w.conn d).stream = some sid → d = c
  others : ∀ d < w.numConns, d ≠ c → w'.conn d = w.conn d

theorem members_of_site {w' : World} (h : w'.site = w.site) (g : Nat) : w'.members g = w.members g := by
  have hn : w'.numConns = w.numConns := congrArg Site.numConns h
  have hconn : ∀ c, (w'.conn c).site = (w.conn c).site := congrFun (congrArg Site.conn h)
  simp only [Connection.site, Prod.mk.injEq] at hconn
  unfold members
  rw [hn]
  refine List.filter_congr fun c _ => ?_
  rw [(hconn c).2.1, (hconn c).2.2]

theorem mem_members {c g : Nat} :
    c ∈ w.members g ↔ c < w.numConns ∧ (w.conn c).freed = false ∧ (w.conn c).group = g := by
  unfold members
  rw [List.mem_filter, List.mem_range, decide_eq_true_eq]

theorem resolve_mem_members (hb : w.outline.Bound) {g sid first : Nat} (hr : w.reports g sid)
    (hfirst : first ∈ w.members g) :
    (w.resolveOrCreateStreamConnection g sid first).2.1 ∈
      (w.resolveOrCreateStreamConnection g sid first).1.members g := by
  obtain ⟨c, hctx, heq⟩ | ⟨-, -, heq⟩ | ⟨-, -, heq⟩ := w.resolveOrCreate_cases g sid first
  · rw [heq]
    have hlive := hr.2.2 c hctx
    simp only [live, decide_eq_true_eq] at hlive
    exact mem_members.mpr ⟨hlive.1, hlive.2, (hb.ctx g sid c hctx).2.1⟩
  · rw [heq]
    dsimp only
    rw [members_of_site (site_bindStream _ _ _ _), mem_members]
    refine ⟨Nat.lt_succ_self _, ?_, ?_⟩
    · simp [Connection.cloneOf]
    · simpa [Connection.cloneOf] using group_of_mem_members hfirst
  · rw [heq]
    dsimp only
    rw [members_of_site (site_bindStream _ _ _ _)]
    exact hfirst

theorem resolve_conn_of_ne (w : World) (g sid first : Nat) {d : Nat} (hd : d < w.numConns)
    (hne : d ≠ (w.resolveOrCreateStreamConnection g sid first).2.1) :
    (w.resolveOrCreateStreamConnection g sid first).1.conn d = w.conn d := by
  obtain ⟨c, -, heq⟩ | ⟨-, -, heq⟩ | ⟨-, -, heq⟩ := w.resolveOrCreate_cases g sid first
  · rw [heq]
  · rw [heq] at hne ⊢
    simp [bindStream, Nat.ne_of_lt hd]
  · rw [heq] at hne ⊢
    simp [bindStream, hne]

theorem announceIf_conn_of_ne (w : World) (isNew : Bool) {c d : Nat} (hd : d ≠ c) :
    (w.announceIf isNew c).conn d = w.conn d := by
  unfold announceIf
  split
  · simp [connectionReadyCb, hd]
  · rfl

theorem handleStreamFin_conn_of_ne (hp : w.protocol ≠ .tcp) {c d : Nat} (hd : d ≠ c) :
    (w.handleStreamFin c).conn d = w.conn d := by
  have hreceive : (w.modConn c fun x => { x with canReceive := false }).conn d = w.conn d := by
    simp [hd]
  unfold handleStreamFin
  dsimp only
  split
  · split
    · exact hreceive
    · exact (reportEnd_conn_of_ne (w := w.modConn c _) hp hd _).trans hreceive
  · exact hreceive

theorem resolve_stream (hb : w.outline.Bound) {g first : Nat} (hfirst : first ∈ w.members g)
    (sid : Nat) : ((w.resolveOrCreateStreamConnection g sid first).1.conn
      (w.resolveOrCreateStreamConnection g sid first).2.1).stream = some sid := by
  obtain ⟨hworld, hconn⟩ := w.outline_resolve g sid first
  obtain ⟨hlt, hg⟩ := first_of_enabled hfirst
  obtain ⟨hbound, hctx⟩ := hb.resolve hlt hg sid
  rw [← hworld] at hbound hctx
  rw [← hconn] at hctx
  exact (hbound.ctx g sid _ hctx).2.2

theorem handledOn_of (hb : w.outline.Bound) {w' : World} {g sid first : Nat}
    (hr : w.reports g sid) (hfirst : first ∈ w.members g) (hb' : w'.outline.Bound)
    (hsite : w'.site = (w.resolveOrCreateStreamConnection g sid first).1.site)
    (hext : (w.resolveOrCreateStreamConnection g sid first).1.outline.Extends w'.outline)
    (hothers : ∀ d, d ≠ (w.resolveOrCreateStreamConnection g sid first).2.1 →
      w'.conn d = (w.resolveOrCreateStreamConnection g sid first).1.conn d) :
    HandledOn w w' g sid (w.resolveOrCreateStreamConnection g sid first).2.1 := by
  have hthere := resolve_mem_members hb hr hfirst
  have hbefore := resolve_stream hb hfirst sid
  have hmember : (w.resolveOrCreateStreamConnection g sid first).2.1 ∈ w'.members g := by
    rwa [members_of_site hsite]
  have hstream : (w'.conn (w.resolveOrCreateStreamConnection g sid first).2.1).stream = some sid := by
    have hkept := hext.stream _ (lt_of_mem_members hthere) (Option.isSome_of_eq_some hbefore)
    exact hkept.trans hbefore
  refine ⟨hmember, hstream, fun d hd hsid => ?_, fun d hd hsid => ?_, fun d hd hne => ?_⟩
  · refine hb'.inj (lt_of_mem_members hd) (lt_of_mem_members hmember) ?_ hsid hstream
    exact (group_of_mem_members hd).trans (group_of_mem_members hmember).symm
  · have hctx := hb.stream d (lt_of_mem_members hd) sid hsid
    rw [show (w.outline.conn d).group = g from group_of_mem_members hd] at hctx
    have hsome : w.streamCtx g sid = some d := hctx
    simp only [resolveOrCreateStreamConnection, hsome]
  · exact (hothers d hne).trans (w.resolve_conn_of_ne g sid first hd hne)

theorem handledOn_streamData (hb : w.outline.Bound) (hp : w.protocol = .quic) {g sid first : Nat}
    {hasData : Bool} (hen : w.enabled (.streamData g sid first hasData) = true) :
    HandledOn w (w.step (.streamData g sid first hasData)) g sid
      (w.resolveOrCreateStreamConnection g sid first).2.1 := by
  obtain ⟨hr, hfirst⟩ := of_decide_eq_true hen
  have hb' := bound_step hb hp (e := .streamData g sid first hasData) trivial
  rw [show w.step (.streamData g sid first hasData) = w.streamData g sid first hasData from
    if_pos hen] at hb' ⊢
  refine handledOn_of hb hr hfirst hb' ?_ ?_ ?_
  · unfold streamData
    dsimp only
    split <;> simp
  · unfold streamData
    dsimp only
    split
    · exact Outline.Extends.refl _
    · rw [outline_announceIf]
      exact Outline.extends_announceIf _ _ _
  · intro d hd
    unfold streamData
    dsimp only
    split
    · rfl
    · exact announceIf_conn_of_ne _ _ hd

theorem handledOn_streamFin (hb : w.outline.Bound) (hp : w.protocol = .quic) {g sid first : Nat}
    {hasData : Bool} (hen : w.enabled (.streamFin g sid first hasData) = true) :
    HandledOn w (w.step (.streamFin g sid first hasData)) g sid
      (w.resolveOrCreateStreamConnection g sid first).2.1 := by
  obtain ⟨hr, hfirst⟩ := of_decide_eq_true hen
  have hb' := bound_step hb hp (e := .streamFin g sid first hasData) trivial
  rw [show w.step (.streamFin g sid first hasData) = w.streamFin g sid first hasData from
    if_pos hen] at hb' ⊢
  have hproto : (w.resolveOrCreateStreamConnection g sid first).1.protocol ≠ .tcp := by
    obtain ⟨c, -, heq⟩ | ⟨-, -, heq⟩ | ⟨-, -, heq⟩ := w.resolveOrCreate_cases g sid first
    · rw [heq, hp]
      exact Protocol.noConfusion
    · rw [heq]
      exact fun ht => Protocol.noConfusion (hp.symm.trans ht)
    · rw [heq]
      exact fun ht => Protocol.noConfusion (hp.symm.trans ht)
  refine handledOn_of hb hr hfirst hb' ?_ ?_ ?_
  · unfold streamFin
    dsimp only
    split <;> simp
  · unfold streamFin
    dsimp only
    split
    · exact Outline.Extends.refl _
    · rw [outline_announceIf, outline_handleStreamFin]
      refine (Outline.extends_modConn _ _ ?_).trans (Outline.extends_announceIf _ _ _)
      exact fun _ => ⟨rfl, rfl⟩
  · intro d hd
    unfold streamFin
    dsimp only
    split
    · rfl
    · rw [announceIf_conn_of_ne _ _ hd, handleStreamFin_conn_of_ne hproto hd]

/-- As long as picoquic hands out no stream twice, no two members of a group have the same stream, a
connection keeps its stream, and data and FIN on a stream are handled on the one member that has it.
-/
theorem quic_stream_binding (es : List Event)
    (hes : Lib.AllSteps step NextStreamFree { protocol := .quic } es) :
    (∀ g, ∀ c ∈ (run .quic es).members g, ∀ d ∈ (run .quic es).members g, ∀ sid,
      ((run .quic es).conn c).stream = some sid → ((run .quic es).conn d).stream = some sid →
        c = d) ∧
    (∀ g, ∀ c ∈ (run .quic es).members g, ∀ sid, ((run .quic es).conn c).stream = some sid → ∀ fs,
      ((Lib.run step (run .quic es) fs).conn c).stream = some sid) ∧
    (∀ g sid first hasData,
      ((run .quic es).enabled (.streamData g sid first hasData) = true →
        HandledOn (run .quic es) ((run .quic es).step (.streamData g sid first hasData)) g sid
          ((run .quic es).resolveOrCreateStreamConnection g sid first).2.1) ∧
      ((run .quic es).enabled (.streamFin g sid first hasData) = true →
        HandledOn (run .quic es) ((run .quic es).step (.streamFin g sid first hasData)) g sid
          ((run .quic es).resolveOrCreateStreamConnection g sid first).2.1)) := by
  have hp : (run .quic es).protocol = .quic := protocol_run .quic es
  have hb : (run .quic es).outline.Bound := bound_run (bound_init .quic) rfl hes
  refine ⟨fun g c hc d hd sid hcs hds => ?_, fun g c hc sid hcs fs => ?_,
    fun g sid first hasData => ⟨handledOn_streamData hb hp, handledOn_streamFin hb hp⟩⟩
  · refine hb.inj (lt_of_mem_members hc) (lt_of_mem_members hd) ?_ hcs hds
    exact (group_of_mem_members hc).trans (group_of_mem_members hd).symm
  · have hkept := (extends_run hp fs).stream c (lt_of_mem_members hc) (Option.isSome_of_eq_some hcs)
    exact hkept.trans hcs

theorem quic_stream_binding_four :
    ((run .quic [.initiate {} (some 0) .begun, .cnxReady 0 0, .raceWon 0, .send 0 false 0, .clone 0,
      .send 1 false 4, .streamData 0 1 0 true]).step (.streamFin 0 5 1 false)).conn 1 =
      (run .quic [.initiate {} (some 0) .begun, .cnxReady 0 0, .raceWon 0, .send 0 false 0, .clone 0,
        .send 1 false 4, .streamData 0 1 0 true]).conn 1 :=
  (((quic_stream_binding [.initiate {} (some 0) .begun, .cnxReady 0 0, .raceWon 0, .send 0 false 0,
    .clone 0, .send 1 false 4, .streamData 0 1 0 true] (by decide)).2.2 0 5 1 false).2
      (by decide)).others 1 (by decide) (by decide)

end World

end CTaps.Connections
