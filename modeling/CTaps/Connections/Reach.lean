import CTaps.Connections.Handles
import CTaps.Connections.Lifetime

/-! Which connections data can still be handed to. A closed connection should be out of reach, but
only TCP sees to that. A UDP connection that is not the last open dependent is closed with the
socket still open, and a QUIC connection that is aborted beside others with its stream still open in
the other direction. -/

namespace CTaps.Connections

open Function
open Gathering (Protocol)

def Handle.reads (p : Protocol) (x : Handle) : Bool :=
  x = .open ∨ (p = .quic ∧ x = .closing .socketTimerClose)

def Connection.port (x : Connection) : Nat × Nat × Option Nat :=
  (x.socketManager, x.group, x.stream)

namespace World

def readable (w : World) (s : Nat) : Bool := (w.sm s).handle.reads w.protocol

def Deaf (w : World) (dry : Nat → Bool) (arriving : Option Nat) (c : Nat) : Prop :=
  (w.readable (w.conn c).socketManager = false ∧ arriving ≠ some c) ∨
    (w.protocol = .quic ∧ ((w.cnx (w.conn c).group).closed = true ∨
      ((w.conn c).stream.isSome = true ∧ dry c = true)))
deriving Decidable

structure Quiet (P : Nat → Prop) (dry : Nat → Bool) (arriving : Option Nat) (w : World) : Prop where
  deaf : ∀ c, P c ∨ (w.conn c).state = .closed → c < w.numConns ∧ w.Deaf dry arriving c
  ctx : ∀ g sid c, w.streamCtx g sid = some c →
    c < w.numConns ∧ (w.conn c).group = g ∧ (w.conn c).stream.isSome = true
  demux : ∀ s addr c, (w.sm s).demuxTable.lookup addr = some c →
    c < w.numConns ∧ (w.conn c).socketManager = s

variable {P : Nat → Prop} {dry : Nat → Bool} {arriving : Option Nat} {w w' : World}

/-! ### Updates -/

theorem Deaf.mono {c : Nat} (h : w.Deaf dry arriving c) (hp : w'.protocol = w.protocol)
    (hsm : (w'.conn c).socketManager = (w.conn c).socketManager)
    (hg : (w'.conn c).group = (w.conn c).group)
    (hst : (w.conn c).stream.isSome = true → (w'.conn c).stream.isSome = true)
    (hread : w.readable (w.conn c).socketManager = false →
      w'.readable (w.conn c).socketManager = false)
    (hcnx : (w.cnx (w.conn c).group).closed = true → (w'.cnx (w.conn c).group).closed = true) :
    w'.Deaf dry arriving c := by
  unfold Deaf
  rw [hsm, hg, hp]
  rcases h with ⟨hshut, hout⟩ | ⟨hquic, hend | ⟨hstream, hdry⟩⟩
  · exact Or.inl ⟨hread hshut, hout⟩
  · exact Or.inr ⟨hquic, Or.inl (hcnx hend)⟩
  · exact Or.inr ⟨hquic, Or.inr ⟨hst hstream, hdry⟩⟩

theorem Quiet.keep (h : Quiet P dry arriving w) (hp : w'.protocol = w.protocol)
    (hn : w.numConns ≤ w'.numConns)
    (hconn : ∀ c < w.numConns, (w'.conn c).socketManager = (w.conn c).socketManager ∧
      (w'.conn c).group = (w.conn c).group ∧
      ((w.conn c).stream.isSome = true → (w'.conn c).stream.isSome = true))
    (hread : ∀ c < w.numConns, w.readable (w.conn c).socketManager = false →
      w'.readable (w.conn c).socketManager = false)
    (hcnx : ∀ c < w.numConns, (w.cnx (w.conn c).group).closed = true →
      (w'.cnx (w.conn c).group).closed = true)
    (hclosed : ∀ c, (w'.conn c).state = .closed →
      P c ∨ (w.conn c).state = .closed ∨ (c < w'.numConns ∧ w'.Deaf dry arriving c))
    (hctx : ∀ g sid c, w'.streamCtx g sid = some c → w.streamCtx g sid = some c ∨
      (c < w'.numConns ∧ (w'.conn c).group = g ∧ (w'.conn c).stream.isSome = true))
    (hdemux : ∀ s addr c, (w'.sm s).demuxTable.lookup addr = some c →
      (w.sm s).demuxTable.lookup addr = some c ∨
        (c < w'.numConns ∧ (w'.conn c).socketManager = s)) :
    Quiet P dry arriving w' := by
  have hold : ∀ c, P c ∨ (w.conn c).state = .closed →
      c < w'.numConns ∧ w'.Deaf dry arriving c := by
    intro c hc
    obtain ⟨hlt, hdeaf⟩ := h.deaf c hc
    obtain ⟨hsm, hg, hst⟩ := hconn c hlt
    exact ⟨Nat.lt_of_lt_of_le hlt hn, hdeaf.mono hp hsm hg hst (hread c hlt) (hcnx c hlt)⟩
  constructor
  · rintro c (hc | hc)
    · exact hold c (Or.inl hc)
    · rcases hclosed c hc with hP | hwas | hnew
      · exact hold c (Or.inl hP)
      · exact hold c (Or.inr hwas)
      · exact hnew
  · intro g sid c hc
    rcases hctx g sid c hc with hwas | hnew
    · obtain ⟨hlt, hg, hst⟩ := h.ctx g sid c hwas
      obtain ⟨-, hg', hst'⟩ := hconn c hlt
      exact ⟨Nat.lt_of_lt_of_le hlt hn, hg'.trans hg, hst' hst⟩
    · exact hnew
  · intro s addr c hc
    rcases hdemux s addr c hc with hwas | hnew
    · obtain ⟨hlt, hsm⟩ := h.demux s addr c hwas
      exact ⟨Nat.lt_of_lt_of_le hlt hn, (hconn c hlt).1.trans hsm⟩
    · exact hnew

theorem Quiet.vary (h : Quiet P dry arriving w) {dry' : Nat → Bool} {arriving' : Option Nat}
    (hdry : ∀ c, dry c = true → dry' c = true)
    (ha : ∀ c, P c ∨ (w.conn c).state = .closed → arriving ≠ some c → arriving' ≠ some c) :
    Quiet P dry' arriving' w := by
  refine ⟨fun c hc => ?_, h.ctx, h.demux⟩
  obtain ⟨hlt, hdeaf⟩ := h.deaf c hc
  refine ⟨hlt, ?_⟩
  rcases hdeaf with ⟨hshut, hout⟩ | ⟨hquic, hend | ⟨hstream, hd⟩⟩
  · exact Or.inl ⟨hshut, ha c hc hout⟩
  · exact Or.inr ⟨hquic, Or.inl hend⟩
  · exact Or.inr ⟨hquic, Or.inr ⟨hstream, hdry c hd⟩⟩

theorem Quiet.modConn (h : Quiet P dry arriving w) {c : Nat} {f : Connection → Connection}
    (hf : ∀ x, (f x).port = x.port)
    (hclosed : (f (w.conn c)).state = .closed →
      P c ∨ (w.conn c).state = .closed ∨ (c < w.numConns ∧ w.Deaf dry arriving c)) :
    Quiet P dry arriving (w.modConn c f) := by
  have hport : ∀ d, ((w.modConn c f).conn d).socketManager = (w.conn d).socketManager ∧
      ((w.modConn c f).conn d).group = (w.conn d).group ∧
      ((w.conn d).stream.isSome = true → ((w.modConn c f).conn d).stream.isSome = true) := by
    intro d
    by_cases hd : d = c
    · subst hd
      have he := hf (w.conn d)
      simp only [Connection.port, Prod.mk.injEq] at he
      rw [modConn_conn, update_self]
      exact ⟨he.1, he.2.1, fun hs => he.2.2 ▸ hs⟩
    · rw [modConn_conn, update_of_ne hd]
      exact ⟨rfl, rfl, id⟩
  refine h.keep rfl (Nat.le_refl _) (fun d _ => hport d) (fun _ _ hs => hs) (fun _ _ hs => hs)
    (fun d hd => ?_) (fun _ _ _ hs => Or.inl hs) (fun _ _ _ hs => Or.inl hs)
  by_cases hdc : d = c
  · subst hdc
    rw [modConn_conn, update_self] at hd
    rcases hclosed hd with hP | hwas | ⟨hlt, hdeaf⟩
    · exact Or.inl hP
    · exact Or.inr (Or.inl hwas)
    · have he := hport d
      exact Or.inr (Or.inr ⟨hlt, hdeaf.mono rfl he.1 he.2.1 he.2.2 id id⟩)
  · rw [modConn_conn, update_of_ne hdc] at hd
    exact Or.inr (Or.inl hd)

theorem Quiet.silent (h : Quiet P dry arriving w) (c : Nat) {f : Connection → Connection}
    (hf : ∀ x, (f x).port = x.port) (hs : ∀ x, (f x).state = .closed → x.state = .closed) :
    Quiet P dry arriving (w.modConn c f) :=
  h.modConn hf fun hc => Or.inr (Or.inl (hs _ hc))

theorem Quiet.terminate (h : Quiet P dry arriving w) {c : Nat} (hc : c < w.numConns)
    (hdeaf : w.Deaf dry arriving c) (r : CloseReason) : Quiet P dry arriving (w.terminate c r) :=
  h.modConn (fun _ => rfl) fun _ => Or.inr (Or.inr ⟨hc, hdeaf⟩)

theorem Quiet.modSm (h : Quiet P dry arriving w) (s : Nat) {f : SocketManager → SocketManager}
    (hread : (w.sm s).handle.reads w.protocol = false →
      (f (w.sm s)).handle.reads w.protocol = false)
    (hdemux : (f (w.sm s)).demuxTable = (w.sm s).demuxTable) :
    Quiet P dry arriving (w.modSm s f) := by
  refine h.keep rfl (Nat.le_refl _) (fun _ _ => ⟨rfl, rfl, id⟩) (fun c _ hc => ?_)
    (fun _ _ hs => hs) (fun _ hc => Or.inr (Or.inl hc)) (fun _ _ _ hs => Or.inl hs)
    (fun t addr c hc => Or.inl ?_)
  · unfold readable at hc ⊢
    rw [modSm_sm]
    by_cases hcs : (w.conn c).socketManager = s
    · rw [hcs] at hc ⊢
      rw [update_self]
      exact hread hc
    · rw [update_of_ne hcs]
      exact hc
  · by_cases hts : t = s
    · subst hts
      rw [modSm_sm, update_self, hdemux] at hc
      exact hc
    · rw [modSm_sm, update_of_ne hts] at hc
      exact hc

theorem reads_uvClose (m : SocketManager) (p : Protocol) (cb : CloseCb)
    (h : m.handle.reads p = false) : (m.uvClose cb).handle.reads p = false := by
  unfold SocketManager.uvClose
  split
  · exact h
  · next ho =>
    rw [ho] at h
    exact absurd h (by simp [Handle.reads])
  · exact h

theorem Quiet.uvClose (h : Quiet P dry arriving w) (s : Nat) (cb : CloseCb) :
    Quiet P dry arriving (w.modSm s (SocketManager.uvClose cb)) := by
  refine h.modSm s (reads_uvClose _ _ cb) ?_
  unfold SocketManager.uvClose
  split <;> rfl

theorem Quiet.modCnx (h : Quiet P dry arriving w) (g : Nat) {f : Cnx → Cnx}
    (hclosed : (w.cnx g).closed = true → (f (w.cnx g)).closed = true)
    (hctx : (f (w.cnx g)).streamCtx = (w.cnx g).streamCtx) : Quiet P dry arriving (w.modCnx g f) := by
  refine h.keep rfl (Nat.le_refl _) (fun _ _ => ⟨rfl, rfl, id⟩) (fun _ _ hs => hs)
    (fun c _ hc => ?_) (fun _ hc => Or.inr (Or.inl hc)) (fun k sid c hc => Or.inl ?_)
    (fun _ _ _ hs => Or.inl hs)
  · rw [modCnx_cnx]
    by_cases hcg : (w.conn c).group = g
    · rw [hcg] at hc ⊢
      rw [update_self]
      exact hclosed hc
    · rw [update_of_ne hcg]
      exact hc
  · unfold streamCtx at hc ⊢
    by_cases hkg : k = g
    · subst hkg
      rw [modCnx_cnx, update_self, hctx] at hc
      exact hc
    · rw [modCnx_cnx, update_of_ne hkg] at hc
      exact hc

theorem Quiet.takeStream (h : Quiet P dry arriving w) {g sid c : Nat} (hlt : c < w.numConns)
    (hg : (w.conn c).group = g) {f : Connection → Connection}
    (hsm : ∀ x, (f x).socketManager = x.socketManager) (hgroup : ∀ x, (f x).group = x.group)
    (hstream : ∀ x, (f x).stream.isSome = true) (hstate : ∀ x, (f x).state = x.state) :
    Quiet P dry arriving ((w.modConn c f).modCnx g fun x =>
      { x with streamCtx := (sid, c) :: x.streamCtx }) := by
  set w' := (w.modConn c f).modCnx g fun x => { x with streamCtx := (sid, c) :: x.streamCtx }
  have hself : w'.conn c = f (w.conn c) := by simp [w']
  have hother : ∀ d, d ≠ c → w'.conn d = w.conn d := fun d hd => by simp [w', hd]
  have hclosed : ∀ k, (w'.cnx k).closed = (w.cnx k).closed := Lib.update_keeps Cnx.closed rfl
  refine h.keep rfl (Nat.le_refl _) (fun d _ => ?_) (fun _ _ hs => hs)
    (fun d _ hd => (hclosed _).trans hd) (fun d hd => Or.inr (Or.inl ?_)) (fun k i d hd => ?_)
    (fun _ _ _ hs => Or.inl hs)
  · by_cases hd : d = c
    · subst hd
      rw [hself]
      exact ⟨hsm _, hgroup _, fun _ => hstream _⟩
    · rw [hother d hd]
      exact ⟨rfl, rfl, id⟩
  · by_cases hdc : d = c
    · subst hdc
      rw [hself, hstate] at hd
      exact hd
    · rw [hother d hdc] at hd
      exact hd
  -- a stream found in the table is the new one, or it was there before
  · by_cases hk : k = g
    · subst hk
      have hlook : ((sid, c) :: (w.cnx k).streamCtx).lookup i = some d := by
        simpa [w', streamCtx] using hd
      by_cases hi : i = sid
      · subst hi
        rw [List.lookup_cons_self] at hlook
        obtain rfl := Option.some.inj hlook
        refine Or.inr ⟨hlt, ?_, ?_⟩
        · rw [hself, hgroup]
          exact hg
        · rw [hself]
          exact hstream _
      · rw [List.lookup_cons, beq_false_of_ne hi] at hlook
        exact Or.inl hlook
    · refine Or.inl ?_
      simpa [w', streamCtx, hk] using hd

/-! ### New connections -/

theorem Quiet.withConnection (h : Quiet P dry arriving w) {x : Connection}
    (hx : x.state ≠ .closed) : Quiet P dry arriving (w.addConnection x) := by
  refine h.keep rfl (Nat.le_succ _) (fun c hc => ?_) (fun c _ hc => ?_) (fun _ _ hs => hs)
    (fun c hc => Or.inr (Or.inl ?_)) (fun _ _ _ hs => Or.inl hs) (fun s addr c hc => Or.inl ?_)
  · rw [w.conn_addConnection_of_lt x hc]
    exact ⟨rfl, rfl, id⟩
  · unfold readable at hc ⊢
    rw [w.sm_addConnection x _ SocketManager.handle fun _ _ => rfl]
    exact hc
  · by_cases hcn : c = w.numConns
    · subst hcn
      rw [addConnection_conn, update_self] at hc
      exact absurd hc hx
    · rw [addConnection_conn, update_of_ne hcn] at hc
      exact hc
  · rw [w.sm_addConnection x s SocketManager.demuxTable fun _ _ => rfl] at hc
    exact hc

theorem Quiet.withSocketManager (h : Quiet P dry arriving w) (hpl : Placed w) {m : SocketManager}
    (hm : m.demuxTable = []) : Quiet P dry arriving (w.addSocketManager m) := by
  refine h.keep rfl (Nat.le_refl _) (fun _ _ => ⟨rfl, rfl, id⟩) (fun c hlt hc => ?_)
    (fun _ _ hs => hs) (fun _ hc => Or.inr (Or.inl hc)) (fun _ _ _ hs => Or.inl hs)
    (fun s addr c hc => ?_)
  · have hne : (w.conn c).socketManager ≠ w.numSms := Nat.ne_of_lt (hpl.home_lt c hlt)
    unfold readable at hc ⊢
    rw [addSocketManager_sm, update_of_ne hne]
    exact hc
  · by_cases hs : s = w.numSms
    · subst hs
      rw [addSocketManager_sm, update_self, hm] at hc
      cases hc
    · rw [addSocketManager_sm, update_of_ne hs] at hc
      exact Or.inl hc

theorem Quiet.withGroup (h : Quiet P dry arriving w) (hpl : Placed w) {x : Cnx}
    (hx : x.streamCtx = []) : Quiet P dry arriving (w.addGroup x) := by
  refine h.keep rfl (Nat.le_refl _) (fun _ _ => ⟨rfl, rfl, id⟩) (fun _ _ hs => hs)
    (fun c hlt hc => ?_) (fun _ hc => Or.inr (Or.inl hc)) (fun g sid c hc => ?_)
    (fun _ _ _ hs => Or.inl hs)
  · have hne : (w.conn c).group ≠ w.numGroups := Nat.ne_of_lt (hpl.group_lt c hlt)
    rw [addGroup_cnx, update_of_ne hne]
    exact hc
  · unfold streamCtx at hc
    by_cases hg : g = w.numGroups
    · subst hg
      rw [addGroup_cnx, update_self, hx] at hc
      cases hc
    · rw [addGroup_cnx, update_of_ne hg] at hc
      exact Or.inl hc

theorem addClient_some (w : World) (cbs : UserCallbacks) (m : SocketManager) (sid : Nat) :
    w.addClient cbs m (some sid) =
      ((w.addClient cbs m none).modConn w.numConns fun x => { x with stream := some sid }).modCnx
        w.numGroups fun x => { x with streamCtx := (sid, w.numConns) :: x.streamCtx } := by
  simp [addClient, addGroup, addSocketManager, addConnection, World.modConn, World.modCnx]

theorem Quiet.client (h : Quiet P dry arriving w) (hpl : Placed w) (cbs : UserCallbacks)
    {m : SocketManager} (hm : m.demuxTable = []) (early : Option Nat) :
    Quiet P dry arriving (w.addClient cbs m early) := by
  have hplain : Quiet P dry arriving (w.addClient cbs m none) :=
    ((h.withGroup hpl rfl).withSocketManager (hpl.withGroup _) hm).withConnection
      ConnState.noConfusion
  cases early with
  | none => exact hplain
  | some sid =>
    rw [addClient_some]
    refine hplain.takeStream ?_ ?_ (fun _ => rfl) (fun _ => rfl) (fun _ => rfl) (fun _ => rfl)
    · exact Nat.lt_succ_self _
    · rw [addClient_conn]

/-! ### Reports -/

theorem Quiet.closedSocket (h : Quiet P dry arriving w) (hpl : Placed w) {s : Nat}
    (hs : w.readable s = false) (ha : arriving = none) : Quiet P dry arriving (w.closedSocketCb s) := by
  unfold closedSocketCb
  split
  · next c hc =>
    have hmem := mem_of_lastOpenConnection hc
    refine h.terminate (hpl.lt_of_mem s c hmem) (Or.inl ⟨?_, ?_⟩) _
    · rw [hpl.home_of_mem s c hmem]
      exact hs
    · rw [ha]
      exact (Option.some_ne_none c).symm
  · exact h.modSm s id rfl

theorem Quiet.managerClose (h : Quiet P dry arriving w) (hpl : Placed w) {s : Nat}
    (htcp : w.protocol = .tcp → w.readable s = false ∧ arriving = none) (r : CloseReason) :
    Quiet P dry arriving (w.socketManagerClose s r) := by
  have hnote := h.modSm s
    (f := fun m => { m with closeReason := r, closeRequests := m.closeRequests + 1 }) id rfl
  unfold socketManagerClose closeSocket
  split
  · next hp =>
    obtain ⟨hs, ha⟩ := htcp hp
    refine hnote.closedSocket (hpl.of_site (site_modSm w s fun _ => rfl)) ?_ ha
    simpa [readable] using hs
  · exact hnote.uvClose s _
  · exact hnote.uvClose s _

theorem reportEnd_cnx (w : World) (c : Nat) (r : CloseReason) : (w.reportEnd c r).cnx = w.cnx := by
  unfold reportEnd socketManagerClose closeSocket closedSocketCb
  split
  · split
    · split <;> rfl
    · rfl
    · rfl
  · rfl

theorem Quiet.report (h : Quiet P dry arriving w) (hpl : Placed w) {c : Nat} (hc : c < w.numConns)
    (htcp : w.protocol = .tcp → w.readable (w.conn c).socketManager = false ∧ arriving = none)
    (hdeaf : w.numOpenDependents (w.conn c).socketManager ≠ 1 → w.Deaf dry arriving c)
    (r : CloseReason) : Quiet P dry arriving (w.reportEnd c r) := by
  unfold reportEnd
  split
  · exact h.managerClose hpl htcp r
  · next hne => exact h.terminate hc (hdeaf hne) r

theorem Quiet.listenerClosed (h : Quiet P dry arriving w) (hpl : Placed w) {s : Nat}
    (htcp : w.protocol = .tcp → w.readable s = false ∧ arriving = none) :
    Quiet P dry arriving (w.listenerClosedCb s) := by
  unfold listenerClosedCb
  split
  · exact h.managerClose hpl htcp _
  · exact h.modSm s id rfl

theorem Quiet.ready (h : Quiet P dry arriving w) (c : Nat) :
    Quiet P dry arriving (w.connectionReadyCb c) := by
  refine h.silent c (fun _ => rfl) fun x hx => ?_
  cases hx

theorem Quiet.received (h : Quiet P dry arriving w) (s c : Nat) :
    Quiet P dry arriving (w.connectionReceivedCb s c) := by
  unfold connectionReceivedCb
  refine Quiet.modSm ?_ s id rfl
  refine h.silent c (fun _ => rfl) fun x hx => ?_
  cases hx

end World

end CTaps.Connections
