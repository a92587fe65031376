import CTaps.Connections.Announcements

/-! What a QUIC connection may still do on its stream. FIN ends the receiving, STOP_SENDING, a final
message and a close end the sending, and a unidirectional stream of the peer is not sent on.
`ct_connection_mark_as_established` sets both flags and asks for none of this, so they are right
only as long as no connection is made ready after one of these. -/

namespace CTaps.Connections

namespace Outline

structure Marks where
  fins : List (Nat × Nat) := []
  stops : List (Nat × Nat) := []
  ended : Nat → Bool := fun _ => false

def peerUnidirectional (isClient : Bool) (sid : Nat) : Bool :=
  peerOpens isClient sid && decide (sid / 2 % 2 ≠ 0)

theorem capabilities_canSend (isClient : Bool) (sid : Nat) :
    (streamCapabilities isClient sid).1 = !peerUnidirectional isClient sid := by
  unfold streamCapabilities peerUnidirectional peerOpens
  cases isClient with
  | true => simp
  | false => rcases Nat.mod_two_eq_zero_or_one sid with hsid | hsid <;> simp [hsid]

def mute (o : Outline) (m : Marks) (c : Nat) : Bool :=
  m.ended c || (o.conn c).stream.any fun sid =>
    decide (((o.conn c).group, sid) ∈ m.stops) ||
      peerUnidirectional (o.cnx (o.conn c).group).isClient sid

def deaf (o : Outline) (m : Marks) (c : Nat) : Bool :=
  (o.conn c).stream.any fun sid => decide (((o.conn c).group, sid) ∈ m.fins)

theorem mute_iff {o : Outline} {m : Marks} {c : Nat} :
    o.mute m c = true ↔ m.ended c = true ∨ ∃ sid, (o.conn c).stream = some sid ∧
      (((o.conn c).group, sid) ∈ m.stops ∨
        peerUnidirectional (o.cnx (o.conn c).group).isClient sid = true) := by
  simp [mute, Option.any_eq_true]

theorem deaf_iff {o : Outline} {m : Marks} {c : Nat} :
    o.deaf m c = true ↔ ∃ sid, (o.conn c).stream = some sid ∧
      ((o.conn c).group, sid) ∈ m.fins := by
  simp [deaf, Option.any_eq_true]

structure Capped (o : Outline) (m : Marks) : Prop where
  send : ∀ c < o.numConns, o.mute m c = true → (o.conn c).canSend = false
  receive : ∀ c < o.numConns, o.deaf m c = true → (o.conn c).canReceive = false
  ended_lt : ∀ c, m.ended c = true → c < o.numConns
  ctx : ∀ g sid, (g, sid) ∈ m.fins ∨ (g, sid) ∈ m.stops → (o.streamCtx g sid).isSome = true

variable {o o' : Outline} {m : Marks}

theorem mute_congr (o o' : Outline) {c : Nat} (hs : (o'.conn c).stream = (o.conn c).stream)
    (hg : (o'.conn c).group = (o.conn c).group)
    (hcnx : (o'.cnx (o.conn c).group).isClient = (o.cnx (o.conn c).group).isClient) :
    o'.mute m c = o.mute m c := by
  unfold mute
  rw [hs, hg, hcnx]

theorem deaf_congr (o o' : Outline) {c : Nat} (hs : (o'.conn c).stream = (o.conn c).stream)
    (hg : (o'.conn c).group = (o.conn c).group) : o'.deaf m c = o.deaf m c := by
  unfold deaf
  rw [hs, hg]

theorem mute_of_unbound {c : Nat} (hs : (o.conn c).stream = none) : o.mute m c = m.ended c := by
  simp [mute, hs]

theorem deaf_of_unbound {c : Nat} (hs : (o.conn c).stream = none) : o.deaf m c = false := by
  simp [deaf, hs]

theorem Capped.unmarked (h : Capped o m) {g sid : Nat} (hctx : o.streamCtx g sid = none) :
    (g, sid) ∉ m.fins ∧ (g, sid) ∉ m.stops := by
  have hno : ¬ ((g, sid) ∈ m.fins ∨ (g, sid) ∈ m.stops) := by
    intro hmem
    have hsome := h.ctx g sid hmem
    rw [hctx] at hsome
    cases hsome
  exact not_or.mp hno

theorem Capped.not_ended (h : Capped o m) : m.ended o.numConns = false := by
  refine Bool.not_eq_true _ ▸ fun hended => ?_
  exact absurd (h.ended_lt _ hended) (Nat.lt_irrefl _)

/-! ### Updates -/

theorem Capped.modConn (h : Capped o m) {c : Nat} {f : Connection.Outline → Connection.Outline}
    (hf : ∀ x, (f x).stream = x.stream ∧ (f x).group = x.group)
    (hs : c < o.numConns → o.mute m c = true → (f (o.conn c)).canSend = false)
    (hr : c < o.numConns → o.deaf m c = true → (f (o.conn c)).canReceive = false) :
    Capped (o.modConn c f) m := by
  have hconn : ∀ d, ((o.modConn c f).conn d).stream = (o.conn d).stream ∧
      ((o.modConn c f).conn d).group = (o.conn d).group := by
    intro d
    rcases eq_or_ne d c with rfl | hd
    · simpa using hf (o.conn d)
    · simp [hd]
  constructor
  · intro d hd hmute
    rw [mute_congr o _ (hconn d).1 (hconn d).2 rfl] at hmute
    rcases eq_or_ne d c with rfl | hdc
    · simpa using hs hd hmute
    · simpa [hdc] using h.send d hd hmute
  · intro d hd hdeaf
    rw [deaf_congr o _ (hconn d).1 (hconn d).2] at hdeaf
    rcases eq_or_ne d c with rfl | hdc
    · simpa using hr hd hdeaf
    · simpa [hdc] using h.receive d hd hdeaf
  · exact h.ended_lt
  · exact h.ctx

theorem Capped.withoutSend (h : Capped o m) (c : Nat) : Capped (o.noSend c) m :=
  h.modConn (fun _ => ⟨rfl, rfl⟩) (fun _ _ => rfl) (h.receive c)

theorem Capped.withoutReceive (h : Capped o m) (c : Nat) : Capped (o.noReceive c) m :=
  h.modConn (fun _ => ⟨rfl, rfl⟩) (h.send c) fun _ _ => rfl

theorem Capped.opens (h : Capped o m) {c : Nat} {f : Connection.Outline → Connection.Outline}
    (hf : ∀ x, (f x).stream = x.stream ∧ (f x).group = x.group) (hs : o.mute m c = false)
    (hr : o.deaf m c = false) : Capped (o.modConn c f) m := by
  refine h.modConn hf (fun _ hmute => ?_) fun _ hdeaf => ?_
  · rw [hs] at hmute
    cases hmute
  · rw [hr] at hdeaf
    cases hdeaf

theorem Capped.congr (h : Capped o m) (hn : o'.numConns = o.numConns) (hc : o'.conn = o.conn)
    (hcnx : ∀ g, (o'.cnx g).isClient = (o.cnx g).isClient ∧
      (o'.cnx g).streamCtx = (o.cnx g).streamCtx) : Capped o' m := by
  have hconn : ∀ d, o'.conn d = o.conn d := fun d => congrFun hc d
  constructor
  · intro d hd hmute
    rw [mute_congr o o' (by rw [hconn]) (by rw [hconn]) (hcnx _).1] at hmute
    rw [hconn]
    exact h.send d (hn ▸ hd) hmute
  · intro d hd hdeaf
    rw [deaf_congr o o' (by rw [hconn]) (by rw [hconn])] at hdeaf
    rw [hconn]
    exact h.receive d (hn ▸ hd) hdeaf
  · exact fun d hd => hn ▸ h.ended_lt d hd
  · intro g sid hmem
    unfold streamCtx
    rw [(hcnx g).2]
    exact h.ctx g sid hmem

theorem Capped.withSocketManager (h : Capped o m) (l : Option Listener.Outline) :
    Capped (o.addSocketManager l) m :=
  h.congr rfl rfl fun _ => ⟨rfl, rfl⟩

theorem Capped.withGroup (h : Capped o m) (hb : o.Bound) (x : Cnx.Outline) :
    Capped (o.addGroup x) m := by
  have hcnx : ∀ c < o.numConns, (o.addGroup x).cnx (o.conn c).group = o.cnx (o.conn c).group := by
    intro c hc
    simp [(hb.group_lt c hc).ne]
  constructor
  · intro c hc hmute
    rw [mute_congr o (o.addGroup x) rfl rfl (congrArg _ (hcnx c hc))] at hmute
    exact h.send c hc hmute
  · exact h.receive
  · exact h.ended_lt
  · intro g sid hmem
    obtain ⟨c, hctx⟩ := Option.isSome_iff_exists.mp (h.ctx g sid hmem)
    obtain ⟨hc, hg, -⟩ := hb.ctx g sid c hctx
    have hsame := hcnx c hc
    rw [hg] at hsame
    unfold streamCtx
    rw [hsame]
    exact h.ctx g sid hmem

theorem Capped.withConnection (h : Capped o m) {x : Connection.Outline} (hs : x.canSend = false)
    (hr : x.canReceive = false) : Capped (o.addConnection x) m := by
  constructor
  · intro c hc hmute
    rcases Nat.lt_succ_iff_lt_or_eq.mp hc with hlt | rfl
    · have hold := addConnection_conn_of_lt o x hlt
      rw [mute_congr o (o.addConnection x) (by rw [hold]) (by rw [hold]) rfl] at hmute
      rw [hold]
      exact h.send c hlt hmute
    · rw [addConnection_conn_self]
      exact hs
  · intro c hc hdeaf
    rcases Nat.lt_succ_iff_lt_or_eq.mp hc with hlt | rfl
    · have hold := addConnection_conn_of_lt o x hlt
      rw [deaf_congr o (o.addConnection x) (by rw [hold]) (by rw [hold])] at hdeaf
      rw [hold]
      exact h.receive c hlt hdeaf
    · rw [addConnection_conn_self]
      exact hr
  · exact fun c hc => Nat.lt_succ_of_lt (h.ended_lt c hc)
  · exact h.ctx

theorem Capped.take (h : Capped o m) {g sid c : Nat} (hg : (o.conn c).group = g)
    (hctx : o.streamCtx g sid = none)
    (hpeer : peerUnidirectional (o.cnx g).isClient sid = true → (o.conn c).canSend = false) :
    Capped (o.take g sid c) m := by
  obtain ⟨hfins, hstops⟩ := h.unmarked hctx
  constructor
  · intro d hd hmute
    rcases eq_or_ne d c with rfl | hdc
    · have hmute : m.ended d = true ∨ peerUnidirectional (o.cnx g).isClient sid = true := by
        simpa [mute, take_conn_self, take_isClient, hg, hstops] using hmute
      rw [take_conn_self]
      rcases hmute with hended | huni
      · exact h.send d hd (mute_iff.mpr (Or.inl hended))
      · exact hpeer huni
    · have hother := take_conn_of_ne o g sid hdc
      rw [mute_congr o _ (by rw [hother]) (by rw [hother]) (take_isClient o g sid c _)] at hmute
      rw [hother]
      exact h.send d hd hmute
  · intro d hd hdeaf
    rcases eq_or_ne d c with rfl | hdc
    · simp [deaf, take_conn_self, hg, hfins] at hdeaf
    · have hother := take_conn_of_ne o g sid hdc
      rw [deaf_congr o _ (by rw [hother]) (by rw [hother])] at hdeaf
      rw [hother]
      exact h.receive d hd hdeaf
  · exact h.ended_lt
  · intro k r hmem
    by_cases hthis : k = g ∧ r = sid
    · rw [hthis.1, hthis.2, take_streamCtx_self]
      rfl
    · rw [take_streamCtx_of_ne o (by tauto)]
      exact h.ctx k r hmem

/-! ### Streams of the peer -/

theorem Capped.bind (h : Capped o m) {g sid c : Nat} (hg : (o.conn c).group = g)
    (hs : (o.conn c).stream = none) (hctx : o.streamCtx g sid = none)
    (hended : m.ended c = true → peerUnidirectional (o.cnx g).isClient sid = true) :
    Capped (o.bind g sid c) m := by
  have hcaps := capabilities_canSend (o.cnx g).isClient sid
  have hflags : Capped (o.modConn c fun x =>
      { x with
        canSend := (streamCapabilities (o.cnx g).isClient sid).1
        canReceive := (streamCapabilities (o.cnx g).isClient sid).2 }) m := by
    refine h.modConn (fun _ => ⟨rfl, rfl⟩) (fun _ hmute => ?_) fun _ hdeaf => ?_
    · rw [mute_of_unbound hs] at hmute
      simpa [hended hmute] using hcaps
    · rw [deaf_of_unbound hs] at hdeaf
      cases hdeaf
  refine hflags.take (by simpa using hg) hctx fun hpeer => ?_
  have hpeer : peerUnidirectional (o.cnx g).isClient sid = true := hpeer
  simpa [hpeer] using hcaps

theorem Capped.resolve (h : Capped o m) {g first : Nat} (hg : (o.conn first).group = g) {sid : Nat}
    (hended : o.streamCtx g sid = none → (o.conn first).stream = none → m.ended first = true →
      peerUnidirectional (o.cnx g).isClient sid = true) :
    Capped (o.resolve g sid first).1 m := by
  unfold Outline.resolve
  cases hctx : o.streamCtx g sid with
  | some c => exact h
  | none =>
    dsimp only
    split
    · have hnew := h.withConnection (x := cloneOf (o.conn first)) rfl rfl
      refine hnew.bind ?_ ?_ hctx fun hnext => ?_
      · simpa [cloneOf, fresh] using hg
      · simp [cloneOf, fresh]
      · rw [h.not_ended] at hnext
        cases hnext
    · next hs =>
      have hs : (o.conn first).stream = none := by simpa using hs
      exact h.bind hg hs hctx (hended hctx hs)

theorem resolve_isNew {g sid first : Nat} (h : (o.resolve g sid first).2.2 = true) :
    o.streamCtx g sid = none ∧ (o.conn first).stream.isSome = true := by
  unfold Outline.resolve at h
  split at h
  · cases h
  · next hctx =>
    split at h
    · next hs => exact ⟨hctx, hs⟩
    · cases h

theorem Capped.announce (h : Capped o m) {g sid first : Nat} (hg : (o.conn first).group = g)
    (hv : Capped (o.resolve g sid first).1 m)
    (hnew : (o.resolve g sid first).2.2 = true →
      peerUnidirectional (o.cnx g).isClient sid = false) :
    Capped ((o.resolve g sid first).1.announceIf (o.resolve g sid first).2.2
      (o.resolve g sid first).2.1) m := by
  unfold Outline.resolve at hv hnew ⊢
  cases hctx : o.streamCtx g sid with
  | some c =>
    rw [hctx] at hv
    exact hv
  | none =>
    rw [hctx] at hv hnew
    dsimp only at hv hnew ⊢
    obtain ⟨hfins, hstops⟩ := h.unmarked hctx
    cases hs : (o.conn first).stream.isSome with
    | false =>
      rw [hs] at hv
      exact hv
    | true =>
      rw [hs] at hv hnew
      have hpeer := hnew rfl
      refine hv.opens (fun _ => ⟨rfl, rfl⟩) ?_ ?_
      · simp [mute, Outline.bind, Outline.take, cloneOf, fresh, hg, h.not_ended, hstops, hpeer]
      · simp [deaf, Outline.bind, Outline.take, cloneOf, fresh, hg, hfins]

/-! ### Marks -/

theorem Capped.ends (h : Capped o m) {n : Marks} (hfins : n.fins = m.fins)
    (hstops : n.stops = m.stops) (hended : ∀ c, n.ended c = true → m.ended c = true ∨
      c < o.numConns ∧ (o.conn c).canSend = false) : Capped o n := by
  constructor
  · intro c hc hmute
    rcases mute_iff.mp hmute with hnow | hstream
    · rcases hended c hnow with hold | hnew
      · exact h.send c hc (mute_iff.mpr (Or.inl hold))
      · exact hnew.2
    · rw [hstops] at hstream
      exact h.send c hc (mute_iff.mpr (Or.inr hstream))
  · intro c hc hdeaf
    rw [deaf_iff, hfins] at hdeaf
    exact h.receive c hc (deaf_iff.mpr hdeaf)
  · intro c hc
    rcases hended c hc with hold | hnew
    · exact h.ended_lt c hold
    · exact hnew.1
  · rw [hfins, hstops]
    exact h.ctx

theorem Capped.fin (h : Capped o m) (hb : o.Bound) {g sid c : Nat}
    (hctx : o.streamCtx g sid = some c) (hr : (o.conn c).canReceive = false) :
    Capped o { m with fins := (g, sid) :: m.fins } := by
  constructor
  · exact h.send
  · intro d hd hdeaf
    obtain ⟨s, hs, hmem⟩ := deaf_iff.mp hdeaf
    rcases List.mem_cons.mp hmem with hnew | hold
    · obtain ⟨rfl, rfl⟩ := Prod.mk.inj hnew
      rw [hb.stream d hd s hs] at hctx
      rw [Option.some.inj hctx]
      exact hr
    · exact h.receive d hd (deaf_iff.mpr ⟨s, hs, hold⟩)
  · exact h.ended_lt
  · intro k s hmem
    rcases or_assoc.mp (hmem.imp_left List.mem_cons.mp) with hnew | hold
    · obtain ⟨rfl, rfl⟩ := Prod.mk.inj hnew
      exact Option.isSome_of_eq_some hctx
    · exact h.ctx k s hold

theorem Capped.stop (h : Capped o m) (hb : o.Bound) {g sid c : Nat}
    (hctx : o.streamCtx g sid = some c) (hs : (o.conn c).canSend = false) :
    Capped o { m with stops := (g, sid) :: m.stops } := by
  constructor
  · intro d hd hmute
    rcases mute_iff.mp hmute with hended | ⟨s, hstream, hmem | hpeer⟩
    · exact h.send d hd (mute_iff.mpr (Or.inl hended))
    · rcases List.mem_cons.mp hmem with hnew | hold
      · obtain ⟨rfl, rfl⟩ := Prod.mk.inj hnew
        rw [hb.stream d hd s hstream] at hctx
        rw [Option.some.inj hctx]
        exact hs
      · exact h.send d hd (mute_iff.mpr (Or.inr ⟨s, hstream, Or.inl hold⟩))
    · exact h.send d hd (mute_iff.mpr (Or.inr ⟨s, hstream, Or.inr hpeer⟩))
  · exact h.receive
  · exact h.ended_lt
  · intro k s hmem
    rcases hmem with hfin | hstop
    · exact h.ctx k s (Or.inl hfin)
    · rcases List.mem_cons.mp hstop with hnew | hold
      · obtain ⟨rfl, rfl⟩ := Prod.mk.inj hnew
        exact Option.isSome_of_eq_some hctx
      · exact h.ctx k s (Or.inr hold)

/-! ### Sends -/

theorem Capped.sent (h : Capped o m) {c : Nat} (hc : c < o.numConns) (isFinal : Bool) {sid : Nat}
    (hlocal : (o.conn c).stream = none → o.streamCtx (o.conn c).group sid = none ∧
      peerOpens (o.cnx (o.conn c).group).isClient sid = false) :
    Capped (o.send c isFinal sid) m := by
  unfold Outline.send
  cases hs : (o.conn c).canSend with
  | false => exact h
  | true =>
    have hmute : o.mute m c = false := by
      refine Bool.not_eq_true _ ▸ fun hmute => ?_
      cases hs.symm.trans (h.send c hc hmute)
    have hsend : Capped (o.modConn c fun x => { x with canSend := !isFinal }) m := by
      refine h.modConn (fun _ => ⟨rfl, rfl⟩) (fun _ hmute' => ?_) (h.receive c)
      cases hmute.symm.trans hmute'
    dsimp only
    rw [if_pos rfl]
    split
    · next hbind =>
      have hnone : (o.conn c).stream = none := by simpa using hbind.1
      obtain ⟨hctx, hpeer⟩ := hlocal hnone
      refine hsend.take rfl ?_ fun huni => ?_
      · rw [modConn_conn, Function.update_self]
        exact hctx
      · have hthis : peerOpens (o.cnx (o.conn c).group).isClient sid = true := by
          simpa using (Bool.and_eq_true_iff.mp huni).1
        cases hpeer.symm.trans hthis
    · exact hsend

end Outline

namespace World

open Outline (Marks Capped)

variable {w : World} {m : Marks}

def marksAfter (w : World) (m : Marks) : Event → Marks
  | .close c =>
    if (w.conn c).isClosedOrClosing then m
    else { m with ended := Function.update m.ended c true }
  | .streamFin g sid _ _ => { m with fins := (g, sid) :: m.fins }
  | .stopSending g sid => { m with stops := (g, sid) :: m.stops }
  | _ => m

def NextStreamLocal (w : World) : Event → Prop
  | .send c _ sid => (w.conn c).stream = none → w.streamCtx (w.conn c).group sid = none ∧
      Outline.peerOpens (w.cnx (w.conn c).group).isClient sid = false
  | _ => True

theorem NextStreamLocal.free {e : Event} (h : w.NextStreamLocal e) : w.NextStreamFree e := by
  cases e with
  | send c isFinal sid => exact fun hs => (h hs).1
  | _ => trivial

instance (w : World) (e : Event) : Decidable (w.NextStreamLocal e) := by
  rcases e with ⟨⟩ <;> dsimp only [NextStreamLocal] <;> infer_instance

def Restores (w : World) (m : Marks) : Event → Prop
  | .cnxReady _ first => w.outline.mute m first = true ∨ w.outline.deaf m first = true
  | .streamData g sid first _ => w.streamCtx g sid = none ∧
      ((w.conn first).stream = none ∧ m.ended first = true ∧
          Outline.peerUnidirectional (w.cnx g).isClient sid = false ∨
        (w.conn first).stream.isSome = true ∧
          Outline.peerUnidirectional (w.cnx g).isClient sid = true)
  | .streamFin g sid first _ => w.streamCtx g sid = none ∧
      ((w.conn first).stream = none ∧ m.ended first = true ∧
          Outline.peerUnidirectional (w.cnx g).isClient sid = false ∨
        (w.conn first).stream.isSome = true)
  | .stopSending g sid => w.streamCtx g sid = none
  | _ => False

instance (w : World) (m : Marks) (e : Event) : Decidable (w.Restores m e) := by
  rcases e with ⟨⟩ <;> dsimp only [Restores] <;> infer_instance

theorem marksAfter_reports {e : Event} (he : e.onlyReports = true) : w.marksAfter m e = m := by
  cases e <;> first | rfl | cases he

theorem ended_marksAfter (e : Event) {c : Nat} (hc : m.ended c = true) :
    (w.marksAfter m e).ended c = true := by
  cases e with
  | close d =>
    dsimp only [marksAfter]
    split
    · exact hc
    · rcases eq_or_ne c d with rfl | hcd
      · simp
      · simpa [hcd] using hc
  | _ => exact hc

theorem capped_close (h : Capped w.outline m) (hp : w.protocol = .quic) {c : Nat}
    (hc : c < w.numConns) :
    Capped (w.connectionClose c).outline (w.marksAfter m (.close c)) := by
  rw [outline_connectionClose w hp c]
  unfold marksAfter
  dsimp only
  split
  · exact h
  · refine (h.withoutSend c).ends rfl rfl fun d hd => ?_
    rcases eq_or_ne d c with rfl | hdc
    · exact Or.inr ⟨hc, by simp⟩
    · exact Or.inl (by simpa [hdc] using hd)

theorem capped_resolve (h : Capped w.outline m) {g sid first : Nat}
    (hg : (w.outline.conn first).group = g)
    (he : ¬ (w.streamCtx g sid = none ∧ (w.conn first).stream = none ∧ m.ended first = true ∧
      Outline.peerUnidirectional (w.cnx g).isClient sid = false)) :
    Capped (w.outline.resolve g sid first).1 m := by
  refine h.resolve hg fun hctx hs hended => ?_
  by_contra hpeer
  exact he ⟨hctx, hs, hended, Bool.not_eq_true _ ▸ hpeer⟩

theorem capped_streamData (h : Capped w.outline m) {g sid first : Nat} {hasData : Bool}
    (hg : (w.outline.conn first).group = g)
    (he : ¬ w.Restores m (.streamData g sid first hasData)) :
    Capped (w.outline.streamData g sid first hasData) m := by
  have hresolve : Capped (w.outline.resolve g sid first).1 m :=
    capped_resolve h hg fun hbinds => he ⟨hbinds.1, Or.inl hbinds.2⟩
  unfold Outline.streamData
  dsimp only
  split
  · exact hresolve
  · refine h.announce hg hresolve fun hnew => ?_
    obtain ⟨hctx, hs⟩ := Outline.resolve_isNew hnew
    exact Bool.not_eq_true _ ▸ fun hpeer => he ⟨hctx, Or.inr ⟨hs, hpeer⟩⟩

theorem capped_streamFin (h : Capped w.outline m) (hb : w.outline.Bound) {g sid first : Nat}
    {hasData : Bool} (hlt : first < w.outline.numConns) (hg : (w.outline.conn first).group = g)
    (he : ¬ w.Restores m (.streamFin g sid first hasData)) :
    Capped (w.outline.streamFin g sid first hasData) { m with fins := (g, sid) :: m.fins } := by
  have hresolve : Capped (w.outline.resolve g sid first).1 m :=
    capped_resolve h hg fun hbinds => he ⟨hbinds.1, Or.inl hbinds.2⟩
  obtain ⟨hbound, hctx⟩ := hb.resolve hlt hg sid
  unfold Outline.streamFin
  dsimp only
  split
  · next hrefused => exact hresolve.fin hbound hctx hrefused.2
  · have hold : (w.outline.resolve g sid first).2.2 = false := by
      refine Bool.not_eq_true _ ▸ fun hnew => ?_
      obtain ⟨hnone, hs⟩ := Outline.resolve_isNew hnew
      exact he ⟨hnone, Or.inr hs⟩
    rw [hold]
    refine (hresolve.withoutReceive _).fin (hbound.modConn _ ?_) hctx ?_
    · exact fun _ => ⟨rfl, rfl⟩
    · simp

theorem capped_stopSending (h : Capped w.outline m) (hb : w.outline.Bound) {g sid : Nat}
    (he : ¬ w.Restores m (.stopSending g sid)) :
    Capped (w.outline.stopSending g sid) { m with stops := (g, sid) :: m.stops } := by
  obtain ⟨c, hctx⟩ := Option.ne_none_iff_exists'.mp he
  have hctx : w.outline.streamCtx g sid = some c := hctx
  unfold Outline.stopSending
  rw [hctx]
  refine (h.withoutSend c).stop (hb.modConn _ ?_) hctx ?_
  · exact fun _ => ⟨rfl, rfl⟩
  · simp

theorem capped_cnxReady (h : Capped w.outline m) {g first : Nat}
    (he : ¬ w.Restores m (.cnxReady g first)) : Capped (w.outline.cnxReady g first) m := by
  obtain ⟨hmute, hdeaf⟩ := not_or.mp he
  unfold Outline.cnxReady
  set o := w.outline.modCnx g fun x => { x with ready := true } with ho
  have hcnx : ∀ k, (o.cnx k).isClient = (w.outline.cnx k).isClient ∧
      (o.cnx k).streamCtx = (w.outline.cnx k).streamCtx := by
    intro k
    rcases eq_or_ne k g with rfl | hk
    · simp [ho]
    · simp [ho, hk]
  have hready : Capped o m := h.congr rfl rfl hcnx
  have hmute : o.mute m first = false := by
    rw [Outline.mute_congr w.outline o rfl rfl (hcnx _).1]
    exact Bool.not_eq_true _ ▸ hmute
  have hdeaf : o.deaf m first = false := Bool.not_eq_true _ ▸ hdeaf
  dsimp only
  split
  · have hopen : Capped (o.modConn first Connection.Outline.received) m :=
      hready.opens (fun _ => ⟨rfl, rfl⟩) hmute hdeaf
    exact hopen.congr rfl rfl fun _ => ⟨rfl, rfl⟩
  · exact hready.opens (fun _ => ⟨rfl, rfl⟩) hmute hdeaf

theorem capped_act (h : Capped w.outline m) (hb : w.outline.Bound) (hp : w.protocol = .quic)
    {e : Event} (hen : w.enabled e = true) (hlocal : w.NextStreamLocal e) (he : ¬ w.Restores m e) :
    Capped (w.act e).outline (w.marksAfter m e) := by
  have hnext := outline_act hp hen
  generalize heq : (w.act e).outline = o at hnext
  cases hnext with
  | reports hreports =>
    rw [marksAfter_reports hreports]
    exact h
  | initiate cbs early start _ =>
    exact ((h.withGroup hb _).withSocketManager none).withConnection rfl rfl
  | listen l cbs => exact h.withSocketManager _
  | closed c | close c =>
    rw [← heq]
    exact capped_close h hp (lt_of_held hen)
  | clone c =>
    refine (h.withConnection (x := Outline.cloneOf (w.outline.conn c)) rfl rfl).opens
      (fun _ => ⟨rfl, rfl⟩) ?_ ?_
    · exact (Outline.mute_of_unbound (by simp [Outline.cloneOf, Outline.fresh])).trans h.not_ended
    · exact Outline.deaf_of_unbound (by simp [Outline.cloneOf, Outline.fresh])
  | send c isFinal sid => exact h.sent (lt_of_held hen) isFinal hlocal
  | raceWon _ => exact h.modConn (fun _ => ⟨rfl, rfl⟩) (h.send _) (h.receive _)
  | refused s => exact h
  | newCnx _ => exact (h.withGroup hb _).withConnection rfl rfl
  | cnxReady g first => exact capped_cnxReady h he
  | streamData g sid first hasData =>
    exact capped_streamData h (first_of_enabled (of_decide_eq_true hen).2).2 he
  | streamFin g sid first hasData =>
    obtain ⟨hlt, hg⟩ := first_of_enabled (of_decide_eq_true hen).2
    exact capped_streamFin h hb hlt hg he
  | stopSending g sid => exact capped_stopSending h hb he

end World

end CTaps.Connections
