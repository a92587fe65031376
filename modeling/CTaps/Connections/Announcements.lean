import CTaps.Connections.Binding

/-! How the application of a QUIC server hears of connections. The one that is made with a group is
announced by `connection_received` of the listener when picoquic is ready, and every other one by
`ready` when it is made. At `picoquic_callback_ready` the first connection of the hash table is
taken for the one that was accepted, but streams of the peer may have made others before. -/

namespace CTaps.Connections

open Gathering (Protocol)

namespace Outline

structure View where
  numConns : Nat
  conn : Nat → Role × Nat × Nat × UserCallbacks × Bool × Nat
  numSms : Nat
  listener : Nat → Option Listener.Outline
  numGroups : Nat
  cnx : Nat → Bool × Bool

def viewOf (x : Connection.Outline) : Role × Nat × Nat × UserCallbacks × Bool × Nat :=
  (x.role, x.group, x.socketManager, x.callbacks, x.isHeld, x.readies)

def view (o : Outline) : View :=
  { numConns := o.numConns
    conn := fun c => viewOf (o.conn c)
    numSms := o.numSms
    listener := o.listener
    numGroups := o.numGroups
    cnx := fun g => ((o.cnx g).isClient, (o.cnx g).ready) }

variable {o o' : Outline}

theorem view_modConn (o : Outline) (c : Nat) {f : Connection.Outline → Connection.Outline}
    (hf : ∀ x, viewOf (f x) = viewOf x) : (o.modConn c f).view = o.view := by
  have hconn : (fun d => viewOf ((o.modConn c f).conn d)) = fun d => viewOf (o.conn d) := by
    funext d
    rcases eq_or_ne d c with rfl | hd
    · simpa using hf (o.conn d)
    · simp [hd]
  unfold view
  rw [hconn]
  rfl

theorem view_modCnx (o : Outline) (g : Nat) {f : Cnx.Outline → Cnx.Outline}
    (hf : ∀ x, (f x).isClient = x.isClient ∧ (f x).ready = x.ready) :
    (o.modCnx g f).view = o.view := by
  have hcnx : (fun h => (((o.modCnx g f).cnx h).isClient, ((o.modCnx g f).cnx h).ready)) =
      fun h => ((o.cnx h).isClient, (o.cnx h).ready) := by
    funext h
    rcases eq_or_ne h g with rfl | hh
    · simp [(hf (o.cnx h)).1, (hf (o.cnx h)).2]
    · simp [hh]
  unfold view
  rw [hcnx]
  rfl

theorem view_take (o : Outline) (g sid c : Nat) : (o.take g sid c).view = o.view := by
  refine (view_modCnx _ g ?_).trans (view_modConn o c ?_)
  · exact fun _ => ⟨rfl, rfl⟩
  · exact fun _ => rfl

theorem view_bind (o : Outline) (g sid c : Nat) : (o.bind g sid c).view = o.view := by
  refine (view_take _ g sid c).trans (view_modConn o c ?_)
  exact fun _ => rfl

theorem view_send (o : Outline) (c : Nat) (isFinal : Bool) (sid : Nat) :
    (o.send c isFinal sid).view = o.view := by
  have hflag : (o.modConn c fun x => { x with canSend := !isFinal }).view = o.view :=
    view_modConn o c fun _ => rfl
  unfold Outline.send
  split
  · dsimp only
    split
    · exact (view_take _ _ _ _).trans hflag
    · exact hflag
  · rfl

theorem view_stopSending (o : Outline) (g sid : Nat) : (o.stopSending g sid).view = o.view := by
  unfold Outline.stopSending
  split
  · exact view_modConn o _ fun _ => rfl
  · rfl

theorem view_ready (h : o'.view = o.view) (c : Nat) : (o'.ready c).view = (o.ready c).view := by
  have hconn : ∀ d, viewOf (o'.conn d) = viewOf (o.conn d) := congrFun (congrArg View.conn h)
  have hready : (fun d => viewOf ((o'.ready c).conn d)) = fun d => viewOf ((o.ready c).conn d) := by
    funext d
    have hd := hconn d
    simp only [viewOf, Prod.mk.injEq] at hd
    rcases eq_or_ne d c with rfl | hne
    · simp [Outline.ready, viewOf, Connection.Outline.ready, hd]
    · simp [Outline.ready, viewOf, hne, hd]
  have hrest : ∀ v : Outline, (v.ready c).view =
      { v.view with conn := fun d => viewOf ((v.ready c).conn d) } := fun _ => rfl
  rw [hrest, hrest, h, hready]

def peerOpens (isClient : Bool) (sid : Nat) : Bool :=
  if isClient then sid % 2 ≠ 0 else sid % 2 = 0

theorem canReceive_of_peerOpens {isClient : Bool} {sid : Nat} (h : peerOpens isClient sid = true) :
    (streamCapabilities isClient sid).2 = true := by
  unfold streamCapabilities
  unfold peerOpens at h
  cases isClient with
  | true =>
    have hsid : sid % 2 ≠ 0 := by simpa using h
    simp [hsid]
  | false =>
    have hsid : sid % 2 = 0 := by simpa using h
    simp [hsid]

theorem view_resolve (o : Outline) (g sid first : Nat) :
    (o.resolve g sid first).1.view =
        (if (o.resolve g sid first).2.2 then (o.addConnection (cloneOf (o.conn first))).view
          else o.view) ∧
      ((o.resolve g sid first).2.2 = true → o.streamCtx g sid = none ∧
        (o.resolve g sid first).2.1 = o.numConns ∧
        ((o.resolve g sid first).1.conn o.numConns).canReceive =
          (streamCapabilities (o.cnx g).isClient sid).2) := by
  unfold Outline.resolve
  split
  · exact ⟨rfl, fun h => Bool.noConfusion h⟩
  · next hnone =>
    split
    · refine ⟨view_bind _ _ _ _, fun _ => ⟨hnone, rfl, ?_⟩⟩
      simp [Outline.bind, Outline.take]
    · exact ⟨view_bind _ _ _ _, fun h => Bool.noConfusion h⟩

theorem view_streamData (o : Outline) {g sid : Nat} (first : Nat) (hasData : Bool)
    (hpeer : o.streamCtx g sid = none → peerOpens (o.cnx g).isClient sid = true) :
    (o.streamData g sid first hasData).view = o.view ∨
      (o.streamData g sid first hasData).view = (o.clone first).view := by
  obtain ⟨hview, hnew⟩ := o.view_resolve g sid first
  unfold Outline.streamData
  dsimp only
  cases hisNew : (o.resolve g sid first).2.2 with
  | false =>
    rw [hisNew] at hview
    left
    split <;> exact hview
  | true =>
    obtain ⟨hnone, hc, hreceive⟩ := hnew hisNew
    rw [hisNew] at hview
    rw [canReceive_of_peerOpens (hpeer hnone)] at hreceive
    right
    rw [hc, hreceive, if_neg (by simp)]
    exact view_ready hview o.numConns

theorem view_streamFin (o : Outline) {g sid : Nat} (first : Nat) (hasData : Bool)
    (hpeer : o.streamCtx g sid = none → peerOpens (o.cnx g).isClient sid = true) :
    (o.streamFin g sid first hasData).view = o.view ∨
      (o.streamFin g sid first hasData).view = (o.clone first).view := by
  obtain ⟨hview, hnew⟩ := o.view_resolve g sid first
  have hfin (v : Outline) (c : Nat) : (v.noReceive c).view = v.view :=
    view_modConn v c fun _ => rfl
  unfold Outline.streamFin
  dsimp only
  cases hisNew : (o.resolve g sid first).2.2 with
  | false =>
    rw [hisNew] at hview
    left
    split
    · exact hview
    · exact (hfin _ _).trans hview
  | true =>
    obtain ⟨hnone, hc, hreceive⟩ := hnew hisNew
    rw [hisNew] at hview
    rw [canReceive_of_peerOpens (hpeer hnone)] at hreceive
    right
    rw [hc, hreceive, if_neg (by simp)]
    exact view_ready ((hfin _ _).trans hview) o.numConns

/-! ### Announcements -/

def founds (o : Outline) (c : Nat) : Bool := decide (∀ d < c, (o.conn d).group ≠ (o.conn c).group)

def told (o : Outline) (s c : Nat) : Bool :=
  decide (c < o.numConns) && !(o.cnx (o.conn c).group).isClient &&
    decide (s = (o.conn c).socketManager) && o.founds c && (o.cnx (o.conn c).group).ready

structure Announces (o : Outline) : Prop where
  group_lt : ∀ c < o.numConns, (o.conn c).group < o.numGroups
  sm_lt : ∀ c < o.numConns, (o.conn c).socketManager < o.numSms
  listener_lt : ∀ s, (o.listener s).isSome = true → s < o.numSms
  role : ∀ c < o.numConns,
    ((o.conn c).role = .server ↔ (o.cnx (o.conn c).group).isClient = false)
  held : ∀ c < o.numConns, (o.conn c).role = .server → (o.conn c).isHeld = true
  listens : ∀ c < o.numConns, (o.conn c).role = .server →
    (o.listener (o.conn c).socketManager).isSome = true
  readies : ∀ c < o.numConns, (o.conn c).role = .server →
    (o.conn c).readies = if o.founds c then 0 else (o.conn c).callbacks.ready.toNat
  heard : ∀ s l, o.listener s = some l → ∀ c,
    l.heard.count c = (o.told s c && l.callbacks.connectionReceived).toNat

theorem Announces.of_view (h : Announces o) (hv : o'.view = o.view) : Announces o' := by
  have hn : o'.numConns = o.numConns := congrArg View.numConns hv
  have hS : o'.numSms = o.numSms := congrArg View.numSms hv
  have hG : o'.numGroups = o.numGroups := congrArg View.numGroups hv
  have hl : o'.listener = o.listener := congrArg View.listener hv
  have hconn : ∀ c, viewOf (o'.conn c) = viewOf (o.conn c) := congrFun (congrArg View.conn hv)
  have hcnx : ∀ g, ((o'.cnx g).isClient, (o'.cnx g).ready) = ((o.cnx g).isClient, (o.cnx g).ready) :=
    congrFun (congrArg View.cnx hv)
  simp only [viewOf, Prod.mk.injEq] at hconn hcnx
  have hfounds : ∀ c, o'.founds c = o.founds c := by
    intro c
    simp only [founds, (hconn _).2.1]
  have htold : ∀ s c, o'.told s c = o.told s c := by
    intro s c
    simp only [told, hn, hfounds, (hconn c).2.1, (hconn c).2.2.1, (hcnx _).1, (hcnx _).2]
  constructor
  · simpa only [hn, hG, (hconn _).2.1] using h.group_lt
  · simpa only [hn, hS, (hconn _).2.2.1] using h.sm_lt
  · simpa only [hS, hl] using h.listener_lt
  · simpa only [hn, (hconn _).1, (hconn _).2.1, (hcnx _).1] using h.role
  · simpa only [hn, (hconn _).1, (hconn _).2.2.2.2.1] using h.held
  · simpa only [hn, hl, (hconn _).1, (hconn _).2.2.1] using h.listens
  · simpa only [hn, hfounds, (hconn _).1, (hconn _).2.2.2.1, (hconn _).2.2.2.2.2] using h.readies
  · simpa only [hl, htold] using h.heard

theorem told_of_le {s c : Nat} (hc : o.numConns ≤ c) : o.told s c = false := by
  simp [told, Nat.not_lt.mpr hc]

theorem Announces.withSocketManager (h : Announces o) {l : Option Listener.Outline}
    (hl : ∀ x ∈ l, x.heard = []) : Announces (o.addSocketManager l) := by
  have hold {s : Nat} (hs : s < o.numSms) : (o.addSocketManager l).listener s = o.listener s := by
    simp [Nat.ne_of_lt hs]
  constructor
  · exact h.group_lt
  · exact fun c hc => Nat.lt_succ_of_lt (h.sm_lt c hc)
  · intro s hs
    rcases eq_or_ne s o.numSms with rfl | hne
    · exact Nat.lt_succ_self _
    · simp only [addSocketManager_listener, Function.update_of_ne hne] at hs
      exact Nat.lt_succ_of_lt (h.listener_lt s hs)
  · exact h.role
  · exact h.held
  · intro c hc hrole
    show ((o.addSocketManager l).listener (o.conn c).socketManager).isSome = true
    rw [hold (h.sm_lt c hc)]
    exact h.listens c hc hrole
  · exact h.readies
  · intro s x hx c
    rcases eq_or_ne s o.numSms with rfl | hne
    · -- no connection is on the new socket
      have hnot : o.told o.numSms c = false := by
        by_cases hc : c < o.numConns
        · simp [told, (Nat.ne_of_lt (h.sm_lt c hc)).symm]
        · exact told_of_le (Nat.not_lt.mp hc)
      simp only [addSocketManager_listener, Function.update_self] at hx
      rw [hl x hx, show (o.addSocketManager l).told o.numSms c = false from hnot]
      rfl
    · simp only [addSocketManager_listener, Function.update_of_ne hne] at hx
      exact h.heard s x hx c

theorem Announces.withGroup (h : Announces o) (x : Cnx.Outline) : Announces (o.addGroup x) := by
  have hold {c : Nat} (hc : c < o.numConns) :
      (o.addGroup x).cnx (o.conn c).group = o.cnx (o.conn c).group := by
    simp [Nat.ne_of_lt (h.group_lt c hc)]
  constructor
  · exact fun c hc => Nat.lt_succ_of_lt (h.group_lt c hc)
  · exact h.sm_lt
  · exact h.listener_lt
  · intro c hc
    show (o.conn c).role = .server ↔ ((o.addGroup x).cnx (o.conn c).group).isClient = false
    rw [hold hc]
    exact h.role c hc
  · exact h.held
  · exact h.listens
  · exact h.readies
  · intro s l hl c
    have htold : (o.addGroup x).told s c = o.told s c := by
      by_cases hc : c < o.numConns
      · have hcnx := hold hc
        simp only [addGroup_cnx] at hcnx
        simp [told, founds, hcnx]
      · rw [told_of_le (Nat.not_lt.mp hc), told_of_le]
        exact Nat.not_lt.mp hc
    rw [htold]
    exact h.heard s l hl c

theorem founds_addConnection_of_lt (y : Connection.Outline) {c : Nat} (hc : c < o.numConns) :
    (o.addConnection y).founds c = o.founds c := by
  refine decide_eq_decide.mpr (forall₂_congr fun d hd => ?_)
  rw [addConnection_conn_of_lt o y (hd.trans hc), addConnection_conn_of_lt o y hc]

theorem founds_addConnection_self (y : Connection.Outline) :
    (o.addConnection y).founds o.numConns =
      decide (∀ d < o.numConns, (o.conn d).group ≠ y.group) := by
  refine decide_eq_decide.mpr (forall₂_congr fun d hd => ?_)
  rw [addConnection_conn_of_lt o y hd, addConnection_conn_self]

theorem told_addConnection {y : Connection.Outline}
    (hready : (∀ d < o.numConns, (o.conn d).group ≠ y.group) → (o.cnx y.group).ready = false)
    (s c : Nat) : (o.addConnection y).told s c = o.told s c := by
  rcases Nat.lt_or_ge c o.numConns with hlt | hge
  · simp only [told, addConnection_conn_of_lt o y hlt, founds_addConnection_of_lt y hlt,
      addConnection_cnx, addConnection_numConns, hlt, Nat.lt_succ_of_lt hlt]
  · rw [told_of_le hge]
    rcases eq_or_ne c o.numConns with rfl | hne
    · unfold told
      rw [addConnection_conn_self, founds_addConnection_self]
      by_cases hall : ∀ d < o.numConns, (o.conn d).group ≠ y.group
      · simp [hready hall]
      · simp only [hall, decide_false, Bool.and_false, Bool.false_and]
    · exact told_of_le (Nat.lt_of_le_of_ne hge (Ne.symm hne))

theorem Announces.withConnection (h : Announces o) {y : Connection.Outline}
    (hg : y.group < o.numGroups) (hs : y.socketManager < o.numSms)
    (hrole : y.role = .server ↔ (o.cnx y.group).isClient = false)
    (hheld : y.role = .server → y.isHeld = true)
    (hlistens : y.role = .server → (o.listener y.socketManager).isSome = true)
    (hreadies : y.role = .server → y.readies =
      if ∀ d < o.numConns, (o.conn d).group ≠ y.group then 0 else y.callbacks.ready.toNat)
    (hready : (∀ d < o.numConns, (o.conn d).group ≠ y.group) → (o.cnx y.group).ready = false) :
    Announces (o.addConnection y) := by
  constructor
  · exact forall_addConnection (P := fun x => x.group < o.numGroups) h.group_lt hg
  · exact forall_addConnection (P := fun x => x.socketManager < o.numSms) h.sm_lt hs
  · exact h.listener_lt
  · exact forall_addConnection
      (P := fun x => x.role = .server ↔ (o.cnx x.group).isClient = false) h.role hrole
  · exact forall_addConnection (P := fun x => x.role = .server → x.isHeld = true) h.held hheld
  · exact forall_addConnection
      (P := fun x => x.role = .server → (o.listener x.socketManager).isSome = true) h.listens hlistens
  · intro c hc
    rcases Nat.lt_succ_iff_lt_or_eq.mp hc with hlt | rfl
    · rw [addConnection_conn_of_lt o y hlt, founds_addConnection_of_lt y hlt]
      exact h.readies c hlt
    · rw [addConnection_conn_self, founds_addConnection_self]
      simpa using hreadies
  · intro s l hl c
    rw [told_addConnection hready]
    exact h.heard s l hl c

theorem Announces.client (h : Announces o) (cbs : UserCallbacks) (early : Option Nat) :
    Announces (o.addClient cbs early) := by
  have hroom := (h.withGroup ⟨true, false, (early.map fun sid => (sid, o.numConns)).toList⟩)
    |>.withSocketManager (l := none) fun _ hx => absurd hx (Option.not_mem_none _)
  apply hroom.withConnection
  · exact Nat.lt_succ_self _
  · exact Nat.lt_succ_self _
  · simp [fresh]
  · exact fun hrole => Role.noConfusion hrole
  · exact fun hrole => Role.noConfusion hrole
  · exact fun hrole => Role.noConfusion hrole
  · simp [fresh]

theorem Announces.accepted (h : Announces o) {s : Nat} {l : Listener.Outline}
    (hl : o.listener s = some l) : Announces (o.newCnx s l) := by
  have hsome : (o.listener s).isSome = true := hl ▸ rfl
  have hfirst : ∀ d < o.numConns, (o.conn d).group ≠ o.numGroups :=
    fun d hd => Nat.ne_of_lt (h.group_lt d hd)
  apply (h.withGroup ⟨false, false, []⟩).withConnection
  · exact Nat.lt_succ_self _
  · exact h.listener_lt s hsome
  · simp [fresh]
  · exact fun _ => rfl
  · exact fun _ => hsome
  · exact fun _ => (if_pos hfirst).symm
  · simp [fresh]

theorem Announces.cloned (h : Announces o) {c : Nat} (hc : c < o.numConns) :
    Announces (o.clone c) := by
  have heq : o.clone c = o.addConnection (cloneOf (o.conn c)).ready := by
    simp [Outline.clone, Outline.ready, Outline.modConn, addConnection]
  have hnot : ¬ ∀ d < o.numConns, (o.conn d).group ≠ (o.conn c).group :=
    fun hall => hall c hc rfl
  rw [heq]
  apply h.withConnection
  · exact h.group_lt c hc
  · exact h.sm_lt c hc
  · exact h.role c hc
  · exact h.held c hc
  · exact h.listens c hc
  · intro hrole
    have hheld : (o.conn c).isHeld = true := h.held c hc hrole
    refine Eq.trans ?_ (if_neg hnot).symm
    simp [Connection.Outline.ready, cloneOf, fresh, hheld]
  · exact fun hall => absurd hall hnot

theorem Announces.modClient (h : Announces o) {c : Nat}
    (hc : c < o.numConns → (o.conn c).role ≠ .server)
    {f : Connection.Outline → Connection.Outline}
    (hf : ∀ x, (f x).role = x.role ∧ (f x).group = x.group ∧
      (f x).socketManager = x.socketManager) : Announces (o.modConn c f) := by
  have hkeeps (d : Nat) : ((o.modConn c f).conn d).role = (o.conn d).role ∧
      ((o.modConn c f).conn d).group = (o.conn d).group ∧
      ((o.modConn c f).conn d).socketManager = (o.conn d).socketManager := by
    rcases eq_or_ne d c with rfl | hd
    · simpa using hf (o.conn d)
    · simp [hd]
  have hserver {d : Nat} (hd : d < o.numConns) (hrole : (o.conn d).role = .server) :
      (o.modConn c f).conn d = o.conn d := by
    have hne : d ≠ c := by
      rintro rfl
      exact hc hd hrole
    simp [hne]
  have hfounds (d : Nat) : (o.modConn c f).founds d = o.founds d := by
    simp only [founds, (hkeeps _).2.1]
  constructor
  · simp only [(hkeeps _).2.1]
    exact h.group_lt
  · simp only [(hkeeps _).2.2]
    exact h.sm_lt
  · exact h.listener_lt
  · simp only [(hkeeps _).1, (hkeeps _).2.1]
    exact h.role
  · intro d hd hrole
    rw [(hkeeps d).1] at hrole
    rw [hserver hd hrole]
    exact h.held d hd hrole
  · simp only [(hkeeps _).1, (hkeeps _).2.2]
    exact h.listens
  · intro d hd hrole
    rw [(hkeeps d).1] at hrole
    rw [hserver hd hrole, hfounds]
    exact h.readies d hd hrole
  · intro s l hl d
    have htold : (o.modConn c f).told s d = o.told s d := by
      simp only [told, hfounds, (hkeeps d).2.1, (hkeeps d).2.2, modConn_numConns, modConn_cnx]
    rw [htold]
    exact h.heard s l hl d

theorem founds_inj {c d : Nat} (hg : (o.conn c).group = (o.conn d).group) (hc : o.founds c = true)
    (hd : o.founds d = true) : c = d := by
  have hc := of_decide_eq_true hc
  have hd := of_decide_eq_true hd
  rcases Nat.lt_trichotomy c d with hlt | heq | hgt
  · exact absurd hg (hd c hlt)
  · exact heq
  · exact absurd hg.symm (hc d hgt)

theorem Announces.clientReady (h : Announces o) {g : Nat} (hg : (o.cnx g).isClient = true) :
    Announces (o.modCnx g fun x => { x with ready := true }) := by
  have hclient (k : Nat) : ((o.modCnx g fun x => { x with ready := true }).cnx k).isClient =
      (o.cnx k).isClient := by
    rcases eq_or_ne k g with rfl | hk
    · simp
    · simp [hk]
  refine ⟨h.group_lt, h.sm_lt, h.listener_lt, ?_, h.held, h.listens, h.readies, fun s l hl c => ?_⟩
  · intro c hc
    show (o.conn c).role = .server ↔
      ((o.modCnx g fun x => { x with ready := true }).cnx (o.conn c).group).isClient = false
    rw [hclient]
    exact h.role c hc
  · have htold : (o.modCnx g fun x => { x with ready := true }).told s c = o.told s c := by
      rcases eq_or_ne (o.conn c).group g with rfl | hk
      · simp [told, hg]
      · simp [told, founds, hk]
    rw [htold]
    exact h.heard s l hl c

theorem count_received (l : Listener.Outline) (first c : Nat) :
    (Listener.Outline.received first l).heard.count c =
      l.heard.count c + (decide (c = first) && l.callbacks.connectionReceived).toNat := by
  unfold Listener.Outline.received
  cases l.callbacks.connectionReceived with
  | false => simp
  | true =>
    rcases eq_or_ne c first with rfl | hc
    · simp
    · simp [hc, Ne.symm hc]

section
variable {g first : Nat}

def announced (o : Outline) (g first : Nat) : Outline :=
  (o.modCnx g fun x => { x with ready := true }).received (o.conn first).socketManager first

theorem announced_conn (o : Outline) (g first c : Nat) :
    viewOf ((o.announced g first).conn c) = viewOf (o.conn c) := by
  rcases eq_or_ne c first with rfl | hc
  · simp [announced, Outline.received, Connection.Outline.received, viewOf]
  · simp [announced, Outline.received, hc]

theorem announced_isClient (o : Outline) (g first k : Nat) :
    ((o.announced g first).cnx k).isClient = (o.cnx k).isClient := by
  rcases eq_or_ne k g with rfl | hk
  · simp [announced, Outline.received]
  · simp [announced, Outline.received, hk]

theorem announced_listener (o : Outline) (g first s : Nat) :
    ((o.announced g first).listener s).isSome = (o.listener s).isSome := by
  rcases eq_or_ne s (o.conn first).socketManager with rfl | hs
  · simp [announced, Outline.received]
  · simp [announced, Outline.received, hs]

theorem announced_founds (o : Outline) (g first c : Nat) :
    (o.announced g first).founds c = o.founds c := by
  have hgroup (d : Nat) : ((o.announced g first).conn d).group = (o.conn d).group :=
    congrArg (fun x => x.2.1) (o.announced_conn g first d)
  simp only [founds, hgroup]

theorem announced_told (hlt : first < o.numConns) (hfirst : (o.conn first).group = g)
    (hg : (o.cnx g).isClient = false) (hready : (o.cnx g).ready = false)
    (hfounds : o.founds first = true) (s c : Nat) :
    (o.announced g first).told s c =
      (o.told s c || (decide (c = first) && decide (s = (o.conn first).socketManager))) := by
  have hconn := o.announced_conn g first c
  simp only [viewOf, Prod.mk.injEq] at hconn
  have hn : (o.announced g first).numConns = o.numConns := rfl
  rcases eq_or_ne c first with rfl | hc
  · have hnow : ((o.announced g c).cnx g).ready = true := by simp [announced, Outline.received]
    simp [told, announced_founds, hfounds, announced_isClient, hconn.2.1, hconn.2.2.1, hfirst, hg,
      hready, hnow, hn, hlt]
  · rcases eq_or_ne (o.conn c).group g with hk | hk
    · -- another connection of the group was not made with it
      have hnot : o.founds c = false := by
        refine Bool.eq_false_iff.mpr fun hfc => ?_
        exact hc (founds_inj (hk.trans hfirst.symm) hfc hfounds)
      simp [told, announced_founds, hnot, hc]
    · have hcnx : (o.announced g first).cnx (o.conn c).group = o.cnx (o.conn c).group := by
        simp [announced, Outline.received, hk]
      simp [told, announced_founds, hconn.2.1, hconn.2.2.1, hcnx, hc, hn]

theorem Announces.serverReady (h : Announces o) (hlt : first < o.numConns)
    (hfirst : (o.conn first).group = g) (hg : (o.cnx g).isClient = false)
    (hready : (o.cnx g).ready = false) (hfounds : o.founds first = true) :
    Announces (o.announced g first) := by
  have hconn := o.announced_conn g first
  simp only [viewOf, Prod.mk.injEq] at hconn
  constructor
  · simp only [(hconn _).2.1]
    exact h.group_lt
  · simp only [(hconn _).2.2.1]
    exact h.sm_lt
  · simp only [announced_listener]
    exact h.listener_lt
  · simp only [(hconn _).1, (hconn _).2.1, announced_isClient]
    exact h.role
  · simp only [(hconn _).1, (hconn _).2.2.2.2.1]
    exact h.held
  · simp only [(hconn _).1, (hconn _).2.2.1, announced_listener]
    exact h.listens
  · simp only [(hconn _).1, (hconn _).2.2.2.1, (hconn _).2.2.2.2.2, announced_founds]
    exact h.readies
  · intro s l hl c
    rw [announced_told hlt hfirst hg hready hfounds]
    rcases eq_or_ne s (o.conn first).socketManager with rfl | hs
    · obtain ⟨l₀, hl₀, rfl⟩ : ∃ l₀, o.listener (o.conn first).socketManager = some l₀ ∧
          Listener.Outline.received first l₀ = l := by
        simpa [announced, Outline.received] using hl
      have hcallbacks : (Listener.Outline.received first l₀).callbacks = l₀.callbacks := by
        unfold Listener.Outline.received
        split <;> rfl
      rw [count_received, h.heard _ l₀ hl₀, hcallbacks]
      rcases eq_or_ne c first with rfl | hc
      · -- of which it had not been told
        have hbefore : o.told (o.conn c).socketManager c = false := by simp [told, hfirst, hready]
        simp [hbefore]
      · simp [hc]
    · have hl : o.listener s = some l := by simpa [announced, Outline.received, hs] using hl
      simpa [hs] using h.heard s l hl c

end

end Outline

theorem Listener.count_heard (l : Listener) (c : Nat) :
    l.heard.count c = l.history.count (.connectionReceived c) := by
  unfold Listener.heard
  induction l.history with
  | nil => rfl
  | cons k history ih =>
    cases k with
    | connectionReceived d =>
      rcases eq_or_ne d c with rfl | hd
      · simp [ih]
      · simp [ih, hd]
    | closed => simp [ih]
    | establishmentError => simp [ih]

/-! ### Whole runs -/

namespace World

variable {w : World}

def founds (w : World) (c : Nat) : Bool := decide (∀ d < c, (w.conn d).group ≠ (w.conn c).group)

def PeerStream (w : World) : Event → Prop
  | .streamData g sid _ _ | .streamFin g sid _ _ =>
    w.streamCtx g sid = none → Outline.peerOpens (w.cnx g).isClient sid = true
  | _ => True

def FirstAccepted (w : World) : Event → Prop
  | .cnxReady g first => (w.cnx g).isClient = false → w.founds first = true
  | _ => True

theorem announces_step (h : w.outline.Announces) (hp : w.protocol = .quic) {e : Event}
    (hpeer : w.PeerStream e) (hfirst : w.FirstAccepted e) : (w.step e).outline.Announces := by
  refine step_keeps (I := fun v => v.outline.Announces) h fun hen => ?_
  have hnext := outline_act hp hen
  generalize (w.act e).outline = o' at hnext
  cases hnext with
  | reports _ => exact h
  | initiate cbs early start _ => exact h.client cbs _
  | listen l cbs =>
    refine h.withSocketManager fun x hx => ?_
    rw [← Option.mem_some.mp hx]
  | closed c => exact h
  | close c => exact h.of_view (Outline.view_modConn _ c fun _ => rfl)
  | clone c => exact h.cloned (lt_of_held hen)
  | send c isFinal sid => exact h.of_view (Outline.view_send _ c isFinal sid)
  | raceWon hheld =>
    refine h.modClient (fun hc hrole => ?_) fun _ => ⟨rfl, rfl, rfl⟩
    rw [h.held _ hc hrole] at hheld
    cases hheld
  | refused s => exact h
  | newCnx hl => exact h.accepted hl
  | cnxReady g first =>
    obtain ⟨-, hready, -, hmem⟩ := of_decide_eq_true hen
    obtain ⟨hlt, hg⟩ := first_of_enabled hmem
    unfold Outline.cnxReady
    dsimp only
    split
    · next hrole =>
      have hserver : (w.outline.cnx g).isClient = false := by
        rw [← show (w.outline.conn first).group = g from hg]
        exact (h.role first hlt).mp hrole
      exact h.serverReady hlt hg hserver hready (hfirst hserver)
    · next hrole =>
      have hclient : (w.outline.cnx g).isClient = true := by
        refine Bool.not_eq_false _ ▸ fun hserver => ?_
        rw [← show (w.outline.conn first).group = g from hg] at hserver
        cases hrole.symm.trans ((h.role first hlt).mpr hserver)
      refine (h.clientReady hclient).modClient (fun _ hserver => ?_) fun _ => ⟨rfl, rfl, rfl⟩
      cases hrole.symm.trans hserver
  | streamData g sid first hasData =>
    obtain ⟨hlt, hg⟩ := first_of_enabled (of_decide_eq_true hen).2
    rcases w.outline.view_streamData first hasData hpeer with hsame | hnew
    · exact h.of_view hsame
    · exact (h.cloned hlt).of_view hnew
  | streamFin g sid first hasData =>
    obtain ⟨hlt, hg⟩ := first_of_enabled (of_decide_eq_true hen).2
    rcases w.outline.view_streamFin first hasData hpeer with hsame | hnew
    · exact h.of_view hsame
    · exact (h.cloned hlt).of_view hnew
  | stopSending g sid => exact h.of_view (Outline.view_stopSending _ g sid)

theorem announces_init : ({ protocol := .quic } : World).outline.Announces := by
  constructor
  · exact fun c hc => absurd hc (Nat.not_lt_zero c)
  · exact fun c hc => absurd hc (Nat.not_lt_zero c)
  · exact fun s hs => Bool.noConfusion hs
  · exact fun c hc => absurd hc (Nat.not_lt_zero c)
  · exact fun c hc => absurd hc (Nat.not_lt_zero c)
  · exact fun c hc => absurd hc (Nat.not_lt_zero c)
  · exact fun c hc => absurd hc (Nat.not_lt_zero c)
  · intro s l hl
    cases hl

theorem announces_run {es : List Event}
    (hes : Lib.AllSteps step (fun w e => w.PeerStream e ∧ w.FirstAccepted e)
      { protocol := .quic } es) : (run .quic es).outline.Announces := by
  have hboth : (run .quic es).outline.Announces ∧ (run .quic es).protocol = .quic := by
    refine Lib.run_invariant (I := fun v : World => v.outline.Announces ∧ v.protocol = .quic)
      (fun v e hv he => ?_) ⟨announces_init, rfl⟩ hes
    exact ⟨announces_step hv.1 hv.2 he.1 he.2, (protocol_step v e).trans hv.2⟩
  exact hboth.1

/-- As long as the accepted connection is the first of its group's table when picoquic is ready: it
is announced once through `connection_received` of its listener, from then on, and never through
`ready`; every other one is announced once through `ready`, and to no listener. -/
theorem server_announcements (es : List Event)
    (hes : Lib.AllSteps step (fun w e => w.PeerStream e ∧ w.FirstAccepted e)
      { protocol := .quic } es) (c : Nat) (hc : c < (run .quic es).numConns)
    (hserver : ((run .quic es).cnx ((run .quic es).conn c).group).isClient = false) :
    ((run .quic es).conn c).history.count (.called .ready) =
      (if (run .quic es).founds c then 0 else ((run .quic es).conn c).callbacks.ready.toNat) ∧
    ((run .quic es).sm ((run .quic es).conn c).socketManager).listener.isSome = true ∧
    ∀ s l, ((run .quic es).sm s).listener = some l →
      l.history.count (.connectionReceived c) =
        if s = ((run .quic es).conn c).socketManager ∧ (run .quic es).founds c = true ∧
          ((run .quic es).cnx ((run .quic es).conn c).group).ready = true ∧
          l.callbacks.connectionReceived = true then 1 else 0 := by
  have h := announces_run hes
  have hrole := (h.role c hc).mpr hserver
  refine ⟨h.readies c hc hrole, ?_, fun s l hl => ?_⟩
  · have hlistens := h.listens c hc hrole
    simpa [outline, Connection.outline] using hlistens
  · have hl : (run .quic es).outline.listener s = some l.outline := by simp [outline, hl]
    have hheard := h.heard s l.outline hl c
    rw [show l.outline.heard = l.heard from rfl, Listener.count_heard] at hheard
    have htold : (run .quic es).outline.told s c =
        (decide (s = ((run .quic es).conn c).socketManager) && (run .quic es).founds c &&
          ((run .quic es).cnx ((run .quic es).conn c).group).ready) := by
      unfold Outline.told
      rw [show decide (c < (run .quic es).outline.numConns) = true from decide_eq_true hc,
        show ((run .quic es).outline.cnx ((run .quic es).outline.conn c).group).isClient = false
          from hserver]
      rfl
    rw [hheard, htold, Bool.toNat, Bool.cond_eq_ite]
    refine if_congr ?_ rfl rfl
    simp [Listener.outline, and_assoc]

instance (w : World) (e : Event) : Decidable (w.PeerStream e) := by
  rcases e with ⟨⟩ <;> dsimp only [PeerStream] <;> infer_instance

instance (w : World) (e : Event) : Decidable (w.FirstAccepted e) := by
  rcases e with ⟨⟩ <;> dsimp only [FirstAccepted] <;> infer_instance

def earlyStreams (first : Nat) : List Event :=
  [.listen {} {}, .newCnx 0, .streamData 0 0 0 true, .streamFin 0 4 0 true, .cnxReady 0 first]

theorem server_announcements_early :
    ((run .quic (earlyStreams 0)).conn 1).history.count (.called .ready) = 1 ∧
    ((run .quic (earlyStreams 0)).sm 0).listener.isSome = true :=
  ⟨(server_announcements (earlyStreams 0) (by decide) 1 (by decide) (by decide)).1,
    (server_announcements (earlyStreams 0) (by decide) 0 (by decide) (by decide)).2.1⟩

theorem server_announces_twice :
    (run .quic (earlyStreams 1)).founds 0 = true ∧
    ((run .quic (earlyStreams 1)).conn 0).history.count (.called .ready) = 0 ∧
    ((run .quic (earlyStreams 1)).conn 1).history.count (.called .ready) = 1 ∧
    ((run .quic (earlyStreams 1)).sm 0).listener.map (fun l =>
      (l.history.count (.connectionReceived 0), l.history.count (.connectionReceived 1))) =
        some (0, 1) := by
  decide

end World

end CTaps.Connections
