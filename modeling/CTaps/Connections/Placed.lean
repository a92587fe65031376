import CTaps.Connections.Site

/-! A socket manager lists exactly the connections that are on it and not freed, the connections
of a QUIC group share their socket, and a TCP socket is used by one connection. This holds in every
world the machine reaches. -/

namespace CTaps.Connections.World

open Gathering (Protocol)

structure Placed (w : World) : Prop where
  home_lt : ∀ c < w.numConns, (w.conn c).socketManager < w.numSms
  group_lt : ∀ c < w.numConns, (w.conn c).group < w.numGroups
  mem_home : ∀ c < w.numConns, (w.conn c).freed = false →
    c ∈ (w.sm (w.conn c).socketManager).allConnections
  lt_of_mem : ∀ s, ∀ c ∈ (w.sm s).allConnections, c < w.numConns
  live_of_mem : ∀ s, ∀ c ∈ (w.sm s).allConnections, (w.conn c).freed = false
  home_of_mem : ∀ s, ∀ c ∈ (w.sm s).allConnections, (w.conn c).socketManager = s
  nodup : ∀ s, (w.sm s).allConnections.Nodup
  listener_lt : ∀ s, (w.sm s).listener.isSome = true → s < w.numSms
  quic_home : w.protocol = .quic → ∀ c < w.numConns, ∀ d < w.numConns,
    (w.conn c).group = (w.conn d).group → (w.conn c).socketManager = (w.conn d).socketManager

structure TcpPlaced (w : World) : Prop where
  lt : ∀ s c, (w.sm s).tcpConnection = some c → c < w.numConns
  home : ∀ s c, (w.sm s).tcpConnection = some c → (w.conn c).socketManager = s
  of_mem : ∀ s, ∀ c ∈ (w.sm s).allConnections, (w.sm s).tcpConnection = some c

theorem placed_init (p : Protocol) : Placed { protocol := p } := by
  constructor <;> simp

theorem tcpPlaced_init (p : Protocol) : TcpPlaced { protocol := p } := by
  constructor <;> simp

section
variable {w w' : World}

theorem Placed.of_site (h : Placed w) (hs : w'.site = w.site) : Placed w' := by
  have hp : w'.protocol = w.protocol := congrArg Site.protocol hs
  have hn : w'.numConns = w.numConns := congrArg Site.numConns hs
  have hN : w'.numSms = w.numSms := congrArg Site.numSms hs
  have hG : w'.numGroups = w.numGroups := congrArg Site.numGroups hs
  have hconn : ∀ c, (w'.conn c).site = (w.conn c).site := congrFun (congrArg Site.conn hs)
  have hsm : ∀ s, (w'.sm s).site = (w.sm s).site := congrFun (congrArg Site.sm hs)
  simp only [Connection.site, SocketManager.site, Prod.mk.injEq] at hconn hsm
  constructor
  · simpa only [hn, hN, (hconn _).1] using h.home_lt
  · simpa only [hn, hG, (hconn _).2.1] using h.group_lt
  · simpa only [hn, (hconn _).1, (hconn _).2.2, (hsm _).1] using h.mem_home
  · simpa only [hn, (hsm _).1] using h.lt_of_mem
  · simpa only [(hconn _).2.2, (hsm _).1] using h.live_of_mem
  · simpa only [(hconn _).1, (hsm _).1] using h.home_of_mem
  · simpa only [(hsm _).1] using h.nodup
  · simpa only [hN, (hsm _).2.2] using h.listener_lt
  · simpa only [hp, hn, (hconn _).1, (hconn _).2.1] using h.quic_home

theorem TcpPlaced.of_site (h : TcpPlaced w) (hs : w'.site = w.site) : TcpPlaced w' := by
  have hn : w'.numConns = w.numConns := congrArg Site.numConns hs
  have hconn : ∀ c, (w'.conn c).site = (w.conn c).site := congrFun (congrArg Site.conn hs)
  have hsm : ∀ s, (w'.sm s).site = (w.sm s).site := congrFun (congrArg Site.sm hs)
  simp only [Connection.site, SocketManager.site, Prod.mk.injEq] at hconn hsm
  constructor
  · simpa only [hn, (hsm _).2.1] using h.lt
  · simpa only [(hconn _).1, (hsm _).2.1] using h.home
  · simpa only [(hsm _).1, (hsm _).2.1] using h.of_mem

theorem Placed.withGroup (h : Placed w) (y : Cnx) : Placed (w.addGroup y) :=
  { h with group_lt := fun c hc => Nat.lt_succ_of_lt (h.group_lt c hc) }

theorem Placed.list_eq_nil (h : Placed w) {s : Nat} (hs : w.numSms ≤ s) :
    (w.sm s).allConnections = [] := by
  refine List.eq_nil_iff_forall_not_mem.mpr fun c hc => ?_
  have hlt := h.home_lt c (h.lt_of_mem s c hc)
  rw [h.home_of_mem s c hc] at hlt
  exact absurd hlt (Nat.not_lt.mpr hs)

theorem Placed.withSocketManager (h : Placed w) {m : SocketManager}
    (hm : m.allConnections = []) : Placed (w.addSocketManager m) := by
  have hlist : ∀ s, ((w.addSocketManager m).sm s).allConnections = (w.sm s).allConnections := by
    intro s
    by_cases hs : s = w.numSms
    · subst hs
      simp [hm, h.list_eq_nil (Nat.le_refl _)]
    · simp [hs]
  constructor
  · exact fun c hc => Nat.lt_succ_of_lt (h.home_lt c hc)
  · exact h.group_lt
  · simp only [hlist]
    exact h.mem_home
  · simp only [hlist]
    exact h.lt_of_mem
  · simp only [hlist]
    exact h.live_of_mem
  · simp only [hlist]
    exact h.home_of_mem
  · simp only [hlist]
    exact h.nodup
  · intro s hs
    by_cases hn : s = w.numSms
    · exact hn ▸ Nat.lt_succ_self _
    · have hs : (w.sm s).listener.isSome = true := by simpa [hn] using hs
      exact Nat.lt_succ_of_lt (h.listener_lt s hs)
  · exact h.quic_home

theorem mem_addConnection (x : Connection) (s c : Nat) :
    c ∈ ((w.addConnection x).sm s).allConnections ↔
      (s = x.socketManager ∧ c = w.numConns) ∨ c ∈ (w.sm s).allConnections := by
  by_cases hs : s = x.socketManager
  · subst hs
    simp
  · simp [hs]

theorem Placed.withConnection (h : Placed w) {x : Connection}
    (hs : x.socketManager < w.numSms) (hg : x.group < w.numGroups) (hf : x.freed = false)
    (hq : w.protocol = .quic → ∀ c < w.numConns, (w.conn c).group = x.group →
      (w.conn c).socketManager = x.socketManager) : Placed (w.addConnection x) := by
  have hne : ∀ {s c}, c ∈ (w.sm s).allConnections → c ≠ w.numConns :=
    fun hc => Nat.ne_of_lt (h.lt_of_mem _ _ hc)
  have hold : ∀ {c}, c < (w.addConnection x).numConns → c ≠ w.numConns → c < w.numConns :=
    fun hc hn => Nat.lt_of_le_of_ne (Nat.le_of_lt_succ hc) hn
  constructor
  · intro c hc
    by_cases hn : c = w.numConns
    · simpa [hn] using hs
    · simpa [hn] using h.home_lt c (hold hc hn)
  · intro c hc
    by_cases hn : c = w.numConns
    · simpa [hn] using hg
    · simpa [hn] using h.group_lt c (hold hc hn)
  · intro c hc hfc
    rw [mem_addConnection]
    by_cases hn : c = w.numConns
    · exact Or.inl ⟨by simp [hn], hn⟩
    · simp only [addConnection_conn, Function.update_of_ne hn] at hfc ⊢
      exact Or.inr (h.mem_home c (hold hc hn) hfc)
  · intro s c hc
    obtain ⟨-, rfl⟩ | hc := (mem_addConnection x s c).mp hc
    · exact Nat.lt_succ_self _
    · exact Nat.lt_succ_of_lt (h.lt_of_mem s c hc)
  · intro s c hc
    obtain ⟨-, rfl⟩ | hc := (mem_addConnection x s c).mp hc
    · simpa using hf
    · simpa [hne hc] using h.live_of_mem s c hc
  · intro s c hc
    obtain ⟨rfl, rfl⟩ | hc := (mem_addConnection x s c).mp hc
    · simp
    · simpa [hne hc] using h.home_of_mem s c hc
  · intro s
    by_cases hsx : s = x.socketManager
    · subst hsx
      simpa using ⟨fun hc => hne hc rfl, h.nodup x.socketManager⟩
    · simpa [hsx] using h.nodup s
  · intro s hl
    rw [w.sm_addConnection x s SocketManager.listener fun _ _ => rfl] at hl
    exact h.listener_lt s hl
  · intro ht c hc d hd hcd
    by_cases hcn : c = w.numConns <;> by_cases hdn : d = w.numConns
    · rw [hcn, hdn]
    · subst hcn
      have := hq ht d (hold hd hdn) (by simpa [hdn] using hcd.symm)
      simpa [hdn] using this.symm
    · subst hdn
      simpa [hcn] using hq ht c (hold hc hcn) (by simpa [hcn] using hcd)
    · simp only [addConnection_conn, Function.update_of_ne hcn, Function.update_of_ne hdn] at hcd ⊢
      exact h.quic_home ht c (hold hc hcn) d (hold hd hdn) hcd

theorem Placed.withFreed (h : Placed w) (c : Nat) : Placed (w.connectionFree c) := by
  have hmem : ∀ s d, d ∈ ((w.connectionFree c).sm s).allConnections ↔
      d ≠ c ∧ d ∈ (w.sm s).allConnections := by
    intro s d
    unfold connectionFree
    by_cases hs : s = (w.conn c).socketManager
    · subst hs
      simp [(h.nodup _).mem_erase_iff]
    · have : d ∈ (w.sm s).allConnections → d ≠ c := by
        rintro hd rfl
        exact hs (h.home_of_mem s d hd).symm
      simpa [hs] using this
  have hhome (d : Nat) : ((w.connectionFree c).conn d).socketManager = (w.conn d).socketManager :=
    w.conn_connectionFree c d Connection.socketManager fun _ => rfl
  have hgroup (d : Nat) : ((w.connectionFree c).conn d).group = (w.conn d).group :=
    w.conn_connectionFree c d Connection.group fun _ => rfl
  have hother {d : Nat} (hd : d ≠ c) : ((w.connectionFree c).conn d).freed = (w.conn d).freed := by
    simp [connectionFree, hd]
  have hfreed : ((w.connectionFree c).conn c).freed = true := by simp [connectionFree]
  constructor
  · simp only [hhome]
    exact h.home_lt
  · simp only [hgroup]
    exact h.group_lt
  · intro d hd hf
    have hdc : d ≠ c := by
      rintro rfl
      rw [hfreed] at hf
      cases hf
    rw [hmem, hhome d]
    exact ⟨hdc, h.mem_home d hd (hother hdc ▸ hf)⟩
  · exact fun s d hd => h.lt_of_mem s d ((hmem s d).mp hd).2
  · intro s d hd
    obtain ⟨hdc, hd⟩ := (hmem s d).mp hd
    rw [hother hdc]
    exact h.live_of_mem s d hd
  · intro s d hd
    rw [hhome d]
    exact h.home_of_mem s d ((hmem s d).mp hd).2
  · intro s
    unfold connectionFree
    by_cases hs : s = (w.conn c).socketManager
    · subst hs
      simpa using (h.nodup _).erase c
    · simpa [hs] using h.nodup s
  · intro s hs
    rw [w.sm_connectionFree c s SocketManager.listener fun _ _ => rfl] at hs
    exact h.listener_lt s hs
  · simp only [hhome, hgroup]
    exact h.quic_home

/-! ### TCP -/

theorem TcpPlaced.withGroup (h : TcpPlaced w) (y : Cnx) : TcpPlaced (w.addGroup y) :=
  ⟨h.lt, h.home, h.of_mem⟩

theorem TcpPlaced.withListener (h : TcpPlaced w) {m : SocketManager} (hm : m.allConnections = [])
    (ht : m.tcpConnection = none) : TcpPlaced (w.addSocketManager m) := by
  have htcp : ∀ s c, ((w.addSocketManager m).sm s).tcpConnection = some c →
      (w.sm s).tcpConnection = some c := by
    intro s c
    by_cases hs : s = w.numSms
    · subst hs
      simp [ht]
    · simp [hs]
  refine ⟨fun s c hc => h.lt s c (htcp s c hc), fun s c hc => h.home s c (htcp s c hc), ?_⟩
  intro s c hc
  by_cases hs : s = w.numSms
  · subst hs
    simp [hm] at hc
  · simp only [addSocketManager_sm, Function.update_of_ne hs] at hc ⊢
    exact h.of_mem s c hc

theorem TcpPlaced.withConnection (h : TcpPlaced w) {m : SocketManager} {x : Connection}
    (hm : m.allConnections = []) (ht : m.tcpConnection = some w.numConns)
    (hx : x.socketManager = w.numSms) : TcpPlaced ((w.addSocketManager m).addConnection x) := by
  have hsm : ∀ s, ((w.addSocketManager m).addConnection x).sm s =
      if s = w.numSms then { m with allConnections := [w.numConns] } else w.sm s := by
    intro s
    by_cases hs : s = w.numSms
    · subst hs
      simp [hx, hm]
    · simp [hx, hs]
  constructor
  · intro s c hc
    rw [hsm] at hc
    split at hc
    · have : w.numConns = c := by simpa [ht] using hc
      exact this ▸ Nat.lt_succ_self _
    · exact Nat.lt_succ_of_lt (h.lt s c hc)
  · intro s c hc
    rw [hsm] at hc
    split at hc
    · next hs =>
      have : w.numConns = c := by simpa [ht] using hc
      subst this
      simp [hx, hs]
    · simpa [Nat.ne_of_lt (h.lt s c hc)] using h.home s c hc
  · intro s c hc
    rw [hsm] at hc ⊢
    split at hc
    · next hs =>
      rw [if_pos hs]
      simpa [ht] using (List.mem_singleton.mp hc).symm
    · next hs =>
      rw [if_neg hs]
      exact h.of_mem s c hc

theorem TcpPlaced.withFreed (h : TcpPlaced w) (c : Nat) : TcpPlaced (w.connectionFree c) := by
  have htcp (s : Nat) : ((w.connectionFree c).sm s).tcpConnection = (w.sm s).tcpConnection :=
    w.sm_connectionFree c s SocketManager.tcpConnection fun _ _ => rfl
  have hlist (s : Nat) : ((w.connectionFree c).sm s).allConnections ⊆ (w.sm s).allConnections := by
    unfold connectionFree
    rcases eq_or_ne s (w.conn c).socketManager with rfl | hs
    · simpa using List.erase_subset
    · simp [hs]
  have hhome (d : Nat) : ((w.connectionFree c).conn d).socketManager = (w.conn d).socketManager :=
    w.conn_connectionFree c d Connection.socketManager fun _ => rfl
  constructor
  · simp only [htcp]
    exact h.lt
  · simp only [htcp, hhome]
    exact h.home
  · intro s d hd
    rw [htcp s]
    exact h.of_mem s d (hlist s hd)

/-! ### Calls and callbacks -/

theorem Placed.withGroupOfOne (h : Placed w) (y : Cnx) {x : Connection}
    (hs : x.socketManager < w.numSms) (hg : x.group = w.numGroups) (hf : x.freed = false) :
    Placed ((w.addGroup y).addConnection x) := by
  refine (h.withGroup y).withConnection hs (hg ▸ Nat.lt_succ_self _) hf fun _ c hc hcg => ?_
  have hlt : (w.conn c).group < w.numGroups := h.group_lt c hc
  exact absurd (hcg.trans hg) (Nat.ne_of_lt hlt)

theorem Placed.withClone (h : Placed w) {c : Nat} (hc : c < w.numConns) :
    Placed (w.addConnection ((w.conn c).cloneOf (w.conn c).socketManager)) :=
  h.withConnection (h.home_lt c hc) (h.group_lt c hc) rfl fun hp d hd hdc =>
    h.quic_home hp d hd c hc hdc

theorem placed_cloneConnection (h : Placed w) {c : Nat} (hc : c < w.numConns) :
    Placed (w.cloneConnection c) := by
  -- a TCP or UDP clone leaves the socket of its source
  have hmoved : w.protocol ≠ .quic → ∀ m : SocketManager, m.allConnections = [] →
      Placed ((w.addSocketManager m).addConnection ((w.conn c).cloneOf w.numSms)) := by
    intro hp m hm
    exact (h.withSocketManager hm).withConnection (Nat.lt_succ_self _) (h.group_lt c hc) rfl
      fun hq => absurd hq hp
  unfold cloneConnection
  split
  · next hp => exact hmoved (by simp [hp]) _ rfl
  · next hp => exact (hmoved (by simp [hp]) _ rfl).of_site (site_connectionReadyCb _ _)
  · exact (h.withClone hc).of_site (site_connectionReadyCb _ _)

theorem placed_addClient (h : Placed w) (cbs : UserCallbacks) {m : SocketManager}
    (hm : m.allConnections = []) (early : Option Nat) : Placed (w.addClient cbs m early) :=
  (h.withSocketManager hm).withGroupOfOne _ (Nat.lt_succ_self _) rfl rfl

theorem placed_initiate (h : Placed w) (cbs : UserCallbacks) (early : Option Nat) (start : Start) :
    Placed (w.initiate cbs early start) := by
  obtain ⟨m, stream, hm, -, -, hsite⟩ := w.site_initiate cbs early start
  exact (placed_addClient h cbs hm stream).of_site hsite

theorem placed_newStreamConnectionCb (h : Placed w) (s : Nat) :
    Placed (w.newStreamConnectionCb s true) := by
  rw [newStreamConnectionCb_started]
  split
  · split
    · refine Placed.of_site ?_ (site_connectionReceivedCb _ _ _)
      exact (h.withSocketManager rfl).withGroupOfOne _ (Nat.lt_succ_self _) rfl rfl
    · exact h
  · exact h

theorem placed_udpMultiplexReceivedMessage (h : Placed w) (s addr : Nat) :
    Placed (w.udpMultiplexReceivedMessage s addr) := by
  unfold udpMultiplexReceivedMessage
  split
  · next hl _ =>
    split
    · refine Placed.of_site ?_ (site_connectionReceivedCb _ _ _)
      refine Placed.of_site ?_ (site_modSm _ s fun _ => rfl)
      exact h.withGroupOfOne {} (h.listener_lt s (by simp [hl])) rfl rfl
    · exact h
  · exact h

theorem placed_newCnx (h : Placed w) (s : Nat) : Placed (w.newCnx s) := by
  unfold newCnx
  split
  · next hl =>
    split
    · exact h.withGroupOfOne _ (h.listener_lt s (by simp [hl])) rfl rfl
    · exact h
  · exact h

theorem placed_resolveOrCreate (h : Placed w) (g sid : Nat) {first : Nat}
    (hfirst : first < w.numConns) :
    Placed (w.resolveOrCreateStreamConnection g sid first).1 := by
  unfold resolveOrCreateStreamConnection
  split
  · exact h
  · split
    · exact (h.withClone hfirst).of_site (site_bindStream _ _ _ _)
    · exact h.of_site (site_bindStream _ _ _ _)

theorem lt_of_mem_members {g c : Nat} (hc : c ∈ w.members g) : c < w.numConns :=
  List.mem_range.mp (List.mem_of_mem_filter hc)

theorem group_of_mem_members {g c : Nat} (h : c ∈ w.members g) : (w.conn c).group = g :=
  (of_decide_eq_true (List.mem_filter.mp h).2).2

theorem nodup_of_perm_members {g : Nat} {order : List Nat} (h : order.Perm (w.members g)) :
    order.Nodup :=
  h.nodup_iff.mpr (List.nodup_range.filter _)

theorem Placed.mem_of_mem_members (h : Placed w) {g c : Nat} (hc : c ∈ w.members g) :
    c ∈ (w.sm (w.conn c).socketManager).allConnections :=
  h.mem_home c (lt_of_mem_members hc) (of_decide_eq_true (List.mem_filter.mp hc).2).1

theorem lt_of_live {c : Nat} (hc : w.live c = true) : c < w.numConns := by
  simp only [live, decide_eq_true_eq] at hc
  exact hc.1

theorem lt_of_held {c : Nat} (hc : w.held c = true) : c < w.numConns := by
  simp only [held, decide_eq_true_eq] at hc
  exact lt_of_live hc.1

theorem Placed.step (h : Placed w) (e : Event) : Placed (w.step e) := by
  refine step_keeps h fun he => ?_
  cases e with
  | initiate cbs early start => exact placed_initiate h cbs early start
  | listen l cbs => exact h.withSocketManager rfl
  | clone c => exact placed_cloneConnection h (lt_of_held he)
  | free c => exact h.withFreed c
  | accepted s => exact placed_newStreamConnectionCb h s
  | datagram s addr => exact placed_udpMultiplexReceivedMessage h s addr
  | newCnx s => exact placed_newCnx h s
  | streamData g sid first hasData =>
    have hfirst := lt_of_mem_members (of_decide_eq_true he).2
    have hr := placed_resolveOrCreate h g sid hfirst
    dsimp only [act, streamData]
    split
    · exact hr
    · exact hr.of_site (site_announceIf _ _ _)
  | streamFin g sid first hasData =>
    have hfirst := lt_of_mem_members (of_decide_eq_true he).2
    have hr := placed_resolveOrCreate h g sid hfirst
    dsimp only [act, streamFin]
    split
    · exact hr
    · exact hr.of_site (by rw [site_announceIf, site_handleStreamFin])
  | _ => exact h.of_site (by simp [act])

theorem placed_run (p : Protocol) (es : List Event) : Placed (run p es) :=
  Lib.run_invariant_of_step (fun _ e h => h.step e) (placed_init p) es

theorem protocol_of_site (hs : w'.site = w.site) : w'.protocol = w.protocol :=
  congrArg Site.protocol hs

theorem protocol_initiate (w : World) (cbs : UserCallbacks) (early : Option Nat) (start : Start) :
    (w.initiate cbs early start).protocol = w.protocol := by
  obtain ⟨m, stream, -, -, -, hsite⟩ := w.site_initiate cbs early start
  exact protocol_of_site (w := w.addClient cbs m stream) hsite

theorem protocol_resolveOrCreate (w : World) (g sid first : Nat) :
    (w.resolveOrCreateStreamConnection g sid first).1.protocol = w.protocol := by
  unfold resolveOrCreateStreamConnection
  split
  · rfl
  · split <;> rfl

@[simp] theorem protocol_step (w : World) (e : Event) : (w.step e).protocol = w.protocol := by
  refine step_keeps (I := fun w' => w'.protocol = w.protocol) rfl fun _ => ?_
  cases e with
  | initiate cbs early start => exact protocol_initiate w cbs early start
  | clone c =>
    dsimp only [act, cloneConnection]
    split <;> rfl
  | listen l cbs | free c => rfl
  | accepted s =>
    dsimp only [act]
    rw [newStreamConnectionCb_started]
    split
    · split <;> rfl
    · rfl
  | datagram s addr =>
    dsimp only [act, udpMultiplexReceivedMessage]
    split
    · split <;> rfl
    · rfl
  | newCnx s =>
    dsimp only [act, newCnx]
    split
    · split <;> rfl
    · rfl
  | streamData g sid first hasData =>
    have hr := protocol_resolveOrCreate w g sid first
    dsimp only [act, streamData]
    split
    · exact hr
    · exact (protocol_of_site (site_announceIf _ _ _)).trans hr
  | streamFin g sid first hasData =>
    have hr := protocol_resolveOrCreate w g sid first
    dsimp only [act, streamFin]
    split
    · exact hr
    · exact (protocol_of_site (by rw [site_announceIf, site_handleStreamFin])).trans hr
  | _ => exact protocol_of_site (by simp [act])

theorem protocol_run (p : Protocol) (es : List Event) : (run p es).protocol = p :=
  Lib.run_invariant_of_step (I := fun w => w.protocol = p)
    (fun w e h => (protocol_step w e).trans h) rfl es

theorem tcpPlaced_addClient (h : TcpPlaced w) (cbs : UserCallbacks) {m : SocketManager}
    (hm : m.allConnections = []) (ht : m.tcpConnection = some w.numConns) (early : Option Nat) :
    TcpPlaced (w.addClient cbs m early) :=
  (h.withGroup _).withConnection hm ht rfl

theorem TcpPlaced.step (h : TcpPlaced w) (hp : w.protocol = .tcp) (e : Event) :
    TcpPlaced (w.step e) := by
  refine step_keeps h fun he => ?_
  cases e with
  | initiate cbs early start =>
    obtain ⟨m, stream, hm, -, ht, hsite⟩ := w.site_initiate cbs early start
    exact (tcpPlaced_addClient h cbs hm (ht hp) stream).of_site hsite
  | listen l cbs => exact h.withListener rfl rfl
  | clone c =>
    simp only [act, cloneConnection, hp]
    exact h.withConnection rfl rfl rfl
  | free c => exact h.withFreed c
  | accepted s =>
    dsimp only [act]
    rw [newStreamConnectionCb_started]
    split
    · split
      · refine TcpPlaced.of_site ?_ (site_connectionReceivedCb _ _ _)
        exact (h.withGroup _).withConnection rfl rfl rfl
      · exact h
    · exact h
  | datagram s addr => simp [enabled, hp] at he
  | newCnx s => simp [enabled, hp] at he
  | streamData g sid first hasData => simp [enabled, reports, hp] at he
  | streamFin g sid first hasData => simp [enabled, reports, hp] at he
  | _ => exact h.of_site (by simp [act])

end

end CTaps.Connections.World
