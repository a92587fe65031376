import CTaps.Connections.Settle
import CTaps.Connections.Teardown

/-! Aborted connections. An abort is complete when the connection is closed and the application has
been told of its end once. TCP and UDP bring this about unless the socket has no handle left that
would report it; the clone of a TCP connection that is still connecting is told twice. -/

namespace CTaps.Connections

open Function
open Gathering (Protocol)

def Connection.Hears (x : Connection) : Prop :=
  x.owner = .application ∧ x.callbacks.closed = true ∧ x.callbacks.connectionError = true ∧
    x.callbacks.establishmentError = true
deriving Decidable

theorem Connection.terminalCalls_invoke_of_hears {x : Connection} (h : x.Hears) {k : Callback}
    (hk : k.isTerminal = true) : (x.invoke k).terminalCalls = x.terminalCalls + 1 := by
  have hset : x.callbacks.has k = true := by
    cases k with
    | ready => cases hk
    | closed => exact h.2.1
    | connectionError => exact h.2.2.1
    | establishmentError => exact h.2.2.2
  have hcall : x.callOf k = [.called k] := by
    rw [callOf, h.1]
    exact if_pos hset
  rw [terminalCalls_invoke, hcall, Nat.add_comm]
  exact congrArg _ (List.countP_singleton.trans (if_pos hk))

def Connection.ended (r : CloseReason) (x : Connection) : Connection :=
  (x.enter .closed).invoke r.callback

theorem Connection.terminalCalls_ended {x : Connection} (h : x.Hears) (r : CloseReason) :
    (x.ended r).terminalCalls = x.terminalCalls + 1 := by
  have hx : (x.enter .closed).Hears := h
  rw [ended, terminalCalls_invoke_of_hears hx (by cases r <;> rfl), terminalCalls_enter]

def CloseCb.reportsTcp : CloseCb → Bool
  | .onLibuvClose | .onLibuvCloseAfterError | .onAbort => true
  | _ => false

def Handle.reportsTcp : Handle → Bool
  | .open => true
  | .closing cb => cb.reportsTcp
  | _ => false

namespace World

def ToldOnce (w w' : World) (c : Nat) : Prop :=
  (w'.conn c).isClosed = true ∧
    (w'.conn c).terminalCalls = (w.conn c).terminalCalls + if (w.conn c).isClosed then 0 else 1
deriving Decidable

/-- From `w` to `w'` connection `c` has been told of its end once, or not at all if it was closed
before, and it is closed. No handle was given to `uv_close` a second time; `uv_tcp_close_reset`,
with which TCP aborts, refuses such a handle. -/
def EndsOnce (w w' : World) (c : Nat) : Prop :=
  ToldOnce w w' c ∧ (w.protocol ≠ .tcp → (w'.sm (w.conn c).socketManager).repeatedCloses =
    (w.sm (w.conn c).socketManager).repeatedCloses)
deriving Decidable

section Ends

variable {w w' : World} {c : Nat}

theorem toldOnce_of_ended (hx : (w.conn c).Hears) (ho : (w.conn c).isClosed = false)
    {r : CloseReason} (h : w'.conn c = (w.conn c).ended r) : ToldOnce w w' c := by
  refine ⟨?_, ?_⟩
  · rw [h]
    rfl
  · rw [h, ho, Connection.terminalCalls_ended hx]
    rfl

theorem toldOnce_of_closed (ho : (w.conn c).isClosed = true) (h : w'.conn c = w.conn c) :
    ToldOnce w w' c := by
  rw [ToldOnce, h, ho]
  exact ⟨rfl, rfl⟩

theorem not_toldOnce_of_open (h : (w'.conn c).isClosed = false) : ¬ ToldOnce w w' c := by
  rintro ⟨hclosed, -⟩
  rw [h] at hclosed
  exact Bool.noConfusion hclosed

theorem EndsOnce.congr {v : World} (h : v.conn c = w'.conn c)
    (hsm : v.sm (w.conn c).socketManager = w'.sm (w.conn c).socketManager) :
    EndsOnce w v c ↔ EndsOnce w w' c := by
  rw [EndsOnce, EndsOnce, ToldOnce, ToldOnce, h, hsm]

theorem endsOnce_iff_toldOnce (hp : w.protocol = .tcp) : EndsOnce w w' c ↔ ToldOnce w w' c :=
  and_iff_left fun h => absurd hp h

end Ends

/-! Nothing is closed again while what is pending is completed. -/

section Repeated

variable {w : World}

theorem repeatedCloses_uvClose (m : SocketManager) (cb : CloseCb) :
    (m.uvClose cb).repeatedCloses = m.repeatedCloses ↔ m.handle = .open ∨ m.handle = .none := by
  unfold SocketManager.uvClose
  split
  · next h => simp [h]
  · next h => simp [h]
  · next hnone hopen => simpa using ⟨hopen, hnone⟩

theorem repeatedCloses_socketManagerClose (hp : w.protocol ≠ .tcp) (s : Nat) (r : CloseReason) :
    ((w.socketManagerClose s r).sm s).repeatedCloses = (w.sm s).repeatedCloses ↔
      (w.sm s).handle = .open ∨ (w.sm s).handle = .none := by
  rw [socketManagerClose_eq]
  cases hq : w.protocol with
  | tcp => exact absurd hq hp
  | udp | quic =>
    dsimp only
    rw [modSm_sm, update_self, noteRequest_sm]
    exact repeatedCloses_uvClose _ _

theorem repeatedCloses_closedSocketCb (w : World) (s : Nat) :
    ((w.closedSocketCb s).sm s).repeatedCloses = (w.sm s).repeatedCloses := by
  rw [← closedSocketCbFreeing_none]
  exact (closedSocketCbFreeing_sm _ w s).2

theorem repeatedCloses_handleClosed (hp : w.protocol ≠ .tcp) (s : Nat) :
    ((w.handleClosed s).sm s).repeatedCloses = (w.sm s).repeatedCloses := by
  unfold handleClosed
  cases hq : w.protocol with
  | tcp => exact absurd hq hp
  | udp =>
    dsimp only
    unfold udpHandleClosed
    split
    · rw [repeatedCloses_closedSocketCb, markHandleClosed_sm, update_self]
    · rw [markHandleClosed_sm, update_self]
    · rfl
  | quic =>
    dsimp only
    rw [← quicHandleClosedFreeing_none]
    exact repeatedCloses_quicHandleClosedFreeing _ w s

theorem repeatedCloses_settleSocket (hp : w.protocol ≠ .tcp) (s : Nat) :
    ((w.settleSocket s).sm s).repeatedCloses = (w.sm s).repeatedCloses := by
  have hp' : (w.handleClosed s).protocol ≠ .tcp := by
    rw [protocol_of_site (site_handleClosed w s)]
    exact hp
  rw [settleSocket, settleConnect_eq hp, step_handleClosed_eq, step_handleClosed_eq,
    repeatedCloses_handleClosed hp', repeatedCloses_handleClosed hp]

end Repeated

variable {w : World} {s c g : Nat}

theorem mem_opens_home (hpl : Placed w) (hc : c ∈ w.members g) (ho : (w.conn c).isClosed = false) :
    .connection c ∈ w.opens (w.conn c).socketManager :=
  World.mem_opens.mpr
    ⟨mem_dependents_connection.mpr (hpl.mem_of_mem_members hc), isOpen_connection.mpr ho⟩

/-! ### TCP -/

section Tcp

structure OnTcp (w : World) (s c : Nat) : Prop where
  protocol : w.protocol = .tcp
  home : (w.conn c).socketManager = s
  tcp : (w.sm s).tcpConnection = some c
  opens : .connection c ∈ w.opens s

theorem onTcp_of_open (hpl : Placed w) (htp : TcpPlaced w) (hp : w.protocol = .tcp)
    (hc : c ∈ w.members g) (ho : (w.conn c).isClosed = false) :
    OnTcp w (w.conn c).socketManager c :=
  ⟨hp, rfl, htp.of_mem _ c (hpl.mem_of_mem_members hc), mem_opens_home hpl hc ho⟩

theorem OnTcp.isClosed (h : OnTcp w s c) : (w.conn c).isClosed = false :=
  isOpen_connection.mp (World.mem_opens.mp h.opens).2

theorem OnTcp.keep (h : OnTcp w s c) {v : World} (hsite : v.site = w.site)
    (ho : (v.conn c).isClosed = false) : OnTcp v s c := by
  have hsm : (v.sm s).site = (w.sm s).site := congrFun (congrArg Site.sm hsite) s
  have htcp : (v.sm s).tcpConnection = (w.sm s).tcpConnection :=
    congrArg (fun x : List Nat × Option Nat × Bool => x.2.1) hsm
  refine ⟨(protocol_of_site hsite).trans h.protocol, (home_of_site hsite c).trans h.home,
    htcp.trans h.tcp, World.mem_opens.mpr ⟨?_, isOpen_connection.mpr ho⟩⟩
  rw [dependents_of_site hsite]
  exact (World.mem_opens.mp h.opens).1

theorem OnTcp.reportEnd_conn (h : OnTcp w s c) (r : CloseReason) :
    (w.reportEnd c r).conn c = (w.conn c).ended r := by
  unfold reportEnd
  rw [h.home]
  split
  · next hone =>
    have hlast : (w.noteRequest s r).lastOpenConnection s = some c := by
      refine lastOpenConnection_eq_some ?_
      rw [opens_noteRequest]
      exact opens_eq_singleton hone h.opens
    have hreason : ((w.noteRequest s r).sm s).closeReason = r := by rw [noteRequest_sm]
    rw [socketManagerClose_eq, h.protocol]
    dsimp only
    rw [closedSocketCb, hlast]
    dsimp only
    rw [hreason]
    exact terminate_conn_self _ c r
  · exact terminate_conn_self w c r

theorem reportEnd_handle_tcp (hp : w.protocol = .tcp) (c : Nat) (r : CloseReason) (u : Nat) :
    ((w.reportEnd c r).sm u).handle = (w.sm u).handle := by
  have hnote : ∀ t, ((w.noteRequest t r).sm u).handle = (w.sm u).handle := by
    intro t
    by_cases hu : u = t
    · subst hu
      rw [noteRequest_sm]
    · simp [noteRequest, hu]
  unfold reportEnd
  split
  · rw [socketManagerClose_eq, hp]
    dsimp only
    rw [closedSocketCb]
    split
    · exact hnote _
    · rw [modSm_sm]
      by_cases hu : u = (w.conn c).socketManager
      · subst hu
        rw [update_self, ← hnote]
        rfl
      · rw [update_of_ne hu, hnote]
  · rfl

theorem handleClosed_eq_self_tcp (hp : w.protocol = .tcp) (ht : (w.sm s).tcpConnection = some c)
    (hh : ∀ cb, (w.sm s).handle = .closing cb → cb.reportsTcp = false) : w.handleClosed s = w := by
  rw [handleClosed, hp]
  dsimp only
  rw [tcpHandleClosed]
  split
  · rw [ht]
    split
    · next hcb _ => exact absurd (hh _ hcb) (by decide)
    · next hcb _ => exact absurd (hh _ hcb) (by decide)
    · next hcb _ => exact absurd (hh _ hcb) (by decide)
    · next htcp => cases htcp
    · rfl
  · rfl

theorem OnTcp.handleClosed_conn (h : OnTcp w s c) (hpending : (w.sm s).connectPending = none)
    {cb : CloseCb} (hh : (w.sm s).handle = .closing cb) (hcb : cb.reportsTcp = true) :
    ∃ r, ((w.handleClosed s).handleClosed s).conn c = (w.conn c).ended r := by
  have hmark : OnTcp (w.markHandleClosed s) s c := h.keep (site_markHandleClosed w s) h.isClosed
  -- the callback reports the connection, for whichever reason
  have hreport : ∃ r, w.handleClosed s = (w.markHandleClosed s).reportEnd c r := by
    rw [handleClosed, h.protocol]
    dsimp only
    rw [tcpHandleClosed, if_pos hpending, hh, h.tcp]
    cases cb with
    | onLibuvClose => exact ⟨_, rfl⟩
    | onLibuvCloseAfterError => exact ⟨_, rfl⟩
    | onAbort => exact ⟨_, rfl⟩
    | _ => cases hcb
  obtain ⟨r, hreport⟩ := hreport
  have hclosed : ((w.handleClosed s).sm s).handle = .closed := by
    rw [hreport, reportEnd_handle_tcp hmark.protocol, markHandleClosed_sm, update_self]
  have htcp : ((w.handleClosed s).sm s).tcpConnection = some c := by
    have hsm : ((w.handleClosed s).sm s).site = (w.sm s).site :=
      congrFun (congrArg Site.sm (site_handleClosed w s)) s
    exact (congrArg (fun x : List Nat × Option Nat × Bool => x.2.1) hsm).trans h.tcp
  -- and the handle is closed only once
  have hsecond : (w.handleClosed s).handleClosed s = w.handleClosed s :=
    handleClosed_eq_self_tcp ((protocol_of_site (site_handleClosed w s)).trans h.protocol) htcp
      fun cb hcb => by rw [hclosed] at hcb; cases hcb
  refine ⟨r, ?_⟩
  rw [hsecond, hreport, hmark.reportEnd_conn]
  rfl

/-! The connect request of a handle that is being closed is cancelled. That of a clone is refused:
`on_clone_connect` closes the connection, which stays open, and calls `establishment_error`. -/

theorem refuse_conn (hp : w.protocol = .tcp) (hx : (w.conn c).Hears)
    (ho : (w.conn c).isClosed = false) :
    ((w.refuse c).conn c).Hears ∧ ((w.refuse c).conn c).isClosed = false ∧
      ((w.refuse c).conn c).terminalCalls = (w.conn c).terminalCalls + 1 := by
  have hclose : ((w.connectionClose c).conn c).Hears ∧
      ((w.connectionClose c).conn c).isClosed = false ∧
      ((w.connectionClose c).conn c).terminalCalls = (w.conn c).terminalCalls := by
    unfold connectionClose
    split
    · exact ⟨hx, ho, rfl⟩
    · rw [protocolClose, modConn_protocol, hp]
      dsimp only
      rw [tcpClose, modSm_conn, modConn_conn, update_self]
      exact ⟨hx, rfl, Connection.terminalCalls_enter _ _⟩
  rw [refuse, modConn_conn, update_self]
  refine ⟨hclose.1, hclose.2.1, ?_⟩
  rw [Connection.terminalCalls_invoke_of_hears hclose.1 rfl, hclose.2.2]

theorem refuse_sm (hp : w.protocol = .tcp) (hs : (w.conn c).socketManager = s) {cb : CloseCb}
    (hh : (w.sm s).handle = .closing cb) :
    ((w.refuse c).sm s).handle = .closing cb ∧
      ((w.refuse c).sm s).connectPending = (w.sm s).connectPending := by
  have hkeep : ∀ m : SocketManager, m.handle = .closing cb →
      m.uvClose .onLibuvClose = { m with repeatedCloses := m.repeatedCloses + 1 } := by
    intro m hm
    unfold SocketManager.uvClose
    rw [hm]
  unfold refuse connectionClose
  rw [modConn_sm]
  split
  · exact ⟨hh, rfl⟩
  · have hhome : ((w.modConn c (Connection.enter .closing)).conn c).socketManager = s :=
      (home_of_site (site_modConn_enter w c _) c).trans hs
    rw [protocolClose, modConn_protocol, hp]
    dsimp only
    rw [tcpClose, hhome, modSm_sm, update_self, modConn_sm, hkeep _ hh]
    exact ⟨hh, rfl⟩

def cancelCalls (m : SocketManager) : Nat := if m.connectPending = some .onCloneConnect then 1 else 0

theorem OnTcp.settleConnect (h : OnTcp w s c) (hx : (w.conn c).Hears) {cb : CloseCb}
    (hh : (w.sm s).handle = .closing cb) {v : World} (hv : v = w.settleConnect s) :
    OnTcp v s c ∧ (v.sm s).handle = .closing cb ∧ (v.sm s).connectPending = none ∧
      (v.conn c).Hears ∧
      (v.conn c).terminalCalls = (w.conn c).terminalCalls + cancelCalls (w.sm s) := by
  have hsite : v.site = w.site := by rw [hv, site_settleConnect]
  set w₁ := w.modSm s fun m => { m with connectPending := none }
  have hh₁ : (w₁.sm s).handle = .closing cb := by simpa [w₁] using hh
  have hpending₁ : (w₁.sm s).connectPending = none := by simp [w₁]
  have hconnected : v = w.connected s false false := by
    rw [hv, World.settleConnect, hh]
    exact step_connected_eq h.protocol s false false
  rw [connected, h.tcp] at hconnected
  cases hcp : (w.sm s).connectPending with
  | none =>
    rw [hcp] at hconnected
    obtain rfl : v = w := hconnected
    exact ⟨h, hh, hcp, hx, by rw [cancelCalls, hcp]; rfl⟩
  | some k =>
    rw [hcp] at hconnected
    cases k with
    | onConnect =>
      obtain rfl : v = w₁ := hconnected.trans (if_neg (by rw [hh]; exact Handle.noConfusion))
      exact ⟨h.keep hsite h.isClosed, hh₁, hpending₁, hx, by rw [cancelCalls, hcp]; rfl⟩
    | onCloneConnect =>
      obtain rfl : v = w₁.refuse c := hconnected
      obtain ⟨hhears, hclosed, hcalls⟩ := refuse_conn (w := w₁) h.protocol hx h.isClosed
      obtain ⟨hhandle, hcp₁⟩ := refuse_sm (w := w₁) h.protocol h.home hh₁
      exact ⟨h.keep hsite hclosed, hhandle, hcp₁.trans hpending₁, hhears,
        by rw [cancelCalls, hcp]; exact hcalls⟩

theorem OnTcp.settleSocket_conn (h : OnTcp w s c) (hx : (w.conn c).Hears) {cb : CloseCb}
    (hh : (w.sm s).handle = .closing cb) (hcb : cb.reportsTcp = true) :
    ((w.settleSocket s).conn c).isClosed = true ∧
      ((w.settleSocket s).conn c).terminalCalls =
        (w.conn c).terminalCalls + cancelCalls (w.sm s) + 1 := by
  obtain ⟨h', hh', hpending', hx', hcalls⟩ := h.settleConnect hx hh rfl
  obtain ⟨r, hend⟩ := h'.handleClosed_conn hpending' hh' hcb
  rw [settleSocket, step_handleClosed_eq, step_handleClosed_eq, hend,
    Connection.terminalCalls_ended hx', hcalls]
  exact ⟨rfl, rfl⟩

theorem settleSocket_eq_self_tcp (hp : w.protocol = .tcp) (ht : (w.sm s).tcpConnection = some c)
    (hh : ∀ cb, (w.sm s).handle ≠ .closing cb) : w.settleSocket s = w := by
  have hconnect : w.settleConnect s = w := by
    unfold settleConnect
    split
    · next cb hcb => exact absurd hcb (hh cb)
    · rfl
  have hclosed : w.handleClosed s = w :=
    handleClosed_eq_self_tcp hp ht fun cb hcb => absurd hcb (hh cb)
  rw [settleSocket, hconnect, step_handleClosed_eq, step_handleClosed_eq, hclosed, hclosed]

theorem OnTcp.settleSocket_open (h : OnTcp w s c) (hx : (w.conn c).Hears)
    (hh : ∀ cb, (w.sm s).handle = .closing cb → cb.reportsTcp = false) :
    ((w.settleSocket s).conn c).isClosed = false := by
  by_cases hclosing : ∃ cb, (w.sm s).handle = .closing cb
  · obtain ⟨cb, hcb⟩ := hclosing
    obtain ⟨h', hh', -⟩ := h.settleConnect hx hcb rfl
    have hself : (w.settleConnect s).handleClosed s = w.settleConnect s :=
      handleClosed_eq_self_tcp h'.protocol h'.tcp fun cb' hcb' =>
        hh cb' (hcb.trans (hh'.symm.trans hcb'))
    rw [settleSocket, step_handleClosed_eq, step_handleClosed_eq, hself, hself]
    exact h'.isClosed
  · rw [settleSocket_eq_self_tcp h.protocol h.tcp fun cb hcb => hclosing ⟨cb, hcb⟩]
    exact h.isClosed

theorem OnTcp.endsOnce_abort (h : OnTcp w s c) (hx : (w.conn c).Hears) :
    EndsOnce w ((w.tcpAbort c).settleSocket s) c ↔
      (w.sm s).connectPending ≠ some .onCloneConnect ∧ (w.sm s).handle.reportsTcp = true := by
  rw [endsOnce_iff_toldOnce h.protocol]
  have hv : OnTcp (w.tcpAbort c) s c := by
    refine h.keep ?_ h.isClosed
    exact site_modSm w _ fun m => SocketManager.site_uvClose m _
  have hsm : (w.tcpAbort c).sm s = (w.sm s).uvClose .onAbort := by
    rw [tcpAbort, h.home, modSm_sm, update_self]
  have hpending : cancelCalls ((w.tcpAbort c).sm s) = cancelCalls (w.sm s) := by
    have hkeep : ((w.sm s).uvClose .onAbort).connectPending = (w.sm s).connectPending := by
      unfold SocketManager.uvClose
      split <;> rfl
    rw [hsm, cancelCalls, cancelCalls, hkeep]
  have hhandle : ((w.tcpAbort c).sm s).handle =
      if (w.sm s).handle = .open then .closing .onAbort else (w.sm s).handle := by
    rw [hsm, handle_uvClose]
  by_cases hreports : (w.sm s).handle.reportsTcp = true
  · have hclosing : ∃ cb, ((w.tcpAbort c).sm s).handle = .closing cb ∧ cb.reportsTcp = true := by
      rw [hhandle]
      cases hh : (w.sm s).handle with
      | «open» => exact ⟨.onAbort, rfl, rfl⟩
      | closing cb =>
        rw [hh] at hreports
        exact ⟨cb, rfl, hreports⟩
      | none =>
        rw [hh] at hreports
        cases hreports
      | closed =>
        rw [hh] at hreports
        cases hreports
    obtain ⟨cb, hh, hcb⟩ := hclosing
    obtain ⟨hclosed, hcalls⟩ := hv.settleSocket_conn hx hh hcb
    rw [ToldOnce, hclosed, hcalls, hpending, h.isClosed, cancelCalls, and_iff_left hreports]
    show true = true ∧ (w.conn c).terminalCalls + _ + 1 = (w.conn c).terminalCalls + 1 ↔ _
    split
    · next hclone => simp [hclone]
    · next hclone => simp [hclone]
  · refine iff_of_false (not_toldOnce_of_open (hv.settleSocket_open hx fun cb hcb => ?_)) ?_
    · rw [hhandle] at hcb
      split at hcb
      · next hopen => exact absurd (by rw [hopen]; rfl) hreports
      · rw [hcb, Bool.not_eq_true] at hreports
        exact hreports
    · exact fun hends => hreports hends.2

end Tcp

/-! ### UDP -/

section Udp

theorem udpHandleClosed_conn_last (hc : w.opens s = [.connection c])
    (hh : (w.sm s).handle = .closing .socketClosedSuccess) :
    (w.udpHandleClosed s).conn c = (w.conn c).ended (w.sm s).closeReason := by
  have hlast : (w.markHandleClosed s).lastOpenConnection s = some c := by
    refine lastOpenConnection_eq_some ?_
    rw [← hc]
    exact opens_modSm rfl rfl
  have hreason : ((w.markHandleClosed s).sm s).closeReason = (w.sm s).closeReason := by simp
  rw [udpHandleClosed, hh]
  dsimp only
  rw [closedSocketCb, hlast]
  dsimp only
  rw [hreason]
  exact terminate_conn_self _ c _

theorem udpHandleClosed_conn_idle (hh : (w.sm s).handle ≠ .closing .socketClosedSuccess) :
    (w.udpHandleClosed s).conn = w.conn ∧
      ((w.udpHandleClosed s).sm s).handle ≠ .closing .socketClosedSuccess := by
  unfold udpHandleClosed
  split
  · next h => exact absurd h hh
  · exact ⟨rfl, by simp⟩
  · exact ⟨rfl, hh⟩

theorem settleSocket_conn_udp (hp : w.protocol = .udp) (hc : w.opens s = [.connection c]) :
    (w.settleSocket s).conn c =
      if (w.sm s).handle = .closing .socketClosedSuccess then (w.conn c).ended (w.sm s).closeReason
      else w.conn c := by
  rw [settleSocket_eq_udp hp]
  by_cases hh : (w.sm s).handle = .closing .socketClosedSuccess
  · have hend := udpHandleClosed_conn_last hc hh
    rw [if_pos hh, udpHandleClosed_conn_of_closed (by rw [hend]; rfl), hend]
  · obtain ⟨hfirst, hh'⟩ := udpHandleClosed_conn_idle hh
    rw [if_neg hh, (udpHandleClosed_conn_idle hh').1, hfirst]

theorem handle_socketManagerClose_udp (hp : w.protocol = .udp) (s : Nat) (r : CloseReason) :
    ((w.socketManagerClose s r).sm s).handle =
      if (w.sm s).handle = .open then .closing .socketClosedSuccess else (w.sm s).handle := by
  rw [socketManagerClose_eq, hp]
  dsimp only
  rw [modSm_sm, update_self, handle_uvClose, noteRequest_sm]

theorem endsOnce_udpAbort (hp : w.protocol = .udp) (hs : (w.conn c).socketManager = s)
    (hc : .connection c ∈ w.opens s) (hx : (w.conn c).Hears) :
    EndsOnce w ((w.udpAbort c).settleSocket s) c ↔
      w.numOpenDependents s ≠ 1 ∨ (w.sm s).handle = .open := by
  have hopen : (w.conn c).isClosed = false := isOpen_connection.mp (World.mem_opens.mp hc).2
  have hne : w.protocol ≠ .tcp := by rw [hp]; decide
  have hp' : (w.udpAbort c).protocol = .udp :=
    (protocol_of_site (site_abortedConnectionCb w c)).trans hp
  have hcount : (((w.udpAbort c).settleSocket s).sm s).repeatedCloses =
      ((w.udpAbort c).sm s).repeatedCloses := repeatedCloses_settleSocket (by rw [hp']; decide) s
  obtain ⟨r, hr⟩ : ∃ r, w.udpAbort c = w.reportEnd c r := ⟨_, rfl⟩
  rw [reportEnd, hs] at hr
  rw [EndsOnce, hs, hcount]
  by_cases hone : w.numOpenDependents s = 1
  · rw [if_pos hone] at hr
    have hopens : (w.udpAbort c).opens s = [.connection c] := by
      rw [hr, opens_socketManagerClose hne]
      exact opens_eq_singleton hone hc
    have hend := settleSocket_conn_udp hp' hopens
    rw [hr, socketManagerClose_conn hne, handle_socketManagerClose_udp hp] at hend
    have hagain := repeatedCloses_socketManagerClose hne s r
    rw [hr, hagain]
    by_cases hh : (w.sm s).handle = .open
    · rw [if_pos hh, if_pos rfl] at hend
      exact iff_of_true ⟨toldOnce_of_ended hx hopen hend, fun _ => Or.inl hh⟩ (Or.inr hh)
    · refine iff_of_false ?_ fun hor => hor.elim (fun hmany => hmany hone) hh
      rintro ⟨htold, hhandle⟩
      have hnone : (w.sm s).handle = .none := (hhandle hne).resolve_left hh
      rw [if_neg hh, hnone, if_neg Handle.noConfusion] at hend
      exact not_toldOnce_of_open (by rw [hend]; exact hopen) htold
  · rw [if_neg hone] at hr
    have hend : (w.udpAbort c).conn c = (w.conn c).ended r := by
      rw [hr]
      exact terminate_conn_self w c r
    have hkeep := settleSocket_conn_of_closed_udp (s := s) hp' (c := c) (by rw [hend]; rfl)
    refine iff_of_true ⟨toldOnce_of_ended hx hopen (hkeep.trans hend), fun _ => ?_⟩ (Or.inl hone)
    rw [hr]
    rfl

end Udp

end World

end CTaps.Connections
