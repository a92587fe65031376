import CTaps.Connections.Abort

/-! The abort of a QUIC connection. With other members open its stream is reset and the connection
closed without a word to the application, and without a stream nothing happens at all. Only the last
open member asks picoquic to close, whose report then ends the group. -/

namespace CTaps.Connections

open Function
open Gathering (Protocol)

def Handle.awaitsQuic : Handle → Bool
  | .closing .socketTimerClose | .closing .quicClosedPollHandle => true
  | _ => false

theorem Handle.awaitsQuic_iff {h : Handle} : h.awaitsQuic = true ↔
    h = .closing .socketTimerClose ∨ h = .closing .quicClosedPollHandle := by
  cases h with
  | closing cb => cases cb <;> simp [awaitsQuic]
  | _ => simp [awaitsQuic]

namespace World

variable {w : World} {s c g : Nat} {order : List Nat}

/-! ### Closing the handles -/

theorem quicHandleClosed_eq_self (h : (w.sm s).handle.awaitsQuic = false) :
    w.quicHandleClosed s = w := by
  unfold quicHandleClosed
  split
  · next hh =>
    rw [hh] at h
    cases h
  · next hh =>
    rw [hh] at h
    cases h
  · rfl

theorem handle_closedSocketCb (w : World) (s : Nat) :
    ((w.closedSocketCb s).sm s).handle = (w.sm s).handle := by
  unfold closedSocketCb
  split
  · rfl
  · simp [SocketManager.closeListener]

theorem quicHandleClosed_marked (w : World) (s : Nat) :
    ((w.markHandleClosed s).closedSocketCb s).quicHandleClosed s =
      (w.markHandleClosed s).closedSocketCb s := by
  refine quicHandleClosed_eq_self ?_
  rw [handle_closedSocketCb, markHandleClosed_sm, update_self]
  rfl

theorem settleSocket_eq_quic (hp : w.protocol = .quic) (s : Nat) :
    w.settleSocket s = if (w.sm s).handle.awaitsQuic then (w.markHandleClosed s).closedSocketCb s
      else w := by
  have hhandle : ∀ {v : World}, v.protocol = .quic →
      v.step (.handleClosed s) = v.quicHandleClosed s := by
    intro v hv
    rw [step_handleClosed_eq, handleClosed, hv]
  rw [settleSocket, settleConnect_eq (by rw [hp]; decide), hhandle ((protocol_step _ _).trans hp),
    hhandle hp]
  split
  · next hawaits =>
    rcases Handle.awaitsQuic_iff.mp hawaits with htimer | hpoll
    · have hboth := handlesClosed_eq (fun _ => false) htimer
      rwa [quicHandleClosedFreeing_none, quicHandleClosedFreeing_none,
        closedSocketCbFreeing_none] at hboth
    · have hfirst : w.quicHandleClosed s = (w.markHandleClosed s).closedSocketCb s := by
        rw [quicHandleClosed, hpoll]
      rw [hfirst, quicHandleClosed_marked]
  · next hawaits =>
    have hself := quicHandleClosed_eq_self (Bool.not_eq_true _ ▸ hawaits)
    rw [hself, hself]

theorem settleSocket_settleSocket (hp : w.protocol = .quic) (s : Nat) :
    (w.settleSocket s).settleSocket s = w.settleSocket s := by
  rw [settleSocket_eq_quic ((protocol_of_site (site_settleSocket w s)).trans hp)]
  refine if_neg ?_
  rw [settleSocket_eq_quic hp]
  split
  · rw [handle_closedSocketCb, markHandleClosed_sm, update_self]
    exact Bool.false_ne_true
  · next h => exact h

theorem settleSocket_conn_quic (hp : w.protocol = .quic) (s c : Nat) :
    (w.settleSocket s).conn c =
      if (w.sm s).handle.awaitsQuic = true ∧ w.lastOpenConnection s = some c then
        (w.conn c).ended (w.sm s).closeReason
      else w.conn c := by
  have hlast : (w.markHandleClosed s).lastOpenConnection s = w.lastOpenConnection s := by
    simp [lastOpenConnection]
  have hreason : ((w.markHandleClosed s).sm s).closeReason = (w.sm s).closeReason := by simp
  rw [settleSocket_eq_quic hp]
  by_cases hawaits : (w.sm s).handle.awaitsQuic = true
  · rw [if_pos hawaits, closedSocketCb, hlast, hreason]
    cases hl : w.lastOpenConnection s with
    | none =>
      rw [if_neg (by simp)]
      rfl
    | some d =>
      dsimp only
      by_cases hd : d = c
      · subst hd
        rw [if_pos ⟨hawaits, rfl⟩]
        exact terminate_conn_self _ d _
      · rw [if_neg (by simp [hd])]
        simp [terminate, Ne.symm hd]
  · rw [if_neg hawaits, if_neg fun h => hawaits h.1]

theorem settleSocket_conn_of_closed_quic (hp : w.protocol = .quic) (s : Nat)
    (hc : (w.conn c).isClosed = true) : (w.settleSocket s).conn c = w.conn c := by
  rw [settleSocket_conn_quic hp]
  refine if_neg fun h => ?_
  exact open_of_lastOpenConnection h.2 (of_decide_eq_true hc)

/-! ### The report of picoquic -/

section Report

variable {cs ds es : List Nat} {error : Bool}

structure Reported (w : World) (s : Nat) (ds : List Nat) (c : Nat) (es : List Nat) : Prop where
  protocol : w.protocol = .quic
  nodup : (ds ++ c :: es).Nodup
  list : (w.sm s).allConnections.Nodup
  home : ∀ d ∈ ds ++ c :: es, (w.conn d).socketManager = s
  opens : ∀ d ∈ ds ++ c :: es, .connection d ∈ w.opens s

def StillUsed (w : World) (s : Nat) (ds : List Nat) (c : Nat) : Prop :=
  ∃ t ∈ w.opens s, t ≠ .connection c ∧ ∀ d ∈ ds, t ≠ .connection d

def report (error : Bool) : World → Nat → World :=
  if error then abortedConnectionCb else closedConnectionCb

theorem report_eq (error : Bool) (w : World) (c : Nat) : ∃ r, report error w c = w.reportEnd c r := by
  cases error with
  | false => exact ⟨_, rfl⟩
  | true => exact ⟨_, rfl⟩

theorem site_report (error : Bool) (w : World) (c : Nat) : (report error w c).site = w.site := by
  obtain ⟨r, hr⟩ := report_eq error w c
  rw [hr, site_reportEnd]

theorem protocol_report (error : Bool) (w : World) (c : Nat) :
    (report error w c).protocol = w.protocol :=
  protocol_of_site (site_report error w c)

theorem reports_conn_of_not_mem (hp : w.protocol = .quic) (hc : c ∉ cs) :
    (cs.foldl (report error) w).conn c = w.conn c := by
  induction cs generalizing w with
  | nil => rfl
  | cons d cs ih =>
    obtain ⟨hne, hnot⟩ := not_or.mp (mt List.mem_cons.mpr hc)
    obtain ⟨r, hr⟩ := report_eq error w d
    rw [List.foldl_cons, ih ((protocol_report error w d).trans hp) hnot, hr,
      reportEnd_conn_of_ne (by rw [hp]; decide) hne]

theorem Reported.before (h : Reported w s ds c es) (error : Bool) :
    Ended error ds s w (ds.foldl (report error) w) ∧
      SameButList s w (ds.foldl (report error) w) ∧ c ∉ ds := by
  have hmem : ∀ d ∈ ds, d ∈ ds ++ c :: es := fun d hd => List.mem_append_left _ hd
  have hc : c ∈ ds ++ c :: es := List.mem_append_right _ List.mem_cons_self
  obtain ⟨hds, -, hnot⟩ := List.nodup_append.mp h.nodup
  have hnotin : c ∉ ds := fun hin => hnot c hin c List.mem_cons_self rfl
  have hreports := reports_other (fun _ => false) error hds (fun d hd => h.home d (hmem d hd))
    (fun d hd => h.opens d (hmem d hd)) (h.opens c hc)
    fun d hd heq => hnotin (Dependent.connection.inj heq ▸ hd)
  rw [reportFreeing_none] at hreports
  exact ⟨hreports.1, hreports.2, hnotin⟩

theorem Reported.used (h : Reported w s ds c es) (hused : StillUsed w s ds c) (error : Bool) :
    ∃ r, ((ds ++ c :: es).foldl (report error) w).conn c = (w.conn c).ended r := by
  obtain ⟨hended, -, hnotin⟩ := h.before error
  set w₁ := ds.foldl (report error) w
  have hc : c ∈ ds ++ c :: es := List.mem_append_right _ List.mem_cons_self
  obtain ⟨r, hr⟩ := report_eq error w₁ c
  have hconn : w₁.conn c = w.conn c := hended.other c hnotin
  have hmany : w₁.numOpenDependents (w₁.conn c).socketManager ≠ 1 := by
    obtain ⟨t, ht, hne, hbefore⟩ := hused
    have ht₁ := hended.mem_opens ht hbefore
    have hc₁ := hended.mem_opens (h.opens c hc) fun d hd heq =>
      hnotin (Dependent.connection.inj heq ▸ hd)
    rw [hconn, h.home c hc]
    intro hone
    rw [opens_eq_singleton hone hc₁] at ht₁
    exact hne (List.mem_singleton.mp ht₁)
  have hes : c ∉ es := by
    obtain ⟨-, hes, -⟩ := List.nodup_append.mp h.nodup
    exact (List.nodup_cons.mp hes).1
  refine ⟨r, ?_⟩
  rw [List.foldl_append, List.foldl_cons,
    reports_conn_of_not_mem ((protocol_report error _ c).trans (hended.protocol.trans h.protocol)) hes]
  show (report error w₁ c).conn c = _
  rw [hr, reportEnd, if_neg hmany, terminate_conn_self, hconn]
  rfl

theorem Reported.unused (h : Reported w s ds c es) (hunused : ¬ StillUsed w s ds c) (error : Bool)
    {v : World} (hv : v = (ds ++ c :: es).foldl (report error) w) :
    v.protocol = .quic ∧ v.conn c = w.conn c ∧ v.lastOpenConnection s = some c ∧
      (v.sm s).handle =
        (if (w.sm s).handle = .open then .closing .socketTimerClose else (w.sm s).handle) ∧
      ((v.sm s).repeatedCloses = (w.sm s).repeatedCloses ↔
        (w.sm s).handle = .open ∨ (w.sm s).handle = .none) := by
  obtain ⟨hended, hsame, hnotin⟩ := h.before error
  set w₁ := ds.foldl (report error) w
  have hc : c ∈ ds ++ c :: es := List.mem_append_right _ List.mem_cons_self
  obtain ⟨r, hr⟩ := report_eq error w₁ c
  have hp₁ : w₁.protocol = .quic := hended.protocol.trans h.protocol
  have hconn : w₁.conn c = w.conn c := hended.other c hnotin
  have hc₁ : .connection c ∈ w₁.opens s := hended.mem_opens (h.opens c hc) fun d hd heq =>
    hnotin (Dependent.connection.inj heq ▸ hd)
  have hopens : w₁.opens s = [.connection c] := by
    refine opens_eq_of_forall (hended.sublist.nodup h.list) hc₁ fun t ht => ?_
    obtain ⟨ht, hbefore⟩ := hended.of_mem_opens ht
    by_contra hne
    exact hunused ⟨t, ht, hne, hbefore⟩
  -- nobody is left to be reported
  have hes : es = [] := by
    refine List.eq_nil_iff_forall_not_mem.mpr fun e he => hunused ⟨.connection e, ?_, ?_, ?_⟩
    · exact h.opens e (List.mem_append_right _ (List.mem_cons_of_mem c he))
    · obtain ⟨-, hnodup, -⟩ := List.nodup_append.mp h.nodup
      intro heq
      exact (List.nodup_cons.mp hnodup).1 (Dependent.connection.inj heq ▸ he)
    · obtain ⟨-, -, hnot⟩ := List.nodup_append.mp h.nodup
      intro d hd heq
      exact hnot d hd e (List.mem_cons_of_mem c he) (Dependent.connection.inj heq).symm
  have hclose : v = w₁.socketManagerClose s r := by
    rw [hv, hes, List.foldl_append]
    show report error w₁ c = _
    rw [hr, reportEnd, hconn, h.home c hc, if_pos (numOpenDependents_of_opens hopens)]
  have hne : w₁.protocol ≠ .tcp := by rw [hp₁]; decide
  refine ⟨?_, ?_, lastOpenConnection_eq_some ?_, ?_, ?_⟩
  · rw [hclose, protocol_of_site (site_socketManagerClose w₁ s r), hp₁]
  · rw [hclose, socketManagerClose_conn hne, hconn]
  · rw [hclose, opens_socketManagerClose hne, hopens]
  · rw [hclose, socketManagerClose_eq, hp₁]
    dsimp only
    rw [modSm_sm, update_self, handle_uvClose, noteRequest_sm, hsame]
  · have hagain := repeatedCloses_socketManagerClose hne s r
    rw [hsame] at hagain
    rw [hclose]
    exact hagain

end Report

/-! ### One connection -/

def Resets (w : World) (refused : List Nat) (c : Nat) : Prop :=
  1 < w.numActiveConnections (w.conn c).group ∧ (w.conn c).stream.isSome = true ∧ c ∉ refused

def ReportDue (w : World) (g : Nat) : Prop :=
  (w.cnx g).closed = false ∧ ((w.cnx g).closing = true ∨ w.numActiveConnections g ≤ 1)
deriving Decidable

structure QuicAbortEnds (w : World) (refused order : List Nat) (c : Nat) : Prop where
  kept : ¬ w.Resets refused c
  due : w.ReportDue (w.conn c).group → (w.sm (w.conn c).socketManager).handle = .open ∨
    w.OutsideOpen (w.conn c).socketManager (w.conn c).group ∨
    (w.sm (w.conn c).socketManager).handle = .none ∧
      w.StillUsed (w.conn c).socketManager (order.takeWhile (· ≠ c)) c
  pending : ¬ w.ReportDue (w.conn c).group →
    (w.sm (w.conn c).socketManager).handle.awaitsQuic = true ∧
      w.lastOpenConnection (w.conn c).socketManager = some c

def askClose (w : World) (g : Nat) : World :=
  w.modCnx g fun x => { x with closing := x.closing || decide (w.numActiveConnections g ≤ 1) }

theorem askClose_eq_self (h : 1 < w.numActiveConnections g) : w.askClose g = w := by
  have hcnx : { w.cnx g with
      closing := (w.cnx g).closing || decide (w.numActiveConnections g ≤ 1) } = w.cnx g := by
    rw [decide_eq_false (Nat.not_le.mpr h), Bool.or_false]
  rw [askClose, modCnx, hcnx, update_eq_self]

theorem quicAbort_eq {refused : List Nat} (h : ¬ w.Resets refused c) :
    w.quicAbort c refused = w.askClose (w.conn c).group := by
  unfold quicAbort
  split
  · next hmany =>
    rw [askClose_eq_self hmany]
    exact if_neg fun hreset => h ⟨hmany, hreset⟩
  · next hone =>
    rw [picoquicCloseImmediate, askClose, decide_eq_true (Nat.not_lt.mp hone)]
    simp only [Bool.or_true]

section Single

variable {refused : List Nat} {error : Bool}

theorem settleCnx_askClose (hp : w.protocol = .quic) (horder : order.Perm (w.members g))
    (error : Bool) :
    ((w.askClose g).settleCnx g order error) =
      if w.ReportDue g then
        (order.filter fun d => !(w.conn d).isClosed).foldl (report error)
          ((w.askClose g).modCnx g fun x => { x with closed := true })
      else w.askClose g := by
  have hcnx : ((w.askClose g).cnx g).closing = true ∧ ((w.askClose g).cnx g).closed = false ↔
      w.ReportDue g := by
    rw [askClose, modCnx_cnx, update_self, ReportDue, and_comm]
    simp
  unfold settleCnx
  by_cases hdue : w.ReportDue g
  · rw [if_pos (hcnx.mpr hdue), if_pos hdue]
    have hen : (w.askClose g).enabled (.cnxClosed g order error) = true :=
      decide_eq_true ⟨hp, (hcnx.mpr hdue).2, horder⟩
    exact if_pos hen
  · rw [if_neg (mt hcnx.mp hdue), if_neg hdue]

theorem reported_of_perm (hpl : Placed w) (hp : w.protocol = .quic)
    (horder : order.Perm (w.members g)) (hc : c ∈ w.members g) (ho : (w.conn c).isClosed = false) :
    ∃ ds es, (order.filter fun d => !(w.conn d).isClosed) = ds ++ c :: es ∧
      Reported w (w.conn c).socketManager ds c es ∧
      (StillUsed w (w.conn c).socketManager ds c ↔
        StillUsed w (w.conn c).socketManager (order.takeWhile (· ≠ c)) c) := by
  have hmembers := openMembers_of_perm hpl hp ⟨c, hc, rfl⟩ horder
  obtain ⟨l, l', hl, hnot⟩ := List.eq_append_cons_of_mem (horder.mem_iff.mpr hc)
  have hsplit : (order.filter fun d => !(w.conn d).isClosed) =
      l.filter (fun d => !(w.conn d).isClosed) ++
        c :: l'.filter fun d => !(w.conn d).isClosed := by
    rw [hl, List.filter_append, List.filter_cons_of_pos (by rw [ho]; rfl)]
  have hbefore : order.takeWhile (· ≠ c) = l := by
    rw [hl, List.takeWhile_append_of_pos, List.takeWhile_cons_of_neg, List.append_nil]
    · simp
    · intro d hd
      exact decide_eq_true fun heq : d = c => hnot (heq ▸ hd)
  refine ⟨_, _, hsplit, ?_, ?_⟩
  · rw [hsplit] at hmembers
    exact ⟨hp, hmembers.nodup, hpl.nodup _, hmembers.home, hmembers.opens⟩
  · rw [hbefore]
    constructor
    · rintro ⟨t, ht, hne, hds⟩
      refine ⟨t, ht, hne, fun d hd heq => ?_⟩
      -- an open dependent among those before `c` has been reported
      have hopen : w.isOpen _ (.connection d) = true := heq ▸ (World.mem_opens.mp ht).2
      rw [isOpen_connection] at hopen
      exact hds d (List.mem_filter.mpr ⟨hd, by rw [hopen]; rfl⟩) heq
    · rintro ⟨t, ht, hne, hl⟩
      exact ⟨t, ht, hne, fun d hd => hl d (List.mem_filter.mp hd).1⟩

theorem settle_askClose {v : World} (hv : v = (w.askClose g).settleCnx g order error)
    (hsite : v.site = w.site) (c : Nat) :
    (w.askClose g).settle g order error [c] = v.settleSocket (w.conn c).socketManager := by
  rw [settle, ← hv, List.foldl_cons, List.foldl_nil, settleHome, home_of_site hsite]

theorem toldOnce_of_due (hpl : Placed w) (hp : w.protocol = .quic)
    (horder : order.Perm (w.members g)) (hc : c ∈ w.members g) (ho : (w.conn c).isClosed = false)
    (hx : (w.conn c).Hears) (hdue : w.ReportDue g) (hs : (w.conn c).socketManager = s) :
    ToldOnce w ((w.askClose g).settle g order error [c]) c ↔
      (w.sm s).handle = .open ∨ (w.sm s).handle.awaitsQuic = true ∨
        w.StillUsed s (order.takeWhile (· ≠ c)) c := by
  obtain ⟨ds, es, hfilter, hreported, hused⟩ := reported_of_perm hpl hp horder hc ho
  have hv := settleCnx_askClose hp horder error
  rw [if_pos hdue, hfilter] at hv
  rw [hs] at hreported hused
  set w₀ := (w.askClose g).modCnx g fun x => { x with closed := true }
  have hreported₀ : Reported w₀ s ds c es :=
    ⟨hreported.protocol, hreported.nodup, hreported.list, hreported.home, hreported.opens⟩
  have hsite : ((ds ++ c :: es).foldl (report error) w₀).site = w.site :=
    Lib.foldl_keeps World.site (site_report error) w₀ _
  rw [settle_askClose hv.symm hsite, hs]
  by_cases hstill : StillUsed w s ds c
  · obtain ⟨r, hend⟩ := hreported₀.used hstill error
    have hkeep := settleSocket_conn_of_closed_quic ((protocol_of_site hsite).trans hp) s (c := c)
      (by rw [hend]; rfl)
    exact iff_of_true (toldOnce_of_ended hx ho (hkeep.trans hend)) (Or.inr (Or.inr (hused.mp hstill)))
  · obtain ⟨hp', hconn, hlast, hhandle, -⟩ := hreported₀.unused hstill error rfl
    have hend := settleSocket_conn_quic hp' s c
    have hhandle' : (((ds ++ c :: es).foldl (report error) w₀).sm s).handle =
        if (w.sm s).handle = .open then .closing .socketTimerClose else (w.sm s).handle := hhandle
    rw [hconn, hhandle'] at hend
    by_cases hopen : (w.sm s).handle = .open
    · rw [if_pos hopen, if_pos ⟨rfl, hlast⟩] at hend
      exact iff_of_true (toldOnce_of_ended hx ho hend) (Or.inl hopen)
    · rw [if_neg hopen] at hend
      by_cases hawaits : (w.sm s).handle.awaitsQuic = true
      · rw [if_pos ⟨hawaits, hlast⟩] at hend
        exact iff_of_true (toldOnce_of_ended hx ho hend) (Or.inr (Or.inl hawaits))
      · rw [if_neg fun h => hawaits h.1] at hend
        refine iff_of_false (not_toldOnce_of_open (by rw [hend]; exact ho)) ?_
        rintro (h | h | h)
        · exact hopen h
        · exact hawaits h
        · exact hstill (hused.mpr h)

theorem repeatedCloses_of_due (hpl : Placed w) (hp : w.protocol = .quic)
    (horder : order.Perm (w.members g)) (hc : c ∈ w.members g) (ho : (w.conn c).isClosed = false)
    (hdue : w.ReportDue g) (hs : (w.conn c).socketManager = s) :
    (((w.askClose g).settle g order error [c]).sm s).repeatedCloses = (w.sm s).repeatedCloses ↔
      w.OutsideOpen s g ∨ (w.sm s).handle = .open ∨ (w.sm s).handle = .none := by
  have hmembers := openMembers_of_perm hpl hp ⟨c, hc, hs⟩ horder
  have hv := settleCnx_askClose hp horder error
  rw [if_pos hdue] at hv
  set cs := order.filter fun d => !(w.conn d).isClosed
  set w₀ := (w.askClose g).modCnx g fun x => { x with closed := true }
  have hmem : c ∈ cs := (hmembers.mem_iff c).mpr ⟨hc, ho⟩
  have hsite : (cs.foldl (report error) w₀).site = w.site :=
    Lib.foldl_keeps World.site (site_report error) w₀ _
  rw [settle_askClose hv.symm hsite, hs, repeatedCloses_settleSocket
    (by rw [protocol_of_site hsite, hp]; decide)]
  by_cases hout : w.OutsideOpen s g
  · obtain ⟨t, ht, hne⟩ := hout
    have hreports := reports_other (w := w₀) (fun _ => false) error hmembers.nodup hmembers.home
      hmembers.opens ht fun d hd => hne d ((hmembers.mem_iff d).mp hd).1
    rw [reportFreeing_none] at hreports
    have hsame : SameButList s w₀ (cs.foldl (report error) w₀) := hreports.2
    refine iff_of_true ?_ (Or.inl ⟨t, ht, hne⟩)
    rw [hsame]
    rfl
  · rcases cs.eq_nil_or_concat with hnil | ⟨ds, e, hcons⟩
    · rw [hnil] at hmem
      cases hmem
    · rw [List.concat_eq_append] at hcons
      rw [hcons] at hmembers
      have hlast : ¬ StillUsed w₀ s ds e := by
        rintro ⟨t, ht, hne, hbefore⟩
        refine hout ⟨t, ht, fun d hd heq => ?_⟩
        subst heq
        have hopen := isOpen_connection.mp (World.mem_opens.mp ht).2
        rcases List.mem_append.mp ((hmembers.mem_iff d).mpr ⟨hd, hopen⟩) with hin | hin
        · exact hbefore d hin rfl
        · exact hne (congrArg _ (List.mem_singleton.mp hin))
      have hreported : Reported w₀ s ds e [] :=
        ⟨hp, hmembers.nodup, hpl.nodup s, hmembers.home, hmembers.opens⟩
      rw [hcons, or_iff_right hout]
      exact (hreported.unused hlast error rfl).2.2.2.2

theorem endsOnce_of_due (hpl : Placed w) (hp : w.protocol = .quic)
    (horder : order.Perm (w.members g)) (hc : c ∈ w.members g) (ho : (w.conn c).isClosed = false)
    (hx : (w.conn c).Hears) (hdue : w.ReportDue g) (hs : (w.conn c).socketManager = s) :
    EndsOnce w ((w.askClose g).settle g order error [c]) c ↔
      (w.sm s).handle = .open ∨ w.OutsideOpen s g ∨
        (w.sm s).handle = .none ∧ w.StillUsed s (order.takeWhile (· ≠ c)) c := by
  have hquic : w.protocol ≠ .tcp := by rw [hp]; decide
  have hused : w.OutsideOpen s g → w.StillUsed s (order.takeWhile (· ≠ c)) c := by
    rintro ⟨t, ht, hne⟩
    refine ⟨t, ht, hne c hc, fun d hd => hne d (horder.mem_iff.mp ?_)⟩
    exact (List.takeWhile_prefix _).subset hd
  rw [EndsOnce, hs, toldOnce_of_due hpl hp horder hc ho hx hdue hs, forall_prop_of_true hquic,
    repeatedCloses_of_due hpl hp horder hc ho hdue hs]
  constructor
  · rintro ⟨htold, hout | hopen | hnone⟩
    · exact Or.inr (Or.inl hout)
    · exact Or.inl hopen
    · rw [hnone] at htold
      obtain hopen | hawaits | hstill := htold
      · cases hopen
      · cases hawaits
      · exact Or.inr (Or.inr ⟨hnone, hstill⟩)
  · rintro (hopen | hout | ⟨hnone, hstill⟩)
    · exact ⟨Or.inl hopen, Or.inr (Or.inl hopen)⟩
    · exact ⟨Or.inr (Or.inr (hused hout)), Or.inl hout⟩
    · exact ⟨Or.inr (Or.inr hstill), Or.inr (Or.inr hnone)⟩

theorem endsOnce_of_not_due (hp : w.protocol = .quic) (horder : order.Perm (w.members g))
    (ho : (w.conn c).isClosed = false) (hx : (w.conn c).Hears) (hdue : ¬ w.ReportDue g)
    (hs : (w.conn c).socketManager = s) :
    EndsOnce w ((w.askClose g).settle g order error [c]) c ↔
      (w.sm s).handle.awaitsQuic = true ∧ w.lastOpenConnection s = some c := by
  have hv := settleCnx_askClose hp horder error
  rw [if_neg hdue] at hv
  have hend : ((w.askClose g).settleSocket s).conn c =
      if (w.sm s).handle.awaitsQuic = true ∧ w.lastOpenConnection s = some c then
        (w.conn c).ended (w.sm s).closeReason
      else w.conn c := settleSocket_conn_quic (w := w.askClose g) hp s c
  have hcount : (((w.askClose g).settleSocket s).sm s).repeatedCloses = (w.sm s).repeatedCloses :=
    repeatedCloses_settleSocket (w := w.askClose g) (by show w.protocol ≠ _; rw [hp]; decide) s
  rw [settle_askClose hv.symm rfl, EndsOnce, hs, and_iff_left fun _ => hcount]
  by_cases hawaits : (w.sm s).handle.awaitsQuic = true ∧ w.lastOpenConnection s = some c
  · rw [if_pos hawaits] at hend
    exact iff_of_true (toldOnce_of_ended hx ho hend) hawaits
  · rw [if_neg hawaits] at hend
    exact iff_of_false (not_toldOnce_of_open (by rw [hend]; exact ho)) hawaits

theorem endsOnce_askClose (hpl : Placed w) (hp : w.protocol = .quic)
    (horder : order.Perm (w.members g)) (hc : c ∈ w.members g) (ho : (w.conn c).isClosed = false)
    (hx : (w.conn c).Hears) (hkept : ¬ w.Resets refused c) :
    EndsOnce w ((w.askClose g).settle g order error [c]) c ↔ QuicAbortEnds w refused order c := by
  have hg : (w.conn c).group = g := group_of_mem_members hc
  by_cases hdue : w.ReportDue g
  · rw [endsOnce_of_due hpl hp horder hc ho hx hdue rfl, ← hg]
    exact ⟨fun h => ⟨hkept, fun _ => h, fun hno => absurd (hg ▸ hdue) hno⟩,
      fun h => h.due (hg ▸ hdue)⟩
  · rw [endsOnce_of_not_due hp horder ho hx hdue rfl]
    exact ⟨fun h => ⟨hkept, fun hyes => absurd (hg ▸ hyes) hdue, fun _ => h⟩,
      fun h => h.pending (hg ▸ hdue)⟩

theorem settle_conn_of_closed_quic (hp : w.protocol = .quic) (hc : (w.conn c).isClosed = true)
    (cs : List Nat) : (w.settle g order error cs).conn c = w.conn c := by
  have hcnx : (w.settleCnx g order error).protocol = .quic ∧
      (w.settleCnx g order error).conn c = w.conn c := by
    unfold settleCnx
    split
    · refine ⟨(protocol_step _ _).trans hp, ?_⟩
      refine step_keeps (I := fun v => v.conn c = w.conn c) rfl fun _ => ?_
      refine reports_conn_of_not_mem (w := w.modCnx g fun x => { x with closed := true }) hp ?_
      intro hmem
      have hopen := (List.mem_filter.mp hmem).2
      rw [modCnx_conn, hc] at hopen
      cases hopen
    · exact ⟨hp, rfl⟩
  have hkeep : (w.settle g order error cs).protocol = .quic ∧
      (w.settle g order error cs).conn c = w.conn c := by
    refine Lib.foldl_invariant (I := fun v : World => v.protocol = .quic ∧ v.conn c = w.conn c)
      (fun v d _ hv => ⟨(protocol_of_site (site_settleSocket v _)).trans hv.1, ?_⟩) hcnx
    show (v.settleSocket (v.conn d).socketManager).conn c = w.conn c
    rw [settleSocket_conn_of_closed_quic hv.1 _ (by rw [hv.2]; exact hc), hv.2]
  exact hkeep.2

theorem not_toldOnce_of_enter {v : World} (ho : (w.conn c).isClosed = false)
    (h : v.conn c = (w.conn c).enter .closed) : ¬ ToldOnce w v c := by
  rintro ⟨-, hcalls⟩
  rw [h, Connection.terminalCalls_enter, ho] at hcalls
  exact Nat.succ_ne_self _ hcalls.symm

theorem endsOnce_quicAbort (hpl : Placed w) (hp : w.protocol = .quic)
    (horder : order.Perm (w.members g)) (hc : c ∈ w.members g) (ho : (w.conn c).isClosed = false)
    (hx : (w.conn c).Hears) :
    EndsOnce w ((w.quicAbort c refused).settle g order error [c]) c ↔
      QuicAbortEnds w refused order c := by
  by_cases hreset : w.Resets refused c
  · have habort : w.quicAbort c refused = w.modConn c (Connection.enter .closed) := by
      rw [quicAbort, if_pos hreset.1, if_pos hreset.2]
    have hconn : (w.quicAbort c refused).conn c = (w.conn c).enter .closed := by
      rw [habort, modConn_conn, update_self]
    have hp' : (w.quicAbort c refused).protocol = .quic := by rw [habort, modConn_protocol, hp]
    refine iff_of_false (fun hends => not_toldOnce_of_enter ho ?_ hends.1) fun h => h.kept hreset
    rw [settle_conn_of_closed_quic hp' (by rw [hconn]; rfl), hconn]
  · rw [quicAbort_eq hreset, group_of_mem_members hc]
    exact endsOnce_askClose hpl hp horder hc ho hx hreset

end Single

end World

end CTaps.Connections
