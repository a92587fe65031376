import CTaps.Connections.QuicAbort

/-! Aborted groups. Outside QUIC every member ends as it would if it were aborted alone. In a QUIC
group the members are asked for one after the other while the number of open ones goes down with
each reset; if no stream is reset the group ends as it does for any one of its members. -/

namespace CTaps.Connections.World

open Gathering (Protocol)

variable {w : World} {s c g : Nat} {order refused : List Nat} {error : Bool}

/-! ### QUIC -/

section Quic

theorem abortAll_eq (w : World) (order refused : List Nat) :
    w.abortAll order refused = order.foldl (abortTurn refused) w := rfl

theorem abortTurn_of_closed (h : (w.conn c).isClosed = true) : abortTurn refused w c = w :=
  if_pos h

theorem abortTurn_of_open (hp : w.protocol = .quic) (h : (w.conn c).isClosed = false) :
    abortTurn refused w c = w.quicAbort c refused := by
  rw [abortTurn, h, if_neg Bool.false_ne_true, connectionAbort, hp]

theorem foldl_abortTurn_conn_of_closed (hp : w.protocol = .quic)
    (hc : (w.conn c).isClosed = true) (refused l : List Nat) :
    (l.foldl (abortTurn refused) w).protocol = .quic ∧
      (l.foldl (abortTurn refused) w).conn c = w.conn c := by
  refine Lib.foldl_invariant (I := fun v : World => v.protocol = .quic ∧ v.conn c = w.conn c)
    (fun v d _ hv => ⟨(protocol_of_site (site_abortTurn refused v d)).trans hv.1, ?_⟩) ⟨hp, rfl⟩
  rw [← hv.2] at hc
  rw [← hv.2]
  cases hd : (v.conn d).isClosed with
  | true => rw [abortTurn_of_closed hd]
  | false =>
    have hne : c ≠ d := by
      rintro rfl
      rw [hc] at hd
      cases hd
    rw [abortTurn_of_open hv.1 hd, quicAbort]
    split
    · split
      · rw [modConn_conn, Function.update_of_ne hne]
      · rfl
    · rfl

theorem exists_reset (hp : w.protocol = .quic) {l : List Nat} (hl : ∀ d ∈ l, (w.conn d).group = g)
    (hreset : ∃ d ∈ l, (w.conn d).isClosed = false ∧ w.Resets refused d) :
    ∃ d ∈ l, (w.conn d).isClosed = false ∧
      (l.foldl (abortTurn refused) w).conn d = (w.conn d).enter .closed := by
  induction l with
  | nil =>
    obtain ⟨d, hd, -⟩ := hreset
    cases hd
  | cons a l ih =>
    by_cases ha : (w.conn a).isClosed = false ∧ w.Resets refused a
    · obtain ⟨hopen, hresets⟩ := ha
      have hturn : abortTurn refused w a = w.modConn a (Connection.enter .closed) := by
        rw [abortTurn_of_open hp hopen, quicAbort, if_pos hresets.1, if_pos hresets.2]
      have hconn : (abortTurn refused w a).conn a = (w.conn a).enter .closed := by
        rw [hturn, modConn_conn, Function.update_self]
      refine ⟨a, List.mem_cons_self, hopen, ?_⟩
      rw [List.foldl_cons, (foldl_abortTurn_conn_of_closed (by rw [hturn]; exact hp)
        (by rw [hconn]; rfl) refused l).2, hconn]
    · obtain ⟨d, hd, hopen, hresets⟩ := hreset
      -- the turn does nothing, since the member of the other turn is open
      have hturn : abortTurn refused w a = w := by
        cases hclosed : (w.conn a).isClosed with
        | true => exact abortTurn_of_closed hclosed
        | false =>
          have hmany := hresets.1
          rw [hl d hd] at hmany
          rw [abortTurn_of_open hp hclosed, quicAbort_eq fun h => ha ⟨hclosed, h⟩,
            hl a List.mem_cons_self, askClose_eq_self hmany]
      have hd : d ∈ l := by
        rcases List.mem_cons.mp hd with rfl | hd
        · exact absurd ⟨hopen, hresets⟩ ha
        · exact hd
      obtain ⟨e, he, heo, hend⟩ := ih (fun e he => hl e (List.mem_cons_of_mem a he))
        ⟨d, hd, hopen, hresets⟩
      rw [List.foldl_cons, hturn]
      exact ⟨e, List.mem_cons_of_mem a he, heo, hend⟩

theorem eq_of_numActive_le (h : w.numActiveConnections g ≤ 1) {d : Nat} (hc : c ∈ w.members g)
    (ho : (w.conn c).isClosed = false) (hd : d ∈ w.members g)
    (hod : (w.conn d).isClosed = false) : d = c := by
  rw [numActiveConnections, List.countP_eq_length_filter] at h
  have hc' : c ∈ (w.members g).filter fun d => !(w.conn d).isClosed :=
    List.mem_filter.mpr ⟨hc, by rw [ho]; rfl⟩
  have hd' : d ∈ (w.members g).filter fun d => !(w.conn d).isClosed :=
    List.mem_filter.mpr ⟨hd, by rw [hod]; rfl⟩
  obtain ⟨a, ha⟩ := List.length_eq_one_iff.mp (Nat.le_antisymm h (List.length_pos_of_mem hc'))
  rw [ha, List.mem_singleton] at hc' hd'
  rw [hc', hd']

theorem abortAll_eq_askClose (hp : w.protocol = .quic) (horder : order.Perm (w.members g))
    (hreset : ∀ d ∈ w.members g, (w.conn d).isClosed = false → ¬ w.Resets refused d)
    (hc : c ∈ w.members g) (ho : (w.conn c).isClosed = false) :
    w.abortAll order refused = w.askClose g := by
  have hopen : ∀ d ∈ w.members g, (w.conn d).isClosed = false →
      abortTurn refused w d = w.askClose g := by
    intro d hd hod
    rw [abortTurn_of_open hp hod, quicAbort_eq (hreset d hd hod), group_of_mem_members hd]
  rw [abortAll_eq]
  rcases Nat.lt_or_ge 1 (w.numActiveConnections g) with hmany | hone
  · rw [askClose_eq_self hmany]
    refine Lib.foldl_eq_self fun d hd => ?_
    cases hclosed : (w.conn d).isClosed with
    | true => exact abortTurn_of_closed hclosed
    | false => rw [hopen d (horder.mem_iff.mp hd) hclosed, askClose_eq_self hmany]
  · -- the turns of the others find them closed
    obtain ⟨l, l', hl⟩ := List.append_of_mem (horder.mem_iff.mpr hc)
    have hnodup := nodup_of_perm_members horder
    rw [hl] at hnodup
    obtain ⟨-, hl', hnot⟩ := List.nodup_append.mp hnodup
    have hclosed : ∀ d ∈ order, d ≠ c → (w.conn d).isClosed = true := by
      intro d hd hne
      by_contra hod
      exact hne (eq_of_numActive_le hone hc ho (horder.mem_iff.mp hd) (Bool.not_eq_true _ ▸ hod))
    have hbefore : l.foldl (abortTurn refused) w = w := by
      refine Lib.foldl_eq_self fun d hd => abortTurn_of_closed (hclosed d ?_ ?_)
      · rw [hl]
        exact List.mem_append_left _ hd
      · exact hnot d hd c List.mem_cons_self
    have hafter : l'.foldl (abortTurn refused) (w.askClose g) = w.askClose g := by
      refine Lib.foldl_eq_self fun d hd => abortTurn_of_closed (w := w.askClose g) (hclosed d ?_ ?_)
      · rw [hl]
        exact List.mem_append_right _ (List.mem_cons_of_mem c hd)
      · rintro rfl
        exact (List.nodup_cons.mp hl').1 hd
    rw [hl, List.foldl_append, hbefore, List.foldl_cons, hopen c hc ho, hafter]

theorem foldl_settleHome (hp : w.protocol = .quic) {cs : List Nat} (hc : c ∈ cs)
    (hcs : ∀ d ∈ cs, (w.conn d).socketManager = s) : cs.foldl settleHome w = w.settleSocket s := by
  cases cs with
  | nil => cases hc
  | cons a l =>
    rw [List.foldl_cons, settleHome, hcs a List.mem_cons_self]
    refine Lib.foldl_eq_self fun d hd => ?_
    rw [settleHome, home_of_site (site_settleSocket w s), hcs d (List.mem_cons_of_mem a hd),
      settleSocket_settleSocket hp]

theorem settle_members (hpl : Placed w) (hp : w.protocol = .quic)
    (horder : order.Perm (w.members g)) (hc : c ∈ w.members g) {v : World}
    (hv : (v.settleCnx g order error).site = w.site) :
    v.settle g order error order = v.settle g order error [c] := by
  have hhome : ∀ d ∈ w.members g,
      ((v.settleCnx g order error).conn d).socketManager = (w.conn c).socketManager := by
    intro d hd
    rw [home_of_site hv]
    refine hpl.quic_home hp d (lt_of_mem_members hd) c (lt_of_mem_members hc) ?_
    rw [group_of_mem_members hd, group_of_mem_members hc]
  have hp' : (v.settleCnx g order error).protocol = .quic := (protocol_of_site hv).trans hp
  rw [settle, settle, foldl_settleHome hp' (horder.mem_iff.mpr hc) fun d hd =>
    hhome d (horder.mem_iff.mp hd), foldl_settleHome hp' (List.mem_singleton_self c) fun d hd => by
    rw [List.mem_singleton.mp hd, hhome c hc]]

theorem repeatedCloses_of_all_closed (hpl : Placed w) (hp : w.protocol = .quic)
    (horder : order.Perm (w.members g)) (hc : c ∈ w.members g)
    (hclosed : ∀ d ∈ w.members g, (w.conn d).isClosed = true) :
    (((w.abortAll order refused).settle g order error order).sm
      (w.conn c).socketManager).repeatedCloses =
        (w.sm (w.conn c).socketManager).repeatedCloses := by
  have habort : w.abortAll order refused = w :=
    Lib.foldl_eq_self fun d hd => abortTurn_of_closed (hclosed d (horder.mem_iff.mp hd))
  -- picoquic finds no member to report
  have hcnx : (w.settleCnx g order error).site = w.site ∧
      (w.settleCnx g order error).sm = w.sm := by
    unfold settleCnx
    split
    · refine step_keeps (I := fun v => v.site = w.site ∧ v.sm = w.sm) ⟨rfl, rfl⟩ fun _ => ?_
      have hnone : (order.filter fun d => !(w.conn d).isClosed) = [] :=
        List.filter_eq_nil_iff.mpr fun d hd => by simp [hclosed d (horder.mem_iff.mp hd)]
      have hsame : w.cnxClosed g order error = w.modCnx g fun x => { x with closed := true } := by
        show (order.filter fun d => !(w.conn d).isClosed).foldl _ _ = _
        rw [hnone]
        rfl
      rw [act, hsame]
      exact ⟨rfl, rfl⟩
    · exact ⟨rfl, rfl⟩
  rw [habort, settle_members hpl hp horder hc hcnx.1, settle, List.foldl_cons, List.foldl_nil,
    settleHome, home_of_site hcnx.1, repeatedCloses_settleSocket, hcnx.2]
  rw [protocol_of_site hcnx.1, hp]
  decide

theorem endsOnce_abortAll_quic (hpl : Placed w) (hp : w.protocol = .quic)
    (horder : order.Perm (w.members g)) (hx : ∀ d ∈ w.members g, (w.conn d).Hears) :
    (∀ d ∈ w.members g, EndsOnce w ((w.abortAll order refused).settle g order error order) d) ↔
      ∀ d ∈ w.members g, (w.conn d).isClosed = false → QuicAbortEnds w refused order d := by
  by_cases hreset : ∃ d ∈ w.members g, (w.conn d).isClosed = false ∧ w.Resets refused d
  · refine iff_of_false (fun hends => ?_) fun hends => ?_
    · obtain ⟨d, hd, ho, hresets⟩ := hreset
      obtain ⟨e, he, heo, hconn⟩ := exists_reset (l := order) hp
        (fun d hd => group_of_mem_members (horder.mem_iff.mp hd))
        ⟨d, horder.mem_iff.mpr hd, ho, hresets⟩
      have hp' : (w.abortAll order refused).protocol = .quic :=
        (protocol_of_site (Lib.foldl_keeps World.site (site_abortTurn refused) w order)).trans hp
      have hclosed : ((w.abortAll order refused).conn e).isClosed = true := by
        rw [abortAll_eq, hconn]
        rfl
      refine not_toldOnce_of_enter heo ?_ (hends e (horder.mem_iff.mp he)).1
      rw [settle_conn_of_closed_quic hp' hclosed, abortAll_eq, hconn]
    · obtain ⟨d, hd, ho, hresets⟩ := hreset
      exact (hends d hd ho).kept hresets
  · have hkept : ∀ d ∈ w.members g, (w.conn d).isClosed = false → ¬ w.Resets refused d :=
      fun d hd ho hresets => hreset ⟨d, hd, ho, hresets⟩
    have hopen : ∀ d ∈ w.members g, (w.conn d).isClosed = false →
        (EndsOnce w ((w.abortAll order refused).settle g order error order) d ↔
          QuicAbortEnds w refused order d) := by
      intro d hd ho
      have hsite : ((w.askClose g).settleCnx g order error).site = w.site := by
        rw [settleCnx_askClose hp horder]
        split
        · exact Lib.foldl_keeps World.site (site_report error) _ _
        · rfl
      rw [abortAll_eq_askClose hp horder hkept hd ho, settle_members hpl hp horder hd hsite]
      exact endsOnce_askClose hpl hp horder hd ho (hx d hd) (hkept d hd ho)
    refine ⟨fun hends d hd ho => (hopen d hd ho).mp (hends d hd), fun hends d hd => ?_⟩
    cases ho : (w.conn d).isClosed with
    | false => exact (hopen d hd ho).mpr (hends d hd ho)
    | true =>
      obtain ⟨hp', hconn⟩ := foldl_abortTurn_conn_of_closed hp ho refused order
      refine ⟨toldOnce_of_closed ho ?_, fun _ => ?_⟩
      · rw [abortAll_eq, settle_conn_of_closed_quic hp' (by rw [hconn]; exact ho), hconn]
      · by_cases hany : ∃ e ∈ w.members g, (w.conn e).isClosed = false
        · -- the socket is that of an open member
          obtain ⟨e, he, heo⟩ := hany
          have hhome := hpl.quic_home hp d (lt_of_mem_members hd) e (lt_of_mem_members he)
            (by rw [group_of_mem_members hd, group_of_mem_members he])
          rw [hhome]
          exact ((hopen e he heo).mpr (hends e he heo)).2 (by rw [hp]; decide)
        · refine repeatedCloses_of_all_closed hpl hp horder hd fun e he => ?_
          by_contra heo
          exact hany ⟨e, he, Bool.not_eq_true _ ▸ heo⟩

end Quic

/-! ### TCP and UDP -/

section Alone

theorem settle_conn_of_closed (hw : Around w w) (hsafe : w.protocol = .tcp → TcpSafe w)
    (hp : w.protocol ≠ .quic) (hc : c ∈ w.members g) (ho : (w.conn c).isClosed = true) :
    (w.settle g order error [c]).conn c = w.conn c := by
  cases hq : w.protocol with
  | quic => exact absurd hq hp
  | udp => exact settle_conn_of_closed_udp hq ho _ _ error
  | tcp =>
    have htcp := (hw.tcp hq).of_mem _ c (hw.placed.mem_of_mem_members hc)
    have hfits := hsafe hq _ c htcp
    rw [of_decide_eq_true ho] at hfits
    rw [settle_singleton hp, settleSocket_eq_self_tcp hq htcp]
    intro cb hcb
    rw [hcb] at hfits
    exact hfits rfl

theorem endsOnce_abortAll_alone (hw : Around w w) (hsolo : Solo w)
    (hsafe : w.protocol = .tcp → TcpSafe w) (hp : w.protocol ≠ .quic)
    (horder : order.Perm (w.members g)) :
    (∀ d ∈ w.members g, EndsOnce w ((w.abortAll order refused).settle g order error order) d) ↔
      ∀ d ∈ w.members g, (w.conn d).isClosed = false →
        EndsOnce w ((w.connectionAbort d refused).settle g order error [d]) d := by
  refine forall₂_congr fun d hd => ?_
  have halone := settled_alone hp hsolo hw (placewise_abortTurn hp refused) horder
    (horder.mem_iff.mpr hd) order error
  have hhome : (((abortTurn refused w d).settle g order error [d]).conn d).socketManager =
      (w.conn d).socketManager := by
    have hsite := site_abortTurn refused w d
    rw [settle_singleton (by rwa [protocol_of_site hsite]), home_of_site (site_settleSocket _ _),
      home_of_site hsite]
  have hconn := halone.conn d hhome
  have hsm := halone.sm
  rw [← abortAll_eq] at hconn hsm
  cases ho : (w.conn d).isClosed with
  | true =>
    rw [abortTurn_of_closed ho, settle_conn_of_closed hw hsafe hp hd ho] at hconn
    rw [abortTurn_of_closed ho, settle_singleton hp] at hsm
    refine iff_of_true ⟨toldOnce_of_closed ho hconn, fun htcp => ?_⟩ fun h => Bool.noConfusion h
    rw [hsm, repeatedCloses_settleSocket htcp]
  | false =>
    rw [abortTurn, ho, if_neg Bool.false_ne_true] at hconn hsm
    rw [EndsOnce.congr hconn hsm]
    exact ⟨fun h _ => h, fun h => h rfl⟩

end Alone

/-! ### Every run -/

def AbortEnds (w : World) (refused order : List Nat) (c : Nat) : Prop :=
  match w.protocol with
  | .tcp => (w.sm (w.conn c).socketManager).connectPending ≠ some .onCloneConnect ∧
      (w.sm (w.conn c).socketManager).handle.reportsTcp = true
  | .udp => w.numOpenDependents (w.conn c).socketManager ≠ 1 ∨
      (w.sm (w.conn c).socketManager).handle = .open
  | .quic => w.QuicAbortEnds refused order c

theorem endsOnce_connectionAbort (hw : Around w w) (horder : order.Perm (w.members g))
    (hc : c ∈ w.members g) (ho : (w.conn c).isClosed = false) (hx : (w.conn c).Hears) :
    EndsOnce w ((w.connectionAbort c refused).settle g order error [c]) c ↔
      w.AbortEnds refused order c := by
  have hsite := site_connectionAbort w c refused
  unfold AbortEnds
  cases hp : w.protocol with
  | tcp =>
    have htcp := onTcp_of_open hw.placed (hw.tcp hp) hp hc ho
    rw [settle_singleton (by rw [protocol_of_site hsite, hp]; decide), home_of_site hsite,
      connectionAbort, hp]
    exact htcp.endsOnce_abort hx
  | udp =>
    rw [settle_singleton (by rw [protocol_of_site hsite, hp]; decide), home_of_site hsite,
      connectionAbort, hp]
    exact endsOnce_udpAbort hp rfl (mem_opens_home hw.placed hc ho) hx
  | quic =>
    rw [connectionAbort, hp]
    exact endsOnce_quicAbort hw.placed hp horder hc ho hx

def afterAbort (w : World) (c : Nat) (order refused : List Nat) (error : Bool) : World :=
  (w.step (.abort c refused)).settle (w.conn c).group order error [c]

def afterAbortGroup (w : World) (c : Nat) (order refused : List Nat) (error : Bool) : World :=
  (w.step (.abortGroup c order refused)).settle (w.conn c).group order error order

/-- In every reachable state, an aborted connection that is open is closed and told so once, its
socket not closed twice, exactly under the condition of its protocol, and an aborted group has its
members closed, the open ones told once, exactly if each of these meets it. -/
theorem abort_ends_iff (p : Protocol) (es : List Event) (c : Nat) (order refused : List Nat)
    (error : Bool) (hc : (run p es).held c = true)
    (horder : order.Perm ((run p es).members ((run p es).conn c).group)) :
    (((run p es).conn c).isClosed = false → ((run p es).conn c).Hears →
      (EndsOnce (run p es) ((run p es).afterAbort c order refused error) c ↔
        (run p es).AbortEnds refused order c)) ∧
    ((∀ d ∈ (run p es).members ((run p es).conn c).group, ((run p es).conn d).Hears) →
      ((∀ d ∈ (run p es).members ((run p es).conn c).group,
          EndsOnce (run p es) ((run p es).afterAbortGroup c order refused error) d) ↔
        ∀ d ∈ (run p es).members ((run p es).conn c).group,
          ((run p es).conn d).isClosed = false → (run p es).AbortEnds refused order d)) := by
  have hw := around_run p es
  have hsafe : (run p es).protocol = .tcp → TcpSafe (run p es) := fun hp => ((inv_run p es).tcp hp).2
  have hsolo := solo_run p es
  set w := run p es
  have hmem : c ∈ w.members (w.conn c).group := by
    obtain ⟨hlive, -⟩ := of_decide_eq_true hc
    obtain ⟨hlt, hfreed⟩ := of_decide_eq_true hlive
    exact List.mem_filter.mpr ⟨List.mem_range.mpr hlt, decide_eq_true ⟨hfreed, rfl⟩⟩
  have hsingle : w.step (.abort c refused) = w.connectionAbort c refused := if_pos hc
  have hgroup : w.step (.abortGroup c order refused) = w.abortAll order refused :=
    if_pos (decide_eq_true ⟨hc, horder⟩)
  refine ⟨fun ho hx => ?_, fun hx => ?_⟩
  · rw [afterAbort, hsingle]
    exact endsOnce_connectionAbort hw horder hmem ho hx
  · rw [afterAbortGroup, hgroup]
    by_cases hp : w.protocol = .quic
    · rw [endsOnce_abortAll_quic hw.placed hp horder hx]
      unfold AbortEnds
      rw [hp]
    · rw [endsOnce_abortAll_alone hw hsolo hsafe hp horder]
      exact forall₃_congr fun d hd ho => endsOnce_connectionAbort hw horder hd ho (hx d hd)

theorem abort_ends_iff_udp :
    EndsOnce (run .udp [.initiate {} none .begun, .raceWon 0, .clone 0])
        ((run .udp [.initiate {} none .begun, .raceWon 0, .clone 0]).afterAbortGroup
          0 [1, 0] [] false) 0 ∧
      EndsOnce (run .udp [.initiate {} none .begun, .raceWon 0, .clone 0])
        ((run .udp [.initiate {} none .begun, .raceWon 0, .clone 0]).afterAbortGroup
          0 [1, 0] [] false) 1 := by
  have hmembers := ((abort_ends_iff .udp [.initiate {} none .begun, .raceWon 0, .clone 0] 0 [1, 0] []
    false (by decide) (by decide)).2 (by decide)).mpr (by
      show ∀ d ∈ [0, 1], _ → _ ∨ _
      decide)
  exact ⟨hmembers 0 (by decide), hmembers 1 (by decide)⟩

/-- A QUIC connection and its clone, which has no stream yet. An abort closes the one without
telling, and does nothing to the other. -/
theorem abort_beside_sibling_quic :
    ¬ EndsOnce (run .quic [.initiate {} (some 0) .begun, .cnxReady 0 0, .raceWon 0, .clone 0])
        ((run .quic [.initiate {} (some 0) .begun, .cnxReady 0 0, .raceWon 0, .clone 0]).afterAbort
          0 [1, 0] [] false) 0 ∧
      ¬ EndsOnce (run .quic [.initiate {} (some 0) .begun, .cnxReady 0 0, .raceWon 0, .clone 0])
        ((run .quic [.initiate {} (some 0) .begun, .cnxReady 0 0, .raceWon 0, .clone 0]).afterAbort
          1 [1, 0] [] false) 1 := by
  decide

end CTaps.Connections.World
