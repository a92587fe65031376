import CTaps.Connections.Streams

/-! What `ct_connection_close` asks of picoquic: the close of the whole picoquic connection, a FIN
on the stream of the connection, or nothing. Which of them it is depends on who in the group can
still send or receive, the closing connection included, and not on who is closed. -/

namespace CTaps.Connections

/-- `fin` is a call of `picoquic_add_to_stream_with_ctx` without data and with FIN. -/
inductive CloseAction
  | picoquicClose | fin (sid : Nat) | nothing
deriving DecidableEq, Repr

namespace World

variable {w : World} {c : Nat}

/-- `quic_close_connection`. -/
def quicCloseAction (w : World) (c : Nat) : CloseAction :=
  let w := w.modConn c fun x => { x with canSend := false }
  if w.anyActive (w.conn c).group then
    match (w.conn c).stream with
    | some sid => .fin sid
    | none => .nothing
  else .picoquicClose

/-- `ct_connection_close` with QUIC. -/
def closeAction (w : World) (c : Nat) : CloseAction :=
  if (w.conn c).isClosedOrClosing then .nothing
  else (w.modConn c (Connection.enter .closing)).quicCloseAction c

theorem closing_connectionClose (hp : w.protocol = .quic) (c : Nat) :
    ((w.connectionClose c).cnx (w.conn c).group).closing = true ↔
      (w.cnx (w.conn c).group).closing = true ∨ w.closeAction c = .picoquicClose := by
  unfold connectionClose closeAction
  split
  · simp
  · have hproto : (w.modConn c (Connection.enter .closing)).protocol = .quic := hp
    rw [protocolClose, hproto]
    dsimp only [quicCloseConnection, quicCloseAction]
    split
    · split <;> simp
    · simp [picoquicClose, Connection.enter]

theorem anyActive_withoutSend (hc : w.live c = true) :
    (w.modConn c fun x => { x with canSend := false }).anyActive (w.conn c).group = true ↔
      (w.conn c).canReceive = true ∨ w.othersActive c = true := by
  have hmembers : (w.modConn c fun x => { x with canSend := false }).members (w.conn c).group =
      w.members (w.conn c).group := by
    refine List.filter_congr fun d _ => ?_
    by_cases hd : d = c
    · subst hd
      simp
    · simp [hd]
  have hmem : c ∈ w.members (w.conn c).group := by
    simp only [live, decide_eq_true_eq] at hc
    exact List.mem_filter.mpr ⟨List.mem_range.mpr hc.1, by simp [hc.2]⟩
  unfold anyActive othersActive
  rw [hmembers, List.any_eq_true, List.any_eq_true]
  constructor
  · rintro ⟨d, hd, hactive⟩
    by_cases hdc : d = c
    · subst hdc
      exact Or.inl (by simpa using hactive)
    · exact Or.inr ⟨d, hd, by simpa [hdc] using hactive⟩
  · rintro (hreceive | ⟨d, hd, hactive⟩)
    · exact ⟨c, hmem, by simpa using hreceive⟩
    · have hdc : d ≠ c := by
        rintro rfl
        simp at hactive
      exact ⟨d, hd, by simpa [hdc] using hactive⟩

theorem othersActive_closing (w : World) (c : Nat) :
    (w.modConn c (Connection.enter .closing)).othersActive c = w.othersActive c := by
  have hother : ∀ d, ((w.modConn c (Connection.enter .closing)).conn d).freed = (w.conn d).freed ∧
      ((w.modConn c (Connection.enter .closing)).conn d).group = (w.conn d).group ∧
      ((w.modConn c (Connection.enter .closing)).conn d).canSend = (w.conn d).canSend ∧
      ((w.modConn c (Connection.enter .closing)).conn d).canReceive = (w.conn d).canReceive := by
    intro d
    by_cases hd : d = c
    · subst hd
      simp [Connection.enter]
    · simp [hd]
  unfold othersActive members
  simp only [(hother _).1, (hother _).2.1, (hother _).2.2.1, (hother _).2.2.2]
  rfl

theorem closeAction_eq (hc : w.live c = true) (hst : (w.conn c).state = .established) :
    w.closeAction c =
      if (w.conn c).canReceive = true ∨ w.othersActive c = true then
        (w.conn c).stream.elim .nothing .fin
      else .picoquicClose := by
  have hclosing : (w.conn c).isClosedOrClosing = false := by simp [Connection.isClosedOrClosing, hst]
  have hlive : (w.modConn c (Connection.enter .closing)).live c = true := by
    simpa [live, Connection.enter] using hc
  have hactive := anyActive_withoutSend hlive
  rw [othersActive_closing] at hactive
  have hreceive : ((w.modConn c (Connection.enter .closing)).conn c).canReceive =
      (w.conn c).canReceive := by simp [Connection.enter]
  have hgroup : (((w.modConn c (Connection.enter .closing)).modConn c
      fun x => { x with canSend := false }).conn c).group =
        ((w.modConn c (Connection.enter .closing)).conn c).group := by simp
  rw [closeAction, hclosing, if_neg Bool.false_ne_true]
  unfold quicCloseAction
  dsimp only
  rw [hgroup]
  simp only [hactive, hreceive]
  split
  · cases hsid : (w.conn c).stream with
    | none => simp [Connection.enter, hsid]
    | some sid => simp [Connection.enter, hsid]
  · rfl

def OthersClosed (w : World) (c : Nat) : Prop :=
  ∀ d ∈ w.members (w.conn c).group, d ≠ c → (w.conn d).isClosed = true

def ClosesByRule (w : World) (c : Nat) : Prop :=
  (w.closeAction c = .picoquicClose ↔ w.OthersClosed c) ∧
    (¬ w.OthersClosed c → ∃ sid, (w.conn c).stream = some sid ∧ w.closeAction c = .fin sid)

def FlagsAgree (w : World) (c : Nat) : Prop :=
  (w.OthersClosed c ∧ (w.conn c).canReceive = false ∧ w.othersActive c = false) ∨
    (¬ w.OthersClosed c ∧ ((w.conn c).canReceive = true ∨ w.othersActive c = true) ∧
      (w.conn c).stream.isSome = true)

/-- In every world the machine reaches, the close of an established connection follows the rule
exactly where the flags agree with the states. -/
theorem quic_close_rule_iff (es : List Event) (c : Nat) (hc : (run .quic es).live c = true)
    (hst : ((run .quic es).conn c).state = .established) :
    (run .quic es).ClosesByRule c ↔ (run .quic es).FlagsAgree c := by
  have haction := closeAction_eq hc hst
  set w := run .quic es
  unfold ClosesByRule FlagsAgree
  rw [haction]
  by_cases hactive : (w.conn c).canReceive = true ∨ w.othersActive c = true
  · have hnot : (w.conn c).stream.elim CloseAction.nothing .fin ≠ .picoquicClose := by
      cases (w.conn c).stream <;> exact CloseAction.noConfusion
    have hflags : ¬ ((w.conn c).canReceive = false ∧ w.othersActive c = false) := by
      rintro ⟨hr, ho⟩
      rcases hactive with hr' | ho'
      · exact Bool.noConfusion (hr.symm.trans hr')
      · exact Bool.noConfusion (ho.symm.trans ho')
    rw [if_pos hactive]
    constructor
    · rintro ⟨hiff, hfin⟩
      have hopen : ¬ w.OthersClosed c := fun hclosed => hnot (hiff.mpr hclosed)
      obtain ⟨sid, hsid, -⟩ := hfin hopen
      exact Or.inr ⟨hopen, hactive, by simp [hsid]⟩
    · rintro (⟨-, hquiet⟩ | ⟨hopen, -, hstream⟩)
      · exact absurd hquiet hflags
      · obtain ⟨sid, hsid⟩ := Option.isSome_iff_exists.mp hstream
        refine ⟨⟨fun ha => absurd ha hnot, fun hclosed => absurd hclosed hopen⟩, fun _ => ?_⟩
        exact ⟨sid, hsid, by rw [hsid]; rfl⟩
  · have hquiet : (w.conn c).canReceive = false ∧ w.othersActive c = false := by
      obtain ⟨hr, ho⟩ := not_or.mp hactive
      exact ⟨Bool.eq_false_iff.mpr hr, Bool.eq_false_iff.mpr ho⟩
    rw [if_neg hactive]
    constructor
    · rintro ⟨hiff, -⟩
      exact Or.inl ⟨hiff.mp rfl, hquiet⟩
    · rintro (⟨hclosed, -⟩ | ⟨-, hsome, -⟩)
      · exact ⟨iff_of_true rfl hclosed, fun hopen => absurd hclosed hopen⟩
      · exact absurd hsome hactive

theorem quic_close_rule_clone :
    (run .quic [.initiate {} none .begun, .cnxReady 0 0, .raceWon 0, .send 0 false 0,
      .clone 0]).ClosesByRule 0 :=
  (quic_close_rule_iff [.initiate {} none .begun, .cnxReady 0 0, .raceWon 0, .send 0 false 0,
    .clone 0] 0 (by decide) (by decide)).mpr
    (Or.inr ⟨by unfold OthersClosed; decide, by decide, by decide⟩)

/-- The only connection of its group: before its first message the close asks for nothing, after it
for a FIN, and so it does when its one clone has been aborted. -/
theorem quic_close_alone :
    ¬ (run .quic [.initiate {} none .begun, .cnxReady 0 0, .raceWon 0]).ClosesByRule 0 ∧
      (run .quic [.initiate {} none .begun, .cnxReady 0 0, .raceWon 0]).closeAction 0 = .nothing ∧
      (run .quic [.initiate {} none .begun, .cnxReady 0 0, .raceWon 0,
        .send 0 false 0]).closeAction 0 = .fin 0 ∧
      (run .quic [.initiate {} none .begun, .cnxReady 0 0, .raceWon 0, .send 0 false 0, .clone 0,
        .send 1 false 4, .abort 1 [], .streamFin 0 0 0 false]).closeAction 0 = .fin 0 := by
  refine ⟨fun h => ?_, by decide, by decide, by decide⟩
  have hclosed : (run .quic [.initiate {} none .begun, .cnxReady 0 0, .raceWon 0]).OthersClosed 0 := by
    unfold OthersClosed
    decide
  exact absurd (h.1.mpr hclosed) (by decide)

end World

end CTaps.Connections
