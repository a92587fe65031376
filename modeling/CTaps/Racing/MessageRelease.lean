import CTaps.Racing.Message
import CTaps.Racing.Preference

/-! How often the copies of the initial message and of its context are released.
Every release, done or still to come, goes back to something that was seen of an
attempt, so a run that has been torn down is judged by its history. -/

namespace CTaps.Racing

section Complete

variable {c : Context} {i : Nat}

theorem raceComplete_step (hc : c.raceComplete = true) (e : Event) :
    (step c e).raceComplete = true := by
  cases e with
  | timer o =>
    simp only [step, onStaggerTimer]
    split_ifs <;> exact hc
  | report i r =>
    simp only [step]
    split_ifs
    · exact sameStarts_deliver.complete hc
    · exact hc
  | timerClosed =>
    simp only [step]
    split_ifs <;> exact hc

theorem raceComplete_racingOnAttemptReady (sendRc : Int) (sentEarlyData : Bool) :
    (racingOnAttemptReady c i sendRc sentEarlyData).raceComplete = true := by
  simp only [racingOnAttemptReady]
  split_ifs with hc
  · exact hc
  · have hwon : (registerSuccesfulAttempt c i).raceComplete = true := by
      simp [registerSuccesfulAttempt]
    exact sameStarts_cancelAllOtherAttempts.complete hwon

theorem raceComplete_start_ready (hc : c.raceComplete = false)
    (hk : c.nextAttemptIndex < c.numAttempts) (sendRc : Int) (sentEarlyData : Bool) :
    (initiateNextAttempt c (.ready sendRc sentEarlyData)).raceComplete = true := by
  have hready : (startConnectionAttempt c c.nextAttemptIndex
      (.ready sendRc sentEarlyData)).raceComplete = true := by
    simp only [startConnectionAttempt, deliver, Context.setConnection, Function.update_self]
    exact raceComplete_racingOnAttemptReady sendRc sentEarlyData
  simp only [initiateNextAttempt, scheduleNextAttempt]
  rw [if_neg (by simp [hc]), if_neg (by omega), InitOutcome.isError, if_neg Bool.false_ne_true]
  split_ifs
  · exact hready
  · exact hready

end Complete

namespace Ownership

variable {s : Ownership} {i : Nat}

/-! ### One step -/

section Steps

@[simp] theorem length_consIf (b : Bool) (l : List Nat) :
    (consIf b i l).length = l.length + b.toNat := by
  cases b <;> rfl

theorem countP_cons_toNat (f : Occurrence → Bool) (x : Occurrence) (l : List Occurrence) :
    (x :: l).countP f = l.countP f + (f x).toNat := by
  rw [List.countP_cons]
  cases f x <;> rfl

theorem length_filter_not_add (p : Nat → Bool) (l : List Nat) :
    (l.filter (!p ·)).length + l.countP p = l.length := by
  have h := List.length_eq_countP_add_countP p (l := l)
  simp only [List.countP_eq_length_filter] at h ⊢
  simp only [Bool.not_eq_true, Bool.decide_eq_false] at h
  omega

theorem length_erase_add_one {l : List Nat} (hi : i ∈ l) : (l.erase i).length + 1 = l.length := by
  rw [List.length_erase_of_mem hi]
  exact Nat.sub_add_cancel (List.length_pos_of_mem hi)

theorem eventReleases_ready (s : Ownership) (i : Nat) (sendRc : Int) (sentEarlyData : Bool) :
    eventReleases s.ctx (.report i (.ready sendRc sentEarlyData)) =
      if s.decides i then handoverReleases s.ctx sendRc sentEarlyData else 0 := by
  rw [decides, eventReleases, deliverReleases]
  by_cases hi : i < s.ctx.numAttempts
  · rw [if_pos hi]
    by_cases hc : s.ctx.raceComplete = true
    · split <;> simp [hc]
    · split <;> simp_all
  · simp [hi]

theorem eventReleases_start (hb : s.startsAttempt = true) (o : InitOutcome) :
    eventReleases s.ctx (.timer o) = startReleases s.ctx o := by
  simp only [startsAttempt, Bool.and_eq_true, Bool.not_eq_true', decide_eq_true_eq] at hb
  exact if_pos ⟨hb.1.1, hb.1.2, hb.2⟩

theorem eventReleases_idle (hb : s.startsAttempt = false) (o : InitOutcome) :
    eventReleases s.ctx (.timer o) = 0 := by
  refine if_neg fun h => Bool.false_ne_true (hb.symm.trans ?_)
  simp [startsAttempt, h.1, h.2.1, h.2.2]

theorem raceComplete_udpReady (hb : s.startsAttempt = true) (sendRc : Int) :
    (Racing.step s.ctx (.timer (.ready sendRc false))).raceComplete = true := by
  simp only [startsAttempt, Bool.and_eq_true, Bool.not_eq_true', decide_eq_true_eq] at hb
  obtain ⟨⟨htimer, hc⟩, hk⟩ := hb
  have hready := raceComplete_start_ready (c := { s.ctx with timerActive := false }) hc hk sendRc false
  rw [Racing.step, if_pos htimer, onStaggerTimer, if_neg (by simp [hc])]
  exact hready

def tally (s : Ownership) (f : Occurrence → Bool) : Nat := s.history.countP f

/-- Releases, done or still to come, are those of the history: with early data the accepted sends,
the ready QUIC attempts, the TCP socket states and the hand-over of early data, without it the
failed send on the winner and the teardown. -/
structure Tallied (s : Ownership) : Prop where
  isMessage : s.ctx.initialMessage = true
  message : s.messageReleases + s.requests.length =
    if s.ctx.shouldTryEarlyData then
      s.tally Occurrence.acceptsSend + s.tally Occurrence.isQuicReady
    else s.ctx.freed.toNat
  context : s.contextReleases + s.requests.length + s.tcpContexts.length =
    if s.ctx.shouldTryEarlyData then
      s.tally Occurrence.acceptsSend + s.tally Occurrence.isTcpSocket + s.tally Occurrence.winsEarly
    else s.tally Occurrence.failsSend + s.ctx.freed.toNat
  quicMessages : s.quicMessages = if s.ctx.shouldTryEarlyData then s.quicConnecting else []
  quicEarlyData : s.ctx.shouldTryEarlyData = false → s.quicEarlyData = []
  udp : s.tally Occurrence.isUdpSend ≤ s.ctx.raceComplete.toNat
  tcp : s.tally Occurrence.isTcpSocket = 0 →
    s.tcpConnecting = [] ∧ s.tally Occurrence.acceptsSend = s.tally Occurrence.isUdpSend

theorem teardown_step {c : Context} (hmsg : c.initialMessage = true) (e : Event) :
    if c.shouldTryEarlyData then teardownReleases c e = 0
    else (Racing.step c e).freed.toNat = c.freed.toNat + teardownReleases c e := by
  rw [step_freed]
  cases e with
  | timerClosed =>
    cases hE : c.shouldTryEarlyData <;> cases hf : c.freed <;> simp [teardownReleases, hmsg, hE, hf]
  | timer | report => simp [teardownReleases]

theorem Tallied.handover (h : Tallied s) (sendRc : Int) (sentEarlyData : Bool) :
    handoverReleases s.ctx sendRc sentEarlyData =
      (!s.ctx.shouldTryEarlyData && sendRc != 0).toNat + sentEarlyData.toNat := by
  rw [handoverReleases, h.isMessage, Bool.and_true]

theorem Tallied.sendsEarly (h : Tallied s) : s.sendsEarly = s.ctx.shouldTryEarlyData := by
  rw [Ownership.sendsEarly, h.isMessage, Bool.and_true]

theorem Tallied.udp_step (h : Tallied s) (e : Event) :
    s.tally Occurrence.isUdpSend ≤ (Racing.step s.ctx e).raceComplete.toNat := by
  refine Nat.le_trans h.udp ?_
  cases hc : s.ctx.raceComplete with
  | false => exact Nat.zero_le _
  | true => simp only [raceComplete_step hc e, Nat.le_refl]

theorem Tallied.next (h : Tallied s) (e : Event) (xs : List Occurrence) {s' : Ownership}
    (hctx : s'.ctx = Racing.step s.ctx e) (hhistory : s'.history = xs ++ s.history)
    (hmessage : s'.messageFrees + s'.requests.length = s.messageFrees + s.requests.length +
      if s.ctx.shouldTryEarlyData then
        xs.countP Occurrence.acceptsSend + xs.countP Occurrence.isQuicReady
      else 0)
    (hcontext : s'.contextFrees + eventReleases s.ctx e + s'.requests.length +
      s'.tcpContexts.length = s.contextFrees + s.requests.length + s.tcpContexts.length +
        if s.ctx.shouldTryEarlyData then xs.countP Occurrence.acceptsSend +
          xs.countP Occurrence.isTcpSocket + xs.countP Occurrence.winsEarly
        else xs.countP Occurrence.failsSend)
    (hquic : s'.quicMessages = if s.ctx.shouldTryEarlyData then s'.quicConnecting else [])
    (hearly : s.ctx.shouldTryEarlyData = false → s'.quicEarlyData = [])
    (hudp : s'.tally Occurrence.isUdpSend ≤ (Racing.step s.ctx e).raceComplete.toNat)
    (htcp : s'.tally Occurrence.isTcpSocket = 0 →
      s'.tcpConnecting = [] ∧ s'.tally Occurrence.acceptsSend = s'.tally Occurrence.isUdpSend) :
    Tallied s' := by
  have hsetup := sameSetup_step (c := s.ctx) e
  have hreleases := releases_step (c := s.ctx) e
  have hteardown := teardown_step h.isMessage e
  have hm := h.message
  have hx := h.context
  simp only [messageReleases, contextReleases, tally] at hm hx
  refine ⟨?_, ?_, ?_, ?_, ?_, hctx ▸ hudp, htcp⟩
  · rw [hctx]
    exact hsetup.message.trans h.isMessage
  · simp only [messageReleases, tally, hctx, hhistory, List.countP_append, hsetup.early,
      hreleases.message]
    split_ifs at * <;> omega
  · simp only [contextReleases, tally, hctx, hhistory, List.countP_append, hsetup.early,
      hreleases.context]
    split_ifs at * <;> omega
  · rw [hctx, hsetup.early]
    exact hquic
  · rw [hctx, hsetup.early]
    exact hearly

theorem Tallied.race (h : Tallied s) {e : Event} (hzero : eventReleases s.ctx e = 0) :
    Tallied (s.race e) := by
  refine h.next e [] rfl rfl ?_ ?_ h.quicMessages h.quicEarlyData (h.udp_step e) h.tcp
  · simp [Ownership.race]
  · simp [Ownership.race, hzero]

theorem Tallied.start (h : Tallied s) (hb : s.startsAttempt = true) (p : ProtocolStart) :
    Tallied ((s.initAttempt s.ctx.nextAttemptIndex p).race (.timer p.outcome)) := by
  have hreleases : eventReleases s.ctx (.timer p.outcome) =
      (!s.ctx.shouldTryEarlyData && (Occurrence.started p).failsSend).toNat := by
    rw [eventReleases_start hb]
    cases p with
    | udpReady sendAccepted sendRc => exact (h.handover sendRc false).trans (Nat.add_zero _)
    | _ => simp [startReleases, ProtocolStart.outcome, Occurrence.failsSend]
  have hnone : s.tally Occurrence.isUdpSend = 0 := by
    have hudp := h.udp
    simp only [startsAttempt, Bool.and_eq_true, Bool.not_eq_true'] at hb
    rwa [hb.1.2, Bool.toNat_false, Nat.le_zero] at hudp
  refine h.next (.timer p.outcome) [.started p] rfl rfl ?_ ?_ ?_ ?_ ?_ ?_
  · simp only [Ownership.race, initAttempt, countP_cons_toNat, length_consIf, h.sendsEarly]
    cases s.ctx.shouldTryEarlyData <;>
      simp [Occurrence.acceptsSend, Occurrence.isQuicReady, Nat.add_assoc]
  · simp only [Ownership.race, initAttempt, hreleases, countP_cons_toNat, h.sendsEarly,
      length_consIf]
    cases hE : s.ctx.shouldTryEarlyData
    · simp
      omega
    · simp [Occurrence.acceptsSend, Occurrence.isTcpSocket, Occurrence.winsEarly]
      omega
  · simp only [Ownership.race, initAttempt, h.sendsEarly, h.quicMessages]
    cases s.ctx.shouldTryEarlyData <;> simp [consIf]
  · intro hno
    simp [Ownership.race, initAttempt, consIf, hno, h.quicEarlyData hno]
  · simp only [Ownership.race, initAttempt, tally, countP_cons_toNat] at hnone ⊢
    cases p with
    | udpReady sendAccepted sendRc =>
      rw [ProtocolStart.outcome, raceComplete_udpReady hb, hnone, Nat.zero_add]
      exact Bool.toNat_le _
    | _ => rw [hnone]; exact Nat.zero_le _
  · intro hno
    simp only [Ownership.race, initAttempt, tally, countP_cons_toNat] at hno ⊢
    obtain ⟨hsockets, hp⟩ := Nat.add_eq_zero_iff.mp hno
    obtain ⟨hconnecting, hsends⟩ := h.tcp hsockets
    simp only [tally] at hsends
    rw [hsends]
    refine ⟨?_, rfl⟩
    cases p with
    | tcpPending => cases hp
    | _ => simpa [consIf] using hconnecting

theorem Tallied.timer (h : Tallied s) (p : ProtocolStart) : Tallied (step s (.timer p)) := by
  cases hb : s.startsAttempt with
  | true =>
    simp only [step, hb, if_true]
    exact h.start hb p
  | false =>
    simp only [step, hb, Bool.false_eq_true, if_false]
    exact h.race (eventReleases_idle hb _)

theorem Tallied.tcpConnected (h : Tallied s) (i : Nat) (sendAccepted : Bool) (sendRc : Int) :
    Tallied (step s (.tcpConnected i sendAccepted sendRc)) := by
  simp only [step]
  split_ifs with hi
  swap
  · exact h
  have hsocket : s.tally Occurrence.isTcpSocket ≠ 0 := fun hno =>
    List.ne_nil_of_mem hi.1 (h.tcp hno).1
  refine h.next (.report i (.ready sendRc false)) [.tcpConnected sendAccepted sendRc (s.decides i)]
    rfl rfl ?_ ?_ h.quicMessages h.quicEarlyData (h.udp_step _) fun hno => absurd hno hsocket
  · simp only [countP_cons_toNat, length_consIf, h.sendsEarly]
    cases s.ctx.shouldTryEarlyData <;>
      simp [Occurrence.acceptsSend, Occurrence.isQuicReady, Nat.add_assoc]
  · simp only [eventReleases_ready, h.handover, countP_cons_toNat, length_consIf, h.sendsEarly]
    cases s.ctx.shouldTryEarlyData <;> cases s.decides i <;>
      simp [Occurrence.acceptsSend, Occurrence.isTcpSocket, Occurrence.winsEarly,
        Occurrence.failsSend] <;> omega

theorem Tallied.quicReady (h : Tallied s) (i : Nat) (pskHandshake : Bool) (sendRc : Int) :
    Tallied (step s (.quicReady i pskHandshake sendRc)) := by
  simp only [step]
  split_ifs with hi
  swap
  · exact h
  set sentEarlyData := pskHandshake && decide (i ∈ s.quicEarlyData) with hsent
  have hlate : s.ctx.shouldTryEarlyData = false → sentEarlyData = false := by
    intro hno
    simp [hsent, h.quicEarlyData hno]
  refine h.next (.report i (.ready sendRc sentEarlyData))
    [.quicReady sentEarlyData sendRc (s.decides i)] rfl rfl ?_ ?_ ?_ h.quicEarlyData
    (h.udp_step _) h.tcp
  · rw [h.quicMessages]
    cases s.ctx.shouldTryEarlyData <;>
      simp [hi, Occurrence.acceptsSend, Occurrence.isQuicReady]
    omega
  · simp only [eventReleases_ready, h.handover, countP_cons_toNat]
    cases hE : s.ctx.shouldTryEarlyData <;> cases s.decides i <;>
      simp [hE, hlate, Occurrence.acceptsSend, Occurrence.isTcpSocket, Occurrence.winsEarly,
        Occurrence.failsSend] <;> omega
  · simp only [h.quicMessages]
    cases s.ctx.shouldTryEarlyData <;> rfl

theorem Tallied.writeDone (h : Tallied s) (i : Nat) : Tallied (step s (.writeDone i)) := by
  simp only [step]
  split_ifs with hi
  swap
  · exact h
  have hlen := length_erase_add_one hi
  refine ⟨h.isMessage, ?_, ?_, h.quicMessages, h.quicEarlyData, h.udp, h.tcp⟩
  · have hold := h.message
    simp only [messageReleases, tally] at hold ⊢
    omega
  · have hold := h.context
    simp only [contextReleases, tally] at hold ⊢
    omega

theorem Tallied.freeConnections (h : Tallied s) (p : Nat → Bool) :
    Tallied (s.freeConnections p) := by
  have hlen := length_filter_not_add p s.tcpContexts
  refine ⟨h.isMessage, h.message, ?_, ?_, h.quicEarlyData, h.udp, fun hno => ?_⟩
  · refine Eq.trans ?_ h.context
    simp only [contextReleases, Ownership.freeConnections]
    omega
  · simp only [Ownership.freeConnections, h.quicMessages]
    cases s.ctx.shouldTryEarlyData <;> rfl
  · obtain ⟨hconnecting, hsends⟩ := h.tcp hno
    exact ⟨by simp [Ownership.freeConnections, hconnecting], hsends⟩

theorem Tallied.step (h : Tallied s) (e : MessageEvent) : Tallied (Ownership.step s e) := by
  cases e with
  | timer p => exact h.timer p
  | tcpConnected i sendAccepted sendRc => exact h.tcpConnected i sendAccepted sendRc
  | quicReady i pskHandshake sendRc => exact h.quicReady i pskHandshake sendRc
  | writeDone i => exact h.writeDone i
  | ended i r =>
    simp only [Ownership.step]
    split_ifs with hr
    · exact h
    · refine h.race ?_
      cases r <;> simp_all [eventReleases, deliverReleases, Report.isReady]
  | timerClosed =>
    simp only [Ownership.step]
    split_ifs
    · exact (h.freeConnections _).race rfl
    · exact h.race rfl
  | connectionFree i =>
    simp only [Ownership.step]
    split_ifs
    · exact h.freeConnections _
    · exact h

end Steps

/-! ### A whole race -/

def raceEvent (s : Ownership) : MessageEvent → Option Event
  | .timer p => some (.timer p.outcome)
  | .tcpConnected i _ sendRc =>
    if i ∈ s.tcpConnecting ∧ s.ctx.state i = .connecting then
      some (.report i (.ready sendRc false))
    else none
  | .quicReady i pskHandshake sendRc =>
    if i ∈ s.quicConnecting then
      some (.report i (.ready sendRc (pskHandshake && decide (i ∈ s.quicEarlyData))))
    else none
  | .ended i r => if r.isReady then none else some (.report i r)
  | .timerClosed => some .timerClosed
  | .writeDone _ | .connectionFree _ => none

section Run

variable (u : Setup) (candidates : Option Nat) (p : ProtocolStart) (es : List MessageEvent)

end Run

/-! ### The condition -/

section Condition

end Condition

end Ownership

end CTaps.Racing
