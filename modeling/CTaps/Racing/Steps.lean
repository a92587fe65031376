import CTaps.Racing.Phases

/-! Every event keeps a race in one of its phases. A decided race stays decided:
late reports and a late timer only move losers towards their end. -/

namespace CTaps.Racing

variable {c : Context} {i k w : Nat}

def InPhase (c : Context) : Prop := Running c ∨ Lost c ∨ ∃ w, Won w c

section Launch

theorem RunningAt.setState_connecting (h : RunningAt k c) (hk : k < c.numAttempts) :
    RunningAt (k + 1) (c.setState k .connecting) where
  incomplete := h.incomplete
  le_num := hk
  started j hj := by
    by_cases hjk : j = k
    · simp [hjk]
    · simpa [hjk] using h.started j (by omega)
  notStarted j hj := by
    have hjk : j ≠ k := by omega
    simpa [hjk] using h.notStarted j (by omega)
  unopened j hj := by simpa using h.unopened j (by omega)
  live := ⟨k, hk, by simp [AttemptState.isFailed]⟩
  connection j := by simpa using h.connection j
  timerClosing := h.timerClosing
  freed := h.freed
  logOk e he := by
    rcases List.mem_cons.1 he with rfl | he
    · simp [Entry.Ok, h.incomplete]
    · exact h.logOk e he

theorem RunningAt.setConnection_racing (h : RunningAt k c) (hi : i < k) :
    RunningAt k (c.setConnection i (some .racing)) where
  incomplete := h.incomplete
  le_num := h.le_num
  started j hj := by simpa using h.started j hj
  notStarted j hj := by simpa using h.notStarted j hj
  unopened j hj := by
    have hji : j ≠ i := by omega
    simpa [hji] using h.unopened j hj
  live := by simpa using h.live
  connection j := by
    by_cases hj : j = i
    · simp [hj]
    · simpa [hj] using h.connection j
  timerClosing := h.timerClosing
  freed := h.freed
  logOk := h.logOk

theorem RunningAt.note_report (h : RunningAt k c) (r : Report) :
    RunningAt k (c.note (.report i r)) where
  incomplete := h.incomplete
  le_num := h.le_num
  started := h.started
  notStarted := h.notStarted
  unopened := h.unopened
  live := h.live
  connection := h.connection
  timerClosing := h.timerClosing
  freed := h.freed
  logOk e he := by
    rcases List.mem_cons.1 he with rfl | he
    · trivial
    · exact h.logOk e he

theorem deliver_establishmentError_eq (h : RunningAt k c)
    (hconn : (c.attempts i).connection = some .racing) :
    deliver c i .establishmentError =
      registerFailedAttempt (c.note (.report i .establishmentError)) i := by
  simp [deliver, hconn, onAttemptEstablishmentError, h.incomplete]

theorem deliver_ready_eq {sendRc : Int} {sentEarlyData : Bool}
    (hconn : (c.attempts i).connection = some .racing) :
    deliver c i (.ready sendRc sentEarlyData) =
      racingOnAttemptReady (c.note (.report i (.ready sendRc sentEarlyData))) i sendRc
        sentEarlyData := by
  simp [deliver, hconn]

theorem RunningAt.registerFailedAttempt_cases (h : RunningAt k c) (hi : i < k) :
    (allAttemptsFailed (c.conclude i .failed) = true ∧ Lost (registerFailedAttempt c i)) ∨
      (allAttemptsFailed (c.conclude i .failed) = false ∧ RunningAt k (registerFailedAttempt c i) ∧
        registerFailedAttempt c i = c.conclude i .failed) := by
  cases hf : allAttemptsFailed (c.conclude i .failed) with
  | true => exact .inl ⟨rfl, h.lost_registerFailedAttempt hf⟩
  | false =>
    have heq := h.registerFailedAttempt_eq hi hf
    exact .inr ⟨rfl, heq ▸ h.conclude_failed hi hf, heq⟩

theorem Won.scheduleNextAttempt (h : Won w c) : Won w (scheduleNextAttempt c) := by
  simp only [Racing.scheduleNextAttempt]
  split_ifs
  · have hnote := h.note (e := .timerStart) trivial
    exact { hnote with }
  · exact { h with }

theorem RunningAt.scheduleNextAttempt (h : RunningAt k c) (hk : k = c.nextAttemptIndex + 1)
    (ht : c.timerActive = false) : Running (scheduleNextAttempt c) := by
  subst hk
  simp only [Racing.scheduleNextAttempt]
  split_ifs with hnum
  · refine ⟨{ h with logOk := ?_ }, ?_⟩
    · intro e he
      rcases List.mem_cons.1 he with rfl | he
      · trivial
      · exact h.logOk e he
    · simpa [uvTimerStart, h.timerClosing, ht] using hnum
  · exact ⟨{ h with }, by simpa [ht] using hnum⟩

theorem RunningAt.startConnectionAttempt_error {o : InitOutcome} (h : RunningAt k c)
    (hk : k < c.numAttempts) (ho : o.isError = true) :
    (RunningAt (k + 1) (startConnectionAttempt c k o) ∧
        (startConnectionAttempt c k o).nextAttemptIndex = c.nextAttemptIndex ∧
        (startConnectionAttempt c k o).timerActive = c.timerActive) ∨
      Lost (startConnectionAttempt c k o) := by
  have hstart := h.setState_connecting hk
  cases o with
  | notCreated => exact .inl ⟨hstart, rfl, rfl⟩
  | failed => exact .inl ⟨hstart.setConnection_racing (Nat.lt_succ_self k), rfl, rfl⟩
  | failedReported =>
    have hconn := hstart.setConnection_racing (Nat.lt_succ_self k)
    have heq := deliver_establishmentError_eq (i := k) hconn (by simp)
    simp only [startConnectionAttempt]
    rw [heq]
    rcases (hconn.note_report (i := k) .establishmentError).registerFailedAttempt_cases
      (Nat.lt_succ_self k) with ⟨-, hlost⟩ | ⟨-, hrun, hc⟩
    · exact .inr hlost
    · exact .inl ⟨hrun, by rw [hc]; rfl, by rw [hc]; rfl⟩
  | pending | ready => cases ho

theorem RunningAt.registerFailedStart (h : RunningAt k c) (hk : k = c.nextAttemptIndex + 1)
    (ht : c.timerActive = false) : InPhase (registerFailedStart c c.nextAttemptIndex) := by
  simp only [Racing.registerFailedStart]
  rcases h.registerFailedAttempt_cases (i := c.nextAttemptIndex) (by omega) with
    ⟨-, hlost⟩ | ⟨hf, hrun, heq⟩
  · rw [if_pos hlost.allAttemptsFailed]
    exact .inr (.inl hlost.handleAllAttemptsFailed)
  · rw [heq, if_neg (by simp [hf])]
    rw [heq] at hrun
    exact .inl (hrun.scheduleNextAttempt hk ht)

theorem Lost.registerFailedStart (h : Lost c) : Lost (registerFailedStart c i) := by
  simp only [Racing.registerFailedStart]
  rw [if_pos h.registerFailedAttempt.allAttemptsFailed]
  exact h.registerFailedAttempt.handleAllAttemptsFailed

theorem RunningAt.initiateNextAttempt (h : RunningAt c.nextAttemptIndex c)
    (hk : c.nextAttemptIndex < c.numAttempts) (ht : c.timerActive = false) (o : InitOutcome) :
    InPhase (initiateNextAttempt c o) := by
  simp only [Racing.initiateNextAttempt]
  rw [if_neg (by simp [h.incomplete]), if_neg (by omega)]
  have hconn := (h.setState_connecting hk).setConnection_racing (Nat.lt_succ_self _)
  cases ho : o.isError with
  | true =>
    rw [if_pos rfl]
    rcases h.startConnectionAttempt_error hk ho with ⟨hrun, hnext, htimer⟩ | hlost
    · have hphase := hrun.registerFailedStart (by rw [hnext]) (htimer.trans ht)
      rwa [hnext] at hphase
    · exact .inr (.inl hlost.registerFailedStart)
  | false =>
    rw [if_neg (by simp)]
    cases o with
    | pending => exact .inl (hconn.scheduleNextAttempt rfl ht)
    | ready sendRc sentEarlyData =>
      simp only [startConnectionAttempt]
      rw [deliver_ready_eq (by simp)]
      have hwon := (hconn.note_report (i := c.nextAttemptIndex)
        (.ready sendRc sentEarlyData)).won_racingOnAttemptReady
        (Nat.lt_succ_self _) sendRc sentEarlyData
      exact .inr (.inr ⟨_, hwon.scheduleNextAttempt⟩)
    | notCreated | failed | failedReported => cases ho

end Launch

section Deliver

theorem Running.lt_of_connection {cb : Callbacks} (h : Running c)
    (hconn : (c.attempts i).connection = some cb) : i < c.nextAttemptIndex := by
  by_contra hk
  simp [h.unopened i (by omega)] at hconn

theorem Running.deliver (h : Running c) (r : Report) :
    InPhase (deliver c i r) := by
  rcases h.connection i with hconn | hconn
  · simp only [Racing.deliver, hconn]
    exact .inl h
  · have hk := h.lt_of_connection hconn
    have hnote := h.toRunningAt.note_report (i := i) r
    cases r with
    | ready sendRc sentEarlyData =>
      rw [deliver_ready_eq hconn]
      exact .inr (.inr ⟨i, hnote.won_racingOnAttemptReady hk sendRc sentEarlyData⟩)
    | establishmentError =>
      rw [deliver_establishmentError_eq h.toRunningAt hconn]
      rcases hnote.registerFailedAttempt_cases hk with ⟨-, hlost⟩ | ⟨-, hrun, heq⟩
      · exact .inr (.inl hlost)
      · rw [heq] at hrun ⊢
        exact .inl ⟨hrun, h.timer⟩
    | closed | connectionError =>
      simp only [Racing.deliver, hconn]
      exact .inl ⟨hnote, h.timer⟩

theorem Lost.note_report (h : Lost c) (r : Report) : Lost (c.note (.report i r)) :=
  { h with
    logOk := by
      intro e he
      rcases List.mem_cons.1 he with rfl | he
      · trivial
      · exact h.logOk e he }

theorem Lost.deliver_eq (h : Lost c) (r : Report) :
    deliver c i r = c ∨ deliver c i r = c.note (.report i r) := by
  rcases h.connection i with hconn | hconn
  · exact .inl (by simp [Racing.deliver, hconn])
  · right
    cases r <;>
      simp [Racing.deliver, hconn, racingOnAttemptReady, onAttemptEstablishmentError, h.complete]

theorem Won.registerCanceledAttempt (h : Won w c) (hi : i ≠ w) :
    Won w (registerCanceledAttempt c i) where
  toDecided := h.toDecided.registerCanceledAttempt hi
  winning := by simpa [Racing.registerCanceledAttempt] using h.winning
  logged := (h.toDecided.registerCanceledAttempt_log hi).hasSucceeded h.logged
  winner_connection := by
    rw [Racing.registerCanceledAttempt, handleConcludedAttempt_attempts, conclude_connection]
    exact h.winner_connection
  loser j hj hw := by
    rw [Racing.registerCanceledAttempt, handleConcludedAttempt_state, conclude_state]
    split_ifs
    · exact .inr (.inr rfl)
    · exact h.loser j (by simpa [Racing.registerCanceledAttempt] using hj) hw
  loser_connection j hw := by
    rw [Racing.registerCanceledAttempt, handleConcludedAttempt_attempts, conclude_connection]
    exact h.loser_connection j hw
  closing_connection j hs := by
    rw [Racing.registerCanceledAttempt, handleConcludedAttempt_state, conclude_state] at hs
    rw [Racing.registerCanceledAttempt, handleConcludedAttempt_attempts, conclude_connection]
    split_ifs at hs
    exact h.closing_connection j hs
  logOk := by
    refine (h.toDecided.registerCanceledAttempt_log hi).ok (fun e he => he.ok _) h.logOk

theorem Won.deliver_cases (h : Won w c) (i : Nat) (r : Report) :
    deliver c i r = c ∨ i = w ∧ deliver c i r = c.note (.forwarded i r) ∨
      deliver c i r = c.note (.report i r) ∨
      i ≠ w ∧ r = .closed ∧ (c.attempts i).connection = some .racingClosed ∧
        deliver c i r = Racing.registerCanceledAttempt (c.note (.report i r)) i := by
  cases hconn : (c.attempts i).connection with
  | none => exact .inl (by simp only [Racing.deliver, hconn])
  | some cb =>
    by_cases hi : i = w
    · have huser : cb = .user := Option.some.inj (hconn.symm.trans (hi ▸ h.winner_connection))
      exact .inr (.inl ⟨hi, by simp only [Racing.deliver, hconn, huser]⟩)
    · have hne : cb ≠ .user := fun hcb => h.loser_connection i hi (hcb ▸ hconn)
      by_cases hclosed : r = .closed ∧ cb = .racingClosed
      · refine .inr (.inr (.inr ⟨hi, hclosed.1, hclosed.2 ▸ rfl, ?_⟩))
        simp [Racing.deliver, hconn, hclosed, racedConnectionCloseCb]
      · refine .inr (.inr (.inl ?_))
        cases r <;> cases cb <;> simp_all [Racing.deliver, racingOnAttemptReady,
          onAttemptEstablishmentError, h.raceComplete]

theorem Won.deliver (h : Won w c) (r : Report) : Won w (deliver c i r) := by
  rcases h.deliver_cases i r with heq | ⟨hi, heq⟩ | heq | ⟨hi, -, -, heq⟩ <;> rw [heq]
  · exact h
  · exact h.note (congrArg some hi.symm)
  · exact h.note trivial
  · exact (h.note (e := .report i r) trivial).registerCanceledAttempt hi

end Deliver

section Teardown

@[simp] theorem onTimerCloseFreeContext_state :
    (onTimerCloseFreeContext c).state i = c.state i := by
  change (if i < c.numAttempts ∧ c.state i ≠ .succeeded then
    { c.attempts i with connection := none } else c.attempts i).state = _
  split_ifs <;> rfl

theorem onTimerCloseFreeContext_connection :
    ((onTimerCloseFreeContext c).attempts i).connection =
      if i < c.numAttempts ∧ c.state i ≠ .succeeded then none else (c.attempts i).connection := by
  change (if i < c.numAttempts ∧ c.state i ≠ .succeeded then
    { c.attempts i with connection := none } else c.attempts i).connection = _
  split_ifs <;> rfl

theorem onTimerCloseFreeContext_log :
    LogGrows (fun e => e = .messageFree ∨ e = .messageContextFree) c
      (onTimerCloseFreeContext c) := by
  cases hown : !c.shouldTryEarlyData && c.initialMessage with
  | true =>
    exact ⟨[.messageContextFree, .messageFree], by simp [onTimerCloseFreeContext, hown], by simp⟩
  | false => exact ⟨[], by simp [onTimerCloseFreeContext, hown], by simp⟩

theorem onTimerCloseFreeContext_logOk {win : Option Nat} (h : ∀ e ∈ c.log, e.Ok win) :
    ∀ e ∈ (onTimerCloseFreeContext c).log, e.Ok win := by
  refine onTimerCloseFreeContext_log.ok ?_ h
  rintro e (rfl | rfl) <;> trivial

theorem Lost.onTimerCloseFreeContext (h : Lost c) : Lost (onTimerCloseFreeContext c) where
  complete := h.complete
  failed i hi := by simpa using h.failed i hi
  connection i := by
    rw [onTimerCloseFreeContext_connection]
    split_ifs
    · exact .inl rfl
    · exact h.connection i
  timerClosing := h.timerClosing
  timerActive := h.timerActive
  logOk := onTimerCloseFreeContext_logOk h.logOk

theorem Won.onTimerCloseFreeContext (h : Won w c) : Won w (onTimerCloseFreeContext c) where
  raceComplete := h.raceComplete
  lt_num := h.lt_num
  succeeded := by simpa using h.succeeded
  closing_of_concluded hc := by
    refine h.closing_of_concluded (allAttemptsConcluded_iff.2 fun i hi => ?_)
    simpa using allAttemptsConcluded_iff.1 hc i hi
  winning := h.winning
  logged := onTimerCloseFreeContext_log.hasSucceeded h.logged
  winner_connection := by
    rw [onTimerCloseFreeContext_connection, if_neg (by simp [h.succeeded])]
    exact h.winner_connection
  loser i hi hw := by simpa using h.loser i hi hw
  loser_connection i hw := by
    rw [onTimerCloseFreeContext_connection]
    split_ifs
    · simp
    · exact h.loser_connection i hw
  closing_connection i hs := by
    rw [onTimerCloseFreeContext_connection]
    split_ifs
    · simp
    · exact h.closing_connection i (by simpa using hs)
  logOk := onTimerCloseFreeContext_logOk h.logOk

end Teardown

section Run

theorem Won.step (h : Won w c) (e : Event) : Won w (step c e) := by
  cases e with
  | timer o =>
    simp only [Racing.step, onStaggerTimer]
    rw [if_pos h.raceComplete]
    split_ifs
    · exact { h with }
    · exact h
  | report i r =>
    simp only [Racing.step]
    split_ifs
    · exact h.deliver r
    · exact h
  | timerClosed =>
    simp only [Racing.step]
    split_ifs
    · exact h.onTimerCloseFreeContext
    · exact h

theorem Lost.step (h : Lost c) (e : Event) : Lost (step c e) := by
  cases e with
  | timer o => simpa [Racing.step, h.timerActive] using h
  | report i r =>
    simp only [Racing.step]
    split_ifs
    · rcases h.deliver_eq (i := i) r with heq | heq <;> rw [heq]
      · exact h
      · exact h.note_report r
    · exact h
  | timerClosed =>
    simp only [Racing.step]
    split_ifs
    · exact h.onTimerCloseFreeContext
    · exact h

theorem Running.step (h : Running c) (e : Event) : InPhase (step c e) := by
  cases e with
  | timer o =>
    simp only [Racing.step, onStaggerTimer]
    split_ifs with hactive hcomplete
    · simp [h.incomplete] at hcomplete
    · have hrun : RunningAt c.nextAttemptIndex { c with timerActive := false } :=
        { h.toRunningAt with }
      exact RunningAt.initiateNextAttempt (c := { c with timerActive := false }) hrun
        (h.timer.1 hactive) rfl o
    · exact .inl h
  | report i r =>
    simp only [Racing.step]
    split_ifs
    · exact h.deliver r
    · exact .inl h
  | timerClosed =>
    have heq : Racing.step c .timerClosed = c := by simp [Racing.step, h.timerClosing]
    rw [heq]
    exact .inl h

theorem InPhase.step (h : InPhase c) (e : Event) : InPhase (step c e) := by
  rcases h with h | h | ⟨w, h⟩
  · exact h.step e
  · exact .inr (.inl (h.step e))
  · exact .inr (.inr ⟨w, h.step e⟩)

theorem InPhase.step_raceComplete (h : InPhase c) (hc : c.raceComplete = true) (e : Event) :
    (Racing.step c e).raceComplete = true := by
  rcases h with h | h | ⟨w, h⟩
  · simp [h.incomplete] at hc
  · exact (h.step e).complete
  · exact (h.step e).raceComplete

theorem runningAt_zero (u : Setup) (n : Nat) :
    RunningAt 0 (racingContextInitializeAttemptArray (racingContextCreate u) (n + 1)) where
  incomplete := rfl
  le_num := Nat.zero_le _
  started i hi := absurd hi (Nat.not_lt_zero i)
  notStarted _ _ := rfl
  unopened _ _ := rfl
  live := ⟨0, Nat.succ_pos n, rfl⟩
  connection _ := .inl rfl
  timerClosing := rfl
  freed := rfl
  logOk e he := by cases he

theorem inPhase_start (u : Setup) (n : Nat) (o : InitOutcome) :
    InPhase (startCandidateRacingOnNodesReady u (some (n + 1)) o) :=
  (runningAt_zero u n).initiateNextAttempt (Nat.succ_pos n) rfl o

theorem inPhase_race (u : Setup) (n : Nat) (o : InitOutcome) (es : List Event) :
    InPhase (race u (n + 1) o es) :=
  Lib.run_invariant_of_step (fun _ e h => h.step e) (inPhase_start u n o) es

end Run

end CTaps.Racing
