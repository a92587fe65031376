import CTaps.Racing.Keeps

/-! When a race can get stuck. A report that the callbacks of its attempt
swallow leaves the attempt unconcluded for good; if every terminal report can
be absorbed, a race whose attempts have all reported is over and torn down. -/

namespace CTaps.Racing

variable {c : Context} {i j w : Nat} {o : InitOutcome} {r : Report}

def Absorbable (c : Context) : Event → Prop
  | .report i r => r.isReady = false →
    (c.state i = .connecting → r = .establishmentError) ∧ (c.state i = .closing → r = .closed)
  | _ => True

instance (c : Context) (e : Event) : Decidable (Absorbable c e) := by
  rcases e with ⟨⟩ <;> dsimp only [Absorbable] <;> infer_instance

structure Absorbed (c : Context) : Prop where
  inPhase : InPhase c
  concluded : ∀ i < c.numAttempts, HasReported c i → (c.state i).isConcluded = true

theorem registerFailedStart_state : (registerFailedStart c i).state i = .failed := by
  have hfailed : (registerFailedAttempt c i).state i = .failed := by simp [registerFailedAttempt]
  simp only [registerFailedStart, scheduleNextAttempt]
  split_ifs <;> exact hfailed

theorem initiateNextAttempt_concluded (h : RunningAt c.nextAttemptIndex c)
    (hk : c.nextAttemptIndex < c.numAttempts) (hno : ¬ HasReported c c.nextAttemptIndex)
    (hr : HasReported (initiateNextAttempt c o) c.nextAttemptIndex) :
    ((initiateNextAttempt c o).state c.nextAttemptIndex).isConcluded = true := by
  have hconn := (h.setState_connecting hk).setConnection_racing (Nat.lt_succ_self _)
  simp only [initiateNextAttempt] at hr ⊢
  rw [if_neg (by simp [h.incomplete]), if_neg (by omega)] at hr ⊢
  cases o with
  | notCreated | failed | failedReported =>
    rw [if_pos (by rfl), registerFailedStart_state]
    rfl
  | pending =>
    -- nothing is logged but the start and the timer
    refine absurd ?_ hno
    obtain ⟨r, hready, hmem⟩ := (keeps_scheduleNextAttempt (i := c.nextAttemptIndex + 1)).reported
      _ (Nat.ne_of_lt (Nat.lt_succ_self _)) hr
    exact ⟨r, hready, by simpa [startConnectionAttempt] using hmem⟩
  | ready sendRc sentEarlyData =>
    rw [if_neg (by simp [InitOutcome.isError])]
    simp only [startConnectionAttempt]
    rw [deliver_ready_eq (by simp)]
    have hwon := (hconn.note_report (i := c.nextAttemptIndex)
      (.ready sendRc sentEarlyData)).won_racingOnAttemptReady (Nat.lt_succ_self _) sendRc
      sentEarlyData
    rw [hwon.scheduleNextAttempt.succeeded]
    rfl

theorem hasReported_of_note (hr : HasReported (c.note (.report i r)) i) (hready : r.isReady = true) :
    HasReported c i := by
  obtain ⟨r', hr', hmem⟩ := hr
  rcases List.mem_cons.1 hmem with heq | hmem
  · cases heq
    simp [hready] at hr'
  · exact ⟨r', hr', hmem⟩

theorem Running.deliver_concluded (h : Running c) (hr : Absorbable c (.report i r))
    (hc : HasReported c i → (c.state i).isConcluded = true)
    (hrep : HasReported (Racing.deliver c i r) i) :
    ((Racing.deliver c i r).state i).isConcluded = true := by
  rcases h.connection i with hconn | hconn
  · simp only [Racing.deliver, hconn] at hrep ⊢
    exact hc hrep
  · have hk := h.lt_of_connection hconn
    have hnote := h.toRunningAt.note_report (i := i) r
    cases r with
    | ready sendRc sentEarlyData =>
      rw [deliver_ready_eq hconn, (hnote.won_racingOnAttemptReady hk _ _).succeeded]
      rfl
    | establishmentError =>
      rw [deliver_establishmentError_eq h.toRunningAt hconn]
      simp [registerFailedAttempt, AttemptState.isConcluded, AttemptState.isFailed]
    | closed | connectionError =>
      simp only [Racing.deliver, hconn]
      rcases h.started i hk with hs | hs
      · cases (hr rfl).1 hs
      · exact congrArg AttemptState.isConcluded hs

theorem Won.deliver_concluded (h : Won w c) (hi : i < c.numAttempts)
    (hr : Absorbable c (.report i r)) (hc : HasReported c i → (c.state i).isConcluded = true)
    (hrep : HasReported (Racing.deliver c i r) i) :
    ((Racing.deliver c i r).state i).isConcluded = true := by
  by_cases hw : i = w
  · rw [hw, (h.deliver r).succeeded]
    rfl
  have hlost : c.state i = .failed ∨ c.state i = .canceled → (c.state i).isConcluded = true := by
    rintro (hs | hs) <;> rw [hs] <;> rfl
  cases hconn : (c.attempts i).connection with
  | none =>
    simp only [Racing.deliver, hconn] at hrep ⊢
    exact hc hrep
  | some cb =>
    cases cb with
    | user => exact absurd hconn (h.loser_connection i hw)
    | racing =>
      -- a closing attempt has the other callbacks
      have hs := (h.loser i hi hw).resolve_left fun hs => h.closing_connection i hs hconn
      cases r <;>
        simpa [Racing.deliver, hconn, racingOnAttemptReady, onAttemptEstablishmentError,
          h.raceComplete] using hlost hs
    | racingClosed =>
      cases r with
      | closed =>
        simp [Racing.deliver, hconn, racedConnectionCloseCb, Racing.registerCanceledAttempt,
          AttemptState.isConcluded, AttemptState.isFailed]
      | ready sendRc sentEarlyData =>
        simp only [Racing.deliver, hconn, racingOnAttemptReady, Context.note_raceComplete,
          h.raceComplete, if_true] at hrep ⊢
        exact hc (hasReported_of_note hrep rfl)
      | establishmentError =>
        have hs := (h.loser i hi hw).resolve_left fun hs => by cases (hr rfl).2 hs
        simpa [Racing.deliver, hconn, onAttemptEstablishmentError, h.raceComplete] using hlost hs
      | connectionError =>
        have hs := (h.loser i hi hw).resolve_left fun hs => by cases (hr rfl).2 hs
        simpa [Racing.deliver, hconn] using hlost hs

theorem Absorbed.deliver (h : Absorbed c) (hi : i < c.numAttempts)
    (hr : Absorbable c (.report i r)) (hphase : InPhase (Racing.deliver c i r)) :
    Absorbed (Racing.deliver c i r) := by
  refine ⟨hphase, fun j hj hrep => ?_⟩
  have hkeeps := keeps_deliver (c := c) (i := i) (r := r)
  by_cases hji : j = i
  · subst hji
    rcases h.inPhase with hrun | hlost | ⟨w, hwon⟩
    · exact hrun.deliver_concluded hr (h.concluded j hi) hrep
    · have hconcluded : (c.state j).isConcluded = true := by
        simp [AttemptState.isConcluded, hlost.failed j hi]
      rcases hlost.deliver_eq (i := j) r with heq | heq <;> rw [heq] <;> exact hconcluded
    · exact hwon.deliver_concluded hi hr (h.concluded j hi) hrep
  · exact hkeeps.concluded j hji (h.concluded j (hkeeps.frame.num ▸ hj) (hkeeps.reported j hji hrep))

theorem absorbed_initiateNextAttempt
    (hc : ∀ i < c.numAttempts, HasReported c i → (c.state i).isConcluded = true)
    (hrun : RunningAt c.nextAttemptIndex c) (hk : c.nextAttemptIndex < c.numAttempts)
    (hphase : InPhase (initiateNextAttempt c o)) : Absorbed (initiateNextAttempt c o) := by
  refine ⟨hphase, fun j hj hrep => ?_⟩
  have hkeeps := keeps_initiateNextAttempt (c := c) (o := o)
  by_cases hjk : j = c.nextAttemptIndex
  · subst hjk
    refine initiateNextAttempt_concluded hrun hk (fun hr => ?_) hrep
    have hpending := hc _ hk hr
    rw [hrun.notStarted _ (Nat.le_refl _)] at hpending
    cases hpending
  · exact hkeeps.concluded j hjk (hc j (hkeeps.frame.num ▸ hj) (hkeeps.reported j hjk hrep))

theorem Absorbed.step {e : Event} (h : Absorbed c) (he : Absorbable c e) :
    Absorbed (Racing.step c e) := by
  have hphase := h.inPhase.step e
  cases e with
  | timer o =>
    by_cases hactive : c.timerActive = true
    · have hidle : Absorbed { c with timerActive := false } → c.raceComplete = true →
          Absorbed (Racing.step c (.timer o)) := by
        intro hidle hcomplete
        simpa [Racing.step, onStaggerTimer, hactive, hcomplete] using hidle
      rcases h.inPhase with hrun | hlost | ⟨w, hwon⟩
      · have hrun' : RunningAt c.nextAttemptIndex { c with timerActive := false } :=
          { hrun.toRunningAt with }
        have hstep : Racing.step c (.timer o) =
            initiateNextAttempt { c with timerActive := false } o := by
          simp [Racing.step, onStaggerTimer, hactive, hrun.incomplete]
        rw [hstep] at hphase ⊢
        exact absorbed_initiateNextAttempt (c := { c with timerActive := false }) h.concluded hrun'
          (hrun.timer.1 hactive) hphase
      · simp [hlost.timerActive] at hactive
      · exact hidle ⟨.inr (.inr ⟨w, { hwon with }⟩), h.concluded⟩ hwon.raceComplete
    · simpa [Racing.step, hactive] using h
  | report i r =>
    by_cases hi : i < c.numAttempts
    · have hstep : Racing.step c (.report i r) = Racing.deliver c i r := by simp [Racing.step, hi]
      rw [hstep] at hphase ⊢
      exact h.deliver hi he hphase
    · simpa [Racing.step, hi] using h
  | timerClosed =>
    by_cases hclosing : (c.timerClosing && !c.freed) = true
    · have hstep : Racing.step c .timerClosed = onTimerCloseFreeContext c := by
        simp only [Racing.step, if_pos hclosing]
      rw [hstep] at hphase ⊢
      refine ⟨hphase, fun j hj hrep => ?_⟩
      rw [onTimerCloseFreeContext_state]
      refine h.concluded j hj (onTimerCloseFreeContext_log.hasReported ?_ hrep)
      rintro e (rfl | rfl) <;> rfl
    · simpa only [Racing.step, if_neg hclosing] using h

theorem absorbed_start (u : Setup) (n : Nat) (o : InitOutcome) :
    Absorbed (startCandidateRacingOnNodesReady u (some (n + 1)) o) := by
  refine absorbed_initiateNextAttempt ?_ (runningAt_zero u n) (Nat.succ_pos n) (inPhase_start u n o)
  rintro i - ⟨r, -, hmem⟩
  cases hmem

theorem Absorbed.concluded_of_reported (h : Absorbed c) (htimer : c.timerActive = false)
    (hreported : ∀ i < c.numAttempts, c.state i = .connecting ∨ c.state i = .closing →
      HasReported c i) :
    (∀ i < c.numAttempts, (c.state i).isConcluded = true) ∧ c.timerClosing = true := by
  rcases h.inPhase with hrun | hlost | ⟨w, hwon⟩
  · -- some attempt of a running race has not failed; it is started, so it has reported
    obtain ⟨i, hi, hopen⟩ := hrun.exists_open
    have hk : i < c.nextAttemptIndex := by
      by_contra hk
      have : c.nextAttemptIndex < c.numAttempts := by omega
      simp [hrun.timer.2 this] at htimer
    have hconnecting : c.state i = .connecting := by
      refine (hrun.started i hk).resolve_right fun hs => ?_
      rw [hs] at hopen
      cases hopen
    simp [h.concluded i hi (hreported i hi (.inl hconnecting))] at hopen
  · refine ⟨fun i hi => ?_, hlost.timerClosing⟩
    simp [AttemptState.isConcluded, hlost.failed i hi]
  · have hall : ∀ i < c.numAttempts, (c.state i).isConcluded = true := by
      intro i hi
      by_cases hw : i = w
      · rw [hw, hwon.succeeded]
        rfl
      · rcases hwon.loser i hi hw with hs | hs | hs
        · exact h.concluded i hi (hreported i hi (.inr hs))
        · rw [hs]
          rfl
        · rw [hs]
          rfl
    exact ⟨hall, hwon.closing_of_concluded (allAttemptsConcluded_iff.2 hall)⟩

/-- If the terminal reports of a race are all absorbable, then once no timer is pending and every
attempt still connecting or closing has reported, every attempt is concluded and the close of the
context requested. -/
theorem race_not_stuck (u : Setup) (n : Nat) (o : InitOutcome) (es : List Event)
    (hsteps : Lib.AllSteps step Absorbable (startCandidateRacingOnNodesReady u (some (n + 1)) o) es)
    (htimer : (race u (n + 1) o es).timerActive = false)
    (hreported : ∀ i < n + 1, (race u (n + 1) o es).state i = .connecting ∨
      (race u (n + 1) o es).state i = .closing → HasReported (race u (n + 1) o es) i) :
    (∀ i < n + 1, ((race u (n + 1) o es).state i).isConcluded = true) ∧
      (race u (n + 1) o es).timerClosing = true := by
  have h : Absorbed (race u (n + 1) o es) :=
    Lib.run_invariant (fun _ _ h he => h.step he) (absorbed_start u n o) hsteps
  have hover := h.concluded_of_reported htimer
  rw [race_numAttempts] at hover
  exact hover hreported

theorem race_not_stuck_two :
    (race {} 2 .pending [.timer .pending, .report 1 (.ready 0 false), .report 0 .closed]).timerClosing
      = true :=
  (race_not_stuck {} 1 .pending [.timer .pending, .report 1 (.ready 0 false), .report 0 .closed]
    (by decide) (by decide) (by decide)).2

/-- Attempt 0, asked to close, fails instead: it stays CLOSING and nothing is torn down. -/
theorem race_stuck :
    let c := race {} 2 .pending
      [.timer .pending, .report 1 (.ready 0 false), .report 0 .establishmentError]
    c.timerActive = false ∧ HasReported c 0 ∧ c.state 1 = .succeeded ∧
      ¬ ((∀ i < 2, (c.state i).isConcluded = true) ∧ c.timerClosing = true) :=
  by decide

end CTaps.Racing
