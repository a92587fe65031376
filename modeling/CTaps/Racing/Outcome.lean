import CTaps.Racing.Steps

/-! How often a race calls the user's outcome callbacks. A decided race never
does again; an undecided one does so once when it is decided, except that an
attempt whose start fails after all others have failed is reported twice. -/

namespace CTaps.Racing

variable {c c' : Context} {i k w : Nat} {o : InitOutcome}

def Entry.isOutcome : Entry → Bool
  | .userReady _ _ | .userEstablishmentError => true
  | _ => false

def Context.outcomes (c : Context) : Nat := c.log.countP Entry.isOutcome

theorem LogGrows.outcomes_eq {p : Entry → Prop} (h : LogGrows p c c')
    (hp : ∀ e, p e → e.isOutcome = false) : c'.outcomes = c.outcomes := h.countP_eq hp

theorem Entry.IsCancel.isOutcome {e : Entry} (h : e.IsCancel) : e.isOutcome = false := by
  cases e <;> first | rfl | exact h.elim

theorem outcomes_note {e : Entry} (he : e.isOutcome = false) : (c.note e).outcomes = c.outcomes := by
  simp [Context.outcomes, he]

theorem outcomes_noteIf {e : Entry} (b : Bool) (he : e.isOutcome = false) :
    (c.noteIf b e).outcomes = c.outcomes := by
  cases b <;> simp [Context.outcomes, he]

theorem outcomes_noteIf_outcome {e : Entry} (b : Bool) (he : e.isOutcome = true) :
    (c.noteIf b e).outcomes = c.outcomes + b.toNat := by
  cases b <;> simp [Context.outcomes, he]

theorem outcomes_handleAllAttemptsFailed :
    (handleAllAttemptsFailed c).outcomes =
      c.outcomes + c.userCallbacks.establishmentError.toNat := by
  cases h : c.userCallbacks.establishmentError <;>
    simp [Context.outcomes, handleAllAttemptsFailed, Entry.isOutcome, List.countP_cons, h]

theorem outcomes_scheduleNextAttempt : (scheduleNextAttempt c).outcomes = c.outcomes := by
  simp only [scheduleNextAttempt]
  split_ifs <;> simp [Context.outcomes, uvTimerStart, Entry.isOutcome]

section Failure

def OthersFailed (c : Context) (i : Nat) : Prop :=
  ∀ j < c.numAttempts, j ≠ i → (c.state j).isFailed = true

instance (c : Context) (i : Nat) : Decidable (OthersFailed c i) :=
  inferInstanceAs (Decidable (∀ j < c.numAttempts, j ≠ i → (c.state j).isFailed = true))

theorem allAttemptsFailed_conclude_iff :
    allAttemptsFailed (c.conclude i .failed) = true ↔ OthersFailed c i := by
  rw [allAttemptsFailed_iff]
  refine forall_congr' fun j => forall_congr' fun _ => ?_
  by_cases hj : j = i
  · simp [hj, AttemptState.isFailed]
  · simp [hj]

theorem outcomes_registerFailedAttempt_of_others (h : OthersFailed c i) :
    (registerFailedAttempt c i).outcomes =
      c.outcomes + c.userCallbacks.establishmentError.toNat := by
  rw [registerFailedAttempt,
    handleConcludedAttempt_of_failed (allAttemptsFailed_conclude_iff.2 h),
    outcomes_handleAllAttemptsFailed]
  simp [Context.outcomes, Entry.isOutcome]

theorem outcomes_registerFailedAttempt_of_not (h : ¬ OthersFailed c i) :
    (registerFailedAttempt c i).outcomes = c.outcomes := by
  have hf : allAttemptsFailed (c.conclude i .failed) = false := by
    rw [Bool.eq_false_iff]
    exact fun hf => h (allAttemptsFailed_conclude_iff.1 hf)
  obtain hl | hl := handleConcludedAttempt_log_of_not_failed hf <;>
    simp [Context.outcomes, registerFailedAttempt, hl, Entry.isOutcome]

theorem allAttemptsFailed_registerFailedAttempt_iff :
    allAttemptsFailed (registerFailedAttempt c i) = true ↔ OthersFailed c i := by
  rw [← allAttemptsFailed_conclude_iff, allAttemptsFailed_iff, allAttemptsFailed_iff]
  simp [registerFailedAttempt]

theorem outcomes_registerFailedStart_of_others (h : OthersFailed c i) :
    (registerFailedStart c i).outcomes =
      c.outcomes + 2 * c.userCallbacks.establishmentError.toNat := by
  simp only [registerFailedStart]
  rw [if_pos (allAttemptsFailed_registerFailedAttempt_iff.2 h), outcomes_handleAllAttemptsFailed,
    outcomes_registerFailedAttempt_of_others h]
  simp only [registerFailedAttempt, handleConcludedAttempt_userCallbacks,
    Context.conclude_userCallbacks]
  omega

theorem outcomes_registerFailedStart_of_not (h : ¬ OthersFailed c i) :
    (registerFailedStart c i).outcomes = c.outcomes := by
  simp only [registerFailedStart]
  rw [if_neg (by rwa [allAttemptsFailed_registerFailedAttempt_iff]), outcomes_scheduleNextAttempt,
    outcomes_registerFailedAttempt_of_not h]

theorem startConnectionAttempt_error_frame (h : RunningAt k c) (hk : k < c.numAttempts)
    (ho : o.isError = true) :
    (OthersFailed (startConnectionAttempt c k o) k ↔ OthersFailed c k) ∧
      (startConnectionAttempt c k o).userCallbacks = c.userCallbacks := by
  have hconn := (h.setState_connecting hk).setConnection_racing (Nat.lt_succ_self k)
  cases o with
  | notCreated | failed =>
    refine ⟨forall_congr' fun j => forall_congr' fun _ => forall_congr' fun hj => ?_, rfl⟩
    simp [startConnectionAttempt, hj]
  | failedReported =>
    simp only [startConnectionAttempt]
    rw [deliver_establishmentError_eq hconn (by simp)]
    refine ⟨?_, by simp [registerFailedAttempt]⟩
    simp only [OthersFailed, registerFailedAttempt, handleConcludedAttempt_numAttempts]
    refine forall_congr' fun j => forall_congr' fun _ => forall_congr' fun hj => ?_
    simp [hj]
  | pending | ready => cases ho

theorem outcomes_startConnectionAttempt_error (h : RunningAt k c) (hk : k < c.numAttempts)
    (ho : o.isError = true) :
    c.outcomes ≤ (startConnectionAttempt c k o).outcomes ∧
      (c.userCallbacks.establishmentError = false ∨ ¬ OthersFailed c k →
        (startConnectionAttempt c k o).outcomes = c.outcomes) := by
  have hconn := (h.setState_connecting hk).setConnection_racing (Nat.lt_succ_self k)
  have hstart : ((c.setState k .connecting).setConnection k (some .racing)).outcomes =
      c.outcomes := by simp [Context.outcomes, Entry.isOutcome]
  cases o with
  | notCreated | failed => simp [startConnectionAttempt, Context.outcomes, Entry.isOutcome]
  | failedReported =>
    have hothers : OthersFailed (((c.setState k .connecting).setConnection k
        (some .racing)).note (.report k .establishmentError)) k ↔ OthersFailed c k := by
      refine forall_congr' fun j => forall_congr' fun _ => forall_congr' fun hj => ?_
      simp [hj]
    have hnote : (((c.setState k .connecting).setConnection k (some .racing)).note
        (.report k .establishmentError)).outcomes = c.outcomes :=
      (outcomes_note rfl).trans hstart
    simp only [startConnectionAttempt]
    rw [deliver_establishmentError_eq hconn (by simp)]
    by_cases hof : OthersFailed c k
    · rw [outcomes_registerFailedAttempt_of_others (hothers.2 hof), hnote]
      exact ⟨Nat.le_add_right _ _, fun h => by simp [h.resolve_right (not_not.2 hof)]⟩
    · rw [outcomes_registerFailedAttempt_of_not (hothers.not.2 hof), hnote]
      exact ⟨Nat.le_refl _, fun _ => rfl⟩
  | pending | ready => cases ho

end Failure

section Ready

theorem outcomes_racingOnAttemptReady (h : RunningAt k c) (hi : i < k) (sendRc : Int)
    (sentEarlyData : Bool) :
    (racingOnAttemptReady c i sendRc sentEarlyData).outcomes =
      c.outcomes + c.userCallbacks.ready.toNat := by
  have hnum : i < c.numAttempts := Nat.lt_of_lt_of_le hi h.le_num
  obtain ⟨-, hlog⟩ := (decided_registerSuccesfulAttempt hnum).cancelLoop
    (l := List.range (registerSuccesfulAttempt c i).numAttempts) (by simp)
  have hframe := cancelLoop_frame (l := List.range (registerSuccesfulAttempt c i).numAttempts)
    (c := registerSuccesfulAttempt c i) (w := i)
  have hcancel : (cancelAllOtherAttempts (registerSuccesfulAttempt c i) i).outcomes =
      c.outcomes := by
    refine (hlog.outcomes_eq fun e he => he.isOutcome).trans ?_
    refine (registerSuccesfulAttempt_log hnum).outcomes_eq ?_
    rintro e (rfl | rfl) <;> rfl
  have huser : (cancelAllOtherAttempts (registerSuccesfulAttempt c i) i).userCallbacks =
      c.userCallbacks := hframe.2.2.2.1.trans (by simp [registerSuccesfulAttempt])
  simp only [racingOnAttemptReady]
  rw [if_neg (by simp [h.incomplete]), outcomes_note rfl, notifyUserReady,
    outcomes_noteIf_outcome _ rfl, sendInitialMessage, outcomes_noteIf _ rfl,
    outcomes_noteIf _ rfl, outcomes_noteIf _ rfl]
  simp only [Context.noteIf_userCallbacks, Context.setConnection_userCallbacks, huser]
  exact congrArg (· + _) hcancel

theorem outcomes_deliver_of_running (h : Running c) (r : Report) :
    (deliver c i r).outcomes = c.outcomes ∨
      ((deliver c i r).raceComplete = true ∧
        ∃ b : Bool, (deliver c i r).outcomes = c.outcomes + b.toNat) := by
  rcases h.connection i with hconn | hconn
  · exact .inl (by simp only [deliver, hconn])
  · have hk := h.lt_of_connection hconn
    have hnote := h.toRunningAt.note_report (i := i) r
    cases r with
    | ready sendRc sentEarlyData =>
      rw [deliver_ready_eq hconn, outcomes_racingOnAttemptReady hnote hk, outcomes_note rfl]
      exact .inr ⟨(hnote.won_racingOnAttemptReady hk _ _).raceComplete,
        _, rfl⟩
    | establishmentError =>
      rw [deliver_establishmentError_eq h.toRunningAt hconn]
      rcases hnote.registerFailedAttempt_cases hk with ⟨hf, hlost⟩ | ⟨hf, -, -⟩
      · rw [outcomes_registerFailedAttempt_of_others (allAttemptsFailed_conclude_iff.1 hf),
          outcomes_note rfl]
        exact .inr ⟨hlost.complete, _, rfl⟩
      · rw [outcomes_registerFailedAttempt_of_not
          (fun hof => by simp [allAttemptsFailed_conclude_iff.2 hof] at hf), outcomes_note rfl]
        exact .inl rfl
    | closed | connectionError =>
      simp only [deliver, hconn]
      exact .inl (outcomes_note rfl)

theorem outcomes_deliver_of_won (h : Won w c) (r : Report) :
    (deliver c i r).outcomes = c.outcomes := by
  have hnote : (c.note (.report i r)).outcomes = c.outcomes := outcomes_note rfl
  rcases h.deliver_cases i r with heq | ⟨-, heq⟩ | heq | ⟨hi, -, -, heq⟩ <;> rw [heq]
  · exact outcomes_note rfl
  · exact hnote
  · have hlog := (h.note (e := .report i r) trivial).toDecided.registerCanceledAttempt_log hi
    exact (hlog.outcomes_eq fun e he => he.isOutcome).trans hnote

end Ready

section Run

def LastFailure (c : Context) (o : InitOutcome) : Prop :=
  c.userCallbacks.establishmentError = true ∧ o.isError = true ∧ OthersFailed c c.nextAttemptIndex
deriving Decidable

def StartsLastFailure (c : Context) : Event → Prop
  | .timer o => c.timerActive = true ∧ c.raceComplete = false ∧ LastFailure c o
  | _ => False

theorem outcomes_initiateNextAttempt_of_lastFailure
    (h : RunningAt c.nextAttemptIndex c) (hk : c.nextAttemptIndex < c.numAttempts)
    (hlast : LastFailure c o) : c.outcomes + 2 ≤ (initiateNextAttempt c o).outcomes := by
  obtain ⟨huser, ho, hothers⟩ := hlast
  obtain ⟨hframe, hcb⟩ := startConnectionAttempt_error_frame h hk ho
  have hle := (outcomes_startConnectionAttempt_error h hk ho).1
  simp only [initiateNextAttempt]
  rw [if_neg (by simp [h.incomplete]), if_neg (by omega), if_pos ho,
    outcomes_registerFailedStart_of_others (hframe.2 hothers), hcb, huser, Bool.toNat_true]
  omega

theorem outcomes_initiateNextAttempt (h : RunningAt c.nextAttemptIndex c)
    (hk : c.nextAttemptIndex < c.numAttempts) (hlast : ¬ LastFailure c o) :
    (initiateNextAttempt c o).outcomes = c.outcomes ∨
      ((initiateNextAttempt c o).raceComplete = true ∧
        ∃ b : Bool, (initiateNextAttempt c o).outcomes = c.outcomes + b.toNat) := by
  have hconn := (h.setState_connecting hk).setConnection_racing (Nat.lt_succ_self _)
  have hstart : ((c.setState c.nextAttemptIndex .connecting).setConnection c.nextAttemptIndex
      (some .racing)).outcomes = c.outcomes := by simp [Context.outcomes, Entry.isOutcome]
  simp only [initiateNextAttempt]
  rw [if_neg (by simp [h.incomplete]), if_neg (by omega)]
  cases ho : o.isError with
  | true =>
    left
    rw [if_pos rfl]
    obtain ⟨hframe, hcb⟩ := startConnectionAttempt_error_frame h hk ho
    have hcase : c.userCallbacks.establishmentError = false ∨
        ¬ OthersFailed c c.nextAttemptIndex := by
      by_contra hno
      push Not at hno
      exact hlast ⟨by simpa using hno.1, ho, hno.2⟩
    rw [← (outcomes_startConnectionAttempt_error h hk ho).2 hcase]
    by_cases hof : OthersFailed c c.nextAttemptIndex
    · rw [outcomes_registerFailedStart_of_others (hframe.2 hof), hcb,
        hcase.resolve_right (not_not.2 hof), Bool.toNat_false, Nat.mul_zero, Nat.add_zero]
    · exact outcomes_registerFailedStart_of_not (hframe.not.2 hof)
  | false =>
    rw [if_neg (by simp)]
    cases o with
    | pending => exact .inl (outcomes_scheduleNextAttempt.trans hstart)
    | ready sendRc sentEarlyData =>
      have hnote := hconn.note_report (i := c.nextAttemptIndex) (.ready sendRc sentEarlyData)
      simp only [startConnectionAttempt]
      rw [deliver_ready_eq (by simp), outcomes_scheduleNextAttempt,
        outcomes_racingOnAttemptReady hnote (Nat.lt_succ_self _), outcomes_note rfl, hstart]
      refine .inr ⟨?_, _, rfl⟩
      exact (hnote.won_racingOnAttemptReady (Nat.lt_succ_self _) sendRc
        sentEarlyData).scheduleNextAttempt.raceComplete
    | notCreated | failed | failedReported => cases ho

theorem outcomes_step_of_won (h : Won w c) (e : Event) : (step c e).outcomes = c.outcomes := by
  cases e with
  | timer o =>
    simp only [step, onStaggerTimer]
    rw [if_pos h.raceComplete]
    split_ifs <;> rfl
  | report i r =>
    simp only [step]
    split_ifs
    · exact outcomes_deliver_of_won h r
    · rfl
  | timerClosed =>
    simp only [step]
    split_ifs
    · refine onTimerCloseFreeContext_log.outcomes_eq ?_
      rintro e (rfl | rfl) <;> rfl
    · rfl

theorem outcomes_step_of_lost (h : Lost c) (e : Event) : (step c e).outcomes = c.outcomes := by
  cases e with
  | timer o => simp [step, h.timerActive]
  | report i r =>
    simp only [step]
    split_ifs
    · rcases h.deliver_eq (i := i) r with heq | heq <;> rw [heq]
      exact outcomes_note rfl
    · rfl
  | timerClosed =>
    simp only [step]
    split_ifs
    · refine onTimerCloseFreeContext_log.outcomes_eq ?_
      rintro e (rfl | rfl) <;> rfl
    · rfl

theorem outcomes_step_of_running (h : Running c) {e : Event} (he : ¬ StartsLastFailure c e) :
    (step c e).outcomes = c.outcomes ∨
      ((step c e).raceComplete = true ∧ ∃ b : Bool, (step c e).outcomes = c.outcomes + b.toNat) := by
  cases e with
  | timer o =>
    by_cases hactive : c.timerActive = true
    · have hlast : ¬ LastFailure c o := fun hl => he ⟨hactive, h.incomplete, hl⟩
      have hrun : RunningAt c.nextAttemptIndex { c with timerActive := false } :=
        { h.toRunningAt with }
      have hstep : step c (.timer o) = initiateNextAttempt { c with timerActive := false } o := by
        simp [step, onStaggerTimer, hactive, h.incomplete]
      rw [hstep]
      exact outcomes_initiateNextAttempt hrun (h.timer.1 hactive) hlast
    · simp [step, hactive]
  | report i r =>
    simp only [step]
    split_ifs
    · exact outcomes_deliver_of_running h r
    · exact .inl rfl
  | timerClosed => simp [step, h.timerClosing]

theorem outcomes_step_of_lastFailure (h : InPhase c) {e : Event} (he : StartsLastFailure c e) :
    c.outcomes + 2 ≤ (step c e).outcomes := by
  cases e with
  | timer o =>
    obtain ⟨hactive, hincomplete, hlast⟩ := he
    have hphase : Running c := by
      rcases h with h | h | ⟨w, h⟩
      · exact h
      · simp [h.complete] at hincomplete
      · simp [h.raceComplete] at hincomplete
    have hrun : RunningAt c.nextAttemptIndex { c with timerActive := false } :=
      { hphase.toRunningAt with }
    have hstep : step c (.timer o) = initiateNextAttempt { c with timerActive := false } o := by
      simp [step, onStaggerTimer, hactive, hincomplete]
    rw [hstep]
    exact outcomes_initiateNextAttempt_of_lastFailure (c := { c with timerActive := false }) hrun
      (hphase.timer.1 hactive) hlast
  | report i r => exact he.elim
  | timerClosed => exact he.elim

theorem outcomes_step (h : InPhase c) {e : Event} (he : ¬ StartsLastFailure c e) :
    (step c e).outcomes = c.outcomes ∨ (c.raceComplete = false ∧
      (step c e).raceComplete = true ∧ ∃ b : Bool, (step c e).outcomes = c.outcomes + b.toNat) := by
  rcases h with h | h | ⟨w, h⟩
  · exact (outcomes_step_of_running h he).imp_right fun hs => ⟨h.incomplete, hs⟩
  · exact .inl (outcomes_step_of_lost h e)
  · exact .inl (outcomes_step_of_won h e)

theorem outcomes_le_step (h : InPhase c) (e : Event) : c.outcomes ≤ (step c e).outcomes := by
  by_cases he : StartsLastFailure c e
  · exact Nat.le_trans (Nat.le_add_right _ 2) (outcomes_step_of_lastFailure h he)
  · rcases outcomes_step h he with heq | ⟨-, -, b, heq⟩
    · exact Nat.le_of_eq heq.symm
    · exact heq ▸ Nat.le_add_right _ _

theorem outcomes_le_run (h : InPhase c) (es : List Event) :
    c.outcomes ≤ (Lib.run step c es).outcomes := by
  induction es generalizing c with
  | nil => exact Nat.le_refl _
  | cons e es ih => exact Nat.le_trans (outcomes_le_step h e) (ih (h.step e))

structure ReportedOnce (c : Context) : Prop where
  inPhase : InPhase c
  running : c.raceComplete = false → c.outcomes = 0
  le_one : c.outcomes ≤ 1

theorem ReportedOnce.step (h : ReportedOnce c) {e : Event} (he : ¬ StartsLastFailure c e) :
    ReportedOnce (step c e) := by
  rcases outcomes_step h.inPhase he with heq | ⟨hrun, hcomplete, b, heq⟩
  · refine ⟨h.inPhase.step e, fun hincomplete => ?_, heq ▸ h.le_one⟩
    rw [heq]
    apply h.running
    by_contra hc
    simp [h.inPhase.step_raceComplete (by simpa using hc) e] at hincomplete
  · refine ⟨h.inPhase.step e, fun hincomplete => ?_, ?_⟩
    · simp [hcomplete] at hincomplete
    · rw [heq, h.running hrun, Nat.zero_add]
      exact Bool.toNat_le b

theorem reportedOnce_start (u : Setup) (n : Nat)
    (h : ¬ LastFailure (racingContextInitializeAttemptArray (racingContextCreate u) (n + 1)) o) :
    ReportedOnce (startCandidateRacingOnNodesReady u (some (n + 1)) o) := by
  refine ⟨inPhase_start u n o, ?_, ?_⟩ <;>
    rcases outcomes_initiateNextAttempt (runningAt_zero u n) (Nat.succ_pos n) h with
      heq | ⟨hcomplete, b, heq⟩
  · exact fun _ => heq
  · intro hincomplete
    exact absurd (hincomplete.symm.trans hcomplete) Bool.false_ne_true
  · exact Nat.le_trans (Nat.le_of_eq heq) (Nat.zero_le 1)
  · refine Nat.le_trans (Nat.le_of_eq heq) ?_
    rw [show Context.outcomes (racingContextInitializeAttemptArray (racingContextCreate u) (n + 1))
      = 0 from rfl, Nat.zero_add]
    exact Bool.toNat_le b

/-- A race over at least one candidate calls at most one outcome callback exactly
when no attempt is started that fails at once after all the others have failed. -/
theorem race_outcomes_le_one_iff (u : Setup) (n : Nat) (o : InitOutcome) (es : List Event) :
    (race u (n + 1) o es).outcomes ≤ 1 ↔
      ¬ LastFailure (racingContextInitializeAttemptArray (racingContextCreate u) (n + 1)) o ∧
        Lib.AllSteps step (fun c e => ¬ StartsLastFailure c e)
          (startCandidateRacingOnNodesReady u (some (n + 1)) o) es := by
  constructor
  · intro hle
    refine ⟨fun hlast => ?_, ?_⟩
    · have htwo := outcomes_initiateNextAttempt_of_lastFailure (runningAt_zero u n)
        (Nat.succ_pos n) hlast
      have hrun := outcomes_le_run (inPhase_start u n o) es
      have : 2 ≤ (race u (n + 1) o es).outcomes :=
        Nat.le_trans (Nat.le_trans (Nat.le_add_left 2 _) htwo) hrun
      omega
    · by_contra hno
      obtain ⟨pre, e, post, rfl, -, he⟩ := Lib.not_allSteps hno
      have hphase := inPhase_race u n o pre
      have htwo := outcomes_step_of_lastFailure hphase (not_not.1 he)
      have hrun := outcomes_le_run (hphase.step e) post
      have hsplit : race u (n + 1) o (pre ++ e :: post) =
          Lib.run step (step (race u (n + 1) o pre) e) post := by
        rw [race, Lib.run_append, Lib.run_cons]
        rfl
      rw [hsplit] at hle
      omega
  · rintro ⟨hstart, hsteps⟩
    exact (Lib.run_invariant (fun _ _ h he => h.step he) (reportedOnce_start u n hstart) hsteps).le_one

theorem race_outcomes_two : ¬ (race {} 1 .failed []).outcomes ≤ 1 := by decide

end Run

end CTaps.Racing
