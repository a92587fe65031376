import Mathlib.Data.List.Induction
import CTaps.Racing.Outcome
import CTaps.Racing.Progress
import CTaps.Racing.Winner

/-! The order in which a race starts its attempts, read off its log, and what the user has been told
when the race is over: attempts are started one after another from the first on, and a race that is
over has told the user so. -/

namespace CTaps.Racing

variable {c c' c'' : Context} {i k w : Nat} {o : InitOutcome} {r : Report} {s : AttemptState}

/-! ### The starts -/

def Entry.startOf : Entry → Option Nat
  | .attemptState i _ .connecting _ => some i
  | _ => none

def Context.starts (c : Context) : List Nat := c.log.reverse.filterMap Entry.startOf

structure SameStarts (c c' : Context) : Prop where
  starts : c'.starts = c.starts
  next : c'.nextAttemptIndex = c.nextAttemptIndex
  complete : c.raceComplete = true → c'.raceComplete = true

theorem SameStarts.refl (c : Context) : SameStarts c c := ⟨rfl, rfl, id⟩

theorem SameStarts.trans (h : SameStarts c c') (h' : SameStarts c' c'') : SameStarts c c'' :=
  ⟨h'.starts.trans h.starts, h'.next.trans h.next, fun hc => h'.complete (h.complete hc)⟩

theorem starts_cons {e : Entry} (hlog : c'.log = e :: c.log) :
    c'.starts = c.starts ++ e.startOf.toList := by
  rw [Context.starts, hlog, List.reverse_cons, List.filterMap_append, Context.starts]
  rfl

theorem SameStarts.of_cons {e : Entry} (hlog : c'.log = e :: c.log) (he : e.startOf = none)
    (hnext : c'.nextAttemptIndex = c.nextAttemptIndex)
    (hc : c'.raceComplete = c.raceComplete) : SameStarts c c' := by
  refine ⟨?_, hnext, hc.trans⟩
  rw [starts_cons hlog, he]
  exact List.append_nil _

theorem sameStarts_note {e : Entry} (he : e.startOf = none) : SameStarts c (c.note e) :=
  .of_cons rfl he rfl rfl

theorem sameStarts_noteIf {e : Entry} (b : Bool) (he : e.startOf = none) :
    SameStarts c (c.noteIf b e) := by
  cases b with
  | false => exact .refl c
  | true => exact sameStarts_note he

theorem sameStarts_conclude (hs : s ≠ .connecting) : SameStarts c (c.conclude i s) := by
  have he : (Entry.attemptState i (c.state i) s c.raceComplete).startOf = none := by
    cases s with
    | connecting => exact absurd rfl hs
    | _ => rfl
  exact .of_cons rfl he rfl rfl

theorem sameStarts_initiateContextClose : SameStarts c (initiateContextClose c) :=
  .of_cons rfl rfl rfl rfl

theorem sameStarts_handleAllAttemptsFailed : SameStarts c (handleAllAttemptsFailed c) := by
  have hcomplete : SameStarts c { c with raceComplete := true } := ⟨rfl, rfl, fun _ => rfl⟩
  exact (hcomplete.trans (sameStarts_noteIf _ rfl)).trans sameStarts_initiateContextClose

theorem sameStarts_handleConcludedAttempt : SameStarts c (handleConcludedAttempt c) := by
  rw [handleConcludedAttempt]
  split_ifs
  · exact sameStarts_handleAllAttemptsFailed
  · exact sameStarts_initiateContextClose
  · exact .refl c

theorem sameStarts_registerFailedAttempt : SameStarts c (registerFailedAttempt c i) :=
  (sameStarts_conclude (by decide)).trans sameStarts_handleConcludedAttempt

theorem sameStarts_registerCanceledAttempt : SameStarts c (registerCanceledAttempt c i) :=
  (sameStarts_conclude (by decide)).trans sameStarts_handleConcludedAttempt

theorem sameStarts_registerSuccesfulAttempt : SameStarts c (registerSuccesfulAttempt c i) := by
  have hwon : SameStarts c { c.conclude i .succeeded with
      winningAttemptIndex := (i : Int), raceComplete := true } :=
    (sameStarts_conclude (by decide)).trans ⟨rfl, rfl, fun _ => rfl⟩
  exact hwon.trans sameStarts_handleConcludedAttempt

theorem sameStarts_setConnection (cb : Option Callbacks) : SameStarts c (c.setConnection i cb) :=
  ⟨rfl, rfl, id⟩

theorem sameStarts_cancelAttempt : SameStarts c (cancelAttempt w c i) := by
  rw [cancelAttempt]
  split_ifs
  · exact .refl c
  · split
    · have hclosing : SameStarts c (c.setState i .closing) := .of_cons rfl rfl rfl rfl
      exact (hclosing.trans (sameStarts_setConnection _)).trans (sameStarts_note rfl)
    · exact sameStarts_registerCanceledAttempt
    · exact .refl c

theorem sameStarts_cancelAllOtherAttempts : SameStarts c (cancelAllOtherAttempts c w) :=
  Lib.foldl_invariant (I := SameStarts c) (fun _ _ _ h => h.trans sameStarts_cancelAttempt)
    (.refl c)

theorem sameStarts_sendInitialMessage (sendRc : Int) (sentEarlyData : Bool) :
    SameStarts c (sendInitialMessage c i sendRc sentEarlyData) :=
  ((sameStarts_noteIf _ rfl).trans (sameStarts_noteIf _ rfl)).trans (sameStarts_noteIf _ rfl)

theorem sameStarts_racingOnAttemptReady (sendRc : Int) (sentEarlyData : Bool) :
    SameStarts c (racingOnAttemptReady c i sendRc sentEarlyData) := by
  simp only [racingOnAttemptReady]
  split_ifs
  · exact .refl c
  · have hcancel := (sameStarts_registerSuccesfulAttempt (c := c) (i := i)).trans
      (sameStarts_cancelAllOtherAttempts (w := i))
    have hsend := (hcancel.trans (sameStarts_setConnection (i := i) (some .user))).trans
      (sameStarts_sendInitialMessage (i := i) sendRc sentEarlyData)
    exact (hsend.trans (sameStarts_noteIf _ rfl)).trans (sameStarts_note rfl)

theorem sameStarts_onAttemptEstablishmentError :
    SameStarts c (onAttemptEstablishmentError c i) := by
  rw [onAttemptEstablishmentError]
  split_ifs
  · exact .refl c
  · exact sameStarts_registerFailedAttempt

theorem sameStarts_deliver : SameStarts c (deliver c i r) := by
  rw [deliver]
  split
  · exact .refl c
  · exact sameStarts_note rfl
  · refine (sameStarts_note (e := .report i r) rfl).trans ?_
    cases r with
    | ready sendRc sentEarlyData => exact sameStarts_racingOnAttemptReady sendRc sentEarlyData
    | establishmentError => exact sameStarts_onAttemptEstablishmentError
    | closed =>
      dsimp only
      split_ifs
      · exact sameStarts_registerCanceledAttempt
      · exact .refl _
    | connectionError => exact .refl _

theorem sameStarts_startConnectionAttempt :
    SameStarts (c.setState i .connecting) (startConnectionAttempt c i o) := by
  have hconn := sameStarts_setConnection (c := c.setState i .connecting) (i := i) (some .racing)
  cases o with
  | notCreated => exact .refl _
  | failed | pending => exact hconn
  | failedReported | ready => exact hconn.trans sameStarts_deliver

theorem starts_scheduleNextAttempt (c : Context) :
    (scheduleNextAttempt c).starts = c.starts ∧
      (scheduleNextAttempt c).nextAttemptIndex = c.nextAttemptIndex + 1 := by
  rw [scheduleNextAttempt]
  dsimp only
  split_ifs
  · exact ⟨(starts_cons rfl).trans (List.append_nil _), rfl⟩
  · exact ⟨rfl, rfl⟩

theorem starts_initiateNextAttempt (hc : c.raceComplete = false)
    (hk : c.nextAttemptIndex < c.numAttempts) :
    (initiateNextAttempt c o).starts = c.starts ++ [c.nextAttemptIndex] ∧
      ((initiateNextAttempt c o).raceComplete = false →
        (initiateNextAttempt c o).nextAttemptIndex = c.nextAttemptIndex + 1) := by
  have hstart : (c.setState c.nextAttemptIndex .connecting).starts = c.starts ++ [c.nextAttemptIndex] :=
    starts_cons (e := .attemptState c.nextAttemptIndex _ .connecting c.raceComplete) rfl
  have hsame := sameStarts_startConnectionAttempt (c := c) (i := c.nextAttemptIndex) (o := o)
  have hsched : ∀ {d}, SameStarts (c.setState c.nextAttemptIndex .connecting) d →
      (scheduleNextAttempt d).starts = c.starts ++ [c.nextAttemptIndex] ∧
        (scheduleNextAttempt d).nextAttemptIndex = c.nextAttemptIndex + 1 := by
    intro d hd
    obtain ⟨hstarts, hnext⟩ := starts_scheduleNextAttempt d
    exact ⟨hstarts.trans (hd.starts.trans hstart), hnext.trans (congrArg (· + 1) hd.next)⟩
  simp only [initiateNextAttempt, registerFailedStart]
  rw [if_neg (by simp [hc]), if_neg (by omega)]
  have hfailed := hsame.trans (sameStarts_registerFailedAttempt (i := c.nextAttemptIndex))
  split_ifs
  · have hall := hfailed.trans sameStarts_handleAllAttemptsFailed
    exact ⟨hall.starts.trans hstart, fun h => absurd h (by simp [handleAllAttemptsFailed])⟩
  · exact (hsched hfailed).imp_right fun h _ => h
  · exact (hsched hsame).imp_right fun h _ => h

structure StartsInOrder (c : Context) : Prop where
  initial : ∃ k ≤ c.numAttempts, c.starts = List.range k
  running : c.raceComplete = false → c.starts = List.range c.nextAttemptIndex

theorem startsInOrder_initiateNextAttempt (h : StartsInOrder c) :
    StartsInOrder (initiateNextAttempt c o) := by
  by_cases hc : c.raceComplete = true
  · rwa [initiateNextAttempt, if_pos hc]
  by_cases hk : c.numAttempts ≤ c.nextAttemptIndex
  · rwa [initiateNextAttempt, if_neg hc, if_pos hk]
  have hc' : c.raceComplete = false := Bool.eq_false_iff.mpr hc
  obtain ⟨hstarts, hnext⟩ := starts_initiateNextAttempt (o := o) hc' (Nat.lt_of_not_le hk)
  have hnum : (initiateNextAttempt c o).numAttempts = c.numAttempts :=
    keeps_initiateNextAttempt.frame.num
  have hrange : (initiateNextAttempt c o).starts = List.range (c.nextAttemptIndex + 1) := by
    rw [hstarts, h.running hc', List.range_succ]
  refine ⟨⟨c.nextAttemptIndex + 1, ?_, hrange⟩, fun hrun => ?_⟩
  · rw [hnum]
    exact Nat.lt_of_not_le hk
  · rw [hrange, hnext hrun]

theorem StartsInOrder.of_same (h : StartsInOrder c) (hsame : SameStarts c c')
    (hnum : c'.numAttempts = c.numAttempts) : StartsInOrder c' := by
  refine ⟨?_, fun hrun => ?_⟩
  · rw [hnum, hsame.starts]
    exact h.initial
  · rw [hsame.starts, hsame.next]
    apply h.running
    by_contra hc
    rw [hsame.complete (Bool.not_eq_false _ ▸ hc)] at hrun
    cases hrun

theorem StartsInOrder.step (h : StartsInOrder c) (e : Event) : StartsInOrder (step c e) := by
  cases e with
  | timer o =>
    simp only [Racing.step, onStaggerTimer]
    have hidle : StartsInOrder { c with timerActive := false } := h.of_same ⟨rfl, rfl, id⟩ rfl
    split_ifs
    · exact hidle
    · exact startsInOrder_initiateNextAttempt hidle
    · exact h
  | report i r =>
    simp only [Racing.step]
    split_ifs
    · exact h.of_same sameStarts_deliver keeps_deliver.frame.num
    · exact h
  | timerClosed =>
    simp only [Racing.step]
    split_ifs
    · obtain ⟨l, hl, hfree⟩ := onTimerCloseFreeContext_log (c := c)
      refine h.of_same ⟨?_, rfl, id⟩ rfl
      have hnone : l.reverse.filterMap Entry.startOf = [] := by
        apply List.filterMap_eq_nil_iff.mpr
        intro e he
        rcases hfree e (List.mem_reverse.mp he) with rfl | rfl <;> rfl
      rw [Context.starts, hl, List.reverse_append, List.filterMap_append, hnone, List.append_nil]
      rfl
    · exact h

theorem startsInOrder_race (u : Setup) (n : Nat) (o : InitOutcome) (es : List Event) :
    StartsInOrder (race u n o es) := by
  refine Lib.run_invariant_of_step (fun _ e h => h.step e) ?_ es
  cases n with
  | zero =>
    have hstarts : (startCandidateRacingOnNodesReady u (some 0) o).starts = [] := by
      cases hu : u.userCallbacks.establishmentError <;>
        simp [startCandidateRacingOnNodesReady, racingContextFree, racingContextCreate, hu,
          Context.starts, Entry.startOf]
    exact ⟨⟨0, Nat.le_refl 0, hstarts⟩, fun _ => hstarts⟩
  | succ n => exact startsInOrder_initiateNextAttempt ⟨⟨0, Nat.zero_le _, rfl⟩, fun _ => rfl⟩

def Event.isTimer : Event → Bool
  | .timer _ => true
  | _ => false

theorem InPhase.running (h : InPhase c) (hc : c.raceComplete = false) : Running c := by
  rcases h with hrun | hlost | ⟨w, hwon⟩
  · exact hrun
  · exact absurd (hc.symm.trans hlost.complete) Bool.false_ne_true
  · exact absurd (hc.symm.trans hwon.raceComplete) Bool.false_ne_true

theorem nextAttemptIndex_step {k : Nat} (h : InPhase c)
    (hk : c.raceComplete = false → c.nextAttemptIndex = min c.numAttempts (k + 1)) (e : Event)
    (hc : (step c e).raceComplete = false) :
    (step c e).nextAttemptIndex = min c.numAttempts (k + e.isTimer.toNat + 1) := by
  have hbefore : c.raceComplete = false := by
    by_contra hover
    rw [h.step_raceComplete (Bool.not_eq_false _ ▸ hover) e] at hc
    cases hc
  have hrun := h.running hbefore
  have hnext := hk hbefore
  cases e with
  | timer o =>
    by_cases hactive : c.timerActive = true
    · have hstep : step c (.timer o) = initiateNextAttempt { c with timerActive := false } o := by
        simp [step, onStaggerTimer, hactive, hbefore]
      have hlt := hrun.timer.1 hactive
      rw [hstep] at hc ⊢
      rw [(starts_initiateNextAttempt (c := { c with timerActive := false }) hbefore hlt).2 hc]
      simp only [Event.isTimer, Bool.toNat_true]
      omega
    · have hstep : step c (.timer o) = c := if_neg hactive
      have hlt := hrun.timer.not.1 hactive
      rw [hstep]
      simp only [Event.isTimer, Bool.toNat_true]
      omega
  | report i r =>
    simp only [step]
    split_ifs
    · exact sameStarts_deliver.next.trans hnext
    · exact hnext
  | timerClosed =>
    have hstep : step c .timerClosed = c := by simp [step, hrun.timerClosing]
    rw [hstep]
    exact hnext

theorem nextAttemptIndex_race (u : Setup) (n : Nat) (o : InitOutcome) (es : List Event)
    (hc : (race u (n + 1) o es).raceComplete = false) :
    (race u (n + 1) o es).nextAttemptIndex = min (n + 1) (es.countP Event.isTimer + 1) := by
  induction es using List.reverseRecOn with
  | nil =>
    have hfirst := (starts_initiateNextAttempt (o := o)
      (c := racingContextInitializeAttemptArray (racingContextCreate u) (n + 1)) rfl
      (Nat.succ_pos n)).2 hc
    rw [List.countP_nil, Nat.min_eq_right (Nat.succ_pos n)]
    exact hfirst
  | append_singleton es e ih =>
    have hrace : race u (n + 1) o (es ++ [e]) = step (race u (n + 1) o es) e :=
      Lib.run_append _ es [e]
    rw [hrace] at hc ⊢
    rw [nextAttemptIndex_step (inPhase_race u n o es)
      (fun h => by rw [race_numAttempts]; exact ih h) e hc, race_numAttempts, List.countP_append,
      List.countP_singleton]
    cases e.isTimer <;> rfl

/-- As long as nothing is decided, an attempt is started each time the timer expires until every
candidate has been tried, and the timer is set exactly as long as there is one left. -/
theorem race_keeps_pace (u : Setup) (n : Nat) (o : InitOutcome) (es : List Event)
    (hc : (race u (n + 1) o es).raceComplete = false) :
    (race u (n + 1) o es).starts = List.range (min (n + 1) (es.countP Event.isTimer + 1)) ∧
      ((race u (n + 1) o es).timerActive = true ↔ es.countP Event.isTimer < n) := by
  have hnext := nextAttemptIndex_race u n o es hc
  rw [(startsInOrder_race u (n + 1) o es).running hc, ((inPhase_race u n o es).running hc).timer,
    hnext, race_numAttempts]
  exact ⟨rfl, by omega⟩

theorem race_keeps_pace_three :
    (race {} 3 .pending [.report 0 .establishmentError, .timer .pending]).starts = [0, 1] :=
  (race_keeps_pace {} 2 .pending [.report 0 .establishmentError, .timer .pending] (by decide)).1

/-! ### What the user is told -/

instance (c : Context) (e : Event) : Decidable (StartsLastFailure c e) := by
  rcases e with ⟨⟩ <;> dsimp only [StartsLastFailure] <;> infer_instance

structure Told (c : Context) : Prop where
  ready : c.userCallbacks.ready = true
  error : c.userCallbacks.establishmentError = true
  told : c.raceComplete = true → 1 ≤ c.outcomes

theorem Told.of_log {e : Entry} (h : Told c) (hlog : c'.log = c.log ∨ c'.log = e :: c.log)
    (huser : c'.userCallbacks = c.userCallbacks) (hc : c'.raceComplete = c.raceComplete) :
    Told c' := by
  refine ⟨huser ▸ h.ready, huser ▸ h.error, fun hcomplete => ?_⟩
  have htold := h.told (hc ▸ hcomplete)
  rw [Context.outcomes] at htold ⊢
  rcases hlog with hlog | hlog
  · rwa [hlog]
  · rw [hlog, List.countP_cons]
    exact Nat.le_add_right_of_le htold

theorem Told.handleAllAttemptsFailed (h : Told c) : Told (handleAllAttemptsFailed c) := by
  refine ⟨h.ready, h.error, fun _ => ?_⟩
  rw [outcomes_handleAllAttemptsFailed, h.error]
  exact Nat.le_add_left 1 _

theorem Told.handleConcludedAttempt (h : Told c) : Told (handleConcludedAttempt c) := by
  rw [Racing.handleConcludedAttempt]
  split_ifs
  · exact h.handleAllAttemptsFailed
  · exact h.of_log (.inr rfl) rfl rfl
  · exact h

theorem Told.registerFailedAttempt (h : Told c) : Told (registerFailedAttempt c i) :=
  Told.handleConcludedAttempt (h.of_log (.inr rfl) rfl rfl)

theorem Told.registerCanceledAttempt (h : Told c) : Told (registerCanceledAttempt c i) :=
  Told.handleConcludedAttempt (h.of_log (.inr rfl) rfl rfl)

theorem Told.racingOnAttemptReady (h : Told c) (sendRc : Int) (sentEarlyData : Bool) :
    Told (racingOnAttemptReady c i sendRc sentEarlyData) := by
  have huser : (Racing.racingOnAttemptReady c i sendRc sentEarlyData).userCallbacks
      = c.userCallbacks := (keeps_racingOnAttemptReady sendRc sentEarlyData).frame.user
  refine ⟨huser ▸ h.ready, huser ▸ h.error, fun hc => ?_⟩
  simp only [Racing.racingOnAttemptReady] at huser hc ⊢
  split_ifs at huser hc ⊢
  · exact h.told hc
  · rw [outcomes_note rfl, notifyUserReady, outcomes_noteIf_outcome _ rfl]
    rw [Context.note_userCallbacks, notifyUserReady, Context.noteIf_userCallbacks] at huser
    rw [huser, h.ready]
    exact Nat.le_add_left 1 _

theorem Told.deliver (h : Told c) : Told (deliver c i r) := by
  have hnote : ∀ e, Told (c.note e) := fun e => h.of_log (.inr rfl) rfl rfl
  rw [Racing.deliver]
  split
  · exact h
  · exact hnote _
  · cases r with
    | ready sendRc sentEarlyData => exact (hnote _).racingOnAttemptReady sendRc sentEarlyData
    | establishmentError =>
      dsimp only [onAttemptEstablishmentError]
      split_ifs
      · exact hnote _
      · exact (hnote _).registerFailedAttempt
    | closed =>
      dsimp only
      split_ifs
      · exact (hnote _).registerCanceledAttempt
      · exact hnote _
    | connectionError => exact hnote _

theorem Told.startConnectionAttempt (h : Told c) (o : InitOutcome) :
    Told (startConnectionAttempt c i o) := by
  have hstart : Told (c.setState i .connecting) := h.of_log (.inr rfl) rfl rfl
  have hconn : Told ((c.setState i .connecting).setConnection i (some .racing)) :=
    hstart.of_log (e := .timerStart) (.inl rfl) rfl rfl
  cases o with
  | notCreated => exact hstart
  | failed | pending => exact hconn
  | failedReported | ready => exact hconn.deliver

theorem Told.scheduleNextAttempt (h : Told c) : Told (scheduleNextAttempt c) := by
  rw [Racing.scheduleNextAttempt]
  dsimp only
  split_ifs
  · exact h.of_log (.inr rfl) rfl rfl
  · exact h.of_log (e := .timerStart) (.inl rfl) rfl rfl

theorem Told.initiateNextAttempt (h : Told c) : Told (initiateNextAttempt c o) := by
  simp only [Racing.initiateNextAttempt, registerFailedStart]
  split_ifs
  · exact h
  · exact h
  · exact (h.startConnectionAttempt o).registerFailedAttempt.handleAllAttemptsFailed
  · exact (h.startConnectionAttempt o).registerFailedAttempt.scheduleNextAttempt
  · exact (h.startConnectionAttempt o).scheduleNextAttempt

theorem Told.step (h : Told c) (e : Event) : Told (step c e) := by
  cases e with
  | timer o =>
    have hidle : Told { c with timerActive := false } := h.of_log (e := .timerStart) (.inl rfl) rfl rfl
    simp only [Racing.step, onStaggerTimer]
    split_ifs
    · exact hidle
    · exact hidle.initiateNextAttempt
    · exact h
  | report i r =>
    simp only [Racing.step]
    split_ifs
    · exact h.deliver
    · exact h
  | timerClosed =>
    simp only [Racing.step]
    split_ifs
    · refine ⟨h.ready, h.error, fun hc => ?_⟩
      rw [onTimerCloseFreeContext_log.outcomes_eq (by rintro e (rfl | rfl) <;> rfl)]
      exact h.told hc
    · exact h

theorem told_start (u : Setup) (n : Nat) (hready : u.userCallbacks.ready = true)
    (herror : u.userCallbacks.establishmentError = true) :
    Told (startCandidateRacingOnNodesReady u (some (n + 1)) o) :=
  Told.initiateNextAttempt ⟨hready, herror, fun hc => absurd hc Bool.false_ne_true⟩

def Settled (c : Context) : Prop :=
  c.timerActive = false ∧ ∀ i < c.numAttempts, c.state i = .connecting ∨ c.state i = .closing →
    HasReported c i

instance (c : Context) : Decidable (Settled c) := by
  unfold Settled
  infer_instance

theorem outcomes_of_settled (honce : ReportedOnce c) (htold : Told c) (habsorbed : Absorbed c)
    (h : Settled c) : c.outcomes = 1 ∧ c.timerClosing = true := by
  obtain ⟨hconcluded, hclosing⟩ := habsorbed.concluded_of_reported h.1 h.2
  refine ⟨Nat.le_antisymm honce.le_one (htold.told ?_), hclosing⟩
  by_contra hc
  obtain ⟨i, hi, hopen⟩ := (honce.inPhase.running (Bool.eq_false_iff.mpr hc)).exists_open
  rw [hconcluded i hi] at hopen
  cases hopen

end CTaps.Racing
