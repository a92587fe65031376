import CTaps.Racing.Steps

/-! Which attempt a function of the race works on: what it keeps of the setup, of
the conclusions and of the reports of all the others. -/

namespace CTaps.Racing

variable {c c' c'' : Context} {i j k w : Nat} {o : InitOutcome} {r : Report}

def Entry.isReport : Entry → Bool
  | .report _ _ => true
  | _ => false

def HasReported (c : Context) (i : Nat) : Prop :=
  ∃ r, r.isReady = false ∧ .report i r ∈ c.log

def Entry.isTerminalReport (i : Nat) : Entry → Bool
  | .report j r => j == i && !r.isReady
  | _ => false

theorem hasReported_iff : c.log.any (Entry.isTerminalReport i) = true ↔ HasReported c i := by
  rw [List.any_eq_true]
  constructor
  · rintro ⟨e, hmem, he⟩
    cases e with
    | report j r =>
      simp only [Entry.isTerminalReport, Bool.and_eq_true, beq_iff_eq, Bool.not_eq_true'] at he
      exact ⟨r, he.2, he.1 ▸ hmem⟩
    | _ => cases he
  · rintro ⟨r, hr, hmem⟩
    exact ⟨_, hmem, by simp [Entry.isTerminalReport, hr]⟩

instance (c : Context) (i : Nat) : Decidable (HasReported c i) :=
  decidable_of_iff _ hasReported_iff

structure Keeps (i : Nat) (c c' : Context) : Prop where
  frame : Frame c c'
  concluded : ∀ j, j ≠ i → (c.state j).isConcluded = true → (c'.state j).isConcluded = true
  reported : ∀ j, j ≠ i → HasReported c' j → HasReported c j

theorem Keeps.refl (i : Nat) (c : Context) : Keeps i c c :=
  ⟨.refl c, fun _ _ h => h, fun _ _ h => h⟩

theorem Keeps.trans (h : Keeps i c c') (h' : Keeps i c' c'') : Keeps i c c'' :=
  ⟨h.frame.trans h'.frame, fun j hj hc => h'.concluded j hj (h.concluded j hj hc),
    fun j hj hr => h.reported j hj (h'.reported j hj hr)⟩

theorem LogGrows.hasReported {p : Entry → Prop} (h : LogGrows p c c')
    (hp : ∀ e, p e → e.isReport = false) (hr : HasReported c' j) : HasReported c j := by
  obtain ⟨l, hl, hpl⟩ := h
  obtain ⟨r, hready, hmem⟩ := hr
  rw [hl] at hmem
  rcases List.mem_append.1 hmem with hmem | hmem
  · exact Bool.noConfusion (hp _ (hpl _ hmem))
  · exact ⟨r, hready, hmem⟩

theorem Keeps.of_log {p : Entry → Prop} (hlog : LogGrows p c c')
    (hp : ∀ e, p e → e.isReport = false) (hframe : Frame c c')
    (hstate : ∀ j, j ≠ i → c'.state j = c.state j) : Keeps i c c' :=
  ⟨hframe, fun j hj hc => by rwa [hstate j hj], fun _ _ hr => hlog.hasReported hp hr⟩

theorem keeps_conclude (s : AttemptState) : Keeps i c (c.conclude i s) :=
  .of_log (p := fun e => e.isReport = false)
    ⟨[.attemptState i (c.state i) s c.raceComplete], rfl, by simp [Entry.isReport]⟩
    (fun _ h => h) ⟨⟨rfl, rfl, rfl, rfl, rfl⟩, rfl⟩ (fun j hj => by simp [hj])

theorem keeps_handleConcludedAttempt : Keeps i c (handleConcludedAttempt c) := by
  refine .of_log handleConcludedAttempt_logGrows ?_ frame_handleConcludedAttempt
    (fun j _ => by simp)
  rintro e (rfl | rfl) <;> rfl

theorem keeps_handleAllAttemptsFailed : Keeps i c (handleAllAttemptsFailed c) := by
  refine .of_log (p := fun e => e.isReport = false) ?_ (fun _ h => h) ⟨⟨rfl, rfl, rfl, rfl, rfl⟩, rfl⟩
    (fun _ _ => rfl)
  cases h : c.userCallbacks.establishmentError with
  | true =>
    exact ⟨[.timerClose, .userEstablishmentError], by simp [handleAllAttemptsFailed, h],
      by simp [Entry.isReport]⟩
  | false =>
    exact ⟨[.timerClose], by simp [handleAllAttemptsFailed, h], by simp [Entry.isReport]⟩

theorem keeps_registerFailedAttempt : Keeps i c (registerFailedAttempt c i) :=
  (keeps_conclude .failed).trans keeps_handleConcludedAttempt

theorem keeps_registerCanceledAttempt : Keeps i c (registerCanceledAttempt c i) :=
  (keeps_conclude .canceled).trans keeps_handleConcludedAttempt

theorem keeps_registerSuccesfulAttempt : Keeps i c (registerSuccesfulAttempt c i) := by
  refine Keeps.trans ?_ keeps_handleConcludedAttempt
  exact ⟨⟨⟨rfl, rfl, rfl, rfl, rfl⟩, rfl⟩, (keeps_conclude .succeeded).concluded,
    (keeps_conclude .succeeded).reported⟩

theorem isConcluded_cancel {s : AttemptState} (h : s.isConcluded = true) : s.cancel = s := by
  cases s <;> first | rfl | cases h

theorem cancelAttempt_hasReported (h : HasReported (cancelAttempt w c i) j) : HasReported c j := by
  unfold cancelAttempt at h
  split_ifs at h with hw
  · exact h
  · cases hs : c.state i with
    | connecting =>
      rw [hs] at h
      obtain ⟨r, hr, hmem⟩ := h
      exact ⟨r, hr, by simpa using hmem⟩
    | pending =>
      rw [hs] at h
      obtain ⟨r, hr, hmem⟩ :=
        handleConcludedAttempt_logGrows.hasReported (by rintro e (rfl | rfl) <;> rfl) h
      exact ⟨r, hr, by simpa using hmem⟩
    | closing => rwa [hs] at h
    | succeeded => rwa [hs] at h
    | failed => rwa [hs] at h
    | canceled => rwa [hs] at h

theorem keeps_cancelAttempt : Keeps k c (cancelAttempt w c i) := by
  refine ⟨frame_cancelAttempt, fun j _ hc => ?_, fun j _ => cancelAttempt_hasReported⟩
  rw [cancelAttempt_state]
  split_ifs
  · rwa [isConcluded_cancel hc]
  · exact hc

theorem keeps_cancelLoop {l : List Nat} : Keeps k c (l.foldl (cancelAttempt w) c) := by
  induction l generalizing c with
  | nil => exact .refl k c
  | cons i l ih => exact keeps_cancelAttempt.trans ih

theorem keeps_note {e : Entry} (he : e.isReport = false) : Keeps i c (c.note e) :=
  .of_log (p := fun e => e.isReport = false) ⟨[e], rfl, by simpa using he⟩ (fun _ h => h)
    ⟨⟨rfl, rfl, rfl, rfl, rfl⟩, rfl⟩ (fun _ _ => rfl)

theorem keeps_noteIf {e : Entry} (b : Bool) (he : e.isReport = false) :
    Keeps i c (c.noteIf b e) := by
  cases b with
  | false => exact .refl i c
  | true => exact keeps_note he

theorem keeps_cancelAllOtherAttempts : Keeps k c (cancelAllOtherAttempts c w) := keeps_cancelLoop

theorem keeps_setConnection (cb : Option Callbacks) : Keeps i c (c.setConnection i cb) :=
  .of_log (.refl (fun e => e.isReport = false) c) (fun _ h => h) ⟨⟨rfl, rfl, rfl, rfl, rfl⟩, rfl⟩
    (fun j _ => by simp)

theorem keeps_sendInitialMessage (sendRc : Int) (sentEarlyData : Bool) :
    Keeps i c (sendInitialMessage c i sendRc sentEarlyData) :=
  ((keeps_noteIf _ rfl).trans (keeps_noteIf _ rfl)).trans (keeps_noteIf _ rfl)

theorem keeps_racingOnAttemptReady (sendRc : Int) (sentEarlyData : Bool) :
    Keeps i c (racingOnAttemptReady c i sendRc sentEarlyData) := by
  simp only [racingOnAttemptReady]
  split_ifs
  · exact .refl i c
  · have hcancel := (keeps_registerSuccesfulAttempt (c := c) (i := i)).trans
      (keeps_cancelAllOtherAttempts (w := i))
    have hsend := (hcancel.trans (keeps_setConnection (some .user))).trans
      (keeps_sendInitialMessage sendRc sentEarlyData)
    exact (hsend.trans (keeps_noteIf _ rfl)).trans (keeps_note rfl)

theorem keeps_note_report : Keeps i c (c.note (.report i r)) := by
  refine ⟨⟨⟨rfl, rfl, rfl, rfl, rfl⟩, rfl⟩, fun j _ hc => hc, ?_⟩
  rintro j hj ⟨r', hready, hmem⟩
  rcases List.mem_cons.1 hmem with heq | hmem
  · cases heq
    exact absurd rfl hj
  · exact ⟨r', hready, hmem⟩

theorem keeps_deliver : Keeps i c (deliver c i r) := by
  rw [deliver]
  split
  · exact .refl i c
  · exact keeps_note rfl
  · refine (keeps_note_report (r := r)).trans ?_
    cases r with
    | ready sendRc sentEarlyData => exact keeps_racingOnAttemptReady sendRc sentEarlyData
    | establishmentError =>
      dsimp only [onAttemptEstablishmentError]
      split_ifs
      · exact .refl i _
      · exact keeps_registerFailedAttempt
    | closed =>
      dsimp only
      split_ifs
      · exact keeps_registerCanceledAttempt
      · exact .refl i _
    | connectionError => exact .refl i _

theorem keeps_setState (s : AttemptState) : Keeps i c (c.setState i s) :=
  ⟨⟨⟨rfl, rfl, rfl, rfl, rfl⟩, rfl⟩, (keeps_conclude s).concluded, (keeps_conclude s).reported⟩

theorem keeps_startConnectionAttempt : Keeps i c (startConnectionAttempt c i o) := by
  have hstart := keeps_setState (c := c) (i := i) .connecting
  have hconn := hstart.trans (keeps_setConnection (some .racing))
  cases o with
  | notCreated => exact hstart
  | failed | pending => exact hconn
  | failedReported | ready => exact hconn.trans keeps_deliver

theorem keeps_scheduleNextAttempt : Keeps i c (scheduleNextAttempt c) := by
  simp only [scheduleNextAttempt]
  split_ifs
  · refine .of_log (p := fun e => e.isReport = false) ⟨[.timerStart], rfl, by simp [Entry.isReport]⟩
      (fun _ h => h) ⟨⟨rfl, rfl, rfl, rfl, rfl⟩, rfl⟩ (fun _ _ => rfl)
  · exact .of_log (.refl (fun e => e.isReport = false) c) (fun _ h => h)
      ⟨⟨rfl, rfl, rfl, rfl, rfl⟩, rfl⟩ (fun _ _ => rfl)

theorem keeps_initiateNextAttempt : Keeps c.nextAttemptIndex c (initiateNextAttempt c o) := by
  simp only [initiateNextAttempt, registerFailedStart]
  split_ifs
  · exact .refl _ c
  · exact .refl _ c
  · exact (keeps_startConnectionAttempt.trans keeps_registerFailedAttempt).trans
      keeps_handleAllAttemptsFailed
  · exact (keeps_startConnectionAttempt.trans keeps_registerFailedAttempt).trans
      keeps_scheduleNextAttempt
  · exact keeps_startConnectionAttempt.trans keeps_scheduleNextAttempt

theorem sameSetup_step (e : Event) : SameSetup c (step c e) := by
  cases e with
  | timer o =>
    simp only [step, onStaggerTimer]
    split_ifs
    · exact ⟨rfl, rfl, rfl, rfl, rfl⟩
    · have h := (keeps_initiateNextAttempt (c := { c with timerActive := false }) (o := o)).frame.toSameSetup
      exact ⟨h.num, h.user, h.early, h.message, h.context⟩
    · exact .refl c
  | report i r =>
    simp only [step]
    split_ifs
    · exact keeps_deliver.frame.toSameSetup
    · exact .refl c
  | timerClosed =>
    simp only [step]
    split_ifs <;> exact ⟨rfl, rfl, rfl, rfl, rfl⟩

theorem step_freed (e : Event) :
    (step c e).freed = (c.freed || (decide (e = .timerClosed) && c.timerClosing)) := by
  cases e with
  | timer o =>
    simp only [step, onStaggerTimer]
    split_ifs
    · simp
    · simpa using (keeps_initiateNextAttempt (c := { c with timerActive := false })
        (o := o)).frame.freed
    · simp
  | report i r =>
    simp only [step]
    split_ifs
    · simpa using (keeps_deliver (c := c) (i := i) (r := r)).frame.freed
    · simp
  | timerClosed =>
    simp only [step]
    split_ifs with h
    · simp_all [onTimerCloseFreeContext]
    · simp only [Bool.and_eq_true, Bool.not_eq_true', not_and, Bool.not_eq_false] at h
      cases ht : c.timerClosing <;> simp_all

theorem sameSetup_start (u : Setup) (n : Nat) (o : InitOutcome) :
    SameSetup (racingContextInitializeAttemptArray (racingContextCreate u) (n + 1))
      (startCandidateRacingOnNodesReady u (some (n + 1)) o) :=
  keeps_initiateNextAttempt.frame.toSameSetup

theorem race_numAttempts (u : Setup) (n : Nat) (o : InitOutcome) (es : List Event) :
    (race u (n + 1) o es).numAttempts = n + 1 :=
  Lib.run_invariant_of_step (I := fun c : Context => c.numAttempts = n + 1)
    (fun _ e h => (sameSetup_step e).num.trans h) (sameSetup_start u n o).num es

end CTaps.Racing
