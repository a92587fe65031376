import CTaps.Racing.Outcome
import CTaps.Racing.Winner

/-! The count of completed attempts and the stagger timer. An attempt that is concluded once is
counted once, and the last conclusion closes the timer; so if no attempt is concluded twice and
nothing is scheduled for a race that is over, the count is right and the timer is closed once, in
the end. -/

namespace CTaps.Racing

variable {c c' d : Context} {i j k w : Nat} {s : AttemptState} {o : InitOutcome} {r : Report}

/-! ### What the log says of the attempts -/

def stateIn : List Entry → Nat → AttemptState
  | [], _ => .pending
  | .attemptState i _ new _ :: log, j => if j = i then new else stateIn log j
  | _ :: log, j => stateIn log j

def ClosesConcluded (n : Nat) : List Entry → Prop
  | [] => True
  | e :: log => (e = .timerClose → ∀ i < n, (stateIn log i).isConcluded = true) ∧
    ClosesConcluded n log

def StartsOpen : List Entry → Prop
  | [] => True
  | e :: log => (e = .timerStart → .timerClose ∉ log) ∧ StartsOpen log

def Entry.isQuiet : Entry → Bool
  | .attemptState .. | .timerStart | .timerClose => false
  | _ => true

def concludedAttempts (c : Context) : Nat := c.states.countP AttemptState.isConcluded

structure Accounted (c : Context) : Prop where
  recorded : ∀ i, stateIn c.log i = c.state i
  completed : c.completedAttempts = concludedAttempts c
  closed : c.log.count .timerClose = if allAttemptsConcluded c then 1 else 0
  closes : ClosesConcluded c.numAttempts c.log
  starts : StartsOpen c.log

section Logs

variable {log l : List Entry}

theorem stateIn_cons_of_quiet {e : Entry} (he : e.isQuiet = true) :
    stateIn (e :: log) i = stateIn log i := by
  cases e <;> first | rfl | exact absurd he Bool.false_ne_true

theorem quiet_append (n : Nat) (log : List Entry) (hl : ∀ e ∈ l, e.isQuiet = true) :
    (∀ i, stateIn (l ++ log) i = stateIn log i) ∧
      (l ++ log).count .timerClose = log.count .timerClose ∧
      (ClosesConcluded n log → ClosesConcluded n (l ++ log)) ∧
      (StartsOpen log → StartsOpen (l ++ log)) := by
  induction l with
  | nil => exact ⟨fun _ => rfl, rfl, id, id⟩
  | cons e l ih =>
    rw [List.forall_mem_cons] at hl
    obtain ⟨hstate, hcount, hcloses, hstarts⟩ := ih hl.2
    have hclose : e ≠ .timerClose := fun h => absurd hl.1 (by simp [h, Entry.isQuiet])
    have hstart : e ≠ .timerStart := fun h => absurd hl.1 (by simp [h, Entry.isQuiet])
    refine ⟨fun i => (stateIn_cons_of_quiet hl.1).trans (hstate i), ?_, ?_, ?_⟩
    · rw [List.cons_append, List.count_cons_of_ne hclose, hcount]
    · exact fun h => ⟨fun h' => absurd h' hclose, hcloses h⟩
    · exact fun h => ⟨fun h' => absurd h' hstart, hstarts h⟩

end Logs

section Keeps

theorem states_eq (hnum : c'.numAttempts = c.numAttempts) (hstate : ∀ i, c'.state i = c.state i) :
    c'.states = c.states := by
  rw [Context.states, Context.states, hnum]
  exact List.map_congr_left fun i _ => hstate i

theorem Accounted.quiet (h : Accounted c) (hnum : c'.numAttempts = c.numAttempts)
    (hstate : ∀ i, c'.state i = c.state i) (hcompleted : c'.completedAttempts = c.completedAttempts)
    (hlog : LogGrows (fun e => e.isQuiet = true) c c') : Accounted c' := by
  obtain ⟨l, hl, hquiet⟩ := hlog
  have hstates := states_eq hnum hstate
  obtain ⟨hrec, hcount, hcloses, hstarts⟩ := quiet_append c.numAttempts c.log hquiet
  rw [← hl] at hrec hcount hcloses hstarts
  refine ⟨?_, ?_, ?_, ?_, hstarts h.starts⟩
  · intro i
    rw [hrec, h.recorded, hstate]
  · rw [hcompleted, h.completed, concludedAttempts, concludedAttempts, hstates]
  · rw [hcount, h.closed, allAttemptsConcluded, allAttemptsConcluded, hstates]
  · rw [hnum]
    exact hcloses h.closes

theorem Accounted.note {e : Entry} (h : Accounted c) (he : e.isQuiet = true) :
    Accounted (c.note e) :=
  h.quiet rfl (fun _ => rfl) rfl ⟨[e], rfl, by simpa using he⟩

theorem Accounted.noteIf {e : Entry} (h : Accounted c) (b : Bool) (he : e.isQuiet = true) :
    Accounted (c.noteIf b e) := by
  cases b with
  | false => exact h
  | true => exact h.note he

theorem Accounted.setConnection (h : Accounted c) (cb : Option Callbacks) :
    Accounted (c.setConnection i cb) :=
  h.quiet rfl (fun _ => setConnection_state cb) rfl (.refl _ c)

theorem Accounted.setState (h : Accounted c) (hi : i < c.numAttempts)
    (hopen : (c.state i).isConcluded = false) (hs : s.isConcluded = false) :
    Accounted (c.setState i s) := by
  have hconcluded : ∀ j, ((c.setState i s).state j).isConcluded = (c.state j).isConcluded := by
    intro j
    by_cases hj : j = i
    · rw [hj, setState_state, if_pos rfl, hs, hopen]
    · rw [setState_state, if_neg hj]
  have hnot : allAttemptsConcluded c = false := by
    rw [Bool.eq_false_iff]
    intro hall
    exact absurd (allAttemptsConcluded_iff.1 hall i hi) (by simp [hopen])
  have hnot' : allAttemptsConcluded (c.setState i s) = false := by
    rw [Bool.eq_false_iff]
    intro hall
    have := allAttemptsConcluded_iff.1 hall i hi
    rw [hconcluded, hopen] at this
    exact absurd this (by simp)
  refine ⟨?_, ?_, ?_, ?_, ?_⟩
  · intro j
    rw [Context.setState_log, stateIn, setState_state, h.recorded]
  · have hcount : concludedAttempts (c.setState i s) = concludedAttempts c := by
      simp only [concludedAttempts, Context.states, List.countP_map, Context.setState_numAttempts]
      apply List.countP_congr
      intro j _
      rw [Function.comp_apply, Function.comp_apply, hconcluded]
    rw [hcount]
    exact h.completed
  · rw [Context.setState_log, List.count_cons_of_ne (by simp), h.closed, hnot, hnot']
  · exact ⟨by simp, h.closes⟩
  · exact ⟨by simp, h.starts⟩

theorem countP_range_succ_of_update {p q : Nat → Bool} {n : Nat} (hi : i < n) (hp : p i = false)
    (hq : ∀ j, q j = (decide (j = i) || p j)) :
    (List.range n).countP q = (List.range n).countP p + 1 := by
  induction n with
  | zero => exact absurd hi (Nat.not_lt_zero i)
  | succ n ih =>
    rw [List.range_succ, List.countP_append, List.countP_append, List.countP_singleton,
      List.countP_singleton]
    rcases Nat.lt_succ_iff_lt_or_eq.mp hi with hlt | rfl
    · have hn : q n = p n := by rw [hq, decide_eq_false (by omega), Bool.false_or]
      rw [ih hlt, hn]
      omega
    · have hcongr : (List.range i).countP q = (List.range i).countP p := by
        apply List.countP_congr
        intro j hj
        have hne : j ≠ i := by
          have := List.mem_range.mp hj
          omega
        rw [hq, decide_eq_false hne, Bool.false_or]
      rw [hcongr, hq, hp, decide_eq_true rfl]
      rfl

structure Concludes (i : Nat) (c d : Context) : Prop where
  num : d.numAttempts = c.numAttempts
  state : ∃ s old raceComplete, s.isConcluded = true ∧
    (∀ j, d.state j = if j = i then s else c.state j) ∧
    d.log = .attemptState i old s raceComplete :: c.log
  completed : d.completedAttempts = c.completedAttempts + 1

theorem Concludes.isConcluded (h : Concludes i c d) (j : Nat) :
    (d.state j).isConcluded = (decide (j = i) || (c.state j).isConcluded) := by
  obtain ⟨s, old, rc, hs, hstate, -⟩ := h.state
  rw [hstate]
  by_cases hj : j = i
  · rw [if_pos hj, hs, decide_eq_true hj, Bool.true_or]
  · rw [if_neg hj, decide_eq_false hj, Bool.false_or]

theorem handleConcludedAttempt_completedAttempts :
    (handleConcludedAttempt c).completedAttempts = c.completedAttempts := by
  unfold handleConcludedAttempt handleAllAttemptsFailed
  split_ifs <;> rfl

theorem handleConcludedAttempt_log :
    ∃ l, (∀ e ∈ l, e.isQuiet = true) ∧ (handleConcludedAttempt c).log
      = if allAttemptsConcluded c then .timerClose :: (l ++ c.log) else c.log := by
  rw [handleConcludedAttempt]
  split_ifs with hf hc hc
  · refine ⟨if c.userCallbacks.establishmentError then [.userEstablishmentError] else [], ?_, ?_⟩
    · split_ifs <;> simp [Entry.isQuiet]
    · rw [handleAllAttemptsFailed]
      cases c.userCallbacks.establishmentError <;> simp
  · exact absurd (allAttemptsConcluded_of_failed hf) hc
  · exact ⟨[], by simp, rfl⟩
  · exact ⟨[], by simp, rfl⟩

theorem Accounted.handleConcludedAttempt (h : Accounted c) (hd : Concludes i c d)
    (hi : i < c.numAttempts) (hopen : (c.state i).isConcluded = false) :
    Accounted (handleConcludedAttempt d) := by
  have hnot : allAttemptsConcluded c = false := by
    rw [Bool.eq_false_iff]
    intro hall
    exact absurd (allAttemptsConcluded_iff.1 hall i hi) (by simp [hopen])
  have hclosed : c.log.count .timerClose = 0 := by rw [h.closed, hnot]; rfl
  obtain ⟨s, old, rc, hs, hstate, hdlog⟩ := hd.state
  have hrec : ∀ j, stateIn d.log j = d.state j := by
    intro j
    rw [hdlog, stateIn, hstate, h.recorded]
  obtain ⟨l, hl, hlog⟩ := handleConcludedAttempt_log (c := d)
  obtain ⟨hlrec, hlcount, hlcloses, hlstarts⟩ := quiet_append d.numAttempts d.log hl
  have hdcount : d.log.count .timerClose = 0 := by
    rw [hdlog, List.count_cons_of_ne (by simp), hclosed]
  have hdcloses : ClosesConcluded d.numAttempts d.log := by
    rw [hdlog, hd.num]
    exact ⟨by simp, h.closes⟩
  have hdstarts : StartsOpen d.log := by
    rw [hdlog]
    exact ⟨by simp, h.starts⟩
  have hall : allAttemptsConcluded (Racing.handleConcludedAttempt d) = allAttemptsConcluded d := by
    rw [allAttemptsConcluded, allAttemptsConcluded,
      states_eq handleConcludedAttempt_numAttempts fun _ => handleConcludedAttempt_state]
  refine ⟨?_, ?_, ?_, ?_, ?_⟩
  · intro j
    rw [hlog, handleConcludedAttempt_state]
    split
    · exact (hlrec j).trans (hrec j)
    · exact hrec j
  · rw [handleConcludedAttempt_completedAttempts, hd.completed, h.completed, concludedAttempts,
      concludedAttempts, states_eq handleConcludedAttempt_numAttempts
        fun _ => handleConcludedAttempt_state]
    rw [Context.states, Context.states, List.countP_map, List.countP_map, hd.num]
    exact (countP_range_succ_of_update hi hopen hd.isConcluded).symm
  · rw [hlog, hall]
    split
    · rw [List.count_cons_self, hlcount, hdcount]
    · exact hdcount
  · rw [hlog, handleConcludedAttempt_numAttempts]
    split
    · rename_i hconcluded
      refine ⟨fun _ j hj => ?_, hlcloses hdcloses⟩
      rw [hlrec, hrec]
      exact allAttemptsConcluded_iff.1 hconcluded j hj
    · exact hdcloses
  · rw [hlog]
    split
    · exact ⟨by simp, hlstarts hdstarts⟩
    · exact hdstarts

theorem concludes_conclude (hs : s.isConcluded = true) : Concludes i c (c.conclude i s) :=
  ⟨rfl, ⟨s, c.state i, c.raceComplete, hs, fun _ => conclude_state, rfl⟩, rfl⟩

theorem Accounted.scheduleNextAttempt (h : Accounted c)
    (hopen : c.nextAttemptIndex + 1 < c.numAttempts → allAttemptsConcluded c = false) :
    Accounted (scheduleNextAttempt c) := by
  rw [Racing.scheduleNextAttempt]
  dsimp only
  split
  · rename_i hnext
    have hnot := hopen hnext
    refine ⟨h.recorded, h.completed, ?_, ⟨by simp, h.closes⟩, ?_, h.starts⟩
    · exact (List.count_cons_of_ne (by simp)).trans h.closed
    · intro _
      apply List.count_eq_zero.mp
      rw [h.closed, hnot]
      rfl
  · exact ⟨h.recorded, h.completed, h.closed, h.closes, h.starts⟩

end Keeps

/-! ### The functions of the race -/

section Functions

theorem Accounted.registerFailedAttempt (h : Accounted c) (hi : i < c.numAttempts)
    (hopen : (c.state i).isConcluded = false) : Accounted (registerFailedAttempt c i) :=
  h.handleConcludedAttempt (concludes_conclude rfl) hi hopen

theorem Accounted.registerCanceledAttempt (h : Accounted c) (hi : i < c.numAttempts)
    (hopen : (c.state i).isConcluded = false) : Accounted (registerCanceledAttempt c i) :=
  h.handleConcludedAttempt (concludes_conclude rfl) hi hopen

theorem Accounted.registerSuccesfulAttempt (h : Accounted c) (hi : i < c.numAttempts)
    (hopen : (c.state i).isConcluded = false) : Accounted (registerSuccesfulAttempt c i) := by
  have hd : Concludes i c { c.conclude i .succeeded with
      winningAttemptIndex := (i : Int), raceComplete := true } :=
    ⟨rfl, ⟨.succeeded, c.state i, c.raceComplete, rfl, fun _ => conclude_state, rfl⟩, rfl⟩
  exact h.handleConcludedAttempt hd hi hopen

theorem Accounted.cancelAttempt (h : Accounted c) (hi : i < c.numAttempts) :
    Accounted (cancelAttempt w c i) := by
  unfold Racing.cancelAttempt
  split
  · exact h
  · split
    · rename_i hs
      have hclosing := h.setState (s := .closing) hi (by rw [hs]; rfl) rfl
      exact (hclosing.setConnection _).note rfl
    · rename_i hs
      exact h.registerCanceledAttempt hi (by rw [hs]; rfl)
    · exact h

theorem Accounted.cancelAllOtherAttempts (h : Accounted c) :
    Accounted (cancelAllOtherAttempts c w) := by
  have hloop : Accounted ((List.range c.numAttempts).foldl (Racing.cancelAttempt w) c) ∧
      ((List.range c.numAttempts).foldl (Racing.cancelAttempt w) c).numAttempts
        = c.numAttempts := by
    refine Lib.foldl_invariant (I := fun d => Accounted d ∧ d.numAttempts = c.numAttempts)
      (fun d i hi hd => ?_) ⟨h, rfl⟩
    have hnum : (Racing.cancelAttempt w d i).numAttempts = d.numAttempts := cancelAttempt_frame.1
    refine ⟨hd.1.cancelAttempt ?_, hnum.trans hd.2⟩
    rw [hd.2]
    exact List.mem_range.mp hi
  exact hloop.1

theorem Accounted.sendInitialMessage (h : Accounted c) (sendRc : Int) (sentEarlyData : Bool) :
    Accounted (sendInitialMessage c i sendRc sentEarlyData) :=
  ((h.noteIf _ rfl).noteIf _ rfl).noteIf _ rfl

theorem Accounted.racingOnAttemptReady (h : Accounted c) (hi : i < c.numAttempts)
    (hopen : c.raceComplete = false → (c.state i).isConcluded = false) (sendRc : Int)
    (sentEarlyData : Bool) : Accounted (racingOnAttemptReady c i sendRc sentEarlyData) := by
  rw [Racing.racingOnAttemptReady]
  split
  · exact h
  · rename_i hc
    have hsuccess := h.registerSuccesfulAttempt hi (hopen (by simpa using hc))
    have hcancel := (hsuccess.cancelAllOtherAttempts (w := i)).setConnection (i := i) (some .user)
    exact ((hcancel.sendInitialMessage sendRc sentEarlyData).noteIf _ rfl).note rfl

theorem readyReturned_frame (c : Context) (i : Nat) (sendRc : Int) (sentEarlyData : Bool)
    (e : Entry) {d : Context}
    (hd : d = (notifyUserReady (Racing.sendInitialMessage c i sendRc sentEarlyData) i).note e) :
    (∀ j, d.state j = c.state j) ∧ d.numAttempts = c.numAttempts ∧
      d.nextAttemptIndex = c.nextAttemptIndex := by
  subst hd
  simp [notifyUserReady, Racing.sendInitialMessage, Context.state]

theorem racingOnAttemptReady_kept (hc : c.raceComplete = false) (sendRc : Int)
    (sentEarlyData : Bool) {d : Context} (hd : d =
      (Racing.cancelAllOtherAttempts (Racing.registerSuccesfulAttempt c i) i).setConnection i
        (some .user)) :
    (∀ j, (racingOnAttemptReady c i sendRc sentEarlyData).state j = d.state j) ∧
      (racingOnAttemptReady c i sendRc sentEarlyData).numAttempts = d.numAttempts ∧
      (racingOnAttemptReady c i sendRc sentEarlyData).nextAttemptIndex = d.nextAttemptIndex := by
  rw [racingOnAttemptReady, if_neg (by simp [hc])]
  dsimp only
  rw [← hd]
  exact readyReturned_frame d i sendRc sentEarlyData _ rfl

theorem racingOnAttemptReady_state (hc : c.raceComplete = false) (sendRc : Int)
    (sentEarlyData : Bool) (hj : j < c.numAttempts) (hji : j ≠ i) :
    (racingOnAttemptReady c i sendRc sentEarlyData).state j = (c.state j).cancel := by
  have hmem : j ∈ List.range (Racing.registerSuccesfulAttempt c i).numAttempts := by
    rw [List.mem_range]
    simpa [Racing.registerSuccesfulAttempt] using hj
  rw [(racingOnAttemptReady_kept hc sendRc sentEarlyData rfl).1, setConnection_state,
    Racing.cancelAllOtherAttempts, cancelLoop_state, registerSuccesfulAttempt_state,
    if_pos ⟨hmem, hji⟩, if_neg hji]

theorem racingOnAttemptReady_frame (sendRc : Int) (sentEarlyData : Bool) :
    (racingOnAttemptReady c i sendRc sentEarlyData).numAttempts = c.numAttempts ∧
      (racingOnAttemptReady c i sendRc sentEarlyData).nextAttemptIndex = c.nextAttemptIndex := by
  cases hc : c.raceComplete with
  | true =>
    rw [racingOnAttemptReady, if_pos hc]
    exact ⟨rfl, rfl⟩
  | false =>
    obtain ⟨-, hnumKept, hnextKept⟩ := racingOnAttemptReady_kept (i := i) hc sendRc sentEarlyData rfl
    have hframe := cancelLoop_frame (c := Racing.registerSuccesfulAttempt c i) (w := i)
      (l := List.range (Racing.registerSuccesfulAttempt c i).numAttempts)
    have hnum : (Racing.registerSuccesfulAttempt c i).numAttempts = c.numAttempts := by
      simp [Racing.registerSuccesfulAttempt]
    have hnext : (Racing.registerSuccesfulAttempt c i).nextAttemptIndex = c.nextAttemptIndex := by
      simp [Racing.registerSuccesfulAttempt]
    exact ⟨hnumKept.trans (hframe.1.trans hnum), hnextKept.trans (hframe.2.1.trans hnext)⟩

theorem RunningAt.not_allAttemptsConcluded (h : RunningAt k c) : allAttemptsConcluded c = false := by
  obtain ⟨j, hj, hopen⟩ := h.exists_open
  rw [Bool.eq_false_iff]
  intro hall
  exact absurd (allAttemptsConcluded_iff.1 hall j hj) (by simp [hopen])

theorem Accounted.deliver_of_running (h : Accounted c) (hrun : Running c)
    (hr : r.isReady = true ∨ r = .establishmentError →
      (c.attempts i).connection = some .racing → c.state i = .connecting) :
    Accounted (deliver c i r) := by
  rcases hrun.connection i with hconn | hconn
  · simp only [Racing.deliver, hconn]
    exact h
  · have hi : i < c.numAttempts :=
      Nat.lt_of_lt_of_le (hrun.lt_of_connection hconn) hrun.le_num
    have hnote := h.note (e := .report i r) rfl
    cases r with
    | ready sendRc sentEarlyData =>
      rw [deliver_ready_eq hconn]
      refine hnote.racingOnAttemptReady hi (fun _ => ?_) sendRc sentEarlyData
      rw [note_state, hr (.inl rfl) hconn]
      rfl
    | establishmentError =>
      rw [deliver_establishmentError_eq hrun.toRunningAt hconn]
      refine hnote.registerFailedAttempt hi ?_
      rw [note_state, hr (.inr rfl) hconn]
      rfl
    | closed | connectionError =>
      simp only [Racing.deliver, hconn]
      exact hnote

theorem Accounted.deliver_of_won (h : Accounted c) (hwon : Won w c) (hi : i < c.numAttempts)
    (hr : r = .closed → (c.attempts i).connection = some .racingClosed → c.state i = .closing) :
    Accounted (deliver c i r) := by
  have hnote := h.note (e := .report i r) rfl
  rcases hwon.deliver_cases i r with heq | ⟨-, heq⟩ | heq | ⟨-, hclosed, hconn, heq⟩ <;> rw [heq]
  · exact h
  · exact h.note rfl
  · exact hnote
  · refine hnote.registerCanceledAttempt hi ?_
    rw [note_state, hr hclosed hconn]
    rfl

theorem Accounted.onTimerCloseFreeContext (h : Accounted c) :
    Accounted (onTimerCloseFreeContext c) := by
  refine h.quiet rfl (fun _ => onTimerCloseFreeContext_state) rfl ?_
  obtain ⟨l, hl, hmem⟩ := onTimerCloseFreeContext_log (c := c)
  refine ⟨l, hl, fun e he => ?_⟩
  rcases hmem e he with rfl | rfl <;> rfl

end Functions

/-! ### Runs -/

section Runs

/-- The start of the next attempt concludes it at most once and schedules nothing for a race that is
over: a failure is not both reported and returned and is not the last one, and an immediate success
leaves another attempt connecting or is the last. -/
def KeepsStart (c : Context) : InitOutcome → Prop
  | .notCreated | .failed => ¬ OthersFailed c c.nextAttemptIndex
  | .failedReported => False
  | .pending => True
  | .ready _ _ => c.nextAttemptIndex + 1 < c.numAttempts →
    ∃ j < c.numAttempts, c.state j = .connecting

def KeepsAccounts (c : Context) : Event → Prop
  | .timer o => c.timerActive = true → c.raceComplete = false → KeepsStart c o
  | .report i r => i < c.numAttempts →
    (c.raceComplete = false → r.isReady = true ∨ r = .establishmentError →
      (c.attempts i).connection = some .racing → c.state i = .connecting) ∧
    (r = .closed → (c.attempts i).connection = some .racingClosed → c.state i = .closing)
  | .timerClosed => True

theorem Accounted.registerFailedStart (h : Accounted c)
    (hrun : RunningAt (c.nextAttemptIndex + 1) c)
    (hstate : c.state c.nextAttemptIndex = .connecting)
    (hothers : ¬ OthersFailed c c.nextAttemptIndex) :
    Accounted (registerFailedStart c c.nextAttemptIndex) := by
  have hregister := h.registerFailedAttempt (Nat.lt_of_succ_le hrun.le_num) (by rw [hstate]; rfl)
  rw [Racing.registerFailedStart,
    if_neg (fun hall => hothers (allAttemptsFailed_registerFailedAttempt_iff.1 hall))]
  apply hregister.scheduleNextAttempt
  intro _
  rcases hrun.registerFailedAttempt_cases (Nat.lt_succ_self _) with ⟨hall, -⟩ | ⟨-, hrun', -⟩
  · exact absurd (allAttemptsFailed_conclude_iff.1 hall) hothers
  · exact hrun'.not_allAttemptsConcluded

theorem Accounted.initiateNextAttempt (h : Accounted c) (hrun : RunningAt c.nextAttemptIndex c)
    (hk : c.nextAttemptIndex < c.numAttempts) (ho : KeepsStart c o) :
    Accounted (initiateNextAttempt c o) := by
  have hpending := hrun.notStarted _ (Nat.le_refl _)
  have hstart := h.setState (s := .connecting) hk (by rw [hpending]; rfl) rfl
  have hrun' := hrun.setState_connecting hk
  have hconn := hstart.setConnection (i := c.nextAttemptIndex) (some .racing)
  have hrunConn := hrun'.setConnection_racing (Nat.lt_succ_self _)
  simp only [Racing.initiateNextAttempt]
  rw [if_neg (by simp [hrun.incomplete]), if_neg (by omega)]
  cases o with
  | notCreated =>
    have hothers := (startConnectionAttempt_error_frame (o := .notCreated) hrun hk rfl).1
    exact hstart.registerFailedStart hrun' (by simp) fun hall => ho (hothers.1 hall)
  | failed =>
    have hothers := (startConnectionAttempt_error_frame (o := .failed) hrun hk rfl).1
    exact hconn.registerFailedStart hrunConn (by simp) fun hall => ho (hothers.1 hall)
  | failedReported => exact ho.elim
  | pending =>
    apply hconn.scheduleNextAttempt
    intro _
    exact hrunConn.not_allAttemptsConcluded
  | ready sendRc sentEarlyData =>
    simp only [startConnectionAttempt, InitOutcome.isError, Bool.false_eq_true, if_false]
    rw [deliver_ready_eq (by simp)]
    have hnote := hconn.note (e := .report c.nextAttemptIndex (.ready sendRc sentEarlyData)) rfl
    have hready := hnote.racingOnAttemptReady (i := c.nextAttemptIndex) hk
      (fun _ => by simp [AttemptState.isConcluded, AttemptState.isFailed]) sendRc sentEarlyData
    obtain ⟨hnum, hindex⟩ := racingOnAttemptReady_frame (i := c.nextAttemptIndex)
      (c := ((c.setState c.nextAttemptIndex .connecting).setConnection c.nextAttemptIndex
        (some .racing)).note (.report c.nextAttemptIndex (.ready sendRc sentEarlyData)))
      sendRc sentEarlyData
    apply hready.scheduleNextAttempt
    intro hnext
    rw [hindex, hnum] at hnext
    obtain ⟨j, hj, hconnecting⟩ := ho hnext
    have hne : j ≠ c.nextAttemptIndex := by
      rintro rfl
      simp [hpending] at hconnecting
    rw [Bool.eq_false_iff]
    intro hall
    have hconcluded := allAttemptsConcluded_iff.1 hall j (by rw [hnum]; exact hj)
    rw [racingOnAttemptReady_state (by exact hrun.incomplete) sendRc sentEarlyData (by exact hj) hne,
      note_state, setConnection_state, setState_state, if_neg hne, hconnecting] at hconcluded
    exact absurd hconcluded (by decide)

theorem Accounted.step (h : Accounted c) (hphase : InPhase c) {e : Event}
    (he : KeepsAccounts c e) : Accounted (step c e) := by
  cases e with
  | timer o =>
    simp only [Racing.step, onStaggerTimer]
    split_ifs with hactive hcomplete
    · exact ⟨h.recorded, h.completed, h.closed, h.closes, h.starts⟩
    · rcases hphase with hrun | hlost | ⟨w, hwon⟩
      · have h' : Accounted { c with timerActive := false } :=
          ⟨h.recorded, h.completed, h.closed, h.closes, h.starts⟩
        have hrun' : RunningAt c.nextAttemptIndex { c with timerActive := false } :=
          { hrun.toRunningAt with }
        have hstart : KeepsStart { c with timerActive := false } o := by
          have := he hactive hrun.incomplete
          cases o <;> exact this
        exact Accounted.initiateNextAttempt (c := { c with timerActive := false }) h' hrun'
          (hrun.timer.1 hactive) hstart
      · exact absurd hlost.complete hcomplete
      · exact absurd hwon.raceComplete hcomplete
    · exact h
  | report i r =>
    simp only [Racing.step]
    split_ifs with hi
    · obtain ⟨hrunning, hclosed⟩ := he hi
      rcases hphase with hrun | hlost | ⟨w, hwon⟩
      · exact h.deliver_of_running hrun (hrunning hrun.incomplete)
      · rcases hlost.deliver_eq (i := i) r with heq | heq <;> rw [heq]
        · exact h
        · exact h.note rfl
      · exact h.deliver_of_won hwon hi hclosed
    · exact h
  | timerClosed =>
    simp only [Racing.step]
    split_ifs
    · exact h.onTimerCloseFreeContext
    · exact h

theorem accounted_create (u : Setup) (n : Nat) :
    Accounted (racingContextInitializeAttemptArray (racingContextCreate u) (n + 1)) where
  recorded _ := rfl
  completed := by
    symm
    apply List.countP_eq_zero.mpr
    intro s hs
    obtain ⟨i, _, rfl⟩ := List.mem_map.mp hs
    exact Bool.false_ne_true
  closed := by
    rw [(runningAt_zero u n).not_allAttemptsConcluded]
    rfl
  closes := trivial
  starts := trivial

theorem accounted_no_candidates (u : Setup) (o : InitOutcome) :
    Accounted (startCandidateRacingOnNodesReady u (some 0) o) := by
  cases hu : u.userCallbacks.establishmentError <;>
    refine ⟨fun _ => ?_, rfl, ?_, ?_, ?_⟩ <;>
    simp [startCandidateRacingOnNodesReady, racingContextFree, racingContextCreate, hu, stateIn,
      allAttemptsConcluded, Context.states, ClosesConcluded, StartsOpen, Context.state]

structure InOrder (c : Context) : Prop where
  completed : c.completedAttempts = c.states.countP AttemptState.isConcluded
  closed : c.log.count .timerClose ≤ 1
  closes : ∀ newer older, c.log = newer ++ .timerClose :: older →
    ∀ i < c.numAttempts, (stateIn older i).isConcluded = true
  starts : ∀ newer older, c.log = newer ++ .timerStart :: older → .timerClose ∉ older
  recorded : ∀ i, stateIn c.log i = c.state i

theorem ClosesConcluded.of_append {n : Nat} {newer older : List Entry}
    (h : ClosesConcluded n (newer ++ older)) : ClosesConcluded n older := by
  induction newer with
  | nil => exact h
  | cons e newer ih => exact ih h.2

theorem StartsOpen.of_append {newer older : List Entry} (h : StartsOpen (newer ++ older)) :
    StartsOpen older := by
  induction newer with
  | nil => exact h
  | cons e newer ih => exact ih h.2

theorem Accounted.inOrder (h : Accounted c) : InOrder c where
  completed := h.completed
  closed := by
    rw [h.closed]
    split <;> omega
  closes newer older hlog := by
    have := h.closes
    rw [hlog] at this
    exact this.of_append.1 rfl
  starts newer older hlog := by
    have := h.starts
    rw [hlog] at this
    exact this.of_append.1 rfl
  recorded := h.recorded

/-- A race whose first start and whose events all keep the accounts. -/
theorem race_in_order (u : Setup) (n : Nat) (o : InitOutcome) (es : List Event)
    (hstart : 0 < n →
      KeepsStart (racingContextInitializeAttemptArray (racingContextCreate u) n) o)
    (hes : Lib.AllSteps step KeepsAccounts (startCandidateRacingOnNodesReady u (some n) o) es) :
    InOrder (race u n o es) := by
  cases n with
  | zero =>
    have hinv : Accounted (race u 0 o es) ∧ NoRace (race u 0 o es) := by
      refine Lib.run_invariant_of_step (I := fun c => Accounted c ∧ NoRace c) (fun c e h => ?_)
        ⟨accounted_no_candidates u o, noRace_start u o⟩ es
      refine ⟨?_, h.2.step e⟩
      cases e with
      | timer o => simpa [Racing.step, h.2.timerActive] using h.1
      | report i r => simpa [Racing.step, h.2.numAttempts] using h.1
      | timerClosed =>
        simp only [Racing.step]
        split_ifs
        · exact h.1.onTimerCloseFreeContext
        · exact h.1
    exact hinv.1.inOrder
  | succ n =>
    have hfirst := (accounted_create u n).initiateNextAttempt (runningAt_zero u n)
      (Nat.succ_pos n) (hstart (Nat.succ_pos n))
    have hinv : Accounted (race u (n + 1) o es) ∧ InPhase (race u (n + 1) o es) :=
      Lib.run_invariant (I := fun c => Accounted c ∧ InPhase c)
        (fun c e h he => ⟨h.1.step h.2 he, h.2.step e⟩) ⟨hfirst, inPhase_start u n o⟩ hes
    exact hinv.1.inOrder

theorem race_in_order_two :
    InOrder (race {} 2 .pending
      [.report 0 .establishmentError, .timer .pending, .report 1 (.ready 0 false), .timerClosed]) :=
  race_in_order {} 2 .pending _ (fun _ => trivial)
    ⟨fun _ => ⟨fun _ _ _ => by decide, fun h => nomatch h⟩, fun _ _ => trivial,
      fun _ => ⟨fun _ _ _ => by decide, fun h => nomatch h⟩, trivial, trivial⟩

/-- Two candidates, the first of which is ready at once: the race is over, its timer is closed,
and then started for the second attempt. -/
theorem race_timer_restarted :
    (race {} 2 (.ready 0 false) []).log.filter (fun e => e = .timerStart ∨ e = .timerClose)
        = [.timerStart, .timerClose] ∧
      ¬ InOrder (race {} 2 (.ready 0 false) []) := by
  have hlog : (race {} 2 (.ready 0 false) []).log
      = [] ++ .timerStart :: (race {} 2 (.ready 0 false) []).log.tail := by decide
  refine ⟨by decide, fun h => ?_⟩
  exact absurd (h.starts _ _ hlog) (by decide)

end Runs

end CTaps.Racing
