import CTaps.Racing.Conclude

/-! A race is in one of three phases: still running, lost because every attempt
failed, or won by one attempt. Each phase says what holds of the whole context,
and every event takes a race from one phase to another. -/

namespace CTaps.Racing

variable {c c' : Context} {i j k w : Nat}

def Entry.Ok (win : Option Nat) : Entry → Prop
  | .attemptState i old new raceComplete =>
    (new = .succeeded → win = some i) ∧ (old = .pending → new = .connecting → raceComplete = false)
  | .userReady i callbacks => win = some i ∧ callbacks = some .user
  | .forwarded i _ => win = some i
  | .readyReturned i states => win = some i ∧
    ∀ j, j ≠ i → states[j]? ≠ some .pending ∧ states[j]? ≠ some .connecting
  | _ => True

theorem Entry.Ok.of_none {e : Entry} (h : e.Ok none) : e.Ok (some w) := by
  cases e <;> simp_all [Entry.Ok]

theorem Entry.IsCancel.ok {e : Entry} (h : e.IsCancel) (win : Option Nat) : e.Ok win := by
  cases e with
  | attemptState i old new rc => rcases h with rfl | rfl <;> simp [Entry.Ok]
  | closeGroup _ | timerClose => trivial
  | _ => exact h.elim

theorem LogGrows.ok {p : Entry → Prop} {win : Option Nat} (h : LogGrows p c c')
    (hp : ∀ e, p e → e.Ok win) (hc : ∀ e ∈ c.log, e.Ok win) : ∀ e ∈ c'.log, e.Ok win := by
  obtain ⟨l, hl, hpl⟩ := h
  rw [hl]
  intro e he
  exact (List.mem_append.1 he).elim (fun h => hp e (hpl e h)) (hc e)

structure RunningAt (k : Nat) (c : Context) : Prop where
  incomplete : c.raceComplete = false
  le_num : k ≤ c.numAttempts
  started : ∀ i < k, c.state i = .connecting ∨ c.state i = .failed
  notStarted : ∀ i, k ≤ i → c.state i = .pending
  unopened : ∀ i, k ≤ i → (c.attempts i).connection = none
  live : ∃ i < c.numAttempts, (c.state i).isFailed = false
  connection : ∀ i, (c.attempts i).connection = none ∨ (c.attempts i).connection = some .racing
  timerClosing : c.timerClosing = false
  freed : c.freed = false
  logOk : ∀ e ∈ c.log, e.Ok none

structure Running (c : Context) : Prop extends RunningAt c.nextAttemptIndex c where
  timer : c.timerActive = true ↔ c.nextAttemptIndex < c.numAttempts

structure Lost (c : Context) : Prop where
  complete : c.raceComplete = true
  failed : ∀ i < c.numAttempts, (c.state i).isFailed = true
  connection : ∀ i, (c.attempts i).connection = none ∨ (c.attempts i).connection = some .racing
  timerClosing : c.timerClosing = true
  timerActive : c.timerActive = false
  logOk : ∀ e ∈ c.log, e.Ok none

def HasSucceeded (c : Context) (i : Nat) : Prop :=
  ∃ old raceComplete, .attemptState i old .succeeded raceComplete ∈ c.log

structure Handover (w : Nat) (c : Context) : Prop extends Decided w c where
  winning : c.winningAttemptIndex = w
  logged : HasSucceeded c w
  loser : ∀ i < c.numAttempts, i ≠ w →
    c.state i = .closing ∨ c.state i = .failed ∨ c.state i = .canceled
  loser_connection : ∀ i, i ≠ w → (c.attempts i).connection ≠ some .user
  closing_connection : ∀ i, c.state i = .closing → (c.attempts i).connection ≠ some .racing
  logOk : ∀ e ∈ c.log, e.Ok (some w)

structure Won (w : Nat) (c : Context) : Prop extends Handover w c where
  winner_connection : (c.attempts w).connection = some .user

section Fail

theorem RunningAt.exists_open (h : RunningAt k c) :
    ∃ i < c.numAttempts, (c.state i).isConcluded = false := by
  obtain ⟨i, hi, hlive⟩ := h.live
  refine ⟨i, hi, ?_⟩
  rcases Nat.lt_or_ge i k with hk | hk
  · rcases h.started i hk with hs | hs <;> simp_all [AttemptState.isConcluded, AttemptState.isFailed]
  · simp [h.notStarted i hk, AttemptState.isConcluded, AttemptState.isFailed]

theorem RunningAt.conclude_failed (h : RunningAt k c) (hi : i < k)
    (hf : allAttemptsFailed (c.conclude i .failed) = false) :
    RunningAt k (c.conclude i .failed) where
  incomplete := h.incomplete
  le_num := h.le_num
  started j hj := by
    by_cases hji : j = i
    · simp [hji]
    · simpa [hji] using h.started j hj
  notStarted j hj := by
    have hji : j ≠ i := by omega
    simpa [hji] using h.notStarted j hj
  unopened j hj := by simpa using h.unopened j hj
  live := by
    by_contra hno
    push Not at hno
    have : allAttemptsFailed (c.conclude i .failed) = true := by
      rw [allAttemptsFailed_iff]
      intro j hj
      simpa using hno j hj
    simp [this] at hf
  connection j := by simpa using h.connection j
  timerClosing := h.timerClosing
  freed := h.freed
  logOk e he := by
    rcases List.mem_cons.1 he with rfl | he
    · simp [Entry.Ok]
    · exact h.logOk e he

theorem RunningAt.registerFailedAttempt_eq (h : RunningAt k c) (hi : i < k)
    (hf : allAttemptsFailed (c.conclude i .failed) = false) :
    registerFailedAttempt c i = c.conclude i .failed := by
  obtain ⟨j, hj, hopen⟩ := (h.conclude_failed hi hf).exists_open
  exact handleConcludedAttempt_of_open hj hopen

theorem lost_handleAllAttemptsFailed (hf : allAttemptsFailed c = true)
    (hconn : ∀ i, (c.attempts i).connection = none ∨ (c.attempts i).connection = some .racing)
    (hlog : ∀ e ∈ c.log, e.Ok none) : Lost (handleAllAttemptsFailed c) where
  complete := rfl
  failed := allAttemptsFailed_iff.1 hf
  connection := hconn
  timerClosing := rfl
  timerActive := rfl
  logOk e he := by
    simp only [handleAllAttemptsFailed, initiateContextClose_log, Context.noteIf_log] at he
    split_ifs at he <;> simp only [List.mem_cons] at he
    · rcases he with rfl | rfl | he
      · trivial
      · trivial
      · exact hlog e he
    · rcases he with rfl | he
      · trivial
      · exact hlog e he

theorem RunningAt.lost_registerFailedAttempt (h : RunningAt k c)
    (hf : allAttemptsFailed (c.conclude i .failed) = true) : Lost (registerFailedAttempt c i) := by
  rw [registerFailedAttempt, handleConcludedAttempt_of_failed hf]
  refine lost_handleAllAttemptsFailed hf (fun j => by simpa using h.connection j) ?_
  intro e he
  rcases List.mem_cons.1 he with rfl | he
  · simp [Entry.Ok]
  · exact h.logOk e he

theorem Lost.allAttemptsFailed (h : Lost c) : allAttemptsFailed c = true :=
  allAttemptsFailed_iff.2 h.failed

theorem Lost.handleAllAttemptsFailed (h : Lost c) : Lost (handleAllAttemptsFailed c) :=
  lost_handleAllAttemptsFailed h.allAttemptsFailed h.connection h.logOk

theorem Lost.conclude_allAttemptsFailed (h : Lost c) :
    Racing.allAttemptsFailed (c.conclude i .failed) = true := by
  rw [allAttemptsFailed_iff]
  intro j hj
  by_cases hji : j = i
  · simp [hji, AttemptState.isFailed]
  · simpa [hji] using h.failed j hj

theorem Lost.registerFailedAttempt (h : Lost c) : Lost (registerFailedAttempt c i) := by
  rw [Racing.registerFailedAttempt, handleConcludedAttempt_of_failed h.conclude_allAttemptsFailed]
  refine lost_handleAllAttemptsFailed h.conclude_allAttemptsFailed
    (fun j => by simpa using h.connection j) ?_
  intro e he
  rcases List.mem_cons.1 he with rfl | he
  · simp [Entry.Ok]
  · exact h.logOk e he

end Fail

section Win

theorem decided_registerSuccesfulAttempt (hi : i < c.numAttempts) :
    Decided i (registerSuccesfulAttempt c i) where
  raceComplete := by simp [registerSuccesfulAttempt]
  lt_num := by simpa [registerSuccesfulAttempt] using hi
  succeeded := by
    rw [registerSuccesfulAttempt, handleConcludedAttempt_state]
    exact conclude_state.trans (if_pos rfl)
  closing_of_concluded hc := by
    rw [registerSuccesfulAttempt, handleConcludedAttempt_timerClosing, Bool.or_eq_true]
    left
    rw [allAttemptsConcluded_iff] at hc ⊢
    simpa [registerSuccesfulAttempt] using hc

theorem registerSuccesfulAttempt_state :
    (registerSuccesfulAttempt c i).state j = if j = i then .succeeded else c.state j := by
  rw [registerSuccesfulAttempt, handleConcludedAttempt_state]
  exact conclude_state

theorem registerSuccesfulAttempt_connection :
    ((registerSuccesfulAttempt c i).attempts j).connection = (c.attempts j).connection := by
  rw [registerSuccesfulAttempt, handleConcludedAttempt_attempts]
  exact conclude_connection

theorem LogGrows.hasSucceeded {p : Entry → Prop} (h : LogGrows p c c') (hc : HasSucceeded c i) :
    HasSucceeded c' i := by
  obtain ⟨l, hl, -⟩ := h
  obtain ⟨old, rc, hmem⟩ := hc
  exact ⟨old, rc, hl ▸ List.mem_append_right l hmem⟩

theorem hasSucceeded_registerSuccesfulAttempt :
    HasSucceeded (registerSuccesfulAttempt c i) i := by
  refine handleConcludedAttempt_logGrows.hasSucceeded ⟨c.state i, c.raceComplete, ?_⟩
  exact List.mem_cons_self

theorem registerSuccesfulAttempt_log (hi : i < c.numAttempts) :
    LogGrows (fun e => e = .timerClose ∨ e = .attemptState i (c.state i) .succeeded c.raceComplete)
      c (registerSuccesfulAttempt c i) := by
  have hf : allAttemptsFailed { c.conclude i .succeeded with
      winningAttemptIndex := (i : Int), raceComplete := true } = false := by
    refine not_allAttemptsFailed (i := i) hi ?_
    have hs : (c.conclude i .succeeded).state i = .succeeded := conclude_state.trans (if_pos rfl)
    exact congrArg AttemptState.isFailed hs
  obtain hl | hl := handleConcludedAttempt_log_of_not_failed hf
  · exact ⟨[.attemptState i (c.state i) .succeeded c.raceComplete], hl, by simp⟩
  · exact ⟨[.timerClose, .attemptState i (c.state i) .succeeded c.raceComplete], hl, by simp⟩

theorem RunningAt.state_cases (h : RunningAt k c) (j : Nat) :
    c.state j = .pending ∨ c.state j = .connecting ∨ c.state j = .failed := by
  rcases Nat.lt_or_ge j k with hk | hk
  · exact .inr (h.started j hk)
  · exact .inl (h.notStarted j hk)

theorem RunningAt.handover (h : RunningAt k c) (hi : i < k) :
    Handover i (cancelAllOtherAttempts (registerSuccesfulAttempt c i) i) := by
  have hnum : i < c.numAttempts := Nat.lt_of_lt_of_le hi h.le_num
  have hnum' : (registerSuccesfulAttempt c i).numAttempts = c.numAttempts := by
    simp [registerSuccesfulAttempt]
  obtain ⟨hd, hlog⟩ := (decided_registerSuccesfulAttempt hnum).cancelLoop
    (l := List.range (registerSuccesfulAttempt c i).numAttempts) (by simp)
  have hframe := cancelLoop_frame (l := List.range (registerSuccesfulAttempt c i).numAttempts)
    (c := registerSuccesfulAttempt c i) (w := i)
  -- the state and the callbacks every attempt has after the loop
  have hstate : ∀ j, (cancelAllOtherAttempts (registerSuccesfulAttempt c i) i).state j =
      if j = i then .succeeded else if j < c.numAttempts then (c.state j).cancel else c.state j := by
    intro j
    rw [cancelAllOtherAttempts, cancelLoop_state, registerSuccesfulAttempt_state]
    by_cases hj : j = i <;> simp [hj, hnum']
  have hconn : ∀ j, ((cancelAllOtherAttempts (registerSuccesfulAttempt c i) i).attempts
      j).connection = if j < c.numAttempts ∧ j ≠ i ∧ c.state j = .connecting then
        (c.attempts j).connection.map Callbacks.setClosed else (c.attempts j).connection := by
    intro j
    rw [cancelAllOtherAttempts, cancelLoop_connection, registerSuccesfulAttempt_state,
      registerSuccesfulAttempt_connection]
    by_cases hj : j = i <;> simp [hj, hnum']
  refine ⟨hd, ?_, hlog.hasSucceeded hasSucceeded_registerSuccesfulAttempt, ?_, ?_, ?_, ?_⟩
  · exact hframe.2.2.1.trans (by simp [registerSuccesfulAttempt])
  · intro j hj hji
    have hj' : j < c.numAttempts := by rwa [cancelAllOtherAttempts, hframe.1, hnum'] at hj
    rw [hstate, if_neg hji, if_pos hj']
    rcases h.state_cases j with hs | hs | hs <;> simp [hs, AttemptState.cancel]
  · intro j hji
    rw [hconn]
    rcases h.connection j with hc | hc <;> rw [hc] <;> split_ifs <;> simp [Callbacks.setClosed]
  · intro j hs
    rw [hstate] at hs
    rw [hconn]
    -- an attempt that is closing was connecting before the loop
    rcases h.state_cases j with hj | hj | hj <;> rw [hj] at hs <;> split_ifs at hs <;>
      simp_all [AttemptState.cancel]
    rcases h.connection j with hc | hc <;> rw [hc] <;> simp [Callbacks.setClosed]
  · refine LogGrows.ok hlog (fun e he => he.ok _) ?_
    refine LogGrows.ok (registerSuccesfulAttempt_log hnum) ?_ (fun e he => (h.logOk e he).of_none)
    rintro e (rfl | rfl) <;> simp [Entry.Ok]

theorem Handover.setConnection (h : Handover w c) : Won w (c.setConnection w (some .user)) where
  raceComplete := h.raceComplete
  lt_num := h.lt_num
  succeeded := by simpa using h.succeeded
  closing_of_concluded hc := h.closing_of_concluded (by simpa [allAttemptsConcluded_iff] using hc)
  winning := h.winning
  logged := h.logged
  winner_connection := by simp
  loser i hi hw := by simpa using h.loser i hi hw
  loser_connection i hw := by simpa [hw] using h.loser_connection i hw
  closing_connection i hs := by
    have hw : i ≠ w := by
      rintro rfl
      simp [h.succeeded] at hs
    simpa [hw] using h.closing_connection i (by simpa using hs)
  logOk := h.logOk

theorem Won.note {e : Entry} (h : Won w c) (he : e.Ok (some w)) : Won w (c.note e) where
  raceComplete := h.raceComplete
  lt_num := h.lt_num
  succeeded := h.succeeded
  closing_of_concluded := h.closing_of_concluded
  winning := h.winning
  logged := LogGrows.hasSucceeded (p := fun _ => True) ⟨[e], rfl, by simp⟩ h.logged
  winner_connection := h.winner_connection
  loser := h.loser
  loser_connection := h.loser_connection
  closing_connection := h.closing_connection
  logOk e' he' := by
    rcases List.mem_cons.1 he' with rfl | he'
    · exact he
    · exact h.logOk e' he'

theorem Won.noteIf {e : Entry} (h : Won w c) (b : Bool) (he : b = true → e.Ok (some w)) :
    Won w (c.noteIf b e) := by
  cases b with
  | false => exact h
  | true => exact h.note (he rfl)

theorem Won.sendInitialMessage (h : Won w c) (sendRc : Int) (sentEarlyData : Bool) :
    Won w (sendInitialMessage c w sendRc sentEarlyData) := by
  refine ((h.noteIf _ ?_).noteIf _ ?_).noteIf _ ?_ <;> exact fun _ => trivial

theorem Won.notifyUserReady (h : Won w c) : Won w (notifyUserReady c w) :=
  h.noteIf _ fun _ => ⟨rfl, h.winner_connection⟩

theorem states_getElem? :
    c.states[j]? = if j < c.numAttempts then some (c.state j) else none := by
  by_cases h : j < c.numAttempts <;> simp [Context.states, h]

theorem Handover.readyReturned_ok (h : Handover w c) :
    Entry.Ok (some w) (.readyReturned w c.states) := by
  refine ⟨rfl, fun j hj => ?_⟩
  rw [states_getElem?]
  split_ifs with hnum
  · rcases h.loser j hnum hj with hs | hs | hs <;> simp [hs]
  · simp

theorem RunningAt.won_racingOnAttemptReady (h : RunningAt k c) (hi : i < k) (sendRc : Int)
    (sentEarlyData : Bool) : Won i (racingOnAttemptReady c i sendRc sentEarlyData) := by
  rw [racingOnAttemptReady, if_neg (by simp [h.incomplete])]
  have hwon := ((h.handover hi).setConnection.sendInitialMessage sendRc sentEarlyData).notifyUserReady
  exact hwon.note hwon.readyReturned_ok

end Win

end CTaps.Racing
