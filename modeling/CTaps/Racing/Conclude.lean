import CTaps.Racing.Model
import Mathlib.Tactic.SplitIfs

/-! What concluding an attempt does to the context: `handle_concluded_attempt`
touches the completion flag, the timer and the log only, and the loop of
`cancel_all_other_attempts` moves every other attempt by `AttemptState.cancel`. -/

namespace CTaps.Racing

variable {c : Context} {i j w : Nat} {s : AttemptState}

section Primitives

@[simp] theorem setState_state :
    (c.setState i s).state j = if j = i then s else c.state j := by
  by_cases h : j = i <;> simp [Context.setState, Context.state, h]

@[simp] theorem setConnection_state (cb : Option Callbacks) :
    (c.setConnection i cb).state j = c.state j := by
  by_cases h : j = i <;> simp [Context.setConnection, Context.state, h]

@[simp] theorem setState_connection :
    ((c.setState i s).attempts j).connection = (c.attempts j).connection := by
  by_cases h : j = i <;> simp [Context.setState, h]

@[simp] theorem setConnection_connection (cb : Option Callbacks) :
    ((c.setConnection i cb).attempts j).connection =
      if j = i then cb else (c.attempts j).connection := by
  by_cases h : j = i <;> simp [Context.setConnection, h]

@[simp] theorem note_state (e : Entry) : (c.note e).state j = c.state j := rfl

@[simp] theorem conclude_state :
    (c.conclude i s).state j = if j = i then s else c.state j := setState_state

@[simp] theorem conclude_connection :
    ((c.conclude i s).attempts j).connection = (c.attempts j).connection := setState_connection

theorem allAttemptsFailed_iff :
    allAttemptsFailed c = true ↔ ∀ i < c.numAttempts, (c.state i).isFailed = true := by
  simp [allAttemptsFailed, Context.states]

theorem allAttemptsConcluded_iff :
    allAttemptsConcluded c = true ↔ ∀ i < c.numAttempts, (c.state i).isConcluded = true := by
  simp [allAttemptsConcluded, Context.states]

theorem allAttemptsConcluded_of_failed (h : allAttemptsFailed c = true) :
    allAttemptsConcluded c = true := by
  rw [allAttemptsConcluded_iff]
  intro i hi
  simp [AttemptState.isConcluded, allAttemptsFailed_iff.1 h i hi]

theorem not_allAttemptsFailed (hi : i < c.numAttempts) (hs : (c.state i).isFailed = false) :
    allAttemptsFailed c = false := by
  rw [Bool.eq_false_iff]
  intro h
  simp [allAttemptsFailed_iff.1 h i hi] at hs

end Primitives

def LogGrows (p : Entry → Prop) (c c' : Context) : Prop :=
  ∃ l, c'.log = l ++ c.log ∧ ∀ e ∈ l, p e

theorem LogGrows.refl (p : Entry → Prop) (c : Context) : LogGrows p c c := ⟨[], rfl, by simp⟩

theorem LogGrows.trans {p : Entry → Prop} {c c' c'' : Context} (h : LogGrows p c c')
    (h' : LogGrows p c' c'') : LogGrows p c c'' := by
  obtain ⟨l, hl, hp⟩ := h
  obtain ⟨l', hl', hp'⟩ := h'
  refine ⟨l' ++ l, by rw [hl', hl, List.append_assoc], fun e he => ?_⟩
  exact (List.mem_append.1 he).elim (hp' e) (hp e)

theorem LogGrows.countP_eq {p : Entry → Prop} {f : Entry → Bool} {c c' : Context}
    (h : LogGrows p c c') (hp : ∀ e, p e → f e = false) :
    c'.log.countP f = c.log.countP f := by
  obtain ⟨l, hl, hpl⟩ := h
  have hzero : l.countP f = 0 := by
    rw [List.countP_eq_zero]
    intro e he
    simp [hp e (hpl e he)]
  rw [hl, List.countP_append, hzero, Nat.zero_add]

structure SameSetup (c c' : Context) : Prop where
  num : c'.numAttempts = c.numAttempts
  user : c'.userCallbacks = c.userCallbacks
  early : c'.shouldTryEarlyData = c.shouldTryEarlyData
  message : c'.initialMessage = c.initialMessage
  context : c'.initialMessageContext = c.initialMessageContext

structure Frame (c c' : Context) : Prop extends SameSetup c c' where
  freed : c'.freed = c.freed

theorem SameSetup.refl (c : Context) : SameSetup c c := ⟨rfl, rfl, rfl, rfl, rfl⟩

theorem Frame.refl (c : Context) : Frame c c := ⟨.refl c, rfl⟩

theorem SameSetup.trans {c c' c'' : Context} (h : SameSetup c c') (h' : SameSetup c' c'') :
    SameSetup c c'' :=
  ⟨h'.num.trans h.num, h'.user.trans h.user, h'.early.trans h.early, h'.message.trans h.message,
    h'.context.trans h.context⟩

theorem Frame.trans {c c' c'' : Context} (h : Frame c c') (h' : Frame c' c'') : Frame c c'' :=
  ⟨h.toSameSetup.trans h'.toSameSetup, h'.freed.trans h.freed⟩

section HandleConcluded

theorem frame_handleConcludedAttempt : Frame c (handleConcludedAttempt c) := by
  unfold handleConcludedAttempt handleAllAttemptsFailed
  split_ifs <;> exact ⟨⟨rfl, rfl, rfl, rfl, rfl⟩, rfl⟩

@[simp] theorem handleConcludedAttempt_attempts :
    (handleConcludedAttempt c).attempts = c.attempts := by
  unfold handleConcludedAttempt handleAllAttemptsFailed
  split_ifs <;> rfl

@[simp] theorem handleConcludedAttempt_state :
    (handleConcludedAttempt c).state i = c.state i := by
  simp [Context.state]

@[simp] theorem handleConcludedAttempt_numAttempts :
    (handleConcludedAttempt c).numAttempts = c.numAttempts := by
  unfold handleConcludedAttempt handleAllAttemptsFailed
  split_ifs <;> rfl

@[simp] theorem handleConcludedAttempt_nextAttemptIndex :
    (handleConcludedAttempt c).nextAttemptIndex = c.nextAttemptIndex := by
  unfold handleConcludedAttempt handleAllAttemptsFailed
  split_ifs <;> rfl

@[simp] theorem handleConcludedAttempt_winningAttemptIndex :
    (handleConcludedAttempt c).winningAttemptIndex = c.winningAttemptIndex := by
  unfold handleConcludedAttempt handleAllAttemptsFailed
  split_ifs <;> rfl

@[simp] theorem handleConcludedAttempt_userCallbacks :
    (handleConcludedAttempt c).userCallbacks = c.userCallbacks := by
  unfold handleConcludedAttempt handleAllAttemptsFailed
  split_ifs <;> rfl

@[simp] theorem handleConcludedAttempt_freed :
    (handleConcludedAttempt c).freed = c.freed := by
  unfold handleConcludedAttempt handleAllAttemptsFailed
  split_ifs <;> rfl

@[simp] theorem handleConcludedAttempt_raceComplete :
    (handleConcludedAttempt c).raceComplete = (allAttemptsFailed c || c.raceComplete) := by
  unfold handleConcludedAttempt handleAllAttemptsFailed
  split_ifs <;> simp_all [initiateContextClose, Context.noteIf]

@[simp] theorem handleConcludedAttempt_timerClosing :
    (handleConcludedAttempt c).timerClosing = (allAttemptsConcluded c || c.timerClosing) := by
  unfold handleConcludedAttempt handleAllAttemptsFailed
  split_ifs with h <;>
    simp_all [initiateContextClose, allAttemptsConcluded_of_failed]

theorem handleConcludedAttempt_of_failed (h : allAttemptsFailed c = true) :
    handleConcludedAttempt c = handleAllAttemptsFailed c := by
  simp [handleConcludedAttempt, h]

theorem handleConcludedAttempt_logGrows :
    LogGrows (fun e => e = .userEstablishmentError ∨ e = .timerClose) c
      (handleConcludedAttempt c) := by
  unfold handleConcludedAttempt
  split_ifs
  · cases hu : c.userCallbacks.establishmentError with
    | true =>
      exact ⟨[.timerClose, .userEstablishmentError], by simp [handleAllAttemptsFailed, hu], by simp⟩
    | false => exact ⟨[.timerClose], by simp [handleAllAttemptsFailed, hu], by simp⟩
  · exact ⟨[.timerClose], rfl, by simp⟩
  · exact .refl _ c

theorem handleConcludedAttempt_log_of_not_failed (h : allAttemptsFailed c = false) :
    (handleConcludedAttempt c).log = c.log ∨
      (handleConcludedAttempt c).log = .timerClose :: c.log := by
  unfold handleConcludedAttempt
  split_ifs <;> simp_all [initiateContextClose]

theorem handleConcludedAttempt_of_open (hi : i < c.numAttempts)
    (hs : (c.state i).isConcluded = false) : handleConcludedAttempt c = c := by
  have hc : allAttemptsConcluded c = false := by
    rw [Bool.eq_false_iff]
    intro h
    simp [allAttemptsConcluded_iff.1 h i hi] at hs
  have hf : allAttemptsFailed c = false := by
    rw [Bool.eq_false_iff]
    exact fun h => by simp [allAttemptsConcluded_of_failed h] at hc
  simp [handleConcludedAttempt, hc, hf]

end HandleConcluded

section Cancel

def AttemptState.cancel : AttemptState → AttemptState
  | .connecting => .closing
  | .pending => .canceled
  | s => s

@[simp] theorem cancel_cancel : s.cancel.cancel = s.cancel := by cases s <;> rfl

@[simp] theorem cancel_ne_connecting : s.cancel ≠ .connecting := by
  cases s <;> simp [AttemptState.cancel]

def Entry.IsCancel : Entry → Prop
  | .attemptState _ _ new _ => new = .closing ∨ new = .canceled
  | .closeGroup _ | .timerClose => True
  | _ => False

theorem cancelAttempt_state :
    (cancelAttempt w c i).state j = if j = i ∧ i ≠ w then (c.state j).cancel else c.state j := by
  unfold cancelAttempt
  by_cases hw : i = w
  · simp [hw]
  · by_cases hj : j = i
    · subst hj
      cases hs : c.state j <;> simp [hw, hs, registerCanceledAttempt, AttemptState.cancel]
    · cases hs : c.state i <;> simp [hw, hj, registerCanceledAttempt]

theorem cancelAttempt_connection :
    ((cancelAttempt w c i).attempts j).connection =
      if j = i ∧ i ≠ w ∧ c.state j = .connecting then
        (c.attempts j).connection.map Callbacks.setClosed
      else (c.attempts j).connection := by
  unfold cancelAttempt
  by_cases hw : i = w
  · simp [hw]
  · by_cases hj : j = i
    · subst hj
      cases hs : c.state j <;> simp [hw, registerCanceledAttempt, Context.note]
    · cases hs : c.state i <;> simp [hw, hj, registerCanceledAttempt, Context.note]

theorem cancelAttempt_frame :
    (cancelAttempt w c i).numAttempts = c.numAttempts ∧
      (cancelAttempt w c i).nextAttemptIndex = c.nextAttemptIndex ∧
      (cancelAttempt w c i).winningAttemptIndex = c.winningAttemptIndex ∧
      (cancelAttempt w c i).userCallbacks = c.userCallbacks ∧
      (cancelAttempt w c i).freed = c.freed := by
  unfold cancelAttempt
  split_ifs
  · simp
  · cases c.state i <;> simp [registerCanceledAttempt, Context.note, Context.setConnection,
      Context.setState, Context.conclude]

theorem frame_cancelAttempt : Frame c (cancelAttempt w c i) := by
  unfold cancelAttempt
  split_ifs
  · exact .refl c
  · have hconclude : Frame c (c.conclude i .canceled) := ⟨⟨rfl, rfl, rfl, rfl, rfl⟩, rfl⟩
    have hcancel : Frame c (registerCanceledAttempt c i) :=
      hconclude.trans frame_handleConcludedAttempt
    cases c.state i <;> first | exact hcancel | exact ⟨⟨rfl, rfl, rfl, rfl, rfl⟩, rfl⟩

structure Decided (w : Nat) (c : Context) : Prop where
  raceComplete : c.raceComplete = true
  lt_num : w < c.numAttempts
  succeeded : c.state w = .succeeded
  closing_of_concluded : allAttemptsConcluded c = true → c.timerClosing = true

theorem Decided.registerCanceledAttempt (h : Decided w c) (hi : i ≠ w) :
    Decided w (registerCanceledAttempt c i) where
  raceComplete := by
    simp [Racing.registerCanceledAttempt, Context.conclude, Context.setState, h.raceComplete]
  lt_num := by simpa [Racing.registerCanceledAttempt] using h.lt_num
  succeeded := by simpa [Racing.registerCanceledAttempt, hi.symm] using h.succeeded
  closing_of_concluded := by
    intro hc
    have hc' : allAttemptsConcluded (c.conclude i .canceled) = true := by
      simpa [Racing.registerCanceledAttempt, allAttemptsConcluded_iff] using hc
    simp [Racing.registerCanceledAttempt, hc']

theorem Decided.cancelAttempt (h : Decided w c) (hi : i < c.numAttempts) :
    Decided w (cancelAttempt w c i) := by
  unfold Racing.cancelAttempt
  split_ifs with hw
  · exact h
  · cases hs : c.state i with
    | connecting =>
      refine ⟨h.raceComplete, h.lt_num, by simpa [Ne.symm hw] using h.succeeded, fun hc => ?_⟩
      simpa [AttemptState.isConcluded, AttemptState.isFailed] using
        allAttemptsConcluded_iff.1 hc i hi
    | pending => exact h.registerCanceledAttempt hw
    | closing => exact h
    | succeeded => exact h
    | failed => exact h
    | canceled => exact h

theorem Decided.registerCanceledAttempt_log (h : Decided w c) (hi : i ≠ w) :
    LogGrows Entry.IsCancel c (Racing.registerCanceledAttempt c i) := by
  have hf : allAttemptsFailed (c.conclude i .canceled) = false :=
    Racing.not_allAttemptsFailed (i := w) h.lt_num
      (by simp [hi.symm, h.succeeded, AttemptState.isFailed])
  obtain hl | hl := handleConcludedAttempt_log_of_not_failed hf
  · exact ⟨[.attemptState i (c.state i) .canceled c.raceComplete],
      by simp [Racing.registerCanceledAttempt, hl], by simp [Entry.IsCancel]⟩
  · exact ⟨[.timerClose, .attemptState i (c.state i) .canceled c.raceComplete],
      by simp [Racing.registerCanceledAttempt, hl], by simp [Entry.IsCancel]⟩

theorem Decided.cancelAttempt_log (h : Decided w c) :
    LogGrows Entry.IsCancel c (Racing.cancelAttempt w c i) := by
  unfold Racing.cancelAttempt
  split_ifs with hw
  · exact .refl _ c
  · cases hs : c.state i with
    | connecting =>
      exact ⟨[.closeGroup i, .attemptState i .connecting .closing c.raceComplete],
        by simp [hs], by simp [Entry.IsCancel]⟩
    | pending => exact h.registerCanceledAttempt_log hw
    | closing => exact .refl _ c
    | succeeded => exact .refl _ c
    | failed => exact .refl _ c
    | canceled => exact .refl _ c

variable {l : List Nat}

theorem cancelLoop_state :
    (l.foldl (cancelAttempt w) c).state j =
      if j ∈ l ∧ j ≠ w then (c.state j).cancel else c.state j := by
  induction l generalizing c with
  | nil => simp
  | cons i l ih =>
    rw [List.foldl_cons, ih, cancelAttempt_state]
    by_cases hj : j = i <;> by_cases hw : j = w <;> by_cases hl : j ∈ l <;> simp_all

theorem cancelLoop_connection :
    ((l.foldl (cancelAttempt w) c).attempts j).connection =
      if j ∈ l ∧ j ≠ w ∧ c.state j = .connecting then
        (c.attempts j).connection.map Callbacks.setClosed
      else (c.attempts j).connection := by
  induction l generalizing c with
  | nil => simp
  | cons i l ih =>
    rw [List.foldl_cons, ih, cancelAttempt_state, cancelAttempt_connection]
    by_cases hj : j = i <;> by_cases hw : j = w <;> by_cases hl : j ∈ l <;> simp_all

theorem cancelLoop_frame :
    (l.foldl (cancelAttempt w) c).numAttempts = c.numAttempts ∧
      (l.foldl (cancelAttempt w) c).nextAttemptIndex = c.nextAttemptIndex ∧
      (l.foldl (cancelAttempt w) c).winningAttemptIndex = c.winningAttemptIndex ∧
      (l.foldl (cancelAttempt w) c).userCallbacks = c.userCallbacks ∧
      (l.foldl (cancelAttempt w) c).freed = c.freed := by
  induction l generalizing c with
  | nil => simp
  | cons i l ih =>
    have hstep := cancelAttempt_frame (c := c) (i := i) (w := w)
    have hloop := ih (c := cancelAttempt w c i)
    simp_all

theorem Decided.cancelLoop (h : Decided w c) (hl : ∀ i ∈ l, i < c.numAttempts) :
    Decided w (l.foldl (Racing.cancelAttempt w) c) ∧
      LogGrows Entry.IsCancel c (l.foldl (Racing.cancelAttempt w) c) := by
  induction l generalizing c with
  | nil => exact ⟨h, .refl _ c⟩
  | cons i l ih =>
    have hi := h.cancelAttempt (hl i (by simp))
    have hnum := (cancelAttempt_frame (c := c) (i := i) (w := w)).1
    obtain ⟨hd, hlog⟩ := ih hi (fun j hj => by rw [hnum]; exact hl j (by simp [hj]))
    exact ⟨hd, h.cancelAttempt_log.trans hlog⟩

end Cancel

end CTaps.Racing
