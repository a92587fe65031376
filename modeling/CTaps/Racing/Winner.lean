import CTaps.Racing.Steps

/-! A race has a single winner, whatever order timers and reports come in. -/

namespace CTaps.Racing

variable {c : Context}

structure SingleWinner (c : Context) : Prop where
  unique : ∀ i j, HasSucceeded c i → HasSucceeded c j → i = j
  winning : ∀ i, HasSucceeded c i → c.winningAttemptIndex = i
  /-- The user's `ready` gets the connection of the winner, with the user's callbacks on it. -/
  userReady : ∀ i callbacks, .userReady i callbacks ∈ c.log →
    HasSucceeded c i ∧ callbacks = some .user
  /-- So does every later report, `ready` included, that goes to the user directly. -/
  forwarded : ∀ i r, .forwarded i r ∈ c.log → HasSucceeded c i
  noLateStart : ∀ i raceComplete, .attemptState i .pending .connecting raceComplete ∈ c.log →
    raceComplete = false
  /-- When `racing_on_attempt_ready` of the winner returns nobody else is in the race. -/
  cancelled : ∀ i states, .readyReturned i states ∈ c.log →
    HasSucceeded c i ∧ ∀ j, j ≠ i → states[j]? ≠ some .pending ∧ states[j]? ≠ some .connecting

theorem singleWinner_of_logOk_none (h : ∀ e ∈ c.log, e.Ok none) : SingleWinner c := by
  have hno : ∀ i, ¬ HasSucceeded c i := by
    rintro i ⟨old, rc, hmem⟩
    exact Option.some_ne_none i ((h _ hmem).1 rfl).symm
  refine ⟨fun i _ hi => absurd hi (hno i), fun i hi => absurd hi (hno i), ?_, ?_, ?_, ?_⟩
  · intro i cb hmem
    exact absurd (h _ hmem).1.symm (Option.some_ne_none i)
  · intro i r hmem
    exact absurd (h _ hmem).symm (Option.some_ne_none i)
  · exact fun i rc hmem => (h _ hmem).2 rfl rfl
  · intro i states hmem
    exact absurd (h _ hmem).1.symm (Option.some_ne_none i)

theorem Won.singleWinner {w : Nat} (h : Won w c) : SingleWinner c := by
  have hwin : ∀ i, HasSucceeded c i → i = w := by
    rintro i ⟨old, rc, hmem⟩
    exact (Option.some.inj ((h.logOk _ hmem).1 rfl)).symm
  refine ⟨fun i j hi hj => (hwin i hi).trans (hwin j hj).symm, ?_, ?_, ?_, ?_, ?_⟩
  · intro i hi
    rw [hwin i hi]
    exact h.winning
  · intro i cb hmem
    obtain ⟨hi, hcb⟩ := h.logOk _ hmem
    exact ⟨Option.some.inj hi ▸ h.logged, hcb⟩
  · intro i r hmem
    exact Option.some.inj (h.logOk _ hmem) ▸ h.logged
  · exact fun i rc hmem => (h.logOk _ hmem).2 rfl rfl
  · intro i states hmem
    obtain ⟨hi, hstates⟩ := h.logOk _ hmem
    exact ⟨Option.some.inj hi ▸ h.logged, hstates⟩

theorem InPhase.singleWinner (h : InPhase c) : SingleWinner c := by
  rcases h with h | h | ⟨w, h⟩
  · exact singleWinner_of_logOk_none h.logOk
  · exact singleWinner_of_logOk_none h.logOk
  · exact h.singleWinner

structure NoRace (c : Context) : Prop where
  numAttempts : c.numAttempts = 0
  timerActive : c.timerActive = false
  logOk : ∀ e ∈ c.log, e.Ok none

theorem noRace_start (u : Setup) (o : InitOutcome) :
    NoRace (startCandidateRacingOnNodesReady u (some 0) o) := by
  refine ⟨rfl, rfl, fun e he => ?_⟩
  cases hu : u.userCallbacks.establishmentError <;>
    simp [startCandidateRacingOnNodesReady, racingContextFree, racingContextCreate, hu] at he
  · rcases he with rfl
    trivial
  · rcases he with rfl | rfl <;> trivial

theorem NoRace.step (h : NoRace c) (e : Event) : NoRace (step c e) := by
  cases e with
  | timer o => simpa [Racing.step, h.timerActive] using h
  | report i r => simpa [Racing.step, h.numAttempts] using h
  | timerClosed =>
    simp only [Racing.step]
    split_ifs
    · exact ⟨h.numAttempts, h.timerActive, onTimerCloseFreeContext_logOk h.logOk⟩
    · exact h

/-- In every reachable state at most one attempt has succeeded, it is the recorded winner, only its
connection reaches the user, no attempt is started late, and the others were called off before the
user hears of it. -/
theorem race_singleWinner (u : Setup) (n : Nat) (o : InitOutcome) (es : List Event) :
    SingleWinner (race u n o es) := by
  cases n with
  | zero =>
    have h : NoRace (race u 0 o es) :=
      Lib.run_invariant_of_step (fun _ e h => h.step e) (noRace_start u o) es
    exact singleWinner_of_logOk_none h.logOk
  | succ n => exact (inPhase_race u n o es).singleWinner

end CTaps.Racing
