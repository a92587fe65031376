import CTaps.Initiate.Model

/-! What a call of `ct_preconnection_initiate` comes to. With a resolver that fails for none of the
endpoints the application is told the outcome once, when everything has settled; and whatever the
resolver does, only eligible candidates are tried, the better ones first. -/

namespace CTaps.Initiate

open Lib
open Gathering (CandidateNode GatherContext Gathers Lookup Orderly Preconnection Resolver
  SelectionProperties)
open Racing (InitOutcome NoRace Setup)

variable {u : Setup} {first : InitOutcome} {call : Call} {es : List Happening}

/-! ### The race that was started -/

theorem not_lastFailure_start {n : Nat} (h : first.isError = true → n + 1 ≠ 1) :
    ¬ Racing.LastFailure
      (Racing.racingContextInitializeAttemptArray (Racing.racingContextCreate u) (n + 1)) first := by
  rintro ⟨_, herror, hothers⟩
  have hn : 1 < n + 1 := by
    have := h herror
    omega
  cases hothers 1 hn Nat.one_ne_zero

structure ToldAtOnce (c : Racing.Context) : Prop extends NoRace c where
  outcomes : c.outcomes = 1
  timerClosing : c.timerClosing = true

theorem toldAtOnce_start (first : InitOutcome) (h : u.userCallbacks.establishmentError = true) :
    ToldAtOnce (Racing.startCandidateRacingOnNodesReady u (some 0) first) := by
  refine ⟨Racing.noRace_start u first, ?_, rfl⟩
  simp [Racing.startCandidateRacingOnNodesReady, Racing.racingContextFree,
    Racing.racingContextCreate, Racing.Context.outcomes, Racing.Entry.isOutcome, h]

theorem ToldAtOnce.step {c : Racing.Context} (h : ToldAtOnce c) (e : Racing.Event) :
    ToldAtOnce (Racing.step c e) := by
  have hno := h.toNoRace.step e
  have hstep : Racing.step c e = c ∨ Racing.step c e = Racing.onTimerCloseFreeContext c := by
    cases e with
    | timer o => exact .inl (if_neg (by simp [h.timerActive]))
    | report i r => exact .inl (if_neg (by simp [h.numAttempts]))
    | timerClosed => exact (ite_eq_or_eq _ _ _).symm
  rcases hstep with heq | heq
  · rwa [heq]
  · rw [heq] at hno ⊢
    refine ⟨hno, ?_, h.timerClosing⟩
    rw [Racing.onTimerCloseFreeContext_log.outcomes_eq, h.outcomes]
    rintro e (rfl | rfl) <;> rfl

theorem outcomes_race (hready : u.userCallbacks.ready = true)
    (herror : u.userCallbacks.establishmentError = true) {n : Nat}
    (hfirst : first.isError = true → n ≠ 1) {events : List Racing.Event}
    (hsteps : AllSteps Racing.step (fun c e => ¬ Racing.StartsLastFailure c e ∧ Racing.Absorbable c e)
      (Racing.startCandidateRacingOnNodesReady u (some n) first) events) :
    (Racing.race u n first events).outcomes ≤ 1 ∧
      (Racing.Settled (Racing.race u n first events) →
        (Racing.race u n first events).outcomes = 1 ∧
          (Racing.race u n first events).timerClosing = true) := by
  cases n with
  | zero =>
    have htold := run_invariant_of_step (I := ToldAtOnce) (fun _ e h => h.step e)
      (toldAtOnce_start first herror) events
    exact ⟨Nat.le_of_eq htold.outcomes, fun _ => ⟨htold.outcomes, htold.timerClosing⟩⟩
  | succ n =>
    have honce := run_invariant (I := Racing.ReportedOnce) (fun _ _ h he => h.step he.1)
      (Racing.reportedOnce_start u n (not_lastFailure_start hfirst)) hsteps
    have habsorbed := run_invariant (I := Racing.Absorbed) (fun _ _ h he => h.step he.2)
      (Racing.absorbed_start u n first) hsteps
    have htold := run_invariant_of_step (I := Racing.Told) (fun _ e h => h.step e)
      (Racing.told_start (o := first) u n hready herror) events
    exact ⟨honce.le_one, fun h => Racing.outcomes_of_settled honce htold habsorbed h⟩

/-! ### The outcome -/

theorem exists_candidates (horderly : Orderly call.resolver call.precon)
    (hremote : call.precon.remoteEndpoints ≠ []) :
    ∃ all, ∀ es, ((call.after es).1.waiting ≠ [] → (call.after es).1.context.ready = []) ∧
      ((call.after es).1.waiting = [] → ∃ candidates : List CandidateNode,
        (call.after es).1.context.ready = [some candidates] ∧ candidates.Perm all) := by
  obtain ⟨base, _, _, hphase⟩ := Gathering.gather_phase horderly hremote
  apply Exists.intro
  intro es
  obtain ⟨done, hcontext, hperm⟩ := exists_gather call es
  obtain ⟨hawaiting, hfinished⟩ := hphase done _ hperm
  rw [hcontext]
  exact ⟨fun h => (hawaiting h).unreported.ready, fun h => (hfinished h).ready⟩

theorem initiate_eq (call : Call) (horderly : Orderly call.resolver call.precon)
    (hremote : call.precon.remoteEndpoints ≠ []) :
    initiate (some call.setup) call.resolver (some call.precon) call.first
      = (some call.started, some 0) := by
  obtain ⟨_, _, hreturn, _⟩ := Gathering.gather_phase horderly hremote
  have hlength : call.precon.remoteEndpoints.length ≠ 0 := fun h =>
    hremote (List.length_eq_zero_iff.mp h)
  rw [initiate, if_neg hlength]
  exact congrArg (Prod.mk _) hreturn

structure Concludes (call : Call) (es : List Happening) : Prop where
  never_two : outcomes (call.after es) ≤ 1
  settled : Settled (call.after es) → outcomes (call.after es) = 1 ∧
    ∃ c, (call.after es).2 = some c ∧ c.timerClosing = true

theorem concludes (horderly : Orderly call.resolver call.precon)
    (hremote : call.precon.remoteEndpoints ≠ [])
    (hready : call.setup.userCallbacks.ready = true)
    (herror : call.setup.userCallbacks.establishmentError = true)
    (hfirst : call.first.isError = true → (handedOver call.started.1.context).length ≠ 1)
    (hsteps : AllSteps call.machine.step call.Proper call.started es) : Concludes call es := by
  obtain ⟨_, hphases⟩ := exists_candidates horderly hremote
  obtain ⟨hawaiting, hfinished⟩ := hphases es
  cases hrace : (call.after es).2 with
  | none =>
    refine ⟨?_, fun hsettled => ?_⟩
    · rw [outcomes, hrace]
      exact Nat.zero_le 1
    · obtain ⟨candidates, hready', _⟩ := hfinished hsettled.1
      rw [ready_of_no_race hrace] at hready'
      cases hready'
  | some c =>
    obtain ⟨candidates, first', events, hhead, rfl, hproper⟩ := exists_race hrace
    obtain ⟨hfirst', hevents⟩ := hproper hfirst hsteps
    -- something was handed over, so nothing is in flight, and it is an array
    obtain ⟨array, harray, _⟩ := hfinished <| by
      by_contra hwaiting
      rw [hawaiting hwaiting] at hhead
      cases hhead
    rw [harray, List.head?_cons, Option.some.injEq] at hhead
    subst hhead
    obtain ⟨hle, hsettles⟩ := outcomes_race hready herror hfirst' hevents
    refine ⟨?_, fun hsettled => ?_⟩
    · rw [outcomes, hrace]
      exact hle
    · obtain ⟨hone, hclosing⟩ := hsettles (hsettled.2 _ hrace)
      rw [outcomes, hrace]
      exact ⟨hone, _, rfl, hclosing⟩

/-- If every endpoint can be resolved, both callbacks are set and the run is proper, the call
returns zero, the application is never told two outcomes, and when everything has settled it has
been told one and the racing context is being closed. -/
theorem initiate_concludes (call : Call) (es : List Happening)
    (horderly : Orderly call.resolver call.precon) (hremote : call.precon.remoteEndpoints ≠ [])
    (hready : call.setup.userCallbacks.ready = true)
    (herror : call.setup.userCallbacks.establishmentError = true)
    (hfirst : call.first.isError = true → (handedOver call.started.1.context).length ≠ 1)
    (hsteps : AllSteps call.machine.step call.Proper call.started es) :
    initiate (some call.setup) call.resolver (some call.precon) call.first
        = (some call.started, some 0) ∧
      outcomes (call.after es) ≤ 1 ∧
      (Settled (call.after es) → outcomes (call.after es) = 1 ∧
        ∃ c, (call.after es).2 = some c ∧ c.timerClosing = true) := by
  obtain ⟨hle, hsettled⟩ := concludes horderly hremote hready herror hfirst hsteps
  exact ⟨initiate_eq call horderly hremote, hle, hsettled⟩

def hostCall : Call :=
  ⟨plain {}, Gathering.oneLocal (.async [⟨443, none, none, .inet 0x0A000002#32 443⟩]),
    Gathering.oneRemote (some "host") .unspec, .pending⟩

def thirdWins : List Happening :=
  (hostCall.started.1.waiting.reverse.map fun l => .inl ⟨l, .failed⟩) ++
    [.inr (.timer .pending), .inr (.timer .pending), .inr (.report 2 (.ready 0 false)),
      .inr (.report 1 .closed)]

theorem initiate_concludes_thirdWins : outcomes (hostCall.after thirdWins) = 1 :=
  ((initiate_concludes hostCall thirdWins ⟨by decide, fun _ _ _ _ => rfl⟩ (by decide) rfl rfl
    (by decide +kernel) (by decide +kernel)).2.2 (by decide +kernel)).1

/-! The two functions of the application. -/

section Functions

variable (resolver : Resolver) (precon : Preconnection) (callbacks : Racing.UserCallbacks)
  (horderly : Orderly resolver precon) (hremote : precon.remoteEndpoints ≠ [])
  (hready : callbacks.ready = true) (herror : callbacks.establishmentError = true)
include horderly hremote hready herror

theorem preconnectionInitiate_concludes
    (hfirst : first.isError = true → (handedOver
      (Call.started ⟨plain callbacks, resolver, precon, first⟩).1.context).length ≠ 1)
    (hsteps : AllSteps (Call.machine ⟨plain callbacks, resolver, precon, first⟩).step
      (Call.Proper ⟨plain callbacks, resolver, precon, first⟩)
      (Call.started ⟨plain callbacks, resolver, precon, first⟩) es) :
    preconnectionInitiate resolver (some precon) (some callbacks) first
        = (some (Call.started ⟨plain callbacks, resolver, precon, first⟩), some 0) ∧
      Concludes ⟨plain callbacks, resolver, precon, first⟩ es :=
  ⟨initiate_eq ⟨plain callbacks, resolver, precon, first⟩ horderly hremote,
    concludes horderly hremote hready herror hfirst hsteps⟩

/-- Whether there is a message, and whether it goes as early data or after the connection is ready,
makes no difference to the outcome. -/
theorem preconnectionInitiateWithSend_concludes (message : Bool) (context : Option Bool)
    (hfirst : first.isError = true → (handedOver (Call.started
      ⟨withMessage callbacks message context, resolver, precon, first⟩).1.context).length ≠ 1)
    (hsteps : AllSteps
      (Call.machine ⟨withMessage callbacks message context, resolver, precon, first⟩).step
      (Call.Proper ⟨withMessage callbacks message context, resolver, precon, first⟩)
      (Call.started ⟨withMessage callbacks message context, resolver, precon, first⟩) es) :
    preconnectionInitiateWithSend resolver (some precon) (some callbacks) message context first
        = (some (Call.started ⟨withMessage callbacks message context, resolver, precon, first⟩),
          some 0) ∧
      Concludes ⟨withMessage callbacks message context, resolver, precon, first⟩ es :=
  ⟨initiate_eq ⟨withMessage callbacks message context, resolver, precon, first⟩
    horderly hremote, concludes horderly hremote hready herror hfirst hsteps⟩

end Functions

/-! ### The candidates that are tried -/

def Call.tried (call : Call) (es : List Happening) : List CandidateNode :=
  ((call.after es).2.elim [] Racing.Context.starts).filterMap ((call.candidates es)[·]?)

def Call.untried (call : Call) (es : List Happening) : List CandidateNode :=
  (call.candidates es).drop (call.tried es).length

def Eligible (resolver : Resolver) (precon : Preconnection) (a : CandidateNode) : Prop :=
  ∃ pair ∈ Gathering.candidatePairs resolver precon, a.localEndpoint = some pair.1 ∧
    a.protocolCandidate = some pair.2 ∧ Gathering.viable precon.selectionProperties a = true

theorem filterMap_range_getElem? {α : Type*} (l : List α) (k : Nat) :
    (List.range k).filterMap (l[·]?) = l.take k := by
  induction k with
  | zero => rfl
  | succ k ih =>
    rw [List.range_succ, List.filterMap_append, ih, List.take_add_one]
    rfl

theorem handedOver_sorted {resolver : Resolver} {precon : Preconnection} {g : GatherContext}
    (h : Gathers resolver precon g) :
    (handedOver g).Pairwise
        (fun a b => b.score precon.selectionProperties ≤ a.score precon.selectionProperties) ∧
      ∀ a ∈ handedOver g, Eligible resolver precon a := by
  rw [handedOver]
  cases hready : g.ready.head?.join with
  | none => exact ⟨List.Pairwise.nil, fun a ha => absurd ha List.not_mem_nil⟩
  | some candidates =>
    have hmem : some candidates ∈ g.ready := List.mem_of_head? (Option.join_eq_some_iff.mp hready)
    obtain ⟨base, htree, hcoherent⟩ := h.coherent hmem
    obtain ⟨t, hprune, rfl⟩ := hcoherent.delivered candidates hmem
    have hleaves : ∀ a ∈ Gathering.getDeepCopyLeafNodes g.localOnly t,
        Eligible resolver precon a := by
      intro a ha
      obtain ⟨pair, hpair, hlocal, hprotocol, hviable, _⟩ := hcoherent.of_mem_leaves htree hprune ha
      exact ⟨pair, hpair, hlocal, hprotocol, hviable⟩
    have hsome : ∀ a ∈ Gathering.getDeepCopyLeafNodes g.localOnly t,
        a.protocolCandidate.isSome = true := by
      intro a ha
      obtain ⟨_, _, _, hprotocol, _⟩ := hleaves a ha
      rw [hprotocol]
      rfl
    refine ⟨?_, fun a ha => hleaves a ((Gathering.inOrder_sortCandidates hsome).perm.subset ha)⟩
    show (Gathering.sortCandidates _ _).Pairwise _
    rw [Gathering.sortCandidates_eq_byKey hsome]
    exact byKey_pairwise _ _

theorem candidates_sorted (call : Call) (es : List Happening) :
    (call.candidates es).Pairwise (fun a b => call.score b ≤ call.score a) ∧
      ∀ a ∈ call.candidates es, Eligible call.resolver call.precon a := by
  obtain ⟨done, hcontext, hperm⟩ := exists_gather call es
  apply handedOver_sorted
  exact hcontext ▸ .full done fun l hl => hperm.subset (List.mem_append_left _ hl)

/-- However the lookups complete, the race gets an equally good candidate at each place. -/
theorem scores_independent_of_order (call : Call) (es fs : List Happening)
    (horderly : Orderly call.resolver call.precon) (hremote : call.precon.remoteEndpoints ≠ [])
    (hes : (call.after es).1.waiting = []) (hfs : (call.after fs).1.waiting = []) :
    (call.candidates es).map call.score = (call.candidates fs).map call.score := by
  obtain ⟨all, hall⟩ := exists_candidates horderly hremote
  have hperm : ∀ es, (call.after es).1.waiting = [] → (call.candidates es).Perm all := by
    intro es h
    obtain ⟨candidates, hready, hcandidates⟩ := (hall es).2 h
    rw [Call.candidates, handedOver, hready]
    exact hcandidates
  have hsorted : ∀ es, ((call.candidates es).map call.score).Pairwise (· ≥ ·) :=
    fun es => List.pairwise_map.mpr (candidates_sorted call es).1
  exact (((hperm es hes).trans (hperm fs hfs).symm).map _).eq_of_pairwise
    (fun a b _ _ hab hba => le_antisymm hba hab) (hsorted es) (hsorted fs)

theorem scores_independent_of_order_host :
    (hostCall.candidates (hostCall.started.1.waiting.map fun l => .inl ⟨l, .pending⟩)).map
        hostCall.score
      = (hostCall.candidates thirdWins).map hostCall.score :=
  scores_independent_of_order hostCall _ _ ⟨by decide, fun _ _ _ _ => rfl⟩ (by decide)
    (by decide +kernel) (by decide +kernel)

theorem tried_eq_take (call : Call) (es : List Happening) :
    ∃ k ≤ (call.candidates es).length, call.tried es = (call.candidates es).take k := by
  cases hrace : (call.after es).2 with
  | none =>
    refine ⟨0, Nat.zero_le _, ?_⟩
    rw [Call.tried, hrace]
    rfl
  | some c =>
    obtain ⟨candidates, first', events, hhead, rfl, _⟩ := exists_race hrace
    cases candidates with
    | none =>
      refine ⟨0, Nat.zero_le _, ?_⟩
      rw [Call.tried, Call.candidates, handedOver, hhead]
      exact List.filterMap_eq_nil_iff.mpr fun _ _ => rfl
    | some candidates =>
      obtain ⟨k, _, hk⟩ :=
        (Racing.startsInOrder_race call.setup candidates.length first' events).initial
      refine ⟨min k _, Nat.min_le_right k _, ?_⟩
      rw [Call.tried, hrace, ← List.take_eq_take_min]
      exact (congrArg (List.filterMap _) hk).trans (filterMap_range_getElem? _ k)

/-- At any point of any run, whatever the resolver does: the candidates tried so far are eligible,
and none of them was tried before a better one, be it tried later or not at all. -/
theorem tried_in_preference_order (call : Call) (es : List Happening) :
    call.tried es ++ call.untried es = call.candidates es ∧
      (∀ a ∈ call.tried es, Eligible call.resolver call.precon a) ∧
      (call.tried es).Pairwise (fun a b => call.score b ≤ call.score a) ∧
      ∀ a ∈ call.tried es, ∀ b ∈ call.untried es, call.score b ≤ call.score a := by
  obtain ⟨hsorted, heligible⟩ := candidates_sorted call es
  obtain ⟨k, hle, hk⟩ := tried_eq_take call es
  have happend : call.tried es ++ call.untried es = call.candidates es := by
    rw [Call.untried, hk, List.length_take, Nat.min_eq_left hle, List.take_append_drop]
  rw [← happend, List.pairwise_append] at hsorted
  refine ⟨happend, fun a ha => heligible a ?_, hsorted.1, hsorted.2.2⟩
  rw [← happend]
  exact List.mem_append_left _ ha

end CTaps.Initiate
