import CTaps.Gathering.Delivered
import CTaps.Lib.Handover
import CTaps.Racing.Preference

/-! A call of `ct_preconnection_initiate` with everything that it sets going. Gathering hands its
candidates over to a race as soon as the last lookup has completed, which may be within the call;
completions and the events of the race come in any order after that. -/

namespace CTaps.Initiate

open Lib
open Gathering (CandidateNode GatherContext Lookup Preconnection Resolver SelectionProperties)
open Racing (InitOutcome Setup UserCallbacks)

structure Gatherer where
  context : GatherContext
  waiting : List Lookup

structure Completion where
  lookup : Lookup
  first : InitOutcome

abbrev Happening := Completion ⊕ Racing.Event

def complete (properties : SelectionProperties) (g : Gatherer) (d : Completion) : Gatherer :=
  if d.lookup ∈ g.waiting then
    ⟨Gathering.onUvGetaddrinfoCb properties g.context d.lookup, g.waiting.erase d.lookup⟩
  else g

def handedOver (g : GatherContext) : List CandidateNode := g.ready.head?.join.getD []

def onReady (u : Setup) (g : GatherContext) (first : InitOutcome) : Option Racing.Context :=
  g.ready.head?.map fun candidates =>
    Racing.startCandidateRacingOnNodesReady u (candidates.map List.length) first

structure Call where
  setup : Setup
  resolver : Resolver
  precon : Preconnection
  first : InitOutcome

abbrev Initiation := Gatherer × Option Racing.Context

/-- `start_candidate_racing`, and what it returns unless the process is gone. -/
def startCandidateRacing (call : Call) : Initiation × Option Int :=
  let r := Gathering.getOrderedCandidateNodes call.resolver call.precon
  ((⟨r.1, r.1.outstanding⟩, onReady call.setup r.1 call.first), r.2)

def einval : Int := 22

/-- The common part of the two functions that initiate a connection. A NULL argument is `none`. -/
def initiate (u : Option Setup) (resolver : Resolver) (precon : Option Preconnection)
    (first : InitOutcome) : Option Initiation × Option Int :=
  match precon, u with
  | some precon, some u =>
    if precon.remoteEndpoints.length = 0 then (none, some (-einval))
    else
      let r := startCandidateRacing ⟨u, resolver, precon, first⟩
      (some r.1, r.2)
  | _, _ => (none, some (-einval))

theorem noEarlyData : false = true → false = true := id

def plain (callbacks : UserCallbacks) : Setup :=
  { userCallbacks := callbacks, earlyData_context := noEarlyData }

def preconnectionInitiate (resolver : Resolver) (precon : Option Preconnection)
    (callbacks : Option UserCallbacks) (first : InitOutcome) : Option Initiation × Option Int :=
  initiate (callbacks.map plain) resolver precon first

/-- `context` is whether the message context, if there is one, is safely replayable: only then the
message is handed to the attempts as early data. -/
def withMessage (callbacks : UserCallbacks) (message : Bool) (context : Option Bool) : Setup where
  userCallbacks := callbacks
  initialMessage := message
  initialMessageContext := context.isSome
  shouldTryEarlyData := context.getD false
  earlyData_context := by cases context <;> simp

def preconnectionInitiateWithSend (resolver : Resolver) (precon : Option Preconnection)
    (callbacks : Option UserCallbacks) (message : Bool) (context : Option Bool)
    (first : InitOutcome) : Option Initiation × Option Int :=
  initiate (callbacks.map (withMessage · message context)) resolver precon first

namespace Call

variable (call : Call)

def machine : Handover Gatherer Racing.Context Completion Racing.Event where
  first := complete call.precon.selectionProperties
  second := Racing.step
  start g d := onReady call.setup g.context d.first

def score (a : CandidateNode) : ℕ ×ₗ ℕ := a.score call.precon.selectionProperties

def started : Initiation := (startCandidateRacing call).1

def after (es : List Happening) : Initiation := run call.machine.step call.started es

def candidates (es : List Happening) : List CandidateNode :=
  handedOver (call.after es).1.context

/-- The guard of a run: a single candidate does not fail at its start, no attempt fails at its start
after all others have failed, and a terminal report finds callbacks that take note of it. -/
def Proper (s : Initiation) : Happening → Prop
  | .inl d => d.first.isError = true → (handedOver (call.machine.first s.1 d).context).length ≠ 1
  | .inr e => ∀ c ∈ s.2, ¬ Racing.StartsLastFailure c e ∧ Racing.Absorbable c e

instance (s : Initiation) (e : Happening) : Decidable (call.Proper s e) := by
  unfold Proper
  split <;> infer_instance

end Call

def outcomes (s : Initiation) : Nat := s.2.elim 0 Racing.Context.outcomes

def Settled (s : Initiation) : Prop := s.1.waiting = [] ∧ ∀ c ∈ s.2, Racing.Settled c
deriving Decidable

/-! ### Gathering alone -/

section Gathering

variable {properties : SelectionProperties}

theorem run_complete (g : Gatherer) (ds : List Completion) :
    ∃ done, (run (complete properties) g ds).context
        = run (Gathering.onUvGetaddrinfoCb properties) g.context done ∧
      (done ++ (run (complete properties) g ds).waiting).Perm g.waiting := by
  induction ds generalizing g with
  | nil => exact ⟨[], rfl, List.Perm.refl _⟩
  | cons d ds ih =>
    rw [run_cons]
    by_cases hd : d.lookup ∈ g.waiting
    · rw [complete, if_pos hd]
      obtain ⟨done, hcontext, hperm⟩ := ih
        ⟨Gathering.onUvGetaddrinfoCb properties g.context d.lookup, g.waiting.erase d.lookup⟩
      refine ⟨d.lookup :: done, hcontext, ?_⟩
      exact (hperm.cons d.lookup).trans (List.perm_cons_erase hd).symm
    · rw [complete, if_neg hd]
      exact ih g

theorem exists_gather (call : Call) (es : List Happening) :
    ∃ done, (call.after es).1.context = Gathering.gather call.resolver call.precon done ∧
      (done ++ (call.after es).1.waiting).Perm
        (Gathering.getOrderedCandidateNodes call.resolver call.precon).1.outstanding := by
  rw [Call.after, Handover.run_fst]
  exact run_complete _ _

open Gathering in
theorem ready_onUvGetaddrinfoCb (properties : SelectionProperties) (g : GatherContext) (l : Lookup) :
    ∃ more, (onUvGetaddrinfoCb properties g l).ready = g.ready ++ more := by
  have hcomplete : ∀ g : GatherContext,
      ∃ more, (buildCandidateTreeIsCompleteCb properties g).ready = g.ready ++ more := by
    intro g
    rw [buildCandidateTreeIsCompleteCb]
    split
    · exact ⟨[none], rfl⟩
    · split
      · exact ⟨[], (List.append_nil _).symm⟩
      · exact ⟨_, rfl⟩
  have hresolve : ∀ addresses,
      ∃ more, (remoteEndpointResolveCb properties l.parent addresses g).ready = g.ready ++ more := by
    intro addresses
    rw [remoteEndpointResolveCb, GatherContext.use]
    split_ifs
    · exact ⟨[], (List.append_nil _).symm⟩
    · exact ⟨[], (List.append_nil _).symm⟩
    · dsimp only
      split
      · exact hcomplete _
      · exact ⟨[], (List.append_nil _).symm⟩
  rw [onUvGetaddrinfoCb]
  split
  · exact ⟨[], (List.append_nil _).symm⟩
  · split
    · exact hresolve _
    · split
      · exact ⟨[], (List.append_nil _).symm⟩
      · exact hresolve []

theorem head_ready_run {g : Gatherer} {candidates : Option (List CandidateNode)}
    (h : g.context.ready.head? = some candidates) (ds : List Completion) :
    (run (complete properties) g ds).context.ready.head? = some candidates := by
  refine run_invariant_of_step (I := fun g : Gatherer => g.context.ready.head? = some candidates)
    (fun g d hg => ?_) h ds
  rw [complete]
  split
  · obtain ⟨more, hmore⟩ := ready_onUvGetaddrinfoCb properties g.context d.lookup
    rw [hmore, List.head?_append, hg]
    rfl
  · exact hg

end Gathering

/-! ### The race -/

section Race

variable {call : Call} {es : List Happening}

theorem ready_of_no_race (h : (call.after es).2 = none) : (call.after es).1.context.ready = [] := by
  have hnone : ∀ (g : GatherContext) (o : InitOutcome), onReady call.setup g o = none → g.ready = [] := by
    intro g o hg
    rwa [onReady, Option.map_eq_none_iff, List.head?_eq_none_iff] at hg
  refine run_invariant_of_step (I := fun s : Initiation => s.2 = none → s.1.context.ready = [])
    (fun s e hs hstep => ?_) (hnone _ call.first) es h
  cases e with
  | inl d =>
    rw [Handover.step, Option.or_eq_none_iff] at hstep
    exact hnone _ d.first hstep.2
  | inr e =>
    rw [Handover.step, Option.map_eq_none_iff] at hstep
    exact hs hstep

theorem exists_race {c : Racing.Context} (h : (call.after es).2 = some c) :
    ∃ candidates first' events,
      (call.after es).1.context.ready.head? = some candidates ∧
      c = run Racing.step (Racing.startCandidateRacingOnNodesReady call.setup
        (candidates.map List.length) first') events ∧
      ((call.first.isError = true → (handedOver call.started.1.context).length ≠ 1) →
        AllSteps call.machine.step call.Proper call.started es →
        (first'.isError = true → (candidates.getD []).length ≠ 1) ∧
        AllSteps Racing.step (fun c e => ¬ Racing.StartsLastFailure c e ∧ Racing.Absorbable c e)
          (Racing.startCandidateRacingOnNodesReady call.setup (candidates.map List.length) first')
          events) := by
  have hguard : ∀ (g : Gatherer) (c : Racing.Context) (e : Racing.Event),
      call.Proper (g, some c) (.inr e) → ¬ Racing.StartsLastFailure c e ∧ Racing.Absorbable c e :=
    fun _ c _ hp => hp c rfl
  have hlength : ∀ {g : GatherContext} {candidates}, g.ready.head? = some candidates →
      handedOver g = candidates.getD [] := fun hready =>
    congrArg (fun o => (Option.join o).getD []) hready
  have hgathered := Handover.run_fst (H := call.machine) call.started es
  cases hstart : call.started.2 with
  | some c₀ =>
    -- the call itself has handed over
    obtain ⟨candidates, hready, rfl⟩ := Option.map_eq_some_iff.mp hstart
    have hrun : (call.after es).2 = _ := Handover.run_snd_of_some hstart
    refine ⟨candidates, call.first, Handover.rights es, ?_, ?_, fun hfirst hes => ⟨?_, ?_⟩⟩
    · rw [Call.after, hgathered]
      exact head_ready_run hready _
    · exact Option.some.inj (h.symm.trans hrun)
    · exact fun ho => hlength hready ▸ hfirst ho
    · exact Handover.allSteps_second hguard hstart hes
  | none =>
    obtain ⟨pre, d, post, c₀, rfl, hpre, hc₀, hc⟩ := Handover.exists_start hstart h
    obtain ⟨candidates, hready, rfl⟩ := Option.map_eq_some_iff.mp hc₀
    have hlefts : Handover.lefts (pre ++ .inl d :: post)
        = Handover.lefts pre ++ [d] ++ Handover.lefts post := by
      simp [Handover.lefts, List.filterMap_append]
    refine ⟨candidates, d.first, Handover.rights post, ?_, hc, fun _ hes => ?_⟩
    · rw [Call.after, hgathered, hlefts, run_append]
      exact head_ready_run hready _
    · obtain ⟨_, hd, hpost⟩ := allSteps_append.mp hes
      have hstep : (call.machine.step (run call.machine.step call.started pre) (.inl d)).2 = some
          (Racing.startCandidateRacingOnNodesReady call.setup (candidates.map List.length)
            d.first) := by
        rw [Handover.step, hpre, Handover.run_fst]
        rw [run_append] at hc₀
        exact hc₀
      refine ⟨?_, Handover.allSteps_second hguard hstep hpost⟩
      rw [Call.Proper, Handover.run_fst] at hd
      rw [run_append] at hready
      exact fun ho => hlength hready ▸ hd ho

end Race

end CTaps.Initiate
