import CTaps.Attempts.Start
import CTaps.Gathering.Report
import CTaps.Racing.Keeps

/-! The preconnection while its connection is being made. Gathering and the race keep a pointer to
the caller's object: its selection properties are read when the last lookup has completed, the rest
at the start of every attempt. A caller that changes or frees the object before the last of these
reads changes what the library does; one that waits does not. -/

namespace CTaps.Attempts

open Lib
open Gathering (Lookup GatherContext CandidateNode Resolver SelectionProperties)
open Racing (InitOutcome)

/-! ### The caller's object and what is made of it -/

structure Contents where
  localEndpoints : List Gathering.LocalEndpoint
  remoteEndpoints : List Gathering.RemoteEndpoint
  transportProperties : SelectionProperties
  /-- The values of the parameters that are set. -/
  securityParameters : Option (SecurityProperty → Option Cell)
  framerImpl : Option Framer

def Contents.alpns (contents : Contents) : List String :=
  match contents.securityParameters.bind fun sec => sec .alpn with
  | some (.strings l) => l
  | _ => []

def Contents.gathering (contents : Contents) : Gathering.Preconnection :=
  ⟨contents.localEndpoints, contents.remoteEndpoints, contents.alpns,
    contents.transportProperties⟩

structure Attempt where
  index : Nat
  transportProperties : SelectionProperties
  securityParameters : Option (SecurityProperty → Option Cell)
  framerImpl : Option Framer

structure Library where
  gather : GatherContext
  candidates : List CandidateNode
  race : Option Racing.Context
  attempts : List Attempt
  /-- Freed memory was read: nothing is known of what follows. -/
  undefined : Bool

structure World where
  contents : Contents
  freed : Bool
  library : Library

def startAttempt (w : World) (index : Nat) : World :=
  if w.freed then { w with library := { w.library with undefined := true } }
  else
    { w with library := { w.library with attempts := w.library.attempts ++
      [⟨index, w.contents.transportProperties, w.contents.securityParameters,
        w.contents.framerImpl⟩] } }

def setRace (w : World) (c : Racing.Context) : World :=
  { w with library := { w.library with race := some c } }

variable (setup : Racing.Setup)

def candidatesReady (w : World) (result : Option (List CandidateNode)) (o : InitOutcome) : World :=
  let w := { w with library := { w.library with candidates := result.getD [] } }
  let w := if w.library.candidates.isEmpty then w else startAttempt w 0
  setRace w (Racing.startCandidateRacingOnNodesReady setup (result.map List.length) o)

def readsProperties (g : GatherContext) (l : Lookup) : Bool :=
  !g.crashed && g.released = 0 && !g.failed && g.pendingResolutions - 1 = 0 &&
    (l.outcome.isSome || l.parent.2.remoteEndpoint.isSome)

def lookupDone (w : World) (l : Lookup) (o : InitOutcome) : World :=
  if w.freed && readsProperties w.library.gather l then
    { w with library := { w.library with undefined := true } }
  else
    let g := Gathering.onUvGetaddrinfoCb w.contents.transportProperties w.library.gather l
    let w' := { w with library := { w.library with gather := g } }
    match g.ready.drop w.library.gather.ready.length with
    | [] => w'
    | result :: _ => candidatesReady setup w' result o

def startsAttempt (c : Racing.Context) : Racing.Event → Bool
  | .timer _ => c.timerActive && !c.raceComplete && c.nextAttemptIndex < c.numAttempts
  | _ => false

def raceEvent (w : World) (e : Racing.Event) : World :=
  match w.library.race with
  | none => w
  | some c =>
    let w := if startsAttempt c e then startAttempt w c.nextAttemptIndex else w
    setRace w (Racing.step c e)

/-- What the caller does with its object, and what happens in the library. A lookup comes with the
outcome of the first start, should it be the last one. -/
inductive Event
  | setFramer (framerImpl : Option Framer)
  | free
  | lookup (l : Lookup) (o : InitOutcome)
  | race (e : Racing.Event)

def Event.isLibrary : Event → Bool
  | .lookup _ _ | .race _ => true
  | .setFramer _ | .free => false

def step (w : World) (e : Event) : World :=
  if w.library.undefined then w
  else
    match e with
    | .setFramer framerImpl =>
      if w.freed then w else { w with contents := { w.contents with framerImpl := framerImpl } }
    | .free => { w with freed := true }
    | .lookup l o => lookupDone setup w l o
    | .race e => raceEvent w e

/-- `ct_preconnection_initiate` and `ct_preconnection_initiate_with_send`, with what they return
if they return. -/
def initiate (resolver : Resolver) (contents : Contents) (o : InitOutcome) : World × Option Int :=
  if contents.remoteEndpoints.length = 0 then
    (⟨contents, false, ⟨.new false, [], none, [], false⟩⟩, some einval)
  else
    let called := Gathering.getOrderedCandidateNodes resolver contents.gathering
    let w : World := ⟨contents, false, ⟨called.1, [], none, [], false⟩⟩
    match called.1.ready with
    | [] => (w, called.2)
    | result :: _ => (candidatesReady setup w result o, called.2)

/-! ### When nothing is read any more -/

def NoneLeft (c : Racing.Context) : Prop :=
  c.raceComplete = true ∨ c.numAttempts ≤ c.nextAttemptIndex
deriving Decidable

def Library.Done (s : Library) : Prop :=
  (s.gather.crashed = true ∨ 0 < s.gather.released) ∧ ∀ c ∈ s.race, NoneLeft c
deriving Decidable

def Harmless (w : World) : Event → Prop
  | .setFramer framerImpl => framerImpl = w.contents.framerImpl ∨ w.library.Done
  | .free => w.library.Done
  | _ => True

theorem NoneLeft.startsAttempt {c : Racing.Context} (h : NoneLeft c) (e : Racing.Event) :
    startsAttempt c e = false := by
  cases e with
  | timer o =>
    rcases h with h | h
    · simp [Attempts.startsAttempt, h]
    · simp [Attempts.startsAttempt, h]
  | report i r => rfl
  | timerClosed => rfl

structure Paced (c c' : Racing.Context) : Prop where
  num : c'.numAttempts = c.numAttempts
  next : c'.nextAttemptIndex = c.nextAttemptIndex
  complete : c.raceComplete = true → c'.raceComplete = true

namespace Paced

variable {c c' c'' : Racing.Context}

theorem refl (c : Racing.Context) : Paced c c := ⟨rfl, rfl, id⟩

theorem trans (h : Paced c c') (h' : Paced c' c'') : Paced c c'' :=
  ⟨h'.num.trans h.num, h'.next.trans h.next, h'.complete ∘ h.complete⟩

theorem noneLeft (h : Paced c c') (hc : NoneLeft c) : NoneLeft c' := by
  rw [NoneLeft, h.num, h.next]
  exact hc.imp_left h.complete

theorem handleConcludedAttempt (h : Paced c c') :
    Paced c (Racing.handleConcludedAttempt c') := by
  refine ⟨?_, ?_, fun hc => ?_⟩
  · rw [Racing.handleConcludedAttempt_numAttempts, h.num]
  · rw [Racing.handleConcludedAttempt_nextAttemptIndex, h.next]
  · rw [Racing.handleConcludedAttempt_raceComplete, h.complete hc, Bool.or_true]

theorem cancelAttempt (c : Racing.Context) (winner i : Nat) :
    Paced c (Racing.cancelAttempt winner c i) := by
  rw [Racing.cancelAttempt]
  split
  · exact .refl c
  · split
    · exact ⟨rfl, rfl, id⟩
    · exact handleConcludedAttempt ⟨rfl, rfl, id⟩
    · exact .refl c

theorem cancelAllOtherAttempts (h : Paced c c') (winner : Nat) :
    Paced c (Racing.cancelAllOtherAttempts c' winner) :=
  foldl_invariant (fun d i _ hd => hd.trans (cancelAttempt d winner i)) h

theorem racingOnAttemptReady (c : Racing.Context) (i : Nat) (sendRc : Int) (sent : Bool) :
    Paced c (Racing.racingOnAttemptReady c i sendRc sent) := by
  rw [Racing.racingOnAttemptReady]
  split
  · exact .refl c
  · have hsuccess : Paced c (Racing.registerSuccesfulAttempt c i) :=
      handleConcludedAttempt ⟨rfl, rfl, fun _ => rfl⟩
    exact (hsuccess.cancelAllOtherAttempts i).trans ⟨rfl, rfl, id⟩

theorem deliver (c : Racing.Context) (i : Nat) (r : Racing.Report) :
    Paced c (Racing.deliver c i r) := by
  rw [Racing.deliver]
  split
  · exact .refl c
  · exact ⟨rfl, rfl, id⟩
  · have hnote : Paced c (c.note (.report i r)) := ⟨rfl, rfl, id⟩
    cases r with
    | ready sendRc sent => exact hnote.trans (racingOnAttemptReady _ i sendRc sent)
    | establishmentError =>
      dsimp only
      rw [Racing.onAttemptEstablishmentError]
      split
      · exact hnote
      · exact hnote.trans (handleConcludedAttempt ⟨rfl, rfl, id⟩)
    | closed =>
      dsimp only
      split
      · exact hnote.trans (handleConcludedAttempt ⟨rfl, rfl, id⟩)
      · exact hnote
    | connectionError => exact hnote

end Paced

theorem NoneLeft.step {c : Racing.Context} (h : NoneLeft c) (e : Racing.Event) :
    NoneLeft (Racing.step c e) := by
  cases e with
  | timer o =>
    have heq : Racing.onStaggerTimer { c with timerActive := false } o
        = { c with timerActive := false } := by
      rcases h with h | h
      · simp [Racing.onStaggerTimer, h]
      · simp [Racing.onStaggerTimer, Racing.initiateNextAttempt, h]
    rw [Racing.step]
    split
    · rw [heq]
      exact h
    · exact h
  | report i r =>
    rw [Racing.step]
    split
    · exact (Paced.deliver c i r).noneLeft h
    · exact h
  | timerClosed =>
    rw [Racing.step]
    split
    · exact h
    · exact h

theorem onUvGetaddrinfoCb_congr {g : GatherContext} {l : Lookup}
    (h : readsProperties g l = false) (p q : SelectionProperties) :
    Gathering.onUvGetaddrinfoCb p g l = Gathering.onUvGetaddrinfoCb q g l := by
  have hresolve : g.crashed = false → (l.outcome.isSome || l.parent.2.remoteEndpoint.isSome) = true →
      ∀ addresses, Gathering.remoteEndpointResolveCb p l.parent addresses g
        = Gathering.remoteEndpointResolveCb q l.parent addresses g := by
    intro hcrashed hread addresses
    rw [Gathering.remoteEndpointResolveCb, Gathering.remoteEndpointResolveCb, GatherContext.use,
      GatherContext.use, hcrashed]
    split
    · rfl
    · split
      · rfl
      · rename_i hreleased
        dsimp only
        split
        · rename_i hpending
          simp only [readsProperties, hcrashed, hread] at h
          have hfailed : g.failed = true := by
            simpa [Nat.eq_zero_of_not_pos hreleased, hpending] using h
          rw [Gathering.buildCandidateTreeIsCompleteCb, Gathering.buildCandidateTreeIsCompleteCb,
            if_pos hfailed, if_pos hfailed]
        · rfl
  rw [Gathering.onUvGetaddrinfoCb, Gathering.onUvGetaddrinfoCb]
  split
  · rfl
  · rename_i hcrashed
    rw [Bool.not_eq_true] at hcrashed
    cases houtcome : l.outcome with
    | some addresses => exact hresolve hcrashed (by rw [houtcome]; rfl) addresses
    | none =>
      dsimp only
      split
      · rfl
      · rename_i hremote
        refine hresolve hcrashed ?_ []
        rw [houtcome]
        simpa [Option.isSome_iff_ne_none] using hremote

theorem lookup_of_over {g : GatherContext} (h : g.crashed = true ∨ 0 < g.released)
    (p : SelectionProperties) (l : Lookup) :
    readsProperties g l = false ∧ (Gathering.onUvGetaddrinfoCb p g l).ready = g.ready ∧
      ((Gathering.onUvGetaddrinfoCb p g l).crashed = true ∨
        0 < (Gathering.onUvGetaddrinfoCb p g l).released) := by
  cases hcrashed : g.crashed with
  | true => simp [readsProperties, Gathering.onUvGetaddrinfoCb, hcrashed]
  | false =>
    have hreleased : 0 < g.released := by simpa [hcrashed] using h
    have huse : ∀ addresses, Gathering.remoteEndpointResolveCb p l.parent addresses g
        = { g with staleUses := g.staleUses + 1 } := by
      intro addresses
      rw [Gathering.remoteEndpointResolveCb, GatherContext.use, hcrashed]
      exact if_pos hreleased
    refine ⟨by simp [readsProperties, Nat.ne_of_gt hreleased], ?_⟩
    simp only [Gathering.onUvGetaddrinfoCb, hcrashed, huse]
    cases l.outcome with
    | some addresses => exact ⟨rfl, Or.inr hreleased⟩
    | none =>
      cases l.parent.2.remoteEndpoint with
      | none => exact ⟨rfl, Or.inl rfl⟩
      | some remote => exact ⟨rfl, Or.inr hreleased⟩

/-! ### Two callers -/

section Callers

variable {w w' : World}

theorem step_lookup (h : w.library.undefined = false) (l : Lookup) (o : InitOutcome) :
    step setup w (.lookup l o) = lookupDone setup w l o := by
  rw [step, h]
  rfl

theorem step_race (h : w.library.undefined = false) (e : Racing.Event) :
    step setup w (.race e) = raceEvent w e := by
  rw [step, h]
  rfl

theorem lookupDone_of_done (h : w.library.Done) (l : Lookup) (o : InitOutcome) :
    lookupDone setup w l o = { w with library := { w.library with
      gather := Gathering.onUvGetaddrinfoCb w.contents.transportProperties w.library.gather l } } := by
  obtain ⟨hreads, hready, -⟩ := lookup_of_over h.1 w.contents.transportProperties l
  rw [lookupDone, hreads, Bool.and_false, if_neg Bool.false_ne_true]
  dsimp only
  rw [hready, List.drop_length]

theorem raceEvent_of_done (h : w.library.Done) (e : Racing.Event) :
    raceEvent w e = { w with library := { w.library with
      race := w.library.race.map fun c => Racing.step c e } } := by
  rw [raceEvent]
  cases hrace : w.library.race with
  | none =>
    dsimp only
    rw [Option.map_none, ← hrace]
  | some c =>
    dsimp only
    rw [(h.2 c hrace).startsAttempt e]
    rfl

theorem Library.Done.step (hdone : w.library.Done) (hlibrary : w.library = w'.library)
    (hdefined : w.library.undefined = false) {e : Event} (he : e.isLibrary = true) :
    (Attempts.step setup w e).library = (Attempts.step setup w' e).library ∧
      (Attempts.step setup w e).library.undefined = false ∧
      (Attempts.step setup w e).library.Done := by
  have hdone' : w'.library.Done := hlibrary ▸ hdone
  have hdefined' : w'.library.undefined = false := hlibrary ▸ hdefined
  cases e with
  | setFramer framerImpl => exact Bool.noConfusion he
  | free => exact Bool.noConfusion he
  | lookup l o =>
    obtain ⟨hreads, -, hover⟩ := lookup_of_over hdone.1 w.contents.transportProperties l
    rw [step_lookup _ hdefined, step_lookup _ hdefined', lookupDone_of_done _ hdone,
      lookupDone_of_done _ hdone', ← hlibrary,
      onUvGetaddrinfoCb_congr hreads w'.contents.transportProperties w.contents.transportProperties]
    exact ⟨rfl, hdefined, hover, hdone.2⟩
  | race e =>
    rw [step_race _ hdefined, step_race _ hdefined', raceEvent_of_done hdone,
      raceEvent_of_done hdone', ← hlibrary]
    refine ⟨rfl, hdefined, hdone.1, fun d hd => ?_⟩
    obtain ⟨c, hc, rfl⟩ := Option.mem_map.mp hd
    exact (hdone.2 c hc).step e

structure Agree (w w' : World) : Prop where
  library : w.library = w'.library
  defined : w.library.undefined = false
  memory : w.library.Done ∨ (w.contents = w'.contents ∧ w.freed = false ∧ w'.freed = false)

theorem startAttempt_of_live (h : w.freed = false) (index : Nat) :
    (startAttempt w index).contents = w.contents ∧ (startAttempt w index).freed = false ∧
      (startAttempt w index).library.undefined = w.library.undefined := by
  simp only [startAttempt, h]
  exact ⟨rfl, rfl, rfl⟩

theorem candidatesReady_of_live (h : w.freed = false) (result : Option (List CandidateNode))
    (o : InitOutcome) :
    (candidatesReady setup w result o).contents = w.contents ∧
      (candidatesReady setup w result o).freed = false ∧
      (candidatesReady setup w result o).library.undefined = w.library.undefined := by
  rw [candidatesReady]
  dsimp only
  split
  · exact ⟨rfl, h, rfl⟩
  · exact startAttempt_of_live (w := { w with library := { w.library with
      candidates := result.getD [] } }) h 0

theorem step_of_live (hfreed : w.freed = false) (hdefined : w.library.undefined = false)
    {e : Event} (he : e.isLibrary = true) :
    (step setup w e).contents = w.contents ∧ (step setup w e).freed = false ∧
      (step setup w e).library.undefined = false := by
  cases e with
  | setFramer framerImpl => exact Bool.noConfusion he
  | free => exact Bool.noConfusion he
  | lookup l o =>
    rw [step_lookup _ hdefined, lookupDone, hfreed, Bool.false_and, if_neg Bool.false_ne_true]
    dsimp only
    split
    · exact ⟨rfl, rfl, hdefined⟩
    · rename_i result _ _
      have hlive := candidatesReady_of_live setup (w := { w with
        freed := false
        library := { w.library with
          gather := Gathering.onUvGetaddrinfoCb w.contents.transportProperties w.library.gather l } })
        rfl result o
      exact ⟨hlive.1, hlive.2.1, hlive.2.2.trans hdefined⟩
  | race e =>
    rw [step_race _ hdefined, raceEvent]
    split
    · exact ⟨rfl, hfreed, hdefined⟩
    · dsimp only [setRace]
      split
      · obtain ⟨hcontents, hlive, hsame⟩ := startAttempt_of_live hfreed _
        exact ⟨hcontents, hlive, hsame.trans hdefined⟩
      · exact ⟨rfl, hfreed, hdefined⟩

theorem Agree.library_step (h : Agree w w') {e : Event} (he : e.isLibrary = true) :
    Agree (step setup w e) (step setup w' e) := by
  rcases h.memory with hdone | ⟨hcontents, hfreed, hfreed'⟩
  · obtain ⟨hsame, hdefined, hdone⟩ := Library.Done.step setup hdone h.library h.defined he
    exact ⟨hsame, hdefined, Or.inl hdone⟩
  · obtain ⟨hkept, hlive, hdefined⟩ := step_of_live setup hfreed h.defined he
    have heq : w = w' := by
      obtain ⟨contents, freed, library⟩ := w
      obtain ⟨contents', freed', library'⟩ := w'
      obtain ⟨hlibrary, _, _⟩ := h
      cases hlibrary
      cases hcontents
      cases hfreed
      cases hfreed'
      rfl
    subst heq
    exact ⟨rfl, hdefined, Or.inr ⟨rfl, hlive, hlive⟩⟩

theorem Agree.caller_step (h : Agree w w') {e : Event} (he : e.isLibrary = false)
    (hharmless : Harmless w e) : Agree (step setup w e) w' := by
  have hdefined := h.defined
  cases e with
  | lookup l o => exact Bool.noConfusion he
  | race e => exact Bool.noConfusion he
  | setFramer framerImpl =>
    rw [step, hdefined, if_neg Bool.false_ne_true]
    dsimp only
    split
    · exact h
    · refine ⟨h.library, hdefined, ?_⟩
      rcases hharmless with hsame | hdone
      · rw [hsame]
        exact h.memory
      · exact Or.inl hdone
  | free =>
    rw [step, hdefined, if_neg Bool.false_ne_true]
    exact ⟨h.library, hdefined, Or.inl hharmless⟩

theorem initiate_live (resolver : Resolver) (contents : Contents) (o : InitOutcome) :
    (initiate setup resolver contents o).1.freed = false ∧
      (initiate setup resolver contents o).1.library.undefined = false := by
  rw [initiate]
  split
  · exact ⟨rfl, rfl⟩
  · dsimp only
    split
    · exact ⟨rfl, rfl⟩
    · exact (candidatesReady_of_live setup rfl _ o).2

end Callers

/-- Whatever callers do with the preconnection afterwards, as long as they touch it only when
nothing is left to be read of it: the library does the same. -/
theorem same_library_of_harmless (resolver : Resolver) (contents : Contents) (o : InitOutcome)
    {es es' : List Event} (hevents : es.filter Event.isLibrary = es'.filter Event.isLibrary)
    (hes : AllSteps (step setup) Harmless (initiate setup resolver contents o).1 es)
    (hes' : AllSteps (step setup) Harmless (initiate setup resolver contents o).1 es') :
    (run (step setup) (initiate setup resolver contents o).1 es).library
        = (run (step setup) (initiate setup resolver contents o).1 es').library ∧
      (run (step setup) (initiate setup resolver contents o).1 es).library.undefined = false := by
  have hstart : Agree (initiate setup resolver contents o).1
      (initiate setup resolver contents o).1 := by
    obtain ⟨hfreed, hdefined⟩ := initiate_live setup resolver contents o
    exact ⟨rfl, hdefined, Or.inr ⟨rfl, hfreed, hfreed⟩⟩
  have hrun := run_filter Event.isLibrary (fun s t e h he => h.library_step setup he)
    (fun s t e h he hp => h.caller_step setup he hp) hstart hes
  have hrun' := run_filter Event.isLibrary (fun s t e h he => h.library_step setup he)
    (fun s t e h he hp => h.caller_step setup he hp) hstart hes'
  rw [hevents] at hrun
  exact ⟨hrun.library.trans hrun'.library.symm, hrun.defined⟩

section Instances

instance (w : World) (e : Event) : Decidable (Harmless w e) := by
  cases e with
  | setFramer framerImpl => exact inferInstanceAs (Decidable (_ ∨ _))
  | free => exact inferInstanceAs (Decidable w.library.Done)
  | lookup l o => exact isTrue trivial
  | race e => exact isTrue trivial

def plainContents : Contents where
  localEndpoints := []
  remoteEndpoints := [⟨443, none, none, .inet 0x0A000002#32 443⟩]
  transportProperties _ := .preference .noPreference
  securityParameters := none
  framerImpl := none

def plainResolver : Resolver :=
  Gathering.oneLocal (.sync [⟨443, none, none, .inet 0x0A000002#32 443⟩])

def plainCall : World × Option Int := initiate {} plainResolver plainContents .pending

def twoTimers : List Event := [.race (.timer .pending), .race (.timer .pending)]

theorem same_library_freed_late :
    (run (step {}) plainCall.1 (twoTimers ++ [.setFramer (some 1), .free])).library
      = (run (step {}) plainCall.1 twoTimers).library := by
  have hlate : AllSteps (step {}) Harmless plainCall.1
      (twoTimers ++ [.setFramer (some 1), .free]) := by decide +kernel
  have hnever : AllSteps (step {}) Harmless plainCall.1 twoTimers := by decide +kernel
  have hevents : (twoTimers ++ [Event.setFramer (some 1), .free]).filter Event.isLibrary
      = twoTimers.filter Event.isLibrary := rfl
  exact (same_library_of_harmless {} plainResolver plainContents .pending hevents hlate hnever).1

/-- Between the first attempt and the second the caller changes the framer, or frees the object. -/
theorem caller_changes_second_attempt :
    plainCall.2 = some 0 ∧
      (run (step {}) plainCall.1 [.race (.timer .pending)]).library.attempts.map
        Attempt.framerImpl = [none, none] ∧
      (run (step {}) plainCall.1 [.setFramer (some 1), .race (.timer .pending)]).library.attempts.map
        Attempt.framerImpl = [none, some 1] ∧
      (run (step {}) plainCall.1 [.free, .race (.timer .pending)]).library.undefined = true := by
  decide +kernel

end Instances

end CTaps.Attempts
