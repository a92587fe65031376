import CTaps.Initiate.Outcome

/-! `ct_preconnection_listen`: the local candidates are gathered within the call, and a listener is
made for the first of them. The application is told the outcome within the call too, once. -/

namespace CTaps.Initiate

open Gathering (CandidateNode Gathers LocalEndpoint Preconnection Protocol ProtocolCandidate Resolver
  candidatePairs fitsLocally asLocalCandidate resolvedLocals)

structure ListenerCallbacks where
  establishmentError : Bool := true
  listenerReady : Bool := true
deriving DecidableEq

inductive ListenerCall
  | establishmentError (listener : Bool) (rc : Int)
  | listenerReady
deriving DecidableEq

/-- What the environment answers for a candidate: whether a listener can be made, and what the
protocol's `listen` returns. -/
structure ListenAnswers where
  created : CandidateNode → Bool
  listen : CandidateNode → Int

structure Listened where
  /-- What the call returns, unless the process is gone. -/
  returned : Option Int
  calls : List ListenerCall := []
  /-- The candidate the listener was made for. -/
  listener : Option CandidateNode := none
deriving DecidableEq

def callIf (isSet : Bool) (call : ListenerCall) : List ListenerCall := if isSet then [call] else []

def enoent : Int := 2

def socketManagerListen (callbacks : ListenerCallbacks) (rc : Int) : List ListenerCall :=
  if rc ≠ 0 then callIf callbacks.establishmentError (.establishmentError true rc)
  else callIf callbacks.listenerReady .listenerReady

/-- `ct_listener_candidate_node_array_ready_cb`; `none` is a NULL array. -/
def listenerCandidateNodeArrayReadyCb (callbacks : ListenerCallbacks) (answers : ListenAnswers) :
    Option (List CandidateNode) → List ListenerCall × Option CandidateNode
  | none | some [] =>
    (callIf callbacks.establishmentError (.establishmentError false (-enoent)), none)
  | some (firstNode :: _) =>
    if answers.created firstNode then
      (socketManagerListen callbacks (answers.listen firstNode), some firstNode)
    else (callIf callbacks.establishmentError (.establishmentError false (-1)), none)

/-- A NULL argument is `none`. -/
def preconnectionListen (resolver : Resolver) (answers : ListenAnswers)
    (precon : Option Preconnection) (callbacks : Option ListenerCallbacks) : Listened :=
  match precon, callbacks with
  | some precon, some callbacks =>
    if precon.localEndpoints.length = 0 then { returned := some (-einval) }
    else
      let r := Gathering.getOrderedLocalCandidateNodes resolver precon
      let calls := r.1.ready.map (listenerCandidateNodeArrayReadyCb callbacks answers)
      { returned := r.2.map fun rc => if rc < 0 then rc else 0
        calls := calls.flatMap Prod.fst
        listener := calls.findSome? Prod.snd }
  | _, _ => { returned := some (-einval) }

variable {resolver : Resolver} {precon : Preconnection}

theorem exists_localCandidates (hlocal : resolvedLocals resolver precon ≠ []) :
    ∃ candidates, (Gathering.getOrderedLocalCandidateNodes resolver precon).2 = some 0 ∧
      (Gathering.getOrderedLocalCandidateNodes resolver precon).1.ready = [some candidates] ∧
      candidates.Perm (((candidatePairs resolver precon).filter
        (fitsLocally precon.selectionProperties)).map asLocalCandidate) ∧
      candidates.Pairwise
        (fun a b => b.score precon.selectionProperties ≤ a.score precon.selectionProperties) := by
  obtain ⟨base, hbase, htree⟩ := Gathering.exists_localTree hlocal
  obtain ⟨candidates, hready, hperm⟩ := (Gathering.getOrderedLocal_finished hlocal).ready
  rw [List.filter_map, Gathering.viable_asLocalCandidate] at hperm
  have hsorted := (handedOver_sorted (Gathers.localOnly : Gathers resolver precon _)).1
  rw [handedOver, hready] at hsorted
  exact ⟨candidates, by rw [Gathering.getOrderedLocal_eq htree hbase], hready, hperm, hsorted⟩

theorem ready_cons (answers : ListenAnswers) (a : CandidateNode) (rest : List CandidateNode) :
    listenerCandidateNodeArrayReadyCb {} answers (some (a :: rest)) =
      if answers.created a then
        (if answers.listen a = 0 then [.listenerReady]
          else [.establishmentError true (answers.listen a)], some a)
      else ([.establishmentError false (-1)], none) := by
  simp [listenerCandidateNodeArrayReadyCb, socketManagerListen, callIf]

def Best (resolver : Resolver) (precon : Preconnection) (a : CandidateNode) : Prop :=
  (∃ pair ∈ candidatePairs resolver precon,
    fitsLocally precon.selectionProperties pair = true ∧ a = asLocalCandidate pair) ∧
  ∀ pair ∈ candidatePairs resolver precon, fitsLocally precon.selectionProperties pair = true →
    (asLocalCandidate pair).score precon.selectionProperties ≤ a.score precon.selectionProperties

/-- With local endpoints that resolve to some address and both callbacks set, the call returns zero
and has called one callback: an error if no local candidate fits, if no listener can be made or if
the protocol refuses to listen, and that the listener, one for a best candidate, is ready otherwise.
-/
theorem listen_outcome (resolver : Resolver) (answers : ListenAnswers) (precon : Preconnection)
    (hendpoints : precon.localEndpoints ≠ []) (hlocal : resolvedLocals resolver precon ≠ []) :
    ∃ calls listener,
      preconnectionListen resolver answers (some precon) (some {}) = ⟨some 0, calls, listener⟩ ∧
      calls.length = 1 ∧
      (calls = [.establishmentError false (-enoent)] ↔
        ∀ pair ∈ candidatePairs resolver precon,
          fitsLocally precon.selectionProperties pair = false) ∧
      (calls = [.listenerReady] ↔ ∃ a, listener = some a ∧ answers.listen a = 0) ∧
      ∀ a, listener = some a → Best resolver precon a := by
  obtain ⟨candidates, hreturned, hready, hperm, hsorted⟩ := exists_localCandidates hlocal
  have hlength : precon.localEndpoints.length ≠ 0 := fun h =>
    hendpoints (List.length_eq_zero_iff.mp h)
  have hmem : ∀ a, a ∈ candidates ↔ ∃ pair ∈ candidatePairs resolver precon,
      fitsLocally precon.selectionProperties pair = true ∧ a = asLocalCandidate pair := by
    intro a
    rw [hperm.mem_iff, List.mem_map]
    simp only [List.mem_filter, and_assoc, eq_comm (a := a)]
  refine ⟨(listenerCandidateNodeArrayReadyCb {} answers (some candidates)).1,
    (listenerCandidateNodeArrayReadyCb {} answers (some candidates)).2, ?_, ?_⟩
  · rw [preconnectionListen, if_neg hlength]
    dsimp only
    rw [hreturned, hready]
    simp
  cases candidates with
  | nil =>
    have hnone : ∀ pair ∈ candidatePairs resolver precon,
        fitsLocally precon.selectionProperties pair = false := by
      intro pair hpair
      by_contra hfits
      exact absurd ((hmem _).mpr ⟨pair, hpair, Bool.not_eq_false _ ▸ hfits, rfl⟩) List.not_mem_nil
    simpa [listenerCandidateNodeArrayReadyCb, callIf] using hnone
  | cons a rest =>
    have hbest : Best resolver precon a := by
      refine ⟨(hmem a).mp List.mem_cons_self, fun pair hpair hfits => ?_⟩
      rcases List.mem_cons.mp ((hmem _).mpr ⟨pair, hpair, hfits, rfl⟩) with heq | hrest
      · rw [heq]
      · exact (List.pairwise_cons.mp hsorted).1 _ hrest
    obtain ⟨pair, hpair, hfits, _⟩ := hbest.1
    have hsome : ¬ ∀ pair ∈ candidatePairs resolver precon,
        fitsLocally precon.selectionProperties pair = false := fun h =>
      Bool.false_ne_true ((h pair hpair).symm.trans hfits)
    rw [ready_cons]
    split_ifs with hcreated hlisten
    · exact ⟨rfl, iff_of_false (by simp) hsome, by simp [hlisten], fun b hb => by cases hb; exact hbest⟩
    · exact ⟨rfl, iff_of_false (by simp) hsome, by simp [hlisten], fun b hb => by cases hb; exact hbest⟩
    · exact ⟨rfl, iff_of_false (by simp [enoent]) hsome, by simp, fun b hb => by cases hb⟩

theorem listen_outcome_udp :
    (preconnectionListen (Gathering.oneLocal (.sync [])) ⟨fun _ => true, fun _ => 0⟩
      (some { Gathering.oneRemote none .unspec with localEndpoints := [Gathering.localEndpointNew] })
      (some {})).calls.length = 1 := by
  obtain ⟨calls, listener, heq, hone, _⟩ :=
    listen_outcome (Gathering.oneLocal (.sync [])) ⟨fun _ => true, fun _ => 0⟩
      { Gathering.oneRemote none .unspec with localEndpoints := [Gathering.localEndpointNew] }
      (by decide) (by decide)
  rw [heq]
  exact hone

end CTaps.Initiate
