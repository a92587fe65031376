import CTaps.Gathering.Await

/-! The loop that issues the resolutions. As long as no resolution is refused it
leaves the context waiting for the lookups in flight, and the in-flight count is
their number. -/

namespace CTaps.Gathering

open Lib

variable {properties : SelectionProperties} {g : GatherContext} {base : CandidateTree}
  {all : List CandidateNode}

def Resolution.isError : Resolution → Bool
  | .error _ => true
  | _ => false

def Resolution.outcome : Resolution → Option (List RemoteEndpoint)
  | .sync addresses | .async addresses => some addresses
  | .asyncFailure | .error _ => none

def asLookup (pair : (Nat × CandidateNode) × Resolution) : Lookup := ⟨pair.1, pair.2.outcome⟩

def Resolution.isAsync : Resolution → Bool
  | .async _ | .asyncFailure => true
  | _ => false

def inFlight (pairs : List ((Nat × CandidateNode) × Resolution)) : List Lookup :=
  (pairs.filter fun pair => pair.2.isAsync).map asLookup

theorem buildCandidateTreeIsCompleteCb_inFlight :
    (buildCandidateTreeIsCompleteCb properties g).numInFlight = g.numInFlight ∧
      (buildCandidateTreeIsCompleteCb properties g).outstanding = g.outstanding := by
  rw [buildCandidateTreeIsCompleteCb]
  split
  · exact ⟨rfl, rfl⟩
  · split <;> exact ⟨rfl, rfl⟩

theorem remoteEndpointResolveCb_inFlight (properties : SelectionProperties)
    (parent : Nat × CandidateNode) (addresses : List RemoteEndpoint) (hc : g.crashed = false)
    (hr : g.released = 0) :
    (remoteEndpointResolveCb properties parent addresses g).numInFlight = g.numInFlight - 1 ∧
      (remoteEndpointResolveCb properties parent addresses g).outstanding = g.outstanding := by
  rw [remoteEndpointResolveCb, GatherContext.use_of_live hc hr]
  dsimp only
  split
  · rw [buildCandidateTreeIsCompleteCb_inFlight.1, buildCandidateTreeIsCompleteCb_inFlight.2]
    exact ⟨rfl, rfl⟩
  · exact ⟨rfl, rfl⟩

structure Issuing (properties : SelectionProperties) (base : CandidateTree)
    (all : List CandidateNode) (rest : List ((Nat × CandidateNode) × Resolution))
    (g : GatherContext) : Prop where
  phase : Phase properties base all (g.outstanding ++ rest.map asLookup) g
  numInFlight : g.numInFlight = g.outstanding.length

variable {pair : (Nat × CandidateNode) × Resolution}
  {rest pairs : List ((Nat × CandidateNode) × Resolution)}

theorem Issuing.awaiting (h : Issuing properties base all (pair :: rest) g) :
    Awaiting base all (g.outstanding ++ (pair :: rest).map asLookup) g :=
  h.phase.1 (by simp)

theorem Issuing.turn (h : Issuing properties base all (pair :: rest) g)
    (hbase : ∀ l ∈ base.forest.leaves, l.2.type = .protocol) (hpair : pair.2.isError = false) :
    ∃ g', branchByRemotes properties (pair :: rest) g = branchByRemotes properties rest g' ∧
      Issuing properties base all rest g' ∧ g'.outstanding = g.outstanding ++ inFlight [pair] := by
  obtain ⟨leaf, resolution⟩ := pair
  have haw := h.awaiting
  have hun := haw.unreported
  have htype : leaf.2.type = .protocol := by
    refine hbase _ (haw.parents (asLookup (leaf, resolution)) ?_)
    simp
  have hmiddle : (g.outstanding ++ ((leaf, resolution) :: rest).map asLookup).Perm
      (asLookup (leaf, resolution) :: (g.outstanding ++ rest.map asLookup)) := List.perm_middle
  rw [branchByRemotes, GatherContext.use_of_live hun.crashed hun.released]
  simp only [branchByRemote, htype, ne_eq, not_true_eq_false, if_false]
  have haw' := haw.withInFlight (g.numInFlight + 1) g.outstanding
  cases resolution with
  | error rc => exact absurd hpair (by simp [Resolution.isError])
  | sync addresses =>
    have hlive := remoteEndpointResolveCb_inFlight properties leaf addresses
      haw'.unreported.crashed haw'.unreported.released
    refine ⟨remoteEndpointResolveCb properties leaf addresses
      { g with numInFlight := g.numInFlight + 1 }, by simp, ⟨?_, ?_⟩, ?_⟩
    · have hdel := (haw'.perm hmiddle).deliver properties hbase rfl
      rw [hlive.2]
      exact hdel
    · rw [hlive.1, hlive.2]
      exact h.numInFlight
    · rw [hlive.2]
      exact (List.append_nil _).symm
  | async addresses =>
    refine ⟨{ g with
        numInFlight := g.numInFlight + 1
        outstanding := g.outstanding ++ [⟨leaf, some addresses⟩] }, by simp, ⟨?_, ?_⟩, rfl⟩
    · have hassoc : g.outstanding ++ [⟨leaf, some addresses⟩] ++ rest.map asLookup
          = g.outstanding ++ ((leaf, Resolution.async addresses) :: rest).map asLookup := by
        simp [asLookup, Resolution.outcome]
      refine ⟨fun _ => ?_, fun hnil => absurd hnil (by simp)⟩
      rw [hassoc]
      exact haw.withInFlight _ _
    · simp [h.numInFlight]
  | asyncFailure =>
    refine ⟨{ g with
        numInFlight := g.numInFlight + 1
        outstanding := g.outstanding ++ [⟨leaf, none⟩] }, by simp, ⟨?_, ?_⟩, rfl⟩
    · have hassoc : g.outstanding ++ [⟨leaf, none⟩] ++ rest.map asLookup
          = g.outstanding ++ ((leaf, Resolution.asyncFailure) :: rest).map asLookup := by
        simp [asLookup, Resolution.outcome]
      refine ⟨fun _ => ?_, fun hnil => absurd hnil (by simp)⟩
      rw [hassoc]
      exact haw.withInFlight _ _
    · simp [h.numInFlight]

theorem Issuing.turns (h : Issuing properties base all (pairs ++ rest) g)
    (hbase : ∀ l ∈ base.forest.leaves, l.2.type = .protocol)
    (hpairs : ∀ pair ∈ pairs, pair.2.isError = false) :
    ∃ g', branchByRemotes properties (pairs ++ rest) g = branchByRemotes properties rest g' ∧
      Issuing properties base all rest g' ∧ g'.outstanding = g.outstanding ++ inFlight pairs := by
  induction pairs generalizing g with
  | nil => exact ⟨g, rfl, h, (List.append_nil _).symm⟩
  | cons pair pairs ih =>
    rw [List.forall_mem_cons] at hpairs
    obtain ⟨g₁, heq, h₁, hout₁⟩ := Issuing.turn h hbase hpairs.1
    obtain ⟨g₂, heq₂, h₂, hout₂⟩ := ih h₁ hpairs.2
    refine ⟨g₂, heq.trans heq₂, h₂, ?_⟩
    rw [hout₂, hout₁, List.append_assoc, inFlight, inFlight, inFlight, ← List.map_append,
      ← List.filter_append]
    rfl

theorem Issuing.refused {leaf : Nat × CandidateNode} {rc : {rc : Int // rc ≠ 0}}
    (h : Issuing properties base all ((leaf, .error rc) :: rest) g)
    (hbase : ∀ l ∈ base.forest.leaves, l.2.type = .protocol) :
    ∃ g', branchByRemotes properties ((leaf, .error rc) :: rest) g = (g', rc.1) ∧
      g'.crashed = false ∧ g'.outstanding = g.outstanding ∧
      g'.released = if g.outstanding = [] then 1 else 0 := by
  have haw := h.awaiting
  have hun := haw.unreported
  have hun' := (haw.withInFlight (g.numInFlight + 1) g.outstanding).unreported
  have htype : leaf.2.type = .protocol :=
    hbase _ (haw.parents (asLookup (leaf, .error rc)) (by simp))
  refine ⟨abandon properties { g with numInFlight := g.numInFlight + 1 }, ?_, ?_⟩
  · rw [branchByRemotes, GatherContext.use_of_live hun.crashed hun.released]
    simp [branchByRemote, htype, rc.2]
  · rw [abandon, GatherContext.use_of_live hun'.crashed hun'.released]
    simp only [Nat.add_sub_cancel, h.numInFlight, List.length_eq_zero_iff]
    split_ifs with hnil
    · simp [buildCandidateTreeIsCompleteCb, hun.released, hun.crashed]
    · exact ⟨hun.crashed, rfl, hun.released⟩

/-! ### The context the loop starts from -/

variable {resolver : Resolver} {precon : Preconnection}

def withTree (base : CandidateTree) (localOnly : Bool) : GatherContext :=
  { GatherContext.new localOnly with tree := base }

theorem LocalTree.unreported (h : LocalTree resolver precon base) (localOnly : Bool) :
    Unreported (withTree base localOnly) where
  grown := h.grown
  bottom l hl := by
    rw [h.type_of_mem_leaves hl]
    simp
  failed := rfl
  ready := rfl
  released := rfl
  staleUses := rfl
  crashed := rfl

theorem LocalTree.ofType_endpoint (h : LocalTree resolver precon base) :
    base.ofType .endpoint = [] := by
  rw [CandidateTree.ofType, List.filter_eq_nil_iff]
  intro node hnode
  obtain ⟨l, hl, rfl⟩ := List.mem_map.mp hnode
  simpa using h.types l hl

def delivered (pairs : List ((Nat × CandidateNode) × Resolution)) : List CandidateNode :=
  pairs.flatMap fun pair => (asLookup pair).nodes

theorem mem_resolutions {leaves : List (Nat × CandidateNode)}
    (h : pair ∈ resolutions resolver precon leaves) :
    pair.1 ∈ leaves ∧ ∃ k < leaves.length, ∃ j < precon.remoteEndpoints.length,
      pair.2 = resolver.remoteEndpointResolve k j := by
  obtain ⟨⟨leaf, k⟩, hleaf, hpair⟩ := List.mem_flatMap.mp h
  obtain ⟨j, hj, rfl⟩ := List.mem_map.mp hpair
  obtain ⟨hk, hget⟩ := List.mem_zipIdx' hleaf
  exact ⟨hget ▸ List.getElem_mem hk, k, hk, j, List.mem_range.mp hj, rfl⟩

theorem exists_mem_resolutions (resolver : Resolver) {leaves : List (Nat × CandidateNode)}
    {k j : Nat} (hk : k < leaves.length) (hj : j < precon.remoteEndpoints.length) :
    ∃ leaf, (leaf, resolver.remoteEndpointResolve k j) ∈ resolutions resolver precon leaves := by
  refine ⟨leaves[k], List.mem_flatMap.mpr ⟨(leaves[k], k), ?_, ?_⟩⟩
  · rw [List.mem_zipIdx_iff_getElem?]
    exact List.getElem?_eq_getElem hk
  · exact List.mem_map.mpr ⟨j, List.mem_range.mpr hj, rfl⟩

theorem length_resolutions (resolver : Resolver) (precon : Preconnection)
    (leaves : List (Nat × CandidateNode)) :
    (resolutions resolver precon leaves).length
      = leaves.length * precon.remoteEndpoints.length := by
  rw [resolutions, List.length_flatMap]
  simp

theorem LocalTree.issuing (properties : SelectionProperties) (h : LocalTree resolver precon base)
    (hpairs : pairs = resolutions resolver precon base.forest.leaves) (hne : pairs ≠ []) :
    Issuing properties base (delivered pairs) pairs { withTree base false with
      pendingResolutions := base.forest.leaves.length * precon.remoteEndpoints.length } := by
  refine ⟨⟨fun _ => ⟨?_, rfl, ?_, ?_, ?_, ?_⟩, fun hnil => ?_⟩, rfl⟩
  · have hun := h.unreported false
    exact ⟨hun.grown, hun.bottom, rfl, rfl, rfl, rfl, rfl⟩
  · exact fun l hl => base.forest.leaves_sublist.subset hl
  · intro l hl
    obtain ⟨pair, hpair, rfl⟩ := List.mem_map.mp hl
    exact (mem_resolutions (hpairs ▸ hpair)).1
  · have hnone : base.ofType .endpoint = [] := h.ofType_endpoint
    change (base.ofType .endpoint ++ (pairs.map asLookup).flatMap Lookup.nodes).Perm _
    rw [hnone, List.flatMap_map]
    exact List.Perm.refl _
  · change _ = (pairs.map asLookup).length
    rw [List.length_map, hpairs, length_resolutions]
  · exact absurd (List.map_eq_nil_iff.mp hnil) hne

end CTaps.Gathering
