import CTaps.Gathering.Report

/-! The candidates handed over are exactly the fitting combinations of a resolved
local address, a protocol option and a resolved remote address, each as often as
the resolvers produced it, whatever the order of the completions. -/

namespace CTaps.Gathering

open Lib

variable {resolver : Resolver} {precon : Preconnection} {base : CandidateTree}

section Combinations

variable (resolver : Resolver) (precon : Preconnection)

def candidatePairs : List (LocalEndpoint × ProtocolCandidate) :=
  (resolvedLocals resolver precon).flatMap fun p =>
    (protocolOptions precon.alpns).map fun o => (p, o)

def candidateTriples : List (LocalEndpoint × ProtocolCandidate × RemoteEndpoint) :=
  (candidatePairs resolver precon).zipIdx.flatMap fun (pair, k) =>
    (List.range precon.remoteEndpoints.length).flatMap fun j =>
      ((resolver.remoteEndpointResolve k j).outcome.getD []).map fun r => (pair.1, pair.2, r)

end Combinations

def fitsLocally (properties : SelectionProperties) (pair : LocalEndpoint × ProtocolCandidate) :
    Bool :=
  interfaceIsCompatible (pair.1.interfaceName.getD "any") properties &&
    protocolImplementationSupportsSelectionProperties pair.2.protocolImpl properties

def fits (properties : SelectionProperties)
    (triple : LocalEndpoint × ProtocolCandidate × RemoteEndpoint) : Bool :=
  fitsLocally properties (triple.1, triple.2.1) &&
    (decide (triple.1.resolvedAddress.family = triple.2.2.resolvedAddress.family) &&
      (addressIsWildcard triple.1.resolvedAddress ||
        decide (getAddrScope triple.1.resolvedAddress = getAddrScope triple.2.2.resolvedAddress)))

def asCandidate (triple : LocalEndpoint × ProtocolCandidate × RemoteEndpoint) : CandidateNode :=
  ⟨.endpoint, some triple.1, some triple.2.2, some triple.2.1⟩

def asLocalCandidate (pair : LocalEndpoint × ProtocolCandidate) : CandidateNode :=
  ⟨.protocol, some pair.1, none, some pair.2⟩

theorem viable_asCandidate (properties : SelectionProperties) :
    viable properties ∘ asCandidate = fits properties := by
  funext ⟨p, o, r⟩
  simp only [Function.comp_apply, asCandidate, viable, pathIsCompatible, protocolIsCompatible,
    endpointIsCompatible, fits, fitsLocally, addressFamiliesMatch, addressScopeMatch,
    Option.bind_some, Option.all_some, Option.any_some]

theorem viable_asLocalCandidate (properties : SelectionProperties) :
    viable properties ∘ asLocalCandidate = fitsLocally properties := by
  funext ⟨p, o⟩
  simp only [Function.comp_apply, asLocalCandidate, viable, pathIsCompatible,
    protocolIsCompatible, fitsLocally, Option.bind_some, Option.all_some]

theorem LocalTree.leaves_eq (h : LocalTree resolver precon base) :
    base.forest.leaves.map Prod.snd = (candidatePairs resolver precon).map asLocalCandidate := by
  rw [h.leaves, candidatePairs, List.map_flatMap]
  simp only [List.map_map]
  rfl

theorem LocalTree.delivered_eq (h : LocalTree resolver precon base) :
    delivered (resolutions resolver precon base.forest.leaves)
      = (candidateTriples resolver precon).map asCandidate := by
  -- the nodes of a pair, as a function of the payload and the position of the leaf
  have hnodes : ∀ leaves : List (Nat × CandidateNode),
      delivered (resolutions resolver precon leaves)
        = (leaves.map Prod.snd).zipIdx.flatMap fun (node, k) =>
          (List.range precon.remoteEndpoints.length).flatMap fun j =>
            ((resolver.remoteEndpointResolve k j).outcome.getD []).map (endpointNode node) := by
    intro leaves
    rw [delivered, resolutions, List.flatMap_assoc, List.zipIdx_map, List.flatMap_map]
    simp only [List.flatMap_map]
    rfl
  rw [hnodes, h.leaves_eq, List.zipIdx_map, List.flatMap_map, candidateTriples, List.map_flatMap]
  simp only [List.map_flatMap, List.map_map]
  rfl

theorem LocalTree.filter_delivered (h : LocalTree resolver precon base)
    (properties : SelectionProperties) :
    (delivered (resolutions resolver precon base.forest.leaves)).filter (viable properties)
      = ((candidateTriples resolver precon).filter (fits properties)).map asCandidate := by
  rw [h.delivered_eq, List.filter_map, viable_asCandidate]

theorem LocalTree.ofType_protocol (h : LocalTree resolver precon base) :
    base.ofType .protocol = (candidatePairs resolver precon).map asLocalCandidate := by
  have hlinked := h.grown.linked.and_forall (P := fun node => node.type ≠ .endpoint) h.types
  have hleaves := hlinked.filter_leaves (T := fun node => decide (node.type = .protocol)) (by
    rintro a b ⟨hab, hb⟩
    refine decide_eq_false fun ha => ?_
    simp only [Inherits, ha] at hab
    exact hb hab.1)
  have hall : (base.forest.leaves.filter fun l => decide (l.2.type = .protocol))
      = base.forest.leaves := by
    rw [List.filter_eq_self]
    exact fun l hl => decide_eq_true (h.type_of_mem_leaves hl)
  rw [← h.leaves_eq, CandidateTree.ofType, List.filter_map]
  exact congrArg (List.map Prod.snd) (hleaves.symm.trans hall)

theorem getOrderedLocal_eq (htree : LocalTree resolver precon base)
    (hbase : buildLocalTree resolver precon = some base) :
    getOrderedLocalCandidateNodes resolver precon
      = (buildCandidateTreeIsCompleteCb precon.selectionProperties (withTree base true), some 0) := by
  have hfin := (htree.unreported true).finish precon.selectionProperties
    (List.Perm.of_eq htree.ofType_protocol) fun _ => htree.types
  have hbuild : buildCandidateTree resolver precon (.new true)
      = (buildCandidateTreeIsCompleteCb precon.selectionProperties (withTree base true), 0) := by
    rw [buildCandidateTree, hbase]
    rfl
  rw [getOrderedLocalCandidateNodes, gatherNodes, hbuild]
  dsimp only
  rw [hfin.crashed, if_neg (by simp), if_neg (by simp)]

theorem getOrderedLocal_finished (hlocal : resolvedLocals resolver precon ≠ []) :
    Finished precon.selectionProperties ((candidatePairs resolver precon).map asLocalCandidate)
      (getOrderedLocalCandidateNodes resolver precon).1 := by
  obtain ⟨base, hbase, htree⟩ := exists_localTree hlocal
  rw [getOrderedLocal_eq htree hbase]
  exact (htree.unreported true).finish precon.selectionProperties
    (List.Perm.of_eq htree.ofType_protocol) fun _ => htree.types

/-- The ready callback runs at the last completion and not before; it gets the fitting
triples, pruning has not met a released node, and local-only gathering gets the fitting pairs. -/
theorem gather_candidates (resolver : Resolver) (precon : Preconnection)
    (hlocal : resolvedLocals resolver precon ≠ []) :
    (precon.remoteEndpoints ≠ [] →
      (∀ k < (candidatePairs resolver precon).length, ∀ j < precon.remoteEndpoints.length,
        (resolver.remoteEndpointResolve k j).succeeds = true) →
      ∀ order : List Lookup,
        order.Perm (getOrderedCandidateNodes resolver precon).1.outstanding →
        (∀ done todo, order = done ++ todo → todo ≠ [] →
          (gather resolver precon done).ready = []) ∧
        (∃ candidates, (gather resolver precon order).ready = [some candidates] ∧
          candidates.Perm (((candidateTriples resolver precon).filter
            (fits precon.selectionProperties)).map asCandidate)) ∧
        (gather resolver precon order).crashed = false ∧
        (gather resolver precon order).staleUses = 0) ∧
    (∃ candidates, (getOrderedLocalCandidateNodes resolver precon).1.ready = [some candidates] ∧
      candidates.Perm (((candidatePairs resolver precon).filter
        (fitsLocally precon.selectionProperties)).map asLocalCandidate)) ∧
    (getOrderedLocalCandidateNodes resolver precon).1.crashed = false := by
  refine ⟨fun hremote hsucceeds order horder => ?_, ?_, (getOrderedLocal_finished hlocal).crashed⟩
  · have hlength : (candidatePairs resolver precon).length
        = (resolvedLocals resolver precon).length * (protocolOptions precon.alpns).length := by
      simp [candidatePairs, List.length_flatMap]
    obtain ⟨base, htree, _, hphase⟩ := gather_phase ⟨hlocal, hlength ▸ hsucceeds⟩ hremote
    have hfin := (hphase order [] (by rwa [List.append_nil])).2 rfl
    refine ⟨fun done todo hsplit hne => ?_, ?_, hfin.crashed, hfin.staleUses⟩
    · exact ((hphase done todo (hsplit ▸ horder)).1 hne).unreported.ready
    · obtain ⟨candidates, hready, hperm⟩ := hfin.ready
      rw [htree.filter_delivered] at hperm
      exact ⟨candidates, hready, hperm⟩
  · obtain ⟨candidates, hready, hperm⟩ := (getOrderedLocal_finished hlocal).ready
    rw [List.filter_map, viable_asLocalCandidate] at hperm
    exact ⟨candidates, hready, hperm⟩

theorem gather_candidates_async :
    ∃ candidates,
      (gather (oneLocal (.async [⟨443, none, none, .inet 0x0A000002#32 443⟩]))
        (oneRemote (some "host") .unspec)
        (getOrderedCandidateNodes (oneLocal (.async [⟨443, none, none, .inet 0x0A000002#32 443⟩]))
          (oneRemote (some "host") .unspec)).1.outstanding.reverse).ready = [some candidates] ∧
      candidates.Perm ([Protocol.udp, .tcp, .quic].map fun protocol =>
        asCandidate (⟨0, none, none, .inet 0x0A000001#32 0⟩, ⟨protocol, none⟩,
          ⟨443, none, none, .inet 0x0A000002#32 443⟩)) :=
  ((gather_candidates (oneLocal (.async [⟨443, none, none, .inet 0x0A000002#32 443⟩]))
    (oneRemote (some "host") .unspec) (by decide)).1 (by decide) (fun _ _ _ _ => rfl) _
    (List.reverse_perm _)).2.1

end CTaps.Gathering
