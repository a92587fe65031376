import CTaps.Gathering.Tree

/-! Each of the three traversals lists all the nodes of its type that fail their check, although two
of them stop early: level order meets the types in order. The deletion list goes from the bottom
of the tree to the top, so no step releases a node that a later step still has to visit. -/

namespace CTaps.Gathering

open Lib Forest

def failing (properties : SelectionProperties) (type : NodeType) (t : CandidateTree) :
    List (Visit CandidateNode) :=
  t.forest.levelOrder.filter fun v => v.data.type = type ∧ passes properties v.data = false

theorem gatherIncompatibleEndpointNodes_eq :
    gatherIncompatibleEndpointNodes
      = collect Visit.id (fun v => decide (3 < v.data.rank)) fun v =>
        decide (v.data.type = .endpoint ∧ endpointIsCompatible v.data = false) := by
  funext v found
  rw [gatherIncompatibleEndpointNodes, collect, CandidateNode.rank]
  cases hv : v.data.type <;> cases hc : endpointIsCompatible v.data <;> simp [NodeType.rank]

theorem gatherIncompatibleProtocolNodes_eq (properties : SelectionProperties) :
    gatherIncompatibleProtocolNodes properties
      = collect Visit.id (fun v => decide (2 < v.data.rank)) fun v =>
        decide (v.data.type = .protocol ∧ protocolIsCompatible properties v.data = false) := by
  funext v found
  rw [gatherIncompatibleProtocolNodes, collect, CandidateNode.rank]
  cases hv : v.data.type <;> cases hc : protocolIsCompatible properties v.data <;>
    simp [NodeType.rank]

theorem gatherIncompatiblePathNodes_eq (properties : SelectionProperties) :
    gatherIncompatiblePathNodes properties
      = collect Visit.id (fun v => decide (1 < v.data.rank)) fun v =>
        decide (v.data.type = .path ∧ pathIsCompatible properties v.data = false) := by
  funext v found
  rw [gatherIncompatiblePathNodes, collect, CandidateNode.rank]
  cases hv : v.data.type <;> cases hc : pathIsCompatible properties v.data <;>
    simp [NodeType.rank]

section

variable {properties : SelectionProperties} {t : CandidateTree}

theorem levelOrder_sorted (h : t.Grown) :
    t.forest.levelOrder.Pairwise fun v w => v.data.rank ≤ w.data.rank :=
  h.linked.levelOrder_sorted Inherits.rank_eq

theorem undesirableNodes_eq (h : t.Grown) (hpath : ∀ l ∈ t.forest.leaves, l.2.type ≠ .path) :
    undesirableNodes properties t
      = (failing properties .endpoint t ++ failing properties .protocol t
          ++ failing properties .path t).map Visit.id := by
  have hsorted := levelOrder_sorted h
  have hnonleaf : ∀ v ∈ t.forest.levelOrder, v.data.type = .path → v.isLeaf = false := by
    intro v hv htype
    obtain ⟨d, hd⟩ := mem_levelOrder hv
    by_contra hleaf
    exact hpath _ (mem_leaves_of_mem_atDepth hd (by simpa using hleaf)) htype
  simp only [undesirableNodes]
  rw [gatherIncompatibleEndpointNodes_eq, gatherIncompatibleProtocolNodes_eq,
    gatherIncompatiblePathNodes_eq, traverse_collect, traverse_collect, traverse_collect,
    takeWhile_eq_filter_of_sorted (k := 3) hsorted fun _ _ => rfl,
    takeWhile_eq_filter_of_sorted (k := 2) hsorted fun _ _ => rfl,
    takeWhile_eq_filter_of_sorted (k := 1) (hsorted.sublist List.filter_sublist) fun _ _ => rfl,
    List.nil_append, List.map_append, List.map_append]
  congr 1
  · congr 1
    · rw [List.filter_filter]
      refine congrArg _ (List.filter_congr fun v _ => ?_)
      cases hv : v.data.type <;> simp [passes, hv, CandidateNode.rank, NodeType.rank]
    · rw [List.filter_filter]
      refine congrArg _ (List.filter_congr fun v _ => ?_)
      cases hv : v.data.type <;> simp [passes, hv, CandidateNode.rank, NodeType.rank]
  · rw [List.filter_filter, List.filter_filter]
    refine congrArg _ (List.filter_congr fun v hmem => ?_)
    have hleaf := hnonleaf v hmem
    cases hv : v.data.type <;> simp [passes, hv, CandidateNode.rank, NodeType.rank]
    intro _
    exact hleaf hv

def doomed (properties : SelectionProperties) (t : CandidateTree) : List (Nat × CandidateNode) :=
  (failing properties .endpoint t ++ failing properties .protocol t
    ++ failing properties .path t).map fun v => (v.id, v.data)

theorem mem_failing {type : NodeType} {v : Visit CandidateNode} :
    v ∈ failing properties type t
      ↔ v ∈ t.forest.levelOrder ∧ v.data.type = type ∧ passes properties v.data = false := by
  rw [failing, List.mem_filter, decide_eq_true_eq]

theorem mem_doomed {l : Nat × CandidateNode} :
    l ∈ doomed properties t ↔ l ∈ t.forest.nodes ∧ passes properties l.2 = false := by
  constructor
  · intro h
    obtain ⟨v, hv, rfl⟩ := List.mem_map.mp h
    simp only [List.mem_append, mem_failing] at hv
    obtain ⟨d, hd⟩ := mem_levelOrder (f := t.forest) (v := v) (by tauto)
    exact ⟨mem_nodes_of_mem_atDepth hd, by tauto⟩
  · rintro ⟨hl, hpass⟩
    obtain ⟨v, hv, rfl⟩ := exists_mem_levelOrder hl
    refine List.mem_map_of_mem ?_
    simp only [List.mem_append, mem_failing]
    cases htype : v.data.type with
    | root => exact absurd hpass (by simp [passes, htype])
    | path => exact Or.inr ⟨hv, rfl, hpass⟩
    | protocol => exact Or.inl (Or.inr ⟨hv, rfl, hpass⟩)
    | endpoint => exact Or.inl (Or.inl ⟨hv, rfl, hpass⟩)

theorem type_of_mem_failing {type : NodeType} {v : Visit CandidateNode}
    (h : v ∈ failing properties type t) : v.data.type = type := (mem_failing.mp h).2.1

theorem doomed_falling :
    (doomed properties t).Pairwise fun l l' => l'.2.rank ≤ l.2.rank := by
  have hblock : ∀ type,
      (failing properties type t).Pairwise fun v w => w.data.rank ≤ v.data.rank := by
    intro type
    refine List.pairwise_iff_forall_sublist.mpr fun {v w} h => ?_
    have hv := type_of_mem_failing (h.subset List.mem_cons_self)
    have hw := type_of_mem_failing (h.subset (List.mem_cons_of_mem _ List.mem_cons_self))
    rw [CandidateNode.rank, CandidateNode.rank, hv, hw]
  rw [doomed, List.pairwise_map, List.pairwise_append, List.pairwise_append]
  refine ⟨⟨hblock _, hblock _, fun v hv w hw => ?_⟩, hblock _, fun v hv w hw => ?_⟩
  · rw [CandidateNode.rank, CandidateNode.rank, type_of_mem_failing hv, type_of_mem_failing hw]
    decide
  · rw [CandidateNode.rank, CandidateNode.rank, type_of_mem_failing hw]
    rcases List.mem_append.mp hv with hv | hv <;> rw [type_of_mem_failing hv] <;> decide

theorem doomed_nodup (h : t.Grown) : ((doomed properties t).map Prod.fst).Nodup := by
  have hlevel := h.linked.nodup_levelOrder Inherits.rank_eq h.nodup
  have hblock : ∀ type, ((failing properties type t).map Visit.id).Nodup := fun type =>
    hlevel.sublist (List.filter_sublist.map _)
  -- two listed nodes of one identity are one visit, hence of one type
  have hne : ∀ {ty ty' : NodeType}, ty ≠ ty' → ∀ v ∈ failing properties ty t,
      ∀ w ∈ failing properties ty' t, v.id ≠ w.id := by
    intro ty ty' hty v hv w hw hid
    have hvw : v = w :=
      List.inj_on_of_nodup_map hlevel (mem_failing.mp hv).1 (mem_failing.mp hw).1 hid
    exact hty ((type_of_mem_failing hv).symm.trans (hvw ▸ type_of_mem_failing hw))
  rw [doomed, List.map_map]
  change (List.map Visit.id _).Nodup
  rw [List.map_append, List.map_append, List.nodup_append, List.nodup_append]
  refine ⟨⟨hblock _, hblock _, ?_⟩, hblock _, ?_⟩
  · intro i hi j hj
    obtain ⟨v, hv, rfl⟩ := List.mem_map.mp hi
    obtain ⟨w, hw, rfl⟩ := List.mem_map.mp hj
    exact hne (by decide) v hv w hw
  · intro i hi j hj
    obtain ⟨w, hw, rfl⟩ := List.mem_map.mp hj
    rw [← List.map_append] at hi
    obtain ⟨v, hv, rfl⟩ := List.mem_map.mp hi
    rcases List.mem_append.mp hv with hv | hv
    · exact hne (by decide) v hv w hw
    · exact hne (by decide) v hv w hw

theorem pruneCandidateTree_eq (properties : SelectionProperties) (h : t.Grown)
    (hpath : ∀ l ∈ t.forest.leaves, l.2.type ≠ .path) :
    ∃ t', pruneCandidateTree properties t = some t' ∧ t'.forest.Linked Inherits none ∧
      t'.forest.nodes = t.forest.nodes.filter fun l => viable properties l.2 := by
  have hids : undesirableNodes properties t = (doomed properties t).map Prod.fst := by
    rw [undesirableNodes_eq h hpath, doomed, List.map_map]
    rfl
  have hremove := h.linked.removeAll_eq Inherits.rank_eq h.nodup
    (fun l (hl : l ∈ doomed properties t) => (mem_doomed.mp hl).1) (doomed_nodup h) doomed_falling
  have hkeep : (t.forest.keep fun i _ => !decide (i ∈ (doomed properties t).map Prod.fst))
      = t.forest.keep fun _ a => passes properties a := by
    refine keep_congr fun l hl => ?_
    rw [Bool.eq_iff_iff, Bool.not_eq_true', decide_eq_false_iff_not]
    constructor
    · intro hnot
      by_contra hpass
      have hdoomed := mem_doomed.mpr ⟨hl, by simpa using hpass⟩
      exact hnot (List.mem_map_of_mem hdoomed)
    · rintro hpass hmem
      obtain ⟨l', hl', heq⟩ := List.mem_map.mp hmem
      obtain ⟨hnode, hfail⟩ := mem_doomed.mp hl'
      rw [h.eq_of_mem hnode hl heq] at hfail
      exact absurd hpass (by simp [hfail])
  refine ⟨⟨t.forest.keep fun _ a => passes properties a, t.nextId⟩, ?_, h.linked.keep, ?_⟩
  · rw [pruneCandidateTree, hids, hremove, hkeep]
    rfl
  · exact (h.linked.nodes_keep (Inherits.viable_eq properties)).1 rfl

end

end CTaps.Gathering
