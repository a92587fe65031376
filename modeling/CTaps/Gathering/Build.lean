import CTaps.Gathering.Model

/-! The tree down to the protocol nodes. Its leaves are, from left to right, all
options of the first resolved local address, then all options of the second, and
so on; without any address the assertion on the type of the leaves fails. -/

namespace CTaps.Gathering

open Lib

def resolvedLocals (resolver : Resolver) (precon : Preconnection) : List LocalEndpoint :=
  precon.localEndpointsOrEphemeral.flatMap resolver.localEndpointResolve

theorem protocolOptions_ne_nil (alpns : List String) : protocolOptions alpns ≠ [] := by
  rw [protocolOptions, Protocol.supported, List.flatMap_cons]
  simp [Protocol.supportsAlpn]

theorem CandidateTree.appendEach_append (t : CandidateTree) (parent : Nat)
    (as bs : List CandidateNode) :
    t.appendEach parent (as ++ bs) = (t.appendEach parent as).appendEach parent bs :=
  List.foldl_append

theorem foldl_branchByPath (resolve : LocalEndpoint → List LocalEndpoint) (t : CandidateTree)
    (eps : List LocalEndpoint) :
    eps.foldl (branchByPath resolve) t = t.appendEach 0 ((eps.flatMap resolve).map pathNode) := by
  induction eps generalizing t with
  | nil => rfl
  | cons ep eps ih =>
    rw [List.foldl_cons, ih, branchByPath, List.flatMap_cons, List.map_append,
      CandidateTree.appendEach_append]

theorem appendEach_new_forest (nodes : List CandidateNode) :
    (CandidateTree.new.appendEach 0 nodes).forest
      = .node 0 ⟨.root, none, none, none⟩ (Forest.siblings 1 nodes) .nil := by
  rw [CandidateTree.appendEach_eq]
  rfl

theorem grown_appendEach_new (ps : List LocalEndpoint) :
    (CandidateTree.new.appendEach 0 (ps.map pathNode)).Grown := by
  refine CandidateTree.grown_new.appendEach (by decide) ?_
  intro a ha node hnode
  obtain ⟨p, _, rfl⟩ := List.mem_map.mp hnode
  have hroot : a = ⟨.root, none, none, none⟩ := by
    simpa [CandidateTree.new, Forest.siblings, Forest.nodes] using ha
  subst hroot
  rfl

theorem leaves_appendEach_new {ps : List LocalEndpoint} (h : ps ≠ []) :
    (CandidateTree.new.appendEach 0 (ps.map pathNode)).forest.leaves
      = (Forest.siblings 1 (ps.map pathNode)).nodes := by
  have hne : Forest.siblings 1 (ps.map pathNode) ≠ .nil := by
    cases ps with
    | nil => exact absurd rfl h
    | cons p ps => exact Forest.node_ne_nil
  rw [appendEach_new_forest, Forest.leaves_node_of_ne_nil hne, Forest.leaves_siblings]
  simp [Forest.leaves]

theorem type_of_mem_paths {ps : List LocalEndpoint} {l : Nat × CandidateNode}
    (hl : l ∈ (Forest.siblings 1 (ps.map pathNode)).nodes) : l.2.type = .path := by
  have hdata : l.2 ∈ ps.map pathNode := by
    rw [← Forest.data_siblings 1 (ps.map pathNode)]
    exact List.mem_map_of_mem hl
  obtain ⟨p, _, hp⟩ := List.mem_map.mp hdata
  rw [← hp]
  rfl

section Protocols

variable {t : CandidateTree}

theorem inherits_protocolNode {parent : CandidateNode} (h : parent.type = .path)
    (option : ProtocolCandidate) : Inherits (some parent) (protocolNode parent option) := by
  simp only [Inherits, h]
  exact ⟨rfl, rfl⟩

theorem foldlM_branchByProtocolOptions (alpns : List String) {ls ds : List (Nat × CandidateNode)}
    (h : t.Grown)
    (hleaves : t.forest.leaves = ds ++ ls) (htype : ∀ l ∈ ls, l.2.type = .path) :
    ∃ t' os, ls.foldlM (branchByProtocolOptions alpns) t = some t' ∧ t'.Grown ∧
      t'.forest.leaves = ds ++ os ∧
      os.map Prod.snd = ls.flatMap (fun l => (protocolOptions alpns).map (protocolNode l.2)) ∧
      ∀ l ∈ t'.forest.nodes, l ∈ t.forest.nodes ∨ l.2.type = .protocol := by
  induction ls generalizing t ds with
  | nil => exact ⟨t, [], rfl, h, hleaves, rfl, fun l hl => Or.inl hl⟩
  | cons l ls ih =>
    rw [List.forall_mem_cons] at htype
    set nodes := (protocolOptions alpns).map (protocolNode l.2) with hnodes
    have hmem : l ∈ t.forest.nodes := t.forest.leaves_sublist.subset (by simp [hleaves])
    have hparent := Forest.mem_ids_of_mem hmem
    have hne : Forest.siblings t.nextId nodes ≠ .nil := by
      cases hn : nodes with
      | nil => exact absurd (List.map_eq_nil_iff.mp (hnodes ▸ hn)) (protocolOptions_ne_nil alpns)
      | cons a as => exact Forest.node_ne_nil
    have hgrown : (t.appendEach l.1 nodes).Grown := by
      refine h.appendEach hparent fun a ha node hnode => ?_
      obtain ⟨option, _, rfl⟩ := List.mem_map.mp hnode
      have hal : (l.1, a) = l := h.eq_of_mem ha hmem rfl
      have ha' : a = l.2 := congrArg Prod.snd hal
      exact ha' ▸ inherits_protocolNode htype.1 option
    have hleaves' : (t.appendEach l.1 nodes).forest.leaves
        = ds ++ (Forest.siblings t.nextId nodes).nodes ++ ls := by
      rw [CandidateTree.appendEach_eq, Forest.leaves_graft_of_eq hne h.nodup hleaves,
        Forest.leaves_siblings]
    obtain ⟨t', os, hfold, hgrown', hos, hdata, hold⟩ := ih hgrown hleaves' htype.2
    refine ⟨t', (Forest.siblings t.nextId nodes).nodes ++ os, ?_, hgrown', ?_, ?_, ?_⟩
    · rw [List.foldlM_cons, branchByProtocolOptions, if_pos htype.1]
      exact hfold
    · rw [hos, List.append_assoc]
    · rw [List.map_append, Forest.data_siblings, hdata, List.flatMap_cons]
    · intro l' hl'
      rcases hold l' hl' with h' | h'
      · rw [CandidateTree.appendEach_eq, (Forest.nodes_graft_perm hparent h.nodup).mem_iff,
          List.mem_append] at h'
        rcases h' with h' | h'
        · right
          have hdata' : l'.2 ∈ nodes := by
            rw [← Forest.data_siblings t.nextId nodes]
            exact List.mem_map_of_mem h'
          obtain ⟨option, _, ho⟩ := List.mem_map.mp hdata'
          rw [← ho]
          rfl
        · exact Or.inl h'
      · exact Or.inr h'

end Protocols

structure LocalTree (resolver : Resolver) (precon : Preconnection) (t : CandidateTree) : Prop where
  grown : t.Grown
  leaves : t.forest.leaves.map Prod.snd = (resolvedLocals resolver precon).flatMap fun p =>
    (protocolOptions precon.alpns).map (protocolNode (pathNode p))
  types : ∀ l ∈ t.forest.nodes, l.2.type ≠ .endpoint

variable {resolver : Resolver} {precon : Preconnection}

theorem exists_localTree (h : resolvedLocals resolver precon ≠ []) :
    ∃ t, buildLocalTree resolver precon = some t ∧ LocalTree resolver precon t := by
  set ps := (resolvedLocals resolver precon).map pathNode with hps
  have hleaves : (CandidateTree.new.appendEach 0 ps).forest.leaves
      = [] ++ (Forest.siblings 1 ps).nodes := leaves_appendEach_new h
  have htype : ∀ l ∈ (Forest.siblings 1 ps).nodes, l.2.type = .path :=
    fun l hl => type_of_mem_paths hl
  obtain ⟨t, os, hfold, hgrown, hos, hdata, hold⟩ :=
    foldlM_branchByProtocolOptions precon.alpns (grown_appendEach_new _) hleaves htype
  refine ⟨t, ?_, hgrown, ?_, ?_⟩
  · simp only [buildLocalTree]
    rw [foldl_branchByPath, CandidateTree.collectLeaves_eq]
    change (CandidateTree.new.appendEach 0 ps).forest.leaves.foldlM _ _ = _
    rw [hleaves]
    exact hfold
  · rw [hos, List.nil_append, hdata]
    have hmap := congrArg (List.flatMap fun a => (protocolOptions precon.alpns).map (protocolNode a))
      (Forest.data_siblings 1 ps)
    rw [List.flatMap_map] at hmap
    rw [hmap, hps, List.flatMap_map]
  · intro l hl htype'
    rcases hold l hl with h' | h'
    · rw [appendEach_new_forest, Forest.nodes, List.mem_cons, List.mem_append] at h'
      rcases h' with rfl | h' | h'
      · exact absurd htype' (by simp)
      · exact absurd ((htype l h').symm.trans htype') (by simp)
      · exact absurd h' (by simp [Forest.nodes])
    · exact absurd (h'.symm.trans htype') (by simp)

theorem buildLocalTree_eq_none (h : resolvedLocals resolver precon = []) :
    buildLocalTree resolver precon = none := by
  rw [resolvedLocals] at h
  simp only [buildLocalTree]
  rw [foldl_branchByPath, h]
  rfl

theorem LocalTree.length_leaves {t : CandidateTree} (h : LocalTree resolver precon t) :
    t.forest.leaves.length
      = (resolvedLocals resolver precon).length * (protocolOptions precon.alpns).length := by
  have hlen := congrArg List.length h.leaves
  rw [List.length_map, List.length_flatMap] at hlen
  simpa using hlen

theorem LocalTree.type_of_mem_leaves {t : CandidateTree} (h : LocalTree resolver precon t)
    {l : Nat × CandidateNode} (hl : l ∈ t.forest.leaves) : l.2.type = .protocol := by
  have hdata : l.2 ∈ t.forest.leaves.map Prod.snd := List.mem_map_of_mem hl
  rw [h.leaves, List.mem_flatMap] at hdata
  obtain ⟨p, _, hp⟩ := hdata
  obtain ⟨option, _, ho⟩ := List.mem_map.mp hp
  rw [← ho]
  rfl

end CTaps.Gathering
