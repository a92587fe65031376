import CTaps.Gathering.CandidateSet
import CTaps.Gathering.Order

/-! Whatever happens to the lookups, every array handed over is the sorted list of
the leaves of the pruned tree, and each of its candidates combines a resolved
local address with a protocol option. -/

namespace CTaps.Gathering

open Lib

variable {properties : SelectionProperties} {base : CandidateTree} {g : GatherContext}
  {resolver : Resolver} {precon : Preconnection}

/-! ### Along a run -/

structure Coherent (properties : SelectionProperties) (base : CandidateTree) (g : GatherContext) :
    Prop where
  grown : g.tree.Grown
  bottom : ∀ l ∈ g.tree.forest.leaves, l.2.type ≠ .path
  present : ∀ l ∈ base.forest.leaves, l ∈ g.tree.forest.nodes
  origin : ∀ l ∈ g.tree.forest.nodes, l.2.type = .protocol ∨ l.2.type = .endpoint →
    ∃ l' ∈ base.forest.leaves, l.2.localEndpoint = l'.2.localEndpoint ∧
      l.2.protocolCandidate = l'.2.protocolCandidate
  parents : ∀ l ∈ g.outstanding, l.parent ∈ base.forest.leaves
  delivered : ∀ candidates, some candidates ∈ g.ready →
    ∃ t, pruneCandidateTree properties g.tree = some t ∧
      candidates = sortCandidates properties (getDeepCopyLeafNodes g.localOnly t)
  released : g.released = 0 → g.ready = []

theorem Coherent.complete (h : Coherent properties base g) (hr : g.released = 0) :
    Coherent properties base (buildCandidateTreeIsCompleteCb properties g) := by
  have hready := h.released hr
  rw [buildCandidateTreeIsCompleteCb]
  split
  · refine ⟨h.grown, h.bottom, h.present, h.origin, h.parents, ?_, fun h0 => absurd h0 (Nat.succ_ne_zero _)⟩
    intro candidates hmem
    simp [hready] at hmem
  · split
    · exact ⟨h.grown, h.bottom, h.present, h.origin, h.parents, h.delivered, h.released⟩
    · rename_i t hprune
      refine ⟨h.grown, h.bottom, h.present, h.origin, h.parents, ?_, fun h0 => absurd h0 (Nat.succ_ne_zero _)⟩
      intro candidates hmem
      simp only [hready, List.nil_append, List.mem_singleton, Option.some.injEq] at hmem
      exact ⟨t, hprune, hmem⟩

theorem Coherent.use {f : GatherContext → GatherContext} (h : Coherent properties base g)
    (hf : g.released = 0 → Coherent properties base (f g)) : Coherent properties base (g.use f) := by
  rw [GatherContext.use]
  split_ifs with hc hr
  · exact h
  · exact ⟨h.grown, h.bottom, h.present, h.origin, h.parents, h.delivered, h.released⟩
  · exact hf (Nat.eq_zero_of_not_pos hr)

theorem Coherent.withCounters (h : Coherent properties base g) (n m : Nat) (failed : Bool) :
    Coherent properties base
      { g with numInFlight := n, pendingResolutions := m, failed := failed } :=
  ⟨h.grown, h.bottom, h.present, h.origin, h.parents, h.delivered, h.released⟩

section Deliver

variable {parent : Nat × CandidateNode} (hbase : ∀ l ∈ base.forest.leaves, l.2.type = .protocol)

include hbase

theorem Coherent.appendEach (h : Coherent properties base g)
    (hparent : parent ∈ base.forest.leaves) (addresses : List RemoteEndpoint) (n m : Nat)
    (hr : g.released = 0) :
    Coherent properties base { g with
      tree := g.tree.appendEach parent.1 (addresses.map (endpointNode parent.2))
      numInFlight := n
      pendingResolutions := m } := by
  have hmem := h.present _ hparent
  have hready := h.released hr
  have hun : Unreported { g with failed := false, staleUses := 0, crashed := false } :=
    ⟨h.grown, h.bottom, rfl, hready, hr, rfl, rfl⟩
  have htree := hun.appendEach addresses hmem (hbase _ hparent) n m
  have hnodes := Forest.nodes_graft_perm
    (g := Forest.siblings g.tree.nextId (addresses.map (endpointNode parent.2)))
    (Forest.mem_ids_of_mem hmem) h.grown.nodup
  refine ⟨htree.grown, htree.bottom, ?_, ?_, h.parents, ?_, fun _ => hready⟩
  · intro l hl
    rw [CandidateTree.appendEach_eq, hnodes.mem_iff]
    exact List.mem_append_right _ (h.present l hl)
  · intro l hl htype
    rw [CandidateTree.appendEach_eq, hnodes.mem_iff, List.mem_append] at hl
    rcases hl with hl | hl
    · have hdata : l.2 ∈ addresses.map (endpointNode parent.2) := by
        rw [← Forest.data_siblings g.tree.nextId (addresses.map (endpointNode parent.2))]
        exact List.mem_map_of_mem hl
      obtain ⟨remote, _, heq⟩ := List.mem_map.mp hdata
      exact ⟨parent, hparent, by rw [← heq]; exact ⟨rfl, rfl⟩⟩
    · exact h.origin l hl htype
  · intro candidates hmem
    simp [hready] at hmem

theorem Coherent.resolve (h : Coherent properties base g) (hparent : parent ∈ base.forest.leaves)
    (addresses : List RemoteEndpoint) :
    Coherent properties base (remoteEndpointResolveCb properties parent addresses g) := by
  apply h.use
  intro hr
  have h' := h.appendEach hbase hparent addresses (g.numInFlight - 1) (g.pendingResolutions - 1) hr
  dsimp only
  split
  · exact h'.complete hr
  · exact h'

theorem Coherent.lookup (h : Coherent properties base g) {l : Lookup}
    (hl : l.parent ∈ base.forest.leaves) :
    Coherent properties base (onUvGetaddrinfoCb properties g l) := by
  rw [onUvGetaddrinfoCb]
  split
  · exact h
  · split
    · exact h.resolve hbase hl _
    · split
      · exact ⟨h.grown, h.bottom, h.present, h.origin, h.parents, h.delivered, h.released⟩
      · exact h.resolve hbase hl _

omit hbase in
theorem Coherent.abandon (h : Coherent properties base g) :
    Coherent properties base (abandon properties g) := by
  apply h.use
  intro hr
  have h' := h.withCounters (g.numInFlight - 1) (g.numInFlight - 1) true
  dsimp only
  split
  · exact h'.complete hr
  · exact h'

theorem Coherent.branchByRemote (h : Coherent properties base g)
    (hparent : parent ∈ base.forest.leaves) (resolution : Resolution) :
    Coherent properties base (branchByRemote properties parent resolution g).1 := by
  have hqueue : ∀ l : Lookup, l.parent = parent →
      Coherent properties base { g with outstanding := g.outstanding ++ [l] } := by
    rintro l rfl
    refine ⟨h.grown, h.bottom, h.present, h.origin, ?_, h.delivered, h.released⟩
    intro l' hl'
    rcases List.mem_append.mp hl' with hl' | hl'
    · exact h.parents l' hl'
    · rw [List.mem_singleton.mp hl']
      exact hparent
  simp only [Gathering.branchByRemote, hbase _ hparent, ne_eq, not_true_eq_false, if_false]
  cases resolution with
  | sync addresses => exact h.resolve hbase hparent addresses
  | async addresses => exact hqueue ⟨parent, some addresses⟩ rfl
  | asyncFailure => exact hqueue ⟨parent, none⟩ rfl
  | error rc => exact h

theorem Coherent.branchByRemotes {pairs : List ((Nat × CandidateNode) × Resolution)}
    (h : Coherent properties base g) (hpairs : ∀ pair ∈ pairs, pair.1 ∈ base.forest.leaves) :
    Coherent properties base (branchByRemotes properties pairs g).1 := by
  induction pairs generalizing g with
  | nil => exact h
  | cons pair pairs ih =>
    rw [List.forall_mem_cons] at hpairs
    have hcount : Coherent properties base
        (g.use fun g => { g with numInFlight := g.numInFlight + 1 }) :=
      h.use fun _ => h.withCounters (g.numInFlight + 1) g.pendingResolutions g.failed
    have hturn := hcount.branchByRemote hbase hpairs.1 pair.2
    rw [Gathering.branchByRemotes]
    dsimp only
    split
    · exact hturn.abandon
    · exact ih hturn hpairs.2

end Deliver

/-! ### From the call on -/

theorem LocalTree.coherent (h : LocalTree resolver precon base) (properties : SelectionProperties)
    (localOnly : Bool) : Coherent properties base (withTree base localOnly) := by
  have hun := h.unreported localOnly
  refine ⟨hun.grown, hun.bottom, fun l hl => base.forest.leaves_sublist.subset hl, ?_,
    fun l hl => (List.not_mem_nil hl).elim, fun _ hmem => (List.not_mem_nil hmem).elim, fun _ => rfl⟩
  intro l hl htype
  have htype' : l.2.type = .protocol := htype.resolve_right (h.types l hl)
  have hdata : l.2 ∈ base.ofType .protocol :=
    List.mem_filter.mpr ⟨List.mem_map_of_mem hl, decide_eq_true htype'⟩
  rw [h.ofType_protocol, ← h.leaves_eq] at hdata
  obtain ⟨l', hl', heq⟩ := List.mem_map.mp hdata
  exact ⟨l', hl', by rw [heq], by rw [heq]⟩

theorem LocalTree.coherent_call (htree : LocalTree resolver precon base)
    (hbase : buildLocalTree resolver precon = some base) :
    Coherent precon.selectionProperties base (getOrderedCandidateNodes resolver precon).1 := by
  have hbuild : Coherent precon.selectionProperties base
      (Gathering.buildCandidateTree resolver precon (.new false)).1 := by
    have hstart := htree.coherent precon.selectionProperties false
    rw [Gathering.buildCandidateTree, hbase]
    dsimp only
    rw [if_neg (by simp [GatherContext.new])]
    split
    · exact (hstart.withCounters 0 0 true).complete rfl
    · apply (hstart.withCounters 0 _ false).branchByRemotes fun l hl => htree.type_of_mem_leaves hl
      intro pair hpair
      rw [CandidateTree.collectLeaves_eq] at hpair
      exact (mem_resolutions hpair).1
  rw [getOrderedCandidateNodes, gatherNodes]
  dsimp only
  split
  · exact hbuild
  · split
    · exact ⟨hbuild.grown, hbuild.bottom, hbuild.present, hbuild.origin, hbuild.parents,
        hbuild.delivered, fun h0 => absurd h0 (Nat.succ_ne_zero _)⟩
    · exact hbuild

theorem LocalTree.coherent_gather (htree : LocalTree resolver precon base)
    (hbase : buildLocalTree resolver precon = some base) {completions : List Lookup}
    (hmem : ∀ l ∈ completions, l ∈ (getOrderedCandidateNodes resolver precon).1.outstanding) :
    Coherent precon.selectionProperties base (gather resolver precon completions) := by
  have hcall := htree.coherent_call hbase
  have hparents : ∀ l ∈ completions, l.parent ∈ base.forest.leaves :=
    fun l hl => hcall.parents l (hmem l hl)
  rw [gather, ← foldl_eq_run]
  refine foldl_invariant (fun g l hl hg => ?_) hcall
  exact hg.lookup (fun l hl => htree.type_of_mem_leaves hl) (hparents l hl)

theorem LocalTree.coherent_local (htree : LocalTree resolver precon base)
    (hbase : buildLocalTree resolver precon = some base) :
    Coherent precon.selectionProperties base (getOrderedLocalCandidateNodes resolver precon).1 := by
  rw [getOrderedLocal_eq htree hbase]
  exact (htree.coherent precon.selectionProperties true).complete rfl

theorem gatherNodes_of_no_local (h : resolvedLocals resolver precon = []) (localOnly : Bool) :
    gatherNodes resolver precon localOnly
      = ({ GatherContext.new localOnly with crashed := true }, none) := by
  rw [gatherNodes, buildCandidateTree, buildLocalTree_eq_none h]
  rfl

theorem gather_of_no_local (h : resolvedLocals resolver precon = []) (completions : List Lookup) :
    gather resolver precon completions = { GatherContext.new false with crashed := true } := by
  rw [gather, getOrderedCandidateNodes, gatherNodes_of_no_local h]
  induction completions with
  | nil => rfl
  | cons l completions ih => exact ih

/-- The contexts of a preconnection: local-only gathering, or full gathering when some of its
lookups have completed. -/
inductive Gathers (resolver : Resolver) (precon : Preconnection) : GatherContext → Prop
  | localOnly : Gathers resolver precon (getOrderedLocalCandidateNodes resolver precon).1
  | full (completions : List Lookup)
      (hmem : ∀ l ∈ completions, l ∈ (getOrderedCandidateNodes resolver precon).1.outstanding) :
      Gathers resolver precon (gather resolver precon completions)

theorem Gathers.coherent (h : Gathers resolver precon g) {candidates : List CandidateNode}
    (hready : some candidates ∈ g.ready) :
    ∃ base, LocalTree resolver precon base ∧ Coherent precon.selectionProperties base g := by
  by_cases hlocal : resolvedLocals resolver precon = []
  · cases h with
    | localOnly =>
      rw [getOrderedLocalCandidateNodes, gatherNodes_of_no_local hlocal] at hready
      exact (List.not_mem_nil hready).elim
    | full completions hmem =>
      rw [gather_of_no_local hlocal] at hready
      exact (List.not_mem_nil hready).elim
  · obtain ⟨base, hbase, htree⟩ := exists_localTree hlocal
    cases h with
    | localOnly => exact ⟨base, htree, htree.coherent_local hbase⟩
    | full completions hmem => exact ⟨base, htree, htree.coherent_gather hbase hmem⟩

theorem Coherent.of_mem_leaves (h : Coherent properties base g)
    (htree : LocalTree resolver precon base) {t : CandidateTree}
    (hprune : pruneCandidateTree properties g.tree = some t) {c : CandidateNode}
    (hc : c ∈ getDeepCopyLeafNodes g.localOnly t) :
    ∃ pair ∈ candidatePairs resolver precon, c.localEndpoint = some pair.1 ∧
      c.protocolCandidate = some pair.2 ∧ viable properties c = true ∧
      (c.type = .protocol ∨ c.type = .endpoint) := by
  obtain ⟨t', hprune', _, hnodes⟩ := pruneCandidateTree_eq properties h.grown h.bottom
  rw [hprune, Option.some.injEq] at hprune'
  subst hprune'
  rw [getDeepCopyLeafNodes, CandidateTree.collectLeaves_eq, List.mem_filter,
    decide_eq_true_eq] at hc
  obtain ⟨hleaf, htype⟩ := hc
  have htype' : c.type = .protocol ∨ c.type = .endpoint := by
    cases hmode : g.localOnly with
    | true => exact Or.inl (by simpa [hmode] using htype)
    | false => exact Or.inr (by simpa [hmode] using htype)
  obtain ⟨l, hl, rfl⟩ := List.mem_map.mp hleaf
  have hl' := t.forest.leaves_sublist.subset hl
  rw [hnodes, List.mem_filter] at hl'
  obtain ⟨l', hl'', hlocal, hprotocol⟩ := h.origin l hl'.1 htype'
  have hdata : l'.2 ∈ base.forest.leaves.map Prod.snd := List.mem_map_of_mem hl''
  rw [htree.leaves_eq] at hdata
  obtain ⟨pair, hpair, heq⟩ := List.mem_map.mp hdata
  rw [← heq] at hlocal hprotocol
  exact ⟨pair, hpair, hlocal, hprotocol, hl'.2, htype'⟩

/-! ### The order of the candidates -/

structure InOrder (desired : SelectionProperties) (leaves candidates : List CandidateNode) :
    Prop where
  perm : candidates.Perm leaves
  prefer : candidates.Pairwise fun a b =>
    (ofLex (b.score desired)).1 ≤ (ofLex (a.score desired)).1
  avoid : candidates.Pairwise fun a b =>
    (ofLex (a.score desired)).1 = (ofLex (b.score desired)).1 →
      (ofLex (b.score desired)).2 ≤ (ofLex (a.score desired)).2
  stable : ∀ s, candidates.filter (fun c => c.score desired = s)
    = leaves.filter fun c => c.score desired = s

theorem inOrder_sortCandidates {desired : SelectionProperties} {leaves : List CandidateNode}
    (h : ∀ c ∈ leaves, c.protocolCandidate.isSome = true) :
    InOrder desired leaves (sortCandidates desired leaves) := by
  rw [sortCandidates_eq_byKey h]
  have hsorted := byKey_pairwise (CandidateNode.score desired) leaves
  refine ⟨byKey_perm _ leaves, hsorted.imp ?_, hsorted.imp ?_, filter_byKey _ leaves⟩
  · intro a b hab
    rcases Prod.Lex.le_iff.mp hab with hlt | heq
    · exact hlt.le
    · exact heq.1.le
  · intro a b hab heq
    rcases Prod.Lex.le_iff.mp hab with hlt | hle
    · exact absurd heq hlt.ne'
    · exact hle.2

/-- The comparison orders the candidates of any array by their scores, and every array handed over
is sorted by it. -/
theorem candidates_in_order (desired : SelectionProperties) :
    (∀ (a b : CandidateNode) (p q : ProtocolCandidate), a.protocolCandidate = some p →
      b.protocolCandidate = some q →
      a.score desired
          = toLex (preferScore desired p.protocolImpl, avoidScore desired p.protocolImpl) ∧
        (comparePreferAndAvoidPreferences desired a b < 0 ↔ b.score desired < a.score desired) ∧
        (comparePreferAndAvoidPreferences desired a b = 0 ↔ a.score desired = b.score desired) ∧
        (0 < comparePreferAndAvoidPreferences desired a b ↔ a.score desired < b.score desired)) ∧
    (∀ a b : CandidateNode, a.protocolCandidate.isSome → b.protocolCandidate.isSome →
      comparePreferAndAvoidPreferences desired a b ≤ 0 ∨
        comparePreferAndAvoidPreferences desired b a ≤ 0) ∧
    (∀ a b c : CandidateNode, a.protocolCandidate.isSome → b.protocolCandidate.isSome →
      c.protocolCandidate.isSome → comparePreferAndAvoidPreferences desired a b ≤ 0 →
      comparePreferAndAvoidPreferences desired b c ≤ 0 →
      comparePreferAndAvoidPreferences desired a c ≤ 0) ∧
    (∀ candidates : List CandidateNode, (∀ c ∈ candidates, c.protocolCandidate.isSome) →
      InOrder desired candidates (sortCandidates desired candidates)) ∧
    (∀ (resolver : Resolver) (precon : Preconnection) (g : GatherContext),
      precon.selectionProperties = desired → Gathers resolver precon g →
      ∀ candidates, some candidates ∈ g.ready →
        ∃ t, pruneCandidateTree desired g.tree = some t ∧
          (∀ c ∈ candidates, c.protocolCandidate.isSome) ∧
          InOrder desired (getDeepCopyLeafNodes g.localOnly t) candidates) := by
  have hnonpos : ∀ a b : CandidateNode, a.protocolCandidate.isSome → b.protocolCandidate.isSome →
      (comparePreferAndAvoidPreferences desired a b ≤ 0 ↔ b.score desired ≤ a.score desired) := by
    intro a b ha hb
    obtain ⟨p, hp⟩ := Option.isSome_iff_exists.mp ha
    obtain ⟨q, hq⟩ := Option.isSome_iff_exists.mp hb
    exact comparePreferAndAvoidPreferences_nonpos hp hq
  refine ⟨?_, ?_, ?_, fun candidates h => inOrder_sortCandidates h, ?_⟩
  · intro a b p q hp hq
    have hab := hnonpos a b (by simp [hp]) (by simp [hq])
    have hba := hnonpos b a (by simp [hq]) (by simp [hp])
    rw [comparePreferAndAvoidPreferences_neg hp hq] at hba
    refine ⟨CandidateNode.score_of_some hp, ?_, ?_, ?_⟩
    · rw [← not_le (a := a.score desired), ← hba]
      omega
    · rw [le_antisymm_iff (a := a.score desired), ← hab, ← hba]
      omega
    · rw [← not_le (a := b.score desired), ← hab]
      omega
  · intro a b ha hb
    rw [hnonpos a b ha hb, hnonpos b a hb ha]
    exact le_total _ _
  · intro a b c ha hb hc hab hbc
    rw [hnonpos a b ha hb] at hab
    rw [hnonpos b c hb hc] at hbc
    exact (hnonpos a c ha hc).mpr (hbc.trans hab)
  · rintro resolver precon g rfl hg candidates hready
    obtain ⟨base, htree, hcoherent⟩ := hg.coherent hready
    obtain ⟨t, hprune, rfl⟩ := hcoherent.delivered candidates hready
    have hsome : ∀ c ∈ getDeepCopyLeafNodes g.localOnly t, c.protocolCandidate.isSome = true := by
      intro c hc
      obtain ⟨pair, _, _, hprotocol, _⟩ := hcoherent.of_mem_leaves htree hprune hc
      rw [hprotocol]
      rfl
    have horder : InOrder precon.selectionProperties _ _ := inOrder_sortCandidates hsome
    exact ⟨t, hprune, fun c hc => hsome c (horder.perm.subset hc), horder⟩

theorem candidates_in_order_reliable :
    comparePreferAndAvoidPreferences
        (fun i => .preference (if i = .reliability then .prefer else .noPreference))
        ⟨.protocol, none, none, some ⟨.tcp, none⟩⟩ ⟨.protocol, none, none, some ⟨.udp, none⟩⟩ < 0 :=
  (((candidates_in_order _).1 _ _ ⟨.tcp, none⟩ ⟨.udp, none⟩ rfl rfl).2.1).mpr (by decide)

end CTaps.Gathering
