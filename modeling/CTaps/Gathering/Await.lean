import CTaps.Gathering.Build
import CTaps.Gathering.Prune

/-! While lookups are to come the gather context waits for exactly them, and the
endpoint nodes of the tree together with what the lookups will deliver are a
fixed multiset; the last delivery hands over the viable ones among them. -/

namespace CTaps.Gathering

open Lib

variable {properties : SelectionProperties} {g : GatherContext}

/-! ### The end of gathering -/

def CandidateTree.ofType (t : CandidateTree) (type : NodeType) : List CandidateNode :=
  (t.forest.nodes.map Prod.snd).filter fun node => node.type = type

theorem CandidateTree.ofType_of_viable {t t' : CandidateTree} {type : NodeType}
    (h : t'.forest.nodes = t.forest.nodes.filter fun l => viable properties l.2) :
    t'.ofType type = (t.ofType type).filter (viable properties) := by
  have hmap : (t.forest.nodes.filter fun l => viable properties l.2).map Prod.snd
      = (t.forest.nodes.map Prod.snd).filter (viable properties) := by
    rw [List.filter_map]
    rfl
  rw [ofType, ofType, h, hmap, List.filter_filter, List.filter_filter]
  exact List.filter_congr fun node _ => Bool.and_comm _ _

theorem getDeepCopyLeafNodes_eq {R : Option CandidateNode → CandidateNode → Prop} (localOnly : Bool)
    {t : CandidateTree} (hlinked : t.forest.Linked R none)
    (hbottom : ∀ a b, R (some a) b → a.type ≠ if localOnly then .protocol else .endpoint) :
    getDeepCopyLeafNodes localOnly t = t.ofType (if localOnly then .protocol else .endpoint) := by
  have hleaves := hlinked.filter_leaves
    (T := fun node => decide (node.type = if localOnly then .protocol else .endpoint))
    fun a b hab => decide_eq_false (hbottom a b hab)
  rw [getDeepCopyLeafNodes, CandidateTree.ofType, CandidateTree.collectLeaves_eq, List.filter_map,
    List.filter_map]
  exact congrArg _ hleaves

structure Finished (properties : SelectionProperties) (all : List CandidateNode)
    (g : GatherContext) : Prop where
  ready : ∃ candidates, g.ready = [some candidates] ∧
    candidates.Perm (all.filter (viable properties))
  released : g.released = 1
  staleUses : g.staleUses = 0
  crashed : g.crashed = false

structure Unreported (g : GatherContext) : Prop where
  grown : g.tree.Grown
  bottom : ∀ l ∈ g.tree.forest.leaves, l.2.type ≠ .path
  failed : g.failed = false
  ready : g.ready = []
  released : g.released = 0
  staleUses : g.staleUses = 0
  crashed : g.crashed = false

theorem Unreported.finish (properties : SelectionProperties) {all : List CandidateNode}
    (h : Unreported g)
    (hall : (g.tree.ofType (if g.localOnly then .protocol else .endpoint)).Perm all)
    (hlocal : g.localOnly = true → ∀ l ∈ g.tree.forest.nodes, l.2.type ≠ .endpoint) :
    Finished properties all (buildCandidateTreeIsCompleteCb properties g) := by
  obtain ⟨t, hprune, hlinked, hnodes⟩ :=
    pruneCandidateTree_eq properties h.grown h.bottom
  have hleaves : getDeepCopyLeafNodes g.localOnly t
      = t.ofType (if g.localOnly then .protocol else .endpoint) := by
    cases hmode : g.localOnly with
    | false =>
      exact getDeepCopyLeafNodes_eq false hlinked fun a b hab =>
        hab.parent_ne_endpoint
    | true =>
      have hsub : ∀ l ∈ t.forest.nodes, l.2.type ≠ .endpoint := by
        intro l hl
        rw [hnodes] at hl
        exact hlocal hmode l (List.mem_of_mem_filter hl)
      have hlinked' := hlinked.and_forall (P := fun node => node.type ≠ .endpoint) hsub
      refine getDeepCopyLeafNodes_eq true hlinked' ?_
      rintro a b ⟨hab, hb⟩ ha
      rw [if_pos rfl] at ha
      simp only [Inherits, ha] at hab
      exact hb hab.1
  have hperm : (sortCandidates properties (getDeepCopyLeafNodes g.localOnly t)).Perm
      (all.filter (viable properties)) := by
    rw [hleaves, CandidateTree.ofType_of_viable hnodes]
    exact (sortCandidates_perm _ _).trans (hall.filter _)
  have hcb : buildCandidateTreeIsCompleteCb properties g = { g with
      ready := g.ready ++ [some (sortCandidates properties (getDeepCopyLeafNodes g.localOnly t))]
      released := g.released + 1 } := by
    rw [buildCandidateTreeIsCompleteCb, h.failed, hprune]
    rfl
  rw [hcb]
  refine ⟨⟨_, ?_, hperm⟩, ?_, h.staleUses, h.crashed⟩
  · rw [h.ready]
    rfl
  · exact congrArg (· + 1) h.released

/-! ### Waiting for lookups -/

def Lookup.nodes (l : Lookup) : List CandidateNode :=
  (l.outcome.getD []).map (endpointNode l.parent.2)

structure Awaiting (base : CandidateTree) (all : List CandidateNode) (todo : List Lookup)
    (g : GatherContext) : Prop where
  unreported : Unreported g
  localOnly : g.localOnly = false
  present : ∀ l ∈ base.forest.leaves, l ∈ g.tree.forest.nodes
  parents : ∀ l ∈ todo, l.parent ∈ base.forest.leaves
  endpoints : (g.tree.ofType .endpoint ++ todo.flatMap Lookup.nodes).Perm all
  pending : g.pendingResolutions = todo.length

def Phase (properties : SelectionProperties) (base : CandidateTree) (all : List CandidateNode)
    (todo : List Lookup) (g : GatherContext) : Prop :=
  (todo ≠ [] → Awaiting base all todo g) ∧ (todo = [] → Finished properties all g)

variable {base : CandidateTree} {all : List CandidateNode} {todo todo' : List Lookup} {l : Lookup}

theorem Awaiting.perm (h : Awaiting base all todo g) (hp : todo.Perm todo') :
    Awaiting base all todo' g where
  unreported := h.unreported
  localOnly := h.localOnly
  present := h.present
  parents l hl := h.parents l (hp.mem_iff.mpr hl)
  endpoints := ((hp.flatMap_right _).symm.append_left _).trans h.endpoints
  pending := h.pending.trans hp.length_eq

theorem Awaiting.withInFlight (h : Awaiting base all todo g) (n : Nat) (ls : List Lookup) :
    Awaiting base all todo { g with numInFlight := n, outstanding := ls } where
  unreported := ⟨h.unreported.grown, h.unreported.bottom, h.unreported.failed,
    h.unreported.ready, h.unreported.released, h.unreported.staleUses, h.unreported.crashed⟩
  localOnly := h.localOnly
  present := h.present
  parents := h.parents
  endpoints := h.endpoints
  pending := h.pending

theorem GatherContext.use_of_live {f : GatherContext → GatherContext} (hc : g.crashed = false)
    (hr : g.released = 0) : g.use f = f g := by
  rw [use, hc, hr]
  rfl

theorem inherits_endpointNode {parent : CandidateNode} (h : parent.type = .protocol)
    (remote : RemoteEndpoint) : Inherits (some parent) (endpointNode parent remote) := by
  simp only [Inherits, h]
  exact ⟨rfl, rfl, rfl⟩

section Deliver

variable {parent : Nat × CandidateNode} {addresses : List RemoteEndpoint}

theorem Unreported.appendEach (addresses : List RemoteEndpoint) (h : Unreported g)
    (hparent : parent ∈ g.tree.forest.nodes)
    (htype : parent.2.type = .protocol) (n m : Nat) :
    Unreported { g with
      tree := g.tree.appendEach parent.1 (addresses.map (endpointNode parent.2))
      numInFlight := n
      pendingResolutions := m } := by
  have hids := Forest.mem_ids_of_mem hparent
  refine ⟨?_, ?_, h.failed, h.ready, h.released, h.staleUses, h.crashed⟩
  · refine h.grown.appendEach hids fun a ha node hnode => ?_
    obtain ⟨remote, _, rfl⟩ := List.mem_map.mp hnode
    have hap : (parent.1, a) = parent := h.grown.eq_of_mem ha hparent rfl
    have ha' : a = parent.2 := congrArg Prod.snd hap
    exact ha' ▸ inherits_endpointNode htype remote
  · intro l hl
    rw [CandidateTree.appendEach_eq] at hl
    rcases Forest.mem_leaves_of_mem_graft hl with h' | h'
    · exact h.bottom l h'
    · rw [Forest.leaves_siblings] at h'
      have hdata : l.2 ∈ addresses.map (endpointNode parent.2) := by
        rw [← Forest.data_siblings g.tree.nextId (addresses.map (endpointNode parent.2))]
        exact List.mem_map_of_mem h'
      obtain ⟨remote, _, hr⟩ := List.mem_map.mp hdata
      rw [← hr]
      simp [endpointNode]

theorem CandidateTree.Grown.ofType_appendEach {t : CandidateTree} (h : t.Grown)
    (hparent : parent ∈ t.forest.nodes) :
    ((t.appendEach parent.1 (addresses.map (endpointNode parent.2))).ofType .endpoint).Perm
      (t.ofType .endpoint ++ addresses.map (endpointNode parent.2)) := by
  set nodes := addresses.map (endpointNode parent.2) with hnodes
  have hall : nodes.filter (fun node => node.type = .endpoint) = nodes := by
    rw [List.filter_eq_self]
    intro node hnode
    obtain ⟨remote, _, rfl⟩ := List.mem_map.mp hnode
    simp [endpointNode]
  have hperm := (Forest.nodes_graft_perm (g := Forest.siblings t.nextId nodes)
    (Forest.mem_ids_of_mem hparent) h.nodup).map Prod.snd
  rw [List.map_append, Forest.data_siblings] at hperm
  rw [CandidateTree.appendEach_eq]
  refine (hperm.filter _).trans ?_
  rw [List.filter_append, hall]
  exact List.perm_append_comm

theorem Awaiting.deliver (properties : SelectionProperties) (h : Awaiting base all (l :: todo) g)
    (hbase : ∀ l ∈ base.forest.leaves, l.2.type = .protocol) (hl : l.outcome = some addresses) :
    Phase properties base all todo (remoteEndpointResolveCb properties l.parent addresses g) := by
  have hparent := h.parents l List.mem_cons_self
  have htype := hbase _ hparent
  have hmem := h.present _ hparent
  have hun := h.unreported
  have hnodes : l.nodes = addresses.map (endpointNode l.parent.2) := by rw [Lookup.nodes, hl]; rfl
  have hpend : g.pendingResolutions - 1 = todo.length := by
    rw [h.pending, List.length_cons, Nat.add_sub_cancel]
  rw [remoteEndpointResolveCb, GatherContext.use_of_live hun.crashed hun.released]
  simp only [hpend]
  have hun' := hun.appendEach addresses hmem htype (g.numInFlight - 1) todo.length
  have hend : ((g.tree.appendEach l.parent.1 (addresses.map (endpointNode l.parent.2))).ofType
      .endpoint ++ todo.flatMap Lookup.nodes).Perm all := by
    refine List.Perm.trans ?_ h.endpoints
    rw [List.flatMap_cons, ← List.append_assoc, hnodes]
    exact (hun.grown.ofType_appendEach hmem).append_right _
  constructor
  · intro hne
    have hlen : todo.length ≠ 0 := by simpa using hne
    rw [if_neg hlen]
    refine ⟨hun', h.localOnly, ?_, fun l' hl' => h.parents l' (List.mem_cons_of_mem _ hl'), hend,
      rfl⟩
    intro l' hl'
    rw [CandidateTree.appendEach_eq, (Forest.nodes_graft_perm (Forest.mem_ids_of_mem hmem)
      hun.grown.nodup).mem_iff]
    exact List.mem_append_right _ (h.present l' hl')
  · rintro rfl
    rw [if_pos List.length_nil]
    refine hun'.finish properties ?_ ?_
    · simpa [h.localOnly] using hend
    · intro hlocal
      exact absurd (h.localOnly.symm.trans hlocal) (by simp)

end Deliver

theorem Phase.run_append {done : List Lookup} (h : Phase properties base all (done ++ todo) g)
    (hbase : ∀ l ∈ base.forest.leaves, l.2.type = .protocol)
    (hdone : ∀ l ∈ done, l.outcome.isSome = true) :
    Phase properties base all todo (run (onUvGetaddrinfoCb properties) g done) := by
  induction done generalizing g with
  | nil => exact h
  | cons l done ih =>
    rw [List.forall_mem_cons] at hdone
    have haw := h.1 (by simp)
    obtain ⟨addresses, hl⟩ := Option.isSome_iff_exists.mp hdone.1
    have hstep : onUvGetaddrinfoCb properties g l
        = remoteEndpointResolveCb properties l.parent addresses g := by
      rw [onUvGetaddrinfoCb, haw.unreported.crashed, hl]
      rfl
    rw [run_cons, hstep]
    exact ih (haw.deliver properties hbase hl) hdone.2

end CTaps.Gathering
