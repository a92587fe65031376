import CTaps.Gathering.Candidate

/-! Building the tree level by level, pruning it from the bottom up and reading the candidates off
its leaves. Nodes are numbered in the order in which they are created. -/

namespace CTaps.Gathering

open Lib

structure CandidateTree where
  forest : Forest CandidateNode
  nextId : Nat
  deriving DecidableEq, Repr

namespace CandidateTree

def new : CandidateTree := ⟨Forest.siblings 0 [⟨.root, none, none, none⟩], 1⟩

def appendData (t : CandidateTree) (parent : Nat) (node : CandidateNode) : CandidateTree :=
  ⟨t.forest.graft parent (Forest.siblings t.nextId [node]), t.nextId + 1⟩

def appendEach (t : CandidateTree) (parent : Nat) (nodes : List CandidateNode) : CandidateTree :=
  nodes.foldl (fun t node => t.appendData parent node) t

def collectLeaves (t : CandidateTree) : List (Nat × CandidateNode) :=
  (t.forest.inOrder.filter (·.isLeaf)).map fun v => (v.id, v.data)

end CandidateTree

/-! ### Branching -/

def pathNode (localEndpoint : LocalEndpoint) : CandidateNode :=
  ⟨.path, some localEndpoint, none, none⟩

def protocolNode (parent : CandidateNode) (candidate : ProtocolCandidate) : CandidateNode :=
  ⟨.protocol, parent.localEndpoint, none, some candidate⟩

def endpointNode (parent : CandidateNode) (remoteEndpoint : RemoteEndpoint) : CandidateNode :=
  ⟨.endpoint, parent.localEndpoint, some remoteEndpoint, parent.protocolCandidate⟩

def branchByPath (localEndpointResolve : LocalEndpoint → List LocalEndpoint) (t : CandidateTree)
    (localEndpoint : LocalEndpoint) : CandidateTree :=
  t.appendEach 0 ((localEndpointResolve localEndpoint).map pathNode)

/-- One option per ALPN for a protocol that negotiates one, otherwise one without. -/
def protocolOptions (alpns : List String) : List ProtocolCandidate :=
  Protocol.supported.flatMap fun protocol =>
    if protocol.supportsAlpn ∧ alpns.length > 0 then alpns.map fun alpn => ⟨protocol, some alpn⟩
    else [⟨protocol, none⟩]

def branchByProtocolOptions (alpns : List String) (t : CandidateTree)
    (parent : Nat × CandidateNode) : Option CandidateTree :=
  if parent.2.type = .path then
    some (t.appendEach parent.1 ((protocolOptions alpns).map (protocolNode parent.2)))
  else none

/-! ### Pruning -/

open Forest (Visit) in
def gatherIncompatibleEndpointNodes (v : Visit CandidateNode) (found : List Nat) :
    List Nat × Bool :=
  match v.data.type with
  | .root | .path | .protocol => (found, false)
  | .endpoint => (if endpointIsCompatible v.data then found else found ++ [v.id], false)

open Forest (Visit) in
def gatherIncompatibleProtocolNodes (properties : SelectionProperties) (v : Visit CandidateNode)
    (found : List Nat) : List Nat × Bool :=
  match v.data.type with
  | .root | .path => (found, false)
  | .endpoint => (found, true)
  | .protocol =>
    (if protocolIsCompatible properties v.data then found else found ++ [v.id], false)

open Forest (Visit) in
def gatherIncompatiblePathNodes (properties : SelectionProperties) (v : Visit CandidateNode)
    (found : List Nat) : List Nat × Bool :=
  match v.data.type with
  | .root => (found, false)
  | .path => (if pathIsCompatible properties v.data then found else found ++ [v.id], false)
  | .protocol | .endpoint => (found, true)

def undesirableNodes (properties : SelectionProperties) (t : CandidateTree) : List Nat :=
  let visits := t.forest.levelOrder
  let found := Forest.traverse gatherIncompatibleEndpointNodes visits []
  let found := Forest.traverse (gatherIncompatibleProtocolNodes properties) visits found
  Forest.traverse (gatherIncompatiblePathNodes properties) (visits.filter fun v => !v.isLeaf) found

/-- Removes the undesirable nodes. Fails when a node of the deletion list has already been
released together with one of its ancestors. -/
def pruneCandidateTree (properties : SelectionProperties) (t : CandidateTree) :
    Option CandidateTree :=
  (t.forest.removeAll (undesirableNodes properties t)).map fun forest => ⟨forest, t.nextId⟩

/-- The leaves of the bottom layer: protocol nodes when only local candidates are wanted, endpoint
nodes otherwise. -/
def getDeepCopyLeafNodes (localOnly : Bool) (t : CandidateTree) : List CandidateNode :=
  (t.collectLeaves.map Prod.snd).filter fun node =>
    node.type = if localOnly then .protocol else .endpoint

/-! ### The tree while it grows -/

structure CandidateTree.Grown (t : CandidateTree) : Prop where
  nodup : t.forest.ids.Nodup
  lt_nextId : ∀ i ∈ t.forest.ids, i < t.nextId
  linked : t.forest.Linked Inherits none

namespace CandidateTree

variable {t : CandidateTree} {parent : Nat} {nodes : List CandidateNode}

theorem appendEach_eq (t : CandidateTree) (parent : Nat) (nodes : List CandidateNode) :
    t.appendEach parent nodes
      = ⟨t.forest.graft parent (Forest.siblings t.nextId nodes), t.nextId + nodes.length⟩ := by
  induction nodes generalizing t with
  | nil => simp [appendEach, Forest.siblings, Forest.graft_nil]
  | cons node nodes ih =>
    have h := ih (t.appendData parent node)
    rw [appendEach] at h
    rw [appendEach, List.foldl_cons, h, appendData, Forest.graft_graft]
    simp [Forest.siblings, Forest.append]
    omega

theorem grown_new : new.Grown := by
  refine ⟨by decide, by decide, ?_⟩
  exact Forest.Linked.siblings (by simp [Inherits])

theorem Grown.appendEach (h : t.Grown) (hparent : parent ∈ t.forest.ids)
    (hnodes : ∀ a, (parent, a) ∈ t.forest.nodes → ∀ node ∈ nodes, Inherits (some a) node) :
    (t.appendEach parent nodes).Grown := by
  rw [appendEach_eq]
  have hperm := Forest.ids_graft_perm (g := Forest.siblings t.nextId nodes) hparent h.nodup
  rw [Forest.ids_siblings] at hperm
  refine ⟨?_, ?_, ?_⟩
  · rw [hperm.nodup_iff, List.nodup_append]
    refine ⟨List.nodup_range', h.nodup, ?_⟩
    rintro i hi j hj rfl
    have h1 := (List.mem_range'_1.mp hi).1
    have h2 := h.lt_nextId i hj
    omega
  · intro i hi
    rw [hperm.mem_iff, List.mem_append] at hi
    rcases hi with hi | hi
    · exact (List.mem_range'_1.mp hi).2
    · exact Nat.lt_of_lt_of_le (h.lt_nextId i hi) (Nat.le_add_right _ _)
  · exact h.linked.graft fun a ha => Forest.Linked.siblings (hnodes a ha)

theorem Grown.eq_of_mem (h : t.Grown) {l l' : Nat × CandidateNode} (hl : l ∈ t.forest.nodes)
    (hl' : l' ∈ t.forest.nodes) (heq : l.1 = l'.1) : l = l' :=
  List.inj_on_of_nodup_map h.nodup hl hl' heq

theorem collectLeaves_eq (t : CandidateTree) : t.collectLeaves = t.forest.leaves :=
  Forest.inOrder_leaves t.forest

end CandidateTree

end CTaps.Gathering
