import CTaps.Gathering.Tree
import CTaps.Lib.Machine

/-! Candidate gathering as a machine. The call builds the tree and issues one resolution per
protocol node and remote endpoint; the completions of the asynchronous lookups arrive in any order.
The gather context is released when gathering is over, and what touches it after that is counted. -/

namespace CTaps.Gathering

open Lib

structure Preconnection where
  localEndpoints : List LocalEndpoint
  remoteEndpoints : List RemoteEndpoint
  alpns : List String
  selectionProperties : SelectionProperties

/-- The outcome of `ct_remote_endpoint_resolve` for one call: the callback runs
before it returns, the lookup completes later, or it returns an error. -/
inductive Resolution
  | sync (addresses : List RemoteEndpoint)
  | async (addresses : List RemoteEndpoint)
  | asyncFailure
  | error (rc : {rc : Int // rc ≠ 0})
  deriving DecidableEq

/-- The resolvers: what a local endpoint resolves to, and the outcome for the
`k`-th protocol node and the `j`-th remote endpoint. -/
structure Resolver where
  localEndpointResolve : LocalEndpoint → List LocalEndpoint
  remoteEndpointResolve : Nat → Nat → Resolution

/-- A lookup in flight: the node it was issued for, and the addresses it is going
to deliver, none when it fails. -/
structure Lookup where
  parent : Nat × CandidateNode
  outcome : Option (List RemoteEndpoint)
  deriving DecidableEq, Repr

structure GatherContext where
  tree : CandidateTree
  pendingResolutions : Nat
  numInFlight : Nat
  failed : Bool
  localOnly : Bool
  /-- The invocations of `candidate_node_array_ready_cb`. -/
  ready : List (Option (List CandidateNode))
  outstanding : List Lookup
  /-- How often the context was freed. -/
  released : Nat
  /-- How often the context was used after that. -/
  staleUses : Nat
  /-- An assertion failed or a null pointer was read: the process is gone. -/
  crashed : Bool
  deriving DecidableEq, Repr

namespace GatherContext

def new (localOnly : Bool) : GatherContext where
  tree := .new
  pendingResolutions := 0
  numInFlight := 0
  failed := false
  localOnly := localOnly
  ready := []
  outstanding := []
  released := 0
  staleUses := 0
  crashed := false

def use (g : GatherContext) (f : GatherContext → GatherContext) : GatherContext :=
  if g.crashed then g
  else if g.released > 0 then { g with staleUses := g.staleUses + 1 }
  else f g

end GatherContext

section

variable (properties : SelectionProperties)

def buildCandidateTreeIsCompleteCb (g : GatherContext) : GatherContext :=
  if g.failed then { g with ready := g.ready ++ [none], released := g.released + 1 }
  else
    match pruneCandidateTree properties g.tree with
    | none => { g with crashed := true }
    | some tree =>
      let candidates := sortCandidates properties (getDeepCopyLeafNodes g.localOnly tree)
      { g with ready := g.ready ++ [some candidates], released := g.released + 1 }

def remoteEndpointResolveCb (parent : Nat × CandidateNode) (addresses : List RemoteEndpoint)
    (g : GatherContext) : GatherContext :=
  g.use fun g =>
    let g := { g with
      tree := g.tree.appendEach parent.1 (addresses.map (endpointNode parent.2))
      numInFlight := g.numInFlight - 1
      pendingResolutions := g.pendingResolutions - 1 }
    if g.pendingResolutions = 0 then buildCandidateTreeIsCompleteCb properties g else g

def branchByRemote (leaf : Nat × CandidateNode) (resolution : Resolution) (g : GatherContext) :
    GatherContext × Int :=
  if leaf.2.type ≠ .protocol then ({ g with crashed := true }, 0)
  else
    match resolution with
    | .sync addresses => (remoteEndpointResolveCb properties leaf addresses g, 0)
    | .async addresses =>
      ({ g with outstanding := g.outstanding ++ [⟨leaf, some addresses⟩] }, 0)
    | .asyncFailure => ({ g with outstanding := g.outstanding ++ [⟨leaf, none⟩] }, 0)
    | .error rc => (g, rc)

def abandon (g : GatherContext) : GatherContext :=
  g.use fun g =>
    let g := { g with numInFlight := g.numInFlight - 1, failed := true }
    let g := { g with pendingResolutions := g.numInFlight }
    if g.pendingResolutions = 0 then buildCandidateTreeIsCompleteCb properties g else g

def branchByRemotes : List ((Nat × CandidateNode) × Resolution) → GatherContext → GatherContext × Int
  | [], g => (g, 0)
  | (leaf, resolution) :: rest, g =>
    let (g, rc) := branchByRemote properties leaf resolution
      (g.use fun g => { g with numInFlight := g.numInFlight + 1 })
    if rc ≠ 0 then (abandon properties g, rc) else branchByRemotes rest g

/-- A lookup completes. On a failure the log line reads the host name off the
remote endpoint of the node the lookup was issued for. -/
def onUvGetaddrinfoCb (g : GatherContext) (lookup : Lookup) : GatherContext :=
  if g.crashed then g
  else
    match lookup.outcome with
    | some addresses => remoteEndpointResolveCb properties lookup.parent addresses g
    | none =>
      if lookup.parent.2.remoteEndpoint.isNone then { g with crashed := true }
      else remoteEndpointResolveCb properties lookup.parent [] g

end

section

variable (resolver : Resolver) (precon : Preconnection)

def Preconnection.localEndpointsOrEphemeral : List LocalEndpoint :=
  if precon.localEndpoints.length = 0 then [localEndpointNew] else precon.localEndpoints

/-- The tree down to the protocol nodes; fails on an assertion when the leaves to
be expanded are not path nodes. -/
def buildLocalTree : Option CandidateTree :=
  let tree := precon.localEndpointsOrEphemeral.foldl
    (branchByPath resolver.localEndpointResolve) .new
  tree.collectLeaves.foldlM (branchByProtocolOptions precon.alpns) tree

def resolutions (leaves : List (Nat × CandidateNode)) :
    List ((Nat × CandidateNode) × Resolution) :=
  leaves.zipIdx.flatMap fun (leaf, k) =>
    (List.range precon.remoteEndpoints.length).map fun j =>
      (leaf, resolver.remoteEndpointResolve k j)

def buildCandidateTree (g : GatherContext) : GatherContext × Int :=
  match buildLocalTree resolver precon with
  | none => ({ g with crashed := true }, 0)
  | some tree =>
    let g := { g with tree := tree }
    let leaves := tree.collectLeaves
    if g.localOnly then (buildCandidateTreeIsCompleteCb precon.selectionProperties g, 0)
    else if leaves.length = 0 ∨ precon.remoteEndpoints.length = 0 then
      (buildCandidateTreeIsCompleteCb precon.selectionProperties { g with failed := true }, 0)
    else
      branchByRemotes precon.selectionProperties (resolutions resolver precon leaves)
        { g with pendingResolutions := leaves.length * precon.remoteEndpoints.length }

def gatherNodes (localOnly : Bool) : GatherContext × Option Int :=
  let (g, rc) := buildCandidateTree resolver precon (.new localOnly)
  if g.crashed then (g, none)
  else if rc ≠ 0 then ({ g with released := g.released + 1 }, some rc)
  else (g, some 0)

def getOrderedCandidateNodes : GatherContext × Option Int := gatherNodes resolver precon false

def getOrderedLocalCandidateNodes : GatherContext × Option Int := gatherNodes resolver precon true

def gather (completions : List Lookup) : GatherContext :=
  run (onUvGetaddrinfoCb precon.selectionProperties)
    (getOrderedCandidateNodes resolver precon).1 completions

end

end CTaps.Gathering
