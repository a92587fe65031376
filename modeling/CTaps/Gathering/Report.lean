import CTaps.Gathering.Issue

/-! Candidate gathering reports once exactly when a local address is found and every resolution
succeeds. A refused resolution makes the caller free the context a second time or under the lookups
in flight; a failed lookup takes the process down, and so does a preconnection without any local
address. -/

namespace CTaps.Gathering

open Lib

variable {properties : SelectionProperties} {g : GatherContext} {base : CandidateTree}
  {all : List CandidateNode} {resolver : Resolver} {precon : Preconnection}

def ReportsOnce (returned : Option Int) (g : GatherContext) : Prop :=
  (returned = some 0 ∧ g.ready.length = 1 ∨ (∃ rc, rc ≠ 0 ∧ returned = some rc) ∧ g.ready = []) ∧
    g.released = 1 ∧ g.staleUses = 0 ∧ g.crashed = false

def Resolution.succeeds (resolution : Resolution) : Bool := resolution.outcome.isSome

def Orderly (resolver : Resolver) (precon : Preconnection) : Prop :=
  resolvedLocals resolver precon ≠ [] ∧
    ∀ k < (resolvedLocals resolver precon).length * (protocolOptions precon.alpns).length,
      ∀ j < precon.remoteEndpoints.length, (resolver.remoteEndpointResolve k j).succeeds = true

/-! ### Beyond repair -/

def Broken (g : GatherContext) : Prop := g.crashed = true ∨ 0 < g.staleUses ∨ 1 < g.released

theorem Broken.not_reportsOnce {returned : Option Int} (h : Broken g) :
    ¬ ReportsOnce returned g := by
  rintro ⟨_, hrel, hstale, hcrash⟩
  rcases h with h | h | h
  · exact absurd (hcrash.symm.trans h) (by simp)
  · omega
  · omega

theorem Broken.complete (h : Broken g) : Broken (buildCandidateTreeIsCompleteCb properties g) := by
  rw [buildCandidateTreeIsCompleteCb]
  split
  · exact h.imp id (Or.imp id fun h' => Nat.lt_succ_of_lt h')
  · split
    · exact Or.inl rfl
    · exact h.imp id (Or.imp id fun h' => Nat.lt_succ_of_lt h')

theorem Broken.use {f : GatherContext → GatherContext} (h : Broken g)
    (hf : Broken g → Broken (f g)) : Broken (g.use f) := by
  rw [GatherContext.use]
  split_ifs
  · exact h
  · exact Or.inr (Or.inl (Nat.succ_pos _))
  · exact hf h

theorem Broken.resolve {parent : Nat × CandidateNode} {addresses : List RemoteEndpoint}
    (h : Broken g) : Broken (remoteEndpointResolveCb properties parent addresses g) := by
  refine h.use fun h' => ?_
  dsimp only
  split
  · exact Broken.complete h'
  · exact h'

theorem Broken.lookup (h : Broken g) (l : Lookup) : Broken (onUvGetaddrinfoCb properties g l) := by
  rw [onUvGetaddrinfoCb]
  split
  · exact h
  · split
    · exact h.resolve
    · split
      · exact Or.inl rfl
      · exact h.resolve

theorem Broken.run (h : Broken g) (ls : List Lookup) :
    Broken (run (onUvGetaddrinfoCb properties) g ls) :=
  run_invariant_of_step (I := Broken) (fun _ l hg => hg.lookup l) h ls

theorem broken_lookup_of_released (l : Lookup) (hr : 0 < g.released) :
    Broken (onUvGetaddrinfoCb properties g l) := by
  have huse : ∀ parent addresses,
      g.crashed = false → Broken (remoteEndpointResolveCb properties parent addresses g) := by
    intro parent addresses hc
    rw [remoteEndpointResolveCb, GatherContext.use, hc, if_neg (by simp), if_pos hr]
    exact Or.inr (Or.inl (Nat.succ_pos _))
  rw [onUvGetaddrinfoCb]
  cases hc : g.crashed with
  | true => exact Or.inl hc
  | false =>
    rw [if_neg (by simp)]
    split
    · exact huse _ _ hc
    · split
      · exact Or.inl rfl
      · exact huse _ _ hc

/-! ### What the call leaves behind -/

theorem getOrdered_of_no_local (h : resolvedLocals resolver precon = []) :
    Broken (getOrderedCandidateNodes resolver precon).1 := by
  have hbuild : buildCandidateTree resolver precon (.new false)
      = ({ GatherContext.new false with crashed := true }, 0) := by
    rw [buildCandidateTree, buildLocalTree_eq_none h]
  rw [getOrderedCandidateNodes, gatherNodes, hbuild]
  exact Or.inl rfl

theorem LocalTree.buildCandidateTree (h : buildLocalTree resolver precon = some base)
    (hleaves : base.forest.leaves ≠ []) (hremote : precon.remoteEndpoints ≠ []) :
    buildCandidateTree resolver precon (.new false)
      = branchByRemotes precon.selectionProperties
          (resolutions resolver precon base.forest.leaves)
          { withTree base false with
            pendingResolutions := base.forest.leaves.length * precon.remoteEndpoints.length } := by
  rw [Gathering.buildCandidateTree, h]
  dsimp only
  rw [if_neg (by simp [GatherContext.new]), CandidateTree.collectLeaves_eq, if_neg]
  · rfl
  · rintro (h0 | h0)
    · exact hleaves (List.length_eq_zero_iff.mp h0)
    · exact hremote (List.length_eq_zero_iff.mp h0)

theorem Phase.not_crashed {todo : List Lookup} (h : Phase properties base all todo g) :
    g.crashed = false := by
  cases todo with
  | nil => exact (h.2 rfl).crashed
  | cons l todo => exact (h.1 (by simp)).unreported.crashed

theorem LocalTree.leaves_ne_nil (h : LocalTree resolver precon base)
    (hlocal : resolvedLocals resolver precon ≠ []) : base.forest.leaves ≠ [] := by
  intro hnil
  have hlen := h.length_leaves
  rw [hnil, List.length_nil, eq_comm, Nat.mul_eq_zero, List.length_eq_zero_iff,
    List.length_eq_zero_iff] at hlen
  exact hlen.elim hlocal (protocolOptions_ne_nil _)

theorem resolutions_ne_nil (hleaves : base.forest.leaves ≠ [])
    (hremote : precon.remoteEndpoints ≠ []) :
    resolutions resolver precon base.forest.leaves ≠ [] := by
  intro hnil
  have hlen := length_resolutions resolver precon base.forest.leaves
  rw [hnil, List.length_nil, eq_comm, Nat.mul_eq_zero, List.length_eq_zero_iff,
    List.length_eq_zero_iff] at hlen
  exact hlen.elim hleaves hremote

section Call

variable (hbase : buildLocalTree resolver precon = some base)
  (htree : LocalTree resolver precon base) (hlocal : resolvedLocals resolver precon ≠ [])
  (hremote : precon.remoteEndpoints ≠ [])

include hbase htree hlocal hremote

theorem getOrdered_of_no_error
    (hok : ∀ pair ∈ resolutions resolver precon base.forest.leaves, pair.2.isError = false) :
    ∃ g, getOrderedCandidateNodes resolver precon = (g, some 0) ∧
      Phase precon.selectionProperties base
        (delivered (resolutions resolver precon base.forest.leaves)) g.outstanding g ∧
      g.outstanding = inFlight (resolutions resolver precon base.forest.leaves) := by
  have hleaves := htree.leaves_ne_nil hlocal
  have hstart := htree.issuing precon.selectionProperties rfl
    (resolutions_ne_nil hleaves hremote)
  rw [← List.append_nil (resolutions resolver precon base.forest.leaves)] at hstart
  obtain ⟨g, heq, hissue, hout⟩ :=
    hstart.turns (fun l hl => htree.type_of_mem_leaves hl) hok
  have hphase := hissue.phase
  simp only [List.map_nil, List.append_nil] at hphase
  refine ⟨g, ?_, hphase, hout⟩
  rw [getOrderedCandidateNodes, gatherNodes, LocalTree.buildCandidateTree hbase hleaves hremote,
    ← List.append_nil (resolutions resolver precon base.forest.leaves), heq, branchByRemotes]
  dsimp only
  rw [hphase.not_crashed, if_neg (by simp), if_neg (by simp)]

theorem getOrdered_of_error
    (herr : ∃ pair ∈ resolutions resolver precon base.forest.leaves, pair.2.isError = true) :
    Broken (getOrderedCandidateNodes resolver precon).1 ∨
      0 < (getOrderedCandidateNodes resolver precon).1.released ∧
        (getOrderedCandidateNodes resolver precon).1.outstanding ≠ [] := by
  obtain ⟨pair, hfind⟩ : ∃ pair, (resolutions resolver precon base.forest.leaves).find?
      (fun pair => pair.2.isError) = some pair := by
    rw [← Option.isSome_iff_exists, List.find?_isSome]
    exact herr
  rw [List.find?_eq_some_iff_append] at hfind
  obtain ⟨hpair, pairs, rest, hsplit, hpairs⟩ := hfind
  have hleaves := htree.leaves_ne_nil hlocal
  have hstart := htree.issuing precon.selectionProperties rfl
    (resolutions_ne_nil hleaves hremote)
  rw [hsplit] at hstart
  obtain ⟨g, heq, hissue, hout⟩ := hstart.turns (fun l hl => htree.type_of_mem_leaves hl)
    (fun p hp => by simpa using hpairs p hp)
  obtain ⟨leaf, resolution⟩ := pair
  obtain ⟨rc, rfl⟩ : ∃ rc, resolution = .error rc := by
    cases resolution with
    | error rc => exact ⟨rc, rfl⟩
    | sync _ => exact absurd hpair (by simp [Resolution.isError])
    | async _ => exact absurd hpair (by simp [Resolution.isError])
    | asyncFailure => exact absurd hpair (by simp [Resolution.isError])
  obtain ⟨g', hturn, hcrash, hout', hrel⟩ :=
    hissue.refused fun l hl => htree.type_of_mem_leaves hl
  rw [getOrderedCandidateNodes, gatherNodes, LocalTree.buildCandidateTree hbase hleaves hremote,
    hsplit, heq, hturn]
  dsimp only
  rw [hcrash, if_neg (by simp), if_pos rc.2]
  by_cases hnil : g.outstanding = []
  · rw [if_pos hnil] at hrel
    exact Or.inl (Or.inr (Or.inr (by dsimp only; omega)))
  · exact Or.inr ⟨Nat.succ_pos _, hout' ▸ hnil⟩

end Call

/-! ### Exactly the orderly gatherings report once -/

theorem orderly_iff (htree : LocalTree resolver precon base)
    (hlocal : resolvedLocals resolver precon ≠ []) :
    Orderly resolver precon
      ↔ ∀ pair ∈ resolutions resolver precon base.forest.leaves, pair.2.succeeds = true := by
  rw [Orderly, ← htree.length_leaves]
  constructor
  · rintro ⟨_, h⟩ pair hpair
    obtain ⟨_, k, hk, j, hj, heq⟩ := mem_resolutions hpair
    exact heq ▸ h k hk j hj
  · intro h
    refine ⟨hlocal, fun k hk j hj => ?_⟩
    obtain ⟨leaf, hleaf⟩ := exists_mem_resolutions resolver hk hj
    exact h _ hleaf

theorem Resolution.not_isError_of_succeeds {resolution : Resolution}
    (h : resolution.succeeds = true) : resolution.isError = false := by
  cases resolution with
  | error rc => exact absurd h (by simp [succeeds, outcome])
  | sync _ => rfl
  | async _ => rfl
  | asyncFailure => rfl

theorem gather_phase (h : Orderly resolver precon) (hremote : precon.remoteEndpoints ≠ []) :
    ∃ base, LocalTree resolver precon base ∧
      (getOrderedCandidateNodes resolver precon).2 = some 0 ∧
      ∀ done todo, (done ++ todo).Perm (getOrderedCandidateNodes resolver precon).1.outstanding →
        Phase precon.selectionProperties base
          (delivered (resolutions resolver precon base.forest.leaves)) todo
          (gather resolver precon done) := by
  obtain ⟨base, hbase, htree⟩ := exists_localTree h.1
  have hsucceeds := (orderly_iff htree h.1).mp h
  obtain ⟨g, hcall, hphase, hout⟩ := getOrdered_of_no_error hbase htree h.1 hremote
    fun pair hpair => Resolution.not_isError_of_succeeds (hsucceeds pair hpair)
  refine ⟨base, htree, by rw [hcall], fun done todo horder => ?_⟩
  rw [hcall] at horder
  have hsome : ∀ l ∈ done, l.outcome.isSome = true := by
    intro l hl
    have hmem : l ∈ g.outstanding := horder.mem_iff.mp (List.mem_append_left _ hl)
    rw [hout, inFlight] at hmem
    obtain ⟨pair, hpair, rfl⟩ := List.mem_map.mp hmem
    exact hsucceeds pair (List.mem_of_mem_filter hpair)
  rw [gather, hcall]
  refine Phase.run_append ?_ (fun l hl => htree.type_of_mem_leaves hl) hsome
  constructor
  · intro hne
    refine (hphase.1 fun hnil => hne ?_).perm horder.symm
    exact List.perm_nil.mp (hnil ▸ horder)
  · intro hnil
    exact hphase.2 (List.nil_perm.mp (hnil ▸ horder))

theorem getOrdered_of_no_remote (hlocal : resolvedLocals resolver precon ≠ [])
    (hremote : precon.remoteEndpoints = []) :
    (getOrderedCandidateNodes resolver precon).2 = some 0 ∧
      (getOrderedCandidateNodes resolver precon).1.outstanding = [] ∧
      ReportsOnce (some 0) (getOrderedCandidateNodes resolver precon).1 := by
  obtain ⟨base, hbase, _⟩ := exists_localTree hlocal
  have hbuild : buildCandidateTree resolver precon (.new false)
      = ({ withTree base false with failed := true, ready := [none], released := 1 }, 0) := by
    rw [Gathering.buildCandidateTree, hbase]
    dsimp only
    rw [if_neg (by simp [GatherContext.new]), if_pos (by simp [hremote])]
    rfl
  have hcall : getOrderedCandidateNodes resolver precon
      = ({ withTree base false with failed := true, ready := [none], released := 1 }, some 0) := by
    rw [getOrderedCandidateNodes, gatherNodes, hbuild]
    rfl
  rw [hcall]
  exact ⟨rfl, rfl, Or.inl ⟨rfl, rfl⟩, rfl, rfl, rfl⟩

theorem broken_of_failed_lookup {order : List Lookup} (htree : LocalTree resolver precon base)
    (hphase : Phase properties base all order g) (hfail : ∃ l ∈ order, l.outcome = none) :
    Broken (run (onUvGetaddrinfoCb properties) g order) := by
  obtain ⟨l, hfind⟩ : ∃ l, order.find? (fun l => l.outcome.isNone) = some l := by
    rw [← Option.isSome_iff_exists, List.find?_isSome]
    obtain ⟨l, hl, hnone⟩ := hfail
    exact ⟨l, hl, by simp [hnone]⟩
  rw [List.find?_eq_some_iff_append] at hfind
  obtain ⟨hnone, done, todo, rfl, hdone⟩ := hfind
  have hphase' := hphase.run_append (fun l hl => htree.type_of_mem_leaves hl) fun l' hl' => by
    simpa using hdone l' hl'
  have haw := hphase'.1 (by simp)
  have hremote : l.parent.2.remoteEndpoint.isNone = true := by
    have hdata : l.parent.2 ∈ base.forest.leaves.map Prod.snd :=
      List.mem_map_of_mem (haw.parents l List.mem_cons_self)
    rw [htree.leaves, List.mem_flatMap] at hdata
    obtain ⟨p, _, hp⟩ := hdata
    obtain ⟨option, _, ho⟩ := List.mem_map.mp hp
    rw [← ho]
    rfl
  rw [run_append, run_cons]
  refine Broken.run (Or.inl ?_) todo
  rw [onUvGetaddrinfoCb, haw.unreported.crashed, Option.isNone_iff_eq_none.mp hnone,
    if_neg (by simp), if_pos hremote]

theorem broken_of_not_orderly {order : List Lookup} (h : ¬ Orderly resolver precon)
    (hremote : precon.remoteEndpoints ≠ [])
    (horder : order.Perm (getOrderedCandidateNodes resolver precon).1.outstanding) :
    Broken (gather resolver precon order) := by
  by_cases hlocal : resolvedLocals resolver precon = []
  · exact (getOrdered_of_no_local hlocal).run order
  obtain ⟨base, hbase, htree⟩ := exists_localTree hlocal
  by_cases herr : ∃ pair ∈ resolutions resolver precon base.forest.leaves, pair.2.isError = true
  · rcases getOrdered_of_error hbase htree hlocal hremote herr with hb | ⟨hrel, hout⟩
    · exact hb.run order
    · cases order with
      | nil => exact absurd (List.nil_perm.mp horder) hout
      | cons l order => exact (broken_lookup_of_released l hrel).run order
  · have hok : ∀ pair ∈ resolutions resolver precon base.forest.leaves, pair.2.isError = false :=
      fun pair hpair => by simpa using fun h' => herr ⟨pair, hpair, h'⟩
    obtain ⟨g, hcall, hphase, hout⟩ := getOrdered_of_no_error hbase htree hlocal hremote hok
    rw [hcall] at horder
    rw [orderly_iff htree hlocal] at h
    -- what is neither refused nor successful is a lookup that fails
    obtain ⟨pair, hpair, hfail⟩ : ∃ pair ∈ resolutions resolver precon base.forest.leaves,
        pair.2 = .asyncFailure := by
      by_contra hnone
      refine h fun pair hpair => ?_
      cases hres : pair.2 with
      | error rc => exact absurd (hok pair hpair) (by simp [hres, Resolution.isError])
      | asyncFailure => exact absurd ⟨pair, hpair, hres⟩ hnone
      | sync _ => rfl
      | async _ => rfl
    have hmem : asLookup pair ∈ g.outstanding := by
      rw [hout, inFlight]
      exact List.mem_map_of_mem (List.mem_filter.mpr ⟨hpair, by simp [hfail, Resolution.isAsync]⟩)
    have hphase' : Phase precon.selectionProperties base
        (delivered (resolutions resolver precon base.forest.leaves)) order g := by
      refine ⟨fun hne => (hphase.1 ?_).perm horder.symm, fun hnil => ?_⟩
      · exact List.ne_nil_of_mem hmem
      · exact absurd (List.nil_perm.mp (hnil ▸ horder)) (List.ne_nil_of_mem hmem)
    rw [gather, hcall]
    refine broken_of_failed_lookup htree hphase' ⟨asLookup pair, horder.mem_iff.mpr hmem, ?_⟩
    rw [asLookup, hfail]
    rfl

/-- For every order of the completions. -/
theorem gather_reportsOnce_iff (resolver : Resolver) (precon : Preconnection)
    (order : List Lookup)
    (horder : order.Perm (getOrderedCandidateNodes resolver precon).1.outstanding) :
    ReportsOnce (getOrderedCandidateNodes resolver precon).2 (gather resolver precon order)
      ↔ Orderly resolver precon := by
  by_cases hremote : precon.remoteEndpoints = []
  · by_cases hlocal : resolvedLocals resolver precon = []
    · have hbroken : Broken (gather resolver precon order) :=
        (getOrdered_of_no_local hlocal).run order
      exact ⟨fun h => absurd h hbroken.not_reportsOnce, fun h => absurd hlocal h.1⟩
    · obtain ⟨hret, hout, hreport⟩ := getOrdered_of_no_remote hlocal hremote
      rw [hout, List.perm_nil] at horder
      subst horder
      rw [hret]
      refine ⟨fun _ => ⟨hlocal, fun k _ j hj => ?_⟩, fun _ => hreport⟩
      rw [hremote] at hj
      exact absurd hj (Nat.not_lt_zero j)
  · constructor
    · intro h
      by_contra hnot
      exact (broken_of_not_orderly hnot hremote horder).not_reportsOnce h
    · intro h
      obtain ⟨base, _, hret, hphase⟩ := gather_phase h hremote
      have hfin := (hphase order [] (by rwa [List.append_nil])).2 rfl
      obtain ⟨candidates, hready, _⟩ := hfin.ready
      rw [hret]
      exact ⟨Or.inl ⟨rfl, by rw [hready]; rfl⟩, hfin.released, hfin.staleUses, hfin.crashed⟩

def oneLocal (resolution : Resolution) : Resolver where
  localEndpointResolve _ := [⟨0, none, none, .inet 0x0A000001#32 0⟩]
  remoteEndpointResolve _ _ := resolution

def oneRemote (hostname : Option String) (address : SockAddr) : Preconnection where
  localEndpoints := []
  remoteEndpoints := [⟨443, none, hostname, address⟩]
  alpns := []
  selectionProperties _ := .preference .noPreference

theorem gather_reportsOnce_async :
    (getOrderedCandidateNodes (oneLocal (.async [⟨443, none, none, .inet 0x0A000002#32 443⟩]))
      (oneRemote (some "host") .unspec)).1.outstanding.length = 3 ∧
    ReportsOnce
      (getOrderedCandidateNodes (oneLocal (.async [⟨443, none, none, .inet 0x0A000002#32 443⟩]))
        (oneRemote (some "host") .unspec)).2
      (gather (oneLocal (.async [⟨443, none, none, .inet 0x0A000002#32 443⟩]))
        (oneRemote (some "host") .unspec)
        (getOrderedCandidateNodes (oneLocal (.async [⟨443, none, none, .inet 0x0A000002#32 443⟩]))
          (oneRemote (some "host") .unspec)).1.outstanding.reverse) :=
  ⟨by decide, (gather_reportsOnce_iff _ _ _ (List.reverse_perm _)).mpr
    ⟨by decide, fun _ _ _ _ => rfl⟩⟩

/-- A remote endpoint with neither host name nor address is refused with `-EINVAL`:
the callback has run and the context has been freed twice. -/
theorem gather_freed_twice :
    (getOrderedCandidateNodes (oneLocal (.error ⟨-22, by decide⟩)) (oneRemote none .unspec)).2
        = some (-22) ∧
      (gather (oneLocal (.error ⟨-22, by decide⟩)) (oneRemote none .unspec) []).ready = [none] ∧
      (gather (oneLocal (.error ⟨-22, by decide⟩)) (oneRemote none .unspec) []).released = 2 ∧
      (getOrderedCandidateNodes (oneLocal (.error ⟨-22, by decide⟩))
        (oneRemote none .unspec)).1.outstanding = [] ∧
      ¬ ReportsOnce
        (getOrderedCandidateNodes (oneLocal (.error ⟨-22, by decide⟩)) (oneRemote none .unspec)).2
        (gather (oneLocal (.error ⟨-22, by decide⟩)) (oneRemote none .unspec) []) := by
  refine ⟨by decide, by decide, by decide, by decide, ?_⟩
  rintro ⟨_, hreleased, _⟩
  exact absurd hreleased (by decide)

end CTaps.Gathering
