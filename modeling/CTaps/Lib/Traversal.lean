import CTaps.Lib.Forest

/-! In a linked forest a rank that grows by one from parent to child makes every level uniform, so a
level-order traversal that stops at the first node of a deeper rank has seen all ranks above.
Unlinking nodes in order of falling rank never meets a released node, and leaves exactly the nodes
whose whole chain of ancestors is good. -/

namespace CTaps.Lib.Forest

variable {α : Type*} {R : Option α → α → Prop} {parent : Option α}

/-! ### Linked forests -/

theorem Linked.append {f g : Forest α} (hf : f.Linked R parent) (hg : g.Linked R parent) :
    (f.append g).Linked R parent := by
  induction f with
  | nil => exact hg
  | node i a cs nx _ ih => exact ⟨hf.1, hf.2.1, ih hf.2.2⟩

theorem Linked.siblings {n : Nat} {as : List α} (h : ∀ a ∈ as, R parent a) :
    (Forest.siblings n as).Linked R parent := by
  induction as generalizing n with
  | nil => exact trivial
  | cons a as ih =>
    rw [List.forall_mem_cons] at h
    exact ⟨h.1, trivial, ih h.2⟩

theorem Linked.graft {p : Nat} {f g : Forest α} (hf : f.Linked R parent)
    (hg : ∀ a, (p, a) ∈ f.nodes → g.Linked R (some a)) : (f.graft p g).Linked R parent := by
  induction f generalizing parent with
  | nil => exact trivial
  | node i a cs nx ihc ihn =>
    obtain ⟨ha, hcs, hnx⟩ := hf
    by_cases hip : i = p
    · rw [Forest.graft, if_pos hip]
      have hroot : (p, a) ∈ (node i a cs nx).nodes := by simp [nodes, hip]
      exact ⟨ha, hcs.append (hg a hroot), hnx⟩
    · rw [Forest.graft, if_neg hip]
      refine ⟨ha, ihc hcs fun b hb => hg b ?_, ihn hnx fun b hb => hg b ?_⟩
      · simp [nodes, hb]
      · simp [nodes, hb]

theorem Linked.keep {q : Nat → α → Bool} {f : Forest α} (hf : f.Linked R parent) :
    (f.keep q).Linked R parent := by
  induction f generalizing parent with
  | nil => exact trivial
  | node i a cs nx ihc ihn =>
    rw [Forest.keep]
    split
    · exact ⟨hf.1, ihc hf.2.1, ihn hf.2.2⟩
    · exact ihn hf.2.2

theorem Linked.and_forall {P : α → Prop} {f : Forest α} (hf : f.Linked R parent)
    (hP : ∀ l ∈ f.nodes, P l.2) : f.Linked (fun o a => R o a ∧ P a) parent := by
  induction f generalizing parent with
  | nil => exact trivial
  | node i a cs nx ihc ihn =>
    simp only [nodes, List.forall_mem_cons, List.forall_mem_append] at hP
    exact ⟨⟨hf.1, hP.1⟩, ihc hf.2.1 hP.2.1, ihn hf.2.2 hP.2.2⟩

theorem Linked.filter_leaves {T : α → Bool} {f : Forest α} (hf : f.Linked R parent)
    (hT : ∀ a b, R (some a) b → T a = false) :
    (f.leaves.filter fun l => T l.2) = f.nodes.filter fun l => T l.2 := by
  induction f generalizing parent with
  | nil => rfl
  | node i a cs nx ihc ihn =>
    obtain ⟨_, hcs, hnx⟩ := hf
    cases cs with
    | nil =>
      rw [leaves, nodes, List.filter_cons, List.filter_cons, ihn hnx]
      rfl
    | node j b ds ny =>
      have ha : T a = false := hT a b hcs.1
      rw [leaves_node_of_ne_nil node_ne_nil, nodes, List.filter_cons]
      simp only [ha, Bool.false_eq_true, if_false, List.filter_append, ihc hcs, ihn hnx]

/-! ### Level order -/

theorem mem_nodes_of_mem_atDepth {f : Forest α} {d : Nat} {v : Visit α} (h : v ∈ f.atDepth d) :
    (v.id, v.data) ∈ f.nodes := by
  induction f generalizing d with
  | nil => cases d <;> exact absurd h (by simp [atDepth])
  | node i a cs nx ihc ihn =>
    cases d with
    | zero =>
      rw [atDepth, List.mem_cons] at h
      rcases h with rfl | h
      · simp [nodes]
      · simp [nodes, ihn h]
    | succ d =>
      rw [atDepth, List.mem_append] at h
      rcases h with h | h
      · simp [nodes, ihc h]
      · simp [nodes, ihn h]

theorem mem_leaves_of_mem_atDepth {f : Forest α} {d : Nat} {v : Visit α} (h : v ∈ f.atDepth d)
    (hv : v.isLeaf = true) : (v.id, v.data) ∈ f.leaves := by
  induction f generalizing d with
  | nil => cases d <;> exact absurd h (by simp [atDepth])
  | node i a cs nx ihc ihn =>
    cases d with
    | zero =>
      rw [atDepth, List.mem_cons] at h
      rcases h with rfl | h
      · cases cs with
        | nil => simp [leaves]
        | node j b ds ny => exact absurd hv (by simp [isNil])
      · cases cs <;> simp [leaves, ihn h]
    | succ d =>
      rw [atDepth, List.mem_append] at h
      rcases h with h | h
      · cases cs with
        | nil => exact absurd h (by simp [atDepth])
        | node j b ds ny => exact List.mem_append_left _ (ihc h)
      · cases cs <;> simp [leaves, ihn h]

theorem exists_visit_of_mem_nodes {f : Forest α} {l : Nat × α} (h : l ∈ f.nodes) :
    ∃ d < f.height, ∃ v ∈ f.atDepth d, (v.id, v.data) = l := by
  induction f with
  | nil => exact absurd h (by simp [nodes])
  | node i a cs nx ihc ihn =>
    rw [nodes, List.mem_cons, List.mem_append] at h
    rcases h with rfl | h | h
    · exact ⟨0, by rw [height]; omega, ⟨i, a, cs.isNil⟩, by simp [atDepth], rfl⟩
    · obtain ⟨d, hd, v, hv, hvl⟩ := ihc h
      exact ⟨d + 1, by rw [height]; omega, v, by simp [atDepth, hv], hvl⟩
    · obtain ⟨d, hd, v, hv, hvl⟩ := ihn h
      refine ⟨d, by rw [height]; omega, v, ?_, hvl⟩
      cases d <;> simp [atDepth, hv]

theorem mem_levelOrder {f : Forest α} {v : Visit α} (h : v ∈ f.levelOrder) :
    ∃ d, v ∈ f.atDepth d := by
  obtain ⟨d, _, hv⟩ := List.mem_flatMap.mp h
  exact ⟨d, hv⟩

theorem exists_mem_levelOrder {f : Forest α} {l : Nat × α} (h : l ∈ f.nodes) :
    ∃ v ∈ f.levelOrder, (v.id, v.data) = l := by
  obtain ⟨d, hd, v, hv, hvl⟩ := exists_visit_of_mem_nodes h
  exact ⟨v, List.mem_flatMap.mpr ⟨d, List.mem_range.mpr hd, hv⟩, hvl⟩

/-! ### Ranks -/

section Rank

variable {rank : α → Nat}

def rankBelow (rank : α → Nat) : Option α → Nat
  | none => 0
  | some a => rank a + 1

theorem Linked.rank_atDepth {f : Forest α} (hf : f.Linked R parent)
    (hR : ∀ o a, R o a → rank a = rankBelow rank o) {d : Nat} {v : Visit α}
    (hv : v ∈ f.atDepth d) : rank v.data = rankBelow rank parent + d := by
  induction f generalizing parent d with
  | nil => cases d <;> exact absurd hv (by simp [atDepth])
  | node i a cs nx ihc ihn =>
    have ha := hR parent a hf.1
    cases d with
    | zero =>
      rw [atDepth, List.mem_cons] at hv
      rcases hv with rfl | hv
      · exact ha
      · exact ihn hf.2.2 hv
    | succ d =>
      rw [atDepth, List.mem_append] at hv
      rcases hv with hv | hv
      · rw [ihc hf.2.1 hv, rankBelow, ha]
        omega
      · exact ihn hf.2.2 hv

theorem Linked.levelOrder_sorted {f : Forest α} (hf : f.Linked R none)
    (hR : ∀ o a, R o a → rank a = rankBelow rank o) :
    f.levelOrder.Pairwise fun v w => rank v.data ≤ rank w.data := by
  have hd : ∀ d, ∀ v ∈ f.atDepth d, rank v.data = d := by
    intro d v hv
    rw [hf.rank_atDepth hR hv, rankBelow, Nat.zero_add]
  rw [levelOrder, List.pairwise_flatMap]
  constructor
  · intro d _
    refine List.pairwise_iff_forall_sublist.mpr fun {v w} h => ?_
    have hv := hd d v (h.subset List.mem_cons_self)
    have hw := hd d w (h.subset (List.mem_cons_of_mem _ List.mem_cons_self))
    exact Nat.le_of_eq (hv.trans hw.symm)
  · refine List.pairwise_lt_range.imp fun {d e} hde v hv w hw => ?_
    rw [hd d v hv, hd e w hw]
    omega

theorem atDepth_sublist (d : Nat) (f : Forest α) :
    ((f.atDepth d).map fun v => (v.id, v.data)).Sublist f.nodes := by
  induction f generalizing d with
  | nil => cases d <;> exact List.Sublist.slnil
  | node i a cs nx ihc ihn =>
    cases d with
    | zero => exact ((ihn 0).trans (List.sublist_append_right _ _)).cons_cons _
    | succ d =>
      rw [atDepth, List.map_append]
      exact ((ihc d).append (ihn (d + 1))).cons _

theorem Linked.nodup_levelOrder {f : Forest α} (hf : f.Linked R none)
    (hR : ∀ o a, R o a → rank a = rankBelow rank o) (hids : f.ids.Nodup) :
    (f.levelOrder.map Visit.id).Nodup := by
  rw [levelOrder, List.map_flatMap, List.Nodup, List.pairwise_flatMap]
  constructor
  · intro d _
    have h := (atDepth_sublist d f).map Prod.fst
    rw [List.map_map] at h
    exact hids.sublist h
  · refine List.pairwise_lt_range.imp fun {d e} hde i hi j hj hij => ?_
    obtain ⟨v, hv, rfl⟩ := List.mem_map.mp hi
    obtain ⟨w, hw, rfl⟩ := List.mem_map.mp hj
    have hvw : (v.id, v.data) = (w.id, w.data) :=
      List.inj_on_of_nodup_map hids (mem_nodes_of_mem_atDepth hv) (mem_nodes_of_mem_atDepth hw) hij
    have hdata : v.data = w.data := congrArg Prod.snd hvw
    have h1 := hf.rank_atDepth hR hv
    have h2 := hf.rank_atDepth hR hw
    rw [hdata] at h1
    omega

theorem Linked.lt_rank {f : Forest α} {a : α} (hf : f.Linked R (some a))
    (hR : ∀ o a, R o a → rank a = rankBelow rank o) {l : Nat × α} (hl : l ∈ f.nodes) :
    rank a < rank l.2 := by
  obtain ⟨d, _, v, hv, rfl⟩ := exists_visit_of_mem_nodes hl
  have h := hf.rank_atDepth hR hv
  rw [rankBelow] at h
  change rank a < rank v.data
  omega

end Rank

/-! ### Traversals that collect and stop -/

section Collect

variable {β : Type*} {key : β → Nat} {stop bad : β → Bool}

def collect (key : β → Nat) (stop bad : β → Bool) (b : β) (found : List Nat) : List Nat × Bool :=
  if stop b then (found, true) else (if bad b then found ++ [key b] else found, false)

theorem traverse_collect (bs : List β) (found : List Nat) :
    traverse (collect key stop bad) bs found
      = found ++ ((bs.takeWhile fun b => !stop b).filter bad).map key := by
  induction bs generalizing found with
  | nil => simp [traverse]
  | cons b bs ih =>
    rw [traverse, collect]
    by_cases hs : stop b = true
    · simp [hs]
    · have hs' : stop b = false := by simpa using hs
      rw [if_neg hs]
      by_cases hb : bad b = true
      · simp [hs', hb, ih]
      · have hb' : bad b = false := by simpa using hb
        simp [hs', hb', ih]

theorem takeWhile_eq_filter_of_sorted {rank : β → Nat} {k : Nat} {bs : List β}
    (hbs : bs.Pairwise fun b c => rank b ≤ rank c) (hstop : ∀ b ∈ bs, stop b = decide (k < rank b)) :
    (bs.takeWhile fun b => !stop b) = bs.filter fun b => decide (rank b ≤ k) := by
  induction bs with
  | nil => rfl
  | cons b bs ih =>
    rw [List.pairwise_cons] at hbs
    rw [List.forall_mem_cons] at hstop
    by_cases hk : rank b ≤ k
    · have hs : stop b = false := by
        rw [hstop.1]
        exact decide_eq_false (by omega)
      simp [hs, hk, ih hbs.2 hstop.2]
    · have hs : stop b = true := by
        rw [hstop.1]
        exact decide_eq_true (by omega)
      have hnone : bs.filter (fun c => decide (rank c ≤ k)) = [] := by
        rw [List.filter_eq_nil_iff]
        intro c hc
        have := hbs.1 c hc
        simp only [decide_eq_true_eq]
        omega
      simp [hs, hk, hnone]

end Collect

/-! ### Pruning -/

theorem nodes_keep_sublist (q : Nat → α → Bool) (f : Forest α) :
    (f.keep q).nodes.Sublist f.nodes := by
  induction f with
  | nil => exact List.Sublist.slnil
  | node i a cs nx ihc ihn =>
    rw [Forest.keep]
    split
    · exact (ihc.append ihn).cons_cons _
    · exact (ihn.trans (List.sublist_append_right _ _)).cons _

theorem keep_congr {q r : Nat → α → Bool} {f : Forest α}
    (h : ∀ l ∈ f.nodes, q l.1 l.2 = r l.1 l.2) : f.keep q = f.keep r := by
  induction f with
  | nil => rfl
  | node i a cs nx ihc ihn =>
    simp only [nodes, List.forall_mem_cons, List.forall_mem_append] at h
    rw [Forest.keep, Forest.keep, h.1, ihc h.2.1, ihn h.2.2]

theorem keep_keep (q r : Nat → α → Bool) (f : Forest α) :
    (f.keep q).keep r = f.keep fun i a => q i a && r i a := by
  induction f with
  | nil => rfl
  | node i a cs nx ihc ihn =>
    cases hq : q i a <;> cases hr : r i a <;> simp [Forest.keep, hq, hr, ihc, ihn]

theorem keep_of_forall {q : Nat → α → Bool} {f : Forest α} (h : ∀ l ∈ f.nodes, q l.1 l.2 = true) :
    f.keep q = f := by
  induction f with
  | nil => rfl
  | node i a cs nx ihc ihn =>
    simp only [nodes, List.forall_mem_cons, List.forall_mem_append] at h
    rw [Forest.keep, if_pos h.1, ihc h.2.1, ihn h.2.2]

theorem remove_eq_keep {p : Nat} {f : Forest α} (hf : f.ids.Nodup) :
    f.remove p = f.keep fun i _ => !decide (i = p) := by
  have hall : ∀ g : Forest α, p ∉ g.ids → g.keep (fun i _ => !decide (i = p)) = g := by
    intro g hp
    refine keep_of_forall fun l hl => ?_
    have hne : l.1 ≠ p := fun h => hp (h ▸ mem_ids_of_mem hl)
    simp [hne]
  induction f with
  | nil => rfl
  | node i a cs nx ihc ihn =>
    rw [ids_node, List.nodup_cons, List.nodup_append, List.mem_append, not_or] at hf
    rw [remove, Forest.keep]
    by_cases hip : i = p
    · subst hip
      simp [hall nx hf.1.2]
    · simp [hip, ihc hf.2.1, ihn hf.2.2.1]

theorem nodup_ids_keep {f : Forest α} (q : Nat → α → Bool) (hf : f.ids.Nodup) :
    (f.keep q).ids.Nodup := hf.sublist ((nodes_keep_sublist q f).map _)

theorem Linked.mem_keep_of_rank {rank : α → Nat} {f : Forest α} {ps : List Nat} {l : Nat × α}
    (hf : f.Linked R parent) (hR : ∀ o a, R o a → rank a = rankBelow rank o) (hl : l ∈ f.nodes)
    (hps : l.1 ∉ ps) (hrank : ∀ l' ∈ f.nodes, l'.1 ∈ ps → rank l.2 ≤ rank l'.2) :
    l ∈ (f.keep fun i _ => !decide (i ∈ ps)).nodes := by
  induction f generalizing parent with
  | nil => exact hl
  | node i a cs nx ihc ihn =>
    simp only [nodes, List.forall_mem_cons, List.forall_mem_append] at hrank
    rw [nodes, List.mem_cons, List.mem_append] at hl
    rw [Forest.keep]
    rcases hl with rfl | hl | hl
    · simp [hps, nodes]
    · have hi : i ∉ ps := by
        intro hi
        have h1 := hrank.1 hi
        have h2 := hf.2.1.lt_rank hR hl
        omega
      simp [hi, nodes, ihc hf.2.1 hl hrank.2.1]
    · have h := ihn hf.2.2 hl hrank.2.2
      split
      · simp [nodes, h]
      · exact h

theorem Linked.removeAll_eq {rank : α → Nat} {f : Forest α} (hf : f.Linked R parent)
    (hR : ∀ o a, R o a → rank a = rankBelow rank o) (hids : f.ids.Nodup) {ls : List (Nat × α)}
    (hmem : ∀ l ∈ ls, l ∈ f.nodes) (hnodup : (ls.map Prod.fst).Nodup)
    (hfall : ls.Pairwise fun l l' => rank l'.2 ≤ rank l.2) :
    f.removeAll (ls.map Prod.fst) = some (f.keep fun i _ => !decide (i ∈ ls.map Prod.fst)) := by
  induction ls generalizing f with
  | nil => simp [removeAll, keep_of_forall]
  | cons l ls ih =>
    rw [List.forall_mem_cons] at hmem
    rw [List.map_cons, List.nodup_cons] at hnodup
    rw [List.pairwise_cons] at hfall
    have hkeep : f.remove l.1 = f.keep fun i _ => !decide (i ∈ [l.1]) := by
      rw [remove_eq_keep hids]
      simp
    have hsurvive : ∀ l' ∈ ls, l' ∈ (f.remove l.1).nodes := by
      intro l' hl'
      rw [hkeep]
      refine hf.mem_keep_of_rank hR (hmem.2 l' hl') ?_ ?_
      · intro h
        exact hnodup.1 (List.mem_singleton.mp h ▸ List.mem_map_of_mem hl')
      · intro m hm hml
        have hsame : m = l := by
          have hinj := List.inj_on_of_nodup_map hids
          exact hinj hm hmem.1 (List.mem_singleton.mp hml)
        exact hsame ▸ hfall.1 l' hl'
    rw [List.map_cons, removeAll, if_pos (mem_ids_of_mem hmem.1)]
    rw [ih (f := f.remove l.1) (hkeep ▸ hf.keep) (hkeep ▸ nodup_ids_keep _ hids) hsurvive
      hnodup.2 hfall.2, hkeep, keep_keep]
    simp only [List.mem_cons, List.mem_nil_iff, or_false, Bool.decide_or, Bool.not_or]

theorem Linked.nodes_keep {q C : α → Bool} {f : Forest α} (hf : f.Linked R parent)
    (hC : ∀ o a, R o a → C a = (o.all C && q a)) :
    (parent.all C = true → (f.keep fun _ a => q a).nodes = f.nodes.filter fun l => C l.2) ∧
      (parent.all C = false → (f.nodes.filter fun l => C l.2) = []) := by
  induction f generalizing parent with
  | nil => exact ⟨fun _ => rfl, fun _ => rfl⟩
  | node i a cs nx ihc ihn =>
    have ha := hC parent a hf.1
    obtain ⟨hcs, hcs'⟩ := ihc hf.2.1
    obtain ⟨hnx, hnx'⟩ := ihn hf.2.2
    rw [Option.all_some] at hcs hcs'
    constructor
    · intro hpar
      rw [hpar, Bool.true_and] at ha
      rw [Forest.keep, nodes, List.filter_cons, List.filter_append]
      cases hq : q a with
      | true =>
        rw [hq] at ha
        simp [nodes, ha, hcs ha, hnx hpar]
      | false =>
        rw [hq] at ha
        simp [ha, hcs' ha, hnx hpar]
    · intro hpar
      rw [hpar, Bool.false_and] at ha
      rw [nodes, List.filter_cons, List.filter_append, hcs' ha, hnx' hpar]
      simp [ha]

/-! ### Leaves in order -/

theorem inOrder_leaves (f : Forest α) :
    (f.inOrder.filter (·.isLeaf)).map (fun v => (v.id, v.data)) = f.leaves := by
  induction f with
  | nil => rfl
  | node i a cs nx ihc ihn =>
    rw [inOrder] at ihc ihn
    rw [inOrder, inOrderEach, List.flatten_cons, List.filter_append, List.map_append, ihn]
    cases cs with
    | nil => rfl
    | node j b ds ny =>
      rw [leaves_node_of_ne_nil node_ne_nil, ← ihc]
      cases h : (node j b ds ny).inOrderEach with
      | nil => exact absurd h (by simp [inOrderEach])
      | cons t ts => simp

end CTaps.Lib.Forest
