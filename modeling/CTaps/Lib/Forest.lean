import Mathlib.Data.List.Perm.Basic
import Mathlib.Data.List.Nodup
import Mathlib.Data.List.Lattice

/-! An ordered forest in first-child / next-sibling form, every node with an identity and a payload.
Siblings are attached below a node (`graft`) and a node is unlinked with everything under it
(`remove`). `Linked R`, that every node is related to its parent by `R`, is the one invariant the
traversal and the pruning rules ask for. -/

namespace CTaps.Lib

inductive Forest (α : Type*)
  | nil
  | node (id : Nat) (data : α) (children next : Forest α)
  deriving DecidableEq, Repr

namespace Forest

variable {α : Type*}

/-! ### Reading a forest -/

def nodes : Forest α → List (Nat × α)
  | nil => []
  | node i a cs nx => (i, a) :: (nodes cs ++ nodes nx)

def ids (f : Forest α) : List Nat := f.nodes.map Prod.fst

structure Visit (α : Type*) where
  id : Nat
  data : α
  isLeaf : Bool
  deriving DecidableEq, Repr

def isNil : Forest α → Bool
  | nil => true
  | node .. => false

def atDepth : Nat → Forest α → List (Visit α)
  | _, nil => []
  | 0, node i a cs nx => ⟨i, a, cs.isNil⟩ :: atDepth 0 nx
  | d + 1, node _ _ cs nx => atDepth d cs ++ atDepth (d + 1) nx

def height : Forest α → Nat
  | nil => 0
  | node _ _ cs nx => max (height cs + 1) (height nx)

def levelOrder (f : Forest α) : List (Visit α) :=
  (List.range f.height).flatMap (atDepth · f)

def inOrderEach : Forest α → List (List (Visit α))
  | nil => []
  | node i a cs nx =>
    (match inOrderEach cs with
      | [] => [⟨i, a, true⟩]
      | t :: ts => t ++ ⟨i, a, false⟩ :: ts.flatten) :: inOrderEach nx

def inOrder (f : Forest α) : List (Visit α) := f.inOrderEach.flatten

def leaves : Forest α → List (Nat × α)
  | nil => []
  | node i a nil nx => (i, a) :: leaves nx
  | node _ _ cs nx => leaves cs ++ leaves nx

def traverse {β σ : Type*} (visit : β → σ → σ × Bool) : List β → σ → σ
  | [], s => s
  | v :: vs, s =>
    match visit v s with
    | (s', true) => s'
    | (s', false) => traverse visit vs s'

/-! ### Changing a forest -/

def append : Forest α → Forest α → Forest α
  | nil, g => g
  | node i a cs nx, g => node i a cs (append nx g)

def graft (p : Nat) : Forest α → Forest α → Forest α
  | nil, _ => nil
  | node i a cs nx, g =>
    if i = p then node i a (cs.append g) nx else node i a (graft p cs g) (graft p nx g)

def siblings (n : Nat) : List α → Forest α
  | [] => nil
  | a :: as => node n a nil (siblings (n + 1) as)

def remove (p : Nat) : Forest α → Forest α
  | nil => nil
  | node i a cs nx => if i = p then nx else node i a (remove p cs) (remove p nx)

/-- Unlinks one node after the other. A node that is no longer in the forest when its turn comes
has been released together with an ancestor: that is an error. -/
def removeAll : List Nat → Forest α → Option (Forest α)
  | [], f => some f
  | p :: ps, f => if p ∈ f.ids then removeAll ps (f.remove p) else none

def keep (q : Nat → α → Bool) : Forest α → Forest α
  | nil => nil
  | node i a cs nx => if q i a then node i a (keep q cs) (keep q nx) else keep q nx

def Linked (R : Option α → α → Prop) : Option α → Forest α → Prop
  | _, nil => True
  | parent, node _ a cs nx => R parent a ∧ Linked R (some a) cs ∧ Linked R parent nx

/-! ### Growing -/

@[simp] theorem nodes_append (f g : Forest α) : (f.append g).nodes = f.nodes ++ g.nodes := by
  induction f with
  | nil => rfl
  | node i a cs nx _ ih => simp [append, nodes, ih]

@[simp] theorem leaves_append (f g : Forest α) : (f.append g).leaves = f.leaves ++ g.leaves := by
  induction f with
  | nil => rfl
  | node i a cs nx _ ih => cases cs <;> simp [append, leaves, ih]

theorem append_nil (f : Forest α) : f.append nil = f := by
  induction f with
  | nil => rfl
  | node i a cs nx _ ih => rw [append, ih]

@[simp] theorem leaves_siblings (n : Nat) (as : List α) :
    (siblings n as).leaves = (siblings n as).nodes := by
  induction as generalizing n with
  | nil => rfl
  | cons a as ih => simp [siblings, leaves, nodes, ih]

@[simp] theorem ids_siblings (n : Nat) (as : List α) :
    (siblings n as).ids = List.range' n as.length := by
  induction as generalizing n with
  | nil => rfl
  | cons a as ih =>
    have h := ih (n + 1)
    rw [ids] at h
    simp [ids, siblings, nodes, h, List.range'_succ]

@[simp] theorem data_siblings (n : Nat) (as : List α) :
    (siblings n as).nodes.map Prod.snd = as := by
  induction as generalizing n with
  | nil => rfl
  | cons a as ih => simp [siblings, nodes, ih]

theorem append_assoc (f g h : Forest α) : (f.append g).append h = f.append (g.append h) := by
  induction f with
  | nil => rfl
  | node i a cs nx _ ih => simp only [append, ih]

@[simp] theorem ids_nil : (nil : Forest α).ids = [] := rfl

theorem ids_node (i : Nat) (a : α) (cs nx : Forest α) :
    (node i a cs nx).ids = i :: (cs.ids ++ nx.ids) := by
  simp [ids, nodes]

theorem graft_of_not_mem {p : Nat} {g f : Forest α} (h : p ∉ f.ids) : f.graft p g = f := by
  induction f with
  | nil => rfl
  | node i a cs nx ihc ihn =>
    simp only [ids_node, List.mem_cons, List.mem_append, not_or] at h
    rw [graft, if_neg (Ne.symm h.1), ihc h.2.1, ihn h.2.2]

theorem graft_nil (p : Nat) (f : Forest α) : f.graft p nil = f := by
  induction f with
  | nil => rfl
  | node i a cs nx ihc ihn => rw [graft, append_nil, ihc, ihn, ite_self]

theorem graft_graft (p : Nat) (f g h : Forest α) :
    (f.graft p g).graft p h = f.graft p (g.append h) := by
  induction f with
  | nil => rfl
  | node i a cs nx ihc ihn =>
    by_cases hip : i = p
    · rw [graft, if_pos hip, graft, if_pos hip, graft, if_pos hip, append_assoc]
    · rw [graft, if_neg hip, graft, if_neg hip, graft, if_neg hip, ihc, ihn]

theorem nodes_graft_perm {p : Nat} {f g : Forest α} (hp : p ∈ f.ids) (hf : f.ids.Nodup) :
    (f.graft p g).nodes.Perm (g.nodes ++ f.nodes) := by
  induction f with
  | nil => exact absurd hp (by simp)
  | node i a cs nx ihc ihn =>
    rw [ids_node, List.nodup_cons, List.nodup_append] at hf
    obtain ⟨hi, hcs, hnx, hdisj⟩ := hf
    by_cases hip : i = p
    · rw [graft, if_pos hip, nodes, nodes, nodes_append]
      refine (List.Perm.cons _ ?_).trans List.perm_middle.symm
      rw [← List.append_assoc]
      exact List.perm_append_comm.append_right _
    · rw [graft, if_neg hip, nodes, nodes]
      refine (List.Perm.cons _ ?_).trans List.perm_middle.symm
      rw [ids_node, List.mem_cons, List.mem_append] at hp
      rcases hp with h | h | h
      · exact absurd h.symm hip
      · have hnot : p ∉ nx.ids := fun h' => hdisj p h p h' rfl
        rw [graft_of_not_mem hnot, ← List.append_assoc]
        exact (ihc h hcs).append_right _
      · have hnot : p ∉ cs.ids := fun h' => hdisj p h' p h rfl
        rw [graft_of_not_mem hnot]
        refine ((ihn h hnx).append_left _).trans ?_
        rw [← List.append_assoc, ← List.append_assoc]
        exact List.perm_append_comm.append_right _

theorem ids_graft_perm {p : Nat} {f g : Forest α} (hp : p ∈ f.ids) (hf : f.ids.Nodup) :
    (f.graft p g).ids.Perm (g.ids ++ f.ids) := by
  rw [ids, ids, ids, ← List.map_append]
  exact (nodes_graft_perm hp hf).map _

/-! ### Leaves -/

theorem leaves_sublist (f : Forest α) : f.leaves.Sublist f.nodes := by
  induction f with
  | nil => exact List.Sublist.slnil
  | node i a cs nx ihc ihn =>
    cases cs with
    | nil => simpa [leaves, nodes] using ihn
    | node j b ds ny => exact (ihc.append ihn).cons _

theorem mem_ids_of_mem {f : Forest α} {l : Nat × α} (h : l ∈ f.nodes) : l.1 ∈ f.ids :=
  List.mem_map_of_mem h

theorem node_ne_nil {i : Nat} {a : α} {cs nx : Forest α} : node i a cs nx ≠ nil := nofun

theorem leaves_node_of_ne_nil {i : Nat} {a : α} {cs nx : Forest α} (h : cs ≠ nil) :
    (node i a cs nx).leaves = cs.leaves ++ nx.leaves := by
  cases cs with
  | nil => exact absurd rfl h
  | node j b ds ny => rfl

theorem graft_ne_nil {p : Nat} {f g : Forest α} (hf : f ≠ nil) : f.graft p g ≠ nil := by
  cases f with
  | nil => exact hf
  | node i a cs nx =>
    rw [graft]
    split <;> exact node_ne_nil

private theorem flatMap_ite_of_not_mem {p : Nat} {g : List (Nat × α)} {ls : List (Nat × α)}
    (h : ∀ l ∈ ls, l.1 ≠ p) : (ls.flatMap fun l => if l.1 = p then g else [l]) = ls := by
  induction ls with
  | nil => rfl
  | cons l ls ih =>
    have hl := h l List.mem_cons_self
    rw [List.flatMap_cons, if_neg hl, ih fun l' hl' => h l' (List.mem_cons_of_mem _ hl')]
    rfl

theorem flatMap_leaves_of_not_mem {p : Nat} {g : List (Nat × α)} {f : Forest α}
    (h : p ∉ f.ids) : (f.leaves.flatMap fun l => if l.1 = p then g else [l]) = f.leaves := by
  apply flatMap_ite_of_not_mem
  intro l hl hlp
  exact h (hlp ▸ mem_ids_of_mem (f.leaves_sublist.subset hl))

theorem leaves_graft {p : Nat} {f g : Forest α} (hg : g ≠ nil) (hf : f.ids.Nodup)
    (hp : p ∈ f.leaves.map Prod.fst ∨ p ∉ f.ids) :
    (f.graft p g).leaves = f.leaves.flatMap fun l => if l.1 = p then g.leaves else [l] := by
  induction f with
  | nil => rfl
  | node i a cs nx ihc ihn =>
    rw [ids_node, List.nodup_cons, List.nodup_append] at hf
    obtain ⟨hi, hcs, hnx, hdisj⟩ := hf
    have hleaf : ∀ f' : Forest α, p ∈ f'.leaves.map Prod.fst → p ∈ f'.ids := by
      intro f' h
      obtain ⟨l, hl, rfl⟩ := List.mem_map.mp h
      exact mem_ids_of_mem (f'.leaves_sublist.subset hl)
    rw [List.mem_append, not_or] at hi
    by_cases hip : i = p
    · subst hip
      -- `p` is this node, and by uniqueness of the identities it has no children
      have hnil : cs = nil := by
        by_contra hne
        rw [leaves_node_of_ne_nil hne, List.map_append, List.mem_append] at hp
        rcases hp with (h | h) | h
        · exact hi.1 (hleaf cs h)
        · exact hi.2 (hleaf nx h)
        · exact h (by simp [ids_node])
      subst hnil
      rw [graft, if_pos rfl, append, leaves_node_of_ne_nil hg, leaves, List.flatMap_cons,
        if_pos rfl, flatMap_leaves_of_not_mem hi.2]
    · rw [graft, if_neg hip]
      by_cases hne : cs = nil
      · subst hne
        have hp' : p ∈ nx.leaves.map Prod.fst ∨ p ∉ nx.ids := by
          rcases hp with h | h
          · rw [leaves, List.map_cons, List.mem_cons] at h
            exact Or.inl (h.resolve_left (Ne.symm hip))
          · exact Or.inr fun h' => h (by simp [ids_node, h'])
        rw [graft, leaves, leaves, List.flatMap_cons, if_neg hip, ihn hnx hp']
        rfl
      · rw [leaves_node_of_ne_nil (graft_ne_nil hne), leaves_node_of_ne_nil hne,
          List.flatMap_append]
        rw [leaves_node_of_ne_nil hne, List.map_append, List.mem_append] at hp
        rcases hp with (h | h) | h
        · have hnot : p ∉ nx.ids := fun h' => hdisj p (hleaf cs h) p h' rfl
          rw [ihc hcs (Or.inl h), ihn hnx (Or.inr hnot)]
        · have hnot : p ∉ cs.ids := fun h' => hdisj p h' p (hleaf nx h) rfl
          rw [ihc hcs (Or.inr hnot), ihn hnx (Or.inl h)]
        · rw [ids_node, List.mem_cons, List.mem_append, not_or, not_or] at h
          rw [ihc hcs (Or.inr h.2.1), ihn hnx (Or.inr h.2.2)]

theorem leaves_graft_of_eq {f g : Forest α} {l : Nat × α} {as bs : List (Nat × α)} (hg : g ≠ nil)
    (hf : f.ids.Nodup) (h : f.leaves = as ++ l :: bs) :
    (f.graft l.1 g).leaves = as ++ g.leaves ++ bs := by
  have hnodup : (f.leaves.map Prod.fst).Nodup := hf.sublist (f.leaves_sublist.map _)
  rw [h, List.map_append, List.map_cons, List.nodup_append, List.nodup_cons] at hnodup
  obtain ⟨_, ⟨hbs, _⟩, has⟩ := hnodup
  have hnotas : ∀ l' ∈ as, l'.1 ≠ l.1 := fun l' hl' =>
    has l'.1 (List.mem_map_of_mem hl') l.1 List.mem_cons_self
  have hnotbs : ∀ l' ∈ bs, l'.1 ≠ l.1 := fun l' hl' heq =>
    hbs (heq ▸ List.mem_map_of_mem hl')
  rw [leaves_graft hg hf (Or.inl (by simp [h])), h, List.flatMap_append, List.flatMap_cons,
    if_pos rfl, flatMap_ite_of_not_mem hnotas, flatMap_ite_of_not_mem hnotbs, List.append_assoc]

theorem mem_nodes_graft {p : Nat} {f g : Forest α} {l : Nat × α}
    (h : l ∈ (f.graft p g).nodes) : l ∈ f.nodes ∨ l ∈ g.nodes := by
  induction f with
  | nil => exact Or.inl h
  | node i a cs nx ihc ihn =>
    rw [graft] at h
    split at h
    · rw [nodes, nodes_append] at h
      rw [nodes]
      simp only [List.mem_cons, List.mem_append] at h ⊢
      tauto
    · rw [nodes] at h ⊢
      simp only [List.mem_cons, List.mem_append] at h ⊢
      rcases h with h | h | h
      · exact Or.inl (Or.inl h)
      · exact (ihc h).imp_left fun h' => Or.inr (Or.inl h')
      · exact (ihn h).imp_left fun h' => Or.inr (Or.inr h')

theorem mem_leaves_of_mem_graft {p : Nat} {f g : Forest α} {l : Nat × α}
    (h : l ∈ (f.graft p g).leaves) : l ∈ f.leaves ∨ l ∈ g.leaves := by
  induction f with
  | nil => exact Or.inl h
  | node i a cs nx ihc ihn =>
    by_cases hip : i = p
    · rw [graft, if_pos hip] at h
      cases cs with
      | nil =>
        cases g with
        | nil => exact Or.inl h
        | node j b ds ny =>
          rw [append, leaves_node_of_ne_nil node_ne_nil, List.mem_append] at h
          exact h.symm.imp_left fun h' => by simp [leaves, h']
      | node j b ds ny =>
        rw [append, leaves_node_of_ne_nil node_ne_nil, ← append, leaves_append,
          List.mem_append, List.mem_append] at h
        rw [leaves_node_of_ne_nil node_ne_nil, List.mem_append]
        tauto
    · rw [graft, if_neg hip] at h
      by_cases hne : cs = nil
      · subst hne
        rw [graft, leaves, List.mem_cons] at h
        rw [leaves, List.mem_cons]
        rcases h with h | h
        · exact Or.inl (Or.inl h)
        · exact (ihn h).imp_left Or.inr
      · rw [leaves_node_of_ne_nil (graft_ne_nil hne), List.mem_append] at h
        rw [leaves_node_of_ne_nil hne, List.mem_append]
        rcases h with h | h
        · exact (ihc h).imp_left Or.inl
        · exact (ihn h).imp_left Or.inr

end Forest

end CTaps.Lib
