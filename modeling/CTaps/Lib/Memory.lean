import CTaps.Lib.Machine
import Mathlib.Data.Set.Lattice
import Mathlib.Order.CompletePartialOrder

/-! Values that lie in memory. Each owns some blocks and is seen through them only. An operation
that keeps to the blocks of one value and to new ones leaves the others as they are, and a run of
such operations is, for each value, the run of its own operations on what is seen of it. -/

namespace CTaps.Lib

open Function

/-! ### Memory -/

/-- The allocated blocks. Everything from `next` on is free, and what has been released is not
allocated again. -/
structure Memory (β : Type*) where
  blocks : Nat → Option β
  next : Nat
  fresh : ∀ a, next ≤ a → blocks a = none

namespace Memory

variable {β : Type*}

def alloc (m : Memory β) (b : β) : Memory β where
  blocks := update m.blocks m.next (some b)
  next := m.next + 1
  fresh a ha := by
    rw [update_of_ne (by omega)]
    exact m.fresh a (by omega)

def free (m : Memory β) (p : Option Nat) : Memory β where
  blocks a := if p = some a then none else m.blocks a
  next := m.next
  fresh a ha := by
    rw [m.fresh a ha, ite_self]

def write (m : Memory β) (p : Nat) (b : β) : Memory β where
  blocks a := if a = p then (m.blocks p).map fun _ => b else m.blocks a
  next := m.next
  fresh a ha := by
    split
    next h => rw [← h, m.fresh a ha, Option.map_none]
    next => exact m.fresh a ha

section Operations

variable (m : Memory β) (b : β) {a : Nat}

@[simp] theorem alloc_blocks_next : (m.alloc b).blocks m.next = some b := update_self _ _ _

theorem alloc_blocks (ha : a ≠ m.next) : (m.alloc b).blocks a = m.blocks a :=
  update_of_ne ha _ _

theorem free_blocks {p : Option Nat} (ha : p ≠ some a) : (m.free p).blocks a = m.blocks a := if_neg ha

theorem write_blocks {p : Nat} (ha : a ≠ p) : (m.write p b).blocks a = m.blocks a := if_neg ha

theorem write_blocks_self {p : Nat} {b' : β} (h : m.blocks p = some b') :
    (m.write p b).blocks p = some b := by
  show (if p = p then _ else _) = _
  rw [if_pos rfl, h, Option.map_some]

theorem lt_next_of_blocks {m : Memory β} {b : β} (h : m.blocks a = some b) : a < m.next := by
  by_contra hlt
  rw [m.fresh a (Nat.le_of_not_lt hlt)] at h
  cases h

end Operations

/-! ### Operations on part of the memory -/

structure Local (m m' : Memory β) (F F' : Set Nat) : Prop where
  next_le : m.next ≤ m'.next
  frame : ∀ a < m.next, a ∉ F → m'.blocks a = m.blocks a
  owned : ∀ a ∈ F', a < m'.next ∧ (a ∈ F ∨ m.next ≤ a)

variable {m m' m'' : Memory β} {F F' F'' : Set Nat}

theorem Local.refl (hF : ∀ a ∈ F, a < m.next) : Local m m F F :=
  ⟨Nat.le_refl _, fun _ _ _ => rfl, fun a ha => ⟨hF a ha, Or.inl ha⟩⟩

theorem Local.trans (h : Local m m' F F') (h' : Local m' m'' F' F'') : Local m m'' F F'' := by
  refine ⟨Nat.le_trans h.next_le h'.next_le, fun a ha haF => ?_, fun a ha => ?_⟩
  · have haF' : a ∉ F' := fun hmem =>
      (h.owned a hmem).2.elim haF fun hle => absurd ha (Nat.not_lt_of_le hle)
    rw [h'.frame a (Nat.lt_of_lt_of_le ha h.next_le) haF', h.frame a ha haF]
  · obtain ⟨hlt, hmem | hle⟩ := h'.owned a ha
    · exact ⟨hlt, (h.owned a hmem).2⟩
    · exact ⟨hlt, Or.inr (Nat.le_trans h.next_le hle)⟩

theorem Local.of_subset (h : Local m m' F F') (hsub : F'' ⊆ F') : Local m m' F F'' :=
  ⟨h.next_le, h.frame, fun a ha => h.owned a (hsub ha)⟩

theorem Local.lt_next (h : Local m m' F F') {a : Nat} (ha : a ∈ F') : a < m'.next := (h.owned a ha).1

theorem Local.new (h : Local m m' ∅ F') {a : Nat} (ha : a ∈ F') : m.next ≤ a :=
  (h.owned a ha).2.resolve_left (Set.notMem_empty a)

theorem lt_next_of_mem_empty : ∀ a ∈ (∅ : Set Nat), a < m.next :=
  fun a ha => absurd ha (Set.notMem_empty a)

theorem local_nothing : Local m m ∅ ∅ := Local.refl lt_next_of_mem_empty

theorem local_alloc (hF : ∀ a ∈ F, a < m.next) (b : β) :
    Local m (m.alloc b) F (insert m.next F) := by
  refine ⟨Nat.le_succ _, fun a ha _ => m.alloc_blocks b (Nat.ne_of_lt ha), fun a ha => ?_⟩
  rcases ha with rfl | ha
  · exact ⟨Nat.lt_succ_self _, Or.inr (Nat.le_refl _)⟩
  · exact ⟨Nat.lt_succ_of_lt (hF a ha), Or.inl ha⟩

theorem local_free (hF : ∀ a ∈ F, a < m.next) {p : Option Nat} (hp : ∀ a, p = some a → a ∈ F) :
    Local m (m.free p) F F :=
  ⟨Nat.le_refl _, fun _ _ haF => m.free_blocks fun heq => haF (hp _ heq),
    fun a ha => ⟨hF a ha, Or.inl ha⟩⟩

theorem local_write (hF : ∀ a ∈ F, a < m.next) {p : Nat} (hp : p ∈ F) (b : β) :
    Local m (m.write p b) F F :=
  ⟨Nat.le_refl _, fun _ _ haF => m.write_blocks b fun heq => haF (heq ▸ hp),
    fun a ha => ⟨hF a ha, Or.inl ha⟩⟩

end Memory

/-! ### Values in memory -/

structure Layout (β ν ο : Type*) where
  owned : Memory β → ν → Set Nat
  view : Memory β → ν → ο
  stable : ∀ {m m' : Memory β} {v : ν}, (∀ a ∈ owned m v, m'.blocks a = m.blocks a) →
    owned m' v = owned m v ∧ view m' v = view m v

section Separate

variable {ι α β ν ο : Type*} {L : ι → Layout β ν ο} {m m' : Memory β} {values : ι → ν}

structure Separate (L : ι → Layout β ν ο) (m : Memory β) (values : ι → ν) : Prop where
  lt_next : ∀ i, ∀ a ∈ (L i).owned m (values i), a < m.next
  disjoint : ∀ i j, i ≠ j → Disjoint ((L i).owned m (values i)) ((L j).owned m (values j))

variable [DecidableEq ι]

theorem Separate.update (h : Separate L m values) {i : ι} {v : ν}
    (hlocal : m.Local m' ((L i).owned m (values i)) ((L i).owned m' v)) :
    Separate L m' (update values i v) ∧
      ∀ j ≠ i, (L j).view m' (values j) = (L j).view m (values j) := by
  have hkept : ∀ j ≠ i, (L j).owned m' (values j) = (L j).owned m (values j) ∧
      (L j).view m' (values j) = (L j).view m (values j) := by
    intro j hj
    apply (L j).stable
    intro a ha
    exact hlocal.frame a (h.lt_next j a ha) fun hi => (Set.disjoint_left.mp (h.disjoint j i hj)) ha hi
  have hnew : ∀ j ≠ i, Disjoint ((L i).owned m' v) ((L j).owned m' (values j)) := by
    intro j hj
    rw [(hkept j hj).1, Set.disjoint_left]
    intro a ha haj
    rcases (hlocal.owned a ha).2 with hai | hle
    · exact (Set.disjoint_left.mp (h.disjoint j i hj)) haj hai
    · exact absurd (h.lt_next j a haj) (Nat.not_lt_of_le hle)
  refine ⟨⟨fun j a ha => ?_, fun j k hjk => ?_⟩, fun j hj => (hkept j hj).2⟩
  · by_cases hj : j = i
    · subst hj
      rw [update_self] at ha
      exact hlocal.lt_next ha
    · rw [update_of_ne hj, (hkept j hj).1] at ha
      exact Nat.lt_of_lt_of_le (h.lt_next j a ha) hlocal.next_le
  · by_cases hj : j = i
    · subst hj
      rw [update_self, update_of_ne hjk.symm]
      exact hnew k hjk.symm
    · rw [update_of_ne hj]
      by_cases hk : k = i
      · subst hk
        rw [update_self]
        exact (hnew j hj).symm
      · rw [update_of_ne hk, (hkept j hj).1, (hkept k hk).1]
        exact h.disjoint j k hjk

/-! ### Runs -/

def stepAt (site : α → ι) (perform : α → Memory β → ν → Memory β × ν)
    (s : Memory β × (ι → ν)) (x : α) : Memory β × (ι → ν) :=
  let r := perform x s.1 (s.2 (site x))
  (r.1, update s.2 (site x) r.2)

def Performs (L : ι → Layout β ν ο) (site : α → ι) (perform : α → Memory β → ν → Memory β × ν)
    (abstract : α → ο → ο) (good : ι → ο → Prop) : Prop :=
  ∀ x m v, (∀ a ∈ (L (site x)).owned m v, a < m.next) → good (site x) ((L (site x)).view m v) →
    m.Local (perform x m v).1 ((L (site x)).owned m v)
        ((L (site x)).owned (perform x m v).1 (perform x m v).2) ∧
      (L (site x)).view (perform x m v).1 (perform x m v).2 =
        abstract x ((L (site x)).view m v) ∧
      good (site x) (abstract x ((L (site x)).view m v))

def seen (L : ι → Layout β ν ο) (s : Memory β × (ι → ν)) (i : ι) : ο := (L i).view s.1 (s.2 i)

structure Held (L : ι → Layout β ν ο) (good : ι → ο → Prop) (s : Memory β × (ι → ν)) : Prop where
  separate : Separate L s.1 s.2
  good : ∀ i, good i (seen L s i)

variable {site : α → ι} {perform : α → Memory β → ν → Memory β × ν} {abstract : α → ο → ο}
  {good : ι → ο → Prop} {s : Memory β × (ι → ν)}

omit [DecidableEq ι] in
theorem Held.of_empty (hempty : ∀ i, (L i).owned s.1 (s.2 i) = ∅) (hgood : ∀ i, good i (seen L s i)) :
    Held L good s := by
  refine ⟨⟨fun i a ha => ?_, fun i j _ => ?_⟩, hgood⟩
  · rw [hempty] at ha
    exact absurd ha (Set.notMem_empty a)
  · rw [hempty]
    exact Set.empty_disjoint _

theorem Held.step (hperform : Performs L site perform abstract good) (h : Held L good s) (x : α) :
    Held L good (stepAt site perform s x) ∧ ∀ i, seen L (stepAt site perform s x) i =
      if site x = i then abstract x (seen L s i) else seen L s i := by
  obtain ⟨hlocal, hview, hnext⟩ := hperform x s.1 (s.2 (site x)) (h.separate.lt_next _) (h.good _)
  obtain ⟨hsep, hothers⟩ := h.separate.update hlocal
  have hseen : ∀ i, seen L (stepAt site perform s x) i =
      if site x = i then abstract x (seen L s i) else seen L s i := by
    intro i
    unfold seen stepAt
    dsimp only
    by_cases hi : site x = i
    · subst hi
      rw [if_pos rfl, update_self]
      exact hview
    · rw [if_neg hi, update_of_ne (Ne.symm hi)]
      exact hothers i (Ne.symm hi)
  refine ⟨⟨hsep, fun i => ?_⟩, hseen⟩
  rw [hseen]
  split
  next hi => exact hi ▸ hnext
  next => exact h.good i

theorem Held.run (hperform : Performs L site perform abstract good) (h : Held L good s)
    (xs : List α) : Held L good (run (stepAt site perform) s xs) ∧
      ∀ i, seen L (Lib.run (stepAt site perform) s xs) i =
        Lib.run (fun o x => abstract x o) (seen L s i) (xs.filter fun x => site x = i) := by
  induction xs generalizing s with
  | nil => exact ⟨h, fun _ => rfl⟩
  | cons x xs ih =>
    obtain ⟨hstep, hseen⟩ := h.step hperform x
    obtain ⟨hrun, hviews⟩ := ih hstep
    refine ⟨hrun, fun i => (hviews i).trans ?_⟩
    rw [hseen]
    by_cases hi : site x = i
    · rw [if_pos hi, List.filter_cons_of_pos (by simpa using hi), run_cons]
    · rw [if_neg hi, List.filter_cons_of_neg (by simpa using hi)]

end Separate

end CTaps.Lib
