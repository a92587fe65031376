import Mathlib.Data.List.Basic
import Mathlib.Logic.Function.Basic

/-! Reference counting. Each resource has a count, the holders of its references and the number of
times it was freed. Resources are balanced if every count is the number of holders, and a resource
is freed once if it has no holder and never otherwise. The young one, which was made and has not
been taken yet, has no holder and is not freed. -/

namespace CTaps.Lib

structure Cell (α : Type*) where
  count : Int
  holders : List α
  frees : Nat

namespace Cell

variable {α : Type*}

def empty : Cell α := ⟨0, [], 0⟩

def acquire (a : α) (x : Cell α) : Cell α := ⟨x.count + 1, a :: x.holders, x.frees⟩

def release [BEq α] (a : α) (x : Cell α) : Cell α :=
  ⟨x.count - 1, x.holders.erase a, x.frees + if x.count - 1 = 0 then 1 else 0⟩

end Cell

variable {α : Type*} {young : Option Nat} {num : Nat} {cell : Nat → Cell α}

structure Balanced (young : Option Nat) (num : Nat) (cell : Nat → Cell α) : Prop where
  nodup : ∀ i, (cell i).holders.Nodup
  count_eq : ∀ i, (cell i).count = (cell i).holders.length
  frees_eq : ∀ i < num, young ≠ some i → (cell i).frees = if (cell i).count = 0 then 1 else 0
  frees_young : ∀ i ∈ young, (cell i).frees = 0 ∧ (cell i).count = 0
  fresh : ∀ i, num ≤ i → cell i = .empty

theorem balanced_empty : Balanced none 0 fun _ => (Cell.empty : Cell α) := by
  constructor <;> simp [Cell.empty]

theorem Balanced.alive (h : Balanced young num cell) {i : Nat} {a : α}
    (ha : a ∈ (cell i).holders) :
    i < num ∧ (cell i).frees = 0 ∧ young ≠ some i ∧ 0 < (cell i).count := by
  have hpos : 0 < (cell i).count := by
    have hlen : 0 < (cell i).holders.length := List.length_pos_of_mem ha
    rw [h.count_eq]
    omega
  have hlt : i < num := by
    by_contra hn
    rw [h.fresh i (Nat.not_lt.mp hn)] at ha
    cases ha
  have hyoung : young ≠ some i := by
    intro hy
    rw [(h.frees_young i hy).2] at hpos
    exact absurd hpos (by decide)
  refine ⟨hlt, ?_, hyoung, hpos⟩
  rw [h.frees_eq i hlt hyoung, if_neg (by omega)]

theorem Balanced.create (h : Balanced none num cell) : Balanced (some num) (num + 1) cell := by
  refine ⟨h.nodup, h.count_eq, fun i hi hne => ?_, ?_, fun i hi => h.fresh i (Nat.le_of_succ_le hi)⟩
  · have hin : i ≠ num := fun he => hne (he ▸ rfl)
    exact h.frees_eq i (Nat.lt_of_le_of_ne (Nat.le_of_lt_succ hi) hin) (by simp)
  · rintro i hi
    cases hi
    rw [h.fresh num (Nat.le_refl _)]
    exact ⟨rfl, rfl⟩

theorem Balanced.acquire (h : Balanced young num cell) {i : Nat} (hi : i < num)
    (halive : (cell i).frees = 0) {a : α} (ha : a ∉ (cell i).holders) {young' : Option Nat}
    (hyoung : young' = if young = some i then none else young) :
    Balanced young' num (Function.update cell i ((cell i).acquire a)) := by
  have hother : ∀ j, j ≠ i → (young' = some j ↔ young = some j) := by
    intro j hj
    rw [hyoung]
    split
    · next hy => simp [hy, Ne.symm hj]
    · rfl
  have hself : young' ≠ some i := by
    rw [hyoung]
    split
    · simp
    · assumption
  constructor
  · intro j
    by_cases hj : j = i
    · subst hj
      simpa [Cell.acquire] using ⟨ha, h.nodup j⟩
    · simpa [hj] using h.nodup j
  · intro j
    by_cases hj : j = i
    · subst hj
      simp [Cell.acquire, h.count_eq j]
    · simpa [hj] using h.count_eq j
  · intro j hjn hne
    by_cases hj : j = i
    · subst hj
      have hcount : ((cell j).acquire a).count ≠ 0 := by
        simp only [Cell.acquire, h.count_eq j]
        omega
      rw [Function.update_self, if_neg hcount]
      exact halive
    · simpa [hj] using h.frees_eq j hjn (mt (hother j hj).mpr hne)
  · intro j hjy
    have hj : j ≠ i := fun he => hself (he ▸ hjy)
    simpa [hj] using h.frees_young j ((hother j hj).mp hjy)
  · intro j hjn
    have hj : j ≠ i := fun he => absurd hi (Nat.not_lt.mpr (he ▸ hjn))
    simpa [hj] using h.fresh j hjn

theorem Balanced.release [BEq α] [LawfulBEq α] (h : Balanced young num cell) {i : Nat} {a : α}
    (ha : a ∈ (cell i).holders) :
    Balanced young num (Function.update cell i ((cell i).release a)) := by
  obtain ⟨hi, halive, hyoung, hpos⟩ := h.alive ha
  constructor
  · intro j
    by_cases hj : j = i
    · subst hj
      simpa [Cell.release] using (h.nodup j).erase a
    · simpa [hj] using h.nodup j
  · intro j
    by_cases hj : j = i
    · subst hj
      have hlen : 0 < (cell j).holders.length := List.length_pos_of_mem ha
      simp only [Function.update_self, Cell.release, List.length_erase_of_mem ha, h.count_eq j]
      omega
    · simpa [hj] using h.count_eq j
  · intro j hjn hne
    by_cases hj : j = i
    · subst hj
      simp [Cell.release, halive]
    · simpa [hj] using h.frees_eq j hjn hne
  · intro j hjy
    have hj : j ≠ i := fun he => hyoung (he ▸ hjy)
    simpa [hj] using h.frees_young j hjy
  · intro j hjn
    have hj : j ≠ i := fun he => absurd hi (Nat.not_lt.mpr (he ▸ hjn))
    simpa [hj] using h.fresh j hjn

end CTaps.Lib
