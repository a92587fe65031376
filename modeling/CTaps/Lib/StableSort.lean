import Mathlib.Data.List.Sort

/-! Sorting by a key, largest key first. The sort is stable: what it does to the
elements of one key is nothing. -/

namespace CTaps.Lib

variable {α κ : Type*} [LinearOrder κ] {key : α → κ}

def byKey (key : α → κ) (l : List α) : List α := l.insertionSort fun a b => key b ≤ key a

instance total_byKey : Std.Total fun a b : α => key b ≤ key a :=
  ⟨fun a b => le_total (key b) (key a)⟩

instance trans_byKey : IsTrans α fun a b => key b ≤ key a :=
  ⟨fun _ _ _ hab hbc => hbc.trans hab⟩

theorem byKey_perm (key : α → κ) (l : List α) : (byKey key l).Perm l := List.perm_insertionSort _ l

theorem byKey_pairwise (key : α → κ) (l : List α) :
    (byKey key l).Pairwise fun a b => key b ≤ key a :=
  List.pairwise_insertionSort _ l

theorem filter_byKey (key : α → κ) (l : List α) (k : κ) :
    (byKey key l).filter (key · = k) = l.filter (key · = k) := by
  have hpair : (l.filter (key · = k)).Pairwise fun a b => key b ≤ key a := by
    apply List.pairwise_iff_forall_sublist.mpr
    intro a b hab
    have ha := List.of_mem_filter (hab.subset List.mem_cons_self)
    have hb := List.of_mem_filter (hab.subset (List.mem_cons_of_mem _ List.mem_cons_self))
    rw [decide_eq_true_eq] at ha hb
    rw [ha, hb]
  have hsub : (l.filter (key · = k)).Sublist (byKey key l) :=
    List.sublist_insertionSort hpair List.filter_sublist
  have hfilter := hsub.filter (key · = k)
  rw [List.filter_filter] at hfilter
  simp only [Bool.and_self] at hfilter
  apply (hfilter.eq_of_length _).symm
  exact ((byKey_perm key l).filter _).length_eq.symm

theorem insertionSort_eq_byKey {r : α → α → Prop} [DecidableRel r] {l : List α}
    (h : ∀ a ∈ l, ∀ b ∈ l, r a b ↔ key b ≤ key a) : l.insertionSort r = byKey key l := by
  have hmap := List.map_insertionSort (r := r) (s := fun a b => key b ≤ key a) id l h
  rwa [List.map_id, List.map_id] at hmap

end CTaps.Lib
