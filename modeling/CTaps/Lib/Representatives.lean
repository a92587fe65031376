import Mathlib.Data.List.Pairwise
import CTaps.Lib.Machine

/-! Keeping one element of every class. A loop keeps an element unless one of the same class was
kept before. A later search by a finer comparison, which falls back on the first one kept, finds the
right class exactly when the element kept for it passes the finer comparison, or the fallback
happens to be right. -/

namespace CTaps.Lib

variable {α : Type*} (same : α → α → Bool)

def keepNew (kept : List α) (a : α) : List α :=
  if kept.any fun b => same b a then kept else kept ++ [a]

def representatives (l : List α) : List α := l.foldl (keepNew same) []

def searchIndex (exact : α → α → Bool) (l : List α) (a : α) : Nat :=
  (l.findIdx? fun b => exact b a).getD 0

variable {same}

theorem foldl_keepNew_append (kept l : List α) :
    ∃ new, l.foldl (keepNew same) kept = kept ++ new := by
  induction l generalizing kept with
  | nil => exact ⟨[], (List.append_nil _).symm⟩
  | cons a l ih =>
    rw [List.foldl_cons, keepNew]
    split
    · exact ih kept
    · obtain ⟨new, hnew⟩ := ih (kept ++ [a])
      exact ⟨[a] ++ new, by rw [hnew, List.append_assoc]⟩

theorem representatives_subset {l : List α} {a : α} (h : a ∈ representatives same l) : a ∈ l := by
  have hinv : ∀ b ∈ representatives same l, b ∈ l := by
    refine foldl_invariant (I := fun kept : List α => ∀ b ∈ kept, b ∈ l) (fun kept a ha hkept => ?_)
      fun b hb => (List.not_mem_nil hb).elim
    rw [keepNew]
    split
    · exact hkept
    · intro b hb
      rcases List.mem_append.mp hb with hb | hb
      · exact hkept b hb
      · rwa [List.mem_singleton.mp hb]
  exact hinv a h

theorem pairwise_representatives (same : α → α → Bool) (l : List α) :
    (representatives same l).Pairwise fun a b => same a b = false := by
  refine foldl_invariant (I := fun kept : List α => kept.Pairwise fun a b => same a b = false)
    (fun kept a _ hkept => ?_) List.Pairwise.nil
  rw [keepNew]
  split
  · exact hkept
  · rename_i hany
    rw [List.pairwise_append]
    refine ⟨hkept, List.pairwise_singleton _ _, fun b hb c hc => ?_⟩
    rw [List.mem_singleton.mp hc]
    rw [List.any_eq_true] at hany
    exact Bool.eq_false_iff.mpr fun h => hany ⟨b, hb, h⟩

theorem head?_representatives (l : List α) : (representatives same l).head? = l.head? := by
  cases l with
  | nil => rfl
  | cons a l =>
    obtain ⟨new, hnew⟩ : ∃ new, l.foldl (keepNew same) [a] = [a] ++ new :=
      foldl_keepNew_append [a] l
    have hfirst : keepNew same [] a = [a] := rfl
    rw [representatives, List.foldl_cons, hfirst, hnew]
    rfl

structure Classes (same : α → α → Bool) : Prop where
  refl : ∀ a, same a a = true
  symm : ∀ a b, same a b = true → same b a = true
  trans : ∀ a b c, same a b = true → same b c = true → same a c = true

namespace Classes

variable (hs : Classes same)

include hs

theorem comap {β : Type*} (f : β → α) : Classes fun a b => same (f a) (f b) where
  refl a := hs.refl (f a)
  symm a b := hs.symm (f a) (f b)
  trans a b c := hs.trans (f a) (f b) (f c)

theorem find?_foldl_keepNew (a : α) (kept l : List α) :
    (l.foldl (keepNew same) kept).find? (fun b => same b a)
      = (kept ++ l).find? fun b => same b a := by
  induction l generalizing kept with
  | nil => rw [List.append_nil, List.foldl_nil]
  | cons b l ih =>
    rw [List.foldl_cons, ih, keepNew]
    split
    · rename_i hany
      obtain ⟨c, hc, hcb⟩ := List.any_eq_true.mp hany
      rw [List.find?_append, List.find?_append, List.find?_cons]
      cases hba : same b a with
      | false => rfl
      | true =>
        -- the class was met before, so the search ends in `kept`
        have hsome : (kept.find? fun b => same b a).isSome = true := by
          rw [List.find?_isSome]
          exact ⟨c, hc, hs.trans c b a hcb hba⟩
        obtain ⟨d, hd⟩ := Option.isSome_iff_exists.mp hsome
        rw [hd]
        rfl
    · rw [List.append_assoc]
      rfl

theorem find?_representatives (a : α) (l : List α) :
    (representatives same l).find? (fun b => same b a) = l.find? fun b => same b a :=
  hs.find?_foldl_keepNew a [] l

theorem countP_representatives {l : List α} {a : α} (ha : a ∈ l) :
    (representatives same l).countP (fun b => same b a) = 1 := by
  have hfind : ((representatives same l).find? fun b => same b a).isSome = true := by
    rw [hs.find?_representatives, List.find?_isSome]
    exact ⟨a, ha, hs.refl a⟩
  obtain ⟨r, hr⟩ := Option.isSome_iff_exists.mp hfind
  have hra : same r a = true := by
    simpa using List.find?_some hr
  have hmem := List.mem_of_find?_eq_some hr
  have hpair := pairwise_representatives same l
  rw [List.countP_eq_length_filter]
  -- two elements of the class would be of the same class
  have hle : ((representatives same l).filter fun b => same b a).length ≤ 1 := by
    by_contra hlt
    have hsub := List.Pairwise.sublist (List.filter_sublist (p := fun b => same b a)) hpair
    cases hf : (representatives same l).filter fun b => same b a with
    | nil => rw [hf] at hlt; exact hlt (Nat.zero_le 1)
    | cons x xs =>
      cases xs with
      | nil => rw [hf] at hlt; exact hlt (Nat.le_refl 1)
      | cons y ys =>
        rw [hf] at hsub
        have hin : ∀ z ∈ x :: y :: ys, same z a = true := by
          intro z hz
          rw [← hf] at hz
          exact (List.mem_filter.mp hz).2
        have hx := hin x List.mem_cons_self
        have hy := hin y (List.mem_cons_of_mem _ List.mem_cons_self)
        have hne := (List.pairwise_cons.mp hsub).1 y List.mem_cons_self
        rw [hs.trans x a y hx (hs.symm y a hy)] at hne
        exact Bool.noConfusion hne
  have hpos : 0 < ((representatives same l).filter fun b => same b a).length :=
    List.length_pos_of_mem (List.mem_filter.mpr ⟨hmem, hra⟩)
  omega

theorem eq_of_mem_representatives {l : List α} {a b c : α} (ha : a ∈ representatives same l)
    (hb : b ∈ representatives same l) (hac : same a c = true) (hbc : same b c = true) : a = b := by
  have hsymm : Std.Symm fun a b => same a b = false := by
    refine ⟨fun x y hxy => ?_⟩
    rw [Bool.eq_false_iff] at hxy ⊢
    exact fun h => hxy (hs.symm y x h)
  by_contra hne
  have hfalse := (pairwise_representatives same l).forall ha hb hne
  rw [hs.trans a c b hac (hs.symm b c hbc)] at hfalse
  exact Bool.noConfusion hfalse

theorem search_representatives {exact : α → α → Bool}
    (hexact : ∀ a b, exact a b = true → same a b = true) {l : List α} {a first kept : α}
    (hfirst : l.head? = some first) (hkept : l.find? (fun b => same b a) = some kept) :
    ∃ r, (representatives same l)[searchIndex exact (representatives same l) a]? = some r ∧
      (same r a = true ↔ exact kept a = true ∨ same first a = true) := by
  rw [← hs.find?_representatives] at hkept
  have hkeptSame : same kept a = true := by
    simpa using List.find?_some hkept
  have hkeptMem := List.mem_of_find?_eq_some hkept
  cases hidx : (representatives same l).findIdx? (fun b => exact b a) with
  | none =>
    refine ⟨first, ?_, ?_⟩
    · rw [searchIndex, hidx, Option.getD_none, ← List.head?_eq_getElem?, head?_representatives,
        hfirst]
    · rw [List.findIdx?_eq_none_iff] at hidx
      have hnot := hidx kept hkeptMem
      rw [hnot]
      simp
  | some j =>
    obtain ⟨hj, hex, -⟩ := List.findIdx?_eq_some_iff_getElem.mp hidx
    refine ⟨(representatives same l)[j], ?_, ?_⟩
    · rw [searchIndex, hidx, Option.getD_some, List.getElem?_eq_getElem hj]
    · have hsame := hexact _ _ hex
      have heq := hs.eq_of_mem_representatives (List.getElem_mem hj) hkeptMem hsame hkeptSame
      rw [heq] at hex hsame ⊢
      exact iff_of_true hsame (Or.inl hex)

end Classes

end CTaps.Lib
