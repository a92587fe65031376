import CTaps.Lib.Machine
import Mathlib.Data.List.Nodup

/-! A finite map kept as a list of pairs: the value of a key that is there is replaced, any other key
is appended. The keys stay distinct, and after any number of writes a key has the value of the last
one. -/

namespace CTaps.Lib

variable {κ ν : Type*} [DecidableEq κ]

def upsert (key : κ) (value : ν) : List (κ × ν) → List (κ × ν)
  | [] => [(key, value)]
  | e :: l => if e.1 = key then (e.1, value) :: l else e :: upsert key value l

theorem upsert_of_notMem {key : κ} {l : List (κ × ν)} (h : ∀ e ∈ l, e.1 ≠ key) (value : ν) :
    upsert key value l = l ++ [(key, value)] := by
  induction l with
  | nil => rfl
  | cons e l ih =>
    rw [upsert, if_neg (h e List.mem_cons_self), List.cons_append,
      ih fun e' he' => h e' (List.mem_cons_of_mem e he')]

theorem mem_upsert_fst {key : κ} {value : ν} {l : List (κ × ν)} {e : κ × ν}
    (h : e ∈ upsert key value l) : e.1 = key ∨ e.1 ∈ l.map Prod.fst := by
  induction l with
  | nil =>
    rw [List.mem_singleton.mp h]
    exact Or.inl rfl
  | cons e' l ih =>
    rw [upsert] at h
    split at h
    next hkey =>
      rcases List.mem_cons.mp h with rfl | h
      · exact Or.inl hkey
      · exact Or.inr (List.mem_cons_of_mem _ (List.mem_map_of_mem h))
    next =>
      rcases List.mem_cons.mp h with rfl | h
      · exact Or.inr List.mem_cons_self
      · exact (ih h).imp_right (List.mem_cons_of_mem _)

theorem nodup_upsert {key : κ} {value : ν} {l : List (κ × ν)} (h : (l.map Prod.fst).Nodup) :
    ((upsert key value l).map Prod.fst).Nodup := by
  induction l with
  | nil => exact List.nodup_singleton key
  | cons e l ih =>
    obtain ⟨hnot, hl⟩ := List.nodup_cons.mp h
    rw [upsert]
    split
    next => exact h
    next hkey =>
      refine List.nodup_cons.mpr ⟨fun hmem => ?_, ih hl⟩
      obtain ⟨e', he', heq⟩ := List.mem_map.mp hmem
      rcases mem_upsert_fst he' with h' | h'
      · exact hkey (heq.symm.trans h')
      · exact hnot (heq ▸ h')

def valueOf (k : κ) (l : List (κ × ν)) : Option ν := (l.find? fun e => e.1 = k).map Prod.snd

theorem valueOf_cons (e : κ × ν) (l : List (κ × ν)) (k : κ) :
    valueOf k (e :: l) = if e.1 = k then some e.2 else valueOf k l := by
  unfold valueOf
  by_cases h : e.1 = k
  · rw [if_pos h, List.find?_cons_of_pos (by simpa using h), Option.map_some]
  · rw [if_neg h, List.find?_cons_of_neg (by simpa using h)]

theorem valueOf_upsert (key k : κ) (value : ν) (l : List (κ × ν)) :
    valueOf k (upsert key value l) = if key = k then some value else valueOf k l := by
  induction l with
  | nil => exact valueOf_cons _ _ _
  | cons e l ih =>
    rw [upsert]
    by_cases hkey : e.1 = key
    · rw [if_pos hkey, valueOf_cons, valueOf_cons, hkey]
      by_cases hk : key = k
      · rw [if_pos hk, if_pos hk]
      · rw [if_neg hk, if_neg hk, if_neg hk]
    · rw [if_neg hkey, valueOf_cons, valueOf_cons, ih]
      by_cases hek : e.1 = k
      · rw [if_pos hek, if_pos hek, if_neg fun h => hkey (hek.trans h.symm)]
      · rw [if_neg hek, if_neg hek]

theorem valueOf_run_upsert (k : κ) (l : List (κ × ν)) (xs : List (κ × ν)) :
    valueOf k (run (fun l x => upsert x.1 x.2 l) l xs) =
      ((xs.filter fun x => x.1 = k).getLast?.map Prod.snd).or (valueOf k l) := by
  induction xs generalizing l with
  | nil => rfl
  | cons x xs ih =>
    rw [run_cons, ih, valueOf_upsert]
    by_cases hx : x.1 = k
    · rw [if_pos hx, List.filter_cons_of_pos (by simpa using hx), List.getLast?_cons]
      cases (xs.filter fun x => x.1 = k).getLast? <;> rfl
    · rw [if_neg hx, List.filter_cons_of_neg (by simpa using hx)]

end CTaps.Lib
