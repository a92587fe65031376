import CTaps.Lib.Memory

/-! Deep copies. A family of values is copied one value after another, to blocks that are new; the copy
is then seen as the original is, and operations on the one do not change what is seen of the other. -/

namespace CTaps.Lib

open Function

variable {ι κ α β ν ο : Type*}

theorem Memory.Local.mono {m m' : Memory β} {F F' : Set Nat} (h : m.Local m' ∅ F') :
    m.Local m' F F' :=
  ⟨h.next_le, fun a ha _ => h.frame a ha (Set.notMem_empty a),
    fun _ ha => ⟨h.lt_next ha, Or.inr (h.new ha)⟩⟩

/-! ### Objects side by side -/

abbrev Apart (L : ι → Layout β ν ο) (m : Memory β) (objects : κ → ι → ν) : Prop :=
  Separate (fun i : κ × ι => L i.2) m (uncurry objects)

section Objects

variable [DecidableEq ι] [DecidableEq κ] {L : ι → Layout β ν ο} {site : α → ι}
  {perform : α → Memory β → ν → Memory β × ν} {abstract : α → ο → ο} {good : ι → ο → Prop}

def stepOn (site : α → ι) (perform : α → Memory β → ν → Memory β × ν)
    (s : Memory β × (κ → ι → ν)) (x : κ × α) : Memory β × (κ → ι → ν) :=
  let r := stepAt site perform (s.1, s.2 x.1) x.2
  (r.1, update s.2 x.1 r.2)

theorem run_stepOn (s : Memory β × (κ → ι → ν)) (xs : List (κ × α)) :
    Prod.map id uncurry (run (stepOn site perform) s xs) =
      run (stepAt (fun x : κ × α => (x.1, site x.2)) fun x => perform x.2)
        (Prod.map id uncurry s) xs := by
  refine run_project _ (fun s x => ?_) s xs
  refine Prod.ext rfl ?_
  exact uncurry_update_update s.2 x.1 (site x.2) _

structure AllHeld (L : ι → Layout β ν ο) (good : ι → ο → Prop) (s : Memory β × (κ → ι → ν)) :
    Prop where
  apart : Apart L s.1 s.2
  good : ∀ k i, good i ((L i).view s.1 (s.2 k i))

theorem AllHeld.run (hperform : Performs L site perform abstract good)
    {s : Memory β × (κ → ι → ν)} (h : AllHeld L good s) (xs : List (κ × α)) :
    AllHeld L good (run (stepOn site perform) s xs) ∧
      ∀ k, (∀ x ∈ xs, x.1 ≠ k) → ∀ i,
        (L i).view (Lib.run (stepOn site perform) s xs).1
            ((Lib.run (stepOn site perform) s xs).2 k i) = (L i).view s.1 (s.2 k i) := by
  have hheld : Held (fun i : κ × ι => L i.2) (fun i => good i.2) (Prod.map id uncurry s) :=
    ⟨h.apart, fun i => h.good i.1 i.2⟩
  have hall : Performs (fun i : κ × ι => L i.2) (fun x : κ × α => (x.1, site x.2))
      (fun x => perform x.2) (fun x => abstract x.2) fun i => good i.2 :=
    fun x m v => hperform x.2 m v
  obtain ⟨hrun, hseen⟩ := hheld.run hall xs
  rw [← run_stepOn] at hrun hseen
  refine ⟨⟨hrun.separate, fun k i => hrun.good (k, i)⟩, fun k hk i => (hseen (k, i)).trans ?_⟩
  have hnone : xs.filter (fun x => (x.1, site x.2) = (k, i)) = [] := by
    refine List.filter_eq_nil_iff.mpr fun x hx heq => hk x hx ?_
    exact (Prod.mk.inj (of_decide_eq_true heq)).1
  rw [hnone]
  rfl

end Objects

/-! ### Copying -/

structure CopiesValue (L : Layout β ν ο) (copy : Memory β → ν → Option (Memory β × ν))
    (good ok : ο → Prop) : Prop where
  copied : ∀ m v, (∀ a ∈ L.owned m v, a < m.next) → good (L.view m v) → ok (L.view m v) →
    ∃ r, copy m v = some r ∧ m.Local r.1 ∅ (L.owned r.1 r.2) ∧ L.view r.1 r.2 = L.view m v
  refused : ∀ m v, (∀ a ∈ L.owned m v, a < m.next) → good (L.view m v) → ¬ok (L.view m v) →
    copy m v = none

def sides (source target : ι → ν) : Bool → ι → ν
  | false => source
  | true => target

theorem Separate.sides {L : ι → Layout β ν ο} {m : Memory β} {source target : ι → ν}
    (h : Separate L m source) (hempty : ∀ i, (L i).owned m (target i) = ∅) :
    Apart L m (sides source target) := by
  have howned : ∀ i, (L i).owned m (Lib.sides source target true i) = ∅ := hempty
  refine ⟨fun i a ha => ?_, fun i j hij => ?_⟩
  · obtain ⟨b, i⟩ := i
    cases b with
    | false => exact h.lt_next i a ha
    | true =>
      change a ∈ (L i).owned m (Lib.sides source target true i) at ha
      rw [howned] at ha
      exact absurd ha (Set.notMem_empty a)
  · obtain ⟨b, i⟩ := i
    obtain ⟨c, j⟩ := j
    change Disjoint ((L i).owned m (Lib.sides source target b i))
      ((L j).owned m (Lib.sides source target c j))
    cases b with
    | true =>
      rw [howned]
      exact Set.empty_disjoint _
    | false =>
      cases c with
      | true =>
        rw [howned]
        exact Set.disjoint_empty _
      | false => exact h.disjoint i j fun heq => hij (by rw [heq])

section Copy

variable [DecidableEq ι] {L : ι → Layout β ν ο} {good ok : ι → ο → Prop}
  {copy : ι → Memory β → ν → Option (Memory β × ν)} {source : ι → ν} {s : Memory β × (ι → ν)}

def copyStep (copy : ι → Memory β → ν → Option (Memory β × ν)) (source : ι → ν)
    (s : Memory β × (ι → ν)) (i : ι) : Option (Memory β × (ι → ν)) :=
  (copy i s.1 (source i)).map fun r => (r.1, update s.2 i r.2)

theorem uncurry_sides_update (target : ι → ν) (i : ι) (v : ν) :
    uncurry (sides source (update target i v)) =
      update (uncurry (sides source target)) (true, i) v := by
  rw [← uncurry_update_update (sides source target) true i v]
  refine congrArg uncurry (funext fun b => ?_)
  cases b with
  | false =>
    rw [update_of_ne Bool.false_ne_true]
    rfl
  | true =>
    rw [update_self]
    rfl

theorem copyStep_spec {i : ι} (hcopy : CopiesValue (L i) (copy i) (good i) (ok i))
    (h : Apart L s.1 (sides source s.2)) (hgood : good i ((L i).view s.1 (source i)))
    (hok : ok i ((L i).view s.1 (source i))) :
    ∃ s', copyStep copy source s i = some s' ∧ Apart L s'.1 (sides source s'.2) ∧
      (∀ j, (L j).view s'.1 (source j) = (L j).view s.1 (source j)) ∧
      (L i).view s'.1 (s'.2 i) = (L i).view s.1 (source i) ∧
      ∀ j ≠ i, (L j).view s'.1 (s'.2 j) = (L j).view s.1 (s.2 j) := by
  obtain ⟨r, hr, hlocal, hview⟩ := hcopy.copied s.1 (source i) (h.lt_next (false, i)) hgood hok
  obtain ⟨hsep, hothers⟩ := h.update (i := (true, i)) (v := r.2) hlocal.mono
  refine ⟨(r.1, update s.2 i r.2), ?_, ?_, fun j => ?_, ?_, fun j hj => ?_⟩
  · rw [copyStep, hr, Option.map_some]
  · unfold Apart
    rw [uncurry_sides_update]
    exact hsep
  · exact hothers (false, j) fun heq => Bool.false_ne_true (Prod.mk.inj heq).1
  · dsimp only
    rw [update_self]
    exact hview
  · dsimp only
    rw [update_of_ne hj]
    exact hothers (true, j) fun heq => hj (Prod.mk.inj heq).2

theorem copy_loop {l : List ι} (hcopy : ∀ i, CopiesValue (L i) (copy i) (good i) (ok i))
    (h : Apart L s.1 (sides source s.2)) (hgood : ∀ i, good i ((L i).view s.1 (source i)))
    (hok : ∀ i ∈ l, ok i ((L i).view s.1 (source i))) :
    ∃ s', l.foldlM (copyStep copy source) s = some s' ∧ Apart L s'.1 (sides source s'.2) ∧
      (∀ j, (L j).view s'.1 (source j) = (L j).view s.1 (source j)) ∧
      (∀ j ∈ l, (L j).view s'.1 (s'.2 j) = (L j).view s.1 (source j)) ∧
      ∀ j, j ∉ l → (L j).view s'.1 (s'.2 j) = (L j).view s.1 (s.2 j) := by
  induction l generalizing s with
  | nil => exact ⟨s, rfl, h, fun _ => rfl, fun j hj => absurd hj List.not_mem_nil, fun _ _ => rfl⟩
  | cons i l ih =>
    obtain ⟨t, ht, hapart, hsource, hcopied, hothers⟩ :=
      copyStep_spec (hcopy i) h (hgood i) (hok i List.mem_cons_self)
    obtain ⟨s', hs', hapart', hsource', hcopied', hothers'⟩ := ih hapart
      (fun j => (hsource j).symm ▸ hgood j)
      (fun j hj => (hsource j).symm ▸ hok j (List.mem_cons_of_mem i hj))
    refine ⟨s', ?_, hapart', fun j => (hsource' j).trans (hsource j), fun j hj => ?_, fun j hj => ?_⟩
    · rw [List.foldlM_cons, ht]
      exact hs'
    · by_cases hjl : j ∈ l
      · exact (hcopied' j hjl).trans (hsource j)
      · -- the value was copied in the first turn, and not again
        have hji : j = i := (List.mem_cons.mp hj).resolve_right hjl
        subst hji
        exact (hothers' j hjl).trans hcopied
    · rw [hothers' j fun hjl => hj (List.mem_cons_of_mem i hjl)]
      exact hothers j fun hji => hj (hji ▸ List.mem_cons_self)

theorem copy_all {l : List ι} (hl : ∀ i, i ∈ l)
    (hcopy : ∀ i, CopiesValue (L i) (copy i) (good i) (ok i)) (h : Held L good s) {target : ι → ν}
    (hempty : ∀ i, (L i).owned s.1 (target i) = ∅) (hok : ∀ i, ok i (seen L s i)) :
    ∃ c, l.foldlM (copyStep copy s.2) (s.1, target) = some c ∧
      AllHeld L good (c.1, sides s.2 c.2) ∧ (∀ i, (L i).view c.1 (s.2 i) = seen L s i) ∧
      ∀ i, (L i).view c.1 (c.2 i) = seen L s i := by
  obtain ⟨c, hc, hapart, hsource, hcopied, _⟩ := copy_loop (s := (s.1, target)) hcopy
    (h.separate.sides hempty) h.good fun i (_ : i ∈ l) => hok i
  refine ⟨c, hc, ⟨hapart, fun side i => ?_⟩, hsource, fun i => hcopied i (hl i)⟩
  cases side with
  | false => exact (hsource i).symm ▸ h.good i
  | true => exact (hcopied i (hl i)).symm ▸ h.good i

theorem copy_loop_eq_none {l : List ι} (hcopy : ∀ i, CopiesValue (L i) (copy i) (good i) (ok i))
    (h : Apart L s.1 (sides source s.2)) (hgood : ∀ i, good i ((L i).view s.1 (source i)))
    {i : ι} (hi : i ∈ l) (hok : ¬ok i ((L i).view s.1 (source i))) :
    l.foldlM (copyStep copy source) s = none := by
  induction l generalizing s with
  | nil => cases hi
  | cons j l ih =>
    rw [List.foldlM_cons]
    by_cases hj : ok j ((L j).view s.1 (source j))
    · obtain ⟨t, ht, hapart, hsource, _⟩ := copyStep_spec (hcopy j) h (hgood j) hj
      have hil : i ∈ l := (List.mem_cons.mp hi).resolve_left fun hij => hok (hij ▸ hj)
      rw [ht]
      exact ih hapart (fun j => (hsource j).symm ▸ hgood j) hil ((hsource i).symm ▸ hok)
    · rw [copyStep, (hcopy j).refused s.1 (source j) (h.lt_next (false, j)) (hgood j) hj]
      rfl

end Copy

end CTaps.Lib
