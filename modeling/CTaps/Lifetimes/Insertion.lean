import CTaps.Lifetimes.Discarded

/-! Insertion into a group that is refused. The table of the group is written to before the uuid is
found to be there already: the entry of another connection is then lost, although the call fails. -/

namespace CTaps.Lifetimes.World

/-! ### Tables -/

section Table

variable {l : List (Nat × Nat)} {k : Nat}

theorem lookup_filter_ne (l : List (Nat × Nat)) (k u : Nat) :
    (l.filter (·.1 ≠ k)).lookup u = if u = k then none else l.lookup u := by
  induction l with
  | nil => exact (ite_self _).symm
  | cons e l ih =>
    obtain ⟨a, c⟩ := e
    by_cases ha : a = k
    · rw [List.filter_cons_of_neg (by simpa using ha), ih, List.lookup_cons]
      by_cases hu : u = k
      · rw [if_pos hu, if_pos hu]
      · have hne : (u == a) = false := beq_eq_false_iff_ne.mpr fun h => hu (h.trans ha)
        rw [if_neg hu, if_neg hu, hne]
    · rw [List.filter_cons_of_pos (by simpa using ha), List.lookup_cons, List.lookup_cons, ih]
      by_cases hu : u = k
      · have hne : (u == a) = false := beq_eq_false_iff_ne.mpr fun h => ha (h.symm.trans hu)
        rw [if_pos hu, if_pos hu, hne]
      · rw [if_neg hu, if_neg hu]

theorem lookup_insert (l : List (Nat × Nat)) (k c u : Nat) :
    ((k, c) :: l.filter (·.1 ≠ k)).lookup u = if u = k then some c else l.lookup u := by
  rw [List.lookup_cons, lookup_filter_ne]
  by_cases hu : u = k
  · rw [beq_iff_eq.mpr hu, if_pos hu, if_pos hu]
  · rw [beq_eq_false_iff_ne.mpr hu, if_neg hu, if_neg hu]

theorem mem_of_lookup {u c : Nat} (h : l.lookup u = some c) : (u, c) ∈ l := by
  obtain ⟨l₁, l₂, rfl, _⟩ := List.lookup_eq_some_iff.mp h
  exact List.mem_append_right l₁ List.mem_cons_self

theorem eq_of_nodup_keys (hnodup : (l.map Prod.fst).Nodup) {u c d : Nat} (hc : (u, c) ∈ l)
    (hd : (u, d) ∈ l) : c = d :=
  (Prod.mk.inj (List.inj_on_of_nodup_map hnodup hc hd rfl)).2

end Table

/-! ### Insertion -/

def memberAt (w : World) (g u : Nat) : Option Nat := (w.group g).connections.lookup u

def eexist : Int := -17

/-- `ct_connection_group_add_connection` with what it returns. -/
def groupAddConnectionResult (w : World) (g c : Nat) : World × Int :=
  if (w.conn c).connectionGroup.isSome then (w, eexist)
  else
    let isNew := ((w.group g).connections.lookup (w.conn c).uuid).isNone
    let w := w.modGroup g fun x =>
      { x with
        connections := ((w.conn c).uuid, c) :: x.connections.filter (·.1 ≠ (w.conn c).uuid) }
    if isNew then
      ((w.modGroup g fun x => { x with refCount := x.refCount + 1 }).modConn c fun x =>
        { x with connectionGroup := some g }, 0)
    else (w, eexist)

theorem groupAddConnectionResult_fst (w : World) (g c : Nat) :
    (w.groupAddConnectionResult g c).1 = w.groupAddConnection g c := by
  unfold groupAddConnectionResult groupAddConnection
  split
  · rfl
  · dsimp only
    split <;> rfl

theorem groupAddConnectionResult_eq_eexist_iff (w : World) (g c : Nat) :
    (w.groupAddConnectionResult g c).2 = eexist ↔
      (w.conn c).connectionGroup ≠ none ∨ w.memberAt g (w.conn c).uuid ≠ none := by
  have hne : (0 : Int) ≠ eexist := by decide
  unfold groupAddConnectionResult memberAt
  cases hgroup : (w.conn c).connectionGroup with
  | some k => exact iff_of_true rfl (Or.inl (Option.some_ne_none k))
  | none =>
    cases hmember : (w.group g).connections.lookup (w.conn c).uuid with
    | none => exact iff_of_false hne (not_or.mpr ⟨not_not.mpr rfl, not_not.mpr rfl⟩)
    | some d => exact iff_of_true rfl (Or.inr (Option.some_ne_none d))

theorem memberAt_refused {w : World} {g c : Nat} (hnone : (w.conn c).connectionGroup = none)
    (hmember : w.memberAt g (w.conn c).uuid ≠ none) :
    (w.groupAddConnectionResult g c).1 = w.modGroup g fun x =>
      { x with
        connections := ((w.conn c).uuid, c) :: x.connections.filter (·.1 ≠ (w.conn c).uuid) } := by
  have hnew : ((w.group g).connections.lookup (w.conn c).uuid).isNone = false :=
    Option.isNone_eq_false_iff.mpr (Option.isSome_iff_ne_none.mpr hmember)
  rw [groupAddConnectionResult, hnone, hnew]
  rfl

/-! ### Atomicity -/

structure Untouched (w w' : World) (g : Nat) : Prop where
  table : ∀ u, w'.memberAt g u = w.memberAt g u
  count : (w'.group g).refCount = (w.group g).refCount
  groups : ∀ d, (w'.conn d).connectionGroup = (w.conn d).connectionGroup

def Spares (w w' : World) (c : Nat) : Prop :=
  ∀ k u d, d ≠ c → w.memberAt k u = some d → w'.memberAt k u = some d

structure Tabled (w : World) : Prop where
  mem_iff : ∀ g u c, (u, c) ∈ (w.group g).connections ↔
    c < w.numConns ∧ (w.conn c).connectionGroup = some g ∧ (w.conn c).uuid = u
  keys : ∀ g, ((w.group g).connections.map Prod.fst).Nodup

theorem Grouped.tabled {w : World} {y : Option Nat} (h : Grouped y w) : Tabled w := by
  refine ⟨h.mem_iff, fun g => List.Nodup.map_on (fun e he e' he' hkey => ?_) (h.nodup g)⟩
  obtain ⟨hlt, _, hu⟩ := (h.mem_iff g e.1 e.2).mp he
  obtain ⟨hlt', _, hu'⟩ := (h.mem_iff g e'.1 e'.2).mp he'
  exact Prod.ext hkey (h.uuid_inj _ hlt _ hlt' (hu.trans (hkey.trans hu'.symm)))

theorem Tabled.newConn {w : World} (h : Tabled w) {x : Connection} (hx : x.connectionGroup = none) :
    Tabled (w.addConn x) :=
  ⟨mem_iff_addConn h.mem_iff hx, h.keys⟩

theorem groupUnref_connections (w : World) (c k : Nat) :
    ((w.groupUnref c).group k).connections =
      if (w.conn c).connectionGroup = some k then
        (w.group k).connections.filter (·.1 ≠ (w.conn c).uuid)
      else (w.group k).connections := by
  unfold groupUnref freeGroup
  cases hgroup : (w.conn c).connectionGroup with
  | none => exact (if_neg (Option.some_ne_none k).symm).symm
  | some g =>
    dsimp only
    rcases eq_or_ne k g with rfl | hk
    · rw [if_pos rfl]
      split <;> simp
    · rw [if_neg fun h => hk (Option.some.inj h).symm]
      split <;> simp [hk]

theorem memberAt_connectionFree (w : World) (c k u : Nat) :
    (w.connectionFree c).memberAt k u =
      if (w.conn c).connectionGroup = some k ∧ u = (w.conn c).uuid then none
      else w.memberAt k u := by
  rw [memberAt, connectionFree_group, groupUnref_connections]
  by_cases hgroup : (w.conn c).connectionGroup = some k
  · rw [if_pos hgroup, lookup_filter_ne]
    exact if_congr (and_iff_right hgroup).symm rfl rfl
  · rw [if_neg hgroup, if_neg fun h => hgroup h.1]
    rfl

section Refused

variable {w : World} {g c : Nat}

theorem memberAt_insert (w : World) (g c k u : Nat) :
    (w.modGroup g fun x =>
        { x with
          connections := ((w.conn c).uuid, c) :: x.connections.filter
            (·.1 ≠ (w.conn c).uuid) }).memberAt k u =
      if k = g ∧ u = (w.conn c).uuid then some c else w.memberAt k u := by
  rcases eq_or_ne k g with rfl | hk
  · rw [memberAt, modGroup_group, Function.update_self, lookup_insert]
    exact if_congr (and_iff_right rfl).symm rfl rfl
  · rw [memberAt, modGroup_group, Function.update_of_ne hk, if_neg fun h => hk h.1]
    rfl

theorem untouched_iff_of_member {d : Nat} (hnone : (w.conn c).connectionGroup = none)
    (hd : w.memberAt g (w.conn c).uuid = some d) :
    Untouched w (w.groupAddConnectionResult g c).1 g ↔ d = c := by
  have hmember : w.memberAt g (w.conn c).uuid ≠ none := hd ▸ Option.some_ne_none d
  rw [memberAt_refused hnone hmember]
  constructor
  · intro h
    have htable := h.table (w.conn c).uuid
    rw [memberAt_insert, if_pos ⟨rfl, rfl⟩, hd] at htable
    exact (Option.some.inj htable).symm
  · rintro rfl
    refine ⟨fun u => ?_, ?_, fun _ => rfl⟩
    · rw [memberAt_insert]
      split
      next h => rw [h.2, hd]
      next => rfl
    · rw [modGroup_group, Function.update_self]

theorem spares_iff_of_member {d : Nat} (hnone : (w.conn c).connectionGroup = none)
    (hd : w.memberAt g (w.conn c).uuid = some d) :
    Spares w ((w.groupAddConnectionResult g c).1.connectionFree c) c ↔ d = c := by
  have hmember : w.memberAt g (w.conn c).uuid ≠ none := hd ▸ Option.some_ne_none d
  have hfree : ∀ k u, ((w.groupAddConnectionResult g c).1.connectionFree c).memberAt k u =
      if k = g ∧ u = (w.conn c).uuid then some c else w.memberAt k u := by
    intro k u
    rw [memberAt_refused hnone hmember, memberAt_connectionFree, modGroup_conn, hnone,
      if_neg fun h => Option.some_ne_none k h.1.symm, memberAt_insert]
  constructor
  · intro h
    by_contra hne
    have hlost := h g (w.conn c).uuid d hne hd
    rw [hfree, if_pos ⟨rfl, rfl⟩] at hlost
    exact hne (Option.some.inj hlost).symm
  · rintro rfl k u e he hmem
    rw [hfree, if_neg, hmem]
    rintro ⟨rfl, rfl⟩
    exact he (Option.some.inj (hmem.symm.trans hd))

theorem Tabled.spares_free (h : Tabled w) (hc : c < w.numConns) : Spares w (w.connectionFree c) c := by
  intro k u d hd hmem
  rw [memberAt_connectionFree, if_neg, hmem]
  rintro ⟨hgroup, rfl⟩
  have hown := (h.mem_iff k _ c).mpr ⟨hc, hgroup, rfl⟩
  exact hd (eq_of_nodup_keys (h.keys k) (mem_of_lookup hmem) hown)

/-- A refused insertion is atomic if and only if the connection was in a group or the uuid stood for
this connection already; in every other case another connection has lost its entry. -/
theorem groupAddConnection_atomic_iff (hrc : (w.groupAddConnectionResult g c).2 = eexist) :
    (Untouched w (w.groupAddConnectionResult g c).1 g ↔
        (w.conn c).connectionGroup ≠ none ∨ w.memberAt g (w.conn c).uuid = some c) ∧
      (Tabled w → c < w.numConns →
        (Spares w ((w.groupAddConnectionResult g c).1.connectionFree c) c ↔
          (w.conn c).connectionGroup ≠ none ∨ w.memberAt g (w.conn c).uuid = some c)) := by
  by_cases hnone : (w.conn c).connectionGroup = none
  · have hmember := ((groupAddConnectionResult_eq_eexist_iff w g c).mp hrc).resolve_left
      (not_not.mpr hnone)
    obtain ⟨d, hd⟩ := Option.ne_none_iff_exists'.mp hmember
    have hiff : d = c ↔ (w.conn c).connectionGroup ≠ none ∨ w.memberAt g (w.conn c).uuid = some c := by
      rw [or_iff_right (not_not.mpr hnone), hd, Option.some.injEq]
    exact ⟨(untouched_iff_of_member hnone hd).trans hiff,
      fun _ _ => (spares_iff_of_member hnone hd).trans hiff⟩
  · have hsame : (w.groupAddConnectionResult g c).1 = w := by
      rw [groupAddConnectionResult, if_pos (Option.isSome_iff_ne_none.mpr hnone)]
    rw [hsame]
    refine ⟨iff_of_true ⟨fun _ => rfl, rfl, fun _ => rfl⟩ (Or.inl hnone), fun htabled hc => ?_⟩
    exact iff_of_true (htabled.spares_free hc) (Or.inl hnone)

end Refused

def twins : World := (createClient {} .tcp 7 0).addConn { uuid := 7 }

theorem tabled_twins : Tabled twins :=
  (grouped_init.client .tcp (by decide) 0).tabled.newConn rfl

theorem groupAddConnection_atomic_twins :
    (twins.groupAddConnectionResult 0 1).2 = eexist ∧
      (Untouched twins (twins.groupAddConnectionResult 0 1).1 0 ↔
        (twins.conn 1).connectionGroup ≠ none ∨ twins.memberAt 0 (twins.conn 1).uuid = some 1) ∧
      (Spares twins ((twins.groupAddConnectionResult 0 1).1.connectionFree 1) 1 ↔
        (twins.conn 1).connectionGroup ≠ none ∨
          twins.memberAt 0 (twins.conn 1).uuid = some 1) := by
  have hrc : (twins.groupAddConnectionResult 0 1).2 = eexist := by decide
  obtain ⟨huntouched, hspares⟩ := groupAddConnection_atomic_iff hrc
  exact ⟨hrc, huntouched, hspares tabled_twins (by decide)⟩

/-- The table has the rejected connection instead of the member, also after it was freed. -/
theorem groupAddConnection_atomic_fails :
    (twins.groupAddConnectionResult 0 1).2 = eexist ∧ twins.memberAt 0 7 = some 0 ∧
      (twins.groupAddConnectionResult 0 1).1.memberAt 0 7 = some 1 ∧
      ((twins.groupAddConnectionResult 0 1).1.connectionFree 1).memberAt 0 7 = some 1 ∧
      (((twins.groupAddConnectionResult 0 1).1.connectionFree 1).conn 1).freed = true := by
  decide

theorem Grouped.refused {w : World} {y : Option Nat} (h : Grouped y w) {g c : Nat}
    (hc : c < w.numConns) (hrc : (w.groupAddConnectionResult g c).2 = eexist) :
    (w.conn c).connectionGroup ≠ none ∧ (w.groupAddConnectionResult g c).1 = w := by
  have hgroup : (w.conn c).connectionGroup ≠ none := by
    intro hnone
    have hmember := ((groupAddConnectionResult_eq_eexist_iff w g c).mp hrc).resolve_left
      (not_not.mpr hnone)
    obtain ⟨d, hd⟩ := Option.ne_none_iff_exists'.mp hmember
    exact h.key_ne hc hnone (mem_of_lookup hd) rfl
  refine ⟨hgroup, ?_⟩
  rw [groupAddConnectionResult, if_pos (Option.isSome_iff_ne_none.mpr hgroup)]

end CTaps.Lifetimes.World
