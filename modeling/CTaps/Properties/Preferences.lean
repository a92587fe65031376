import CTaps.Gathering.Candidate
import CTaps.Lib.Blocks
import CTaps.Lib.Copies
import CTaps.Lib.Upsert

/-! The preference sets of the transport properties, for interfaces and for provisioning domains. A
set is an array of pairs of a string and a preference, in which a string that is there already gets
the new preference in place: a finite map. Its deep copy has an array and strings of its own. -/

namespace CTaps.Properties

open Lib
open Gathering (Preference)

/-! ### Preference sets -/

structure Combination where
  value : Word
  preference : Preference

def combinations : Elements Combination (Text × Preference) where
  words c := [c.value]
  see t c := (t c.value, c.preference)
  stable h := Prod.ext (h _ List.mem_cons_self) rfl

abbrev PreferenceMemory := Memory (Block Combination)

structure PreferenceSet where
  setByUser : Bool
  combinations : Option Nat
  numCombinations : Nat
  deriving DecidableEq

inductive PreferenceProperty
  | interface | pvd
  deriving DecidableEq, Repr

abbrev PreferenceSets := PreferenceProperty → PreferenceSet

def emptyPreferenceSet : PreferenceSet := ⟨false, none, 0⟩

def preferenceSetsNew : PreferenceSets := fun _ => emptyPreferenceSet

def updateLoop (m : PreferenceMemory) (value : String) (preference : Preference) :
    List Combination → Option (List Combination)
  | [] => none
  | c :: l =>
    if m.text c.value = some (some value) then some ({ c with preference := preference } :: l)
    else (updateLoop m value preference l).map (c :: ·)

def newCombination (value : String) (preference : Preference) (m : PreferenceMemory) :
    PreferenceMemory × Combination :=
  let s := m.strdup value
  (s.1, ⟨.addr s.2, preference⟩)

def addPreferenceMap (value : String) (preference : Preference) (m : PreferenceMemory)
    (set : PreferenceSet) : PreferenceMemory × PreferenceSet :=
  let stored := (m.elements set.combinations).take set.numCombinations
  match set.combinations, updateLoop m value preference stored with
  | some a, some updated => (m.write a (.array updated), set)
  | _, _ =>
    let r := m.push set.combinations (newCombination value preference)
    (r.1, ⟨true, some r.2, set.numCombinations + 1⟩)

/-- A call of `ct_transport_properties_add_interface_preference` or
`ct_transport_properties_add_pvd_preference`. -/
structure AddPreference where
  property : PreferenceProperty
  value : String
  preference : Preference
  deriving DecidableEq

def AddPreference.perform (x : AddPreference) : PreferenceMemory → PreferenceSet →
    PreferenceMemory × PreferenceSet :=
  addPreferenceMap x.value x.preference

def addPreference : PreferenceMemory × PreferenceSets → AddPreference →
    PreferenceMemory × PreferenceSets :=
  stepAt AddPreference.property AddPreference.perform

def afterPreferences (m : PreferenceMemory) (calls : List AddPreference) :
    PreferenceMemory × PreferenceSets :=
  run addPreference (m, preferenceSetsNew) calls

/-! ### Getters -/

def lookupLoop (m : PreferenceMemory) (value : String) : List Combination → Option Preference
  | [] => some .noPreference
  | c :: l =>
    match m.text c.value with
    | some (some s) => if s = value then some c.preference else lookupLoop m value l
    | _ => none

def getPreference (m : PreferenceMemory) (sets : PreferenceSets) (property : PreferenceProperty)
    (value : String) : Option Preference :=
  lookupLoop m value
    ((m.elements (sets property).combinations).take (sets property).numCombinations)

def getInterfacePreference (m : PreferenceMemory) (sets : PreferenceSets) (value : String) :
    Option Preference :=
  getPreference m sets .interface value

def getPvdPreference (m : PreferenceMemory) (sets : PreferenceSets) (value : String) :
    Option Preference :=
  getPreference m sets .pvd value

def storedKeys (m : PreferenceMemory) (set : PreferenceSet) : List Text :=
  ((m.elements set.combinations).take set.numCombinations).map fun c => m.text c.value

/-! ### The sets as maps -/

def preferenceLayout :
    Layout (Block Combination) PreferenceSet (Option (List (Text × Preference))) where
  owned m set := Memory.arrayOwned combinations m set.combinations
  view m set := Memory.arrayView combinations m set.combinations set.numCombinations
  stable h := ⟨Memory.arrayOwned_stable h, Memory.arrayView_stable h⟩

def Readable (o : Option (List (Text × Preference))) : Prop :=
  ∃ l, o = some l ∧ (∀ e ∈ l, ∃ s, e.1 = some (some s)) ∧ (l.map Prod.fst).Nodup

def AddPreference.abstract (x : AddPreference) (o : Option (List (Text × Preference))) :
    Option (List (Text × Preference)) :=
  o.map (upsert (some (some x.value)) x.preference)

theorem readable_abstract (x : AddPreference) {o : Option (List (Text × Preference))}
    (h : Readable o) : Readable (x.abstract o) := by
  obtain ⟨l, rfl, hdefined, hnodup⟩ := h
  refine ⟨_, rfl, fun e he => ?_, nodup_upsert hnodup⟩
  rcases mem_upsert_fst he with hkey | hkey
  · exact ⟨x.value, hkey⟩
  · obtain ⟨e', he', heq⟩ := List.mem_map.mp hkey
    obtain ⟨s, hs⟩ := hdefined e' he'
    exact ⟨s, heq ▸ hs⟩

section Loops

variable {m : PreferenceMemory} {value : String} {preference : Preference} {l : List Combination}

theorem updateLoop_spec {updated : List Combination}
    (h : updateLoop m value preference l = some updated) :
    updated.map combinations.words = l.map combinations.words ∧
      updated.map (combinations.see m.text) =
        upsert (some (some value)) preference (l.map (combinations.see m.text)) := by
  induction l generalizing updated with
  | nil => cases h
  | cons c l ih =>
    rw [updateLoop] at h
    rw [List.map_cons, List.map_cons, upsert]
    split at h
    next hc =>
      cases h
      rw [if_pos (show (combinations.see m.text c).1 = _ from hc)]
      exact ⟨rfl, rfl⟩
    next hc =>
      obtain ⟨rest, hrest, rfl⟩ := Option.map_eq_some_iff.mp h
      obtain ⟨hwords, hsee⟩ := ih hrest
      rw [if_neg (show (combinations.see m.text c).1 ≠ _ from hc), List.map_cons, List.map_cons,
        hwords, hsee]
      exact ⟨rfl, rfl⟩

theorem updateLoop_eq_none (h : updateLoop m value preference l = none) :
    upsert (some (some value)) preference (l.map (combinations.see m.text)) =
      l.map (combinations.see m.text) ++ [(some (some value), preference)] := by
  refine upsert_of_notMem ?_ _
  induction l with
  | nil => exact fun e he => absurd he List.not_mem_nil
  | cons c l ih =>
    rw [updateLoop] at h
    split at h
    next => cases h
    next hc =>
      intro e he
      rcases List.mem_cons.mp he with rfl | he
      · exact hc
      · exact ih (Option.map_eq_none_iff.mp h) e he

theorem lookupLoop_eq (h : ∀ c ∈ l, ∃ s, m.text c.value = some (some s)) :
    lookupLoop m value l =
      some ((valueOf (some (some value)) (l.map (combinations.see m.text))).getD .noPreference) := by
  induction l with
  | nil => rfl
  | cons c l ih =>
    obtain ⟨s, hs⟩ := h c List.mem_cons_self
    have hsee : combinations.see m.text c = (some (some s), c.preference) := Prod.ext hs rfl
    rw [lookupLoop, hs, List.map_cons, valueOf_cons, hsee]
    dsimp only
    by_cases hvalue : s = value
    · rw [if_pos hvalue, if_pos (by rw [hvalue]), Option.getD_some]
    · have hne : (some (some s) : Text) ≠ some (some value) := fun heq =>
        hvalue (Option.some.inj (Option.some.inj heq))
      rw [if_neg hvalue, if_neg hne, ih fun c hc => h c (List.mem_cons_of_mem _ hc)]

end Loops

theorem makes_newCombination (value : String) (preference : Preference) :
    Memory.Makes combinations (newCombination value preference)
      (some (some value), preference) := by
  intro m
  refine ⟨(m.local_strdup value).of_subset fun a ha => ?_, ?_⟩
  · cases List.mem_singleton.mp ha
    rfl
  · exact Prod.ext (Memory.text_alloc_next value) rfl

section Calls

variable {m : PreferenceMemory} {set : PreferenceSet} {l : List (Text × Preference)}
  {value : String} {preference : Preference}

theorem take_elements (hl : preferenceLayout.view m set = some l) :
    (m.elements set.combinations).take set.numCombinations = m.elements set.combinations := by
  obtain ⟨harray, _⟩ := Memory.arrayView_eq_some_iff.mp hl
  exact List.take_of_length_le (Nat.le_of_eq (Memory.isArray_length harray))

theorem push_newCombination_spec (howned : ∀ a ∈ preferenceLayout.owned m set, a < m.next)
    (hl : preferenceLayout.view m set = some l)
    (hloop : updateLoop m value preference (m.elements set.combinations) = none) :
    m.Local (m.push set.combinations (newCombination value preference)).1
        (preferenceLayout.owned m set)
        (preferenceLayout.owned (m.push set.combinations (newCombination value preference)).1
          ⟨true, some (m.push set.combinations (newCombination value preference)).2,
            set.numCombinations + 1⟩) ∧
      preferenceLayout.view (m.push set.combinations (newCombination value preference)).1
        ⟨true, some (m.push set.combinations (newCombination value preference)).2,
          set.numCombinations + 1⟩ = some (upsert (some (some value)) preference l) := by
  obtain ⟨_, hsee⟩ := Memory.arrayView_eq_some_iff.mp hl
  have hspec := Memory.push_spec (makes_newCombination value preference) howned hl
  rw [← hsee, updateLoop_eq_none hloop, hsee]
  exact hspec

theorem write_updated_spec {a : Nat} {updated : List Combination} (hp : set.combinations = some a)
    (howned : ∀ a ∈ preferenceLayout.owned m set, a < m.next)
    (hl : preferenceLayout.view m set = some l)
    (hloop : updateLoop m value preference (m.elements set.combinations) = some updated) :
    m.Local (m.write a (.array updated)) (preferenceLayout.owned m set)
        (preferenceLayout.owned (m.write a (.array updated)) set) ∧
      preferenceLayout.view (m.write a (.array updated)) set =
        some (upsert (some (some value)) preference l) := by
  obtain ⟨harray, hsee⟩ := Memory.arrayView_eq_some_iff.mp hl
  obtain ⟨hwords, hupdated⟩ := updateLoop_spec hloop
  have hcount : updated.length = set.numCombinations := by
    rw [← Memory.isArray_length harray, ← List.length_map combinations.words, hwords,
      List.length_map]
  rw [hsee] at hupdated
  unfold preferenceLayout at howned ⊢
  dsimp only at howned ⊢
  rw [hp] at harray hwords howned ⊢
  exact Memory.write_array_spec (Memory.blocks_of_isArray harray) howned hwords hupdated hcount

theorem addPreferenceMap_spec (value : String) (preference : Preference)
    (howned : ∀ a ∈ preferenceLayout.owned m set, a < m.next)
    (hl : preferenceLayout.view m set = some l) :
    m.Local (addPreferenceMap value preference m set).1 (preferenceLayout.owned m set)
        (preferenceLayout.owned (addPreferenceMap value preference m set).1
          (addPreferenceMap value preference m set).2) ∧
      preferenceLayout.view (addPreferenceMap value preference m set).1
        (addPreferenceMap value preference m set).2 =
          some (upsert (some (some value)) preference l) := by
  rw [addPreferenceMap, take_elements hl]
  split
  next a updated hp hloop => exact write_updated_spec hp howned hl hloop
  next hnot =>
    refine push_newCombination_spec howned hl (Option.eq_none_iff_forall_ne_some.mpr ?_)
    intro updated hloop
    cases hp : set.combinations with
    | none =>
      rw [hp] at hloop
      cases hloop
    | some a => exact hnot a updated hp hloop

end Calls

theorem addPreference_performs :
    Performs (fun _ => preferenceLayout) AddPreference.property AddPreference.perform
      AddPreference.abstract fun _ => Readable := by
  intro x m set howned hgood
  have hnext := readable_abstract x hgood
  obtain ⟨l, hl, _⟩ := hgood
  obtain ⟨hlocal, hview⟩ := addPreferenceMap_spec x.value x.preference howned hl
  refine ⟨hlocal, hview.trans ?_, hnext⟩
  rw [hl]
  rfl

/-! ### Runs -/

theorem held_preferenceSetsNew (m : PreferenceMemory) :
    Held (fun _ => preferenceLayout) (fun _ => Readable) (m, preferenceSetsNew) := by
  refine Held.of_empty (fun _ => Memory.arrayOwned_null) fun _ => ?_
  exact ⟨[], rfl, fun e he => absurd he List.not_mem_nil, List.nodup_nil⟩

def writes (property : PreferenceProperty) (calls : List AddPreference) :
    List (Text × Preference) :=
  (calls.filter fun x => x.property = property).map fun x => (some (some x.value), x.preference)

theorem seen_preferences (m : PreferenceMemory) (calls : List AddPreference)
    (property : PreferenceProperty) :
    preferenceLayout.view (afterPreferences m calls).1 ((afterPreferences m calls).2 property) =
      some (run (fun l x => upsert x.1 x.2 l) [] (writes property calls)) := by
  have hrun : ∀ (xs : List AddPreference) (l : List (Text × Preference)),
      run (fun o x => AddPreference.abstract x o) (some l) xs =
        some (run (fun l x => upsert x.1 x.2 l) l
          (xs.map fun x => (some (some x.value), x.preference))) := by
    intro xs
    induction xs with
    | nil => exact fun _ => rfl
    | cons x xs ih => exact fun l => ih _
  exact (((held_preferenceSetsNew m).run addPreference_performs calls).2 property).trans (hrun _ [])

def lastPreference (property : PreferenceProperty) (value : String) (calls : List AddPreference) :
    Preference :=
  ((calls.filter fun x => x.property = property ∧ x.value = value).getLast?.map
    AddPreference.preference).getD .noPreference

section Readers

variable {m : PreferenceMemory} {sets : PreferenceSets} {property : PreferenceProperty}
  {l : List (Text × Preference)}

theorem storedKeys_eq (h : preferenceLayout.view m (sets property) = some l) :
    storedKeys m (sets property) = l.map Prod.fst := by
  obtain ⟨_, rfl⟩ := Memory.arrayView_eq_some_iff.mp h
  rw [storedKeys, take_elements h, List.map_map]
  rfl

theorem getPreference_eq (h : preferenceLayout.view m (sets property) = some l)
    (hdefined : ∀ e ∈ l, ∃ s, e.1 = some (some s)) (value : String) :
    getPreference m sets property value =
      some ((valueOf (some (some value)) l).getD .noPreference) := by
  obtain ⟨_, rfl⟩ := Memory.arrayView_eq_some_iff.mp h
  rw [getPreference, take_elements h]
  exact lookupLoop_eq fun c hc => hdefined _ (List.mem_map_of_mem hc)

theorem getPreference_congr {m' : PreferenceMemory} {sets' : PreferenceSets}
    (hgood : Readable (preferenceLayout.view m (sets property)))
    (h : preferenceLayout.view m' (sets' property) = preferenceLayout.view m (sets property))
    (value : String) : getPreference m' sets' property value = getPreference m sets property value := by
  obtain ⟨l, hl, hdefined, _⟩ := hgood
  rw [getPreference_eq hl hdefined, getPreference_eq (h.trans hl) hdefined]

end Readers

theorem valueOf_writes (property : PreferenceProperty) (value : String)
    (calls : List AddPreference) :
    (valueOf (some (some value))
      (run (fun l x => upsert x.1 x.2 l) [] (writes property calls))).getD .noPreference =
        lastPreference property value calls := by
  have hnil : valueOf (some (some value) : Text) ([] : List (Text × Preference)) = none := rfl
  rw [valueOf_run_upsert, hnil, Option.or_none, lastPreference, writes, List.filter_map,
    List.getLast?_map, Option.map_map, List.filter_filter]
  have hfilter : ∀ x : AddPreference,
      (((fun x : Text × Preference => decide (x.1 = some (some value))) ∘
          fun x : AddPreference => ((some (some x.value) : Text), x.preference)) x &&
        decide (x.property = property)) = decide (x.property = property ∧ x.value = value) := by
    intro x
    simp only [Function.comp, Option.some.injEq, Bool.decide_and, Bool.and_comm]
  rw [List.filter_congr fun x _ => hfilter x]
  rfl

/-! ### The deep copy -/

def copyCombination (m : PreferenceMemory) (c : Combination) :
    Option (PreferenceMemory × Combination) :=
  (m.strdupWord c.value).map fun r => (r.1, ⟨.addr r.2, c.preference⟩)

/-- The copy of a set. For no combinations `malloc` may return NULL or not. -/
def copySet (nullIfEmpty : Bool) (m : PreferenceMemory) (set : PreferenceSet) :
    Option (PreferenceMemory × PreferenceSet) :=
  if set.numCombinations = 0 ∧ nullIfEmpty then some (m, { set with combinations := none })
  else
    (Memory.copyArray copyCombination m
      ((m.elements set.combinations).take set.numCombinations)).map fun r =>
        (r.1, { set with combinations := some r.2 })

/-- The sets are copied with their pointers, the one for interfaces is cleared, and then both get
arrays of their own. -/
def selectionPropertiesDeepCopy (nullIfEmpty : Bool) (m : PreferenceMemory) (source : PreferenceSets) :
    Option (PreferenceMemory × PreferenceSets) :=
  [PreferenceProperty.interface, .pvd].foldlM (copyStep (fun _ => copySet nullIfEmpty) source)
    (m, Function.update source .interface { source .interface with
      combinations := none, numCombinations := 0 })

theorem selectionPropertiesDeepCopy_eq (nullIfEmpty : Bool) (m : PreferenceMemory)
    (source : PreferenceSets) :
    selectionPropertiesDeepCopy nullIfEmpty m source =
      [PreferenceProperty.interface, .pvd].foldlM (copyStep (fun _ => copySet nullIfEmpty) source)
        (m, preferenceSetsNew) := by
  have htwo : ∀ (sets : PreferenceSets),
      [PreferenceProperty.interface, .pvd].foldlM (copyStep (fun _ => copySet nullIfEmpty) source)
        (m, sets) = (copySet nullIfEmpty m (source .interface)).bind fun r =>
          (copySet nullIfEmpty r.1 (source .pvd)).map fun r' =>
            (r'.1, fun property => PreferenceProperty.casesOn property r.2 r'.2) := by
    intro sets
    simp only [List.foldlM_cons, List.foldlM_nil, copyStep]
    cases copySet nullIfEmpty m (source .interface) with
    | none => rfl
    | some r =>
      simp only [Option.map_some, Option.bind_eq_bind, Option.bind_some]
      cases copySet nullIfEmpty r.1 (source .pvd) with
      | none => rfl
      | some r' =>
        refine congrArg some (Prod.ext rfl (funext fun property => ?_))
        cases property <;> rfl
  rw [selectionPropertiesDeepCopy, htwo, htwo]

theorem copies_combination {m : PreferenceMemory} {c : Combination} {s : String}
    (hs : m.text c.value = some (some s)) : Memory.Copies combinations copyCombination m c := by
  intro m' hext
  obtain ⟨hlocal, hsee⟩ := makes_newCombination s c.preference m'
  refine ⟨newCombination s c.preference m', ?_, hlocal, hsee.trans (Prod.ext hs.symm rfl)⟩
  rw [copyCombination, Memory.strdupWord_of_text (hext.text_some hs)]
  rfl

theorem copySet_copies (nullIfEmpty : Bool) :
    CopiesValue preferenceLayout (copySet nullIfEmpty) Readable fun _ => True := by
  refine ⟨fun m set _ hgood _ => ?_, fun _ _ _ _ hok => absurd trivial hok⟩
  obtain ⟨l, hl, hdefined, _⟩ := hgood
  obtain ⟨harray, hsee⟩ := Memory.arrayView_eq_some_iff.mp hl
  have hlength := Memory.isArray_length harray
  rw [hl]
  by_cases hnull : set.numCombinations = 0 ∧ nullIfEmpty
  · have hnil : l = [] := by
      rw [← List.length_eq_zero_iff, ← hsee, List.length_map, hlength, hnull.1]
    have hempty : preferenceLayout.owned m { set with combinations := none } = ∅ :=
      Memory.arrayOwned_null
    refine ⟨(m, { set with combinations := none }), if_pos hnull, ?_, ?_⟩
    · rw [hempty]
      exact Memory.local_nothing
    · exact Memory.arrayView_eq_some_iff.mpr ⟨decide_eq_true hnull.1, hnil.symm⟩
  · have hcopies : ∀ c ∈ m.elements set.combinations,
        Memory.Copies combinations copyCombination m c := by
      intro c hc
      obtain ⟨s, hs⟩ := hdefined _ (hsee ▸ List.mem_map_of_mem hc)
      exact copies_combination hs
    obtain ⟨r, hr, hlocal, hview⟩ := Memory.copyArray_spec hcopies
    refine ⟨(r.1, { set with combinations := some r.2 }), ?_, hlocal, ?_⟩
    · rw [copySet, if_neg hnull, List.take_of_length_le (Nat.le_of_eq hlength), hr, Option.map_some]
    · rw [hlength, hsee] at hview
      exact hview

def addPreferenceOn : PreferenceMemory × (Bool → PreferenceSets) → Bool × AddPreference →
    PreferenceMemory × (Bool → PreferenceSets) :=
  stepOn AddPreference.property AddPreference.perform

structure FaithfulSets (s c : PreferenceMemory × PreferenceSets) : Prop where
  same : ∀ property value,
    getPreference c.1 c.2 property value = getPreference s.1 s.2 property value
  kept : ∀ property value,
    getPreference c.1 s.2 property value = getPreference s.1 s.2 property value
  independent : ∀ (earlier later : List (Bool × AddPreference)) (side : Bool),
    (∀ x ∈ later, x.1 ≠ side) → ∀ property value,
      getPreference (run addPreferenceOn (c.1, sides s.2 c.2) (earlier ++ later)).1
          ((run addPreferenceOn (c.1, sides s.2 c.2) (earlier ++ later)).2 side) property value =
        getPreference (run addPreferenceOn (c.1, sides s.2 c.2) earlier).1
          ((run addPreferenceOn (c.1, sides s.2 c.2) earlier).2 side) property value

theorem faithfulSets (nullIfEmpty : Bool) {s : PreferenceMemory × PreferenceSets}
    (h : Held (fun _ => preferenceLayout) (fun _ => Readable) s) :
    ∃ c, selectionPropertiesDeepCopy nullIfEmpty s.1 s.2 = some c ∧ FaithfulSets s c := by
  rw [selectionPropertiesDeepCopy_eq]
  have hall : ∀ property, property ∈ [PreferenceProperty.interface, .pvd] := by
    intro property
    cases property <;> decide
  have hempty : ∀ property, preferenceLayout.owned s.1 (preferenceSetsNew property) = ∅ :=
    fun _ => Memory.arrayOwned_null
  obtain ⟨c, hc, hheld, hsource, hcopied⟩ := copy_all hall (fun _ => copySet_copies nullIfEmpty) h
    hempty fun _ => trivial
  refine ⟨c, hc, fun property => getPreference_congr (h.good property) (hcopied property),
    fun property => getPreference_congr (h.good property) (hsource property), ?_⟩
  intro earlier later side hlater property
  obtain ⟨hearlier, _⟩ := hheld.run addPreference_performs earlier
  rw [run_append]
  exact getPreference_congr (hearlier.good side property)
    ((hearlier.run addPreference_performs later).2 side hlater property)

/-- The preference sets are finite maps: the stored strings are distinct, a getter returns the
preference of the last call for its set with the string, and the deep copy answers as the original
does and is independent of it. -/
theorem preferenceSets_refine_map (nullIfEmpty : Bool) (m₀ : PreferenceMemory)
    (calls : List AddPreference) :
    (∀ property, (storedKeys (afterPreferences m₀ calls).1
        ((afterPreferences m₀ calls).2 property)).Nodup) ∧
      (∀ value, getInterfacePreference (afterPreferences m₀ calls).1
          (afterPreferences m₀ calls).2 value = some (lastPreference .interface value calls) ∧
        getPvdPreference (afterPreferences m₀ calls).1 (afterPreferences m₀ calls).2 value =
          some (lastPreference .pvd value calls)) ∧
      (∀ property calls', (calls'.filter fun x => x.property = property) =
          (calls.filter fun x => x.property = property) →
        storedKeys (afterPreferences m₀ calls').1 ((afterPreferences m₀ calls').2 property) =
            storedKeys (afterPreferences m₀ calls).1 ((afterPreferences m₀ calls).2 property) ∧
          ∀ value, getPreference (afterPreferences m₀ calls').1 (afterPreferences m₀ calls').2
              property value =
            getPreference (afterPreferences m₀ calls).1 (afterPreferences m₀ calls).2
              property value) ∧
      ∃ c, selectionPropertiesDeepCopy nullIfEmpty (afterPreferences m₀ calls).1
          (afterPreferences m₀ calls).2 = some c ∧ FaithfulSets (afterPreferences m₀ calls) c := by
  have hheld : Held (fun _ => preferenceLayout) (fun _ => Readable) (afterPreferences m₀ calls) :=
    ((held_preferenceSetsNew m₀).run addPreference_performs calls).1
  have hlast : ∀ property value, getPreference (afterPreferences m₀ calls).1
      (afterPreferences m₀ calls).2 property value = some (lastPreference property value calls) := by
    intro property value
    obtain ⟨l, hl, hdefined, _⟩ := hheld.good property
    rw [getPreference_eq hl hdefined, ← valueOf_writes]
    cases (seen_preferences m₀ calls property).symm.trans hl
    rfl
  refine ⟨fun property => ?_, fun value => ⟨hlast .interface value, hlast .pvd value⟩,
    fun property calls' hcalls => ?_, faithfulSets nullIfEmpty hheld⟩
  · obtain ⟨l, hl, _, hnodup⟩ := hheld.good property
    exact (storedKeys_eq hl).symm ▸ hnodup
  · have hview := seen_preferences m₀ calls property
    have hview' := seen_preferences m₀ calls' property
    rw [writes, hcalls] at hview'
    exact ⟨(storedKeys_eq hview').trans (storedKeys_eq hview).symm,
      getPreference_congr (hheld.good property) (hview'.trans hview.symm)⟩

end CTaps.Properties
