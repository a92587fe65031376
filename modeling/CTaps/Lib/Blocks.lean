import CTaps.Lib.Memory
import Mathlib.Data.Set.Basic

/-! Strings and arrays of C in memory, and the operations that keep an array of elements with strings
of their own: appending an element, writing to one, releasing the array and copying it with its
strings. What is read through a pointer that nothing was written to, or that does not point to a
string, is undefined. -/

namespace CTaps.Lib

inductive Word
  | undef
  | null
  | addr (a : Nat)
  deriving DecidableEq, Repr

inductive Block (ε : Type*)
  | chars (s : String)
  | array (l : List ε)

abbrev Text := Option (Option String)

def Word.ofPointer : Option Nat → Word
  | none => .null
  | some a => .addr a

theorem Word.ofPointer_eq_addr {p : Option Nat} {a : Nat} :
    Word.ofPointer p = .addr a ↔ p = some a := by
  cases p with
  | none => exact iff_of_false Word.noConfusion (Option.some_ne_none a).symm
  | some b => rw [Word.ofPointer, Word.addr.injEq, Option.some.injEq]

namespace Memory

section Strings

variable {ε : Type*}

def text (m : Memory (Block ε)) : Word → Text
  | .undef => none
  | .null => some none
  | .addr a =>
    match m.blocks a with
    | some (.chars s) => some (some s)
    | _ => none

def strdup (m : Memory (Block ε)) (s : String) : Memory (Block ε) × Nat :=
  (m.alloc (.chars s), m.next)

def strdupWord (m : Memory (Block ε)) (w : Word) : Option (Memory (Block ε) × Nat) :=
  match m.text w with
  | some (some s) => some (m.strdup s)
  | _ => none

variable {m m' : Memory (Block ε)} {w : Word}

theorem text_congr (h : ∀ a, w = .addr a → m'.blocks a = m.blocks a) : m'.text w = m.text w := by
  cases w with
  | undef => rfl
  | null => rfl
  | addr a => simp only [text, h a rfl]

theorem text_eq_of_pointer {p : Option Nat}
    (hframe : ∀ a, w = .addr a → p ≠ some a → m'.blocks a = m.blocks a)
    (hp : ∀ a, p = some a → m'.text (.addr a) = none ∧ m.text (.addr a) = none) :
    m'.text w = m.text w := by
  cases w with
  | undef => rfl
  | null => rfl
  | addr a =>
    by_cases ha : p = some a
    · rw [(hp a ha).1, (hp a ha).2]
    · refine text_congr fun b hb => ?_
      cases hb
      exact hframe a rfl ha

theorem text_addr {a : Nat} {s : String} (h : m.blocks a = some (.chars s)) :
    m.text (.addr a) = some (some s) := by
  simp only [text, h]

theorem text_alloc {b : Block ε} {w : Word} (hw : ∀ a, w = .addr a → a < m.next) :
    (m.alloc b).text w = m.text w :=
  text_congr fun a ha => m.alloc_blocks b (Nat.ne_of_lt (hw a ha))

@[simp] theorem text_alloc_next (s : String) :
    (m.alloc (.chars s : Block ε)).text (.addr m.next) = some (some s) :=
  text_addr (m.alloc_blocks_next _)

theorem lt_next_of_text {a : Nat} {s : String} (h : m.text (.addr a) = some (some s)) :
    a < m.next := by
  simp only [text] at h
  split at h
  next hb => exact lt_next_of_blocks hb
  next => cases h

theorem strdupWord_of_text {s : String} (h : m.text w = some (some s)) :
    m.strdupWord w = some (m.strdup s) := by
  rw [strdupWord, h]

def Extends (m m' : Memory (Block ε)) : Prop :=
  m.next ≤ m'.next ∧ ∀ a < m.next, m'.blocks a = m.blocks a

theorem Extends.trans {m'' : Memory (Block ε)} (h : m.Extends m') (h' : m'.Extends m'') :
    m.Extends m'' :=
  ⟨Nat.le_trans h.1 h'.1,
    fun a ha => (h'.2 a (Nat.lt_of_lt_of_le ha h.1)).trans (h.2 a ha)⟩

theorem Local.extends {F : Set Nat} (h : m.Local m' ∅ F) : m.Extends m' :=
  ⟨h.next_le, fun a ha => h.frame a ha (Set.notMem_empty a)⟩

theorem strdupWord_spec {r : Memory (Block ε) × Nat} (h : m.strdupWord w = some r) :
    ∃ s, m.text w = some (some s) ∧ r = m.strdup s := by
  rw [strdupWord] at h
  split at h
  next s hs => exact ⟨s, hs, (Option.some.inj h).symm⟩
  next => cases h

theorem extends_alloc (m : Memory (Block ε)) (b : Block ε) : m.Extends (m.alloc b) :=
  (local_alloc lt_next_of_mem_empty b).extends

theorem local_strdup (m : Memory (Block ε)) (s : String) :
    m.Local (m.strdup s).1 ∅ {(m.strdup s).2} := by
  refine (local_alloc lt_next_of_mem_empty _).of_subset fun a ha => ?_
  rw [ha]
  exact Or.inl rfl

theorem Extends.text_eq (h : m.Extends m') {w : Word} (hw : ∀ a, w = .addr a → a < m.next) :
    m'.text w = m.text w :=
  text_congr fun a ha => h.2 a (hw a ha)

theorem Extends.text_some (h : m.Extends m') {w : Word} {s : String}
    (hw : m.text w = some (some s)) : m'.text w = some (some s) := by
  rw [h.text_eq, hw]
  rintro a rfl
  exact lt_next_of_text hw

end Strings

end Memory

/-! ### Arrays -/

structure Elements (ε κ : Type*) where
  words : ε → List Word
  see : (Word → Text) → ε → κ
  stable : ∀ {t t' : Word → Text} {e : ε}, (∀ w ∈ words e, t' w = t w) → see t' e = see t e

namespace Elements

variable {ε κ : Type*} (E : Elements ε κ)

def owned (e : ε) : Set Nat := {a | .addr a ∈ E.words e}

end Elements

namespace Memory

variable {ε κ : Type*} {E : Elements ε κ}

def elements (m : Memory (Block ε)) : Option Nat → List ε
  | none => []
  | some a =>
    match m.blocks a with
    | some (.array l) => l
    | _ => []

def isArray (m : Memory (Block ε)) (p : Option Nat) (num : Nat) : Bool :=
  match p with
  | none => num = 0
  | some a =>
    match m.blocks a with
    | some (.array l) => l.length = num
    | _ => false

def arrayOwned (E : Elements ε κ) (m : Memory (Block ε)) (p : Option Nat) : Set Nat :=
  {a | p = some a ∨ ∃ e ∈ m.elements p, a ∈ E.owned e}

def arrayView (E : Elements ε κ) (m : Memory (Block ε)) (p : Option Nat) (num : Nat) :
    Option (List κ) :=
  if m.isArray p num then some ((m.elements p).map (E.see m.text)) else none

section Arrays

variable {m m' : Memory (Block ε)} {p : Option Nat} {num : Nat}

theorem elements_congr (h : ∀ a, p = some a → m'.blocks a = m.blocks a) :
    m'.elements p = m.elements p := by
  cases p with
  | none => rfl
  | some a => simp only [elements, h a rfl]

theorem isArray_congr (h : ∀ a, p = some a → m'.blocks a = m.blocks a) :
    m'.isArray p num = m.isArray p num := by
  cases p with
  | none => rfl
  | some a => simp only [isArray, h a rfl]

theorem elements_of_blocks {a : Nat} {l : List ε} (h : m.blocks a = some (.array l)) :
    m.elements (some a) = l := by
  simp only [elements, h]

theorem isArray_of_blocks {a : Nat} {l : List ε} (h : m.blocks a = some (.array l)) :
    m.isArray (some a) l.length = true := by
  simp only [isArray, h, decide_true]

theorem blocks_of_isArray {a : Nat} (h : m.isArray (some a) num = true) :
    m.blocks a = some (.array (m.elements (some a))) := by
  simp only [isArray] at h
  split at h
  next hl => rw [elements_of_blocks hl, hl]
  next => cases h

theorem isArray_length (h : m.isArray p num = true) : (m.elements p).length = num := by
  cases p with
  | none => exact (of_decide_eq_true h).symm
  | some a =>
    simp only [isArray, blocks_of_isArray h] at h
    exact of_decide_eq_true h

theorem arrayView_eq_some_iff {ks : List κ} :
    arrayView E m p num = some ks ↔
      m.isArray p num = true ∧ (m.elements p).map (E.see m.text) = ks := by
  unfold arrayView
  split
  next h => rw [and_iff_right h, Option.some.injEq]
  next h => exact iff_of_false (Option.some_ne_none ks).symm fun h' => h h'.1

theorem length_of_arrayView {ks : List κ} (h : arrayView E m p num = some ks) : ks.length = num := by
  obtain ⟨hnum, rfl⟩ := arrayView_eq_some_iff.mp h
  rw [List.length_map, isArray_length hnum]

theorem text_of_array {a : Nat} {l : List ε} (h : m.blocks a = some (.array l)) :
    m.text (.addr a) = none := by
  simp only [text, h]

theorem text_pointer (h : m.isArray p num = true) {a : Nat} (ha : p = some a) :
    m.text (.addr a) = none :=
  text_of_array (blocks_of_isArray (ha ▸ h))

theorem arrayOwned_stable (h : ∀ a ∈ arrayOwned E m p, m'.blocks a = m.blocks a) :
    arrayOwned E m' p = arrayOwned E m p := by
  unfold arrayOwned
  rw [elements_congr fun a ha => h a (Or.inl ha)]

theorem arrayOwned_null : arrayOwned E m none = ∅ := by
  refine Set.eq_empty_of_forall_notMem ?_
  rintro a (ha | ⟨e, he, _⟩)
  · cases ha
  · cases he

theorem see_congr {e : ε} (h : ∀ a ∈ E.owned e, m'.blocks a = m.blocks a) :
    E.see m'.text e = E.see m.text e :=
  E.stable fun _ hw => text_congr fun a ha => h a (show Word.addr a ∈ E.words e from ha ▸ hw)

theorem arrayView_stable (h : ∀ a ∈ arrayOwned E m p, m'.blocks a = m.blocks a) :
    arrayView E m' p num = arrayView E m p num := by
  have hpointer : ∀ a, p = some a → m'.blocks a = m.blocks a := fun a ha => h a (Or.inl ha)
  have hsee : (m.elements p).map (E.see m'.text) = (m.elements p).map (E.see m.text) :=
    List.map_congr_left fun e he => see_congr fun a ha => h a (Or.inr ⟨e, he, ha⟩)
  unfold arrayView
  rw [isArray_congr hpointer, elements_congr hpointer, hsee]

theorem owned_of_elements {F : Set Nat} {a : Nat} {l : List ε} (hblock : m'.blocks a = some (.array l))
    (hle : m.next ≤ a)
    (hl : ∀ e ∈ l, ∀ b ∈ E.owned e, b < m'.next ∧ (b ∈ F ∨ m.next ≤ b)) :
    ∀ b ∈ arrayOwned E m' (some a), b < m'.next ∧ (b ∈ F ∨ m.next ≤ b) := by
  rintro b (hb | ⟨e, he, hb⟩)
  · cases hb
    exact ⟨lt_next_of_blocks hblock, Or.inr hle⟩
  · rw [elements_of_blocks hblock] at he
    exact hl e he b hb

end Arrays

/-! ### Appending -/

def push (m : Memory (Block ε)) (p : Option Nat) (make : Memory (Block ε) → Memory (Block ε) × ε) :
    Memory (Block ε) × Nat :=
  let l := m.elements p
  let r := make ((m.free p).alloc (.array l))
  (r.1.write m.next (.array (l ++ [r.2])), m.next)

def Makes (E : Elements ε κ) (make : Memory (Block ε) → Memory (Block ε) × ε) (k : κ) : Prop :=
  ∀ m, m.Local (make m).1 ∅ (E.owned (make m).2) ∧ E.see (make m).1.text (make m).2 = k

section Push

variable {m : Memory (Block ε)} {p : Option Nat} {num : Nat}
  {make : Memory (Block ε) → Memory (Block ε) × ε} {k : κ}

theorem push_blocks (hmake : Makes E make k) :
    (m.push p make).1.blocks m.next = some (.array (m.elements p ++
        [(make ((m.free p).alloc (.array (m.elements p)))).2])) ∧
      (∀ a < m.next, (m.push p make).1.blocks a = (m.free p).blocks a) ∧
      m.next < (m.push p make).1.next := by
  have hext := (hmake ((m.free p).alloc (.array (m.elements p)))).1.extends
  have hnext : m.next < ((m.free p).alloc (.array (m.elements p))).next := Nat.lt_succ_self _
  have harray := hext.2 m.next hnext
  rw [show ((m.free p).alloc (.array (m.elements p))).blocks m.next = some (.array (m.elements p))
    from (m.free p).alloc_blocks_next _] at harray
  refine ⟨write_blocks_self _ _ harray, fun a ha => ?_, Nat.lt_of_lt_of_le hnext hext.1⟩
  unfold push
  dsimp only
  rw [write_blocks _ _ (Nat.ne_of_lt ha), hext.2 a (Nat.lt_trans ha hnext)]
  exact (m.free p).alloc_blocks _ (Nat.ne_of_lt ha)

theorem see_push_of_mem (hmake : Makes E make k) (howned : ∀ a ∈ arrayOwned E m p, a < m.next)
    (hnum : m.isArray p num = true) {e : ε} (he : e ∈ m.elements p) :
    E.see (m.push p make).1.text e = E.see m.text e := by
  obtain ⟨_, hframe, _⟩ := push_blocks hmake (m := m) (p := p)
  refine E.stable fun w hw => text_eq_of_pointer (p := p) (fun a ha hp => ?_) fun a hp => ⟨?_, ?_⟩
  · subst ha
    rw [hframe a (howned a (Or.inr ⟨e, he, hw⟩)), m.free_blocks hp]
  · have hfreed : (m.push p make).1.blocks a = none := by
      rw [hframe a (howned a (Or.inl hp))]
      exact if_pos hp
    rw [text, hfreed]
  · exact text_pointer hnum hp

theorem see_push_new (hmake : Makes E make k) :
    E.see (m.push p make).1.text (make ((m.free p).alloc (.array (m.elements p)))).2 = k := by
  obtain ⟨hmade, hseen⟩ := hmake ((m.free p).alloc (.array (m.elements p)))
  refine (see_congr fun a ha => ?_).trans hseen
  exact write_blocks _ _ (Nat.ne_of_gt (hmade.new ha))

theorem push_spec (hmake : Makes E make k) (howned : ∀ a ∈ arrayOwned E m p, a < m.next)
    {ks : List κ} (hview : arrayView E m p num = some ks) :
    m.Local (m.push p make).1 (arrayOwned E m p)
        (arrayOwned E (m.push p make).1 (some (m.push p make).2)) ∧
      arrayView E (m.push p make).1 (some (m.push p make).2) (num + 1) = some (ks ++ [k]) := by
  obtain ⟨hnum, rfl⟩ := arrayView_eq_some_iff.mp hview
  obtain ⟨hblock, hframe, hlt⟩ := push_blocks hmake (m := m) (p := p)
  have hmade := (hmake ((m.free p).alloc (.array (m.elements p)))).1
  refine ⟨⟨Nat.le_of_lt hlt, fun a ha haF => ?_, ?_⟩, arrayView_eq_some_iff.mpr ⟨?_, ?_⟩⟩
  · rw [hframe a ha]
    exact m.free_blocks fun hp => haF (Or.inl hp)
  · refine owned_of_elements hblock (Nat.le_refl _) fun e he b hb => ?_
    rcases List.mem_append.mp he with he | he
    · have hbF : b ∈ arrayOwned E m p := Or.inr ⟨e, he, hb⟩
      exact ⟨Nat.lt_trans (howned b hbF) hlt, Or.inl hbF⟩
    · rw [List.mem_singleton.mp he] at hb
      exact ⟨hmade.lt_next hb, Or.inr (Nat.le_of_succ_le (hmade.new hb))⟩
  · have hlength := isArray_of_blocks hblock
    rw [List.length_append, isArray_length hnum] at hlength
    exact hlength
  · show (elements (m.push p make).1 (some m.next)).map _ = _
    rw [elements_of_blocks hblock, List.map_append, List.map_singleton, see_push_new hmake,
      List.map_congr_left fun e he => see_push_of_mem hmake howned hnum he]

end Push

/-! ### Writing to an element -/

theorem write_array_spec {m : Memory (Block ε)} {a num : Nat} {l l' : List ε} {ks : List κ}
    (hblock : m.blocks a = some (.array l)) (howned : ∀ b ∈ arrayOwned E m (some a), b < m.next)
    (hwords : l'.map E.words = l.map E.words) (hview : l'.map (E.see m.text) = ks)
    (hnum : l'.length = num) :
    m.Local (m.write a (.array l')) (arrayOwned E m (some a))
        (arrayOwned E (m.write a (.array l')) (some a)) ∧
      arrayView E (m.write a (.array l')) (some a) num = some ks := by
  have hwritten := write_blocks_self m (.array l') hblock
  have hlocal := local_write howned (Or.inl rfl) (.array l')
  refine ⟨hlocal.of_subset ?_, arrayView_eq_some_iff.mpr ⟨?_, ?_⟩⟩
  · rintro b (hb | ⟨e, he, hb⟩)
    · exact Or.inl hb
    · rw [elements_of_blocks hwritten] at he
      have hmem : E.words e ∈ l.map E.words := hwords ▸ List.mem_map_of_mem he
      obtain ⟨e', he', heq⟩ := List.mem_map.mp hmem
      refine Or.inr ⟨e', ?_, ?_⟩
      · rw [elements_of_blocks hblock]
        exact he'
      · show Word.addr b ∈ E.words e'
        rw [heq]
        exact hb
  · rw [← hnum]
    exact isArray_of_blocks hwritten
  · -- the pointer of the array, the only block written to, is not one of a string
    rw [elements_of_blocks hwritten, ← hview]
    refine List.map_congr_left fun e _ => E.stable fun w _ => ?_
    refine text_eq_of_pointer (p := some a) (fun b _ hb => ?_) fun b hb => ?_
    · exact m.write_blocks _ fun heq => hb (congrArg some heq.symm)
    · cases hb
      exact ⟨text_of_array hwritten, text_of_array hblock⟩

/-! ### Releasing -/

def freeWord (m : Memory (Block ε)) : Word → Memory (Block ε)
  | .addr a => m.free (some a)
  | _ => m

def freeArray (E : Elements ε κ) (m : Memory (Block ε)) (p : Option Nat) : Memory (Block ε) :=
  (((m.elements p).flatMap E.words).foldl freeWord m).free p

theorem freeArray_local {m : Memory (Block ε)} {p : Option Nat}
    (howned : ∀ a ∈ arrayOwned E m p, a < m.next) :
    m.Local (freeArray E m p) (arrayOwned E m p) ∅ := by
  have hloop : m.Local (((m.elements p).flatMap E.words).foldl freeWord m) (arrayOwned E m p)
      (arrayOwned E m p) := by
    refine foldl_invariant (I := fun m' => m.Local m' (arrayOwned E m p) (arrayOwned E m p))
      (fun m' w hw hm' => ?_) (Local.refl howned)
    obtain ⟨e, he, hwe⟩ := List.mem_flatMap.mp hw
    cases w with
    | undef => exact hm'
    | null => exact hm'
    | addr a =>
      refine hm'.trans (local_free (fun b hb => hm'.lt_next hb) fun b hb => ?_)
      cases hb
      exact Or.inr ⟨e, he, hwe⟩
  refine (hloop.trans (local_free (fun a ha => hloop.lt_next ha) fun a ha => Or.inl ha)).of_subset ?_
  exact Set.empty_subset _

/-! ### Copying -/

def copyElements (copy : Memory (Block ε) → ε → Option (Memory (Block ε) × ε)) :
    Memory (Block ε) → List ε → Option (Memory (Block ε) × List ε)
  | m, [] => some (m, [])
  | m, e :: l =>
    (copy m e).bind fun r => (copyElements copy r.1 l).map fun r' => (r'.1, r.2 :: r'.2)

def copyArray (copy : Memory (Block ε) → ε → Option (Memory (Block ε) × ε)) (m : Memory (Block ε))
    (l : List ε) : Option (Memory (Block ε) × Nat) :=
  (copyElements copy (m.alloc (.array [])) l).map fun r => (r.1.write m.next (.array r.2), m.next)

section Copy

variable {copy : Memory (Block ε) → ε → Option (Memory (Block ε) × ε)}

def Copies (E : Elements ε κ) (copy : Memory (Block ε) → ε → Option (Memory (Block ε) × ε))
    (m : Memory (Block ε)) (e : ε) : Prop :=
  ∀ m', m.Extends m' → ∃ r, copy m' e = some r ∧ m'.Local r.1 ∅ (E.owned r.2) ∧
    E.see r.1.text r.2 = E.see m.text e

theorem copyElements_spec {m : Memory (Block ε)} {l : List ε} (hcopy : ∀ e ∈ l, Copies E copy m e)
    {m' : Memory (Block ε)} (hext : m.Extends m') :
    ∃ r, copyElements copy m' l = some r ∧
      m'.Local r.1 ∅ {a | ∃ e ∈ r.2, a ∈ E.owned e} ∧
      r.2.map (E.see r.1.text) = l.map (E.see m.text) := by
  induction l generalizing m' with
  | nil =>
    refine ⟨(m', []), rfl, local_nothing.of_subset ?_, rfl⟩
    rintro a ⟨e, he, _⟩
    cases he
  | cons e l ih =>
    obtain ⟨r, hr, hlocal, hsee⟩ := hcopy e List.mem_cons_self m' hext
    have hext' := hext.trans hlocal.extends
    obtain ⟨r', hr', hlocal', hsee'⟩ := ih (fun e he => hcopy e (List.mem_cons_of_mem _ he)) hext'
    refine ⟨(r'.1, r.2 :: r'.2), ?_, ⟨?_, ?_, ?_⟩, ?_⟩
    · rw [copyElements, hr, Option.bind_some, hr', Option.map_some]
    · exact Nat.le_trans hlocal.next_le hlocal'.next_le
    · exact fun a ha _ => (hlocal.extends.trans hlocal'.extends).2 a ha
    · rintro a ⟨e', he', ha⟩
      rcases List.mem_cons.mp he' with rfl | he'
      · exact ⟨Nat.lt_of_lt_of_le (hlocal.lt_next ha) hlocal'.next_le, Or.inr (hlocal.new ha)⟩
      · have ha' : a ∈ {a | ∃ e ∈ r'.2, a ∈ E.owned e} := ⟨e', he', ha⟩
        exact ⟨hlocal'.lt_next ha', Or.inr (Nat.le_trans hlocal.next_le (hlocal'.new ha'))⟩
    · rw [List.map_cons, List.map_cons, hsee', ← hsee]
      congr 1
      exact see_congr fun a ha => hlocal'.extends.2 a (hlocal.lt_next ha)

theorem copyArray_spec {m : Memory (Block ε)} {l : List ε} (hcopy : ∀ e ∈ l, Copies E copy m e) :
    ∃ r, copyArray copy m l = some r ∧ m.Local r.1 ∅ (arrayOwned E r.1 (some r.2)) ∧
      arrayView E r.1 (some r.2) l.length = some (l.map (E.see m.text)) := by
  have halloc := m.extends_alloc (.array [])
  obtain ⟨r, hr, hlocal, hsee⟩ := copyElements_spec hcopy halloc
  have harray : r.1.blocks m.next = some (.array []) :=
    (hlocal.extends.2 m.next (Nat.lt_succ_self _)).trans (m.alloc_blocks_next _)
  have hwritten := write_blocks_self r.1 (.array r.2) harray
  have hcopied : ∀ e ∈ r.2, ∀ b ∈ E.owned e, b < r.1.next ∧ m.next < b := by
    intro e he b hb
    have hb' : b ∈ {a | ∃ e ∈ r.2, a ∈ E.owned e} := ⟨e, he, hb⟩
    exact ⟨hlocal.lt_next hb', hlocal.new hb'⟩
  refine ⟨(r.1.write m.next (.array r.2), m.next), ?_, ⟨?_, ?_, ?_⟩, ?_⟩
  · rw [copyArray, hr, Option.map_some]
  · exact Nat.le_trans halloc.1 hlocal.next_le
  · intro a ha _
    rw [write_blocks _ _ (Nat.ne_of_lt ha), (halloc.trans hlocal.extends).2 a ha]
  · refine owned_of_elements hwritten (Nat.le_refl _) fun e he b hb => ?_
    exact ⟨(hcopied e he b hb).1, Or.inr (Nat.le_of_lt (hcopied e he b hb).2)⟩
  · have hlength : r.2.length = l.length := by
      rw [← List.length_map (E.see r.1.text), hsee, List.length_map]
    refine arrayView_eq_some_iff.mpr ⟨?_, ?_⟩
    · rw [← hlength]
      exact isArray_of_blocks hwritten
    · rw [elements_of_blocks hwritten, ← hsee]
      refine List.map_congr_left fun e he => see_congr fun a ha => ?_
      exact write_blocks _ _ (Nat.ne_of_gt (hcopied e he a ha).2)

theorem copyElements_eq_none (hext : ∀ m e r, copy m e = some r → m.Extends r.1)
    {m : Memory (Block ε)} {l : List ε} {e : ε} (he : e ∈ l)
    (hcopy : ∀ m', m.Extends m' → copy m' e = none) {m' : Memory (Block ε)} (hm : m.Extends m') :
    copyElements copy m' l = none := by
  induction l generalizing m' with
  | nil => cases he
  | cons e' l ih =>
    rw [copyElements]
    rcases List.mem_cons.mp he with rfl | he
    · rw [hcopy m' hm, Option.bind_none]
    · cases hr : copy m' e' with
      | none => rfl
      | some r => rw [Option.bind_some, ih he (hm.trans (hext _ _ _ hr)), Option.map_none]

theorem copyArray_eq_none (hext : ∀ m e r, copy m e = some r → m.Extends r.1)
    {m : Memory (Block ε)} {l : List ε} {e : ε} (he : e ∈ l)
    (hcopy : ∀ m', m.Extends m' → copy m' e = none) : copyArray copy m l = none := by
  rw [copyArray, copyElements_eq_none hext he hcopy (m.extends_alloc _), Option.map_none]

end Copy

end Memory

end CTaps.Lib
