import Mathlib.Data.List.Basic
import Mathlib.Data.Fin.VecNotation

/-! The choice of an ALPN for an incoming QUIC connection. The names that the peer offers lie in its
ClientHello, each with its length in front and without a NUL byte at its end; `quic_alpn_select_cb`
compares them with `strcmp`, which goes by NUL bytes alone. -/

namespace CTaps.Quic

abbrev Memory := Nat → BitVec 8

structure CString where
  bytes : List (BitVec 8)
  nonzero : ∀ b ∈ bytes, b ≠ 0

structure Iovec where
  base : Nat
  len : Nat

def Iovec.bytes (memory : Memory) (v : Iovec) : List (BitVec 8) :=
  (List.range v.len).map fun k => memory (v.base + k)

def strcmp (memory : Memory) (base : Nat) : List (BitVec 8) → Bool
  | [] => memory base = 0
  | b :: s => memory base = b && strcmp memory (base + 1) s

/-- `ct_security_parameters_get_alpns`; NULL parameters leave the number at 0. -/
def getAlpns (securityParameters : Option (List CString)) : List CString :=
  securityParameters.getD []

structure Listener where
  securityParameters : Option (List CString)

def selectLoop (memory : Memory) (alpns : List CString) (count : Nat) : Nat → List Iovec → Nat
  | _, [] => count
  | i, v :: list =>
    if alpns.any fun a => strcmp memory v.base a.bytes then i
    else selectLoop memory alpns count (i + 1) list

def quicAlpnSelectCb (memory : Memory) (listener : Option Listener) (list : List Iovec) : Nat :=
  match listener with
  | none => list.length
  | some listener =>
    let alpns := getAlpns listener.securityParameters
    if alpns.length = 0 then list.length else selectLoop memory alpns list.length 0 list

/-! ### What the choice should be -/

def Named (memory : Memory) (alpns : List CString) (v : Iovec) : Prop :=
  ∃ a ∈ alpns, v.bytes memory = a.bytes
deriving Decidable

def firstNamed (memory : Memory) (alpns : List CString) (list : List Iovec) : Nat :=
  list.findIdx fun v => decide (Named memory alpns v)

def Spells (memory : Memory) (base : Nat) (a : CString) : Prop :=
  (∀ k b, a.bytes[k]? = some b → memory (base + k) = b) ∧ memory (base + a.bytes.length) = 0

/-- Up to the first name that is an ALPN, no name goes on in memory to spell one, nor is cut to one
by a NUL byte inside it; and that first name is followed by a NUL byte, or goes on to spell a longer
ALPN. -/
def WellPlaced (memory : Memory) (alpns : List CString) : List Iovec → Prop
  | [] => True
  | v :: list =>
    if Named memory alpns v then
      memory (v.base + v.len) = 0 ∨ ∃ a ∈ alpns, v.len < a.bytes.length ∧ Spells memory v.base a
    else (∀ a ∈ alpns, ¬ Spells memory v.base a) ∧ WellPlaced memory alpns list

section Strings

variable {memory : Memory}

theorem strcmp_iff (base : Nat) (s : List (BitVec 8)) :
    strcmp memory base s = true ↔
      (∀ k b, s[k]? = some b → memory (base + k) = b) ∧ memory (base + s.length) = 0 := by
  induction s generalizing base with
  | nil =>
    rw [strcmp, decide_eq_true_iff]
    exact (and_iff_right fun k b h => absurd h (by simp)).symm
  | cons c s ih =>
    have hshift : ∀ n, base + 1 + n = base + (n + 1) := fun n => by omega
    rw [strcmp, Bool.and_eq_true, decide_eq_true_iff, ih, List.length_cons, hshift, ← and_assoc]
    refine and_congr_left fun _ => ⟨?_, ?_⟩
    · rintro ⟨hhead, htail⟩ k b hk
      cases k with
      | zero => exact hhead.trans (Option.some.inj hk)
      | succ k => exact hshift k ▸ htail k b hk
    · intro h
      refine ⟨h 0 c rfl, fun k b hk => ?_⟩
      rw [hshift]
      exact h (k + 1) b hk

theorem spells_iff (base : Nat) (a : CString) :
    Spells memory base a ↔ strcmp memory base a.bytes = true :=
  (strcmp_iff base a.bytes).symm

theorem Iovec.length_bytes (v : Iovec) : (v.bytes memory).length = v.len := by
  rw [Iovec.bytes, List.length_map, List.length_range]

theorem Iovec.bytes_eq_iff (v : Iovec) (s : List (BitVec 8)) :
    v.bytes memory = s ↔ v.len = s.length ∧ ∀ k b, s[k]? = some b → memory (v.base + k) = b := by
  constructor
  · rintro rfl
    refine ⟨v.length_bytes.symm, fun k b hk => ?_⟩
    obtain ⟨_, rfl⟩ := List.getElem?_eq_some_iff.mp hk
    simp [Iovec.bytes]
  · rintro ⟨hlen, hbytes⟩
    refine List.ext_getElem (v.length_bytes.trans hlen) fun k _ hk => ?_
    have hbyte := hbytes k _ (List.getElem?_eq_getElem hk)
    simpa [Iovec.bytes] using hbyte

theorem exists_spells_iff {alpns : List CString} {v : Iovec} (h : Named memory alpns v) :
    (∃ a ∈ alpns, Spells memory v.base a) ↔
      memory (v.base + v.len) = 0 ∨ ∃ a ∈ alpns, v.len < a.bytes.length ∧ Spells memory v.base a := by
  obtain ⟨name, hname, hbytes⟩ := h
  obtain ⟨hlen, hget⟩ := (v.bytes_eq_iff name.bytes).mp hbytes
  constructor
  · rintro ⟨a, ha, hspells⟩
    rcases Nat.lt_trichotomy a.bytes.length v.len with hlt | heq | hgt
    · -- a NUL byte inside the name, which an ALPN does not have
      have hk : a.bytes.length < name.bytes.length := by omega
      have hbyte := hget _ _ (List.getElem?_eq_getElem hk)
      exact absurd (hbyte.symm.trans hspells.2) (name.nonzero _ (List.getElem_mem hk))
    · exact Or.inl (heq ▸ hspells.2)
    · exact Or.inr ⟨a, ha, hgt, hspells⟩
  · rintro (hnul | ⟨a, ha, _, hspells⟩)
    · exact ⟨name, hname, hget, hlen ▸ hnul⟩
    · exact ⟨a, ha, hspells⟩

end Strings

section Loop

variable {memory : Memory} {alpns : List CString}

theorem any_strcmp_iff (v : Iovec) :
    (alpns.any fun a => strcmp memory v.base a.bytes) = true ↔
      ∃ a ∈ alpns, Spells memory v.base a := by
  rw [List.any_eq_true]
  simp only [spells_iff]

theorem selectLoop_ge (count i : Nat) (list : List Iovec) (hcount : count = i + list.length) :
    i ≤ selectLoop memory alpns count i list := by
  induction list generalizing i with
  | nil =>
    rw [selectLoop]
    omega
  | cons v list ih =>
    rw [selectLoop]
    split
    · exact Nat.le_refl i
    · exact Nat.le_of_succ_le (ih (i + 1) (by rw [hcount, List.length_cons]; omega))

theorem selectLoop_eq_iff (count i : Nat) (list : List Iovec) (hcount : count = i + list.length) :
    selectLoop memory alpns count i list = i + firstNamed memory alpns list ↔
      WellPlaced memory alpns list := by
  induction list generalizing i with
  | nil => exact iff_of_true hcount trivial
  | cons v list ih =>
    have htail : count = i + 1 + list.length := by rw [hcount, List.length_cons]; omega
    have hge : i + 1 ≤ selectLoop memory alpns count (i + 1) list :=
      selectLoop_ge count (i + 1) list htail
    rw [selectLoop, firstNamed, List.findIdx_cons, WellPlaced]
    by_cases hnamed : Named memory alpns v
    · rw [if_pos hnamed, ← exists_spells_iff hnamed, ← any_strcmp_iff, decide_eq_true hnamed,
        cond_true]
      split
      next h => exact iff_of_true rfl h
      next h => exact iff_of_false (by omega) h
    · rw [if_neg hnamed, decide_eq_false hnamed, cond_false]
      split
      next h =>
        obtain ⟨a, ha, hspells⟩ := any_strcmp_iff v |>.mp h
        exact iff_of_false (by omega) fun hplaced => hplaced.1 a ha hspells
      next h =>
        have hnone : ∀ a ∈ alpns, ¬ Spells memory v.base a :=
          fun a ha hspells => h ((any_strcmp_iff v).mpr ⟨a, ha, hspells⟩)
        rw [and_iff_right hnone, ← ih (i + 1) htail, firstNamed]
        omega

theorem selectLoop_nil (memory : Memory) (count i : Nat) (list : List Iovec) :
    selectLoop memory [] count i list = count := by
  induction list generalizing i with
  | nil => rfl
  | cons v list ih => exact ih (i + 1)

theorem quicAlpnSelectCb_some (memory : Memory) (listener : Listener) (list : List Iovec) :
    quicAlpnSelectCb memory (some listener) list =
      selectLoop memory (getAlpns listener.securityParameters) list.length 0 list := by
  unfold quicAlpnSelectCb
  dsimp only
  split
  next h => rw [List.eq_nil_of_length_eq_zero h, selectLoop_nil]
  next => rfl

theorem firstNamed_congr {memory other : Memory} {list : List Iovec}
    (h : ∀ v ∈ list, v.bytes other = v.bytes memory) :
    firstNamed other alpns list = firstNamed memory alpns list := by
  induction list with
  | nil => rfl
  | cons v list ih =>
    have hnamed : Named other alpns v ↔ Named memory alpns v := by
      unfold Named
      rw [h v List.mem_cons_self]
    rw [firstNamed, firstNamed, List.findIdx_cons, List.findIdx_cons, decide_eq_decide.mpr hnamed]
    have htail := ih fun w hw => h w (List.mem_cons_of_mem v hw)
    rw [firstNamed, firstNamed] at htail
    rw [htail]

end Loop

/-- The choice of a listener is right exactly for names that are well placed; and among memories
that agree on the names, it then depends on nothing else. -/
theorem alpn_selection (memory : Memory) (listener : Listener) (list : List Iovec) :
    (quicAlpnSelectCb memory (some listener) list =
        firstNamed memory (getAlpns listener.securityParameters) list ↔
      WellPlaced memory (getAlpns listener.securityParameters) list) ∧
    ∀ other : Memory, (∀ v ∈ list, v.bytes other = v.bytes memory) →
      WellPlaced memory (getAlpns listener.securityParameters) list →
      WellPlaced other (getAlpns listener.securityParameters) list →
      quicAlpnSelectCb other (some listener) list = quicAlpnSelectCb memory (some listener) list := by
  have hchoice : ∀ m : Memory, quicAlpnSelectCb m (some listener) list =
        firstNamed m (getAlpns listener.securityParameters) list ↔
      WellPlaced m (getAlpns listener.securityParameters) list := by
    intro m
    rw [quicAlpnSelectCb_some, ← selectLoop_eq_iff list.length 0 list (Nat.zero_add _).symm,
      Nat.zero_add]
  refine ⟨hchoice memory, fun other hnames hplaced hother => ?_⟩
  rw [(hchoice memory).mpr hplaced, (hchoice other).mpr hother, firstNamed_congr hnames]

def h3 : CString := ⟨[0x68, 0x33], by decide⟩

theorem alpn_selection_terminated :
    quicAlpnSelectCb (fun k => ([2, 0x68, 0x33] : List (BitVec 8)).getD k 0)
        (some ⟨some [h3]⟩) [⟨1, 2⟩] =
      firstNamed (fun k => ([2, 0x68, 0x33] : List (BitVec 8)).getD k 0) [h3] [⟨1, 2⟩] := by
  refine (alpn_selection _ ⟨some [h3]⟩ [⟨1, 2⟩]).1.mpr ?_
  rw [WellPlaced, if_pos (by decide)]
  exact Or.inl rfl

/-- A ClientHello that offers `h3` first, with the length 2 of a second name after it. -/
theorem offered_name_passed_over :
    quicAlpnSelectCb (fun k => ([2, 0x68, 0x33, 2, 0x68, 0x32] : List (BitVec 8)).getD k 0)
        (some ⟨some [h3]⟩) [⟨1, 2⟩, ⟨4, 2⟩] = 2 ∧
      firstNamed (fun k => ([2, 0x68, 0x33, 2, 0x68, 0x32] : List (BitVec 8)).getD k 0)
        [h3] [⟨1, 2⟩, ⟨4, 2⟩] = 0 := by
  decide

end CTaps.Quic
