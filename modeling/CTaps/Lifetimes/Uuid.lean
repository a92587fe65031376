import CTaps.Lifetimes.Insertion
import Mathlib.Algebra.Group.Nat.Defs

/-! The uuids of connections and groups. Without random bytes a uuid is made of the time and of a
counter, and is then stamped with its version and variant, which overwrites four bits of the time and
two of the counter. -/

namespace CTaps.Lifetimes

/-! ### Rendering -/

def hexByte (b : BitVec 8) : List Char := [(b.toNat / 16).digitChar, (b.toNat % 16).digitChar]

def uuidChars (uuid : List (BitVec 8)) : List Char :=
  (uuid.take 4).flatMap hexByte ++ '-' :: (((uuid.drop 4).take 2).flatMap hexByte ++
    '-' :: (((uuid.drop 6).take 2).flatMap hexByte ++
      '-' :: (((uuid.drop 8).take 2).flatMap hexByte ++ '-' :: (uuid.drop 10).flatMap hexByte)))

def uuidString (uuid : List (BitVec 8)) : String := String.ofList (uuidChars uuid)

theorem digitChar_inj : ∀ m < 16, ∀ n < 16, Nat.digitChar m = Nat.digitChar n → m = n := by
  decide

theorem digitChar_ne_dash : ∀ n < 16, Nat.digitChar n ≠ '-' := by
  decide

theorem hexByte_inj {b b' : BitVec 8} (h : hexByte b = hexByte b') : b = b' := by
  obtain ⟨hhigh, hlow⟩ := List.cons.inj h
  have hlt := b.isLt
  have hlt' := b'.isLt
  have hdiv := digitChar_inj _ (by omega) _ (by omega) hhigh
  have hmod := digitChar_inj _ (by omega) _ (by omega) (List.cons.inj hlow).1
  exact BitVec.eq_of_toNat_eq (by omega)

theorem flatMap_hexByte_inj {l l' : List (BitVec 8)} (h : l.flatMap hexByte = l'.flatMap hexByte) :
    l = l' := by
  induction l generalizing l' with
  | nil =>
    cases l' with
    | nil => rfl
    | cons b' l' => cases h
  | cons b l ih =>
    cases l' with
    | nil => cases h
    | cons b' l' =>
      rw [List.flatMap_cons, List.flatMap_cons] at h
      obtain ⟨hb, hl⟩ := List.append_inj h rfl
      rw [hexByte_inj hb, ih hl]

theorem filter_flatMap_hexByte (l : List (BitVec 8)) :
    (l.flatMap hexByte).filter (· ≠ '-') = l.flatMap hexByte := by
  refine List.filter_eq_self.mpr fun ch hch => decide_eq_true ?_
  obtain ⟨b, _, hb⟩ := List.mem_flatMap.mp hch
  have hlt := b.isLt
  rcases List.mem_cons.mp hb with rfl | hb
  · exact digitChar_ne_dash _ (by omega)
  · rw [List.mem_singleton.mp hb]
    exact digitChar_ne_dash _ (by omega)

theorem filter_dash_cons (l : List Char) : ('-' :: l).filter (· ≠ '-') = l.filter (· ≠ '-') :=
  List.filter_cons_of_neg (by decide)

theorem take_drop_append (uuid : List (BitVec 8)) (n : Nat) :
    (uuid.drop n).take 2 ++ uuid.drop (n + 2) = uuid.drop n := by
  rw [← List.drop_drop]
  exact List.take_append_drop 2 (uuid.drop n)

theorem filter_uuidChars (uuid : List (BitVec 8)) :
    (uuidChars uuid).filter (· ≠ '-') = uuid.flatMap hexByte := by
  simp only [uuidChars, List.filter_append, filter_dash_cons, filter_flatMap_hexByte]
  rw [← List.flatMap_append, take_drop_append uuid 8, ← List.flatMap_append, take_drop_append uuid 6,
    ← List.flatMap_append, take_drop_append uuid 4, ← List.flatMap_append, List.take_append_drop]

theorem uuidString_inj {uuid uuid' : List (BitVec 8)} (h : uuidString uuid = uuidString uuid') :
    uuid = uuid' := by
  have hchars : uuidChars uuid = uuidChars uuid' := String.ofList_injective h
  refine flatMap_hexByte_inj ?_
  rw [← filter_uuidChars, hchars, filter_uuidChars]

/-! ### Generation -/

def bytesOf (x : BitVec 64) : List (BitVec 8) := (List.range 8).map fun k => x.extractLsb' (8 * k) 8

def stampVersion (b : BitVec 8) : BitVec 8 := (b &&& 0x0F#8) ||| 0x40#8

def stampVariant (b : BitVec 8) : BitVec 8 := (b &&& 0x3F#8) ||| 0x80#8

def stamped (uuid : List (BitVec 8)) : List (BitVec 8) :=
  (uuid.modify 6 stampVersion).modify 8 stampVariant

/-- `generate_uuid_string`: the string and the counter afterwards. Random bytes are there unless
`getrandom` has failed. -/
def generateUuidString (getrandom : Option (Fin 16 → BitVec 8)) (time counter : BitVec 64) :
    String × BitVec 64 :=
  match getrandom with
  | some uuid => (uuidString (stamped (List.ofFn uuid)), counter)
  | none => (uuidString (stamped (bytesOf time ++ bytesOf counter)), counter + 1)

def counterBefore (clock : Nat → BitVec 64) : Nat → BitVec 64
  | 0 => 0#64
  | n + 1 => (generateUuidString none (clock n) (counterBefore clock n)).2

def fallbackUuid (clock : Nat → BitVec 64) (n : Nat) : String :=
  (generateUuidString none (clock n) (counterBefore clock n)).1

theorem counterBefore_eq (clock : Nat → BitVec 64) (n : Nat) :
    counterBefore clock n = BitVec.ofNat 64 n := by
  induction n with
  | zero => rfl
  | succ n ih =>
    show counterBefore clock n + 1 = _
    rw [ih]
    exact (BitVec.ofNat_add n 1).symm

/-! ### What the stamps keep -/

theorem stampVersion_toNat : ∀ b : BitVec 8, (stampVersion b).toNat = b.toNat % 16 + 64 := by
  decide

theorem stampVariant_toNat : ∀ b : BitVec 8, (stampVariant b).toNat = b.toNat % 64 + 128 := by
  decide

theorem byte_toNat (x : BitVec 64) (k : Nat) :
    (x.extractLsb' (8 * k) 8).toNat = x.toNat / 2 ^ (8 * k) % 256 := by
  rw [BitVec.extractLsb'_toNat, Nat.shiftRight_eq_div_pow]

def keptTime (t : BitVec 64) : Nat × Nat := (t.toNat % 2 ^ 52, t.toNat / 2 ^ 56)

def keptCounter (c : BitVec 64) : Nat × Nat := (c.toNat % 64, c.toNat / 256)

theorem mod_two_pow_add_eq_iff (x y a b : Nat) :
    x % 2 ^ (a + b) = y % 2 ^ (a + b) ↔
      x % 2 ^ a = y % 2 ^ a ∧ x / 2 ^ a % 2 ^ b = y / 2 ^ a % 2 ^ b := by
  have hpos : 0 < 2 ^ a := Nat.two_pow_pos a
  rw [Nat.pow_add, Nat.mod_mul, Nat.mod_mul]
  constructor
  · intro h
    have hlow : x % 2 ^ a = y % 2 ^ a := by
      have hmod := congrArg (· % 2 ^ a) h
      simpa only [Nat.add_mul_mod_self_left, Nat.mod_mod] using hmod
    rw [hlow] at h
    exact ⟨hlow, Nat.eq_of_mul_eq_mul_left hpos (Nat.add_left_cancel h)⟩
  · rintro ⟨hlow, hhigh⟩
    rw [hlow, hhigh]

theorem mod_bytes_eq_iff (x y n : Nat) :
    x % 2 ^ (8 * n) = y % 2 ^ (8 * n) ↔
      ∀ k < n, x / 2 ^ (8 * k) % 256 = y / 2 ^ (8 * k) % 256 := by
  induction n with
  | zero =>
    rw [Nat.mul_zero, Nat.pow_zero, Nat.mod_one, Nat.mod_one]
    exact iff_of_true rfl fun k hk => absurd hk (Nat.not_lt_zero k)
  | succ n ih =>
    have hsplit : x % 2 ^ (8 * (n + 1)) = y % 2 ^ (8 * (n + 1)) ↔
        x % 2 ^ (8 * n) = y % 2 ^ (8 * n) ∧ x / 2 ^ (8 * n) % 256 = y / 2 ^ (8 * n) % 256 :=
      mod_two_pow_add_eq_iff x y (8 * n) 8
    rw [hsplit, ih]
    exact Nat.forall_lt_succ_right.symm

theorem div_byte_succ (x k : Nat) : x / 256 / 2 ^ (8 * k) = x / 2 ^ (8 * (k + 1)) := by
  rw [Nat.div_div_eq_div_mul, Nat.mul_succ, Nat.pow_add, Nat.mul_comm]

theorem modify_bytesOf_eq_iff {f : BitVec 8 → BitVec 8} {i : Nat} (x y : BitVec 64)
    (hmodify : ∀ x, (bytesOf x).modify i f = (List.range 8).map fun k =>
      if k = i then f (x.extractLsb' (8 * k) 8) else x.extractLsb' (8 * k) 8) :
    (bytesOf x).modify i f = (bytesOf y).modify i f ↔ ∀ k < 8,
      if k = i then (f (x.extractLsb' (8 * k) 8)).toNat = (f (y.extractLsb' (8 * k) 8)).toNat
      else x.toNat / 2 ^ (8 * k) % 256 = y.toNat / 2 ^ (8 * k) % 256 := by
  rw [hmodify, hmodify, List.map_inj_left]
  refine forall_congr' fun k => imp_congr List.mem_range ?_
  by_cases hk : k = i
  · rw [if_pos hk, if_pos hk, if_pos hk, BitVec.toNat_inj]
  · rw [if_neg hk, if_neg hk, if_neg hk, ← BitVec.toNat_inj, byte_toNat, byte_toNat]

theorem stamped_time_eq_iff (t t' : BitVec 64) :
    (bytesOf t).modify 6 stampVersion = (bytesOf t').modify 6 stampVersion ↔
      keptTime t = keptTime t' := by
  have hlt := t.isLt
  have hlt' := t'.isLt
  have hlow : t.toNat % 2 ^ 52 = t'.toNat % 2 ^ 52 ↔
      (∀ k < 6, t.toNat / 2 ^ (8 * k) % 256 = t'.toNat / 2 ^ (8 * k) % 256) ∧
        t.toNat / 2 ^ (8 * 6) % 16 = t'.toNat / 2 ^ (8 * 6) % 16 := by
    rw [← mod_bytes_eq_iff]
    exact mod_two_pow_add_eq_iff _ _ 48 4
  have hhigh : t.toNat / 2 ^ 56 = t'.toNat / 2 ^ 56 ↔
      t.toNat / 2 ^ (8 * 7) % 256 = t'.toNat / 2 ^ (8 * 7) % 256 := by
    omega
  have hstamp : (stampVersion (t.extractLsb' (8 * 6) 8)).toNat =
      (stampVersion (t'.extractLsb' (8 * 6) 8)).toNat ↔
        t.toNat / 2 ^ (8 * 6) % 16 = t'.toNat / 2 ^ (8 * 6) % 16 := by
    rw [stampVersion_toNat, stampVersion_toNat, byte_toNat, byte_toNat]
    omega
  rw [modify_bytesOf_eq_iff t t' fun _ => rfl, keptTime, keptTime, Prod.mk.injEq, hlow, hhigh]
  constructor
  · intro h
    refine ⟨⟨fun k hk => ?_, hstamp.mp (h 6 (by decide))⟩, h 7 (by decide)⟩
    have hbyte := h k (Nat.lt_of_lt_of_le hk (by decide))
    rwa [if_neg (Nat.ne_of_lt hk)] at hbyte
  · rintro ⟨⟨hbytes, hmasked⟩, htop⟩ k hk
    rcases Nat.lt_trichotomy k 6 with h6 | rfl | h6
    · rw [if_neg (Nat.ne_of_lt h6)]
      exact hbytes k h6
    · exact hstamp.mpr hmasked
    · rw [if_neg (Nat.ne_of_gt h6), Nat.le_antisymm (Nat.le_of_lt_succ hk) h6]
      exact htop

theorem stamped_counter_eq_iff (c c' : BitVec 64) :
    (bytesOf c).modify 0 stampVariant = (bytesOf c').modify 0 stampVariant ↔
      keptCounter c = keptCounter c' := by
  have hlt := c.isLt
  have hlt' := c'.isLt
  have hhigh : c.toNat / 256 = c'.toNat / 256 ↔
      ∀ k < 7, c.toNat / 2 ^ (8 * (k + 1)) % 256 = c'.toNat / 2 ^ (8 * (k + 1)) % 256 := by
    simp only [← div_byte_succ]
    rw [← mod_bytes_eq_iff]
    omega
  have hstamp : (stampVariant (c.extractLsb' (8 * 0) 8)).toNat =
      (stampVariant (c'.extractLsb' (8 * 0) 8)).toNat ↔ c.toNat % 64 = c'.toNat % 64 := by
    rw [stampVariant_toNat, stampVariant_toNat, byte_toNat, byte_toNat]
    omega
  rw [modify_bytesOf_eq_iff c c' fun _ => rfl, keptCounter, keptCounter, Prod.mk.injEq, hhigh]
  constructor
  · intro h
    exact ⟨hstamp.mp (h 0 (by decide)), fun k hk => h (k + 1) (Nat.succ_lt_succ hk)⟩
  · rintro ⟨hmasked, hbytes⟩ k hk
    cases k with
    | zero => exact hstamp.mpr hmasked
    | succ k => exact hbytes k (Nat.lt_of_succ_lt_succ hk)

theorem stamped_eq_iff (t t' c c' : BitVec 64) :
    stamped (bytesOf t ++ bytesOf c) = stamped (bytesOf t' ++ bytesOf c') ↔
      keptTime t = keptTime t' ∧ keptCounter c = keptCounter c' := by
  have hsplit : ∀ t c : BitVec 64, stamped (bytesOf t ++ bytesOf c) =
      (bytesOf t).modify 6 stampVersion ++ (bytesOf c).modify 0 stampVariant := fun _ _ => rfl
  rw [hsplit, hsplit, ← stamped_time_eq_iff, ← stamped_counter_eq_iff]
  refine ⟨fun h => List.append_inj h rfl, fun h => ?_⟩
  rw [h.1, h.2]

theorem keptCounter_eq_iff {i j : Nat} (hij : i < j) (hj : j < i + 2 ^ 32) :
    keptCounter (BitVec.ofNat 64 i) = keptCounter (BitVec.ofNat 64 j) ↔
      i / 256 = j / 256 ∧ i % 64 = j % 64 := by
  simp only [keptCounter, BitVec.toNat_ofNat, Prod.mk.injEq]
  omega

theorem fallbackUuid_eq_iff (clock : Nat → BitVec 64) {i j : Nat} (hij : i < j)
    (hj : j < i + 2 ^ 32) : fallbackUuid clock i = fallbackUuid clock j ↔
      keptTime (clock i) = keptTime (clock j) ∧ i / 256 = j / 256 ∧ i % 64 = j % 64 := by
  have hstring : ∀ n, fallbackUuid clock n =
      uuidString (stamped (bytesOf (clock n) ++ bytesOf (BitVec.ofNat 64 n))) := by
    intro n
    rw [← counterBefore_eq clock n]
    rfl
  rw [hstring, hstring, ← keptCounter_eq_iff hij hj, ← stamped_eq_iff]
  exact ⟨uuidString_inj, fun h => by rw [h]⟩

/-! ### Collisions -/

def uuidKey (s : String) : Nat :=
  s.toList.foldr (fun ch n => ch.toNat + 1 + (2 ^ 32 + 1) * n) 0

theorem uuidKey_inj {s s' : String} (h : uuidKey s = uuidKey s') : s = s' := by
  have hlist : ∀ l l' : List Char,
      l.foldr (fun ch n => ch.toNat + 1 + (2 ^ 32 + 1) * n) 0 =
        l'.foldr (fun ch n => ch.toNat + 1 + (2 ^ 32 + 1) * n) 0 → l = l' := by
    intro l
    induction l with
    | nil =>
      intro l' h
      cases l' with
      | nil => rfl
      | cons ch' l' =>
        rw [List.foldr_cons, List.foldr_nil] at h
        omega
    | cons ch l ih =>
      intro l' h
      cases l' with
      | nil =>
        rw [List.foldr_cons, List.foldr_nil] at h
        omega
      | cons ch' l' =>
        rw [List.foldr_cons, List.foldr_cons] at h
        have hlt : ch.toNat < 2 ^ 32 := ch.val.toNat_lt
        have hlt' : ch'.toNat < 2 ^ 32 := ch'.val.toNat_lt
        have hch : ch.toNat = ch'.toNat := by omega
        rw [Char.toNat_inj.mp hch, ih l' (by omega)]
  exact String.toList_injective (hlist _ _ h)

def DistinctUuids (clock : Nat → BitVec 64) : Prop :=
  ∀ i j, i < j → j < i + 2 ^ 32 → fallbackUuid clock i ≠ fallbackUuid clock j

def NoCollisions (clock : Nat → BitVec 64) : Prop :=
  ∀ (w : World) (g c j : Nat), (w.conn c).connectionGroup = none →
    (w.conn c).uuid = uuidKey (fallbackUuid clock j) →
    (∀ e ∈ (w.group g).connections, ∃ i, i ≠ j ∧ i < j + 2 ^ 32 ∧ j < i + 2 ^ 32 ∧
      e.1 = uuidKey (fallbackUuid clock i)) →
    (w.groupAddConnectionResult g c).2 ≠ World.eexist

theorem DistinctUuids.noCollisions {clock : Nat → BitVec 64} (h : DistinctUuids clock) :
    NoCollisions clock := by
  intro w g c j hnone huuid hmembers hrc
  have hmember := ((World.groupAddConnectionResult_eq_eexist_iff w g c).mp hrc).resolve_left
    (not_not.mpr hnone)
  obtain ⟨d, hd⟩ := Option.ne_none_iff_exists'.mp hmember
  obtain ⟨i, hne, hi, hj, hkey⟩ := hmembers _ (World.mem_of_lookup hd)
  have hsame : fallbackUuid clock j = fallbackUuid clock i := uuidKey_inj (huuid.symm.trans hkey)
  rcases Nat.lt_or_gt_of_ne hne with hlt | hlt
  · exact h i j hlt hj hsame.symm
  · exact h j i hlt hi hsame

/-- The fallback uuids are distinct, and connections never collide in a table, if and only if no two
calls of one block of 256 whose numbers agree modulo 64 are at times that agree but for bits 52 to
55. -/
theorem fallbackUuids_distinct_iff (clock : Nat → BitVec 64) :
    (DistinctUuids clock ∧ NoCollisions clock) ↔
      ∀ i j, i < j → i / 256 = j / 256 → i % 64 = j % 64 →
        keptTime (clock i) ≠ keptTime (clock j) := by
  constructor
  · intro h i j hij hblock hmod htime
    have hj : j < i + 2 ^ 32 := by omega
    exact h.1 i j hij hj ((fallbackUuid_eq_iff clock hij hj).mpr ⟨htime, hblock, hmod⟩)
  · intro h
    have hdistinct : DistinctUuids clock := by
      intro i j hij hj heq
      obtain ⟨htime, hblock, hmod⟩ := (fallbackUuid_eq_iff clock hij hj).mp heq
      exact h i j hij hblock hmod htime
    exact ⟨hdistinct, hdistinct.noCollisions⟩

def oneSecond : Nat → BitVec 64 := fun _ => 1700000000#64

/-- The uuids of the first call and of the one with number 64 are the same, and a group with the
connection of the first refuses the connection of the other. -/
theorem fallbackUuids_distinct_fails :
    (∀ i j, i ≤ j → oneSecond i ≤ oneSecond j) ∧
      fallbackUuid oneSecond 0 = fallbackUuid oneSecond 64 ∧
      (((World.createClient {} .tcp (uuidKey (fallbackUuid oneSecond 0)) 0).addConn
        { uuid := uuidKey (fallbackUuid oneSecond 64) }).groupAddConnectionResult 0 1).2 =
          World.eexist := by
  have hsame : fallbackUuid oneSecond 0 = fallbackUuid oneSecond 64 :=
    (fallbackUuid_eq_iff oneSecond (by decide) (by decide)).mpr ⟨rfl, rfl, rfl⟩
  refine ⟨fun _ _ _ => Nat.le_refl _, hsame, ?_⟩
  rw [← hsame, World.groupAddConnectionResult_eq_eexist_iff]
  right
  generalize uuidKey (fallbackUuid oneSecond 0) = u
  unfold World.memberAt
  simp [World.createClient, World.groupAddConnection, World.socketManagerAddConnection]

end CTaps.Lifetimes
