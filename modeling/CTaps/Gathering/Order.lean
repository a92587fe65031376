import CTaps.Gathering.Candidate
import CTaps.Lib.StableSort
import Mathlib.Data.Prod.Lex
import Mathlib.Tactic.Ring

/-! The comparison of two candidates adds up differences over all properties.
The sums are differences of two scores that each candidate has on its own, so the
candidates are sorted by score: first by the preferred properties their protocol
can provide, then by the avoided ones it can do without. -/

namespace CTaps.Gathering

open Lib

/-! ### Scores -/

section Scores

variable (desired : SelectionProperties)

def preferScore (protocol : Protocol) : Nat :=
  SelectionProperty.all.countP fun i =>
    desired i = .preference .prefer ∧ protocol.simplePreference i ≠ .prohibit

def avoidScore (protocol : Protocol) : Nat :=
  SelectionProperty.all.countP fun i =>
    desired i = .preference .avoid ∧ protocol.simplePreference i ≠ .require

def CandidateNode.score (node : CandidateNode) : ℕ ×ₗ ℕ :=
  node.protocolCandidate.elim (toLex (0, 0)) fun c =>
    toLex (preferScore desired c.protocolImpl, avoidScore desired c.protocolImpl)

variable {desired}

theorem CandidateNode.score_of_some {node : CandidateNode} {c : ProtocolCandidate}
    (h : node.protocolCandidate = some c) :
    node.score desired
      = toLex (preferScore desired c.protocolImpl, avoidScore desired c.protocolImpl) := by
  rw [score, h]
  rfl

end Scores

/-! ### The comparison -/

section Compare

variable {desired : SelectionProperties}

def scoreStep (desired : SelectionProperties) (a b : Protocol) (sums : Int × Int)
    (i : SelectionProperty) : Int × Int :=
  (sums.1 + (if desired i = .preference .prefer ∧ a.simplePreference i ≠ .prohibit then 1 else 0)
      - (if desired i = .preference .prefer ∧ b.simplePreference i ≠ .prohibit then 1 else 0),
    sums.2 + (if desired i = .preference .avoid ∧ a.simplePreference i ≠ .require then 1 else 0)
      - (if desired i = .preference .avoid ∧ b.simplePreference i ≠ .require then 1 else 0))

theorem scoreAgainst_eq_foldl (a b : Protocol) :
    scoreAgainst desired a b = SelectionProperty.all.foldl (scoreStep desired a b) (0, 0) := by
  rw [scoreAgainst]
  congr 1
  funext sums i
  rw [scoreStep]
  rcases hi : desired i with preference | combinations | value
  · cases preference <;> simp
  · simp
  · simp

theorem foldl_scoreStep (a b : Protocol) (is : List SelectionProperty) (sums : Int × Int) :
    is.foldl (scoreStep desired a b) sums
      = (sums.1
          + (is.countP fun i =>
              desired i = .preference .prefer ∧ a.simplePreference i ≠ .prohibit : Nat)
          - (is.countP fun i =>
              desired i = .preference .prefer ∧ b.simplePreference i ≠ .prohibit : Nat),
        sums.2
          + (is.countP fun i =>
              desired i = .preference .avoid ∧ a.simplePreference i ≠ .require : Nat)
          - (is.countP fun i =>
              desired i = .preference .avoid ∧ b.simplePreference i ≠ .require : Nat)) := by
  induction is generalizing sums with
  | nil => simp
  | cons i is ih =>
    rw [List.foldl_cons, ih, scoreStep]
    simp only [List.countP_cons, decide_eq_true_eq, Nat.cast_add, Nat.cast_ite, Nat.cast_one,
      Nat.cast_zero]
    ext
    · ring
    · ring

theorem scoreAgainst_eq (a b : Protocol) :
    scoreAgainst desired a b
      = ((preferScore desired a : Int) - preferScore desired b,
        (avoidScore desired a : Int) - avoidScore desired b) := by
  rw [scoreAgainst_eq_foldl, foldl_scoreStep, Int.zero_add, Int.zero_add]
  rfl

variable {a b : CandidateNode} {p q : ProtocolCandidate}

theorem comparePreferAndAvoidPreferences_eq (hp : a.protocolCandidate = some p)
    (hq : b.protocolCandidate = some q) :
    comparePreferAndAvoidPreferences desired a b
      = if preferScore desired p.protocolImpl = preferScore desired q.protocolImpl then
          (avoidScore desired q.protocolImpl : Int) - avoidScore desired p.protocolImpl
        else (preferScore desired q.protocolImpl : Int) - preferScore desired p.protocolImpl := by
  rw [comparePreferAndAvoidPreferences, hp, hq]
  dsimp only
  rw [scoreAgainst_eq]
  dsimp only
  split_ifs with h h' h' <;> omega

theorem comparePreferAndAvoidPreferences_neg (hp : a.protocolCandidate = some p)
    (hq : b.protocolCandidate = some q) :
    comparePreferAndAvoidPreferences desired b a
      = -comparePreferAndAvoidPreferences desired a b := by
  rw [comparePreferAndAvoidPreferences_eq hp hq, comparePreferAndAvoidPreferences_eq hq hp]
  split_ifs <;> omega

theorem comparePreferAndAvoidPreferences_nonpos (hp : a.protocolCandidate = some p)
    (hq : b.protocolCandidate = some q) :
    comparePreferAndAvoidPreferences desired a b ≤ 0 ↔ b.score desired ≤ a.score desired := by
  rw [comparePreferAndAvoidPreferences_eq hp hq, CandidateNode.score_of_some hp,
    CandidateNode.score_of_some hq, Prod.Lex.toLex_le_toLex]
  dsimp only
  split_ifs with h <;> omega

theorem sortCandidates_eq_byKey {candidates : List CandidateNode}
    (h : ∀ c ∈ candidates, c.protocolCandidate.isSome = true) :
    sortCandidates desired candidates = byKey (CandidateNode.score desired) candidates := by
  apply insertionSort_eq_byKey
  intro a ha b hb
  obtain ⟨p, hp⟩ := Option.isSome_iff_exists.mp (h a ha)
  obtain ⟨q, hq⟩ := Option.isSome_iff_exists.mp (h b hb)
  exact comparePreferAndAvoidPreferences_nonpos hp hq

end Compare

end CTaps.Gathering
