import CTaps.Lib.Machine

/-! Loops that work at one place after the other. An operation that changes one place only, and
there does the same in states that are the same there, can be looked at alone: after a loop over
elements with places of their own, each place is as if nothing but its own turn had been taken. -/

namespace CTaps.Lib

variable {σ α π : Type*}

structure Placewise (I : σ → Prop) (Same : π → σ → σ → Prop) (place : α → π) (op : σ → α → σ) :
    Prop where
  equiv : ∀ p, Equivalence (Same p)
  keep : ∀ s a, I s → I (op s a)
  frame : ∀ s a p, I s → p ≠ place a → Same p s (op s a)
  turn : ∀ s t a, I s → I t → Same (place a) s t → Same (place a) (op s a) (op t a)

namespace Placewise

variable {I : σ → Prop} {Same : π → σ → σ → Prop} {place : α → π} {op : σ → α → σ}

theorem foldl_keep (h : Placewise I Same place op) {s : σ} (hs : I s) (l : List α) :
    I (l.foldl op s) :=
  foldl_invariant (fun t a _ ht => h.keep t a ht) hs

theorem foldl_frame (h : Placewise I Same place op) {s : σ} (hs : I s) {l : List α} {p : π}
    (hp : p ∉ l.map place) : Same p s (l.foldl op s) := by
  induction l generalizing s with
  | nil => exact (h.equiv p).refl s
  | cons a l ih =>
    rw [List.map_cons, List.mem_cons, not_or] at hp
    exact (h.equiv p).trans (h.frame s a p hs hp.1) (ih (h.keep s a hs) hp.2)

theorem foldl_turn (h : Placewise I Same place op) {s : σ} (hs : I s) {l : List α}
    (hl : (l.map place).Nodup) {a : α} (ha : a ∈ l) : Same (place a) (op s a) (l.foldl op s) := by
  induction l generalizing s with
  | nil => exact (List.not_mem_nil ha).elim
  | cons b l ih =>
    rw [List.map_cons, List.nodup_cons] at hl
    rw [List.foldl_cons]
    rcases List.mem_cons.mp ha with rfl | ha
    · exact h.foldl_frame (h.keep s a hs) hl.1
    · have hne : place a ≠ place b := fun heq => hl.1 (heq ▸ List.mem_map_of_mem ha)
      have hturn := h.turn s (op s b) a hs (h.keep s b hs) (h.frame s b _ hs hne)
      exact (h.equiv _).trans hturn (ih (h.keep s b hs) hl.2 ha)

end Placewise

end CTaps.Lib
