import Mathlib.Data.List.Basic

/-! Runs of a deterministic event-driven machine. A guarded run is one whose
every step meets a condition on the state before the step and on the event; an
invariant that holds under the guard holds in every state such a run reaches. -/

namespace CTaps.Lib

variable {σ ε : Type*}

def run (step : σ → ε → σ) : σ → List ε → σ
  | s, [] => s
  | s, e :: es => run step (step s e) es

def AllSteps (step : σ → ε → σ) (p : σ → ε → Prop) : σ → List ε → Prop
  | _, [] => True
  | s, e :: es => p s e ∧ AllSteps step p (step s e) es

def sumSteps (step : σ → ε → σ) (f : σ → ε → Nat) : σ → List ε → Nat
  | _, [] => 0
  | s, e :: es => f s e + sumSteps step f (step s e) es

variable {step : σ → ε → σ}

@[simp] theorem run_nil (s : σ) : run step s [] = s := rfl

@[simp] theorem run_cons (s : σ) (e : ε) (es : List ε) :
    run step s (e :: es) = run step (step s e) es := rfl

theorem run_append (s : σ) (es fs : List ε) :
    run step s (es ++ fs) = run step (run step s es) fs := by
  induction es generalizing s with
  | nil => rfl
  | cons e es ih => exact ih (step s e)

theorem run_project {τ : Type*} {next : τ → ε → τ} (π : σ → τ)
    (hstep : ∀ s e, π (step s e) = next (π s) e) (s : σ) (es : List ε) :
    π (run step s es) = run next (π s) es := by
  induction es generalizing s with
  | nil => rfl
  | cons e es ih => rw [run_cons, run_cons, ih, hstep]

instance AllSteps.decidable (p : σ → ε → Prop) [∀ s e, Decidable (p s e)] (s : σ)
    (es : List ε) : Decidable (AllSteps step p s es) := by
  induction es generalizing s with
  | nil => exact isTrue trivial
  | cons e es ih => exact @instDecidableAnd _ _ _ (ih (step s e))

theorem run_invariant {p : σ → ε → Prop} {I : σ → Prop}
    (hstep : ∀ s e, I s → p s e → I (step s e)) {s : σ} (hs : I s) {es : List ε}
    (hes : AllSteps step p s es) : I (run step s es) := by
  induction es generalizing s with
  | nil => exact hs
  | cons e es ih => exact ih (hstep s e hs hes.1) hes.2

theorem allSteps_append {p : σ → ε → Prop} {s : σ} {es fs : List ε} :
    AllSteps step p s (es ++ fs) ↔ AllSteps step p s es ∧ AllSteps step p (run step s es) fs := by
  induction es generalizing s with
  | nil => exact (and_iff_right trivial).symm
  | cons e es ih => exact (and_congr_right fun _ => ih).trans and_assoc.symm

theorem AllSteps.and_mem {p : σ → ε → Prop} {s : σ} {es : List ε} (h : AllSteps step p s es) :
    AllSteps step (fun s e => p s e ∧ e ∈ es) s es := by
  have hsub : ∀ (fs : List ε) (t : σ), AllSteps step p t fs → (∀ e ∈ fs, e ∈ es) →
      AllSteps step (fun s e => p s e ∧ e ∈ es) t fs := by
    intro fs
    induction fs with
    | nil => exact fun _ _ _ => trivial
    | cons f fs ih =>
      intro t ht hfs
      refine ⟨⟨ht.1, hfs f List.mem_cons_self⟩, ?_⟩
      exact ih _ ht.2 fun e he => hfs e (List.mem_cons_of_mem _ he)
  exact hsub es s h fun _ he => he

theorem foldl_invariant {α : Type*} {f : σ → α → σ} {I : σ → Prop} {l : List α}
    (hf : ∀ s, ∀ a ∈ l, I s → I (f s a)) {s : σ} (hs : I s) : I (l.foldl f s) := by
  induction l generalizing s with
  | nil => exact hs
  | cons a l ih =>
    refine ih (fun t b hb => hf t b (List.mem_cons_of_mem _ hb)) ?_
    exact hf s a List.mem_cons_self hs

theorem foldl_eq_self {α : Type*} {f : σ → α → σ} {s : σ} {l : List α} (h : ∀ a ∈ l, f s a = s) :
    l.foldl f s = s :=
  foldl_invariant (I := fun t => t = s) (fun t a ha ht => by rw [ht, h a ha]) rfl

theorem foldl_eq_run {α : Type*} (f : σ → α → σ) (s : σ) (l : List α) : l.foldl f s = run f s l := by
  induction l generalizing s with
  | nil => rfl
  | cons a l ih => exact ih (f s a)

theorem foldl_keeps {α β : Type*} {f : σ → α → σ} (π : σ → β) (hf : ∀ s a, π (f s a) = π s) (s : σ)
    (l : List α) : π (l.foldl f s) = π s := by
  induction l generalizing s with
  | nil => rfl
  | cons a l ih => rw [List.foldl_cons, ih, hf]

theorem run_invariant_of_step {I : σ → Prop}
    (hstep : ∀ s e, I s → I (step s e)) {s : σ} (hs : I s) (es : List ε) :
    I (run step s es) := by
  induction es generalizing s with
  | nil => exact hs
  | cons e es ih => exact ih (hstep s e hs)

theorem run_history {p : ε → Prop} {I : List ε → σ → Prop}
    (hstep : ∀ es s e, I es s → p e → I (es ++ [e]) (step s e)) {s : σ} (hs : I [] s) {es : List ε}
    (hes : ∀ e ∈ es, p e) : I es (run step s es) := by
  have hrun : ∀ (fs : List ε) (t : σ), I fs t → I (fs ++ es) (run step t es) := by
    induction es with
    | nil =>
      intro fs t ht
      rw [List.append_nil]
      exact ht
    | cons e es ih =>
      intro fs t ht
      have hnext := hstep fs t e ht (hes e List.mem_cons_self)
      have htail := ih (fun f hf => hes f (List.mem_cons_of_mem _ hf)) _ _ hnext
      rw [List.append_assoc] at htail
      exact htail
  exact hrun [] s hs

theorem run_eq_add_sumSteps {q : σ → Nat} {f : σ → ε → Nat}
    (hstep : ∀ s e, q (step s e) = q s + f s e) (s : σ) (es : List ε) :
    q (run step s es) = q s + sumSteps step f s es := by
  induction es generalizing s with
  | nil => rfl
  | cons e es ih => rw [run_cons, ih, hstep, sumSteps, Nat.add_assoc]

theorem sumSteps_eq_zero_iff {f : σ → ε → Nat} {s : σ} {es : List ε} :
    sumSteps step f s es = 0 ↔ AllSteps step (fun s e => f s e = 0) s es := by
  induction es generalizing s with
  | nil => exact iff_of_true rfl trivial
  | cons e es ih => rw [sumSteps, AllSteps, Nat.add_eq_zero_iff, ih]

theorem not_allSteps {p : σ → ε → Prop} {s : σ} {es : List ε}
    (h : ¬ AllSteps step p s es) :
    ∃ pre e post, es = pre ++ e :: post ∧ AllSteps step p s pre ∧ ¬ p (run step s pre) e := by
  induction es generalizing s with
  | nil => exact absurd trivial h
  | cons e es ih =>
    by_cases he : p s e
    · obtain ⟨pre, f, post, rfl, hpre, hf⟩ := ih (s := step s e) (fun ht => h ⟨he, ht⟩)
      exact ⟨e :: pre, f, post, rfl, ⟨he, hpre⟩, hf⟩
    · exact ⟨[], e, es, rfl, trivial, he⟩

theorem run_filter {p : σ → ε → Prop} {R : σ → σ → Prop} (visible : ε → Bool)
    (hvisible : ∀ s t e, R s t → visible e = true → R (step s e) (step t e))
    (hhidden : ∀ s t e, R s t → visible e = false → p s e → R (step s e) t) {s t : σ}
    (h : R s t) {es : List ε} (hes : AllSteps step p s es) :
    R (run step s es) (run step t (es.filter visible)) := by
  induction es generalizing s t with
  | nil => exact h
  | cons e es ih =>
    cases he : visible e with
    | true =>
      rw [List.filter_cons_of_pos he]
      exact ih (hvisible s t e h he) hes.2
    | false =>
      rw [List.filter_cons_of_neg (by simp [he])]
      exact ih (hhidden s t e h he hes.1) hes.2

/-! ### Components that are functions -/

theorem update_keeps {α β γ : Type*} [DecidableEq α] (π : β → γ) {f : α → β} {a : α} {x : β}
    (h : π x = π (f a)) (b : α) : π (Function.update f a x b) = π (f b) := by
  by_cases hb : b = a
  · subst hb
    simpa using h
  · simp [hb]

end CTaps.Lib
