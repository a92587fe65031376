import CTaps.Lib.Machine

/-! Two event-driven machines of which the first sets the second going. Their events come in any
order; those of the second have no effect before it is started. A run is a run of the first on its
own events, and from the handover on a run of the second on those of its own that are still to come.
-/

namespace CTaps.Lib

variable {σ τ δ ε : Type*}

structure Handover (σ τ δ ε : Type*) where
  first : σ → δ → σ
  second : τ → ε → τ
  start : σ → δ → Option τ

namespace Handover

variable (H : Handover σ τ δ ε)

def step (s : σ × Option τ) : δ ⊕ ε → σ × Option τ
  | .inl d => (H.first s.1 d, s.2.or (H.start (H.first s.1 d) d))
  | .inr e => (s.1, s.2.map (H.second · e))

def lefts (es : List (δ ⊕ ε)) : List δ := es.filterMap Sum.getLeft?

def rights (es : List (δ ⊕ ε)) : List ε := es.filterMap Sum.getRight?

variable {H} {s : σ × Option τ} {t : τ} {es : List (δ ⊕ ε)}

theorem run_fst (s : σ × Option τ) (es : List (δ ⊕ ε)) :
    (run H.step s es).1 = run H.first s.1 (lefts es) := by
  induction es generalizing s with
  | nil => rfl
  | cons e es ih =>
    rw [run_cons, ih]
    cases e with
    | inl d => rfl
    | inr e => rfl

theorem run_snd_of_some (hs : s.2 = some t) :
    (run H.step s es).2 = some (run H.second t (rights es)) := by
  induction es generalizing s t with
  | nil => exact hs
  | cons e es ih =>
    rw [run_cons]
    cases e with
    | inl d =>
      apply ih
      rw [step, hs]
      rfl
    | inr e =>
      apply ih
      rw [step, hs]
      rfl

theorem exists_start (hs : s.2 = none) (ht : (run H.step s es).2 = some t) :
    ∃ pre d post t₀, es = pre ++ .inl d :: post ∧ (run H.step s pre).2 = none ∧
      H.start (run H.first s.1 (lefts pre ++ [d])) d = some t₀ ∧
      t = run H.second t₀ (rights post) := by
  induction es generalizing s with
  | nil =>
    rw [run_nil, hs] at ht
    cases ht
  | cons e es ih =>
    rw [run_cons] at ht
    cases e with
    | inl d =>
      cases hstart : H.start (H.first s.1 d) d with
      | some t₀ =>
        have hstep : (H.step s (.inl d)).2 = some t₀ := by
          rw [step, hs]
          exact hstart
        rw [run_snd_of_some hstep] at ht
        exact ⟨[], d, es, t₀, rfl, hs, hstart, (Option.some.inj ht).symm⟩
      | none =>
        have hstep : (H.step s (.inl d)).2 = none := by
          rw [step, hs]
          exact hstart
        obtain ⟨pre, d', post, t₀, rfl, hpre, ht₀, hrun⟩ := ih hstep ht
        exact ⟨.inl d :: pre, d', post, t₀, rfl, hpre, ht₀, hrun⟩
    | inr e =>
      have hstep : (H.step s (.inr e)).2 = none := by
        rw [step, hs]
        rfl
      obtain ⟨pre, d', post, t₀, rfl, hpre, ht₀, hrun⟩ := ih hstep ht
      exact ⟨.inr e :: pre, d', post, t₀, rfl, hpre, ht₀, hrun⟩

theorem allSteps_second {p : σ × Option τ → δ ⊕ ε → Prop} {q : τ → ε → Prop}
    (hpq : ∀ a t e, p (a, some t) (.inr e) → q t e) (hs : s.2 = some t)
    (hes : AllSteps H.step p s es) : AllSteps H.second q t (rights es) := by
  induction es generalizing s t with
  | nil => exact trivial
  | cons e es ih =>
    obtain ⟨a, o⟩ := s
    cases hs
    cases e with
    | inl d => exact ih rfl hes.2
    | inr e => exact ⟨hpq a t e hes.1, ih rfl hes.2⟩

end Handover

end CTaps.Lib
