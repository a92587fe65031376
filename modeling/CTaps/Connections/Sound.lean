import CTaps.Connections.Placed

/-! What the history of one connection should look like: states are entered in their order, no ready
callback follows the closed state, and there is at most one terminal callback. The first is only
asked for under a hypothesis `o` and the last under a hypothesis `q`, so that one pass over the
machine serves runs in which only one of them holds. -/

namespace CTaps.Connections

/-! ### One connection -/

def Follows : (earlier later : Happening) → Prop
  | .entered s, .entered s' => s.rank ≤ s'.rank
  | .entered s, .called k => s = .closed → k ≠ .ready
  | .entered s, .raced k => s = .closed → k ≠ .ready
  | _, _ => True

instance (a b : Happening) : Decidable (Follows a b) := by
  rcases a with ⟨⟩ <;> rcases b with ⟨⟩ <;> dsimp only [Follows] <;> infer_instance

def Happening.isTerminalCall : Happening → Bool
  | .called k => k.isTerminal
  | _ => false

namespace Connection

def terminalCalls (x : Connection) : Nat := x.history.countP Happening.isTerminalCall

def Forward (x : Connection) : Prop := x.history.Pairwise fun later earlier => Follows earlier later
deriving Decidable

structure Sound (o q : Prop) (x : Connection) : Prop where
  forward : o → x.Forward
  reached : o → ∀ s, .entered s ∈ x.history → s.rank ≤ x.state.rank
  once : q → x.terminalCalls ≤ if x.state = .closed then 1 else 0

structure MayEnter (o q : Prop) (st s : ConnState) : Prop where
  forward : o → st.rank ≤ s.rank
  stays : q → st = .closed → s = .closed

variable {o q : Prop} {x y : Connection}

theorem rank_le_closed (s : ConnState) : s.rank ≤ ConnState.closed.rank := by
  cases s <;> decide

theorem eq_closed_of_rank_le {s : ConnState} (h : ConnState.closed.rank ≤ s.rank) : s = .closed := by
  cases s <;> first | rfl | exact absurd h (by decide)

theorem MayEnter.of_rank_le {st s : ConnState} (h : st.rank ≤ s.rank) : MayEnter o q st s := by
  refine ⟨fun _ => h, fun _ hst => ?_⟩
  subst hst
  exact eq_closed_of_rank_le h

theorem mayEnter_closed (st : ConnState) : MayEnter o q st .closed :=
  MayEnter.of_rank_le (rank_le_closed st)

theorem mayEnter_of_establishing (s : ConnState) : MayEnter o q .establishing s :=
  MayEnter.of_rank_le (Nat.zero_le _)

theorem Sound.fresh (hh : x.history = []) : Sound o q x := by
  refine ⟨fun _ => ?_, fun _ => ?_, fun _ => ?_⟩
  · simp [Forward, hh]
  · simp [hh]
  · simp [terminalCalls, hh]

theorem Sound.silent (h : Sound o q x) (hs : y.state = x.state) (hh : y.history = x.history) :
    Sound o q y := by
  refine ⟨fun ho => ?_, fun ho => ?_, fun hq => ?_⟩
  · unfold Forward
    rw [hh]
    exact h.forward ho
  · rw [hh, hs]
    exact h.reached ho
  · unfold terminalCalls
    rw [hh, hs]
    exact h.once hq

theorem terminalCalls_enter (x : Connection) (s : ConnState) :
    (x.enter s).terminalCalls = x.terminalCalls := by
  simp [terminalCalls, enter, Happening.isTerminalCall]

theorem Sound.enter (h : Sound o q x) {s : ConnState} (hs : MayEnter o q x.state s) :
    Sound o q (x.enter s) := by
  refine ⟨fun ho => List.pairwise_cons.mpr ⟨?_, h.forward ho⟩, fun ho => ?_, fun hq => ?_⟩
  · intro a ha
    cases a with
    | entered s' => exact Nat.le_trans (h.reached ho s' ha) (hs.forward ho)
    | called k => trivial
    | raced k => trivial
  · intro s' hs'
    rcases List.mem_cons.mp hs' with heq | hs'
    · cases heq
      exact Nat.le_refl _
    · exact Nat.le_trans (h.reached ho s' hs') (hs.forward ho)
  · have honce := h.once hq
    rw [terminalCalls_enter]
    by_cases hx : x.state = .closed
    · simpa [hx, Connection.enter, hs.stays hq hx] using honce
    · rw [if_neg hx] at honce
      exact Nat.le_trans honce (Nat.zero_le _)

theorem Sound.invoke (h : Sound o q x) {k : Callback} (hk : k = .ready → x.state ≠ .closed)
    (honce : q → (x.invoke k).terminalCalls ≤ if x.state = .closed then 1 else 0) :
    Sound o q (x.invoke k) := by
  have hcall : ∀ a ∈ x.callOf k, a = .called k ∨ a = .raced k := by
    unfold callOf
    intro a ha
    split at ha <;> split at ha <;> simp_all
  refine ⟨fun ho => List.pairwise_append.mpr ⟨?_, h.forward ho, ?_⟩, fun ho => ?_, honce⟩
  · unfold callOf
    split <;> split <;> simp
  · intro a ha b hb
    cases b with
    | entered s =>
      have hready : s = .closed → k ≠ .ready := by
        rintro rfl rfl
        exact hk rfl (eq_closed_of_rank_le (h.reached ho _ hb))
      rcases hcall a ha with rfl | rfl <;> exact hready
    | called k' => rcases hcall a ha with rfl | rfl <;> trivial
    | raced k' => rcases hcall a ha with rfl | rfl <;> trivial
  · intro s hs
    rcases List.mem_append.mp hs with hs | hs
    · rcases hcall _ hs with heq | heq <;> cases heq
    · exact h.reached ho s hs

theorem terminalCalls_invoke (x : Connection) (k : Callback) :
    (x.invoke k).terminalCalls = (x.callOf k).countP Happening.isTerminalCall + x.terminalCalls :=
  List.countP_append

theorem countP_callOf_le (x : Connection) (k : Callback) :
    (x.callOf k).countP Happening.isTerminalCall ≤ 1 := by
  refine Nat.le_trans List.countP_le_length ?_
  unfold callOf
  split <;> split <;> simp

theorem countP_callOf_eq_zero (x : Connection) {k : Callback}
    (h : k = .ready ∨ x.owner ≠ .application) :
    (x.callOf k).countP Happening.isTerminalCall = 0 := by
  unfold callOf
  split <;> split <;> simp_all [Happening.isTerminalCall, Callback.isTerminal]

theorem Sound.invoke_uncounted (h : Sound o q x) {k : Callback} (hk : k = .ready → x.state ≠ .closed)
    (hu : q → k = .ready ∨ x.owner ≠ .application) : Sound o q (x.invoke k) := by
  refine h.invoke hk fun hq => ?_
  rw [terminalCalls_invoke, countP_callOf_eq_zero x (hu hq), Nat.zero_add]
  exact h.once hq

theorem Sound.ready (h : Sound o q x) (hx : x.state ≠ .closed) : Sound o q (x.invoke .ready) :=
  h.invoke_uncounted (fun _ => hx) fun _ => Or.inl rfl

theorem Sound.terminate (h : Sound o q x) (hx : q → x.state ≠ .closed) (r : CloseReason) :
    Sound o q ((x.enter .closed).invoke r.callback) := by
  refine (h.enter (mayEnter_closed _)).invoke ?_ fun hq => ?_
  · cases r <;> exact fun hr => absurd hr (by decide)
  · have hnone : x.terminalCalls = 0 := by
      have honce := h.once hq
      rw [if_neg (hx hq)] at honce
      exact Nat.le_zero.mp honce
    rw [terminalCalls_invoke, terminalCalls_enter, hnone]
    exact countP_callOf_le _ _

theorem Sound.established (h : Sound o q x) (hx : MayEnter o q x.state .established) :
    Sound o q x.markAsEstablished :=
  (h.enter hx).silent rfl rfl

end Connection

end CTaps.Connections
