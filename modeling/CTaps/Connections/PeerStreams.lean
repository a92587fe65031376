import CTaps.Connections.Binding

/-! Who gets a stream that the peer opens. `resolve_or_create_stream_connection` takes the first
connection of the group's hash table if it has no stream yet, and a clone that the application has
made and not used has none. -/

namespace CTaps.Connections

open Gathering (Protocol)

structure Cloned where
  world : World
  clones : List Nat := []

namespace Cloned

def step (t : Cloned) (e : Event) : Cloned :=
  { world := t.world.step e
    clones :=
      match e with
      | .clone _ => if t.world.enabled e then t.world.numConns :: t.clones else t.clones
      | _ => t.clones }

def run (p : Protocol) (es : List Event) : Cloned := Lib.run step { world := { protocol := p } } es

theorem world_run (p : Protocol) (es : List Event) : (run p es).world = World.run p es :=
  Lib.run_project Cloned.world (fun _ _ => rfl) _ es

variable {t : Cloned}

structure Traced (t : Cloned) : Prop where
  quic : t.world.protocol = .quic
  clone_lt : ∀ c ∈ t.clones, c < t.world.numConns

theorem Traced.step (h : Traced t) (e : Event) : Traced (t.step e) := by
  have hle : t.world.numConns ≤ (t.world.step e).numConns := (World.extends_step h.quic e).conns
  refine ⟨(World.protocol_step t.world e).trans h.quic, fun c hc => ?_⟩
  have hold : c ∈ t.clones → c < (t.world.step e).numConns :=
    fun hmem => Nat.lt_of_lt_of_le (h.clone_lt c hmem) hle
  cases e with
  | clone d =>
    dsimp only [Cloned.step] at hc
    split at hc
    · next hen =>
      rcases List.mem_cons.mp hc with rfl | hmem
      · have hnew : (t.world.step (.clone d)).outline.numConns = t.world.numConns + 1 := by
          rw [show t.world.step (.clone d) = t.world.cloneConnection d from if_pos hen,
            t.world.outline_cloneConnection h.quic]
          rfl
        exact (Nat.lt_succ_self _).trans_eq hnew.symm
      · exact hold hmem
    · exact hold hc
  | _ => exact hold hc

theorem traced_run (es : List Event) : Traced (run .quic es) :=
  Lib.run_invariant_of_step (I := Traced) (fun _ e h => h.step e)
    ⟨rfl, fun _ hc => absurd hc List.not_mem_nil⟩ es

/-! ### New streams of the peer -/

def OrderFree (t : Cloned) (g sid : Nat) : Prop :=
  (∀ first ∈ t.world.members g, ∀ first' ∈ t.world.members g,
    (t.world.resolveOrCreateStreamConnection g sid first).2.1 =
      (t.world.resolveOrCreateStreamConnection g sid first').2.1) ∧
  ∀ first ∈ t.world.members g,
    (t.world.resolveOrCreateStreamConnection g sid first).2.1 ∉ t.clones

theorem resolve_of_stream {w : World} {g sid first : Nat} (hnew : w.streamCtx g sid = none)
    (hfirst : (w.conn first).stream.isSome = true) :
    (w.resolveOrCreateStreamConnection g sid first).2.1 = w.numConns := by
  simp only [World.resolveOrCreateStreamConnection, hnew, hfirst, if_true]

theorem resolve_of_none {w : World} {g sid first : Nat} (hnew : w.streamCtx g sid = none)
    (hfirst : (w.conn first).stream.isSome = false) :
    (w.resolveOrCreateStreamConnection g sid first).2.1 = first := by
  simp only [World.resolveOrCreateStreamConnection, hnew, hfirst, Bool.false_eq_true, if_false]

theorem nodup_members (w : World) (g : Nat) : (w.members g).Nodup :=
  World.nodup_of_perm_members (List.Perm.refl _)

/-- In every reachable world, a new stream of the peer does not depend on the order of the table
exactly if all members of the group have streams, or there is only one and it was not cloned by the
application. -/
theorem peer_stream_order_free_iff (es : List Event) (g sid : Nat)
    (hnew : (run .quic es).world.streamCtx g sid = none) :
    (run .quic es).OrderFree g sid ↔
      (∀ c ∈ (run .quic es).world.members g, ((run .quic es).world.conn c).stream.isSome = true) ∨
      ∃ c, (run .quic es).world.members g = [c] ∧ c ∉ (run .quic es).clones := by
  have htraced := traced_run es
  set t := run .quic es
  have hfresh : t.world.numConns ∉ t.clones :=
    fun hmem => absurd (htraced.clone_lt _ hmem) (Nat.lt_irrefl _)
  constructor
  · rintro ⟨hsame, hclone⟩
    by_contra hnot
    obtain ⟨hsome, hone⟩ := not_or.mp hnot
    push Not at hsome
    obtain ⟨c, hc, hnone⟩ := hsome
    have hnone : (t.world.conn c).stream.isSome = false := Bool.eq_false_iff.mpr hnone
    -- every other member would lead elsewhere
    have honly : ∀ d ∈ t.world.members g, d = c := by
      intro d hd
      have heq := hsame d hd c hc
      rw [resolve_of_none hnew hnone] at heq
      cases hds : (t.world.conn d).stream.isSome with
      | true =>
        rw [resolve_of_stream hnew hds] at heq
        exact absurd heq (Nat.ne_of_gt (World.lt_of_mem_members hc))
      | false => exact (resolve_of_none hnew hds).symm.trans heq
    have hlist : t.world.members g = [c] := by
      have hperm : (t.world.members g).Perm [c] := by
        refine (List.perm_ext_iff_of_nodup (nodup_members _ g) (List.nodup_singleton c)).mpr fun d => ?_
        rw [List.mem_singleton]
        exact ⟨honly d, fun hd => hd ▸ hc⟩
      exact List.perm_singleton.mp hperm
    have hfree := hclone c hc
    rw [resolve_of_none hnew hnone] at hfree
    exact hone ⟨c, hlist, hfree⟩
  · rintro (hall | ⟨c, hlist, hc⟩)
    · refine ⟨fun first hfirst first' hfirst' => ?_, fun first hfirst => ?_⟩
      · rw [resolve_of_stream hnew (hall first hfirst), resolve_of_stream hnew (hall first' hfirst')]
      · rw [resolve_of_stream hnew (hall first hfirst)]
        exact hfresh
    · unfold OrderFree
      simp only [hlist, List.mem_singleton, forall_eq, true_and]
      cases hcs : (t.world.conn c).stream.isSome with
      | true =>
        rw [resolve_of_stream hnew hcs]
        exact hfresh
      | false =>
        rw [resolve_of_none hnew hcs]
        exact hc

theorem peer_stream_order_free_clone :
    (run .quic [.initiate {} none .begun, .cnxReady 0 0, .raceWon 0, .send 0 false 0, .clone 0,
      .send 1 false 4]).OrderFree 0 1 ∧
    (run .quic [.initiate {} none .begun, .cnxReady 0 0, .raceWon 0, .send 0 false 0, .clone 0,
      .send 1 false 4]).world.members 0 = [0, 1] :=
  ⟨(peer_stream_order_free_iff [.initiate {} none .begun, .cnxReady 0 0, .raceWon 0, .send 0 false 0,
    .clone 0, .send 1 false 4] 0 1 (by decide)).mpr (Or.inl (by decide)), by decide⟩

/-- The client has sent, and its clone has not: the stream of the server gets a connection of its own
or goes to the clone, as the table has it. -/
theorem peer_stream_takes_clone :
    ¬ (run .quic [.initiate {} none .begun, .cnxReady 0 0, .raceWon 0, .send 0 false 0,
      .clone 0]).OrderFree 0 1 ∧
    (run .quic [.initiate {} none .begun, .cnxReady 0 0, .raceWon 0, .send 0 false 0,
      .clone 0]).clones = [1] ∧
    ((run .quic [.initiate {} none .begun, .cnxReady 0 0, .raceWon 0, .send 0 false 0,
      .clone 0]).world.resolveOrCreateStreamConnection 0 1 0).2.1 = 2 ∧
    ((run .quic [.initiate {} none .begun, .cnxReady 0 0, .raceWon 0, .send 0 false 0,
      .clone 0]).world.resolveOrCreateStreamConnection 0 1 1).2.1 = 1 := by
  refine ⟨fun h => ?_, by decide, by decide, by decide⟩
  exact absurd (h.2 1 (by decide)) (by decide)

end Cloned

end CTaps.Connections
