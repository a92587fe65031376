import CTaps.Connections.Streams
import CTaps.Connections.TcpHandles

/-! Whole runs. States only move forward unless picoquic announces a group whose first connection is
closing or closed, or a new stream that the peer alone can send on begins with FIN. A connection
gets at most one terminal callback unless the end of a closed one is reported, a closed one is
announced, or the connect of a TCP clone fails. -/

namespace CTaps.Connections.World

open Gathering (Protocol)

def Reopens (w : World) (e : Event) : Prop :=
  w.enabled e = true ∧
    match e with
    | .cnxReady _ first => ConnState.established.rank < (w.conn first).state.rank
    | .streamFin g sid first _ => w.FinClosesNew g sid first
    | _ => False

/-- The event reports the end of a closed connection, announces one, which can then end again, or
calls `establishment_error` on a connection that will be reported as closed, as `on_clone_connect`
does. UDP aborts and closes groups without looking at the state, as do a RESET and a FIN of a QUIC
stream. -/
def RepeatsEnd (w : World) (e : Event) : Prop :=
  w.enabled e = true ∧
    match e with
    | .abort c _ => w.protocol = .udp ∧ (w.conn c).state = .closed
    | .closeGroup _ order | .raceCanceled _ order =>
      w.protocol = .udp ∧ ∃ d ∈ order, (w.conn d).state = .closed
    | .cnxReady _ first => (w.conn first).state = .closed
    | .streamReset g sid => ∃ c ∈ w.streamCtx g sid, (w.conn c).state = .closed
    | .streamFin g sid first _ =>
      match w.streamCtx g sid with
      | some c => (w.conn c).state = .closed ∧ (w.conn c).canSend = false
      | none => w.FinClosesNew g sid first ∨ (w.conn first).stream.isSome = false ∧
        (w.conn first).state = .closed ∧ (streamCapabilities (w.cnx g).isClient sid).1 = false
    | .connected s ok _ => (w.sm s).connectPending = some .onCloneConnect ∧ ok = false
    | _ => False

instance (w : World) (e : Event) : Decidable (w.Reopens e) := by
  rcases e with ⟨⟩ <;> dsimp only [Reopens] <;> infer_instance

instance (w : World) (e : Event) : Decidable (w.RepeatsEnd e) := by
  rcases e with ⟨⟩ <;> dsimp only [RepeatsEnd]
  case streamFin g sid first _ =>
    rcases w.streamCtx g sid with ⟨⟩ <;> dsimp only <;> infer_instance
  all_goals infer_instance

structure Inv (o q : Prop) (w : World) : Prop where
  placed : Placed w
  tcp : w.protocol = .tcp → TcpPlaced w ∧ TcpSafe w
  sound : AllSound o q w

variable {o q : Prop} {w : World}

theorem allSound_act (h : Inv o q w) {e : Event} (he : w.enabled e = true)
    (hr : o → ¬ w.Reopens e) (ht : q → ¬ w.RepeatsEnd e) : AllSound o q (w.act e) := by
  have hs := h.sound
  cases e with
  | initiate cbs early start => exact hs.initiated cbs early start
  | listen l cbs => exact hs
  | close c => exact hs.close c
  | abort c refused => exact hs.abort (fun hq hp hc => ht hq ⟨he, hp, hc⟩) refused
  | closeGroup c order =>
    exact hs.group _ (nodup_of_perm_members (of_decide_eq_true he).2)
      fun hq hp d hd hc => ht hq ⟨he, hp, d, hd, hc⟩
  | abortGroup c order refused => exact hs.abortMembers order refused
  | clone c => exact hs.clone c
  | send c isFinal sid => exact hs.send c isFinal sid
  | free c =>
    exact hs.silent c (f := fun x => { x with freed := true }) (fun _ => rfl) (fun _ => rfl)
  | listenerClose s =>
    dsimp only [act, listenerClose]
    split
    · exact hs
    · exact hs.listenerClosed s
  | raceWon c => exact hs.handedOver (of_decide_eq_true he).2.2
  | raceCanceled c order =>
    exact hs.canceled c (nodup_of_perm_members (of_decide_eq_true he).2.2)
      fun hq hp d hd hc => ht hq ⟨he, hp, d, hd, hc⟩
  | handleClosed s =>
    refine hs.handle fun hp c cb hc hh => ?_
    have hfit := (h.tcp hp).2 s c hc
    rw [hh] at hfit
    exact hfit
  | connected s ok readStarted =>
    have hp : w.protocol = .tcp := of_decide_eq_true he
    refine hs.connect hp (fun c hc hh => ?_) (fun hq hcb => ?_) readStarted
    · have hfit := (h.tcp hp).2 s c hc
      rw [hh] at hfit
      exact hfit
    · cases ok with
      | true => rfl
      | false => exact absurd ⟨he, hcb, rfl⟩ (ht hq)
  | readEnded s e =>
    dsimp only [act, tcpOnRead]
    split
    · split <;> exact hs
    · exact hs
  | accepted s => exact hs.accepted s
  | datagram s addr => exact hs.datagram s addr
  | datagramError s =>
    dsimp only [act, udpReadError]
    split <;> exact hs
  | newCnx s => exact hs.newCnx s
  | cnxReady g first =>
    refine hs.cnxReady g ⟨fun ho => ?_, fun hq hc => ?_⟩
    · exact Nat.le_of_not_lt fun hlt => hr ho ⟨he, hlt⟩
    · exact absurd ⟨he, hc⟩ (ht hq)
  | streamData g sid first hasData => exact hs.data g sid first hasData
  | streamFin g sid first hasData =>
    obtain ⟨⟨hp, -, -⟩, hfirst⟩ := of_decide_eq_true he
    refine hs.fin h.placed hp (group_of_mem_members hfirst) (fun hoq hf => ?_)
      (fun hq c hctx hc => ?_) (fun hq hctx hst hc => ?_) hasData
    · rcases hoq with ho | hq
      · exact hr ho ⟨he, hf⟩
      · have hstale := ht hq
        simp only [RepeatsEnd, he, hf.1, hf, true_and] at hstale
        exact hstale (Or.inl trivial)
    · have hstale := ht hq
      simp only [RepeatsEnd, he, hctx, hc, true_and] at hstale
      simpa using hstale
    · have hstale := ht hq
      simp only [RepeatsEnd, he, hctx, hst, hc, true_and, not_or] at hstale
      simpa using hstale.2
  | streamReset g sid => exact hs.reset fun hq c hctx hc => ht hq ⟨he, c, hctx, hc⟩
  | stopSending g sid => exact hs.stop g sid
  | cnxClosed g order error =>
    obtain ⟨hp, -, horder⟩ := of_decide_eq_true he
    exact hs.cnxClosed hp g (nodup_of_perm_members horder) error

theorem Inv.step (h : Inv o q w) {e : Event} (hr : o → ¬ w.Reopens e)
    (ht : q → ¬ w.RepeatsEnd e) : Inv o q (w.step e) := by
  refine ⟨h.placed.step e, fun hp => ?_, step_keeps h.sound fun he => allSound_act h he hr ht⟩
  rw [protocol_step] at hp
  exact ⟨(h.tcp hp).1.step hp e, (h.tcp hp).2.step (h.tcp hp).1 hp e⟩

theorem inv_init (o q : Prop) (p : Protocol) : Inv o q { protocol := p } := by
  refine ⟨placed_init p, fun _ => ⟨tcpPlaced_init p, ?_⟩, fun c => Connection.Sound.fresh rfl⟩
  intro s c hc
  cases hc

/-- In a run whose steps do not repeat the end of a connection, no connection gets two terminal
callbacks. -/
theorem terminal_callback_once (p : Protocol) (es : List Event)
    (h : Lib.AllSteps step (fun w e => ¬ w.RepeatsEnd e) { protocol := p } es)
    (c : Nat) : ((run p es).conn c).terminalCalls ≤ 1 := by
  have hinv : Inv False True (run p es) :=
    Lib.run_invariant (I := Inv False True) (fun _ _ hi hg => hi.step False.elim fun _ => hg)
      (inv_init False True p) h
  have honce := (hinv.sound c).once trivial
  refine Nat.le_trans honce ?_
  split <;> decide

theorem terminal_callback_once_udp :
    ((run .udp [.initiate {} none .begun, .raceWon 0, .clone 0, .close 0, .handleClosed 0,
      .abort 1 [], .handleClosed 1]).conn 1).terminalCalls ≤ 1 :=
  terminal_callback_once .udp _ (by decide) 1

theorem terminal_callback_twice_udp :
    ((run .udp [.initiate {} none .begun, .raceWon 0, .close 0, .handleClosed 0,
      .abort 0 []]).conn 0).terminalCalls = 2 := by
  decide

/-- In a run whose steps reopen no connection, the states of every connection are entered in their
order and no ready callback follows the closed state. -/
theorem states_move_forward (p : Protocol) (es : List Event)
    (h : Lib.AllSteps step (fun w e => ¬ w.Reopens e) { protocol := p } es) (c : Nat) :
    ((run p es).conn c).Forward ∧
      ∀ s, .entered s ∈ ((run p es).conn c).history → s.rank ≤ ((run p es).conn c).state.rank := by
  have hinv : Inv True False (run p es) :=
    Lib.run_invariant (I := Inv True False) (fun _ _ hi hg => hi.step (fun _ => hg) False.elim)
      (inv_init True False p) h
  exact ⟨(hinv.sound c).forward trivial, (hinv.sound c).reached trivial⟩

theorem states_move_forward_quic :
    ((run .quic [.initiate {} (some 0) .begun, .cnxReady 0 0, .raceWon 0, .streamFin 0 1 0 true,
      .cnxClosed 0 [1, 0] false, .handleClosed 0, .handleClosed 0]).conn 1).Forward :=
  (states_move_forward .quic _ (by decide) 1).1

/-- A server's unidirectional stream that begins with FIN: the connection made for it is closed,
and then established and announced. -/
theorem states_move_backward_quic :
    ¬ ((run .quic [.initiate {} (some 0) .begun, .cnxReady 0 0, .raceWon 0,
      .streamFin 0 3 0 true]).conn 1).Forward := by
  decide

end CTaps.Connections.World
