import CTaps.Connections.Listeners

/-! Listeners from `ct_socket_manager_listen` on, with everything they are told about themselves in
one log. In a run without the two faults a listener is told of its end at most once, and that it is
ready only before. -/

namespace CTaps.Connections

open Function
open Gathering (Protocol)

inductive ListenOutcome
  | listening
  /-- It has failed, and there is no socket. -/
  | failed
  /-- QUIC has made a context but no UDP handle, and closes the context. -/
  | abandoned
deriving DecidableEq, Repr

inductive ListenerEvent
  /-- `ready` is whether the application has set `listener_ready`. -/
  | listen (l : ListenerCallbacks) (ready : Bool) (cbs : UserCallbacks) (o : ListenOutcome)
  | event (e : Event)
deriving DecidableEq, Repr

structure Listening where
  world : World
  /-- What the listener of a socket manager was told, newest first. -/
  log : Nat → List Notice := fun _ => []

namespace World

def newEndings (w w' : World) (s : Nat) : List Notice :=
  ((w'.listenerHistory s).take
    ((w'.listenerHistory s).length - (w.listenerHistory s).length)).filterMap ListenerCall.ending

def noSocket (w : World) : Event → Bool
  | .listenerClose s => w.protocol = .udp ∧ (w.sm s).handle = .none
  | .newCnx s => !(w.sm s).pollHandle
  | .listen .. => true
  | _ => false

end World

namespace Listening

def advance (m : Listening) (w' : World) : Listening :=
  { world := w', log := fun s => m.world.newEndings w' s ++ m.log s }

def tell (m : Listening) (s : Nat) (k : Notice) (isSet : Bool) : Listening :=
  if isSet then { m with log := update m.log s (k :: m.log s) } else m

/-- `ct_socket_manager_listen` on a new listener. -/
def listen (m : Listening) (l : ListenerCallbacks) (ready : Bool) (cbs : UserCallbacks)
    (o : ListenOutcome) : Listening :=
  match o with
  | .listening => (m.advance (m.world.listen l cbs)).tell m.world.numSms .ready ready
  | .failed =>
    (m.advance (m.world.listenFailed l cbs .none)).tell m.world.numSms .establishmentError
      l.establishmentError
  | .abandoned =>
    if m.world.protocol = .quic then
      (m.advance (m.world.listenFailed l cbs (.closing .socketTimerClose))).tell m.world.numSms
        .establishmentError l.establishmentError
    else m

def step (m : Listening) : ListenerEvent → Listening
  | .listen l ready cbs o => m.listen l ready cbs o
  | .event e => if m.world.noSocket e then m else m.advance (m.world.step e)

def run (p : Protocol) (es : List ListenerEvent) : Listening :=
  Lib.run step { world := { protocol := p } } es

/-- The event leads to a second call of the end of a listener: a context is closed for a listener
that was told of the error, or a UDP or QUIC listener is closed that is closed already. -/
def EndsAgain (m : Listening) : ListenerEvent → Prop
  | .listen _ _ _ o => m.world.protocol = .quic ∧ o = .abandoned
  | .event (.listenerClose s) => m.world.protocol ≠ .tcp ∧
      (∃ l ∈ (m.world.sm s).listener, l.closed = true) ∧ m.world.numOpenDependents s ≠ 1
  | .event _ => False

instance (m : Listening) (e : ListenerEvent) : Decidable (m.EndsAgain e) := by
  unfold EndsAgain
  split <;> infer_instance

def EndsOnce (log : List Notice) : Prop :=
  log.countP Notice.isEnd ≤ 1 ∧
    log.Pairwise fun later earlier => later = .ready → earlier.isEnd = false
deriving Decidable

end Listening

namespace World

/-! ### One event -/

structure Advances (w w' : World) : Prop where
  listens : Listens w → Listens w'
  idle : ∀ s, Idle w s → Idle w' s
  grows : ∀ s, HistoryGrows w w' s
  le : w.numSms ≤ w'.numSms

variable {w w' : World} {s : Nat}

theorem numSms_of_site (h : w'.site = w.site) : w'.numSms = w.numSms := congrArg Site.numSms h

theorem Move.numSms_le (h : Move w w') : w.numSms ≤ w'.numSms := by
  cases h with
  | socketClosed s hpl hh hcb =>
    have hsite := (site_closedSocketCb (w.markHandleClosed s) s).trans (site_markHandleClosed w s)
    exact Nat.le_of_eq (numSms_of_site hsite).symm
  | lastClosed s hpl hh hone => exact Nat.le_of_eq (numSms_of_site (site_closedSocketCb w s)).symm
  | client => exact Nat.le_succ _
  | _ => exact Nat.le_refl _

theorem Advances.refl (w : World) : Advances w w :=
  ⟨id, fun _ => id, HistoryGrows.refl w, Nat.le_refl _⟩

theorem Moves.advances (h : Moves w w') : Advances w w' := by
  refine ⟨fun hl => hl.moves h, fun s hi => hi.moves h, h.historyGrows, ?_⟩
  induction h with
  | refl => exact Nat.le_refl _
  | tail _ hstep ih => exact Nat.le_trans ih hstep.numSms_le

theorem advances_closeListener (hpl : Placed w) (hp : w.protocol ≠ .tcp)
    (hopen : ∀ l, (w.sm s).listener = some l → l.closed = false)
    (hne : w.numOpenDependents s ≠ 1) : Advances w (w.modSm s SocketManager.closeListener) := by
  refine ⟨fun h => ?_, fun u hu => ?_, historyGrows_closeListener w s, Nat.le_refl _⟩
  · refine h.closeListener hopen (fun cb hh hcb => ?_) fun htcp => absurd htcp hp
    · obtain ⟨d, hd, hdl⟩ := exists_other_open hpl hne (h.busy s cb hh hcb) .listener
      cases d with
      | listener => exact absurd rfl hdl
      | connection c => exact ⟨c, hd⟩
  · refine hu.modSm fun hus => ?_
    subst hus
    exact absurd hu.numOpenDependents hne

theorem advances_listenerClose (hpl : Placed w) (h : w.protocol ≠ .tcp →
    ∀ l, (w.sm s).listener = some l → l.closed = true → w.numOpenDependents s = 1) :
    Advances w (w.listenerClose s) := by
  by_cases hp : w.protocol = .tcp
  · rw [listenerClose, hp]
    exact (moves_uvClose w s rfl).advances
  · have hclose : w.listenerClose s = w.listenerClosedCb s := by
      unfold listenerClose
      split
      · next htcp => exact absurd htcp hp
      · rfl
    rw [hclose, listenerClosedCb]
    split
    · next hone => exact (moves_managerClose hp hone _).advances
    · next hne =>
      refine advances_closeListener hpl hp (fun l hl => ?_) hne
      by_contra hclosed
      exact hne (h hp l hl (Bool.not_eq_false _ ▸ hclosed))

theorem advances_step (hpl : Placed w) (ht : w.protocol = .tcp → TcpPlaced w) {e : Event}
    (hno : w.noSocket e = false)
    (h : ∀ s, e = .listenerClose s → w.protocol ≠ .tcp →
      ∀ l, (w.sm s).listener = some l → l.closed = true → w.numOpenDependents s = 1) :
    Advances w (w.step e) := by
  cases hl : e.isListeners with
  | false => exact (moves_step hpl ht hl).advances
  | true =>
    cases e with
    | listen l cbs => cases hno
    | listenerClose s =>
      exact step_keeps (I := Advances w) (.refl w) fun _ => advances_listenerClose hpl (h s rfl)
    | _ => cases hl

theorem advances_listen (hpl : Placed w) {m : SocketManager} {l : Listener}
    (hl : m.listener = some l) (hclosed : l.closed = false) (hhist : l.history = [])
    (hh : m.handle = .open ∨ m.handle = .none) : Advances w (w.addSocketManager m) := by
  have hold : (w.sm w.numSms).listener = none := by
    cases hsome : (w.sm w.numSms).listener with
    | none => rfl
    | some l => exact absurd (hpl.listener_lt _ (by rw [hsome]; rfl)) (Nat.lt_irrefl _)
  refine ⟨fun h => ⟨fun s cb hs hcb => ?_, fun htcp s l' hl' hs => ?_, fun s l' hl' => ?_⟩,
    fun s hs => ?_, fun s => ?_, Nat.le_succ _⟩
  · by_cases hnew : s = w.numSms
    · subst hnew
      rw [addSocketManager_sm, update_self] at hs
      rcases hh with ho | ho
      · rw [ho] at hs
        cases hs
      · rw [ho] at hs
        cases hs
    · rw [addSocketManager_sm, update_of_ne hnew] at hs
      rw [opens_addSocketManager hnew]
      exact h.busy s cb hs hcb
  · by_cases hnew : s = w.numSms
    · subst hnew
      rw [addSocketManager_sm, update_self, hl] at hl'
      cases hl'
      exact hclosed
    · rw [addSocketManager_sm, update_of_ne hnew] at hl' hs
      exact h.stopping htcp s l' hl' hs
  · by_cases hnew : s = w.numSms
    · subst hnew
      rw [addSocketManager_sm, update_self, hl] at hl'
      cases hl'
      rw [Listener.endings, hhist]
      exact Nat.zero_le _
    · rw [addSocketManager_sm, update_of_ne hnew] at hl'
      exact h.once s l' hl'
  · refine hs.keep (Nat.le_succ _) ?_
    rw [addSocketManager_sm, update_of_ne (Nat.ne_of_lt hs.lt)]
  · by_cases hnew : s = w.numSms
    · subst hnew
      refine ⟨[], ?_⟩
      rw [listenerHistory, listenerHistory, addSocketManager_sm, update_self, hl, hold]
      exact hhist
    · exact historyGrows_of_eq (by rw [addSocketManager_sm, update_of_ne hnew])

end World

/-! ### The log -/

namespace Listening

open World (Placed TcpPlaced Listens Idle Advances HistoryGrows)

def Started (m : Listening) (s : Nat) : Prop :=
  ∃ start, m.log s = (m.world.listenerHistory s).filterMap ListenerCall.ending ++ start ∧
    (start = [] ∨ start = [.ready] ∧ s < m.world.numSms ∨
      start = [.establishmentError] ∧ Idle m.world s)

structure Inv (m : Listening) : Prop where
  placed : Placed m.world
  tcp : m.world.protocol = .tcp → TcpPlaced m.world
  listens : Listens m.world
  log : ∀ s, m.Started s

variable {m : Listening} {w' : World} {s : Nat}

theorem newEndings_append {w : World} (h : HistoryGrows w w' s) :
    w.newEndings w' s ++ (w.listenerHistory s).filterMap ListenerCall.ending =
      (w'.listenerHistory s).filterMap ListenerCall.ending := by
  obtain ⟨new, hnew⟩ := h
  rw [World.newEndings, hnew, List.length_append, Nat.add_sub_cancel, List.take_left,
    List.filterMap_append]

theorem Started.advance (h : m.Started s) (ha : Advances m.world w') : (m.advance w').Started s := by
  obtain ⟨start, hlog, hstart⟩ := h
  refine ⟨start, ?_, ?_⟩
  · show m.world.newEndings w' s ++ m.log s = _
    rw [hlog, ← List.append_assoc, newEndings_append (ha.grows s)]
    rfl
  · rcases hstart with hnil | ⟨hready, hlt⟩ | ⟨herror, hidle⟩
    · exact Or.inl hnil
    · exact Or.inr (Or.inl ⟨hready, Nat.lt_of_lt_of_le hlt ha.le⟩)
    · exact Or.inr (Or.inr ⟨herror, ha.idle s hidle⟩)

theorem Started.tell (h : m.Started s) {u : Nat} {k : Notice} (isSet : Bool)
    (hu : u = s → m.log s = [] ∧ (m.world.listenerHistory s).filterMap ListenerCall.ending = [] ∧
      (k = .ready ∧ s < m.world.numSms ∨ k = .establishmentError ∧ Idle m.world s)) :
    (m.tell u k isSet).Started s := by
  unfold Listening.tell
  split
  · by_cases hs : s = u
    · subst hs
      obtain ⟨hlog, hhist, hk⟩ := hu rfl
      refine ⟨[k], ?_, Or.inr ?_⟩
      · dsimp only
        rw [update_self, hlog, hhist]
        rfl
      · rcases hk with ⟨rfl, hlt⟩ | ⟨rfl, hidle⟩
        · exact Or.inl ⟨rfl, hlt⟩
        · exact Or.inr ⟨rfl, hidle⟩
    · obtain ⟨start, hlog, hstart⟩ := h
      refine ⟨start, ?_, hstart⟩
      dsimp only
      rw [update_of_ne hs, hlog]
  · exact h

theorem history_new {w : World} (hpl : Placed w) : w.listenerHistory w.numSms = [] := by
  cases hl : (w.sm w.numSms).listener with
  | none => rw [World.listenerHistory, hl]; rfl
  | some l => exact absurd (hpl.listener_lt _ (by rw [hl]; rfl)) (Nat.lt_irrefl _)

theorem Inv.log_new (h : Inv m) : m.log m.world.numSms = [] := by
  obtain ⟨start, hlog, hstart⟩ := h.log m.world.numSms
  rw [hlog, history_new h.placed]
  rcases hstart with rfl | ⟨-, hlt⟩ | ⟨-, hidle⟩
  · rfl
  · exact absurd hlt (Nat.lt_irrefl _)
  · exact absurd hidle.lt (Nat.lt_irrefl _)

theorem Inv.advance (h : Inv m) (ha : Advances m.world w') (hpl : Placed w')
    (ht : w'.protocol = .tcp → TcpPlaced w') : Inv (m.advance w') :=
  ⟨hpl, ht, ha.listens h.listens, fun s => (h.log s).advance ha⟩

theorem world_tell (m : Listening) (u : Nat) (k : Notice) (isSet : Bool) :
    (m.tell u k isSet).world = m.world := by
  unfold Listening.tell
  split <;> rfl

theorem Inv.withListener (h : Inv m) {x : SocketManager} {l : Listener}
    (hx : x.allConnections = []) (htcp : x.tcpConnection = none) (hl : x.listener = some l)
    (hclosed : l.closed = false) (hhist : l.history = []) (hh : x.handle = .open ∨ x.handle = .none)
    {k : Notice} (hk : k = .ready ∨ k = .establishmentError ∧ x.handle = .none) (isSet : Bool) :
    Inv ((m.advance (m.world.addSocketManager x)).tell m.world.numSms k isSet) := by
  have hinv : Inv (m.advance (m.world.addSocketManager x)) :=
    h.advance (World.advances_listen h.placed hl hclosed hhist hh) (h.placed.withSocketManager hx)
      fun hp => (h.tcp hp).withListener hx htcp
  have hnew : (m.world.addSocketManager x).listenerHistory m.world.numSms = [] := by
    rw [World.listenerHistory, World.addSocketManager_sm, update_self, hl]
    exact hhist
  have hstarted : ∀ s, ((m.advance (m.world.addSocketManager x)).tell m.world.numSms k
      isSet).Started s := by
    intro s
    refine (hinv.log s).tell isSet fun hs => ?_
    subst hs
    refine ⟨?_, ?_, ?_⟩
    · show m.world.newEndings _ _ ++ m.log _ = []
      rw [World.newEndings, hnew, h.log_new, List.take_nil]
      rfl
    · exact congrArg _ hnew
    · rcases hk with rfl | ⟨rfl, hnone⟩
      · exact Or.inl ⟨rfl, Nat.lt_succ_self _⟩
      · refine Or.inr ⟨rfl, Nat.lt_succ_self _, ?_, ?_, l, ?_, hclosed⟩
        · show (update m.world.sm _ x _).handle = _
          rw [update_self, hnone]
        · show (update m.world.sm _ x _).allConnections = _
          rw [update_self, hx]
        · show (update m.world.sm _ x _).listener = _
          rw [update_self, hl]
  have hworld := world_tell (m.advance (m.world.addSocketManager x)) m.world.numSms k isSet
  refine ⟨?_, ?_, ?_, hstarted⟩
  · rw [hworld]
    exact hinv.placed
  · rw [hworld]
    exact hinv.tcp
  · rw [hworld]
    exact hinv.listens

theorem Inv.step (h : Inv m) {e : ListenerEvent} (he : ¬ m.EndsAgain e) : Inv (m.step e) := by
  cases e with
  | listen l ready cbs o =>
    cases o with
    | listening => exact h.withListener rfl rfl rfl rfl rfl (Or.inl rfl) (Or.inl rfl) ready
    | failed =>
      exact h.withListener rfl rfl rfl rfl rfl (Or.inr rfl) (Or.inr ⟨rfl, rfl⟩) l.establishmentError
    | abandoned =>
      have hp : m.world.protocol ≠ .quic := fun hp => he ⟨hp, rfl⟩
      have hself : m.step (.listen l ready cbs .abandoned) = m := if_neg hp
      rw [hself]
      exact h
  | event e =>
    cases hno : m.world.noSocket e with
    | true =>
      have hself : m.step (.event e) = m := if_pos hno
      rw [hself]
      exact h
    | false =>
      have hadvance : m.step (.event e) = m.advance (m.world.step e) := by
        rw [Listening.step, hno]
        exact if_neg Bool.false_ne_true
      rw [hadvance]
      refine h.advance (World.advances_step h.placed h.tcp hno fun s hs hp l hl hclosed => ?_)
        (h.placed.step e) fun hp => ?_
      · subst hs
        by_contra hone
        exact he ⟨hp, ⟨l, hl, hclosed⟩, hone⟩
      · have hp' : m.world.protocol = .tcp := (World.protocol_step m.world e).symm.trans hp
        exact (h.tcp hp').step hp' e

theorem inv_init (p : Protocol) : Inv { world := { protocol := p } } := by
  refine ⟨World.placed_init p, fun _ => World.tcpPlaced_init p, ⟨?_, ?_, ?_⟩, fun s => ?_⟩
  · intro s cb hs
    cases hs
  · intro _ s l hl
    cases hl
  · intro s l hl
    cases hl
  · exact ⟨[], rfl, Or.inl rfl⟩

/-! ### Runs -/

theorem isEnd_of_mem_endings {calls : List ListenerCall} {k : Notice}
    (h : k ∈ calls.filterMap ListenerCall.ending) : k.isEnd = true := by
  obtain ⟨call, -, hcall⟩ := List.mem_filterMap.mp h
  cases call with
  | closed =>
    cases hcall
    rfl
  | establishmentError =>
    cases hcall
    rfl
  | connectionReceived c => cases hcall

theorem endings_length_le (h : Listens m.world) (s : Nat) :
    ((m.world.listenerHistory s).filterMap ListenerCall.ending).length ≤ 1 := by
  unfold World.listenerHistory
  cases hl : (m.world.sm s).listener with
  | none => exact Nat.zero_le 1
  | some l =>
    refine Nat.le_trans (h.once s l hl) ?_
    split <;> decide

theorem Inv.endsOnce (h : Inv m) (s : Nat) : EndsOnce (m.log s) := by
  obtain ⟨start, hlog, hstart⟩ := h.log s
  set calls := (m.world.listenerHistory s).filterMap ListenerCall.ending with hcalls
  have hle : calls.length ≤ 1 := endings_length_le h.listens s
  have hend : ∀ k ∈ calls, k.isEnd = true := fun k hk => isEnd_of_mem_endings hk
  rw [hlog]
  refine ⟨?_, List.pairwise_append.mpr ⟨?_, ?_, fun a ha b hb hready => ?_⟩⟩
  · rw [List.countP_append]
    rcases hstart with rfl | ⟨rfl, -⟩ | ⟨rfl, hidle⟩
    · exact Nat.le_trans List.countP_le_length hle
    · exact Nat.le_trans List.countP_le_length hle
    · -- a listener that has failed is not told anything else
      obtain ⟨l, hl, hopen⟩ := hidle.listener
      have honce := h.listens.once s l hl
      rw [hopen] at honce
      have hnone : calls = [] := by
        rw [hcalls, World.listenerHistory, hl]
        exact List.eq_nil_of_length_eq_zero (Nat.le_zero.mp honce)
      rw [hnone]
      decide
  · refine List.pairwise_of_forall_mem_list fun a ha b _ hready => ?_
    have hisEnd := hend a ha
    rw [hready] at hisEnd
    cases hisEnd
  · rcases hstart with rfl | ⟨rfl, -⟩ | ⟨rfl, -⟩ <;> simp
  · have hisEnd := hend a ha
    rw [hready] at hisEnd
    cases hisEnd

/-- If no QUIC listener fails with its context made, and no closed listener is closed again unless
one dependent of its socket is open, every listener is told of its end at most once and is not
announced after it. -/
theorem listener_ends_once (p : Protocol) (es : List ListenerEvent)
    (h : Lib.AllSteps step (fun m e => ¬ m.EndsAgain e) { world := { protocol := p } } es) (s : Nat) :
    EndsOnce ((run p es).log s) := by
  have hinv : Inv (run p es) :=
    Lib.run_invariant (I := Inv) (fun _ _ hi he => hi.step he) (inv_init p) h
  exact hinv.endsOnce s

theorem listener_ends_once_udp :
    EndsOnce ((run .udp [.listen {} true {} .listening, .event (.datagram 0 7),
      .event (.listenerClose 0), .event (.listenerClose 0), .event (.handleClosed 0)]).log 0) :=
  listener_ends_once .udp _ (by decide) 0

/-- A QUIC listener without UDP handle is told of the error, and then that it is closed. A UDP
listener that is closed again when it is closed is told so again. -/
theorem listener_ends_twice :
    (run .quic [.listen {} true {} .abandoned, .event (.handleClosed 0)]).log 0
        = [.closed, .establishmentError] ∧
      (run .udp [.listen {} true {} .listening, .event (.listenerClose 0), .event (.handleClosed 0),
        .event (.listenerClose 0)]).log 0 = [.closed, .closed, .ready] := by
  decide

end Listening

end CTaps.Connections
