import CTaps.Connections.Quiet
import CTaps.Messages.Receive

/-! The way of received data to the connections. A TCP socket has one connection, UDP looks the
sender's address up in the demux table of the socket, and QUIC has the connection as context of the
stream; nobody on the way asks whether the connection is closed. -/

namespace CTaps.Messages

open Connections (World Event)
open Function
open Gathering (Protocol)

variable {M K : Type}

/-- `arriving` is the datagram that made a connection, while the `connection_received` callback of
the listener is running. -/
structure Delivery (M K : Type) where
  world : World
  inbox : Nat → Inbox M K := fun _ => {}
  /-- The connections whose stream the peer has ended. -/
  dry : Nat → Bool := fun _ => false
  arriving : Option (Nat × List M) := none

namespace Delivery

inductive Input (M K : Type)
  | event (e : Event) (messages : List M)
  | tcpData (s : Nat) (messages : List M)
  | connectionReceivedReturned
  | receive (c : Nat) (k : ReceiveCallbacks K)
  | receiveReturned (c : Nat)
deriving DecidableEq, Repr

/-- The connection a datagram is handed to at once. A socket without listener has one connection,
whose address is the only one in the table. -/
def datagramTarget (w : World) (s addr : Nat) : Option Nat :=
  if (w.sm s).handle = .open then
    if (w.sm s).listener.isSome then (w.sm s).demuxTable.lookup addr
    else (w.sm s).allConnections.head?
  else none

/-- The connection that `handle_stream_data` hands the data of a stream to. -/
def streamTarget (w : World) (g sid first : Nat) : Option Nat :=
  let r := w.resolveOrCreateStreamConnection g sid first
  if (r.1.conn r.2.1).canReceive then some r.2.1 else none

def target (w : World) : Event → Option Nat
  | .datagram s addr => datagramTarget w s addr
  | .streamData g sid first true | .streamFin g sid first true => streamTarget w g sid first
  | _ => none

def made (w : World) : Event → Option Nat
  | .datagram s addr =>
    if (w.udpMultiplexReceivedMessage s addr).numConns = w.numConns then none else some w.numConns
  | _ => none

/-- `ct_connection_on_protocol_receive` on a connection. -/
def handTo (d : Delivery M K) (c : Option Nat) (messages : List M) : Nat → Inbox M K :=
  match c with
  | some c => update d.inbox c ((d.inbox c).onProtocolReceive messages)
  | none => d.inbox

/-- `ct_connection_free` releases what waits in the queues. -/
def release (inbox : Nat → Inbox M K) : Event → Nat → Inbox M K
  | .free c =>
    update inbox c { inbox c with receivedMessages := [], receivedCallbacks := [] }
  | _ => inbox

def endStream (dry : Nat → Bool) : Option Nat → Nat → Bool
  | some c => update dry c true
  | none => dry

def supplied (d : Delivery M K) : Event → Bool
  | .streamData g sid first _ | .streamFin g sid first _ =>
    d.world.readable (d.world.conn first).socketManager ∧
      d.dry (d.world.resolveOrCreateStreamConnection g sid first).2.1 = false
  | _ => true

/-- While `connection_received` is running the application can make calls, but libuv makes no other
callback. -/
def enabled (d : Delivery M K) : Input M K → Bool
  | .event e _ => (e.isCall ∨ d.arriving.isNone) ∧ d.world.enabled e ∧ d.supplied e
  | .tcpData s _ =>
    d.arriving.isNone ∧ d.world.protocol = .tcp ∧ (d.world.sm s).handle = .open ∧
      (d.world.sm s).connectPending = none
  | .connectionReceivedReturned => d.arriving.isSome
  | .receive c _ => d.world.held c
  | .receiveReturned _ => true

def act (d : Delivery M K) : Input M K → Delivery M K
  | .event e messages =>
    { world := d.world.step e
      inbox := release (d.handTo (target d.world e) messages) e
      dry := endStream d.dry (d.world.endedStream e)
      arriving :=
        match made d.world e with
        | some c => some (c, messages)
        | none => d.arriving }
  | .tcpData s messages => { d with inbox := d.handTo (d.world.sm s).tcpConnection messages }
  | .connectionReceivedReturned =>
    match d.arriving with
    | some (c, messages) => { d with inbox := d.handTo (some c) messages, arriving := none }
    | none => d
  | .receive c k => { d with inbox := update d.inbox c ((d.inbox c).receiveMessage k) }
  | .receiveReturned c => { d with inbox := update d.inbox c (d.inbox c).callbackReturned }

def step (d : Delivery M K) (i : Input M K) : Delivery M K := if d.enabled i then d.act i else d

def run (p : Protocol) (is : List (Input M K)) : Delivery M K :=
  Lib.run step { world := { protocol := p } } is

def LeavesInReach (d : Delivery M K) : Input M K → Prop
  | .event e _ => d.world.LeavesInReach d.dry (d.arriving.map Prod.fst) e
  | _ => False

instance (d : Delivery M K) (i : Input M K) : Decidable (d.LeavesInReach i) := by
  rcases i with ⟨⟩ <;> dsimp only [LeavesInReach] <;> infer_instance

/-! ### Closed connections stay out of reach -/

structure Guarded (P : Nat → Prop) (d : Delivery M K) : Prop where
  quiet : d.world.Quiet P d.dry (d.arriving.map Prod.fst)
  placed : d.world.Placed
  tcp : d.world.protocol = .tcp → d.world.TcpPlaced
  udp : d.arriving.isSome = true → d.world.protocol = .udp

variable {P : Nat → Prop} {d : Delivery M K}

theorem endStream_mono (dry : Nat → Bool) (o : Option Nat) {c : Nat} (h : dry c = true) :
    endStream dry o c = true := by
  cases o with
  | none => exact h
  | some c' =>
    show update dry c' true c = true
    by_cases hc : c = c'
    · subst hc
      exact update_self ..
    · rw [update_of_ne hc]
      exact h

theorem endStream_some (dry : Nat → Bool) (c : Nat) : endStream dry (some c) c = true :=
  update_self ..

theorem leavesInReach_endStream {w : World} {dry : Nat → Bool} {arriving : Option Nat} {e : Event}
    (h : w.LeavesInReach (endStream dry (w.endedStream e)) arriving e) :
    w.LeavesInReach dry arriving e := by
  cases e with
  | streamFin g sid first hasData => exact h
  | streamReset g sid => exact h
  | _ => exact h

theorem udpMultiplex_cases (w : World) (s addr : Nat) :
    w.udpMultiplexReceivedMessage s addr = w ∨
      ((w.udpMultiplexReceivedMessage s addr).conn w.numConns).state = .established := by
  unfold World.udpMultiplexReceivedMessage
  split
  · split
    · right
      simp [World.connectionReceivedCb, Connections.Connection.markAsEstablished,
        Connections.Connection.enter]
    · exact Or.inl rfl
  · exact Or.inl rfl

theorem made_eq_some {w : World} {e : Event} {c : Nat} (h : made w e = some c) :
    c = w.numConns ∧ (∃ s addr, e = .datagram s addr) ∧ ((w.act e).conn c).state ≠ .closed := by
  cases e with
  | datagram s addr =>
    dsimp only [made] at h
    split at h
    · cases h
    · next hnew =>
      obtain rfl := Option.some.inj h
      refine ⟨rfl, ⟨s, addr, rfl⟩, ?_⟩
      show ((w.udpMultiplexReceivedMessage s addr).conn w.numConns).state ≠ .closed
      rcases udpMultiplex_cases w s addr with hsame | hstate
      · exact absurd (congrArg World.numConns hsame) hnew
      · rw [hstate]
        exact Connections.ConnState.noConfusion
  | _ => cases h

theorem Guarded.event (h : Guarded P d) {e : Event} {messages : List M}
    (hen : d.enabled (.event e messages) = true)
    (he : ¬ d.LeavesInReach (.event e messages)) : Guarded P (d.act (.event e messages)) := by
  obtain ⟨hidle, hworld, -⟩ := of_decide_eq_true hen
  have harr : e.isCall = false → d.arriving.map Prod.fst = none := by
    intro hcall
    rw [hcall] at hidle
    have hnone : d.arriving = none := by simpa using hidle
    rw [hnone]
    rfl
  have hdry : d.world.Quiet P (endStream d.dry (d.world.endedStream e)) (d.arriving.map Prod.fst) :=
    h.quiet.vary (fun _ hc => endStream_mono _ _ hc) (fun _ _ hc => hc)
  have hstep := hdry.step h.placed h.tcp (e := e) (fun hl => he (leavesInReach_endStream hl)) harr
    (fun c hc => by rw [Option.mem_def.mp hc]; exact endStream_some _ c)
  have hp : (d.world.step e).protocol = d.world.protocol := World.protocol_step d.world e
  have hact : d.world.step e = d.world.act e := if_pos hworld
  have hplaced : (d.world.step e).Placed := h.placed.step e
  have htcp : (d.world.step e).protocol = .tcp → (d.world.step e).TcpPlaced := by
    intro hq
    rw [hp] at hq
    exact (h.tcp hq).step hq e
  cases hmade : made d.world e with
  | none =>
    have hnext : (d.act (.event e messages)).arriving = d.arriving := by simp [act, hmade]
    refine ⟨hnext ▸ hstep, hplaced, htcp, fun hsome => ?_⟩
    rw [hnext] at hsome
    exact hp.trans (h.udp hsome)
  | some c =>
    have hnext : (d.act (.event e messages)).arriving = some (c, messages) := by
      simp [act, hmade]
    obtain ⟨rfl, ⟨s, addr, rfl⟩, hopen⟩ := made_eq_some hmade
    refine ⟨?_, hplaced, htcp, fun _ => hp.trans (of_decide_eq_true hworld)⟩
    rw [hnext]
    refine hstep.vary (fun _ hc => hc) fun c' hc' _ heq => ?_
    obtain rfl : d.world.numConns = c' := Option.some.inj heq
    -- the new connection is neither one of `P` nor closed
    rcases hc' with hP | hclosed
    · exact Nat.lt_irrefl _ (h.quiet.deaf _ (Or.inl hP)).1
    · rw [hact] at hclosed
      exact hopen hclosed

theorem Guarded.step (h : Guarded P d) {i : Input M K} (hi : ¬ d.LeavesInReach i) :
    Guarded P (d.step i) := by
  unfold Delivery.step
  split
  · next hen =>
    cases i with
    | event e messages => exact h.event hen hi
    | tcpData s messages => exact ⟨h.quiet, h.placed, h.tcp, h.udp⟩
    | connectionReceivedReturned =>
      dsimp only [act]
      split
      · refine ⟨?_, h.placed, h.tcp, fun hsome => absurd hsome Bool.false_ne_true⟩
        exact h.quiet.vary (fun _ hc => hc) fun c _ _ => (Option.some_ne_none c).symm
      · exact h
    | receive c k => exact ⟨h.quiet, h.placed, h.tcp, h.udp⟩
    | receiveReturned c => exact ⟨h.quiet, h.placed, h.tcp, h.udp⟩
  · exact h

/-! ### No data -/

def handed (d : Delivery M K) : Input M K → Option Nat
  | .event e _ => target d.world e
  | .tcpData s _ => (d.world.sm s).tcpConnection
  | .connectionReceivedReturned => d.arriving.map Prod.fst
  | _ => none

theorem not_deaf_of_readable {w : World} {dry : Nat → Bool} {arriving : Option Nat} {c s : Nat}
    (hp : w.protocol ≠ .quic) (hs : (w.conn c).socketManager = s) (hr : (w.sm s).handle = .open) :
    ¬ w.Deaf dry arriving c := by
  rintro (⟨hshut, -⟩ | ⟨hquic, -⟩)
  · rw [hs] at hshut
    simp [World.readable, Connections.Handle.reads, hr] at hshut
  · exact hp hquic

theorem Guarded.not_datagram (h : Guarded P d) {c : Nat} (hc : P c) {s addr : Nat}
    (hp : d.world.protocol = .udp) : datagramTarget d.world s addr ≠ some c := by
  intro htarget
  have hdeaf := (h.quiet.deaf c (Or.inl hc)).2
  have hne : d.world.protocol ≠ .quic := by
    rw [hp]
    decide
  unfold datagramTarget at htarget
  split at htarget
  · next hopen =>
    split at htarget
    · exact not_deaf_of_readable hne (h.quiet.demux s addr c htarget).2 hopen hdeaf
    · have hmem : c ∈ (d.world.sm s).allConnections := List.mem_of_mem_head? htarget
      exact not_deaf_of_readable hne (h.placed.home_of_mem s c hmem) hopen hdeaf
  · cases htarget

theorem Guarded.not_stream (h : Guarded P d) {c : Nat} (hc : P c) {g sid first : Nat}
    (hrep : d.world.reports g sid) (hfirst : first ∈ d.world.members g)
    (hread : d.world.readable (d.world.conn first).socketManager = true)
    (hdry : d.dry (d.world.resolveOrCreateStreamConnection g sid first).2.1 = false) :
    streamTarget d.world g sid first ≠ some c := by
  intro htarget
  obtain ⟨hlt, hdeaf⟩ := h.quiet.deaf c (Or.inl hc)
  have heq : (d.world.resolveOrCreateStreamConnection g sid first).2.1 = c := by
    unfold streamTarget at htarget
    dsimp only at htarget
    split at htarget
    · exact Option.some.inj htarget
    · cases htarget
  rw [heq] at hdry
  have hfl := World.lt_of_mem_members hfirst
  have hfg := World.group_of_mem_members hfirst
  -- the connection is in the group, so it shares the socket that the packet was read from
  have hgroup : (d.world.conn c).group = g := by
    obtain ⟨c', hctx, hres⟩ | ⟨-, -, hres⟩ | ⟨-, -, hres⟩ :=
      d.world.resolveOrCreate_cases g sid first
    · rw [hres] at heq
      obtain rfl : c' = c := heq
      exact (h.quiet.ctx g sid c' hctx).2.1
    · rw [hres] at heq
      exact absurd heq.symm (Nat.ne_of_lt hlt)
    · rw [hres] at heq
      obtain rfl : first = c := heq
      exact hfg
  have hsame : (d.world.conn c).socketManager = (d.world.conn first).socketManager :=
    h.placed.quic_home hrep.1 c hlt first hfl (hgroup.trans hfg.symm)
  rcases hdeaf with ⟨hshut, -⟩ | ⟨-, hend | ⟨-, hd⟩⟩
  · rw [hsame, hread] at hshut
    cases hshut
  · rw [hgroup, hrep.2.1] at hend
    cases hend
  · rw [hdry] at hd
    cases hd

theorem Guarded.not_handed (h : Guarded P d) {c : Nat} (hc : P c) {i : Input M K}
    (hen : d.enabled i = true) : d.handed i ≠ some c := by
  have hdeaf := (h.quiet.deaf c (Or.inl hc)).2
  cases i with
  | event e messages =>
    obtain ⟨-, hworld, hsupply⟩ := of_decide_eq_true hen
    show target d.world e ≠ some c
    cases e with
    | datagram s addr => exact h.not_datagram hc (of_decide_eq_true hworld)
    | streamData g sid first hasData =>
      obtain ⟨hrep, hfirst⟩ := of_decide_eq_true hworld
      obtain ⟨hread, hdry⟩ := of_decide_eq_true hsupply
      cases hasData with
      | true => exact h.not_stream hc hrep hfirst hread hdry
      | false => exact (Option.some_ne_none c).symm
    | streamFin g sid first hasData =>
      obtain ⟨hrep, hfirst⟩ := of_decide_eq_true hworld
      obtain ⟨hread, hdry⟩ := of_decide_eq_true hsupply
      cases hasData with
      | true => exact h.not_stream hc hrep hfirst hread hdry
      | false => exact (Option.some_ne_none c).symm
    | _ => exact (Option.some_ne_none c).symm
  | tcpData s messages =>
    obtain ⟨-, hp, hopen, -⟩ := of_decide_eq_true hen
    intro htarget
    have hne : d.world.protocol ≠ .quic := by
      rw [hp]
      decide
    exact not_deaf_of_readable hne ((h.tcp hp).home s c htarget) hopen hdeaf
  | connectionReceivedReturned =>
    intro htarget
    have hp := h.udp hen
    rcases hdeaf with ⟨-, hout⟩ | ⟨hquic, -⟩
    · exact hout htarget
    · cases hp.symm.trans hquic
  | receive c' k => exact (Option.some_ne_none c).symm
  | receiveReturned c' => exact (Option.some_ne_none c).symm

theorem handTo_of_ne (d : Delivery M K) {o : Option Nat} {c : Nat} (h : o ≠ some c)
    (messages : List M) : d.handTo o messages c = d.inbox c := by
  cases o with
  | none => rfl
  | some c' =>
    have hne : c ≠ c' := fun he => h (he ▸ rfl)
    exact update_of_ne hne ..

theorem data_act {i : Input M K} {c : Nat} (h : d.handed i ≠ some c) :
    ((d.act i).inbox c).data.Sublist (d.inbox c).data := by
  cases i with
  | event e messages =>
    have hsame : d.handTo (target d.world e) messages c = d.inbox c := d.handTo_of_ne h messages
    show (release _ e c).data.Sublist _
    cases e with
    | free c' =>
      by_cases hc : c = c'
      · subst hc
        simp [release, hsame, Inbox.data]
      · simp [release, hc, hsame]
    | _ =>
      simp only [release]
      rw [hsame]
  | tcpData s messages =>
    have hsame : (d.act (.tcpData s messages)).inbox c = d.inbox c := d.handTo_of_ne h messages
    rw [hsame]
  | connectionReceivedReturned =>
    dsimp only [act]
    split
    · next c' messages ha =>
      have hne : some c' ≠ some c := by
        simpa [handed, ha] using h
      dsimp only
      rw [d.handTo_of_ne hne messages]
    · exact List.Sublist.refl _
  | receive c' k =>
    by_cases hc : c = c'
    · subst hc
      simpa [act] using Inbox.data_receiveMessage (d.inbox c) k
    · simp [act, hc]
  | receiveReturned c' =>
    by_cases hc : c = c'
    · subst hc
      simp [act, Inbox.data_callbackReturned]
    · simp [act, hc]

theorem Guarded.data_step (h : Guarded P d) {c : Nat} (hc : P c) (i : Input M K) :
    ((d.step i).inbox c).data.Sublist (d.inbox c).data := by
  unfold Delivery.step
  split
  · next hen => exact data_act (h.not_handed hc hen)
  · exact List.Sublist.refl _

theorem guarded_init (p : Protocol) :
    Guarded (fun _ => False) ({ world := { protocol := p } } : Delivery M K) :=
  ⟨World.quiet_init p _, World.placed_init p, fun _ => World.tcpPlaced_init p,
    fun h => absurd h Bool.false_ne_true⟩

/-- In a run that closes no connection that data can still be handed to, a closed connection is
handed no more data: its receive callbacks get, and its queue has, nothing but what was there when
it was closed. -/
theorem no_data_after_close (p : Protocol) (is is' : List (Input M K))
    (his : Lib.AllSteps step (fun d i => ¬ d.LeavesInReach i) { world := { protocol := p } }
      (is ++ is')) (c : Nat) (hc : ((run p is).world.conn c).state = .closed) :
    ((run p (is ++ is')).inbox c).data.Sublist ((run p is).inbox c).data := by
  obtain ⟨hbefore, hafter⟩ := Lib.allSteps_append.mp his
  have hguarded : Guarded (fun _ => False) (run p is) :=
    Lib.run_invariant (fun _ _ hd hi => hd.step hi) (guarded_init p) hbefore
  -- from now on `c` is kept out of reach, whatever becomes of its state
  have hnow : Guarded (fun c' => c' = c) (run p is) := by
    refine { hguarded with quiet := { hguarded.quiet with deaf := fun c' hc' => ?_ } }
    refine hguarded.quiet.deaf c' (Or.inr ?_)
    rcases hc' with rfl | hclosed
    · exact hc
    · exact hclosed
  have hrun : Guarded (fun c' => c' = c) (Lib.run step (run p is) is') ∧
      ((Lib.run step (run p is) is').inbox c).data.Sublist ((run p is).inbox c).data := by
    refine Lib.run_invariant (I := fun d => Guarded (fun c' => c' = c) d ∧
      (d.inbox c).data.Sublist ((run p is).inbox c).data) (fun d i hd hi => ?_)
      ⟨hnow, List.Sublist.refl _⟩ hafter
    exact ⟨hd.1.step hi, (hd.1.data_step rfl i).trans hd.2⟩
  have heq : run p (is ++ is') = Lib.run step (run p is) is' := Lib.run_append _ is is'
  rw [heq]
  exact hrun.2

theorem no_data_after_close_client :
    ((run .udp ([.event (.initiate {} none .begun) [], .event (.raceWon 0) [],
      .event (.datagram 0 7) [100], .event (.close 0) [], .event (.handleClosed 0) []] ++
      [.event (.datagram 0 7) [200], .receive 0 { perReceiveContext := 1 }])
      : Delivery Nat Nat).inbox 0).data.Sublist [100] :=
  no_data_after_close .udp
    [.event (.initiate {} none .begun) [], .event (.raceWon 0) [], .event (.datagram 0 7) [100],
      .event (.close 0) [], .event (.handleClosed 0) []]
    [.event (.datagram 0 7) [200], .receive 0 { perReceiveContext := 1 }] (by decide) 0 (by decide)

/-- A connection of a UDP listener is closed beside the listener, and is handed the next datagram
from its peer. -/
theorem data_after_close_udp :
    ((run .udp [.event (.listen {} {}) [], .event (.datagram 0 7) [100],
      .connectionReceivedReturned, .event (.close 0) []] : Delivery Nat Nat).world.conn 0).state =
        .closed ∧
    ((run .udp [.event (.listen {} {}) [], .event (.datagram 0 7) [100],
      .connectionReceivedReturned, .event (.close 0) []] : Delivery Nat Nat).inbox 0).data = [100] ∧
    ((run .udp ([.event (.listen {} {}) [], .event (.datagram 0 7) [100],
      .connectionReceivedReturned, .event (.close 0) []] ++ [.event (.datagram 0 7) [200]])
        : Delivery Nat Nat).inbox 0).data = [100, 200] := by
  decide

end Delivery

end CTaps.Messages
