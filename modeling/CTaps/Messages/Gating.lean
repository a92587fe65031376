import CTaps.Connections.Gate
import CTaps.Messages.Send

/-! When sending is over. A message marked FINAL clears `can_send`, and so does the close of a QUIC
connection; what happens to the connection afterwards must not set the flag again. -/

namespace CTaps.Connections.World

variable {finals : Nat → Bool} {w : World}

theorem AllGated.accept (h : AllGated finals w) {c : Nat} (hlt : c < w.numConns)
    (hs : (w.conn c).canSend = false) : AllGated (Function.update finals c true) w := by
  constructor
  · intro d
    by_cases hd : d = c
    · subst hd
      exact Connection.gated_of_not_canSend hs _
    · rw [Function.update_of_ne hd]
      exact h.gated d
  · intro d hd
    by_cases hdc : d = c
    · exact hdc ▸ hlt
    · rw [Function.update_of_ne hdc] at hd
      exact h.lt d hd

theorem initiate_begun (hp : w.protocol ≠ .udp) (cbs : UserCallbacks) (early : Option Nat) :
    w.numConns < (w.initiate cbs early .begun).numConns ∧
      ((w.initiate cbs early .begun).conn w.numConns).canSend = false := by
  have hclient : ∀ m stream, w.numConns < (w.addClient cbs m stream).numConns ∧
      ((w.addClient cbs m stream).conn w.numConns).canSend = false := by
    intro m stream
    refine ⟨Nat.lt_succ_self w.numConns, ?_⟩
    rw [addClient_conn]
  unfold initiate
  cases hprotocol : w.protocol with
  | tcp => exact hclient _ _
  | udp => exact absurd hprotocol hp
  | quic => exact hclient _ _

theorem sendMessage_final (w : World) (c sid : Nat) :
    ((w.sendMessage c true sid).conn c).canSend = false := by
  unfold sendMessage
  split
  · dsimp only
    split
    · simp
    · simp
  · next hs => exact Bool.not_eq_true _ ▸ hs

end CTaps.Connections.World

namespace CTaps.Messages.Sending

open Connections (Connection World Event UserCallbacks)
open Connections.World (AllGated TcpPlaced)
open Gathering (Protocol)

variable {d : Sending}

def Unblocks (d : Sending) : Input → Prop
  | .event e => d.world.Unblocks d.finals e
  | .initWithSend _ _ start isFinal =>
    d.world.protocol = .udp ∧ start = .begun ∧ isFinal = true
  | _ => False

instance (d : Sending) (i : Input) : Decidable (d.Unblocks i) := by
  rcases i with ⟨⟩ <;> dsimp only [Unblocks] <;> infer_instance

structure Gated (d : Sending) : Prop where
  gated : d.world.AllGated d.finals
  tcp : d.world.protocol = .tcp → TcpPlaced d.world

theorem Gated.event (h : Gated d) {e : Event} (he : ¬ d.world.Unblocks d.finals e) :
    Gated { d with world := d.world.step e } := by
  refine ⟨h.gated.step h.tcp he, fun ht => ?_⟩
  rw [World.protocol_step] at ht
  exact (h.tcp ht).step ht e

theorem Gated.step (h : Gated d) {i : Input} (hi : ¬ d.Unblocks i) : Gated (d.step i) := by
  unfold Sending.step
  split
  · next hen =>
    cases i with
    | event e => exact h.event hi
    | initWithSend cbs early start isFinal =>
      have hbegun := h.event (e := .initiate cbs early start) not_false
      refine ⟨?_, hbegun.tcp⟩
      dsimp only [act]
      split
      · next hfinal =>
        obtain ⟨hfinal, rfl⟩ := hfinal
        have hudp : d.world.protocol ≠ .udp := fun hp => hi ⟨hp, rfl, hfinal⟩
        obtain ⟨hlt, hs⟩ := World.initiate_begun hudp cbs early
        exact hbegun.gated.accept hlt hs
      · exact hbegun.gated
    | send c context sid reply =>
      have hc : c < d.world.numConns := (of_decide_eq_true (of_decide_eq_true hen).1).1
      have hsent := h.gated.send c (context.getD false) sid
      have hsite := World.site_sendMessage (w := d.world) c (context.getD false) sid
      refine ⟨?_, fun ht => ?_⟩
      · dsimp only [act]
        split
        · next hfinal =>
          refine hsent.accept ?_ ?_
          · exact hc.trans_eq (congrArg Connections.Site.numConns hsite).symm
          · rw [hfinal.1]
            exact World.sendMessage_final d.world c sid
        · exact hsent
      · exact (h.tcp ((congrArg Connections.Site.protocol hsite).symm.trans ht)).of_site hsite
    | completed k status => exact ⟨h.gated, h.tcp⟩
  · exact h

theorem gated_init (p : Protocol) (callbacks : Nat → SendCallbacks) :
    Gated { world := { protocol := p }, callbacks := callbacks } := by
  refine ⟨⟨fun c => Connection.gated_of_not_canSend rfl _, fun c hc => ?_⟩,
    fun _ => World.tcpPlaced_init p⟩
  cases hc

/-- As long as no input unblocks a connection, a message is refused with `-EPIPE`, before the send
function of the protocol, on every connection that is closing or closed or has accepted a message
marked FINAL. -/
theorem send_gated (p : Protocol) (callbacks : Nat → SendCallbacks) (is : List Input)
    (his : Lib.AllSteps step (fun d i => ¬ d.Unblocks i)
      { world := { protocol := p }, callbacks := callbacks } is) (c : Nat)
    (hc : ((run p callbacks is).world.conn c).state = .closing ∨
      ((run p callbacks is).world.conn c).state = .closed ∨
      (run p callbacks is).finals c = true) (reply : Reply) :
    ((run p callbacks is).sendMessageFull c reply).rc = -ePipe ∧
      ((run p callbacks is).sendMessageFull c reply).passed = false := by
  have hgated : Gated (run p callbacks is) :=
    Lib.run_invariant (fun _ _ hd hi => hd.step hi) (gated_init p callbacks) his
  have hs : ((run p callbacks is).world.conn c).canSend = false := by
    refine Bool.not_eq_true _ ▸ fun hs => ?_
    obtain ⟨hopen, hfinal⟩ := hgated.gated.gated c hs
    unfold Connection.isClosedOrClosing at hopen
    rcases hc with hst | hst | hf
    · simp [hst] at hopen
    · simp [hst] at hopen
    · rw [hf] at hfinal
      cases hfinal
  unfold sendMessageFull
  rw [hs]
  exact ⟨rfl, rfl⟩

theorem send_gated_quic :
    ((run .quic (fun _ => {}) [.event (.initiate {} none .begun), .event (.cnxReady 0 0),
      .event (.raceWon 0), .send 0 (some true) 0 {}, .event (.close 0)]).sendMessageFull 0 {}).rc =
        -ePipe :=
  (send_gated .quic (fun _ => {}) [.event (.initiate {} none .begun), .event (.cnxReady 0 0),
    .event (.raceWon 0), .send 0 (some true) 0 {}, .event (.close 0)] (by decide) 0 (by decide) {}).1

/-- A TCP connection that is closing sends, and so do a UDP client and a QUIC client whose first
message was marked FINAL. -/
theorem sends_after_end :
    (((run .tcp (fun _ => {}) [.event (.initiate {} none .begun), .event (.connected 0 true true),
      .event (.raceWon 0), .event (.close 0)]).world.conn 0).state = .closing ∧
    ((run .tcp (fun _ => {}) [.event (.initiate {} none .begun), .event (.connected 0 true true),
      .event (.raceWon 0), .event (.close 0)]).sendMessageFull 0 {}).passed = true) ∧
    ((run .udp (fun _ => {}) [.initWithSend {} none .begun true]).finals 0 = true ∧
      ((run .udp (fun _ => {}) [.initWithSend {} none .begun true]).sendMessageFull 0 {}).passed =
        true) ∧
    ((run .quic (fun _ => {}) [.initWithSend {} (some 0) .begun true,
      .event (.cnxReady 0 0)]).finals 0 = true ∧
    ((run .quic (fun _ => {}) [.initWithSend {} (some 0) .begun true,
      .event (.cnxReady 0 0)]).sendMessageFull 0 {}).passed = true) := by
  decide

end CTaps.Messages.Sending
