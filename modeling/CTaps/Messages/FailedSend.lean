import CTaps.Messages.Send

/-! Sends that fail. `ct_send_message_full` ends sending for a FINAL message before it copies the
message and its context and before the framer or the protocol has seen them. Each of these steps can
fail, and what the call has changed by then stays. -/

namespace CTaps.Messages

def eNoMem : Int := 12

structure Below where
  allocated : Bool := true
  reply : Reply := {}
  sid : Nat := 0
deriving DecidableEq, Repr

/-- A run of `encode_message`, code of the application: the calls it makes to the callback it is
given, and what it returns. -/
structure Encoding where
  sends : List Below := []
  rc : Int := 0
deriving DecidableEq, Repr

structure Steps where
  contextCopied : Bool := true
  messageCopied : Bool := true
  framer : Option Encoding := none
  below : Below := {}
deriving DecidableEq, Repr

end CTaps.Messages

namespace CTaps.Connections.World

open Messages (Below Encoding Steps Sending ePipe eNotConn eAgain eIo eNoMem)

/-- `ct_connection_assign_next_free_stream`. -/
def assignNextFreeStream (w : World) (c sid : Nat) : World :=
  (w.modConn c fun x => { x with stream := some sid }).modCnx (w.conn c).group fun x =>
    { x with streamCtx := (sid, c) :: x.streamCtx }

/-- `ct_connection_send_to_protocol`: `tcp_send`, `udp_send` or `quic_send`. -/
def sendToProtocol (w : World) (c : Nat) (b : Below) : World × Int :=
  match w.protocol with
  | .tcp => (w, if b.allocated = false then -eNoMem else b.reply.rc)
  | .udp => (w, if b.allocated = false then -eNoMem else b.reply.rc)
  | .quic =>
    if b.reply.hasCnx = false then (w, -eNotConn)
    else if (w.cnx (w.conn c).group).ready = false then (w, -eAgain)
    else
      let w := if (w.conn c).stream = none then w.assignNextFreeStream c b.sid else w
      (w, if b.reply.rc ≠ 0 then -eIo else 0)

/-- `encode_message` with `ct_connection_send_to_protocol` as its callback. -/
def encodeMessage (w : World) (c : Nat) (x : Encoding) : World × Int :=
  (x.sends.foldl (fun w b => (w.sendToProtocol c b).1) w, x.rc)

/-- `ct_send_message_full`; `context` says whether the message context is marked FINAL, and is none
for NULL. -/
def sendMessageFull (w : World) (c : Nat) (context : Option Bool) (x : Steps) : World × Int :=
  if (w.conn c).canSend = false then (w, -ePipe)
  else
    let w := if context = some true then w.modConn c fun x => { x with canSend := false } else w
    if x.contextCopied = false then (w, -eNoMem)
    else if x.messageCopied = false then (w, -eNoMem)
    else
      match x.framer with
      | some f => w.encodeMessage c f
      | none => w.sendToProtocol c x.below

/-! ### Failures -/

def refuses (w : World) (c : Nat) (b : Below) : Bool :=
  match w.protocol with
  | .tcp | .udp => !b.allocated || decide (b.reply.rc < 0)
  | .quic => !b.reply.hasCnx || !(w.cnx (w.conn c).group).ready || decide (b.reply.rc ≠ 0)

def sendFails (w : World) (c : Nat) (x : Steps) : Bool :=
  !x.contextCopied || !x.messageCopied ||
    match x.framer with
    | some f => decide (f.rc < 0)
    | none => w.refuses c x.below

variable {w : World}

theorem sendToProtocol_neg_iff (w : World) (c : Nat) (b : Below) :
    (w.sendToProtocol c b).2 < 0 ↔ w.refuses c b = true := by
  unfold sendToProtocol refuses
  cases w.protocol with
  | tcp => cases b.allocated <;> simp [eNoMem]
  | udp => cases b.allocated <;> simp [eNoMem]
  | quic =>
    cases hcnx : b.reply.hasCnx with
    | false => simp [eNotConn]
    | true =>
      cases hready : (w.cnx (w.conn c).group).ready with
      | false => simp [eAgain]
      | true =>
        rcases eq_or_ne b.reply.rc 0 with hrc | hrc
        · simp [hrc]
        · simp [hrc, eIo]

theorem sendToProtocol_standing (w : World) (c : Nat) (b : Below) (d : Nat) :
    (((w.sendToProtocol c b).1.conn d).canSend, ((w.sendToProtocol c b).1.conn d).state) =
      ((w.conn d).canSend, (w.conn d).state) := by
  have hassign : (((w.assignNextFreeStream c b.sid).conn d).canSend,
      ((w.assignNextFreeStream c b.sid).conn d).state) = ((w.conn d).canSend, (w.conn d).state) := by
    rw [assignNextFreeStream, modCnx_conn, modConn_conn]
    rcases eq_or_ne d c with rfl | hne
    · rw [Function.update_self]
    · rw [Function.update_of_ne hne]
  unfold sendToProtocol
  split
  · rfl
  · rfl
  · split
    · rfl
    · split
      · rfl
      · dsimp only
        split
        · exact hassign
        · rfl

theorem encodeMessage_standing (w : World) (c : Nat) (x : Encoding) (d : Nat) :
    (((w.encodeMessage c x).1.conn d).canSend, ((w.encodeMessage c x).1.conn d).state) =
      ((w.conn d).canSend, (w.conn d).state) :=
  Lib.foldl_keeps (fun w : World => ((w.conn d).canSend, (w.conn d).state))
    (fun w b => sendToProtocol_standing w c b d) w x.sends

theorem sendMessageFull_neg_iff {c : Nat} (hs : (w.conn c).canSend = true) (context : Option Bool)
    (x : Steps) : (w.sendMessageFull c context x).2 < 0 ↔ w.sendFails c x = true := by
  have hflag (f : Connection → Connection) (hf : (f (w.conn c)).group = (w.conn c).group) :
      (w.modConn c f).refuses c x.below = w.refuses c x.below := by
    unfold refuses
    rw [modConn_conn, Function.update_self, hf]
    rfl
  rw [sendMessageFull, hs, if_neg (by decide), sendFails]
  cases x.contextCopied with
  | false => simp [eNoMem]
  | true =>
    cases x.messageCopied with
    | false => simp [eNoMem]
    | true =>
      cases x.framer with
      | some f => simp [encodeMessage]
      | none =>
        simp only [Bool.true_eq_false, if_false, Bool.not_true, Bool.false_or]
        rw [sendToProtocol_neg_iff]
        split
        · rw [hflag _ rfl]
        · exact Iff.rfl

theorem sendMessageFull_standing {c : Nat} (hs : (w.conn c).canSend = true) (context : Option Bool)
    (x : Steps) :
    (((w.sendMessageFull c context x).1.conn c).canSend,
        ((w.sendMessageFull c context x).1.conn c).state) =
      (decide (context ≠ some true), (w.conn c).state) := by
  set v : World := if context = some true then w.modConn c fun x => { x with canSend := false }
    else w with hv
  have hset : ((v.conn c).canSend, (v.conn c).state) =
      (decide (context ≠ some true), (w.conn c).state) := by
    rw [hv]
    split
    · next hfinal => simp [hfinal]
    · next hfinal => simp [hfinal, hs]
  rw [← hset, sendMessageFull, hs, if_neg (by decide)]
  dsimp only
  rw [← hv]
  split
  · rfl
  · split
    · rfl
    · split
      · exact encodeMessage_standing v c _ c
      · exact sendToProtocol_standing v c _ c

/-- A call that returns a negative value has left `can_send` and the state of the connection as they
were, unless the connection could send, the message is FINAL and a step has failed. -/
theorem failed_send_iff (w : World) (c : Nat) (context : Option Bool) (x : Steps) :
    ((w.sendMessageFull c context x).2 < 0 →
      ((w.sendMessageFull c context x).1.conn c).canSend = (w.conn c).canSend ∧
        ((w.sendMessageFull c context x).1.conn c).state = (w.conn c).state) ↔
      ¬ ((w.conn c).canSend = true ∧ context = some true ∧ w.sendFails c x = true) := by
  cases hs : (w.conn c).canSend with
  | false =>
    have hw : (w.sendMessageFull c context x).1 = w := by rw [sendMessageFull, hs]; rfl
    rw [hw]
    exact iff_of_true (fun _ => ⟨hs, rfl⟩) fun h => Bool.false_ne_true h.1
  | true =>
    obtain ⟨hsend, hstate⟩ := Prod.ext_iff.mp (sendMessageFull_standing hs context x)
    dsimp only at hsend hstate
    rw [sendMessageFull_neg_iff hs, hsend, hstate]
    simp only [and_true, true_and, decide_eq_true_eq, not_and]
    exact ⟨fun h hfinal hfails => h hfails hfinal, fun h hfails hfinal => h hfinal hfails⟩

/-! ### The machine of sends -/

theorem setCanSend_self {c : Nat} (hs : (w.conn c).canSend = true) :
    w.modConn c (fun x => { x with canSend := true }) = w := by
  rw [modConn, ← hs]
  exact congrArg (fun conn => { w with conn := conn }) (Function.update_eq_self c w.conn)

theorem sendMessageFull_world (w : World) (c : Nat) (context : Option Bool) (b : Below)
    (hcnx : b.reply.hasCnx = true) :
    (w.sendMessageFull c context { below := b }).1 =
      w.sendMessage c (context.getD false) b.sid := by
  unfold sendMessageFull sendMessage
  cases hs : (w.conn c).canSend with
  | false => rfl
  | true =>
    have hv : (if context = some true then w.modConn c fun x => { x with canSend := false } else w) =
        w.modConn c fun x => { x with canSend := !(context.getD false) } := by
      rcases context with - | - | -
      · exact (setCanSend_self hs).symm
      · exact (setCanSend_self hs).symm
      · rfl
    rw [if_neg (by decide), if_pos rfl, hv]
    generalize w.modConn c (fun x => { x with canSend := !(context.getD false) }) = v
    simp only [Bool.true_eq_false, if_false]
    unfold sendToProtocol
    cases hp : v.protocol with
    | tcp => simp
    | udp => simp
    | quic =>
      cases hready : (v.cnx (v.conn c).group).ready with
      | false => simp [hcnx]
      | true =>
        rcases hstream : (v.conn c).stream with - | sid
        · simp [hcnx, assignNextFreeStream]
        · simp [hcnx]

theorem sendMessageFull_rc (d : Sending) (c : Nat) (context : Option Bool) (b : Below)
    (hb : b.allocated = true) :
    (d.world.sendMessageFull c context { below := b }).2 = (d.sendMessageFull c b.reply).rc := by
  set v : World := if context = some true then d.world.modConn c fun x => { x with canSend := false }
    else d.world with hv
  have hkeeps : v.protocol = d.world.protocol ∧
      v.cnx (v.conn c).group = d.world.cnx (d.world.conn c).group := by
    rw [hv]
    split
    · simp
    · exact ⟨rfl, rfl⟩
  have hrc : (v.sendToProtocol c b).2 =
      (d.sendToProtocol c b.reply { connection := c, passed := true }).2 := by
    unfold sendToProtocol Sending.sendToProtocol
    rw [hkeeps.1, hkeeps.2]
    cases d.world.protocol with
    | tcp =>
      dsimp only [Messages.Call.tcpSend]
      rw [hb, if_neg (by decide)]
      split
      · rfl
      · next hzero => exact not_not.mp hzero
    | udp =>
      dsimp only [Messages.Call.udpSend]
      rw [hb, if_neg (by decide)]
      split <;> rfl
    | quic =>
      dsimp only [Messages.Call.quicSend]
      split
      · rfl
      · split
        · rfl
        · rcases eq_or_ne b.reply.rc 0 with hrc | hrc
          · simp [hrc]
          · simp [hrc]
  unfold sendMessageFull Sending.sendMessageFull
  cases (d.world.conn c).canSend with
  | false => rfl
  | true =>
    rw [if_neg (by decide), if_pos rfl]
    dsimp only
    rw [← hv, if_neg (by decide), if_neg (by decide), hrc]
    split <;> rfl

/-! ### Failing calls -/

def connectedTcp : World :=
  World.run .tcp [.initiate {} none .begun, .connected 0 true true, .raceWon 0]

def earlyQuic : World :=
  World.run .quic [.listen {} {}, .newCnx 0, .streamData 0 0 0 true, .streamData 0 4 0 true]

theorem failed_send_ends_sending :
    (connectedTcp.sendMessageFull 0 (some true) { below := { reply := { rc := -105 } } }).2 = -105 ∧
    ((connectedTcp.sendMessageFull 0 (some true)
      { below := { reply := { rc := -105 } } }).1.sendMessageFull 0 (some true) {}).2 = -ePipe ∧
    (earlyQuic.conn 1).history.head? = some (.called .ready) ∧
    (earlyQuic.sendMessageFull 1 (some true) {}).2 = -eAgain ∧
    ((earlyQuic.sendMessageFull 1 (some true) {}).1.sendMessageFull 1 (some true) {}).2 = -ePipe := by
  decide

end CTaps.Connections.World
