import CTaps.Connections.Lifetime

/-! Sending. `ct_send_message_full` copies the message and its context and hands the copies to the
send function of the protocol. A record of each call has its result, whether libuv still has its
request, which handlers were called with its context, and how often each of the two copies was
released. -/

namespace CTaps.Messages

open Connections (World Event UserCallbacks)
open Function
open Gathering (Protocol)

def ePipe : Int := 32
def eNotConn : Int := 107
def eAgain : Int := 11
def eIo : Int := 5

inductive Handler
  | sent | sendError
deriving DecidableEq, Repr

structure SendCallbacks where
  sent : Bool := true
  sendError : Bool := true
deriving DecidableEq, Repr

def SendCallbacks.has (cbs : SendCallbacks) : Handler → Bool
  | .sent => cbs.sent
  | .sendError => cbs.sendError

structure Call where
  connection : Nat
  /-- The message and its context were copied, and the send function of the protocol reached. -/
  passed : Bool := false
  rc : Int := 0
  /-- libuv has accepted the request and not yet called back. -/
  outstanding : Bool := false
  handlers : List Handler := []
  messageFrees : Nat := 0
  contextFrees : Nat := 0
deriving DecidableEq, Repr

namespace Call

/-- `ct_message_free` on the copy of the message. -/
def messageFree (x : Call) : Call := { x with messageFrees := x.messageFrees + 1 }

/-- `ct_message_context_free` on the copy of the context. -/
def messageContextFree (x : Call) : Call := { x with contextFrees := x.contextFrees + 1 }

/-- `ct_socket_manager_message_sent_cb` and `ct_socket_manager_message_send_error_cb`. -/
def notify (cbs : SendCallbacks) (h : Handler) (x : Call) : Call :=
  (if cbs.has h then { x with handlers := x.handlers ++ [h] } else x).messageContextFree

/-! ### The send functions of the protocols -/

/-- `tcp_send`, where `uv_write` returns `rc`. -/
def tcpSend (rc : Int) (x : Call) : Call × Int :=
  if rc ≠ 0 then (x, rc) else ({ x with outstanding := true }, 0)

/-- `udp_send`, where `uv_udp_send` returns `rc`. -/
def udpSend (rc : Int) (x : Call) : Call × Int :=
  if rc < 0 then (x, rc) else ({ x with outstanding := rc = 0 }, rc)

/-- `quic_send`, where `picoquic_add_to_stream_with_ctx` returns `rc`. The message is copied by
picoquic, and the outcome is reported from inside the call. -/
def quicSend (cbs : SendCallbacks) (hasCnx ready : Bool) (rc : Int) (x : Call) : Call × Int :=
  if hasCnx = false then (x, -eNotConn)
  else if ready = false then (x, -eAgain)
  else if rc ≠ 0 then (x, -eIo)
  else (x.messageFree.notify cbs .sent, 0)

/-! ### The callbacks of libuv -/

def onWrite (cbs : SendCallbacks) (status : Int) (x : Call) : Call :=
  ({ x with outstanding := false }.notify cbs (if status < 0 then .sendError else .sent)).messageFree

def onSend (cbs : SendCallbacks) (status : Int) (x : Call) : Call :=
  { x with outstanding := false }.messageFree.notify cbs (if status ≠ 0 then .sendError else .sent)

end Call

/-- What the world below the library answers to a send: whether there is a picoquic connection, and
the result of `uv_write`, `uv_udp_send` or `picoquic_add_to_stream_with_ctx`. -/
structure Reply where
  hasCnx : Bool := true
  rc : Int := 0
deriving DecidableEq, Repr

structure Sending where
  world : World
  callbacks : Nat → SendCallbacks := fun _ => {}
  finals : Nat → Bool := fun _ => false
  numCalls : Nat := 0
  call : Nat → Call := fun _ => { connection := 0 }

namespace Sending

/-- `ct_connection_send_to_protocol`. -/
def sendToProtocol (d : Sending) (c : Nat) (reply : Reply) (x : Call) : Call × Int :=
  match d.world.protocol with
  | .tcp => x.tcpSend reply.rc
  | .udp => x.udpSend reply.rc
  | .quic =>
    x.quicSend (d.callbacks c) reply.hasCnx (d.world.cnx (d.world.conn c).group).ready reply.rc

/-- `ct_send_message_full` on connection `c`. -/
def sendMessageFull (d : Sending) (c : Nat) (reply : Reply) : Call :=
  if (d.world.conn c).canSend then
    let r := d.sendToProtocol c reply { connection := c, passed := true }
    -- a protocol that fails leaves both copies to the caller
    if r.2 < 0 then { r.1.messageFree.messageContextFree with rc := r.2 } else { r.1 with rc := r.2 }
  else { connection := c, rc := -ePipe }

inductive Input
  | event (e : Event)
  | initWithSend (cbs : UserCallbacks) (early : Option Nat) (start : World.Start) (isFinal : Bool)
  | send (c : Nat) (context : Option Bool) (sid : Nat) (reply : Reply)
  | completed (i : Nat) (status : Int)
deriving DecidableEq, Repr

def pending (d : Sending) (c : Nat) : Bool :=
  (List.range d.numCalls).any fun i => (d.call i).connection = c ∧ (d.call i).outstanding

def mayHappen (d : Sending) : Event → Bool
  | .send .. => false
  | .free c => d.pending c = false
  | _ => true

def enabled (d : Sending) : Input → Bool
  | .event e => d.mayHappen e ∧ d.world.enabled e
  | .initWithSend .. => true
  | .send c _ _ _ => d.world.held c
  | .completed i _ => i < d.numCalls ∧ (d.call i).outstanding

/-- `on_write` or `on_send` for the request of call `i`. -/
def complete (d : Sending) (i : Nat) (status : Int) : Call :=
  match d.world.protocol with
  | .tcp => (d.call i).onWrite (d.callbacks (d.call i).connection) status
  | _ => (d.call i).onSend (d.callbacks (d.call i).connection) status

def act (d : Sending) : Input → Sending
  | .event e => { d with world := d.world.step e }
  | .initWithSend cbs early start isFinal =>
    { d with
      world := d.world.step (.initiate cbs early start)
      -- the first message is accepted with the start of its connection
      finals :=
        if isFinal ∧ start = .begun then update d.finals d.world.numConns true
        else d.finals }
  | .send c context sid reply =>
    { d with
      world := d.world.sendMessage c (context.getD false) sid
      finals :=
        if context.getD false ∧ (d.sendMessageFull c reply).rc = 0 then
          update d.finals c true
        else d.finals
      numCalls := d.numCalls + 1
      call := update d.call d.numCalls (d.sendMessageFull c reply) }
  | .completed i status => { d with call := update d.call i (d.complete i status) }

def step (d : Sending) (i : Input) : Sending := if d.enabled i then d.act i else d

def run (p : Protocol) (callbacks : Nat → SendCallbacks) (is : List Input) : Sending :=
  Lib.run step { world := { protocol := p }, callbacks := callbacks } is

end Sending

/-! ### The outcome of a call -/

namespace Call

structure Told (cbs : SendCallbacks) (status : Int) (y : Call) : Prop where
  ended : y.outstanding = false
  handler : ∃ h, (status < 0 → h = .sendError) ∧ (status = 0 → h = .sent) ∧
    y.handlers = if cbs.has h then [h] else []
  message : y.messageFrees = 1
  context : y.contextFrees = 1

/-- What becomes of a call that returned as `x`, where `y` is its record later in the run and libuv
has called back with `statuses` in between. -/
structure Outcome (p : Protocol) (cbs : SendCallbacks) (statuses : List Int) (x y : Call) :
    Prop where
  /-- The copies were released before the return, if there were any, and nothing follows. -/
  rejected : x.rc < 0 → y = x ∧ x.outstanding = false ∧ x.handlers = [] ∧
    x.messageFrees = x.passed.toNat ∧ x.contextFrees = x.passed.toNat
  requested : x.rc = 0 → p ≠ .quic → x.outstanding = true ∧ x.handlers = [] ∧
    x.messageFrees = 0 ∧ x.contextFrees = 0
  /-- Nothing happens to the request until libuv calls back. -/
  unanswered : x.rc = 0 → p ≠ .quic → statuses = [] → y = x
  answered : x.rc = 0 → p ≠ .quic → ∀ status later, statuses = status :: later → Told cbs status y
  /-- picoquic has taken the message when `quic_send` returns. -/
  atOnce : x.rc = 0 → p = .quic → y = x ∧ Told cbs 0 x

variable {cbs : SendCallbacks}

theorem notify_handlers (h : Handler) {x : Call} (hx : x.handlers = []) :
    (x.notify cbs h).handlers = if cbs.has h then [h] else [] := by
  unfold notify messageContextFree
  split <;> simp [hx]

theorem notify_keeps (cbs : SendCallbacks) (h : Handler) (x : Call) :
    (x.notify cbs h).outstanding = x.outstanding ∧
      (x.notify cbs h).messageFrees = x.messageFrees ∧
      (x.notify cbs h).contextFrees = x.contextFrees + 1 ∧
      (x.notify cbs h).connection = x.connection := by
  unfold notify messageContextFree
  split <;> exact ⟨rfl, rfl, rfl, rfl⟩

theorem notify_messageFree (h : Handler) (x : Call) :
    (x.notify cbs h).messageFree = x.messageFree.notify cbs h := by
  unfold notify messageFree messageContextFree
  dsimp only
  split <;> rfl

theorem told_notify {status : Int} {x : Call} {h : Handler} (hout : x.outstanding = false)
    (hx : x.handlers = []) (hm : x.messageFrees = 1) (hc : x.contextFrees = 0)
    (herr : status < 0 → h = .sendError) (hok : status = 0 → h = .sent) :
    Told cbs status (x.notify cbs h) := by
  obtain ⟨ho, hmf, hcf, -⟩ := notify_keeps cbs h x
  refine ⟨ho.trans hout, ⟨h, herr, hok, notify_handlers h hx⟩, hmf.trans hm, ?_⟩
  rw [hcf, hc]

variable {x : Call}

theorem told_onWrite (hx : x.handlers = []) (hm : x.messageFrees = 0) (hc : x.contextFrees = 0)
    (status : Int) : Told cbs status (x.onWrite cbs status) := by
  unfold onWrite
  rw [notify_messageFree]
  refine told_notify rfl hx (congrArg (· + 1) hm) hc (fun herr => ?_) (fun hok => ?_)
  · exact if_pos herr
  · exact if_neg (by omega)

theorem told_onSend (hx : x.handlers = []) (hm : x.messageFrees = 0) (hc : x.contextFrees = 0)
    (status : Int) : Told cbs status (x.onSend cbs status) := by
  refine told_notify rfl hx (congrArg (· + 1) hm) hc (fun herr => ?_) (fun hok => ?_)
  · exact if_pos (Int.ne_of_lt herr)
  · exact if_neg (not_not_intro hok)

end Call

namespace Sending

variable {d : Sending}

inductive Returned (p : Protocol) (cbs : SendCallbacks) (x : Call) : Prop
  | requested (hp : p ≠ .quic) (hrc : x.rc = 0) (hout : x.outstanding = true) (hh : x.handlers = [])
      (hm : x.messageFrees = 0) (hc : x.contextFrees = 0)
  | atOnce (hp : p = .quic) (hrc : x.rc = 0) (htold : x.Told cbs 0)
  | failed (hrc : x.rc ≠ 0) (hout : x.outstanding = false)
      (hfree : x.rc < 0 → x.handlers = [] ∧ x.messageFrees = x.passed.toNat ∧
        x.contextFrees = x.passed.toNat)

theorem sendToProtocol_cases (d : Sending) (c : Nat) (reply : Reply) {x : Call}
    (hx : x.outstanding = false) :
    (d.world.protocol ≠ .quic ∧ d.sendToProtocol c reply x = ({ x with outstanding := true }, 0)) ∨
    (d.world.protocol = .quic ∧
      d.sendToProtocol c reply x = (x.messageFree.notify (d.callbacks c) .sent, 0)) ∨
    ∃ rc, rc ≠ 0 ∧ d.sendToProtocol c reply x = (x, rc) := by
  unfold sendToProtocol
  split
  · next hp =>
    unfold Call.tcpSend
    split
    · next hrc => exact Or.inr (Or.inr ⟨_, hrc, rfl⟩)
    · exact Or.inl ⟨by simp [hp], rfl⟩
  · next hp =>
    unfold Call.udpSend
    split
    · next hrc => exact Or.inr (Or.inr ⟨_, Int.ne_of_lt hrc, rfl⟩)
    · by_cases hzero : reply.rc = 0
      · rw [hzero]
        exact Or.inl ⟨by simp [hp], rfl⟩
      · refine Or.inr (Or.inr ⟨_, hzero, ?_⟩)
        rw [decide_eq_false hzero, ← hx]
  · next hp =>
    unfold Call.quicSend
    split
    · exact Or.inr (Or.inr ⟨_, by decide, rfl⟩)
    · split
      · exact Or.inr (Or.inr ⟨_, by decide, rfl⟩)
      · split
        · exact Or.inr (Or.inr ⟨_, by decide, rfl⟩)
        · exact Or.inr (Or.inl ⟨hp, rfl⟩)

theorem returned_sendMessageFull (d : Sending) (c : Nat) (reply : Reply) :
    Returned d.world.protocol (d.callbacks c) (d.sendMessageFull c reply) := by
  unfold sendMessageFull
  split
  · dsimp only
    obtain ⟨hp, heq⟩ | ⟨hp, heq⟩ | ⟨rc, hrc, heq⟩ :=
      d.sendToProtocol_cases c reply (x := { connection := c, passed := true }) rfl
    · rw [heq]
      exact .requested hp rfl rfl rfl rfl rfl
    · rw [heq]
      set x : Call := ({ connection := c, passed := true } : Call).messageFree
      have htold : Call.Told (d.callbacks c) 0 (x.notify (d.callbacks c) .sent) :=
        Call.told_notify rfl rfl rfl rfl (fun herr => absurd herr (by decide)) (fun _ => rfl)
      exact .atOnce hp rfl ⟨htold.ended, htold.handler, htold.message, htold.context⟩
    · rw [heq]
      dsimp only
      split
      · exact .failed hrc rfl fun _ => ⟨rfl, rfl, rfl⟩
      · next hpos => exact .failed hrc rfl fun hneg => absurd hneg hpos
  · exact .failed (show -ePipe ≠ 0 by decide) rfl fun _ => ⟨rfl, rfl, rfl⟩

theorem sendMessageFull_connection (d : Sending) (c : Nat) (reply : Reply) :
    (d.sendMessageFull c reply).connection = c := by
  unfold sendMessageFull
  split
  · dsimp only
    obtain ⟨-, heq⟩ | ⟨-, heq⟩ | ⟨rc, -, heq⟩ :=
      d.sendToProtocol_cases c reply (x := { connection := c, passed := true }) rfl
    · rw [heq]
      rfl
    · rw [heq]
      exact (Call.notify_keeps _ .sent _).2.2.2
    · rw [heq]
      dsimp only
      split <;> rfl
  · rfl

/-! ### The rest of the run -/

def Input.status (i : Nat) : Input → Option Int
  | .completed j status => if j = i then some status else none
  | _ => none

def statuses (i : Nat) (is : List Input) : List Int := is.filterMap (Input.status i)

theorem same_step (d : Sending) (e : Input) :
    (d.step e).world.protocol = d.world.protocol ∧ (d.step e).callbacks = d.callbacks ∧
      d.numCalls ≤ (d.step e).numCalls := by
  unfold Sending.step
  split
  · cases e with
    | event e => exact ⟨World.protocol_step _ _, rfl, Nat.le_refl _⟩
    | initWithSend cbs early start isFinal => exact ⟨World.protocol_step _ _, rfl, Nat.le_refl _⟩
    | send c context sid reply =>
      exact ⟨World.protocol_of_site (World.site_sendMessage _ _ _ _), rfl, Nat.le_succ _⟩
    | completed i status => exact ⟨rfl, rfl, Nat.le_refl _⟩
  · exact ⟨rfl, rfl, Nat.le_refl _⟩

theorem same_run (p : Protocol) (callbacks : Nat → SendCallbacks) (is : List Input) :
    (run p callbacks is).world.protocol = p ∧ (run p callbacks is).callbacks = callbacks := by
  refine Lib.run_invariant_of_step
    (I := fun d : Sending => d.world.protocol = p ∧ d.callbacks = callbacks)
    (fun d e hd => ?_) ⟨rfl, rfl⟩ is
  obtain ⟨hp, hcbs, -⟩ := same_step d e
  exact ⟨hp.trans hd.1, hcbs.trans hd.2⟩

theorem call_step_none {i : Nat} (hi : i < d.numCalls) {e : Input} (hst : e.status i = none) :
    (d.step e).call i = d.call i := by
  unfold Sending.step
  split
  · cases e with
    | event e | initWithSend cbs early start isFinal => rfl
    | send c context sid reply => exact update_of_ne (Nat.ne_of_lt hi) _ _
    | completed j status =>
      have hj : i ≠ j := by
        rintro rfl
        simp [Input.status] at hst
      exact update_of_ne hj _ _
  · rfl

theorem call_step_some {i : Nat} (hi : i < d.numCalls) {e : Input} {status : Int}
    (hst : e.status i = some status) :
    (d.step e).call i = if (d.call i).outstanding then d.complete i status else d.call i := by
  cases e with
  | event e | initWithSend cbs early start isFinal | send c context sid reply => cases hst
  | completed j status' =>
    obtain ⟨rfl, rfl⟩ : j = i ∧ status' = status := by
      simpa [Input.status] using hst
    unfold Sending.step
    cases hout : (d.call j).outstanding with
    | true => simp [enabled, hi, hout, act]
    | false => simp [enabled, hout]

theorem complete_outstanding (d : Sending) (i : Nat) (status : Int) :
    (d.complete i status).outstanding = false := by
  unfold complete
  split
  · exact (Call.notify_keeps _ _ _).1
  · exact (Call.notify_keeps _ _ _).1

theorem call_run_of_ended {i : Nat} (hi : i < d.numCalls) (hout : (d.call i).outstanding = false)
    (js : List Input) : (Lib.run step d js).call i = d.call i := by
  induction js generalizing d with
  | nil => rfl
  | cons e js ih =>
    have hcall : (d.step e).call i = d.call i := by
      cases hst : e.status i with
      | none => exact call_step_none hi hst
      | some status => simp [call_step_some hi hst, hout]
    rw [Lib.run_cons, ih (Nat.lt_of_lt_of_le hi (same_step d e).2.2) (hcall ▸ hout), hcall]

theorem call_run {i : Nat} (hi : i < d.numCalls) (hout : (d.call i).outstanding = true)
    (js : List Input) :
    (Lib.run step d js).call i =
      match statuses i js with
      | [] => d.call i
      | status :: _ => d.complete i status := by
  induction js generalizing d with
  | nil => rfl
  | cons e js ih =>
    obtain ⟨hp, hcbs, hle⟩ := same_step d e
    have hi' : i < (d.step e).numCalls := Nat.lt_of_lt_of_le hi hle
    cases hst : e.status i with
    | some status =>
      have hcall : (d.step e).call i = d.complete i status := by
        rw [call_step_some hi hst, if_pos hout]
      have hended : ((d.step e).call i).outstanding = false := by
        rw [hcall, complete_outstanding]
      rw [Lib.run_cons, call_run_of_ended hi' hended, hcall]
      simp [statuses, hst]
    | none =>
      have hcall := call_step_none hi hst
      have hcomplete : ∀ status, (d.step e).complete i status = d.complete i status := by
        intro status
        unfold complete
        rw [hp, hcbs, hcall]
      rw [Lib.run_cons, ih hi' (hcall ▸ hout), hcall]
      simp [statuses, hst, hcomplete]

theorem told_complete {i : Nat} (hh : (d.call i).handlers = []) (hm : (d.call i).messageFrees = 0)
    (hc : (d.call i).contextFrees = 0) (status : Int) :
    (d.complete i status).Told (d.callbacks (d.call i).connection) status := by
  unfold complete
  split
  · exact Call.told_onWrite hh hm hc status
  · exact Call.told_onSend hh hm hc status

theorem outcome_of_returned {i : Nat} (hi : i < d.numCalls)
    (hret : Returned d.world.protocol (d.callbacks (d.call i).connection) (d.call i))
    (js : List Input) :
    Call.Outcome d.world.protocol (d.callbacks (d.call i).connection) (statuses i js) (d.call i)
      ((Lib.run step d js).call i) := by
  cases hret with
  | requested hp hrc hout hh hm hc =>
    refine ⟨fun hneg => ?_, fun _ _ => ⟨hout, hh, hm, hc⟩, fun _ _ hnone => ?_,
      fun _ _ status later hsome => ?_, fun _ hquic => absurd hquic hp⟩
    · omega
    · rw [call_run hi hout, hnone]
    · rw [call_run hi hout, hsome]
      exact told_complete hh hm hc status
  | atOnce hp hrc htold =>
    have hsame := call_run_of_ended hi htold.ended js
    refine ⟨fun hneg => ?_, fun _ hne => absurd hp hne, fun _ hne => absurd hp hne,
      fun _ hne => absurd hp hne, fun _ _ => ⟨hsame, htold⟩⟩
    omega
  | failed hrc hout hfree =>
    have hsame := call_run_of_ended hi hout js
    exact ⟨fun hneg => ⟨hsame, hout, hfree hneg⟩, fun hzero => absurd hzero hrc,
      fun hzero => absurd hzero hrc, fun hzero => absurd hzero hrc, fun hzero => absurd hzero hrc⟩

/-- After any run and whatever follows: if `ct_send_message_full` returns an error, the copies it
made have been released once each, and no handler is ever called. If it returns 0 over TCP or UDP,
nothing happens until libuv calls back; the first callback ends the request, calls `send_error` for
an error and `sent` for success, once, and releases both copies, once. Over QUIC all this has
happened at the return. -/
theorem send_outcome (p : Protocol) (callbacks : Nat → SendCallbacks) (is js : List Input) (c : Nat)
    (context : Option Bool) (sid : Nat) (reply : Reply)
    (hc : (run p callbacks is).world.held c = true) :
    Call.Outcome p (callbacks c) (statuses (run p callbacks is).numCalls js)
      ((run p callbacks is).sendMessageFull c reply)
      ((run p callbacks (is ++ .send c context sid reply :: js)).call
        (run p callbacks is).numCalls) := by
  obtain ⟨hp, hcbs⟩ := same_run p callbacks is
  set d := run p callbacks is with hd
  set d' := d.step (.send c context sid reply) with hd'
  have hact : d' = d.act (.send c context sid reply) := if_pos hc
  have hcall : d'.call d.numCalls = d.sendMessageFull c reply := by
    rw [hact]
    exact update_self _ _ _
  have hconn : (d'.call d.numCalls).connection = c := by
    rw [hcall, sendMessageFull_connection]
  have hlt : d.numCalls < d'.numCalls := by
    rw [hact]
    exact Nat.lt_succ_self _
  obtain ⟨hp', hcbs', -⟩ := same_step d (.send c context sid reply)
  have hret : Returned d'.world.protocol (d'.callbacks (d'.call d.numCalls).connection)
      (d'.call d.numCalls) := by
    rw [hconn, hcall, hp', hcbs']
    exact d.returned_sendMessageFull c reply
  have hout := outcome_of_returned hlt hret js
  have hrun : run p callbacks (is ++ .send c context sid reply :: js) = Lib.run step d' js := by
    rw [run, Lib.run_append, Lib.run_cons, ← run, ← hd]
  rw [hconn, hcall, hp', hcbs', hp, hcbs] at hout
  rw [hrun]
  exact hout

/-- A TCP write that fails after a refused one, a UDP datagram that is sent while another one waits
and there is no `send_error` handler, and a QUIC message that picoquic takes. -/
theorem send_outcome_each :
    (((run .tcp (fun _ => {}) [.event (.initiate {} none .begun), .event (.connected 0 true true),
        .event (.raceWon 0), .send 0 none 0 {}, .send 0 (some true) 0 { rc := -32 },
        .completed 0 (-104)]).call 0).Told {} (-104) ∧
      ((run .tcp (fun _ => {}) [.event (.initiate {} none .begun), .event (.connected 0 true true),
        .event (.raceWon 0), .send 0 none 0 {}, .send 0 (some true) 0 { rc := -32 },
        .completed 0 (-104)]).call 1).messageFrees = 1) ∧
    ((run .udp (fun _ => { sendError := false }) [.event (.initiate {} none .begun),
      .event (.raceWon 0), .send 0 none 0 {}, .send 0 none 0 {}, .completed 1 0]).call 1).Told
        { sendError := false } 0 ∧
    ((run .quic (fun _ => {}) [.event (.initiate {} none .begun), .event (.cnxReady 0 0),
      .event (.raceWon 0), .send 0 (some true) 0 {}, .event (.close 0)]).call 0).Told {} 0 := by
  refine ⟨⟨?_, ?_⟩, ?_, ?_⟩
  · exact (send_outcome .tcp (fun _ => {}) [.event (.initiate {} none .begun),
      .event (.connected 0 true true), .event (.raceWon 0)] [.send 0 (some true) 0 { rc := -32 },
      .completed 0 (-104)] 0 none 0 {} (by decide)).answered (by decide) (by decide) _ [] (by decide)
  · have h := (send_outcome .tcp (fun _ => {}) [.event (.initiate {} none .begun),
      .event (.connected 0 true true), .event (.raceWon 0), .send 0 none 0 {}] [.completed 0 (-104)]
      0 (some true) 0 { rc := -32 } (by decide)).rejected (by decide)
    exact (congrArg Call.messageFrees h.1).trans (h.2.2.2.1.trans (by decide))
  · exact (send_outcome .udp (fun _ => { sendError := false }) [.event (.initiate {} none .begun),
      .event (.raceWon 0), .send 0 none 0 {}] [.completed 1 0] 0 none 0 {} (by decide)).answered
      (by decide) (by decide) _ [] (by decide)
  · have h := (send_outcome .quic (fun _ => {}) [.event (.initiate {} none .begun),
      .event (.cnxReady 0 0), .event (.raceWon 0)] [.event (.close 0)] 0 (some true) 0 {}
      (by decide)).atOnce (by decide) rfl
    exact h.1 ▸ h.2

end Sending

end CTaps.Messages
