import CTaps.Lib.Machine
import CTaps.Lib.Rendezvous

/-! The receive queues of a connection: `received_messages` has the messages that arrived before
they were asked for, `received_callbacks` the requests made before a message arrived. A receive
callback may itself ask for a message, so callbacks can be running inside each other; `running` has
their messages, innermost first. -/

namespace CTaps.Messages

variable {M K : Type}

/-- `ct_receive_callbacks_t`. -/
structure ReceiveCallbacks (K : Type) where
  receiveCallback : Bool := true
  perReceiveContext : K
deriving DecidableEq, Repr

structure Inbox (M K : Type) where
  receivedMessages : List M := []
  receivedCallbacks : List (ReceiveCallbacks K) := []
  /-- The calls of receive callbacks, oldest first: the message, and the `per_receive_context` of
  its context. -/
  delivered : List (M × K) := []
  running : List M := []
  released : List M := []
  /-- A callback that is NULL has been called. -/
  crashed : Bool := false
deriving DecidableEq, Repr

namespace Inbox

def call (m : M) (k : ReceiveCallbacks K) (x : Inbox M K) : Inbox M K :=
  { x with delivered := x.delivered ++ [(m, k.perReceiveContext)], running := m :: x.running }

/-- `ct_connection_deliver_to_app`. Unlike `ct_receive_message` it does not look whether the
callback is NULL. -/
def deliverToApp (m : M) (x : Inbox M K) : Inbox M K :=
  match x.receivedCallbacks with
  | [] => { x with receivedMessages := x.receivedMessages ++ [m] }
  | k :: ks =>
    let x := { x with receivedCallbacks := ks }
    -- the source calls the pointer as it is
    if k.receiveCallback then x.call m k else { x with crashed := true }

def receiveMessage (k : ReceiveCallbacks K) (x : Inbox M K) : Inbox M K :=
  match x.receivedMessages with
  | [] => { x with receivedCallbacks := x.receivedCallbacks ++ [k] }
  | m :: ms =>
    let x := { x with receivedMessages := ms }
    if k.receiveCallback then x.call m k else { x with released := m :: x.released }

def callbackReturned (x : Inbox M K) : Inbox M K :=
  match x.running with
  | [] => x
  | m :: ms => { x with running := ms, released := m :: x.released }

/-- `ct_connection_on_protocol_receive`. A framer makes any number of messages of the data; without
one there is one message. -/
def onProtocolReceive (messages : List M) (x : Inbox M K) : Inbox M K :=
  messages.foldl (fun x m => x.deliverToApp m) x

def data (x : Inbox M K) : List M := x.delivered.map Prod.fst ++ x.receivedMessages

theorem data_receiveMessage (x : Inbox M K) (k : ReceiveCallbacks K) :
    (x.receiveMessage k).data.Sublist x.data := by
  unfold receiveMessage data
  split
  · exact List.Sublist.refl _
  · next m ms hms =>
    rw [hms]
    dsimp only
    split
    · simp [call]
    · exact (List.sublist_cons_self m ms).append_left _

theorem data_callbackReturned (x : Inbox M K) : x.callbackReturned.data = x.data := by
  unfold callbackReturned
  split <;> rfl

inductive Event (M K : Type)
  | incoming (m : M)
  | receive (k : ReceiveCallbacks K)
  | returned
deriving DecidableEq, Repr

def step (x : Inbox M K) : Event M K → Inbox M K
  | .incoming m => x.onProtocolReceive [m]
  | .receive k => x.receiveMessage k
  | .returned => x.callbackReturned

def run (es : List (Event M K)) : Inbox M K := Lib.run step {} es

def arrivals : List (Event M K) → List M :=
  List.filterMap fun
    | .incoming m => some m
    | _ => none

def requests : List (Event M K) → List (ReceiveCallbacks K) :=
  List.filterMap fun
    | .receive k => some k
    | _ => none

/-! ### Pairing -/

def meeting (x : Inbox M K) : Lib.Rendezvous M K :=
  { offers := x.receivedMessages
    requests := x.receivedCallbacks.map ReceiveCallbacks.perReceiveContext
    met := x.delivered }

variable {x : Inbox M K}

theorem meeting_deliverToApp (h : ∀ k ∈ x.receivedCallbacks, k.receiveCallback = true) (m : M) :
    (x.deliverToApp m).meeting = x.meeting.offer m := by
  unfold deliverToApp Lib.Rendezvous.offer
  cases hk : x.receivedCallbacks with
  | nil => simp [meeting, hk]
  | cons k ks =>
    have hcallback : k.receiveCallback = true := h k (hk ▸ List.mem_cons_self)
    simp [meeting, hk, hcallback, call]

theorem meeting_receiveMessage {k : ReceiveCallbacks K} (hk : k.receiveCallback = true) :
    (x.receiveMessage k).meeting = x.meeting.request k.perReceiveContext := by
  unfold receiveMessage Lib.Rendezvous.request
  cases hm : x.receivedMessages with
  | nil => simp [meeting, hm]
  | cons m ms => simp [meeting, hm, hk, call]

theorem queues_callbackReturned (x : Inbox M K) :
    x.callbackReturned.receivedMessages = x.receivedMessages ∧
      x.callbackReturned.receivedCallbacks = x.receivedCallbacks := by
  unfold callbackReturned
  split <;> exact ⟨rfl, rfl⟩

theorem meeting_callbackReturned (x : Inbox M K) : x.callbackReturned.meeting = x.meeting := by
  unfold callbackReturned
  split <;> rfl

structure Matched (es : List (Event M K)) (x : Inbox M K) : Prop where
  pairs : Lib.Pairs (arrivals es) ((requests es).map ReceiveCallbacks.perReceiveContext) x.meeting
  callbacks : ∀ k ∈ x.receivedCallbacks, k.receiveCallback = true
  not_crashed : x.crashed = false

def HasCallback : Event M K → Prop
  | .receive k => k.receiveCallback = true
  | _ => True

instance (e : Event M K) : Decidable (HasCallback e) := by
  rcases e with ⟨⟩ <;> dsimp only [HasCallback] <;> infer_instance

theorem Matched.incoming {es : List (Event M K)} (h : Matched es x) (m : M) :
    Matched (es ++ [.incoming m]) (x.deliverToApp m) := by
  constructor
  · rw [meeting_deliverToApp h.callbacks]
    have hpairs := h.pairs.offer m
    simpa [arrivals, requests] using hpairs
  · intro k hk
    refine h.callbacks k ?_
    unfold deliverToApp at hk
    split at hk
    · exact hk
    · next k' ks hks =>
      rw [hks]
      split at hk
      · exact List.mem_cons_of_mem _ hk
      · exact List.mem_cons_of_mem _ hk
  · unfold deliverToApp
    split
    · exact h.not_crashed
    · next k ks hks =>
      have hcallback : k.receiveCallback = true := h.callbacks k (hks ▸ List.mem_cons_self)
      simpa [hcallback, call] using h.not_crashed

theorem Matched.receive {es : List (Event M K)} (h : Matched es x) {k : ReceiveCallbacks K}
    (hk : k.receiveCallback = true) : Matched (es ++ [.receive k]) (x.receiveMessage k) := by
  constructor
  · rw [meeting_receiveMessage hk]
    have hpairs := h.pairs.request k.perReceiveContext
    simpa [arrivals, requests] using hpairs
  · unfold receiveMessage
    split
    · intro k' hk'
      rcases List.mem_append.mp hk' with hold | hnew
      · exact h.callbacks k' hold
      · rw [List.mem_singleton.mp hnew]
        exact hk
    · simpa [hk, call] using h.callbacks
  · unfold receiveMessage
    split
    · exact h.not_crashed
    · simpa [hk, call] using h.not_crashed

theorem Matched.returned {es : List (Event M K)} (h : Matched es x) :
    Matched (es ++ [.returned]) x.callbackReturned := by
  have hcrashed : x.callbackReturned.crashed = x.crashed := by
    unfold callbackReturned
    split <;> rfl
  constructor
  · rw [meeting_callbackReturned]
    simpa [arrivals, requests] using h.pairs
  · rw [x.queues_callbackReturned.2]
    exact h.callbacks
  · rw [hcrashed]
    exact h.not_crashed

theorem Matched.step {es : List (Event M K)} (h : Matched es x) {e : Event M K}
    (he : HasCallback e) : Matched (es ++ [e]) (x.step e) := by
  cases e with
  | incoming m => exact h.incoming m
  | receive k => exact h.receive he
  | returned => exact h.returned

theorem matched_new : Matched [] ({} : Inbox M K) :=
  ⟨Lib.pairs_nil, fun _ hk => absurd hk List.not_mem_nil, rfl⟩

theorem matched_run {es : List (Event M K)} (hes : ∀ e ∈ es, HasCallback e) :
    Matched es (run es) :=
  Lib.run_history (p := HasCallback) (fun _ _ _ h he => h.step he) matched_new hes

/-- However messages, requests and returning callbacks are interleaved, the `i`-th message is
delivered to the `i`-th request, with its context, as far as there are both, and the rest waits in
order. -/
theorem receive_pairing (es : List (Event M K)) (hes : ∀ e ∈ es, HasCallback e) :
    ((run es).receivedMessages = [] ∨ (run es).receivedCallbacks = []) ∧
    (run es).delivered =
      (arrivals es).zip ((requests es).map ReceiveCallbacks.perReceiveContext) ∧
    (run es).delivered.length = min (arrivals es).length (requests es).length ∧
    (run es).receivedMessages = (arrivals es).drop (requests es).length ∧
    (run es).receivedCallbacks.map ReceiveCallbacks.perReceiveContext =
      ((requests es).map ReceiveCallbacks.perReceiveContext).drop (arrivals es).length ∧
    (run es).crashed = false := by
  obtain ⟨hpairs, -, hcrashed⟩ := matched_run hes
  have hlength := hpairs.length_met
  have hmessages := hpairs.offers_eq
  rw [List.length_map] at hlength hmessages
  refine ⟨?_, hpairs.met_eq, hlength, hmessages, hpairs.requests_eq, hcrashed⟩
  rcases hpairs.one_empty with hnone | hnone
  · exact Or.inl hnone
  · exact Or.inr (List.map_eq_nil_iff.mp hnone)

theorem receive_pairing_nested :
    (run [.incoming 1, .incoming 2, .receive { perReceiveContext := 10 },
      .receive { perReceiveContext := 20 }, .returned, .returned,
      .receive { perReceiveContext := 30 }, .incoming 3]).delivered.length = 3 := by
  have hpairing := receive_pairing [.incoming 1, .incoming 2, .receive { perReceiveContext := 10 },
    .receive { perReceiveContext := 20 }, .returned, .returned,
    .receive { perReceiveContext := 30 }, .incoming 3] (by decide)
  exact hpairing.2.2.1

end Inbox

end CTaps.Messages
