import CTaps.Messages.Receive

/-! A message that is delivered before it is asked for, and one that is asked for before it is
delivered. `ct_connection_deliver_to_app` makes a context for a message that has none, but calls the
receive callback without looking; `ct_receive_message` looks whether there is a callback, but writes
to the context without looking. -/

namespace CTaps.Messages

variable {M E K : Type}

namespace Inbox

/-- `ct_connection_deliver_to_app` of a message with the endpoints of its context, none for a context
that is NULL, on a connection with the given active endpoints. -/
def deliver (active : E) (m : M × Option E) (x : Inbox (M × Option E) K) : Inbox (M × Option E) K :=
  if x.receivedCallbacks.isEmpty then x.deliverToApp m
  else x.deliverToApp (m.1, some (m.2.getD active))

/-- `ct_receive_message`, with its write to the context of the message that waits. -/
def request (k : ReceiveCallbacks K) (x : Inbox (M × Option E) K) : Inbox (M × Option E) K :=
  match x.receivedMessages with
  | (_, none) :: ms => { x with receivedMessages := ms, crashed := true }
  | _ => x.receiveMessage k

inductive Turn (M E K : Type)
  | deliver (active : E) (m : M × Option E)
  | request (k : ReceiveCallbacks K)
  | returned

def turn (x : Inbox (M × Option E) K) : Turn M E K → Inbox (M × Option E) K
  | .deliver active m => x.deliver active m
  | .request k => x.request k
  | .returned => x.callbackReturned

def OneWaits (x : Inbox (M × Option E) K) : Prop :=
  x.receivedMessages = [] ∨ x.receivedCallbacks = []

def OrderFree (active : E) (m : M × Option E) (k : ReceiveCallbacks K)
    (x : Inbox (M × Option E) K) : Prop :=
  (x.deliver active m).request k = (x.request k).deliver active m ∧
    ((x.deliver active m).request k).crashed = false

structure Ready (m : M × Option E) (k : ReceiveCallbacks K) (x : Inbox (M × Option E) K) : Prop where
  context : x.receivedCallbacks = [] → ∀ first, (x.receivedMessages ++ [m]).head? = some first →
    first.2.isSome = true
  callback : x.receivedMessages = [] → ∀ first, (x.receivedCallbacks ++ [k]).head? = some first →
    first.receiveCallback = true

section Turns

variable {x : Inbox (M × Option E) K} {active : E} {m : M × Option E} {k : ReceiveCallbacks K}

theorem deliver_of_nil (h : x.receivedCallbacks = []) :
    x.deliver active m = { x with receivedMessages := x.receivedMessages ++ [m] } := by
  rw [deliver, h, List.isEmpty_nil, if_pos rfl, deliverToApp, h]

theorem deliver_of_cons {k₁ : ReceiveCallbacks K} {ks : List (ReceiveCallbacks K)}
    (h : x.receivedCallbacks = k₁ :: ks) :
    x.deliver active m =
      if k₁.receiveCallback then
        { x with receivedCallbacks := ks }.call (m.1, some (m.2.getD active)) k₁
      else { x with receivedCallbacks := ks, crashed := true } := by
  rw [deliver, h, List.isEmpty_cons, if_neg Bool.false_ne_true, deliverToApp, h]

theorem request_of_nil (h : x.receivedMessages = []) :
    x.request k = { x with receivedCallbacks := x.receivedCallbacks ++ [k] } := by
  rw [request, h, receiveMessage, h]

theorem request_of_null {content : M} {ms : List (M × Option E)}
    (h : x.receivedMessages = (content, none) :: ms) :
    x.request k = { x with receivedMessages := ms, crashed := true } := by
  rw [request, h]

theorem request_of_cons {content : M} {e : E} {ms : List (M × Option E)}
    (h : x.receivedMessages = (content, some e) :: ms) :
    x.request k =
      if k.receiveCallback then { x with receivedMessages := ms }.call (content, some e) k
      else { x with receivedMessages := ms, released := (content, some e) :: x.released } := by
  rw [request, h, receiveMessage, h]

theorem OneWaits.deliver (h : x.OneWaits) (active : E) (m : M × Option E) :
    (x.deliver active m).OneWaits := by
  cases hk : x.receivedCallbacks with
  | nil =>
    rw [deliver_of_nil hk]
    exact Or.inr hk
  | cons k₁ ks =>
    have hm : x.receivedMessages = [] := h.resolve_right (by rw [hk]; exact List.cons_ne_nil k₁ ks)
    rw [deliver_of_cons hk]
    split
    · exact Or.inl hm
    · exact Or.inl hm

theorem OneWaits.request (h : x.OneWaits) (k : ReceiveCallbacks K) : (x.request k).OneWaits := by
  cases hm : x.receivedMessages with
  | nil =>
    rw [request_of_nil hm]
    exact Or.inl hm
  | cons first ms =>
    have hk : x.receivedCallbacks = [] :=
      h.resolve_left (by rw [hm]; exact List.cons_ne_nil first ms)
    obtain ⟨content, context⟩ := first
    cases context with
    | none =>
      rw [request_of_null hm]
      exact Or.inr hk
    | some e =>
      rw [request_of_cons hm]
      split
      · exact Or.inr hk
      · exact Or.inr hk

theorem OneWaits.turn (h : x.OneWaits) (t : Turn M E K) : (x.turn t).OneWaits := by
  cases t with
  | deliver active m => exact h.deliver active m
  | request k => exact h.request k
  | returned =>
    show OneWaits x.callbackReturned
    unfold callbackReturned
    split
    · exact h
    · exact h

/-! #### What meets what -/

theorem orderFree_of_both_empty (hx : x.crashed = false) (hm : x.receivedMessages = [])
    (hk : x.receivedCallbacks = []) :
    OrderFree active m k x ↔ m.2.isSome = true ∧ k.receiveCallback = true := by
  have hdeliver : (x.deliver active m).receivedMessages = [m] := by
    rw [deliver_of_nil hk, hm]
    rfl
  have hrequest : (x.request k).receivedCallbacks = [k] := by
    rw [request_of_nil hm, hk]
    rfl
  obtain ⟨content, context⟩ := m
  cases context with
  | none =>
    refine iff_of_false (fun h => ?_) fun h => Bool.false_ne_true h.1
    have hcrashed := h.2
    rw [request_of_null hdeliver] at hcrashed
    exact Bool.false_ne_true hcrashed.symm
  | some e =>
    rw [and_iff_right (show (some e).isSome = true from rfl), OrderFree, request_of_cons hdeliver,
      deliver_of_cons hrequest, deliver_of_nil hk, request_of_nil hm]
    cases k.receiveCallback with
    | false =>
      refine iff_of_false (fun h => ?_) Bool.false_ne_true
      have hcrashed := congrArg Inbox.crashed h.1
      exact Bool.false_ne_true (hx.symm.trans hcrashed)
    | true =>
      refine iff_of_true ⟨?_, hx⟩ rfl
      rw [if_pos rfl, if_pos rfl]
      simp [call, hm, hk]

theorem orderFree_of_message (hx : x.crashed = false) {first : M × Option E}
    {ms : List (M × Option E)} (hm : x.receivedMessages = first :: ms)
    (hk : x.receivedCallbacks = []) : OrderFree active m k x ↔ first.2.isSome = true := by
  have hdeliver : (x.deliver active m).receivedMessages = first :: (ms ++ [m]) := by
    rw [deliver_of_nil hk, hm]
    rfl
  obtain ⟨content, context⟩ := first
  cases context with
  | none =>
    refine iff_of_false (fun h => ?_) Bool.false_ne_true
    have hcrashed := h.2
    rw [request_of_null hdeliver] at hcrashed
    exact Bool.false_ne_true hcrashed.symm
  | some e =>
    refine iff_of_true ?_ rfl
    rw [OrderFree, request_of_cons hdeliver, request_of_cons hm, deliver_of_nil hk]
    split
    · refine ⟨Eq.symm (deliver_of_nil ?_), hx⟩
      exact hk
    · refine ⟨Eq.symm (deliver_of_nil ?_), hx⟩
      exact hk

theorem orderFree_of_request (hx : x.crashed = false) {first : ReceiveCallbacks K}
    {ks : List (ReceiveCallbacks K)} (hm : x.receivedMessages = [])
    (hk : x.receivedCallbacks = first :: ks) :
    OrderFree active m k x ↔ first.receiveCallback = true := by
  have hrequest : (x.request k).receivedCallbacks = first :: (ks ++ [k]) := by
    rw [request_of_nil hm, hk]
    rfl
  rw [OrderFree, deliver_of_cons hk, deliver_of_cons hrequest, request_of_nil hm]
  cases first.receiveCallback with
  | false =>
    refine iff_of_false (fun h => ?_) Bool.false_ne_true
    have hcrashed := h.2
    have hwaits : ({ x with receivedCallbacks := ks, crashed := true } :
        Inbox (M × Option E) K).receivedMessages = [] := hm
    rw [if_neg Bool.false_ne_true, request_of_nil hwaits] at hcrashed
    exact Bool.false_ne_true hcrashed.symm
  | true =>
    refine iff_of_true ?_ rfl
    rw [if_pos rfl, if_pos rfl]
    have hwaits : ({ x with receivedCallbacks := ks }.call (m.1, some (m.2.getD active))
        first).receivedMessages = [] := hm
    rw [request_of_nil hwaits]
    exact ⟨rfl, hx⟩

theorem ready_iff :
    Ready m k x ↔
      (x.receivedCallbacks = [] → ∀ first, (x.receivedMessages ++ [m]).head? = some first →
        first.2.isSome = true) ∧
      (x.receivedMessages = [] → ∀ first, (x.receivedCallbacks ++ [k]).head? = some first →
        first.receiveCallback = true) :=
  ⟨fun h => ⟨h.context, h.callback⟩, fun h => ⟨h.1, h.2⟩⟩

end Turns

/-- In every state that deliveries, requests and returning callbacks lead to, a message and a request
come to the same in either order exactly when they are ready for both. -/
theorem receive_order_free_iff (turns : List (Turn M E K))
    (hturns : (Lib.run turn ({} : Inbox (M × Option E) K) turns).crashed = false) (active : E)
    (m : M × Option E) (k : ReceiveCallbacks K) :
    OrderFree active m k (Lib.run turn {} turns) ↔ Ready m k (Lib.run turn {} turns) := by
  have hone : OneWaits (Lib.run turn ({} : Inbox (M × Option E) K) turns) :=
    Lib.run_invariant_of_step (I := OneWaits) (fun x t hx => hx.turn t) (Or.inl rfl) turns
  generalize Lib.run turn ({} : Inbox (M × Option E) K) turns = x at hturns hone
  rw [ready_iff]
  cases hm : x.receivedMessages with
  | nil =>
    cases hk : x.receivedCallbacks with
    | nil =>
      rw [orderFree_of_both_empty hturns hm hk]
      simp
    | cons first ks =>
      rw [orderFree_of_request hturns hm hk]
      simp
  | cons first ms =>
    have hk : x.receivedCallbacks = [] :=
      hone.resolve_left (by rw [hm]; exact List.cons_ne_nil first ms)
    rw [orderFree_of_message hturns hm hk, hk]
    simp

theorem receive_order_free_on_new :
    OrderFree (0 : Nat) ((1 : Nat), some (0 : Nat)) { perReceiveContext := (7 : Nat) } {} := by
  refine (receive_order_free_iff [] rfl 0 (1, some 0) { perReceiveContext := 7 }).mpr ⟨?_, ?_⟩
  · intro _ first hfirst
    rw [← Option.some.inj hfirst]
    rfl
  · intro _ first hfirst
    rw [← Option.some.inj hfirst]

/-- Without a callback the message is dropped in one order and a NULL called in the other; without a
context a NULL is read in one order and the callback called in the other. -/
theorem order_decides :
    ((({} : Inbox (Nat × Option Nat) Nat).deliver 0 (1, some 0)).request
        { receiveCallback := false, perReceiveContext := 7 }).released = [(1, some 0)] ∧
      ((({} : Inbox (Nat × Option Nat) Nat).request
        { receiveCallback := false, perReceiveContext := 7 }).deliver 0 (1, some 0)).crashed = true ∧
      ((({} : Inbox (Nat × Option Nat) Nat).deliver 0 (1, none)).request
        { perReceiveContext := 7 }).crashed = true ∧
      ((({} : Inbox (Nat × Option Nat) Nat).request { perReceiveContext := 7 }).deliver 0
        (1, none)).delivered = [((1, some 0), 7)] := by
  decide

end Inbox

end CTaps.Messages
