import CTaps.Messages.Receive

/-! The memory of the receive path. A message that arrives has a message object and a context, and a
node in `received_messages` while it waits; a request that has to wait is copied to the heap.
`ct_connection_deliver_to_app` and `ct_receive_message` each release what they took from the queues
when the receive callback has returned, and `ct_connection_free_content` what is left. Messages and
requests are numbered; the number of a request stands in its `per_receive_context`. -/

namespace CTaps.Messages

inductive Object
  | message (i : Nat)
  | context (i : Nat)
  | queued (i : Nat)
  | request (j : Nat)
deriving DecidableEq, Repr

inductive Frame
  | deliverToApp (message request : Nat)
  | receiveMessage (message : Nat)
deriving DecidableEq, Repr

structure Heap where
  inbox : Inbox Nat Nat := {}
  numMessages : Nat := 0
  numRequests : Nat := 0
  /-- Innermost first. -/
  frames : List Frame := []
  allocated : List Object := []
  released : List Object := []
  /-- `ct_connection_free_content` was called. -/
  freed : Bool := false
deriving DecidableEq, Repr

namespace Heap

def alloc (os : List Object) (s : Heap) : Heap := { s with allocated := os ++ s.allocated }

def release (os : List Object) (s : Heap) : Heap := { s with released := os ++ s.released }

def queuedMessageFreeAll (s : Heap) (i : Nat) : Heap :=
  s.release [.message i, .context i, .queued i]

/-- `ct_connection_on_protocol_receive` without a framer, up to the receive callback. -/
def onProtocolReceive (s : Heap) : Heap :=
  let i := s.numMessages
  let s' := { s with numMessages := i + 1, inbox := s.inbox.deliverToApp i }
  match s.inbox.receivedCallbacks with
  | [] => s'.alloc [.message i, .context i, .queued i]
  | k :: _ =>
    { s'.alloc [.message i, .context i] with
      frames := .deliverToApp i k.perReceiveContext :: s.frames }

/-- `ct_receive_message`, up to the receive callback. -/
def receiveMessage (s : Heap) (hasCallback : Bool) : Heap :=
  let j := s.numRequests
  let k : ReceiveCallbacks Nat := { receiveCallback := hasCallback, perReceiveContext := j }
  let s' := { s with numRequests := j + 1, inbox := s.inbox.receiveMessage k }
  match s.inbox.receivedMessages with
  | [] => s'.alloc [.request j]
  | i :: _ =>
    if hasCallback then { s' with frames := .receiveMessage i :: s.frames }
    else s'.queuedMessageFreeAll i

def callbackReturned (s : Heap) : Heap :=
  let s' := { s with frames := s.frames.tail, inbox := s.inbox.callbackReturned }
  match s.frames with
  | [] => s
  | .deliverToApp i j :: _ => s'.release [.request j, .context i, .message i]
  | .receiveMessage i :: _ => s'.queuedMessageFreeAll i

/-- The queues in `ct_connection_free_content`. -/
def connectionFreeContent (s : Heap) : Heap :=
  let s₁ := s.inbox.receivedCallbacks.foldl (fun s k => s.release [.request k.perReceiveContext]) s
  let s₂ := s.inbox.receivedMessages.foldl queuedMessageFreeAll s₁
  { s₂ with
    inbox := { s.inbox with receivedCallbacks := [], receivedMessages := [] }
    freed := true }

inductive Event
  | incoming
  | receive (hasCallback : Bool)
  | returned
  | free
deriving DecidableEq, Repr

/-- A connection that was freed is not used again, and nothing follows the call of a NULL pointer. -/
def enabled (s : Heap) : Event → Bool
  | .returned => s.inbox.crashed = false
  | _ => s.inbox.crashed = false ∧ s.freed = false

def act (s : Heap) : Event → Heap
  | .incoming => s.onProtocolReceive
  | .receive hasCallback => s.receiveMessage hasCallback
  | .returned => s.callbackReturned
  | .free => s.connectionFreeContent

def step (s : Heap) (e : Event) : Heap := if s.enabled e then s.act e else s

def run (es : List Event) : Heap := Lib.run step {} es

/-! ### What is still needed -/

def owned : Frame → List Object
  | .deliverToApp i j => [.request j, .context i, .message i]
  | .receiveMessage i => [.message i, .context i, .queued i]

def waiting (i : Nat) : List Object := [.message i, .context i, .queued i]

def held (s : Heap) : List Object :=
  s.inbox.receivedMessages.flatMap waiting ++
    s.inbox.receivedCallbacks.map (fun k => .request k.perReceiveContext) ++ s.frames.flatMap owned

def Known (s : Heap) : Object → Prop
  | .message i | .context i | .queued i => i < s.numMessages
  | .request j => j < s.numRequests

structure Accounted (s : Heap) : Prop where
  perm : s.allocated.Perm (s.held ++ s.released)
  nodup : s.allocated.Nodup
  known : ∀ o ∈ s.allocated, s.Known o
  arrived : ∀ i < s.numMessages, .message i ∈ s.allocated ∧ .context i ∈ s.allocated

variable {s : Heap}

theorem accounted_new : Accounted {} :=
  ⟨List.Perm.refl _, List.nodup_nil, fun _ ho => absurd ho List.not_mem_nil,
    fun i hi => absurd hi (Nat.not_lt_zero i)⟩

theorem Accounted.count_eq (h : Accounted s) (o : Object) :
    s.allocated.count o = s.held.count o + s.released.count o := by
  rw [h.perm.count_eq, List.count_append]

theorem Accounted.grow (h : Accounted s) {s' : Heap} {l : List Object}
    (halloc : s'.allocated = l ++ s.allocated) (hnew : l.Nodup)
    (hfresh : ∀ o ∈ l, ¬ s.Known o ∧ s'.Known o)
    (hcount : ∀ o, s'.held.count o + s'.released.count o =
      l.count o + (s.held.count o + s.released.count o))
    (hm : s'.numMessages = s.numMessages ∨ s'.numMessages = s.numMessages + 1 ∧
      .message s.numMessages ∈ l ∧ .context s.numMessages ∈ l)
    (hr : s.numRequests ≤ s'.numRequests) : Accounted s' := by
  have hlater : ∀ o, s.Known o → s'.Known o := by
    intro o ho
    cases o with
    | message i | context i | queued i =>
      refine Nat.lt_of_lt_of_le ho ?_
      omega
    | request j => exact Nat.lt_of_lt_of_le ho hr
  refine ⟨List.perm_iff_count.mpr fun o => ?_, ?_, fun o ho => ?_, fun i hi => ?_⟩
  · rw [halloc, List.count_append, List.count_append, h.count_eq, hcount]
  · rw [halloc]
    refine List.nodup_append.mpr ⟨hnew, h.nodup, ?_⟩
    rintro o hon _ hoa rfl
    exact (hfresh o hon).1 (h.known o hoa)
  · rw [halloc] at ho
    rcases List.mem_append.mp ho with hon | hoa
    · exact (hfresh o hon).2
    · exact hlater o (h.known o hoa)
  · rw [halloc]
    by_cases hold : i < s.numMessages
    · obtain ⟨hmessage, hcontext⟩ := h.arrived i hold
      exact ⟨List.mem_append_right _ hmessage, List.mem_append_right _ hcontext⟩
    · obtain hsame | ⟨hsucc, hmessage, hcontext⟩ := hm
      · exact absurd (hsame ▸ hi) hold
      · obtain rfl : i = s.numMessages := by omega
        exact ⟨List.mem_append_left _ hmessage, List.mem_append_left _ hcontext⟩

theorem Accounted.move (h : Accounted s) {s' : Heap} (halloc : s'.allocated = s.allocated)
    (hcount : ∀ o, s'.held.count o + s'.released.count o = s.held.count o + s.released.count o)
    (hm : s'.numMessages = s.numMessages) (hr : s.numRequests ≤ s'.numRequests) :
    Accounted s' := by
  refine h.grow (l := []) halloc List.nodup_nil ?_ ?_ (Or.inl hm) hr
  · exact fun o ho => absurd ho List.not_mem_nil
  · simpa using hcount

theorem Accounted.onProtocolReceive (h : Accounted s) : Accounted s.onProtocolReceive := by
  unfold Heap.onProtocolReceive
  cases hk : s.inbox.receivedCallbacks with
  | nil =>
    refine h.grow (l := waiting s.numMessages) rfl (by simp [waiting]) ?_ ?_
      (Or.inr ⟨rfl, by simp [waiting], by simp [waiting]⟩) (Nat.le_refl _)
    · simp [waiting, alloc, Known]
    · intro o
      simp [held, alloc, Inbox.deliverToApp, hk, List.count_append]
      omega
  | cons k ks =>
    refine h.grow (l := [.message s.numMessages, .context s.numMessages]) rfl (by simp) ?_ ?_
      (Or.inr ⟨rfl, by simp, by simp⟩) (Nat.le_refl _)
    · simp [alloc, Known]
    · intro o
      have hinbox : (s.inbox.deliverToApp s.numMessages).receivedMessages = s.inbox.receivedMessages ∧
          (s.inbox.deliverToApp s.numMessages).receivedCallbacks = ks := by
        unfold Inbox.deliverToApp
        rw [hk]
        dsimp only
        split <;> exact ⟨rfl, rfl⟩
      simp [held, alloc, hinbox, hk, owned, List.count_append, List.count_cons]
      omega

theorem Accounted.receiveMessage (h : Accounted s) (hasCallback : Bool) :
    Accounted (s.receiveMessage hasCallback) := by
  unfold Heap.receiveMessage
  cases hm : s.inbox.receivedMessages with
  | nil =>
    refine h.grow (l := [.request s.numRequests]) rfl (by simp) ?_ ?_ (Or.inl rfl)
      (Nat.le_succ _)
    · simp [alloc, Known]
    · intro o
      simp [held, alloc, Inbox.receiveMessage, hm, List.count_append, List.count_cons]
      omega
  | cons i ms =>
    cases hasCallback with
    | true =>
      refine h.move rfl (fun o => ?_) rfl (Nat.le_succ _)
      simp [held, Inbox.receiveMessage, hm, Inbox.call, owned, waiting, List.count_append,
        List.count_cons]
      omega
    | false =>
      refine h.move rfl (fun o => ?_) rfl (Nat.le_succ _)
      simp [held, Inbox.receiveMessage, hm, waiting, queuedMessageFreeAll, release,
        List.count_append, List.count_cons]
      omega

theorem Accounted.callbackReturned (h : Accounted s) : Accounted s.callbackReturned := by
  have hinbox := s.inbox.queues_callbackReturned
  unfold Heap.callbackReturned
  cases hf : s.frames with
  | nil => exact h
  | cons f fs =>
    cases f with
    | deliverToApp i j =>
      refine h.move rfl (fun o => ?_) rfl (Nat.le_refl _)
      simp [held, release, hinbox, hf, owned, List.count_append, List.count_cons]
      omega
    | receiveMessage i =>
      refine h.move rfl (fun o => ?_) rfl (Nat.le_refl _)
      simp [held, queuedMessageFreeAll, release, hinbox, hf, owned, List.count_append,
        List.count_cons]
      omega

theorem foldl_release {α : Type} (f : α → List Object) (xs : List α) (s : Heap) :
    ∃ os, xs.foldl (fun s x => s.release (f x)) s = s.release os ∧
      ∀ o, os.count o = (xs.flatMap f).count o := by
  induction xs generalizing s with
  | nil => exact ⟨[], rfl, fun _ => rfl⟩
  | cons x xs ih =>
    obtain ⟨os, hs, hos⟩ := ih (s.release (f x))
    refine ⟨os ++ f x, ?_, fun o => ?_⟩
    · rw [List.foldl_cons, hs]
      simp [release]
    · simp [List.count_append, hos]
      omega

theorem Accounted.connectionFreeContent (h : Accounted s) : Accounted s.connectionFreeContent := by
  obtain ⟨rs, hrs, hrcount⟩ := foldl_release (fun k : ReceiveCallbacks Nat =>
    [Object.request k.perReceiveContext]) s.inbox.receivedCallbacks s
  obtain ⟨ms, hms, hmcount⟩ := foldl_release waiting s.inbox.receivedMessages (s.release rs)
  have hfree : s.connectionFreeContent =
      { (s.release rs).release ms with
        inbox := { s.inbox with receivedCallbacks := [], receivedMessages := [] }
        freed := true } := by
    rw [← hms, ← hrs]
    rfl
  rw [hfree]
  refine h.move rfl (fun o => ?_) rfl (Nat.le_refl _)
  have hmap : s.inbox.receivedCallbacks.map (fun k => Object.request k.perReceiveContext) =
      s.inbox.receivedCallbacks.flatMap fun k => [Object.request k.perReceiveContext] :=
    List.map_eq_flatMap
  simp only [held, release, hmap, List.count_append, hrcount, hmcount]
  simp
  omega

theorem Accounted.step (h : Accounted s) (e : Event) : Accounted (s.step e) := by
  unfold Heap.step
  split
  · cases e with
    | incoming => exact h.onProtocolReceive
    | receive hasCallback => exact h.receiveMessage hasCallback
    | returned => exact h.callbackReturned
    | free => exact h.connectionFreeContent
  · exact h

theorem accounted_run (es : List Event) : Accounted (run es) :=
  Lib.run_invariant_of_step (fun _ e h => h.step e) accounted_new es

def Emptied (s : Heap) : Prop :=
  s.freed = true → s.inbox.receivedMessages = [] ∧ s.inbox.receivedCallbacks = []

theorem freed_onProtocolReceive (s : Heap) : s.onProtocolReceive.freed = s.freed := by
  unfold onProtocolReceive
  dsimp only
  split <;> rfl

theorem freed_receiveMessage (s : Heap) (hasCallback : Bool) :
    (s.receiveMessage hasCallback).freed = s.freed := by
  unfold receiveMessage
  dsimp only
  split
  · rfl
  · split <;> rfl

theorem Emptied.callbackReturned (h : Emptied s) : Emptied s.callbackReturned := by
  obtain ⟨hm, hk⟩ := s.inbox.queues_callbackReturned
  unfold Heap.callbackReturned
  split
  · exact h
  · exact fun hfreed => ⟨hm.trans (h hfreed).1, hk.trans (h hfreed).2⟩
  · exact fun hfreed => ⟨hm.trans (h hfreed).1, hk.trans (h hfreed).2⟩

theorem Emptied.step (h : Emptied s) (e : Event) : Emptied (s.step e) := by
  unfold Heap.step
  split
  · next hen =>
    cases e with
    | incoming =>
      intro hfreed
      simp [act, freed_onProtocolReceive, (of_decide_eq_true hen).2] at hfreed
    | receive hasCallback =>
      intro hfreed
      simp [act, freed_receiveMessage, (of_decide_eq_true hen).2] at hfreed
    | returned => exact h.callbackReturned
    | free => exact fun _ => ⟨rfl, rfl⟩
  · exact h

theorem emptied_run (es : List Event) : Emptied (run es) :=
  Lib.run_invariant_of_step (fun _ e h => h.step e) (fun hfreed => absurd hfreed (by decide)) es

/-- However messages, requests, returning callbacks and the end of the connection are interleaved:
nothing is released twice, what waits or belongs to a running callback has not been released, and
everything else has. When the connection was freed and no callback is running, nothing is left. -/
theorem receive_memory (es : List Event) :
    (run es).released.Nodup ∧
    (∀ o ∈ (run es).held, o ∉ (run es).released) ∧
    (∀ o ∈ (run es).allocated, o ∈ (run es).held ∨ o ∈ (run es).released) ∧
    (∀ i < (run es).numMessages,
      .message i ∈ (run es).allocated ∧ .context i ∈ (run es).allocated) ∧
    ((run es).freed = true → (run es).frames = [] →
      (run es).allocated.Perm (run es).released) := by
  obtain ⟨hperm, hnodup, -, harrived⟩ := accounted_run es
  obtain ⟨-, hreleased, hdisjoint⟩ := List.nodup_append.mp (hperm.nodup_iff.mp hnodup)
  refine ⟨hreleased, fun o hh hr => hdisjoint o hh o hr rfl, fun o ho => ?_, harrived,
    fun hfreed hframes => ?_⟩
  · exact List.mem_append.mp (hperm.mem_iff.mp ho)
  · obtain ⟨hm, hk⟩ := emptied_run es hfreed
    have hheld : (run es).held = [] := by simp [held, hm, hk, hframes]
    rwa [hheld] at hperm

theorem receive_memory_nested :
    (run [.incoming, .incoming, .incoming, .receive true, .receive true, .free, .returned,
      .returned]).allocated.Perm
      (run [.incoming, .incoming, .incoming, .receive true, .receive true, .free, .returned,
        .returned]).released :=
  (receive_memory _).2.2.2.2 (by decide) (by decide)

end Heap

end CTaps.Messages
