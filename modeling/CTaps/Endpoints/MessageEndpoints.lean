import CTaps.Attempts.Builders
import CTaps.Endpoints.PathChange
import CTaps.Messages.Receive

/-! The endpoints of a received message. Its context refers to the entries of the connection's two
lists that were active when the data arrived. While the message waits for a request the lists go on
changing under it: an append may move an array away, and a port is written to every local entry. -/

namespace CTaps.Endpoints

open Attempts (Storage LocalEndpoint RemoteEndpoint)
open Messages (Inbox ReceiveCallbacks)

variable {ε M K : Type}

/-! ### References into a list -/

structure Ref where
  block : Nat
  index : Nat

def Growth.moved : Growth → Bool
  | .noMemory => false
  | .copyFailed moved => moved
  | .grown moved => moved

namespace EndpointList

def activeRef (l : EndpointList ε) : Ref := ⟨l.block, l.active⟩

def activeEntry (l : EndpointList ε) : Option ε := l.entries[l.active]?

def load (l : EndpointList ε) (r : Ref) : Option ε :=
  if r.block = l.block then l.entries[r.index]? else none

def relocates (address : ε → Storage) (ep : ε) (growth : Growth) (l : EndpointList ε) : Nat :=
  ((l.search address ep).isNone && growth.moved).toNat

section

variable {address : ε → Storage} {ep : ε} {growth : Growth} {l : EndpointList ε}

theorem block_setActive :
    (l.setActive address ep growth).list.block = l.block + l.relocates address ep growth := by
  have hreallocate (moved : Bool) : (l.reallocate moved).block = l.block + moved.toNat := by
    cases moved with
    | false => rfl
    | true => rfl
  unfold setActive relocates
  cases l.search address ep with
  | some ix => rfl
  | none =>
    cases growth with
    | noMemory => rfl
    | copyFailed moved => exact hreallocate moved
    | grown moved => exact hreallocate moved

theorem getElem?_setActive {ix : Nat} {e : ε} (h : l.entries[ix]? = some e) :
    (l.setActive address ep growth).list.entries[ix]? = some e := by
  unfold setActive
  cases l.search address ep with
  | some _ => exact h
  | none =>
    cases growth with
    | noMemory => exact h
    | copyFailed moved => exact h
    | grown moved =>
      have hlt := (List.getElem?_eq_some_iff.mp h).1
      exact (List.getElem?_append_left hlt).trans h

theorem load_activeRef_iff {l' : EndpointList ε} {e e' : ε} (he : l.entries[l.active]? = some e)
    (he' : l'.entries[l.active]? = some e') :
    l'.load l.activeRef = l.activeEntry ↔ l'.block = l.block ∧ e' = e := by
  have hload : l'.load l.activeRef = if l.block = l'.block then some e' else none := by
    rw [← he']
    rfl
  rw [hload, activeEntry, he]
  by_cases hblock : l'.block = l.block
  · rw [if_pos hblock.symm, and_iff_right hblock, Option.some.injEq]
  · rw [if_neg (Ne.symm hblock)]
    exact iff_of_false (Option.some_ne_none e).symm fun h => hblock h.1

theorem InRange.setActive (hl : l.InRange) : (l.setActive address ep growth).list.InRange := by
  unfold EndpointList.setActive
  cases h : l.search address ep with
  | some ix => exact (List.getElem?_eq_some_iff.mp (search_eq_some_iff.mp h).choose_spec.1).1
  | none =>
    cases growth with
    | noMemory => exact hl
    | copyFailed moved => exact hl
    | grown moved => simp [InRange, reallocate]

end

end EndpointList

/-! ### The updates of a connection -/

inductive Update
  | set (request : Request) (growth : Growth)
  | setAllLocalPort (port : Nat)
  | resolveFromPoll (bound : Storage)

namespace Member

def update (m : Member) : Update → Member
  | .set request growth => (m.set request growth).member
  | .setAllLocalPort port => { m with locals := m.locals.setAllPorts port }
  | .resolveFromPoll bound => m.resolveFromPoll bound

def relocatesLocals (m : Member) : Update → Nat
  | .set (.localEndpoint ep) growth => m.locals.relocates (·.resolvedAddress) ep growth
  | _ => 0

def relocatesRemotes (m : Member) : Update → Nat
  | .set (.remoteEndpoint ep) growth => m.remotes.relocates (·.resolvedAddress) ep growth
  | _ => 0

variable {m : Member}

theorem block_resolveFromPoll (bound : Storage) (l : EndpointList LocalEndpoint) :
    (l.resolveFromPoll bound).block = l.block := by
  unfold EndpointList.resolveFromPoll
  split
  · rfl
  · rfl

theorem locals_block_update (m : Member) (u : Update) :
    (m.update u).locals.block = m.locals.block + m.relocatesLocals u := by
  cases u with
  | set request growth =>
    cases request with
    | localEndpoint ep => exact EndpointList.block_setActive
    | remoteEndpoint ep => rfl
  | setAllLocalPort port => rfl
  | resolveFromPoll bound => exact block_resolveFromPoll bound m.locals

theorem remotes_block_update (m : Member) (u : Update) :
    (m.update u).remotes.block = m.remotes.block + m.relocatesRemotes u := by
  cases u with
  | set request growth =>
    cases request with
    | localEndpoint ep => rfl
    | remoteEndpoint ep => exact EndpointList.block_setActive
  | setAllLocalPort port => rfl
  | resolveFromPoll bound => rfl

theorem inRange_setAllPorts {l : EndpointList LocalEndpoint} (hl : l.InRange) (port : Nat) :
    (l.setAllPorts port).InRange := by
  rw [EndpointList.InRange, EndpointList.setAllPorts, List.length_map]
  exact hl

theorem InRange.update (hm : m.InRange) (u : Update) : (m.update u).InRange := by
  cases u with
  | set request growth =>
    cases request with
    | localEndpoint ep => exact ⟨hm.1.setActive, hm.2⟩
    | remoteEndpoint ep => exact ⟨hm.1, hm.2.setActive⟩
  | setAllLocalPort port => exact ⟨inRange_setAllPorts hm.1 port, hm.2⟩
  | resolveFromPoll bound =>
    refine ⟨inRange_setAllPorts ?_ _, hm.2⟩
    split
    · exact hm.1
    · rw [EndpointList.InRange, List.length_modify]
      exact hm.1

theorem remotes_getElem?_update {ix : Nat} {e : RemoteEndpoint} (h : m.remotes.entries[ix]? = some e)
    (u : Update) : (m.update u).remotes.entries[ix]? = some e := by
  cases u with
  | set request growth =>
    cases request with
    | localEndpoint ep => exact h
    | remoteEndpoint ep => exact EndpointList.getElem?_setActive h
  | setAllLocalPort port => exact h
  | resolveFromPoll bound => exact h

end Member

/-! ### What is written to a local entry -/

def Update.port : Update → Option Nat
  | .set _ _ => none
  | .setAllLocalPort port => some port
  | .resolveFromPoll bound => some bound.getPort

def Update.address (ix : Nat) (m : Member) : Update → Option Storage
  | .resolveFromPoll bound =>
    if addressIsUnspecified bound = false ∧ m.locals.active = ix then some bound else none
  | _ => none

def ports (updates : List Update) : List Nat := updates.filterMap Update.port

def addresses (ix : Nat) : Member → List Update → List Storage
  | _, [] => []
  | m, u :: updates => (u.address ix m).toList ++ addresses ix (m.update u) updates

structure Written where
  address : Storage
  port : Option Nat

namespace Written

def value (w : Written) : Storage := (w.port.map w.address.setPort).getD w.address

def write (ix : Nat) (m : Member) (w : Written) (u : Update) : Written :=
  ⟨(u.address ix m).getD w.address, u.port.or w.port⟩

theorem value_setPort (w : Written) (port : Nat) :
    w.value.setPort port = { w with port := some port }.value := by
  obtain ⟨address, before⟩ := w
  cases before with
  | none => rfl
  | some p => exact Storage.setPort_setPort address p port

end Written

def writeStep (ix : Nat) (s : Member × Written) (u : Update) : Member × Written :=
  (s.1.update u, s.2.write ix s.1 u)

def written (m : Member) (updates : List Update) : Written :=
  ⟨(addresses m.locals.active m updates).getLast?.getD m.localAddress, (ports updates).getLast?⟩

section Writes

variable {m : Member} {ix : Nat} {e : LocalEndpoint}

theorem getElem?_setAllPorts {l : EndpointList LocalEndpoint} {w : Written}
    (h : l.entries[ix]? = some { e with resolvedAddress := w.value }) (port : Nat) :
    (l.setAllPorts port).entries[ix]? =
      some { e with resolvedAddress := { w with port := some port }.value } := by
  rw [EndpointList.setAllPorts, List.getElem?_map, h, Option.map_some, w.value_setPort]

theorem getElem?_update {w : Written}
    (h : m.locals.entries[ix]? = some { e with resolvedAddress := w.value }) (u : Update) :
    (m.update u).locals.entries[ix]? =
      some { e with resolvedAddress := (w.write ix m u).value } := by
  cases u with
  | set request growth =>
    cases request with
    | localEndpoint ep => exact EndpointList.getElem?_setActive h
    | remoteEndpoint ep => exact h
  | setAllLocalPort port => exact getElem?_setAllPorts h port
  | resolveFromPoll bound =>
    have hresolved : (m.update (.resolveFromPoll bound)).locals =
        (if addressIsUnspecified bound then m.locals else
          { m.locals with
            entries := m.locals.entries.modify m.locals.active
              fun e => { e with resolvedAddress := bound } }).setAllPorts bound.getPort := rfl
    rw [hresolved, Written.write, Update.address]
    cases addressIsUnspecified bound with
    | true =>
      rw [if_pos rfl, if_neg fun h => Bool.false_ne_true h.1.symm]
      exact getElem?_setAllPorts h _
    | false =>
      rw [if_neg Bool.false_ne_true]
      by_cases hactive : m.locals.active = ix
      · rw [if_pos ⟨rfl, hactive⟩]
        refine getElem?_setAllPorts (w := ⟨bound, none⟩) ?_ _
        rw [List.getElem?_modify, h]
        exact congrArg some (if_pos hactive)
      · rw [if_neg fun h => hactive h.2]
        refine getElem?_setAllPorts ?_ _
        rw [List.getElem?_modify, h]
        exact congrArg some (if_neg hactive)

theorem getElem?_run {w : Written}
    (h : m.locals.entries[ix]? = some { e with resolvedAddress := w.value }) (us : List Update) :
    (Lib.run Member.update m us).locals.entries[ix]? =
      some { e with resolvedAddress := (Lib.run (writeStep ix) (m, w) us).2.value } := by
  have hproject : (Lib.run (writeStep ix) (m, w) us).1 = Lib.run Member.update m us :=
    Lib.run_project Prod.fst (fun _ _ => rfl) (m, w) us
  rw [← hproject]
  exact Lib.run_invariant_of_step
    (I := fun s : Member × Written =>
      s.1.locals.entries[ix]? = some { e with resolvedAddress := s.2.value })
    (fun s u hs => getElem?_update hs u) h us

theorem run_writeStep (s : Member × Written) (us : List Update) :
    (Lib.run (writeStep ix) s us).2 =
      ⟨(addresses ix s.1 us).getLast?.getD s.2.address, (ports us).getLast?.or s.2.port⟩ := by
  induction us generalizing s with
  | nil => rfl
  | cons u us ih =>
    have hports : ports (u :: us) = u.port.toList ++ ports us := by
      cases h : u.port <;> simp [ports, h]
    rw [Lib.run_cons, ih, hports, addresses, List.getLast?_append, List.getLast?_append]
    have hlast : ∀ {α : Type} (o : Option α), o.toList.getLast? = o := fun o => by
      cases o <;> rfl
    rw [hlast, hlast, Option.or_assoc]
    simp only [writeStep, Written.write]
    cases (addresses ix (s.1.update u) us).getLast? <;> rfl

theorem getElem?_run_written {us : List Update}
    (h : m.locals.entries[m.locals.active]? = some { e with resolvedAddress := m.localAddress }) :
    (Lib.run Member.update m us).locals.entries[m.locals.active]? =
      some { e with resolvedAddress := (written m us).value } := by
  have hrun := getElem?_run (w := ⟨m.localAddress, none⟩) h us
  rw [run_writeStep, Option.or_none] at hrun
  exact hrun

theorem addresses_eq_nil (m : Member) {us : List Update} (h : ports us = []) :
    addresses ix m us = [] := by
  induction us generalizing m with
  | nil => rfl
  | cons u us ih =>
    cases u with
    | set request growth => exact ih (m.update (.set request growth)) h
    | setAllLocalPort port | resolveFromPoll bound => simp [ports, Update.port] at h

theorem written_value_iff (m : Member) (us : List Update) :
    (written m us).value = m.localAddress ↔
      (m.localAddress.Inet → ∀ port ∈ (ports us).getLast?, port % 65536 = m.localAddress.getPort) ∧
        ∀ bound ∈ (addresses m.locals.active m us).getLast?,
          bound.setPort 0 = m.localAddress.setPort 0 := by
  rw [Written.value, written]
  cases hport : (ports us).getLast? with
  | none =>
    have hnil : addresses m.locals.active m us = [] :=
      addresses_eq_nil m (List.getLast?_eq_none_iff.mp hport)
    simp [hnil]
  | some port =>
    show Storage.setPort _ port = _ ↔ _
    rw [Storage.setPort_eq_iff, and_comm]
    cases (addresses m.locals.active m us).getLast? with
    | none => simp
    | some bound => simp

end Writes

/-! ### The context of a message -/

structure MessageContext where
  localEndpoint : Ref
  remoteEndpoint : Ref

def newFromConnection (m : Member) : MessageContext := ⟨m.locals.activeRef, m.remotes.activeRef⟩

def MessageContext.getLocalEndpoint (context : MessageContext) (m : Member) : Option LocalEndpoint :=
  m.locals.load context.localEndpoint

def MessageContext.getRemoteEndpoint (context : MessageContext) (m : Member) :
    Option RemoteEndpoint :=
  m.remotes.load context.remoteEndpoint

structure Undisturbed (m : Member) (updates : List Update) : Prop where
  /-- No append moves the array of the local endpoints, -/
  locals : Lib.AllSteps Member.update (fun m u => m.relocatesLocals u = 0) m updates
  /-- nor that of the remote ones. -/
  remotes : Lib.AllSteps Member.update (fun m u => m.relocatesRemotes u = 0) m updates
  /-- The port last written to the local endpoints, if one was, is the one the active one had. -/
  port : m.localAddress.Inet →
    ∀ port ∈ (ports updates).getLast?, port % 65536 = m.localAddress.getPort
  /-- The address that the socket was last found bound to while that endpoint was active, if a
  specified one, is the address it had, but perhaps for the port. -/
  address : ∀ bound ∈ (addresses m.locals.active m updates).getLast?,
    bound.setPort 0 = m.localAddress.setPort 0

section Context

variable {m : Member}

theorem localAddress_eq {e : LocalEndpoint} (he : m.locals.activeEntry = some e) :
    m.localAddress = e.resolvedAddress := by
  rw [EndpointList.activeEntry] at he
  rw [Member.localAddress, EndpointList.activeAddress, he]
  rfl

theorem getLocalEndpoint_iff (hm : m.InRange) (us : List Update) :
    (newFromConnection m).getLocalEndpoint (Lib.run Member.update m us) = m.locals.activeEntry ↔
      Lib.AllSteps Member.update (fun m u => m.relocatesLocals u = 0) m us ∧
        (written m us).value = m.localAddress := by
  obtain ⟨e, he, _⟩ := EndpointList.exists_active (·.resolvedAddress) hm.1
  have haddress : m.localAddress = e.resolvedAddress := localAddress_eq he
  have hentry : m.locals.entries[m.locals.active]? =
      some { e with resolvedAddress := m.localAddress } := by
    rw [he, haddress]
  have hblock := Lib.run_eq_add_sumSteps (q := fun m : Member => m.locals.block)
    Member.locals_block_update m us
  have hread : (Lib.run Member.update m us).locals.entries[m.locals.active]? =
      some { e with resolvedAddress := (written m us).value } :=
    getElem?_run_written hentry
  rw [← Lib.sumSteps_eq_zero_iff, haddress]
  refine (EndpointList.load_activeRef_iff he hread).trans (and_congr (by omega) ?_)
  constructor
  · exact fun h => congrArg LocalEndpoint.resolvedAddress h
  · intro h
    rw [h]

theorem getRemoteEndpoint_iff (hm : m.InRange) (us : List Update) :
    (newFromConnection m).getRemoteEndpoint (Lib.run Member.update m us) = m.remotes.activeEntry ↔
      Lib.AllSteps Member.update (fun m u => m.relocatesRemotes u = 0) m us := by
  obtain ⟨e, he, _⟩ := EndpointList.exists_active (·.resolvedAddress) hm.2
  have hread : (Lib.run Member.update m us).remotes.entries[m.remotes.active]? = some e :=
    Lib.run_invariant_of_step (I := fun m' : Member => m'.remotes.entries[m.remotes.active]? = some e)
      (fun m' u hm' => Member.remotes_getElem?_update hm' u) he us
  have hblock := Lib.run_eq_add_sumSteps (q := fun m : Member => m.remotes.block)
    Member.remotes_block_update m us
  rw [← Lib.sumSteps_eq_zero_iff]
  refine (EndpointList.load_activeRef_iff he hread).trans ((and_iff_left rfl).trans ?_)
  omega

end Context

/-! ### The queue -/

section Queue

variable {A : Type} (x : Inbox A K)

theorem mem_deliverToApp (a : A) :
    (∀ b ∈ (x.deliverToApp a).receivedMessages, b ∈ x.receivedMessages ∨ b = a) ∧
      ∀ d ∈ (x.deliverToApp a).delivered.drop x.delivered.length, d.1 = a := by
  unfold Inbox.deliverToApp
  split
  · exact ⟨by simp, by simp⟩
  · split
    · exact ⟨fun b hb => Or.inl hb, by simp [Inbox.call]⟩
    · exact ⟨fun b hb => Or.inl hb, by simp⟩

theorem mem_receiveMessage (k : ReceiveCallbacks K) :
    (∀ b ∈ (x.receiveMessage k).receivedMessages, b ∈ x.receivedMessages) ∧
      ∀ d ∈ (x.receiveMessage k).delivered.drop x.delivered.length, d.1 ∈ x.receivedMessages := by
  unfold Inbox.receiveMessage
  split
  · exact ⟨fun b hb => hb, by simp⟩
  next a as h =>
    have htail : ∀ b ∈ as, b ∈ x.receivedMessages := fun b hb => h ▸ List.mem_cons_of_mem a hb
    split
    · exact ⟨htail, by simp [Inbox.call, h]⟩
    · exact ⟨htail, by simp⟩

theorem mem_callbackReturned :
    x.callbackReturned.receivedMessages = x.receivedMessages ∧
      x.callbackReturned.delivered = x.delivered := by
  unfold Inbox.callbackReturned
  split
  · exact ⟨rfl, rfl⟩
  · exact ⟨rfl, rfl⟩

end Queue

structure Arrival (M : Type) where
  content : M
  context : MessageContext
  connection : Member
  updates : Nat

structure Shown (M : Type) where
  arrival : Arrival M
  between : List Update
  localEndpoint : Option LocalEndpoint
  remoteEndpoint : Option RemoteEndpoint

def Shown.Stable (c : Shown M) : Prop :=
  c.localEndpoint = c.arrival.connection.locals.activeEntry ∧
    c.remoteEndpoint = c.arrival.connection.remotes.activeEntry
deriving Decidable

structure Receiver (M K : Type) where
  connection : Member
  history : List Update := []
  inbox : Inbox (Arrival M) K := {}
  calls : List (Shown M) := []

inductive Input (M K : Type)
  | incoming (content : M)
  | receive (k : ReceiveCallbacks K)
  | returned
  | update (u : Update)

namespace Receiver

def arrival (s : Receiver M K) (content : M) : Arrival M :=
  ⟨content, newFromConnection s.connection, s.connection, s.history.length⟩

def shown (s : Receiver M K) (a : Arrival M) : Shown M :=
  ⟨a, s.history.drop a.updates, a.context.getLocalEndpoint s.connection,
    a.context.getRemoteEndpoint s.connection⟩

def withInbox (s : Receiver M K) (inbox : Inbox (Arrival M) K) : Receiver M K :=
  { s with
    inbox := inbox
    calls := s.calls ++
      (inbox.delivered.drop s.inbox.delivered.length).map fun d => s.shown d.1 }

def step (s : Receiver M K) : Input M K → Receiver M K
  | .incoming content => s.withInbox (s.inbox.onProtocolReceive [s.arrival content])
  | .receive k => s.withInbox (s.inbox.receiveMessage k)
  | .returned => s.withInbox s.inbox.callbackReturned
  | .update u => { s with connection := s.connection.update u, history := s.history ++ [u] }

structure Traced (s : Receiver M K) (a : Arrival M) : Prop where
  context : a.context = newFromConnection a.connection
  inRange : a.connection.InRange
  updates : a.updates ≤ s.history.length
  connection : s.connection = Lib.run Member.update a.connection (s.history.drop a.updates)

structure Inv (s : Receiver M K) : Prop where
  inRange : s.connection.InRange
  waiting : ∀ a ∈ s.inbox.receivedMessages, s.Traced a
  calls : ∀ c ∈ s.calls, c.Stable ↔ Undisturbed c.arrival.connection c.between

variable {s : Receiver M K} {a : Arrival M}

theorem Traced.shown_stable_iff (h : s.Traced a) :
    (s.shown a).Stable ↔ Undisturbed a.connection (s.history.drop a.updates) := by
  have hlocal := getLocalEndpoint_iff h.inRange (s.history.drop a.updates)
  have hremote := getRemoteEndpoint_iff h.inRange (s.history.drop a.updates)
  rw [← h.connection, ← h.context] at hlocal hremote
  rw [Shown.Stable]
  refine (and_congr hlocal hremote).trans ⟨fun hboth => ?_, fun hall => ?_⟩
  · obtain ⟨hport, haddress⟩ := (written_value_iff _ _).mp hboth.1.2
    exact ⟨hboth.1.1, hboth.2, hport, haddress⟩
  · exact ⟨⟨hall.locals, (written_value_iff _ _).mpr ⟨hall.port, hall.address⟩⟩, hall.remotes⟩

theorem Traced.update (h : s.Traced a) (u : Update) : (s.step (.update u)).Traced a where
  context := h.context
  inRange := h.inRange
  updates := by
    rw [show (s.step (.update u)).history = s.history ++ [u] from rfl, List.length_append]
    exact Nat.le_add_right_of_le h.updates
  connection := by
    show s.connection.update u =
      Lib.run Member.update a.connection ((s.history ++ [u]).drop a.updates)
    rw [List.drop_append_of_le_length h.updates, Lib.run_append, ← h.connection]
    rfl

theorem traced_arrival (hs : s.connection.InRange) (content : M) : s.Traced (s.arrival content) where
  context := rfl
  inRange := hs
  updates := Nat.le_refl _
  connection := by
    rw [arrival, List.drop_length]
    rfl

theorem Inv.withInbox (h : s.Inv) {inbox : Inbox (Arrival M) K}
    (hwaiting : ∀ a ∈ inbox.receivedMessages, s.Traced a)
    (hnew : ∀ d ∈ inbox.delivered.drop s.inbox.delivered.length, s.Traced d.1) :
    (s.withInbox inbox).Inv where
  inRange := h.inRange
  -- the queues are not what a message is traced by
  waiting a ha := ⟨(hwaiting a ha).context, (hwaiting a ha).inRange, (hwaiting a ha).updates,
    (hwaiting a ha).connection⟩
  calls c hc := by
    rcases List.mem_append.mp hc with hold | hnow
    · exact h.calls c hold
    · obtain ⟨d, hd, rfl⟩ := List.mem_map.mp hnow
      exact (hnew d hd).shown_stable_iff

theorem Inv.step (h : s.Inv) (i : Input M K) : (s.step i).Inv := by
  cases i with
  | incoming content =>
    obtain ⟨hwaiting, hnew⟩ := mem_deliverToApp s.inbox (s.arrival content)
    refine h.withInbox (fun a ha => ?_) fun d hd => ?_
    · rcases hwaiting a ha with hold | rfl
      · exact h.waiting a hold
      · exact traced_arrival h.inRange content
    · rw [hnew d hd]
      exact traced_arrival h.inRange content
  | receive k =>
    obtain ⟨hwaiting, hnew⟩ := mem_receiveMessage s.inbox k
    exact h.withInbox (fun a ha => h.waiting a (hwaiting a ha)) fun d hd => h.waiting d.1 (hnew d hd)
  | returned =>
    obtain ⟨hwaiting, hnew⟩ := mem_callbackReturned s.inbox
    refine h.withInbox (fun a ha => h.waiting a (hwaiting ▸ ha)) fun d hd => ?_
    rw [hnew, List.drop_length] at hd
    exact absurd hd List.not_mem_nil
  | update u => exact ⟨h.inRange.update u, fun a ha => (h.waiting a ha).update u, h.calls⟩

end Receiver

/-- In every run of a connection the endpoints that a receive callback is shown are those that were
active when its message arrived exactly when the lists have been left undisturbed since. -/
theorem message_endpoints_iff (m : Member) (hm : m.InRange) (inputs : List (Input M K)) :
    ∀ c ∈ (Lib.run Receiver.step ⟨m, [], {}, []⟩ inputs).calls,
      c.Stable ↔ Undisturbed c.arrival.connection c.between := by
  have hstart : (⟨m, [], {}, []⟩ : Receiver M K).Inv :=
    ⟨hm, fun a ha => absurd ha List.not_mem_nil, fun c hc => absurd hc List.not_mem_nil⟩
  exact (Lib.run_invariant_of_step (I := Receiver.Inv) (fun s i hs => hs.step i) hstart inputs).calls

theorem pathAvailable_updates (event : PathEvent) (members : List Member) {k : Nat} {m : Member}
    (hm : members[k]? = some m) :
    ∃ updates, (pathAvailable event members).1[k]? = some (Lib.run Member.update m updates) := by
  let remote : Update := .set event.remoteCall.request (event.growthRemote k)
  let locals : Update := .set event.localCall.request (event.growthLocal k)
  have hremote : (event.remoteCall.result members).members[k]? = some (m.update remote) := by
    rw [GroupCall.result, members_getElem?, hm, Nat.zero_add]
    rfl
  have hlocal : (event.localCall.result (event.remoteCall.result members).members).members[k]? =
      some ((m.update remote).update locals) := by
    rw [GroupCall.result, members_getElem?, hremote, Nat.zero_add]
    rfl
  unfold pathAvailable
  dsimp only
  split
  · exact ⟨[remote], hremote⟩
  · split
    · exact ⟨[remote, locals], hlocal⟩
    · split
      · exact ⟨[remote, locals], hlocal⟩
      · exact ⟨[remote, locals], hlocal⟩

instance (m : Member) (updates : List Update) : Decidable (Undisturbed m updates) :=
  -- of the two instances the one that looks at all addresses cannot be evaluated
  have : Decidable (∀ bound ∈ (addresses m.locals.active m updates).getLast?,
      bound.setPort 0 = m.localAddress.setPort 0) := Option.decidableForallMem _
  decidable_of_iff
    (Lib.AllSteps Member.update (fun m u => m.relocatesLocals u = 0) m updates ∧
      Lib.AllSteps Member.update (fun m u => m.relocatesRemotes u = 0) m updates ∧
      (m.localAddress.Inet →
        ∀ port ∈ (ports updates).getLast?, port % 65536 = m.localAddress.getPort) ∧
      ∀ bound ∈ (addresses m.locals.active m updates).getLast?,
        bound.setPort 0 = m.localAddress.setPort 0)
    ⟨fun h => ⟨h.1, h.2.1, h.2.2.1, h.2.2.2⟩, fun h => ⟨h.locals, h.remotes, h.port, h.address⟩⟩

def moveWhileWaiting (moved : Bool) : List (Input Unit Unit) :=
  [.incoming (), .update (.set (.remoteEndpoint (remoteOf (.withIpv4 ![10, 0, 0, 3]))) (.grown moved)),
    .update (.setAllLocalPort 7000),
    .update (.resolveFromPoll ((Storage.withIpv4 ![10, 0, 0, 1]).setPort 6000)), .receive ⟨true, ()⟩]

theorem message_endpoints_in_place :
    clientFrom [6000] 6000 ≠ [] ∧ ∀ m ∈ clientFrom [6000] 6000,
      (Lib.run Receiver.step ⟨m, [], {}, []⟩ (moveWhileWaiting false)).calls ≠ [] ∧
        ∀ c ∈ (Lib.run Receiver.step ⟨m, [], {}, []⟩ (moveWhileWaiting false)).calls, c.Stable := by
  refine ⟨by decide +kernel, fun m hm => ⟨?_, fun c hc => ?_⟩⟩
  · revert m hm
    decide +kernel
  · have hrange : ∀ m ∈ clientFrom [6000] 6000, m.InRange := by decide +kernel
    have hundisturbed : ∀ m ∈ clientFrom [6000] 6000,
        ∀ c ∈ (Lib.run Receiver.step ⟨m, [], {}, []⟩ (moveWhileWaiting false)).calls,
          Undisturbed c.arrival.connection c.between := by
      decide +kernel
    exact (message_endpoints_iff m (hrange m hm) (moveWhileWaiting false) c hc).mpr
      (hundisturbed m hm c hc)

/-- The array of the remote endpoints has moved, and the context of the message still refers to where
it was. -/
theorem endpoint_gone_while_waiting :
    clientFrom [6000] 6000 ≠ [] ∧
      ∀ m ∈ clientFrom [6000] 6000, m.InRange ∧
        ∃ c ∈ (Lib.run Receiver.step ⟨m, [], {}, []⟩ (moveWhileWaiting true)).calls, ¬c.Stable := by
  decide +kernel

end CTaps.Endpoints
