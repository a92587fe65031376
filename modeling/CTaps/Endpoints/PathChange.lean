import CTaps.Endpoints.Lists

/-! The notification of a path change. On `picoquic_callback_path_available` the addresses of the
path become the active ones of every connection of the group, and `path_change` is called if they
were not before. Whether they were is read off the index of the active entry, not off its address,
and the last connection of the table has the word. -/

namespace CTaps.Endpoints

open Attempts (Storage LocalEndpoint RemoteEndpoint)

/-! ### The local endpoints after bind -/

def addressIsUnspecified (s : Storage) : Bool :=
  if s.ssFamily = Storage.afInet then s.sameBytes .zero 4 8
  else if s.ssFamily = Storage.afInet6 then s.sameBytes .zero 8 24
  else s.ssFamily = Storage.afUnspec

namespace EndpointList

/-- `ct_connection_set_all_local_port`: the port in the address of every entry. -/
def setAllPorts (port : Nat) (l : EndpointList LocalEndpoint) : EndpointList LocalEndpoint :=
  { l with
    entries := l.entries.map fun e => { e with resolvedAddress := e.resolvedAddress.setPort port } }

/-- `resolve_local_endpoint_from_poll` with the address that the socket is bound to. -/
def resolveFromPoll (bound : Storage) (l : EndpointList LocalEndpoint) : EndpointList LocalEndpoint :=
  let l := if addressIsUnspecified bound then l
    else { l with entries := l.entries.modify l.active fun e => { e with resolvedAddress := bound } }
  l.setAllPorts bound.getPort

end EndpointList

/-! ### The event -/

structure PathEvent where
  toAddress : Storage
  fromAddress : Storage
  growthRemote : Nat → Growth
  growthLocal : Nat → Growth

def remoteOf (address : Storage) : RemoteEndpoint :=
  (RemoteEndpoint.build.fromSockaddr address).toOption.getD .build

def localOf (address : Storage) : LocalEndpoint :=
  (LocalEndpoint.build.fromSockaddr address).toOption.getD .build

def notifyOfPathChange (members : List Member) : List Nat :=
  (members.filter fun m => m.pathChange).map fun m => m.id

/-- The group after the event, and the connections whose `path_change` was called. -/
def pathAvailable (event : PathEvent) (members : List Member) : List Member × List Nat :=
  let remote := GroupCall.result ⟨.remoteEndpoint (remoteOf event.toAddress), event.growthRemote⟩ members
  if remote.rc ≠ 0 then (remote.members, [])
  else
    let locals := GroupCall.result ⟨.localEndpoint (localOf event.fromAddress), event.growthLocal⟩
      remote.members
    if locals.rc ≠ 0 then (locals.members, [])
    else if locals.changed || remote.changed then (locals.members, notifyOfPathChange locals.members)
    else (locals.members, [])

/-! ### The addresses of the event -/

section Addresses

variable {s address : Storage}

theorem sameBytes_copyFront {n lo hi : Nat} (h : hi ≤ n) :
    (s.copyFront address n).sameBytes address lo hi = true :=
  Storage.sameBytes_iff.mpr fun _ _ hi => if_pos (Nat.lt_of_lt_of_le hi h)

theorem exists_fromSockaddr (s : Storage) (h : address.Inet) :
    ∃ s', s.fromSockaddr address = some s' ∧ s'.ctSockaddrEqual address = true := by
  have hfamily (n : Nat) (hn : 2 ≤ n) : (s.copyFront address n).ssFamily = address.ssFamily :=
    Storage.ssFamily_congr (if_pos (Nat.lt_of_lt_of_le Nat.zero_lt_two hn))
      (if_pos (Nat.lt_of_lt_of_le Nat.one_lt_two hn))
  rw [Storage.fromSockaddr]
  rcases h with hinet | hinet6
  · refine ⟨_, if_pos hinet, Storage.ctSockaddrEqual_iff.mpr ⟨hfamily _ (by decide), Or.inl ?_⟩⟩
    exact ⟨(hfamily _ (by decide)).trans hinet, sameBytes_copyFront (by decide),
      sameBytes_copyFront (by decide)⟩
  · rw [if_neg (hinet6 ▸ Storage.afInet_ne_afInet6.symm), if_pos hinet6]
    refine ⟨_, rfl, Storage.ctSockaddrEqual_iff.mpr ⟨hfamily _ (by decide), Or.inr ?_⟩⟩
    exact ⟨(hfamily _ (by decide)).trans hinet6, sameBytes_copyFront (by decide),
      sameBytes_copyFront (by decide), sameBytes_copyFront (by decide)⟩

theorem remoteOf_equal (h : address.Inet) :
    (remoteOf address).resolvedAddress.ctSockaddrEqual address = true := by
  obtain ⟨s', hs', hequal⟩ := exists_fromSockaddr Storage.zero h
  have hbuild : RemoteEndpoint.build.fromSockaddr address = .ok ⟨address.getPort, none, none, s'⟩ := by
    simp [RemoteEndpoint.fromSockaddr, RemoteEndpoint.build, hs']
  rw [remoteOf, hbuild]
  exact hequal

theorem localOf_equal (h : address.Inet) :
    (localOf address).resolvedAddress.ctSockaddrEqual address = true := by
  obtain ⟨s', hs', hequal⟩ := exists_fromSockaddr Storage.zero h
  have hbuild : LocalEndpoint.build.fromSockaddr address = .ok ⟨address.getPort, none, none, s'⟩ := by
    simp [LocalEndpoint.fromSockaddr, LocalEndpoint.build, hs']
  rw [localOf, hbuild]
  exact hequal

theorem inet_of_equal (hequal : s.ctSockaddrEqual address = true) (h : address.Inet) : s.Inet := by
  rw [Storage.Inet, (Storage.ctSockaddrEqual_iff.mp hequal).1]
  exact h

end Addresses

/-! ### One list -/

variable {ε : Type}

namespace EndpointList

def activeAddress (address : ε → Storage) (l : EndpointList ε) : Storage :=
  (l.entries[l.active]?.map address).getD .zero

def Shadowed (address : ε → Storage) (s : Storage) (l : EndpointList ε) : Prop :=
  (l.activeAddress address).ctSockaddrEqual s = true ∧
    ∃ j < l.active, ∃ e, l.entries[j]? = some e ∧ (address e).ctSockaddrEqual s = true

def Refused (address : ε → Storage) (ep : ε) (growth : Growth) (l : EndpointList ε) : Prop :=
  l.search address ep = none ∧ ∀ moved, growth ≠ .grown moved

def AddressChanged (address : ε → Storage) (before after : EndpointList ε) : Prop :=
  before.activeAddress address ≠ after.activeAddress address ∧
    (before.activeAddress address).ctSockaddrEqual (after.activeAddress address) = false

section

variable {address : ε → Storage} {ep : ε} {growth : Growth} {s : Storage} {l : EndpointList ε}

theorem exists_active (address : ε → Storage) (hl : l.InRange) :
    ∃ e, l.entries[l.active]? = some e ∧ l.activeAddress address = address e := by
  have he := List.getElem?_eq_getElem hl
  refine ⟨_, he, ?_⟩
  rw [activeAddress, he]
  rfl

theorem ctSockaddrEqual_comm (a b : Storage) : a.ctSockaddrEqual b = b.ctSockaddrEqual a :=
  Bool.eq_iff_iff.mpr ⟨Storage.ctSockaddrEqual_symm, Storage.ctSockaddrEqual_symm⟩

theorem ctSockaddrEqual_congr {a b : Storage} (h : a.ctSockaddrEqual b = true) (c : Storage) :
    c.ctSockaddrEqual a = c.ctSockaddrEqual b :=
  Bool.eq_iff_iff.mpr ⟨fun hca => Storage.ctSockaddrEqual_trans hca h,
    fun hcb => Storage.ctSockaddrEqual_trans hcb (Storage.ctSockaddrEqual_symm h)⟩

theorem search_ne_active_iff (hl : l.InRange) (hep : (address ep).ctSockaddrEqual s = true) :
    l.search address ep ≠ some l.active ↔
      (l.activeAddress address).ctSockaddrEqual s = false ∨ l.Shadowed address s := by
  obtain ⟨e, he, haddress⟩ := exists_active address hl
  have hsame : ∀ a, (address ep).ctSockaddrEqual a = a.ctSockaddrEqual s :=
    fun a => (ctSockaddrEqual_comm _ a).trans (ctSockaddrEqual_congr hep a)
  rw [Shadowed, haddress, Ne, search_eq_some_iff]
  simp only [hsame]
  cases hactive : (address e).ctSockaddrEqual s with
  | false =>
    refine iff_of_true ?_ (Or.inl rfl)
    rintro ⟨e', he', heq, _⟩
    rw [← Option.some.inj (he.symm.trans he'), hactive] at heq
    exact Bool.false_ne_true heq
  | true =>
    rw [or_iff_right Bool.false_ne_true.symm, and_iff_right rfl]
    constructor
    · intro hnot
      by_contra hnone
      refine hnot ⟨e, he, hactive, fun j hj e' he' => ?_⟩
      exact Bool.eq_false_iff.mpr fun heq => hnone ⟨j, hj, e', he', heq⟩
    · rintro ⟨j, hj, e', he', heq⟩ ⟨_, _, _, hbefore⟩
      exact Bool.false_ne_true ((hbefore j hj e' he').symm.trans heq)

theorem setActive_rc_eq_zero_iff :
    (l.setActive address ep growth).rc = 0 ↔ ¬l.Refused address ep growth := by
  unfold setActive Refused
  cases l.search address ep with
  | some ix => simp
  | none =>
    cases growth with
    | noMemory => simp [enomem]
    | copyFailed moved => simp [enomem]
    | grown moved => simp

theorem setActive_changed (h : ¬l.Refused address ep growth) :
    (l.setActive address ep growth).changed =
      some (decide (l.search address ep ≠ some l.active)) := by
  rw [Refused, not_and] at h
  unfold setActive
  cases hsearch : l.search address ep with
  | some ix => simp
  | none =>
    cases growth with
    | noMemory => exact absurd (fun moved => by simp) (h hsearch)
    | copyFailed moved => exact absurd (fun moved => by simp) (h hsearch)
    | grown moved => rfl

theorem addressChanged_setActive_iff (hl : l.InRange) (hep : (address ep).Inet) :
    AddressChanged address l (l.setActive address ep growth).list ↔
      (l.activeAddress address).ctSockaddrEqual (address ep) = false ∧
        ¬l.Refused address ep growth := by
  have hsets := sets_setActive hl hep growth
  rw [← setActive_rc_eq_zero_iff]
  by_cases hrc : (l.setActive address ep growth).rc = 0
  · obtain ⟨e, he, hequal⟩ := hsets.active hrc
    have hactive : (l.setActive address ep growth).list.activeAddress address = address e := by
      rw [activeAddress, he]
      rfl
    rw [AddressChanged, hactive, and_iff_left hrc, ctSockaddrEqual_congr hequal]
    refine and_iff_right_of_imp fun hother hsame => ?_
    rw [hsame, hequal] at hother
    exact Bool.false_ne_true hother.symm
  · obtain ⟨hentries, hactive⟩ := hsets.failed hrc
    refine iff_of_false (fun h => h.1 ?_) fun h => hrc h.2
    rw [activeAddress, activeAddress, hentries, hactive]

end

end EndpointList

/-! ### One member -/

namespace Member

def remoteAddress (m : Member) : Storage := m.remotes.activeAddress (·.resolvedAddress)

def localAddress (m : Member) : Storage := m.locals.activeAddress (·.resolvedAddress)

def AddressChanged (before after : Member) : Prop :=
  before.remotes.AddressChanged (·.resolvedAddress) after.remotes ∨
    before.locals.AddressChanged (·.resolvedAddress) after.locals

def Differs (event : PathEvent) (m : Member) : Prop :=
  m.remoteAddress.ctSockaddrEqual event.toAddress = false ∨
    m.localAddress.ctSockaddrEqual event.fromAddress = false
deriving Decidable

def Shadowed (event : PathEvent) (m : Member) : Prop :=
  m.remotes.Shadowed (·.resolvedAddress) event.toAddress ∨
    m.locals.Shadowed (·.resolvedAddress) event.fromAddress

def moves (m : Member) : Request → Bool
  | .localEndpoint ep => m.locals.search (·.resolvedAddress) ep ≠ some m.locals.active
  | .remoteEndpoint ep => m.remotes.search (·.resolvedAddress) ep ≠ some m.remotes.active

def Refused (m : Member) (growth : Growth) : Request → Prop
  | .localEndpoint ep => m.locals.Refused (·.resolvedAddress) ep growth
  | .remoteEndpoint ep => m.remotes.Refused (·.resolvedAddress) ep growth

theorem set_rc_eq_zero_iff (m : Member) (request : Request) (growth : Growth) :
    (m.set request growth).rc = 0 ↔ ¬m.Refused growth request := by
  cases request with
  | localEndpoint ep => exact EndpointList.setActive_rc_eq_zero_iff
  | remoteEndpoint ep => exact EndpointList.setActive_rc_eq_zero_iff

theorem set_changed {m : Member} {request : Request} {growth : Growth}
    (h : ¬m.Refused growth request) : (m.set request growth).changed = some (m.moves request) := by
  cases request with
  | localEndpoint ep => exact EndpointList.setActive_changed h
  | remoteEndpoint ep => exact EndpointList.setActive_changed h

end Member

/-! ### The loop over the group -/

section Loop

variable (request : Request) {growth : Nat → Growth}

theorem results_getElem? (growth : Nat → Growth) (members : List Member) (i : Nat) (failure : Int)
    (changed : Bool) (k : Nat) :
    (groupSetActive request growth i members failure changed).results[k]? =
      members[k]?.map fun m => m.set request (growth (i + k)) := by
  induction members generalizing i failure changed k with
  | nil => rfl
  | cons m members ih =>
    cases k with
    | zero => rfl
    | succ k =>
      have hindex : i + (k + 1) = i + 1 + k := by omega
      rw [List.getElem?_cons_succ, hindex]
      exact ih (i + 1) _ _ k

theorem members_getElem? (growth : Nat → Growth) (members : List Member) (i : Nat) (failure : Int)
    (changed : Bool) (k : Nat) :
    (groupSetActive request growth i members failure changed).members[k]? =
      members[k]?.map fun m => (m.set request (growth (i + k))).member := by
  rw [GroupResult.members, List.getElem?_map, results_getElem?, Option.map_map]
  rfl

theorem map_members (growth : Nat → Growth) {β : Type} (π : Member → β)
    (hπ : ∀ m growth, π (m.set request growth).member = π m) (members : List Member) (i : Nat)
    (failure : Int) (changed : Bool) :
    (groupSetActive request growth i members failure changed).members.map π = members.map π := by
  apply List.ext_getElem?
  intro k
  rw [List.getElem?_map, members_getElem?, List.getElem?_map, Option.map_map]
  congr 1
  funext m
  exact hπ m _

theorem groupSetActive_changed {members : List Member} (i : Nat) (failure : Int) (changed : Bool)
    (h : ∀ (k : Nat) (m : Member), members[k]? = some m → ¬m.Refused (growth (i + k)) request) :
    (groupSetActive request growth i members failure changed).changed =
      (members.getLast?.map fun m => m.moves request).getD changed := by
  induction members generalizing i failure changed with
  | nil => rfl
  | cons m members ih =>
    have hrest : ∀ (k : Nat) (m' : Member), members[k]? = some m' →
        ¬m'.Refused (growth (i + 1 + k)) request := by
      intro k m' hm'
      have hindex : i + 1 + k = i + (k + 1) := by omega
      rw [hindex]
      exact h (k + 1) m' hm'
    have hword : (m.set request (growth i)).changed = some (m.moves request) :=
      Member.set_changed (h 0 m rfl)
    rw [groupSetActive, hword]
    refine (ih (i + 1) _ _ hrest).trans ?_
    rw [List.getLast?_cons]
    cases members.getLast? with
    | none => rfl
    | some last => rfl

def GroupCall.Succeeds (call : GroupCall) (members : List Member) : Prop :=
  ∀ (k : Nat) (m : Member), members[k]? = some m → ¬m.Refused (call.growth k) call.request

theorem GroupCall.result_getElem? (call : GroupCall) (members : List Member) (k : Nat) :
    (call.result members).members[k]? =
      members[k]?.map fun m => (m.set call.request (call.growth k)).member := by
  rw [GroupCall.result, members_getElem?, Nat.zero_add]

theorem GroupCall.result_rc_eq_zero_iff {call : GroupCall} {members : List Member} :
    (call.result members).rc = 0 ↔ call.Succeeds members := by
  rw [GroupCall.result, rc_groupSetActive_eq_zero_iff, and_iff_right rfl]
  constructor
  · intro h k m hm
    rw [← Member.set_rc_eq_zero_iff]
    apply h
    apply List.mem_of_getElem?
    rw [results_getElem?, hm, Nat.zero_add, Option.map_some]
  · intro h r hr
    obtain ⟨k, hk⟩ := List.getElem?_of_mem hr
    rw [results_getElem?, Nat.zero_add] at hk
    obtain ⟨m, hm, rfl⟩ := Option.map_eq_some_iff.mp hk
    exact (m.set_rc_eq_zero_iff _ _).mpr (h k m hm)

theorem GroupCall.result_changed {call : GroupCall} {members : List Member}
    (h : call.Succeeds members) : (call.result members).changed =
      (members.getLast?.map fun m => m.moves call.request).getD false := by
  apply groupSetActive_changed
  intro k m hm
  rw [Nat.zero_add]
  exact h k m hm

end Loop

def PathEvent.Grows (event : PathEvent) : Prop :=
  (∀ i, ∃ moved, event.growthRemote i = .grown moved) ∧
    ∀ i, ∃ moved, event.growthLocal i = .grown moved

def PathEvent.Inet (event : PathEvent) : Prop := event.toAddress.Inet ∧ event.fromAddress.Inet

def PathEvent.remoteCall (event : PathEvent) : GroupCall :=
  ⟨.remoteEndpoint (remoteOf event.toAddress), event.growthRemote⟩

def PathEvent.localCall (event : PathEvent) : GroupCall :=
  ⟨.localEndpoint (localOf event.fromAddress), event.growthLocal⟩

def PathEvent.Completes (event : PathEvent) (members : List Member) : Prop :=
  event.remoteCall.Succeeds members ∧ event.localCall.Succeeds members

section Event

variable {event : PathEvent} {members : List Member}

def Member.flagged (event : PathEvent) (m : Member) : Bool :=
  m.moves event.localCall.request || m.moves event.remoteCall.request

theorem remote_keeps {β : Type} (π : Member → β) (event : PathEvent)
    (hπ : ∀ (m : Member) remotes, π { m with remotes := remotes } = π m) (members : List Member) :
    (event.remoteCall.result members).members.map π = members.map π :=
  map_members event.remoteCall.request _ π (fun m _ => hπ m _) members 0 0 false

theorem local_keeps {β : Type} (π : Member → β) (event : PathEvent)
    (hπ : ∀ (m : Member) locals, π { m with locals := locals } = π m) (members : List Member) :
    (event.localCall.result members).members.map π = members.map π :=
  map_members event.localCall.request _ π (fun m _ => hπ m _) members 0 0 false

theorem notifyOfPathChange_congr {ms ms' : List Member}
    (h : ms.map (fun m => (m.id, m.pathChange)) = ms'.map fun m => (m.id, m.pathChange)) :
    notifyOfPathChange ms = notifyOfPathChange ms' := by
  have hread : ∀ l : List Member, notifyOfPathChange l =
      ((l.map fun m => (m.id, m.pathChange)).filter Prod.snd).map Prod.fst := by
    intro l
    rw [List.filter_map, List.map_map]
    rfl
  rw [hread, hread, h]

def PathEvent.after (event : PathEvent) (members : List Member) : GroupResult :=
  event.localCall.result (event.remoteCall.result members).members

theorem localCall_succeeds_iff :
    event.localCall.Succeeds (event.remoteCall.result members).members ↔
      event.localCall.Succeeds members := by
  constructor
  · intro h k m hm
    refine h k (m.set event.remoteCall.request (event.growthRemote k)).member ?_
    rw [GroupCall.result_getElem?, hm]
    rfl
  · intro h k m' hm'
    rw [GroupCall.result_getElem?] at hm'
    obtain ⟨m, hm, rfl⟩ := Option.map_eq_some_iff.mp hm'
    exact h k m hm

theorem after_rc_eq_zero_iff : (event.after members).rc = 0 ↔ event.localCall.Succeeds members :=
  GroupCall.result_rc_eq_zero_iff.trans localCall_succeeds_iff

theorem pathAvailable_of_refused_remote (h : ¬event.remoteCall.Succeeds members) :
    pathAvailable event members = ((event.remoteCall.result members).members, []) := by
  rw [← GroupCall.result_rc_eq_zero_iff] at h
  show (if (event.remoteCall.result members).rc ≠ 0 then _ else _) = _
  rw [if_pos h]
  rfl

theorem pathAvailable_of_remote (h : event.remoteCall.Succeeds members) :
    pathAvailable event members = ((event.after members).members,
      if (event.after members).rc = 0 ∧
          ((event.after members).changed || (event.remoteCall.result members).changed) = true then
        notifyOfPathChange (event.after members).members
      else []) := by
  rw [← GroupCall.result_rc_eq_zero_iff] at h
  show (if (event.remoteCall.result members).rc ≠ 0 then _ else
    if (event.after members).rc ≠ 0 then ((event.after members).members, []) else
      if (event.after members).changed || (event.remoteCall.result members).changed then
        ((event.after members).members, notifyOfPathChange (event.after members).members)
      else ((event.after members).members, [])) = _
  rw [if_neg (not_not.mpr h)]
  by_cases hlocal : (event.after members).rc = 0
  · rw [if_neg (not_not.mpr hlocal)]
    by_cases hflag : ((event.after members).changed || (event.remoteCall.result members).changed) = true
    · rw [if_pos hflag, if_pos ⟨hlocal, hflag⟩]
    · rw [if_neg hflag, if_neg fun h => hflag h.2]
  · rw [if_pos hlocal, if_neg fun h => hlocal h.1]

theorem notifyOfPathChange_after (event : PathEvent) (members : List Member) :
    notifyOfPathChange (event.after members).members = notifyOfPathChange members := by
  apply notifyOfPathChange_congr
  rw [PathEvent.after, local_keeps _ event fun _ _ => rfl, remote_keeps _ event fun _ _ => rfl]

theorem changed_of_completes (h : event.Completes members) :
    ((event.after members).changed || (event.remoteCall.result members).changed) =
      (members.getLast?.map (Member.flagged event)).getD false := by
  have hlast : ((event.remoteCall.result members).members.getLast?.map
      fun m => m.moves event.localCall.request) =
        members.getLast?.map fun m => m.moves event.localCall.request := by
    rw [← List.getLast?_map, ← List.getLast?_map]
    exact congrArg List.getLast? (remote_keeps _ event (fun _ _ => rfl) members)
  rw [PathEvent.after, GroupCall.result_changed (localCall_succeeds_iff.mpr h.2), hlast,
    GroupCall.result_changed h.1]
  cases members.getLast? with
  | none => rfl
  | some last => rfl

/-! ### Who has changed -/

def AddressesChanged (before after : List Member) : Prop :=
  ∃ (k : Nat) (m m' : Member), before[k]? = some m ∧ after[k]? = some m' ∧ m.AddressChanged m'

def PathEvent.Reaches (event : PathEvent) (members : List Member) : Prop :=
  ∃ (k : Nat) (m : Member), members[k]? = some m ∧
    (m.remoteAddress.ctSockaddrEqual event.toAddress = false ∧
        ¬m.Refused (event.growthRemote k) event.remoteCall.request ∨
      event.remoteCall.Succeeds members ∧ m.localAddress.ctSockaddrEqual event.fromAddress = false ∧
        ¬m.Refused (event.growthLocal k) event.localCall.request)

theorem addressesChanged_map_iff {after : List Member} {f : Nat → Member → Member}
    (h : ∀ k : Nat, after[k]? = members[k]?.map (f k)) :
    AddressesChanged members after ↔
      ∃ (k : Nat) (m : Member), members[k]? = some m ∧ m.AddressChanged (f k m) := by
  constructor
  · rintro ⟨k, m, m', hm, hm', hchanged⟩
    rw [h, hm, Option.map_some, Option.some.injEq] at hm'
    exact ⟨k, m, hm, hm' ▸ hchanged⟩
  · rintro ⟨k, m, hm, hchanged⟩
    refine ⟨k, m, f k m, hm, ?_, hchanged⟩
    rw [h, hm, Option.map_some]

section Changed

variable {m : Member}

theorem Member.remotes_changed_iff (hevent : event.Inet) (hm : m.InRange) (growth : Growth) :
    m.remotes.AddressChanged (·.resolvedAddress)
        (m.set event.remoteCall.request growth).member.remotes ↔
      m.remoteAddress.ctSockaddrEqual event.toAddress = false ∧
        ¬m.Refused growth event.remoteCall.request := by
  have hto := remoteOf_equal hevent.1
  rw [← EndpointList.ctSockaddrEqual_congr hto]
  exact EndpointList.addressChanged_setActive_iff hm.2 (inet_of_equal hto hevent.1)

theorem Member.locals_changed_iff (hevent : event.Inet) (hm : m.InRange) (growth : Growth) :
    m.locals.AddressChanged (·.resolvedAddress)
        (m.set event.localCall.request growth).member.locals ↔
      m.localAddress.ctSockaddrEqual event.fromAddress = false ∧
        ¬m.Refused growth event.localCall.request := by
  have hfrom := localOf_equal hevent.2
  rw [← EndpointList.ctSockaddrEqual_congr hfrom]
  exact EndpointList.addressChanged_setActive_iff hm.1 (inet_of_equal hfrom hevent.2)

end Changed

theorem after_getElem? (event : PathEvent) (members : List Member) (k : Nat) :
    (event.after members).members[k]? =
      members[k]?.map fun m => ((m.set event.remoteCall.request (event.growthRemote k)).member.set
        event.localCall.request (event.growthLocal k)).member := by
  rw [PathEvent.after, GroupCall.result_getElem?, GroupCall.result_getElem?, Option.map_map]
  rfl

theorem addressesChanged_iff (hevent : event.Inet) (hmembers : ∀ m ∈ members, m.InRange) :
    AddressesChanged members (pathAvailable event members).1 ↔ event.Reaches members := by
  by_cases hremote : event.remoteCall.Succeeds members
  · rw [pathAvailable_of_remote hremote, addressesChanged_map_iff (after_getElem? event members)]
    refine exists_congr fun k => exists_congr fun m => and_congr_right fun hm => ?_
    have hin := hmembers m (List.mem_of_getElem? hm)
    rw [and_iff_right hremote, ← Member.remotes_changed_iff hevent hin,
      ← Member.locals_changed_iff hevent hin]
    rfl
  · rw [pathAvailable_of_refused_remote hremote,
      addressesChanged_map_iff (event.remoteCall.result_getElem? members)]
    refine exists_congr fun k => exists_congr fun m => and_congr_right fun hm => ?_
    have hin := hmembers m (List.mem_of_getElem? hm)
    rw [or_iff_left fun h => hremote h.1, ← Member.remotes_changed_iff hevent hin]
    exact or_iff_left fun h => h.1 rfl

theorem PathEvent.Reaches.differs (h : event.Reaches members) : ∃ m ∈ members, m.Differs event := by
  obtain ⟨k, m, hm, hto | hfrom⟩ := h
  · exact ⟨m, List.mem_of_getElem? hm, Or.inl hto.1⟩
  · exact ⟨m, List.mem_of_getElem? hm, Or.inr hfrom.2.1⟩

theorem PathEvent.Completes.reaches_iff (h : event.Completes members) :
    event.Reaches members ↔ ∃ m ∈ members, m.Differs event := by
  refine ⟨PathEvent.Reaches.differs, ?_⟩
  rintro ⟨m, hmem, hdiffers⟩
  obtain ⟨k, hm⟩ := List.getElem?_of_mem hmem
  refine ⟨k, m, hm, hdiffers.imp (fun hto => ⟨hto, h.1 k m hm⟩) fun hfrom => ?_⟩
  exact ⟨h.1, hfrom, h.2 k m hm⟩

theorem PathEvent.Grows.completes (h : event.Grows) (members : List Member) :
    event.Completes members := by
  constructor
  · intro k m _ hrefused
    obtain ⟨moved, hmoved⟩ := h.1 k
    exact hrefused.2 moved hmoved
  · intro k m _ hrefused
    obtain ⟨moved, hmoved⟩ := h.2 k
    exact hrefused.2 moved hmoved

theorem Member.flagged_iff (hevent : event.Inet) {m : Member} (hm : m.InRange) :
    m.flagged event = true ↔ m.Differs event ∨ m.Shadowed event := by
  have hremote := EndpointList.search_ne_active_iff hm.2 (remoteOf_equal hevent.1)
  have hlocal := EndpointList.search_ne_active_iff hm.1 (localOf_equal hevent.2)
  have hmoves : m.flagged event = true ↔
      m.locals.search (·.resolvedAddress) (localOf event.fromAddress) ≠ some m.locals.active ∨
        m.remotes.search (·.resolvedAddress) (remoteOf event.toAddress) ≠ some m.remotes.active := by
    rw [Member.flagged, Bool.or_eq_true]
    exact or_congr decide_eq_true_iff decide_eq_true_iff
  rw [hmoves, hlocal, hremote, or_or_or_comm]
  exact or_congr or_comm or_comm

/-! ### The notification -/

structure Exact (event : PathEvent) (members : List Member) : Prop where
  notified : AddressesChanged members (pathAvailable event members).1 →
    (pathAvailable event members).2 = (members.filter (·.pathChange)).map (·.id)
  silent : ¬AddressesChanged members (pathAvailable event members).1 →
    (pathAvailable event members).2 = []

/-- As far as the path is concerned, the members do not disagree: where one of them has another
address active, every one has another or has the address twice, and where none has, none has it
twice. -/
def Unanimous (event : PathEvent) (members : List Member) : Prop :=
  ∀ m ∈ members, (m.Differs event ∨ m.Shadowed event) ↔ ∃ m' ∈ members, m'.Differs event

def PathEvent.Announced (event : PathEvent) (members : List Member) : Prop :=
  event.Completes members ∧
    ∃ last, members.getLast? = some last ∧ (last.Differs event ∨ last.Shadowed event)

theorem notifyOfPathChange_eq_nil_iff :
    notifyOfPathChange members = [] ↔ ∀ m ∈ members, m.pathChange = false := by
  simp [notifyOfPathChange]

theorem lastFlagged_iff (hevent : event.Inet) (hmembers : ∀ m ∈ members, m.InRange) :
    (members.getLast?.map (Member.flagged event)).getD false = true ↔
      ∃ last, members.getLast? = some last ∧ (last.Differs event ∨ last.Shadowed event) := by
  cases hlast : members.getLast? with
  | none => simp
  | some last =>
    have hin := hmembers last (List.mem_of_getLast? hlast)
    rw [Option.map_some, Option.getD_some, Member.flagged_iff hevent hin]
    simp

theorem announced_iff (hevent : event.Inet) (hmembers : ∀ m ∈ members, m.InRange)
    (hremote : event.remoteCall.Succeeds members) :
    ((event.after members).rc = 0 ∧
      ((event.after members).changed || (event.remoteCall.result members).changed) = true) ↔
        event.Announced members := by
  rw [after_rc_eq_zero_iff, PathEvent.Announced, PathEvent.Completes, and_iff_right hremote]
  refine and_congr_right fun hlocal => ?_
  rw [changed_of_completes ⟨hremote, hlocal⟩]
  exact lastFlagged_iff hevent hmembers

theorem pathAvailable_of_announced (hevent : event.Inet) (hmembers : ∀ m ∈ members, m.InRange)
    (h : event.Announced members) : (pathAvailable event members).2 = notifyOfPathChange members := by
  rw [pathAvailable_of_remote h.1.1, if_pos ((announced_iff hevent hmembers h.1.1).mpr h)]
  exact notifyOfPathChange_after event members

theorem pathAvailable_of_not_announced (hevent : event.Inet) (hmembers : ∀ m ∈ members, m.InRange)
    (h : ¬event.Announced members) : (pathAvailable event members).2 = [] := by
  by_cases hremote : event.remoteCall.Succeeds members
  · rw [pathAvailable_of_remote hremote,
      if_neg fun hflag => h ((announced_iff hevent hmembers hremote).mp hflag)]
  · rw [pathAvailable_of_refused_remote hremote]

theorem exact_iff (hevent : event.Inet) (hmembers : ∀ m ∈ members, m.InRange) :
    Exact event members ↔
      notifyOfPathChange members = [] ∨ (event.Reaches members ↔ event.Announced members) := by
  rw [← addressesChanged_iff hevent hmembers]
  by_cases hset : event.Announced members
  · have hnotified := pathAvailable_of_announced hevent hmembers hset
    rw [iff_true_right hset]
    constructor
    · intro h
      by_cases hc : AddressesChanged members (pathAvailable event members).1
      · exact Or.inr hc
      · exact Or.inl (hnotified.symm.trans (h.silent hc))
    · rintro (hnil | hc)
      · exact ⟨fun _ => hnotified, fun _ => hnotified.trans hnil⟩
      · exact ⟨fun _ => hnotified, fun hnot => absurd hc hnot⟩
  · have hnotified := pathAvailable_of_not_announced hevent hmembers hset
    rw [iff_false_right hset]
    constructor
    · intro h
      by_cases hc : AddressesChanged members (pathAvailable event members).1
      · exact Or.inl ((h.notified hc).symm.trans hnotified)
      · exact Or.inr hc
    · rintro (hnil | hc)
      · exact ⟨fun _ => hnotified.trans hnil.symm, fun _ => hnotified⟩
      · exact ⟨fun h => absurd h hc, fun _ => hnotified⟩

theorem forall_announced_iff_unanimous (hgrows : event.Grows) :
    (∀ order, order.Perm members → (event.Reaches order ↔ event.Announced order)) ↔
      Unanimous event members := by
  have hdiffers : ∀ order : List Member, order.Perm members →
      (event.Reaches order ↔ ∃ m ∈ members, m.Differs event) := by
    intro order hperm
    rw [(hgrows.completes order).reaches_iff]
    exact exists_congr fun m => and_congr_left' hperm.mem_iff
  constructor
  · intro hannounced m hm
    obtain ⟨s, t, rfl⟩ := List.append_of_mem hm
    have hperm : (s ++ t ++ [m]).Perm (s ++ m :: t) := by
      rw [List.append_assoc]
      have hlast : (t ++ [m]).Perm (m :: t) := List.perm_append_comm
      exact hlast.append_left s
    rw [← hdiffers _ hperm, hannounced _ hperm, PathEvent.Announced,
      and_iff_right (hgrows.completes _), List.getLast?_concat]
    simp
  · intro hunanimous order hperm
    rw [hdiffers _ hperm, PathEvent.Announced, and_iff_right (hgrows.completes order)]
    constructor
    · rintro ⟨m, hm, hdiffer⟩
      have hne : order ≠ [] := List.ne_nil_of_mem (hperm.mem_iff.mpr hm)
      refine ⟨order.getLast hne, List.getLast?_eq_some_getLast hne, ?_⟩
      exact (hunanimous _ (hperm.mem_iff.mp (List.getLast_mem hne))).mpr ⟨m, hm, hdiffer⟩
    · rintro ⟨last, hlast, hflagged⟩
      exact (hunanimous last (hperm.mem_iff.mp (List.mem_of_getLast? hlast))).mp hflagged

/-- The notification is exact in every order of the table exactly when nobody listens or what is
announced is always what happens; with memory for every entry, when the members do not disagree. -/
theorem path_change_exact_iff (hevent : event.Inet) (hmembers : ∀ m ∈ members, m.InRange) :
    ((∀ order, order.Perm members → Exact event order) ↔
        (∀ m ∈ members, m.pathChange = false) ∨
          ∀ order, order.Perm members → (event.Reaches order ↔ event.Announced order)) ∧
      (event.Grows → ((∀ order, order.Perm members → Exact event order) ↔
        (∀ m ∈ members, m.pathChange = false) ∨ Unanimous event members)) := by
  have hquiet : ∀ order : List Member, order.Perm members →
      (notifyOfPathChange order = [] ↔ ∀ m ∈ members, m.pathChange = false) := by
    intro order hperm
    rw [notifyOfPathChange_eq_nil_iff]
    exact forall_congr' fun m => imp_congr_left hperm.mem_iff
  have hexact : (∀ order, order.Perm members → Exact event order) ↔
      (∀ m ∈ members, m.pathChange = false) ∨
        ∀ order, order.Perm members → (event.Reaches order ↔ event.Announced order) := by
    have horder : ∀ order : List Member, order.Perm members → (Exact event order ↔
        (∀ m ∈ members, m.pathChange = false) ∨ (event.Reaches order ↔ event.Announced order)) := by
      intro order hperm
      rw [← hquiet order hperm]
      exact exact_iff hevent fun m hm => hmembers m (hperm.mem_iff.mp hm)
    by_cases hnone : ∀ m ∈ members, m.pathChange = false
    · exact iff_of_true (fun order hperm => (horder order hperm).mpr (Or.inl hnone)) (Or.inl hnone)
    · rw [or_iff_right hnone]
      exact forall₂_congr fun order hperm => (horder order hperm).trans (or_iff_right hnone)
  refine ⟨hexact, fun hgrows => ?_⟩
  rw [hexact, forall_announced_iff_unanimous hgrows]

end Event

def Member.ofConnection (id : Nat) (pathChange : Bool) (connection : Attempts.Connection) : Member :=
  ⟨id, pathChange, ⟨connection.localEndpoints, connection.activeLocalEndpoint, 0⟩,
    ⟨connection.remoteEndpoints, connection.activeRemoteEndpoint, 0⟩⟩

def Member.resolveFromPoll (bound : Storage) (m : Member) : Member :=
  { m with locals := m.locals.resolveFromPoll bound }

def candidateFrom (port : Nat) : Attempts.Candidate :=
  { Attempts.candidateOf [.withIpv4 ![10, 0, 0, 1], .withPort port]
      [.withIpv4 ![10, 0, 0, 2], .withPort 4433] with
    protocolCandidate := ⟨.quic, some "h3"⟩ }

def clientFrom (ports : List Nat) (port : Nat) : List Member :=
  (Attempts.startConnectionAttempt Attempts.Heap.empty Attempts.preconnectionNew
      (ports.map candidateFrom) (candidateFrom port)).toList.map fun started =>
    (Member.ofConnection 0 true started.2).resolveFromPoll
      (candidateFrom port).localEndpoint.resolvedAddress

def samePath (port : Nat) : PathEvent :=
  ⟨(candidateFrom port).remoteEndpoint.resolvedAddress,
    (candidateFrom port).localEndpoint.resolvedAddress, fun _ => .grown false, fun _ => .grown false⟩

theorem samePath_grows (port : Nat) : (samePath port).Grows :=
  ⟨fun _ => ⟨false, rfl⟩, fun _ => ⟨false, rfl⟩⟩

instance (l : EndpointList ε) : Decidable l.InRange :=
  inferInstanceAs (Decidable (l.active < l.entries.length))

instance (m : Member) : Decidable m.InRange :=
  inferInstanceAs (Decidable (m.locals.InRange ∧ m.remotes.InRange))

instance (address : ε → Storage) (s : Storage) (l : EndpointList ε) :
    Decidable (l.Shadowed address s) :=
  inferInstanceAs (Decidable (_ ∧ _))

instance (event : PathEvent) (m : Member) : Decidable (m.Shadowed event) :=
  inferInstanceAs (Decidable (_ ∨ _))

def clientAndClone (port : Nat) : List Member :=
  (clientFrom [port] port).flatMap fun m => [m, { m with id := 1 }]

def newPath (port : Nat) : PathEvent :=
  { samePath port with toAddress := (Storage.withIpv4 ![10, 0, 0, 3]).setPort 4433 }

theorem path_change_exact_clone :
    (pathAvailable (newPath 6000) (clientAndClone 6000)).2 = [0, 1] ∧
      ∀ order, order.Perm (clientAndClone 6000) → Exact (newPath 6000) order := by
  refine ⟨by decide +kernel, ?_⟩
  refine ((path_change_exact_iff ⟨?_, ?_⟩ ?_).2 ⟨?_, ?_⟩).mpr (Or.inr ?_)
  · exact Or.inl (by decide +kernel)
  · exact Or.inl (by decide +kernel)
  · decide +kernel
  · exact fun _ => ⟨false, rfl⟩
  · exact fun _ => ⟨false, rfl⟩
  · intro m hm
    have hall : ∀ m ∈ clientAndClone 6000, m.Differs (newPath 6000) := by decide +kernel
    exact iff_of_true (Or.inl (hall m hm)) ⟨m, hm, hall m hm⟩

/-- Candidates from ports 5000 and 6000 of one address: once the socket is bound to port 6000 both
entries say so, the search stops at the wrong one, and the client is told of a change that there was
not. -/
theorem same_path_notified :
    clientFrom [5000, 6000] 6000 ≠ [] ∧ (∀ m ∈ clientFrom [5000, 6000] 6000, m.InRange) ∧
      (samePath 6000).Grows ∧ (samePath 6000).Inet ∧
      ¬∀ order, order.Perm (clientFrom [5000, 6000] 6000) → Exact (samePath 6000) order := by
  have hinet : (samePath 6000).Inet := ⟨Or.inl (by decide +kernel), Or.inl (by decide +kernel)⟩
  have hmembers : ∀ m ∈ clientFrom [5000, 6000] 6000, m.InRange := by decide +kernel
  refine ⟨by decide +kernel, hmembers, samePath_grows 6000, hinet, fun hexact => ?_⟩
  have hsame : ∀ m ∈ clientFrom [5000, 6000] 6000, ¬m.Differs (samePath 6000) := by decide +kernel
  have hsilent := (hexact _ (List.Perm.refl _)).silent fun hchanged => by
    rw [addressesChanged_iff hinet hmembers] at hchanged
    obtain ⟨m, hm, hdiffers⟩ := hchanged.differs
    exact hsame m hm hdiffers
  exact absurd hsilent (by decide +kernel)

end CTaps.Endpoints
