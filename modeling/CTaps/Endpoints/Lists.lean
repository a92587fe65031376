import CTaps.Demux.Table
import Mathlib.Data.List.Forall2

/-! The endpoint lists of a connection. A list is an array that grows by reallocation, with the index
of the active entry; an address that is not in the list yet is appended, and a failed copy is rolled
back by counting it out again. -/

namespace CTaps.Attempts.Storage

variable {a b c : Storage}

/-! ### `ct_sockaddr_equal` as an equivalence -/

theorem sameBytes_refl (a : Storage) (lo hi : Nat) : a.sameBytes a lo hi = true :=
  sameBytes_iff.mpr fun _ _ _ => rfl

theorem sameBytes_symm {lo hi : Nat} (h : a.sameBytes b lo hi = true) :
    b.sameBytes a lo hi = true :=
  sameBytes_iff.mpr fun i hlo hhi => (sameBytes_iff.mp h i hlo hhi).symm

theorem sameBytes_trans {lo hi : Nat} (hab : a.sameBytes b lo hi = true)
    (hbc : b.sameBytes c lo hi = true) : a.sameBytes c lo hi = true :=
  sameBytes_iff.mpr fun i hlo hhi =>
    (sameBytes_iff.mp hab i hlo hhi).trans (sameBytes_iff.mp hbc i hlo hhi)

theorem ctSockaddrEqual_iff :
    a.ctSockaddrEqual b = true ↔ a.ssFamily = b.ssFamily ∧
      (a.ssFamily = afInet ∧ a.sameBytes b 2 4 = true ∧ a.sameBytes b 4 8 = true ∨
        a.ssFamily = afInet6 ∧ a.sameBytes b 2 4 = true ∧ a.sameBytes b 24 28 = true ∧
          a.sameBytes b 8 24 = true) := by
  unfold ctSockaddrEqual
  split
  next hfamily => exact iff_of_false Bool.false_ne_true fun h => hfamily h.1
  next hfamily =>
    rw [and_iff_right (not_not.mp hfamily)]
    split
    next hinet =>
      have hinet6 : a.ssFamily ≠ afInet6 := fun h => afInet_ne_afInet6 (hinet.symm.trans h)
      rw [and_iff_right hinet, or_iff_left fun h => hinet6 h.1, Bool.and_eq_true]
    next hinet =>
      rw [or_iff_right fun h => hinet h.1]
      split
      next hinet6 => rw [and_iff_right hinet6, Bool.and_eq_true, Bool.and_eq_true, and_assoc]
      next hinet6 => exact iff_of_false Bool.false_ne_true fun h => hinet6 h.1

theorem ctSockaddrEqual_refl (ha : a.Inet) : a.ctSockaddrEqual a = true :=
  ctSockaddrEqual_iff.mpr ⟨rfl, ha.imp
    (fun h => ⟨h, sameBytes_refl a 2 4, sameBytes_refl a 4 8⟩)
    fun h => ⟨h, sameBytes_refl a 2 4, sameBytes_refl a 24 28, sameBytes_refl a 8 24⟩⟩

theorem ctSockaddrEqual_symm (h : a.ctSockaddrEqual b = true) : b.ctSockaddrEqual a = true := by
  obtain ⟨hfamily, hbytes⟩ := ctSockaddrEqual_iff.mp h
  refine ctSockaddrEqual_iff.mpr ⟨hfamily.symm, ?_⟩
  rw [← hfamily]
  rcases hbytes with ⟨hinet, hport, haddr⟩ | ⟨hinet6, hport, hscope, haddr⟩
  · exact Or.inl ⟨hinet, sameBytes_symm hport, sameBytes_symm haddr⟩
  · exact Or.inr ⟨hinet6, sameBytes_symm hport, sameBytes_symm hscope, sameBytes_symm haddr⟩

theorem ctSockaddrEqual_trans (hab : a.ctSockaddrEqual b = true)
    (hbc : b.ctSockaddrEqual c = true) : a.ctSockaddrEqual c = true := by
  obtain ⟨hfab, hab⟩ := ctSockaddrEqual_iff.mp hab
  obtain ⟨hfbc, hbc⟩ := ctSockaddrEqual_iff.mp hbc
  rw [← hfab] at hbc
  refine ctSockaddrEqual_iff.mpr ⟨hfab.trans hfbc, ?_⟩
  rcases hab with ⟨hinet, hport, haddr⟩ | ⟨hinet6, hport, hscope, haddr⟩
  · rcases hbc with ⟨_, hport', haddr'⟩ | ⟨hinet6, _⟩
    · exact Or.inl ⟨hinet, sameBytes_trans hport hport', sameBytes_trans haddr haddr'⟩
    · exact absurd (hinet.symm.trans hinet6) afInet_ne_afInet6
  · rcases hbc with ⟨hinet, _⟩ | ⟨_, hport', hscope', haddr'⟩
    · exact absurd (hinet.symm.trans hinet6) afInet_ne_afInet6
    · exact Or.inr ⟨hinet6, sameBytes_trans hport hport', sameBytes_trans hscope hscope',
        sameBytes_trans haddr haddr'⟩

end CTaps.Attempts.Storage

namespace CTaps.Endpoints

open Attempts (Storage LocalEndpoint RemoteEndpoint)

/-! ### One list -/

structure EndpointList (ε : Type) where
  entries : List ε
  active : Nat
  /-- Which allocation the array is: it changes when a reallocation moves the array. -/
  block : Nat

inductive Growth
  | noMemory
  | copyFailed (moved : Bool)
  | grown (moved : Bool)

def enomem : Int := -12

variable {ε : Type}

namespace EndpointList

def InRange (l : EndpointList ε) : Prop := l.active < l.entries.length

def reallocate (l : EndpointList ε) (moved : Bool) : EndpointList ε :=
  { l with block := if moved then l.block + 1 else l.block }

structure SetResult (ε : Type) where
  list : EndpointList ε
  rc : Int
  changed : Option Bool

def search (address : ε → Storage) (ep : ε) (l : EndpointList ε) : Option Nat :=
  l.entries.findIdx? fun e => (address ep).ctSockaddrEqual (address e)

/-- The body that `ct_connection_set_active_local_endpoint` and
`ct_connection_set_active_remote_endpoint` share, behind the assertion on the family. -/
def setActive (address : ε → Storage) (ep : ε) (growth : Growth) (l : EndpointList ε) : SetResult ε :=
  match l.search address ep with
  | some ix => ⟨{ l with active := ix }, 0, some (ix ≠ l.active)⟩
  | none =>
    match growth with
    | .noMemory => ⟨l, enomem, none⟩
    | .copyFailed moved => ⟨l.reallocate moved, enomem, none⟩
    | .grown moved =>
      let l := l.reallocate moved
      ⟨{ l with entries := l.entries ++ [ep], active := l.entries.length }, 0, some true⟩

structure Sets (address : ε → Storage) (ep : ε) (before : EndpointList ε) (rc : Int)
    (after : EndpointList ε) : Prop where
  inRange : after.InRange
  active : rc = 0 → ∃ e, after.entries[after.active]? = some e ∧
    (address e).ctSockaddrEqual (address ep) = true
  kept : ∃ added, after.entries = before.entries ++ added ∧ added.length ≤ 1 ∧
    (added ≠ [] → ∀ e ∈ before.entries, (address e).ctSockaddrEqual (address ep) = false)
  idempotent : rc = 0 → ∀ growth, after.setActive address ep growth = ⟨after, 0, some false⟩
  failed : rc ≠ 0 → after.entries = before.entries ∧ after.active = before.active

section SetActive

variable {address : ε → Storage} {ep : ε} {l : EndpointList ε}

theorem search_eq_some_iff {ix : Nat} :
    l.search address ep = some ix ↔
      ∃ e, l.entries[ix]? = some e ∧ (address ep).ctSockaddrEqual (address e) = true ∧
        ∀ j < ix, ∀ e', l.entries[j]? = some e' → (address ep).ctSockaddrEqual (address e') = false := by
  rw [search, List.findIdx?_eq_some_iff_getElem]
  constructor
  · rintro ⟨hlt, heq, hbefore⟩
    refine ⟨_, List.getElem?_eq_getElem hlt, heq, fun j hj e' he' => ?_⟩
    obtain ⟨hlt', rfl⟩ := List.getElem?_eq_some_iff.mp he'
    exact Bool.eq_false_iff.mpr (hbefore j hj)
  · rintro ⟨e, he, heq, hbefore⟩
    obtain ⟨hlt, rfl⟩ := List.getElem?_eq_some_iff.mp he
    refine ⟨hlt, heq, fun j hj => ?_⟩
    exact Bool.eq_false_iff.mp (hbefore j hj _ (List.getElem?_eq_getElem (Nat.lt_trans hj hlt)))

theorem search_eq_none_iff :
    l.search address ep = none ↔ ∀ e ∈ l.entries, (address ep).ctSockaddrEqual (address e) = false :=
  List.findIdx?_eq_none_iff

theorem setActive_of_some {ix : Nat} (h : l.search address ep = some ix) (growth : Growth) :
    l.setActive address ep growth = ⟨{ l with active := ix }, 0, some (ix ≠ l.active)⟩ := by
  unfold setActive
  rw [h]

theorem ctSockaddrEqual_eq_false_symm {a b : Storage} (h : a.ctSockaddrEqual b = false) :
    b.ctSockaddrEqual a = false := by
  rw [← Bool.not_eq_true] at h ⊢
  exact fun h' => h (Storage.ctSockaddrEqual_symm h')

theorem sets_of_some {ix : Nat} (h : l.search address ep = some ix) :
    Sets address ep l 0 { l with active := ix } := by
  obtain ⟨e, he, heq, hbefore⟩ := search_eq_some_iff.mp h
  refine ⟨(List.getElem?_eq_some_iff.mp he).1, fun _ => ⟨e, he, Storage.ctSockaddrEqual_symm heq⟩,
    ⟨[], (List.append_nil _).symm, Nat.zero_le _, fun hne => absurd rfl hne⟩, fun _ growth => ?_,
    fun hrc => absurd rfl hrc⟩
  have hagain : EndpointList.search address ep { l with active := ix } = some ix := h
  rw [setActive_of_some hagain]
  simp

theorem sets_of_grown (hep : (address ep).Inet) (h : l.search address ep = none) (block : Nat) :
    Sets address ep l 0 ⟨l.entries ++ [ep], l.entries.length, block⟩ := by
  have hnone := search_eq_none_iff.mp h
  have hlast : (l.entries ++ [ep])[l.entries.length]? = some ep := by simp
  have hfound : EndpointList.search address ep ⟨l.entries ++ [ep], l.entries.length, block⟩ =
      some l.entries.length := by
    refine search_eq_some_iff.mpr ⟨ep, hlast, Storage.ctSockaddrEqual_refl hep, fun j hj e' he' => ?_⟩
    rw [List.getElem?_append_left hj] at he'
    exact hnone e' (List.mem_of_getElem? he')
  refine ⟨?_, fun _ => ⟨ep, hlast, Storage.ctSockaddrEqual_refl hep⟩,
    ⟨[ep], rfl, Nat.le_refl 1, fun _ e he => ctSockaddrEqual_eq_false_symm (hnone e he)⟩,
    fun _ growth => ?_, fun hrc => absurd rfl hrc⟩
  · rw [InRange, List.length_append]
    exact Nat.lt_succ_self _
  · rw [setActive_of_some hfound]
    simp

theorem sets_of_failed (hl : l.InRange) (block : Nat) :
    Sets address ep l enomem { l with block := block } := by
  refine ⟨hl, fun hrc => absurd hrc (by decide),
    ⟨[], (List.append_nil _).symm, Nat.zero_le _, fun hne => absurd rfl hne⟩,
    fun hrc => absurd hrc (by decide), fun _ => ⟨rfl, rfl⟩⟩

theorem sets_setActive (hl : l.InRange) (hep : (address ep).Inet) (growth : Growth) :
    Sets address ep l (l.setActive address ep growth).rc (l.setActive address ep growth).list := by
  unfold setActive
  cases h : l.search address ep with
  | some ix => exact sets_of_some h
  | none =>
    cases growth with
    | noMemory => exact sets_of_failed hl l.block
    | copyFailed moved => exact sets_of_failed hl _
    | grown moved => exact sets_of_grown hep h _

end SetActive

end EndpointList

/-! ### The lists of a group -/

structure Member where
  id : Nat
  /-- `path_change` is not NULL. -/
  pathChange : Bool
  locals : EndpointList LocalEndpoint
  remotes : EndpointList RemoteEndpoint

def Member.InRange (m : Member) : Prop := m.locals.InRange ∧ m.remotes.InRange

inductive Request
  | localEndpoint (ep : LocalEndpoint)
  | remoteEndpoint (ep : RemoteEndpoint)

def Request.address : Request → Storage
  | .localEndpoint ep => ep.resolvedAddress
  | .remoteEndpoint ep => ep.resolvedAddress

structure MemberResult where
  member : Member
  rc : Int
  changed : Option Bool

def Member.set (m : Member) (request : Request) (growth : Growth) : MemberResult :=
  match request with
  | .localEndpoint ep =>
    let r := m.locals.setActive (·.resolvedAddress) ep growth
    ⟨{ m with locals := r.list }, r.rc, r.changed⟩
  | .remoteEndpoint ep =>
    let r := m.remotes.setActive (·.resolvedAddress) ep growth
    ⟨{ m with remotes := r.list }, r.rc, r.changed⟩

structure GroupResult where
  results : List MemberResult
  rc : Int
  changed : Bool

def GroupResult.members (r : GroupResult) : List Member := r.results.map MemberResult.member

/-- The loop of `ct_connection_group_set_active_endpoint` from the `i`-th member on. -/
def groupSetActive (request : Request) (growth : Nat → Growth) :
    Nat → List Member → Int → Bool → GroupResult
  | _, [], atLeastOneFailure, changed => ⟨[], atLeastOneFailure, changed⟩
  | i, m :: members, atLeastOneFailure, changed =>
    let r := m.set request (growth i)
    let rest := groupSetActive request growth (i + 1) members
      (if r.rc ≠ 0 then r.rc else atLeastOneFailure) (r.changed.getD changed)
    { rest with results := r :: rest.results }

structure GroupCall where
  request : Request
  growth : Nat → Growth

def GroupCall.result (call : GroupCall) (members : List Member) : GroupResult :=
  groupSetActive call.request call.growth 0 members 0 false

def groupStep (members : List Member) (call : GroupCall) : List Member :=
  (call.result members).members

def MemberSet : Request → Member → MemberResult → Prop
  | .localEndpoint ep, m, r =>
    EndpointList.Sets (·.resolvedAddress) ep m.locals r.rc r.member.locals ∧
      r.member.remotes = m.remotes
  | .remoteEndpoint ep, m, r =>
    EndpointList.Sets (·.resolvedAddress) ep m.remotes r.rc r.member.remotes ∧
      r.member.locals = m.locals

section Group

variable {request : Request} {m : Member}

theorem memberSet_set (hm : m.InRange) (hrequest : request.address.Inet) (growth : Growth) :
    MemberSet request m (m.set request growth) := by
  cases request with
  | localEndpoint ep => exact ⟨EndpointList.sets_setActive hm.1 hrequest growth, rfl⟩
  | remoteEndpoint ep => exact ⟨EndpointList.sets_setActive hm.2 hrequest growth, rfl⟩

theorem MemberSet.inRange {r : MemberResult} (hm : m.InRange) (h : MemberSet request m r) :
    r.member.InRange := by
  cases request with
  | localEndpoint ep => exact ⟨h.1.inRange, h.2 ▸ hm.2⟩
  | remoteEndpoint ep => exact ⟨h.2 ▸ hm.1, h.1.inRange⟩

theorem forall₂_groupSetActive (hrequest : request.address.Inet) (growth : Nat → Growth)
    {members : List Member} (hmembers : ∀ m ∈ members, m.InRange) (i : Nat) (failure : Int)
    (changed : Bool) :
    List.Forall₂ (MemberSet request) members
      (groupSetActive request growth i members failure changed).results := by
  induction members generalizing i failure changed with
  | nil => exact List.Forall₂.nil
  | cons m members ih =>
    refine List.Forall₂.cons (memberSet_set (hmembers m List.mem_cons_self) hrequest (growth i)) ?_
    exact ih (fun m' hm' => hmembers m' (List.mem_cons_of_mem m hm')) (i + 1) _ _

theorem rc_groupSetActive_eq_zero_iff (request : Request) (growth : Nat → Growth)
    (members : List Member) (i : Nat) (failure : Int) (changed : Bool) :
    (groupSetActive request growth i members failure changed).rc = 0 ↔
      failure = 0 ∧
        ∀ r ∈ (groupSetActive request growth i members failure changed).results, r.rc = 0 := by
  induction members generalizing i failure changed with
  | nil => exact (and_iff_left fun r hr => absurd hr List.not_mem_nil).symm
  | cons m members ih =>
    rw [groupSetActive]
    dsimp only
    rw [ih, List.forall_mem_cons]
    by_cases hrc : (m.set request (growth i)).rc = 0
    · rw [if_neg (not_not.mpr hrc), and_iff_right hrc]
    · rw [if_pos hrc]
      exact iff_of_false (fun h => hrc h.1) fun h => hrc h.2.1

theorem inRange_of_forall₂ {members : List Member} {results : List MemberResult}
    (h : List.Forall₂ (MemberSet request) members results) (hmembers : ∀ m ∈ members, m.InRange) :
    ∀ r ∈ results, r.member.InRange := by
  induction h with
  | nil => exact fun r hr => absurd hr List.not_mem_nil
  | cons hset _ ih =>
    rw [List.forall_mem_cons] at hmembers ⊢
    exact ⟨hset.inRange hmembers.1, ih hmembers.2⟩

theorem inRange_groupStep {members : List Member} (hmembers : ∀ m ∈ members, m.InRange)
    {call : GroupCall} (hcall : call.request.address.Inet) : ∀ m ∈ groupStep members call, m.InRange := by
  have hsets := forall₂_groupSetActive hcall call.growth hmembers 0 0 false
  intro m' hm'
  obtain ⟨r, hr, rfl⟩ := List.mem_map.mp hm'
  exact inRange_of_forall₂ hsets hmembers r hr

end Group

/-- After any calls for a group, with whatever allocations failing, the active entries are entries of
their lists, and the next call does to every member's list what is promised. -/
theorem endpoint_lists (members : List Member) (hmembers : ∀ m ∈ members, m.InRange)
    (calls : List GroupCall) (hcalls : ∀ call ∈ calls, call.request.address.Inet) (call : GroupCall)
    (hcall : call.request.address.Inet) :
    (∀ m ∈ Lib.run groupStep members calls, m.InRange) ∧
      List.Forall₂ (MemberSet call.request) (Lib.run groupStep members calls)
        (call.result (Lib.run groupStep members calls)).results ∧
      ((call.result (Lib.run groupStep members calls)).rc = 0 ↔
        ∀ r ∈ (call.result (Lib.run groupStep members calls)).results, r.rc = 0) := by
  have hrange : ∀ m ∈ Lib.run groupStep members calls, m.InRange := by
    refine Lib.run_history (p := fun call : GroupCall => call.request.address.Inet)
      (I := fun _ (ms : List Member) => ∀ m ∈ ms, m.InRange) (fun _ ms c hms hc => ?_) hmembers hcalls
    exact inRange_groupStep hms hc
  refine ⟨hrange, forall₂_groupSetActive hcall call.growth hrange 0 0 false, ?_⟩
  exact (rc_groupSetActive_eq_zero_iff call.request call.growth _ 0 0 false).trans
    (and_iff_right rfl)

def twoMembers : List Member :=
  [0, 1].map fun id => ⟨id, true, ⟨[⟨0, none, none, .withIpv4 ![10, 0, 0, 1]⟩], 0, 0⟩,
    ⟨[⟨0, none, none, .withIpv4 ![10, 0, 0, 2]⟩], 0, 0⟩⟩

def callWith (growth : Nat → Growth) : GroupCall :=
  ⟨.remoteEndpoint ⟨0, none, none, .withIpv4 ![10, 0, 0, 3]⟩, growth⟩

def rolledBack : GroupCall := callWith fun i => if i = 0 then .grown true else .copyFailed true

theorem endpoint_lists_rolled_back :
    (Lib.run groupStep twoMembers [rolledBack]).map (·.remotes.entries.length) = [2, 1] ∧
    List.Forall₂ (MemberSet (callWith fun _ => .grown false).request)
      (Lib.run groupStep twoMembers [rolledBack])
      ((callWith fun _ => .grown false).result
        (Lib.run groupStep twoMembers [rolledBack])).results ∧
    ((callWith fun _ => .grown false).result
      (Lib.run groupStep twoMembers [rolledBack])).rc = 0 := by
  have hmembers : ∀ m ∈ twoMembers, m.InRange := by
    intro m hm
    obtain ⟨id, -, rfl⟩ := List.mem_map.mp hm
    exact ⟨Nat.zero_lt_one, Nat.zero_lt_one⟩
  have hcalls : ∀ call ∈ [rolledBack], call.request.address.Inet := by
    intro call hc
    rw [List.mem_singleton.mp hc]
    exact Or.inl rfl
  obtain ⟨-, hsets, hrc⟩ := endpoint_lists twoMembers hmembers [rolledBack] hcalls
    (callWith fun _ => .grown false) (Or.inl rfl)
  exact ⟨by decide, hsets, hrc.mpr (by decide)⟩

end CTaps.Endpoints
