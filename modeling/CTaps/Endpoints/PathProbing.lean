import CTaps.Endpoints.Lists
import CTaps.Lib.Machine

/-! Probing of other paths. When a path is suspended, picoquic is asked to probe a path to the active
remote endpoint from each local endpoint of its address family that is not the active one. Whether a
probe was accepted is only logged. -/

namespace CTaps.Endpoints

open Attempts (Storage LocalEndpoint RemoteEndpoint)

def eio : Int := -5

structure Probe where
  index : Nat
  toAddress : Storage
  fromAddress : Storage
  rc : Int

structure Probing where
  probes : List Probe
  atLeastOneSuccess : Int

def getFirst (members : List Member) : Option Member := members.head?

def getActiveRemoteEndpoint (m : Member) : Option RemoteEndpoint := m.remotes.entries[m.remotes.active]?

def probeTurn (results : Nat → Int) (activeLocal : Nat) (remote : RemoteEndpoint) (s : Probing)
    (e : LocalEndpoint × Nat) : Probing :=
  if e.2 = activeLocal then s
  else if e.1.resolvedAddress.ssFamily ≠ remote.resolvedAddress.ssFamily then s
  else
    -- a negative result is logged, and no result is counted
    let rc := results s.probes.length
    { s with probes := s.probes ++ [⟨e.2, remote.resolvedAddress, e.1.resolvedAddress, rc⟩] }

/-- `probe_all_paths`: the probes and what is returned. Undefined for a group without a connection or
without an active remote endpoint. -/
def probeAllPaths (results : Nat → Int) (members : List Member) : Option (List Probe × Int) :=
  (getFirst members).bind fun m => (getActiveRemoteEndpoint m).map fun remote =>
    let s := m.locals.entries.zipIdx.foldl (probeTurn results m.locals.active remote) ⟨[], 0⟩
    (s.probes, if s.atLeastOneSuccess = 0 then eio else s.atLeastOneSuccess)

/-! ### The loop -/

section Loop

variable {results : Nat → Int} {activeLocal : Nat} {remote : RemoteEndpoint}

def Wanted (activeLocal : Nat) (remote : RemoteEndpoint) (e : LocalEndpoint × Nat) : Prop :=
  e.2 ≠ activeLocal ∧ e.1.resolvedAddress.ssFamily = remote.resolvedAddress.ssFamily
deriving Decidable

theorem probeTurn_of_wanted {e : LocalEndpoint × Nat} (h : Wanted activeLocal remote e) (s : Probing) :
    probeTurn results activeLocal remote s e =
      { s with probes := s.probes ++
          [⟨e.2, remote.resolvedAddress, e.1.resolvedAddress, results s.probes.length⟩] } := by
  rw [probeTurn, if_neg h.1, if_neg (not_not.mpr h.2)]

theorem probeTurn_of_not_wanted {e : LocalEndpoint × Nat} (h : ¬Wanted activeLocal remote e)
    (s : Probing) : probeTurn results activeLocal remote s e = s := by
  unfold probeTurn
  by_cases hactive : e.2 = activeLocal
  · rw [if_pos hactive]
  · rw [if_neg hactive, if_pos fun hfamily => h ⟨hactive, hfamily⟩]

theorem atLeastOneSuccess_loop (l : List (LocalEndpoint × Nat)) (s : Probing) :
    (l.foldl (probeTurn results activeLocal remote) s).atLeastOneSuccess = s.atLeastOneSuccess := by
  refine Lib.foldl_keeps Probing.atLeastOneSuccess (fun s e => ?_) s l
  by_cases h : Wanted activeLocal remote e
  · rw [probeTurn_of_wanted h]
  · rw [probeTurn_of_not_wanted h]

theorem probes_loop (l : List (LocalEndpoint × Nat)) (s : Probing) :
    (l.foldl (probeTurn results activeLocal remote) s).probes =
      s.probes ++ ((l.filter fun e => Wanted activeLocal remote e).zipIdx s.probes.length).map
        fun e => ⟨e.1.2, remote.resolvedAddress, e.1.1.resolvedAddress, results e.2⟩ := by
  induction l generalizing s with
  | nil => exact (List.append_nil _).symm
  | cons e l ih =>
    rw [List.foldl_cons, ih]
    by_cases h : Wanted activeLocal remote e
    · rw [probeTurn_of_wanted h, List.filter_cons_of_pos (by simpa using h), List.zipIdx_cons,
        List.map_cons, List.append_assoc, List.length_append]
      rfl
    · rw [probeTurn_of_not_wanted h, List.filter_cons_of_neg (by simpa using h)]

end Loop

/-! ### The result -/

def wanted (m : Member) (remote : RemoteEndpoint) : List (LocalEndpoint × Nat) :=
  m.locals.entries.zipIdx.filter fun e => Wanted m.locals.active remote e

def probesOf (results : Nat → Int) (m : Member) (remote : RemoteEndpoint) : List Probe :=
  (wanted m remote).zipIdx.map fun e =>
    ⟨e.1.2, remote.resolvedAddress, e.1.1.resolvedAddress, results e.2⟩

theorem probeAllPaths_eq {m : Member} {remote : RemoteEndpoint}
    (hremote : getActiveRemoteEndpoint m = some remote) (results : Nat → Int)
    (others : List Member) :
    probeAllPaths results (m :: others) = some (probesOf results m remote, eio) := by
  rw [probeAllPaths, getFirst, List.head?_cons, Option.bind_some, hremote, Option.map_some]
  dsimp only
  rw [atLeastOneSuccess_loop, probes_loop, if_pos rfl]
  rfl

theorem map_index_probesOf (results : Nat → Int) (m : Member) (remote : RemoteEndpoint) :
    (probesOf results m remote).map Probe.index = (wanted m remote).map Prod.snd := by
  rw [probesOf, List.map_map]
  have hcomp : (Probe.index ∘ fun e : (LocalEndpoint × Nat) × Nat =>
      (⟨e.1.2, remote.resolvedAddress, e.1.1.resolvedAddress, results e.2⟩ : Probe)) =
        Prod.snd ∘ Prod.fst := rfl
  rw [hcomp, ← List.map_map, List.zipIdx_map_fst]

theorem nodup_index_probesOf (results : Nat → Int) (m : Member) (remote : RemoteEndpoint) :
    ((probesOf results m remote).map Probe.index).Nodup := by
  rw [map_index_probesOf]
  have hsub : ((wanted m remote).map Prod.snd).Sublist (m.locals.entries.zipIdx.map Prod.snd) :=
    List.Sublist.map _ List.filter_sublist
  rw [List.zipIdx_map_snd] at hsub
  exact List.Nodup.sublist hsub List.nodup_range'

theorem mem_wanted_iff {m : Member} {remote : RemoteEndpoint} {e : LocalEndpoint × Nat} :
    e ∈ wanted m remote ↔ m.locals.entries[e.2]? = some e.1 ∧ Wanted m.locals.active remote e := by
  rw [wanted, List.mem_filter, List.mem_zipIdx_iff_getElem?, decide_eq_true_iff]

/-- The probes go once from each local endpoint that is not active and of the family of the active
remote one, but what is returned is never positive: it tells whether a probe was accepted if and
only if none was. -/
theorem probeAllPaths_iff (results : Nat → Int) (accepted : Int → Prop) (m : Member)
    (others : List Member) (remote : RemoteEndpoint)
    (hremote : getActiveRemoteEndpoint m = some remote) :
    ∃ probes rc, probeAllPaths results (m :: others) = some (probes, rc) ∧
      (probes.map Probe.index).Nodup ∧
      (∀ j toAddress fromAddress,
        (∃ p ∈ probes, p.index = j ∧ p.toAddress = toAddress ∧ p.fromAddress = fromAddress) ↔
          ∃ ep, m.locals.entries[j]? = some ep ∧ j ≠ m.locals.active ∧
            ep.resolvedAddress.ssFamily = remote.resolvedAddress.ssFamily ∧
            toAddress = remote.resolvedAddress ∧ fromAddress = ep.resolvedAddress) ∧
      (∀ k p, probes[k]? = some p → p.rc = results k) ∧
      ((0 < rc ↔ ∃ p ∈ probes, accepted p.rc) ↔ ∀ p ∈ probes, ¬accepted p.rc) := by
  refine ⟨probesOf results m remote, eio, probeAllPaths_eq hremote results others,
    nodup_index_probesOf results m remote, fun j toAddress fromAddress => ?_, fun k p hp => ?_, ?_⟩
  · constructor
    · rintro ⟨p, hp, rfl, rfl, rfl⟩
      obtain ⟨e, he, rfl⟩ := List.mem_map.mp hp
      obtain ⟨hentry, hactive, hfamily⟩ := mem_wanted_iff.mp (List.fst_mem_of_mem_zipIdx he)
      exact ⟨e.1.1, hentry, hactive, hfamily, rfl, rfl⟩
    · rintro ⟨ep, hentry, hactive, hfamily, rfl, rfl⟩
      have hmem : (ep, j) ∈ wanted m remote := mem_wanted_iff.mpr ⟨hentry, hactive, hfamily⟩
      obtain ⟨k, hk⟩ := List.mem_iff_getElem?.mp hmem
      refine ⟨_, List.mem_map_of_mem (List.mem_zipIdx_iff_getElem?.mpr hk : ((ep, j), k) ∈ _), ?_⟩
      exact ⟨rfl, rfl, rfl⟩
  · rw [probesOf, List.getElem?_map] at hp
    obtain ⟨e, he, rfl⟩ := Option.map_eq_some_iff.mp hp
    rw [List.getElem?_zipIdx] at he
    obtain ⟨a, _, rfl⟩ := Option.map_eq_some_iff.mp he
    show results (0 + k) = results k
    rw [Nat.zero_add]
  · have hrc : ¬(0 : Int) < eio := by decide
    rw [iff_false_left hrc]
    exact ⟨fun h p hp hacc => h ⟨p, hp, hacc⟩, fun h hex => hex.elim fun p hp => h p hp.1 hp.2⟩

def twoAddresses : Member where
  id := 0
  pathChange := false
  locals :=
    { entries :=
        [{ LocalEndpoint.build with resolvedAddress := .withIpv4 ![10, 0, 0, 1] },
          { LocalEndpoint.build with resolvedAddress := .withIpv4 ![10, 0, 0, 2] }]
      active := 0
      block := 0 }
  remotes :=
    { entries := [{ RemoteEndpoint.build with resolvedAddress := .withIpv4 ![10, 0, 0, 3] }]
      active := 0
      block := 0 }

theorem probeAllPaths_twoAddresses :
    ∃ probes rc, probeAllPaths (fun _ => 0) [twoAddresses] = some (probes, rc) ∧
      (probes.map Probe.index).Nodup ∧
      (∀ j toAddress fromAddress,
        (∃ p ∈ probes, p.index = j ∧ p.toAddress = toAddress ∧ p.fromAddress = fromAddress) ↔
          ∃ ep, twoAddresses.locals.entries[j]? = some ep ∧ j ≠ twoAddresses.locals.active ∧
            ep.resolvedAddress.ssFamily = Storage.ssFamily (.withIpv4 ![10, 0, 0, 3]) ∧
            toAddress = .withIpv4 ![10, 0, 0, 3] ∧ fromAddress = ep.resolvedAddress) ∧
      (∀ (k : Nat) p, probes[k]? = some p → p.rc = 0) ∧
      ((0 < rc ↔ ∃ p ∈ probes, 0 ≤ p.rc) ↔ ∀ p ∈ probes, ¬0 ≤ p.rc) :=
  probeAllPaths_iff (fun _ => 0) (fun rc => 0 ≤ rc) twoAddresses []
    { RemoteEndpoint.build with resolvedAddress := .withIpv4 ![10, 0, 0, 3] } rfl

/-- The probe from the second address is accepted, and the call returns `-EIO`. -/
theorem probeAllPaths_fails :
    (probeAllPaths (fun _ => 0) [twoAddresses]).map
      (fun r => (r.1.map fun p => (p.index, p.rc), r.2)) = some ([(1, 0)], -5) := by
  decide

end CTaps.Endpoints
