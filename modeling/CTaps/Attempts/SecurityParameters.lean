import CTaps.Lib.Machine
import Mathlib.Logic.Function.Basic

/-! The security parameters and the memory they point to. An attempt works on a
deep copy; replacing the ALPN list of the copy releases memory of the copy only. -/

namespace CTaps.Attempts

open Function

/-! ### Memory -/

inductive Cell
  | strings (l : List String)
  | bundles (l : List (String × String))
  | string (s : String)
  | bytes (l : List (BitVec 8))
  deriving DecidableEq

structure Heap where
  cells : Nat → Option Cell
  next : Nat
  fresh : ∀ a, next ≤ a → cells a = none

namespace Heap

def alloc (h : Heap) (c : Cell) : Heap where
  cells := update h.cells h.next (some c)
  next := h.next + 1
  fresh a ha := by
    rw [update_of_ne (by omega)]
    exact h.fresh a (by omega)

def free (h : Heap) (p : Option Nat) : Heap where
  cells a := if p = some a then none else h.cells a
  next := h.next
  fresh a ha := by
    split
    · rfl
    · exact h.fresh a ha

def Extends (h h' : Heap) : Prop := h.next ≤ h'.next ∧ ∀ a < h.next, h'.cells a = h.cells a

theorem Extends.refl (h : Heap) : h.Extends h := ⟨Nat.le_refl _, fun _ _ => rfl⟩

theorem Extends.trans {h h' h'' : Heap} (h₁ : h.Extends h') (h₂ : h'.Extends h'') :
    h.Extends h'' :=
  ⟨Nat.le_trans h₁.1 h₂.1,
    fun a ha => (h₂.2 a (Nat.lt_of_lt_of_le ha h₁.1)).trans (h₁.2 a ha)⟩

theorem extends_alloc (h : Heap) (c : Cell) : h.Extends (h.alloc c) :=
  ⟨Nat.le_succ _, fun _ ha => update_of_ne (Nat.ne_of_lt ha) _ _⟩

theorem alloc_cells_next (h : Heap) (c : Cell) : (h.alloc c).cells h.next = some c :=
  update_self _ _ _

theorem Extends.free {h h' : Heap} (he : h.Extends h') {p : Option Nat}
    (hp : ∀ a, p = some a → h.next ≤ a) : h.Extends (h'.free p) := by
  refine ⟨he.1, fun a ha => ?_⟩
  have hne : p ≠ some a := fun heq => absurd (hp a heq) (Nat.not_le_of_lt ha)
  exact (if_neg hne).trans (he.2 a ha)

end Heap

/-! ### Parameters -/

inductive SecurityProperty
  | supportedGroup | ciphersuite | serverCertificate | clientCertificate | signatureAlgorithm
  | alpn | sessionTicketEncryptionKey | ticketStorePath | serverNameIdentification
  deriving DecidableEq, Repr

inductive PropertyType
  | stringArray | certificateBundles | string | byteArray
  deriving DecidableEq, Repr

def SecurityProperty.type : SecurityProperty → PropertyType
  | .supportedGroup | .ciphersuite | .signatureAlgorithm | .alpn => .stringArray
  | .serverCertificate | .clientCertificate => .certificateBundles
  | .sessionTicketEncryptionKey => .byteArray
  | .ticketStorePath | .serverNameIdentification => .string

def SecurityProperty.all : List SecurityProperty :=
  [.supportedGroup, .ciphersuite, .serverCertificate, .clientCertificate, .signatureAlgorithm,
    .alpn, .sessionTicketEncryptionKey, .ticketStorePath, .serverNameIdentification]

structure SecurityParameter where
  setByUser : Bool
  pointer : Option Nat
  num : Nat
  null_of_empty : num = 0 → pointer = none

abbrev SecurityParameters := SecurityProperty → SecurityParameter

def SecurityParameter.default : SecurityParameter := ⟨false, none, 0, fun _ => rfl⟩

/-- A fresh copy of what the parameter points to. An empty array of strings is copied with its
pointer, every other empty value is left cleared. -/
def copyParameter (h : Heap) (type : PropertyType) (p : SecurityParameter) :
    Heap × SecurityParameter :=
  if !p.setByUser then (h, .default)
  else if hnum : p.num = 0 then
    (h, ⟨true, if type = .stringArray then p.pointer else none, 0, fun _ => by
      rw [p.null_of_empty hnum, ite_self]⟩)
  else
    match p.pointer.bind h.cells with
    | some c => (h.alloc c, ⟨true, some h.next, p.num, fun h0 => absurd h0 hnum⟩)
    | none => (h, .default)

def copyStep (source : SecurityParameters) (state : Heap × SecurityParameters)
    (property : SecurityProperty) : Heap × SecurityParameters :=
  let copied := copyParameter state.1 property.type (source property)
  (copied.1, update state.2 property copied.2)

def securityParametersDeepCopy (h : Heap) (source : SecurityParameters) :
    Heap × SecurityParameters :=
  SecurityProperty.all.foldl (copyStep source) (h, fun _ => .default)

def stringsOf (h : Heap) (p : SecurityParameter) : List String :=
  match p.pointer.bind h.cells with
  | some (.strings l) => l
  | _ => []

def clearAlpn (h : Heap) (sec : SecurityParameters) : Heap × SecurityParameters :=
  (h.free (sec .alpn).pointer,
    update sec .alpn ⟨(sec .alpn).setByUser, none, 0, fun _ => rfl⟩)

def addAlpn (h : Heap) (sec : SecurityParameters) (alpn : String) : Heap × SecurityParameters :=
  let strings := stringsOf h (sec .alpn) ++ [alpn]
  let h' := h.free (sec .alpn).pointer
  (h'.alloc (.strings strings), update sec .alpn
    ⟨true, some h'.next, (sec .alpn).num + 1, fun h0 => absurd h0 (Nat.succ_ne_zero _)⟩)

def replaceAlpn (h : Heap) (sec : SecurityParameters) (alpn : Option String) :
    Heap × SecurityParameters :=
  let cleared := clearAlpn h sec
  match alpn with
  | some alpn => addAlpn cleared.1 cleared.2 alpn
  | none => cleared

/-! ### The copy has memory of its own -/

def SecurityParameter.Apart (h : Heap) (p : SecurityParameter) : Prop :=
  ∀ a, p.pointer = some a → h.next ≤ a

theorem copyParameter_apart {h₀ h : Heap} (he : h₀.Extends h) (type : PropertyType)
    (p : SecurityParameter) :
    h₀.Extends (copyParameter h type p).1 ∧ (copyParameter h type p).2.Apart h₀ := by
  rw [copyParameter]
  split
  · exact ⟨he, fun a ha => nomatch ha⟩
  · split
    · rename_i hnum
      refine ⟨he, fun a ha => ?_⟩
      simp only [p.null_of_empty hnum, ite_self] at ha
      exact nomatch ha
    · split
      · refine ⟨he.trans (h.extends_alloc _), fun a ha => ?_⟩
        rw [← Option.some.inj ha]
        exact he.1
      · exact ⟨he, fun a ha => nomatch ha⟩

theorem securityParametersDeepCopy_apart (h : Heap) (source : SecurityParameters) :
    h.Extends (securityParametersDeepCopy h source).1 ∧
      ∀ property, ((securityParametersDeepCopy h source).2 property).Apart h := by
  refine Lib.foldl_invariant (I := fun state : Heap × SecurityParameters =>
    h.Extends state.1 ∧ ∀ property, (state.2 property).Apart h)
    (fun state property _ hstate => ?_) ⟨.refl h, fun _ a ha => nomatch ha⟩
  have hcopy := copyParameter_apart hstate.1 property.type (source property)
  refine ⟨hcopy.1, fun other => ?_⟩
  rw [copyStep]
  dsimp only
  by_cases heq : other = property
  · rw [heq, update_self]
    exact hcopy.2
  · rw [update_of_ne heq]
    exact hstate.2 other

theorem replaceAlpn_spec {h₀ h : Heap} {sec : SecurityParameters} (he : h₀.Extends h)
    (hapart : (sec .alpn).Apart h₀) (alpn : Option String) :
    h₀.Extends (replaceAlpn h sec alpn).1 ∧
      stringsOf (replaceAlpn h sec alpn).1 ((replaceAlpn h sec alpn).2 .alpn) = alpn.toList := by
  have hcleared := he.free hapart
  cases alpn with
  | none =>
    refine ⟨hcleared, ?_⟩
    simp [replaceAlpn, clearAlpn, stringsOf]
  | some alpn =>
    refine ⟨?_, ?_⟩
    · refine Heap.Extends.trans (hcleared.free fun a ha => ?_) (Heap.extends_alloc _ _)
      rw [clearAlpn] at ha
      dsimp only at ha
      rw [update_self] at ha
      exact nomatch ha
    · simp only [replaceAlpn, addAlpn, clearAlpn, stringsOf, update_self,
        Option.bind_some, Option.bind_none, Heap.alloc_cells_next, List.nil_append]
      rfl

end CTaps.Attempts
