import CTaps.Attempts.SecurityParameters
import CTaps.Lib.Blocks
import Mathlib.Data.Set.Insert

/-! The security parameters with the memory that they point to, down to the single strings. The
setters of one parameter leave the blocks of the others alone, so each parameter is what its own
setters make of it: an array of strings, of certificate bundles or of bytes, or a string. The
getters read an array through its pointer, each with a bound check of its own. -/

namespace CTaps.Properties

open Lib
open Attempts (SecurityProperty PropertyType)

/-! ### Values -/

inductive Element
  | string (w : Word)
  | bundle (certificateFileName privateKeyFileName : Word)
  | byte (b : BitVec 8)

inductive Item
  | string (t : Text)
  | bundle (certificateFile keyFile : Text)
  | byte (b : BitVec 8)
  deriving DecidableEq

def Element.words : Element → List Word
  | .string w => [w]
  | .bundle c k => [c, k]
  | .byte _ => []

def Element.see (t : Word → Text) : Element → Item
  | .string w => .string (t w)
  | .bundle c k => .bundle (t c) (t k)
  | .byte b => .byte b

def elements : Elements Element Item where
  words := Element.words
  see := Element.see
  stable := by
    intro t t' e h
    cases e with
    | string w =>
      have hw := h w List.mem_cons_self
      rw [Element.see, Element.see, hw]
    | bundle c k =>
      have hc := h c List.mem_cons_self
      have hk := h k (List.mem_cons_of_mem c List.mem_cons_self)
      rw [Element.see, Element.see, hc, hk]
    | byte b => rfl

abbrev SecurityMemory := Memory (Block Element)

structure Parameter where
  setByUser : Bool
  pointer : Option Nat
  num : Nat
  deriving DecidableEq

abbrev SecurityParameters := SecurityProperty → Parameter

def Parameter.default : Parameter := ⟨false, none, 0⟩

def securityParametersNew : SecurityParameters := fun _ => .default

/-! ### Setters -/

def addToArrayOfStrings (value : String) (m : SecurityMemory) (p : Parameter) :
    SecurityMemory × Parameter :=
  let r := m.push p.pointer fun m =>
    let s := m.strdup value
    (s.1, .string (.addr s.2))
  (r.1, ⟨true, some r.2, p.num + 1⟩)

def newBundle (certFile : String) (keyFile : Option String) (m : SecurityMemory) :
    SecurityMemory × Element :=
  let cert := m.strdup certFile
  match keyFile with
  | some keyFile =>
    let key := cert.1.strdup keyFile
    (key.1, .bundle (.addr cert.2) (.addr key.2))
  -- nothing is written to `private_key_file_name`
  | none => (cert.1, .bundle (.addr cert.2) .undef)

def addCertificate (certFile : String) (keyFile : Option String) (m : SecurityMemory) (p : Parameter) :
    SecurityMemory × Parameter :=
  let r := m.push p.pointer (newBundle certFile keyFile)
  (r.1, ⟨true, some r.2, p.num + 1⟩)

def clearAlpn (m : SecurityMemory) (p : Parameter) : SecurityMemory × Parameter :=
  (Memory.freeArray elements m p.pointer, ⟨p.setByUser, none, 0⟩)

/-- The body of `ct_security_parameters_set_ticket_store_path` and
`ct_security_parameters_set_server_name_identification`. -/
def setString (value : Option String) (m : SecurityMemory) (p : Parameter) :
    SecurityMemory × Parameter :=
  let m := m.free p.pointer
  match value with
  | none => (m, ⟨true, none, 0⟩)
  | some value =>
    let s := m.strdup value
    (s.1, ⟨true, some s.2, 0⟩)

def setSessionTicketEncryptionKey (key : List (BitVec 8)) (m : SecurityMemory) (p : Parameter) :
    SecurityMemory × Parameter :=
  let old : SecurityMemory × Parameter :=
    if p.num ≠ 0 then (m.free p.pointer, { p with pointer := none, num := 0 }) else (m, p)
  if 0 < key.length then
    (old.1.alloc (.array (key.map .byte)), ⟨true, some old.1.next, key.length⟩)
  else (old.1, { old.2 with setByUser := true })

inductive CertificateKind
  | server | client
  deriving DecidableEq, Repr

def CertificateKind.property : CertificateKind → SecurityProperty
  | .server => .serverCertificate
  | .client => .clientCertificate

inductive Setter
  | addAlpn (alpn : String)
  | clearAlpn
  | addCertificate (kind : CertificateKind) (certFile : String) (keyFile : Option String)
  | setTicketStorePath (path : Option String)
  | setSessionTicketEncryptionKey (key : List (BitVec 8))
  | setServerNameIdentification (sni : Option String)

namespace Setter

def property : Setter → SecurityProperty
  | .addAlpn _ | .clearAlpn => .alpn
  | .addCertificate kind _ _ => kind.property
  | .setTicketStorePath _ => .ticketStorePath
  | .setSessionTicketEncryptionKey _ => .sessionTicketEncryptionKey
  | .setServerNameIdentification _ => .serverNameIdentification

def perform : Setter → SecurityMemory → Parameter → SecurityMemory × Parameter
  | .addAlpn alpn => addToArrayOfStrings alpn
  | .clearAlpn => Properties.clearAlpn
  | .addCertificate _ certFile keyFile => Properties.addCertificate certFile keyFile
  | .setTicketStorePath path => setString path
  | .setSessionTicketEncryptionKey key => Properties.setSessionTicketEncryptionKey key
  | .setServerNameIdentification sni => setString sni

end Setter

def call : SecurityMemory × SecurityParameters → Setter → SecurityMemory × SecurityParameters :=
  stepAt Setter.property Setter.perform

def afterCalls (m : SecurityMemory) (calls : List Setter) : SecurityMemory × SecurityParameters :=
  run call (m, securityParametersNew) calls

/-! ### Getters -/

def getCertificateFile (m : SecurityMemory) (sec : SecurityParameters) (kind : CertificateKind)
    (index : Nat) : Text :=
  -- an index equal to the number of bundles passes
  if (sec kind.property).num < index then some none
  else
    match (m.elements (sec kind.property).pointer)[index]? with
    | some (.bundle certificateFileName _) => m.text certificateFileName
    | _ => none

def getKeyFile (m : SecurityMemory) (sec : SecurityParameters) (kind : CertificateKind)
    (index : Nat) : Text :=
  if (sec kind.property).num ≤ index then some none
  else
    match (m.elements (sec kind.property).pointer)[index]? with
    | some (.bundle _ privateKeyFileName) => m.text privateKeyFileName
    | _ => none

def getCertificateCount (sec : SecurityParameters) (kind : CertificateKind) : Nat :=
  (sec kind.property).num

/-! ### How a parameter lies in memory -/

inductive Content
  | text (t : Text)
  | items (l : List Item)
  deriving DecidableEq

structure View where
  setByUser : Bool
  content : Content
  deriving DecidableEq

def stringLayout : Layout (Block Element) Parameter (Option View) where
  owned _ p := {a | p.pointer = some a}
  view m p := some ⟨p.setByUser, .text (m.text (.ofPointer p.pointer))⟩
  stable := by
    intro m m' p h
    refine ⟨rfl, ?_⟩
    have htext : m'.text (.ofPointer p.pointer) = m.text (.ofPointer p.pointer) := by
      refine Memory.text_congr fun a ha => h a ?_
      exact Word.ofPointer_eq_addr.mp ha
    rw [htext]

def arrayLayout : Layout (Block Element) Parameter (Option View) where
  owned m p := Memory.arrayOwned elements m p.pointer
  view m p :=
    -- no array is kept for no elements
    if p.num = 0 → p.pointer = none then
      (Memory.arrayView elements m p.pointer p.num).map fun l => ⟨p.setByUser, .items l⟩
    else none
  stable h := ⟨Memory.arrayOwned_stable h, by rw [Memory.arrayView_stable h]⟩

def typeLayout : PropertyType → Layout (Block Element) Parameter (Option View)
  | .string => stringLayout
  | .stringArray | .certificateBundles | .byteArray => arrayLayout

def layout (property : SecurityProperty) : Layout (Block Element) Parameter (Option View) :=
  typeLayout property.type

/-! ### What the setters do to what is seen -/

namespace Setter

def effect : Setter → Content → Content
  | .addAlpn alpn, .items l => .items (l ++ [.string (some (some alpn))])
  | .addCertificate _ certFile keyFile, .items l =>
    .items (l ++ [.bundle (some (some certFile)) (keyFile.map some)])
  | .clearAlpn, _ => .items []
  | .setTicketStorePath path, _ => .text (some path)
  | .setSessionTicketEncryptionKey key, _ => .items (key.map .byte)
  | .setServerNameIdentification sni, _ => .text (some sni)
  | _, content => content

def sets : Setter → Bool → Bool
  | .clearAlpn, setByUser => setByUser
  | _, _ => true

def abstract (x : Setter) (o : Option View) : Option View :=
  o.map fun v => ⟨x.sets v.setByUser, x.effect v.content⟩

end Setter

def emptyContent : PropertyType → Content
  | .string => .text (some none)
  | .stringArray | .certificateBundles | .byteArray => .items []

def bundleItem (c : String × Option String) : Item := .bundle (some (some c.1)) (c.2.map some)

def WellTyped : PropertyType → Content → Prop
  | .stringArray, .items l => ∀ k ∈ l, ∃ s, k = .string (some (some s))
  | .certificateBundles, .items l => ∀ k ∈ l, ∃ c, k = bundleItem c
  | .byteArray, .items l => ∀ k ∈ l, ∃ b, k = .byte b
  | .string, .text t => ∃ s, t = some s
  | _, _ => False

def Good (type : PropertyType) (o : Option View) : Prop :=
  ∃ v, o = some v ∧ WellTyped type v.content ∧ (v.setByUser = false → v.content = emptyContent type)

theorem Good.of_set {type : PropertyType} {content : Content} (h : WellTyped type content) :
    Good type (some ⟨true, content⟩) :=
  ⟨_, rfl, h, fun hset => absurd hset.symm Bool.false_ne_true⟩

theorem forall_mem_append_singleton {α : Type*} {p : α → Prop} {l : List α} {k : α}
    (hl : ∀ x ∈ l, p x) (hk : p k) : ∀ x ∈ l ++ [k], p x := by
  intro x hx
  rcases List.mem_append.mp hx with hx | hx
  · exact hl x hx
  · rw [List.mem_singleton.mp hx]
    exact hk

section Performs

variable {m : SecurityMemory} {p : Parameter}

theorem arrayLayout_view_eq_some_iff {v : View} :
    arrayLayout.view m p = some v ↔ (p.num = 0 → p.pointer = none) ∧
      ∃ l, Memory.arrayView elements m p.pointer p.num = some l ∧ v = ⟨p.setByUser, .items l⟩ := by
  unfold arrayLayout
  dsimp only
  split
  next hnull =>
    rw [and_iff_right hnull, Option.map_eq_some_iff]
    simp only [eq_comm]
  next hnull => exact iff_of_false (Option.some_ne_none v).symm fun h => hnull h.1

theorem push_performs {make : SecurityMemory → SecurityMemory × Element} {k : Item}
    (hmake : Memory.Makes elements make k) (howned : ∀ a ∈ arrayLayout.owned m p, a < m.next)
    {l : List Item} (hview : Memory.arrayView elements m p.pointer p.num = some l) :
    m.Local (m.push p.pointer make).1 (arrayLayout.owned m p)
        (arrayLayout.owned (m.push p.pointer make).1
          ⟨true, some (m.push p.pointer make).2, p.num + 1⟩) ∧
      arrayLayout.view (m.push p.pointer make).1
        ⟨true, some (m.push p.pointer make).2, p.num + 1⟩ = some ⟨true, .items (l ++ [k])⟩ := by
  obtain ⟨hlocal, hpush⟩ := Memory.push_spec hmake howned hview
  refine ⟨hlocal, arrayLayout_view_eq_some_iff.mpr ⟨?_, _, hpush, rfl⟩⟩
  exact fun h => absurd h (Nat.succ_ne_zero p.num)

theorem makes_string (value : String) :
    Memory.Makes elements
      (fun m : SecurityMemory => ((m.strdup value).1, .string (.addr (m.strdup value).2)))
      (.string (some (some value))) := by
  intro m
  refine ⟨(m.local_strdup value).of_subset ?_, ?_⟩
  · intro a ha
    cases List.mem_singleton.mp ha
    rfl
  · exact congrArg Item.string (Memory.text_alloc_next value)

theorem makes_newBundle (certFile : String) (keyFile : Option String) :
    Memory.Makes elements (newBundle certFile keyFile)
      (.bundle (some (some certFile)) (keyFile.map some)) := by
  intro m
  have hcert := m.local_strdup certFile
  cases keyFile with
  | none =>
    refine ⟨hcert.of_subset ?_, ?_⟩
    · intro a ha
      rcases List.mem_cons.mp ha with ha | ha
      · cases ha
        rfl
      · cases List.mem_singleton.mp ha
    · exact congrArg (Item.bundle · none) (Memory.text_alloc_next certFile)
  | some keyFile =>
    have hkey := Memory.local_alloc (fun a ha => hcert.lt_next ha) (.chars keyFile : Block Element)
    refine ⟨(hcert.trans hkey).of_subset ?_, ?_⟩
    · intro a ha
      rcases List.mem_cons.mp ha with ha | ha
      · cases ha
        exact Set.mem_insert_of_mem _ rfl
      · cases List.mem_singleton.mp ha
        exact Set.mem_insert _ _
    · have hkept : ((m.alloc (.chars certFile)).alloc (.chars keyFile)).text (.addr m.next) =
          some (some certFile) := by
        rw [Memory.text_alloc fun a ha => ?_, Memory.text_alloc_next]
        cases ha
        exact Nat.lt_succ_self _
      exact congrArg₂ Item.bundle hkept (Memory.text_alloc_next keyFile)

theorem setString_performs (value : Option String)
    (howned : ∀ a ∈ stringLayout.owned m p, a < m.next) :
    m.Local (setString value m p).1 (stringLayout.owned m p)
        (stringLayout.owned (setString value m p).1 (setString value m p).2) ∧
      stringLayout.view (setString value m p).1 (setString value m p).2 =
        some ⟨true, .text (some value)⟩ := by
  have hfree : m.Local (m.free p.pointer) (stringLayout.owned m p) (stringLayout.owned m p) :=
    Memory.local_free howned fun a ha => ha
  cases value with
  | none =>
    refine ⟨hfree.of_subset ?_, rfl⟩
    intro a ha
    cases ha
  | some value =>
    have halloc := Memory.local_alloc (fun a ha => hfree.lt_next ha) (.chars value : Block Element)
    refine ⟨(hfree.trans halloc).of_subset ?_, ?_⟩
    · intro a ha
      cases ha
      exact Set.mem_insert _ _
    · exact congrArg (fun t => some (View.mk true (.text t))) (Memory.text_alloc_next value)

theorem clearAlpn_performs (howned : ∀ a ∈ arrayLayout.owned m p, a < m.next) :
    m.Local (clearAlpn m p).1 (arrayLayout.owned m p)
        (arrayLayout.owned (clearAlpn m p).1 (clearAlpn m p).2) ∧
      arrayLayout.view (clearAlpn m p).1 (clearAlpn m p).2 = some ⟨p.setByUser, .items []⟩ := by
  refine ⟨(Memory.freeArray_local howned).of_subset ?_, rfl⟩
  exact Set.subset_empty_iff.mpr Memory.arrayOwned_null

theorem setSessionTicketEncryptionKey_cases (key : List (BitVec 8))
    (howned : ∀ a ∈ arrayLayout.owned m p, a < m.next) (hnull : p.num = 0 → p.pointer = none) :
    ∃ m', m.Local m' (arrayLayout.owned m p) (arrayLayout.owned m p) ∧
      setSessionTicketEncryptionKey key m p =
        if 0 < key.length then (m'.alloc (.array (key.map .byte)), ⟨true, some m'.next, key.length⟩)
        else (m', ⟨true, none, 0⟩) := by
  by_cases hnum : p.num = 0
  · refine ⟨m, Memory.Local.refl howned, ?_⟩
    rw [setSessionTicketEncryptionKey, if_neg (not_not.mpr hnum)]
    dsimp only
    rw [hnull hnum, hnum]
  · refine ⟨m.free p.pointer, Memory.local_free howned fun a ha => Or.inl ha, ?_⟩
    rw [setSessionTicketEncryptionKey, if_pos hnum]

theorem setSessionTicketEncryptionKey_performs (key : List (BitVec 8))
    (howned : ∀ a ∈ arrayLayout.owned m p, a < m.next) {v : View}
    (hview : arrayLayout.view m p = some v) :
    m.Local (setSessionTicketEncryptionKey key m p).1 (arrayLayout.owned m p)
        (arrayLayout.owned (setSessionTicketEncryptionKey key m p).1
          (setSessionTicketEncryptionKey key m p).2) ∧
      arrayLayout.view (setSessionTicketEncryptionKey key m p).1
        (setSessionTicketEncryptionKey key m p).2 = some ⟨true, .items (key.map .byte)⟩ := by
  obtain ⟨hnull, _⟩ := arrayLayout_view_eq_some_iff.mp hview
  obtain ⟨m', hlocal, heq⟩ := setSessionTicketEncryptionKey_cases key howned hnull
  rw [heq]
  by_cases hkey : 0 < key.length
  · rw [if_pos hkey]
    have halloc := Memory.local_alloc (fun a ha => hlocal.lt_next ha)
      (.array (key.map .byte) : Block Element)
    have hblock := m'.alloc_blocks_next (.array (key.map .byte) : Block Element)
    refine ⟨(hlocal.trans halloc).of_subset ?_, arrayLayout_view_eq_some_iff.mpr ⟨?_, _, ?_, rfl⟩⟩
    · rintro a (ha | ⟨e, he, ha⟩)
      · cases ha
        exact Set.mem_insert _ _
      · rw [Memory.elements_of_blocks hblock] at he
        obtain ⟨b, _, rfl⟩ := List.mem_map.mp he
        cases ha
    · exact fun h => absurd h (Nat.ne_of_gt hkey)
    · refine Memory.arrayView_eq_some_iff.mpr ⟨?_, ?_⟩
      · have hlength := Memory.isArray_of_blocks hblock
        rw [List.length_map] at hlength
        exact hlength
      · rw [Memory.elements_of_blocks hblock, List.map_map]
        rfl
  · rw [if_neg hkey]
    have hnil : key = [] := List.eq_nil_of_length_eq_zero (Nat.eq_zero_of_not_pos hkey)
    have hnull : arrayLayout.owned m' ⟨true, none, 0⟩ = ∅ := Memory.arrayOwned_null
    rw [hnull, hnil]
    exact ⟨hlocal.of_subset (Set.empty_subset _), rfl⟩

end Performs

theorem setters_perform :
    Performs layout Setter.property Setter.perform Setter.abstract fun property =>
      Good property.type := by
  intro x m p howned hgood
  obtain ⟨v, hv, htyped, _⟩ := hgood
  have hdone : ∀ {r : SecurityMemory × Parameter} {content : Content},
      Setter.abstract x (some v) = some ⟨true, content⟩ →
      m.Local r.1 ((layout x.property).owned m p) ((layout x.property).owned r.1 r.2) ∧
        (layout x.property).view r.1 r.2 = some ⟨true, content⟩ →
      WellTyped x.property.type content →
      m.Local r.1 ((layout x.property).owned m p) ((layout x.property).owned r.1 r.2) ∧
        (layout x.property).view r.1 r.2 = x.abstract (some v) ∧
        Good x.property.type (x.abstract (some v)) := by
    intro r content habstract h hcontent
    rw [habstract]
    exact ⟨h.1, h.2, Good.of_set hcontent⟩
  rw [hv]
  cases x with
  | addAlpn alpn =>
    obtain ⟨_, l, hl, rfl⟩ := arrayLayout_view_eq_some_iff.mp hv
    exact hdone rfl (push_performs (makes_string alpn) howned hl)
      (forall_mem_append_singleton htyped ⟨alpn, rfl⟩)
  | clearAlpn =>
    obtain ⟨_, l, _, rfl⟩ := arrayLayout_view_eq_some_iff.mp hv
    obtain ⟨hlocal, hview⟩ := clearAlpn_performs howned
    exact ⟨hlocal, hview, _, rfl, fun k hk => absurd hk List.not_mem_nil, fun _ => rfl⟩
  | addCertificate kind certFile keyFile =>
    cases kind <;>
    · obtain ⟨_, l, hl, rfl⟩ := arrayLayout_view_eq_some_iff.mp hv
      exact hdone rfl (push_performs (makes_newBundle certFile keyFile) howned hl)
        (forall_mem_append_singleton htyped ⟨(certFile, keyFile), rfl⟩)
  | setTicketStorePath path => exact hdone rfl (setString_performs path howned) ⟨path, rfl⟩
  | setSessionTicketEncryptionKey key =>
    refine hdone rfl (setSessionTicketEncryptionKey_performs key howned hv) fun k hk => ?_
    obtain ⟨b, _, rfl⟩ := List.mem_map.mp hk
    exact ⟨b, rfl⟩
  | setServerNameIdentification sni => exact hdone rfl (setString_performs sni howned) ⟨sni, rfl⟩

/-! ### Runs -/

theorem owned_default (m : SecurityMemory) (type : PropertyType) :
    (typeLayout type).owned m .default = ∅ := by
  cases type with
  | string => exact Set.eq_empty_of_forall_notMem fun a ha => Option.some_ne_none a ha.symm
  | _ => exact Memory.arrayOwned_null

theorem view_default (m : SecurityMemory) (type : PropertyType) :
    (typeLayout type).view m .default = some ⟨false, emptyContent type⟩ := by
  cases type <;> rfl

theorem wellTyped_empty (type : PropertyType) : WellTyped type (emptyContent type) := by
  cases type with
  | string => exact ⟨none, rfl⟩
  | _ => exact fun k hk => absurd hk List.not_mem_nil

theorem held_new (m : SecurityMemory) :
    Held layout (fun property => Good property.type) (m, securityParametersNew) := by
  refine Held.of_empty (fun property => owned_default m property.type) fun property => ?_
  exact ⟨_, view_default m property.type, wellTyped_empty property.type, fun _ => rfl⟩

theorem held_calls (m : SecurityMemory) (calls : List Setter) :
    Held layout (fun property => Good property.type) (afterCalls m calls) :=
  ((held_new m).run setters_perform calls).1

theorem seen_calls (m : SecurityMemory) (calls : List Setter) (property : SecurityProperty) :
    seen layout (afterCalls m calls) property =
      run (fun o x => Setter.abstract x o) (some ⟨false, emptyContent property.type⟩)
        (calls.filter fun x => x.property = property) := by
  rw [← view_default m property.type]
  exact ((held_new m).run setters_perform calls).2 property

/-! ### Certificates -/

def Setter.certificate (kind : CertificateKind) : Setter → Option (String × Option String)
  | .addCertificate kind' certFile keyFile => if kind' = kind then some (certFile, keyFile) else none
  | _ => none

def added (kind : CertificateKind) (calls : List Setter) : List (String × Option String) :=
  calls.filterMap (Setter.certificate kind)

theorem Setter.property_eq_iff {x : Setter} {kind : CertificateKind} :
    x.property = kind.property ↔
      ∃ c : String × Option String, x = .addCertificate kind c.1 c.2 := by
  constructor
  · intro h
    cases x with
    | addCertificate kind' certFile keyFile =>
      have hkind : kind' = kind := by
        cases kind' <;> cases kind <;> first | rfl | cases h
      exact ⟨(certFile, keyFile), by rw [hkind]⟩
    | _ => cases kind <;> cases h
  · rintro ⟨c, rfl⟩
    rfl

theorem run_certificates (kind : CertificateKind) (calls : List Setter) (v : View) (l : List Item)
    (hv : v.content = .items l) :
    ∃ setByUser, run (fun o x => Setter.abstract x o) (some v)
      (calls.filter fun x => x.property = kind.property) =
        some ⟨setByUser, .items (l ++ (added kind calls).map bundleItem)⟩ := by
  induction calls generalizing v l with
  | nil =>
    refine ⟨v.setByUser, ?_⟩
    rw [added, List.filterMap_nil, List.map_nil, List.append_nil, ← hv]
    rfl
  | cons x calls ih =>
    by_cases hx : x.property = kind.property
    · obtain ⟨c, rfl⟩ := Setter.property_eq_iff.mp hx
      have hadded : added kind (.addCertificate kind c.1 c.2 :: calls) = c :: added kind calls :=
        List.filterMap_cons_some (if_pos rfl)
      have heffect : (Setter.addCertificate kind c.1 c.2).effect v.content =
          .items (l ++ [bundleItem c]) := by
        rw [hv]
        rfl
      obtain ⟨setByUser, hrun⟩ := ih ⟨true, _⟩ _ heffect
      refine ⟨setByUser, ?_⟩
      rw [List.filter_cons_of_pos (by simpa using hx), run_cons, hadded, List.map_cons,
        List.append_cons]
      exact hrun
    · have hadded : added kind (x :: calls) = added kind calls := by
        refine List.filterMap_cons_none ?_
        cases hc : x.certificate kind with
        | none => rfl
        | some c =>
          refine absurd (Setter.property_eq_iff.mpr ⟨c, ?_⟩) hx
          cases x with
          | addCertificate kind' certFile keyFile =>
            rw [Setter.certificate] at hc
            split at hc
            next hkind =>
              cases hc
              rw [hkind]
            next => cases hc
          | _ => cases hc
      rw [List.filter_cons_of_neg (by simpa using hx), hadded]
      exact ih v l hv

theorem certificates_seen (m : SecurityMemory) (calls : List Setter) (kind : CertificateKind) :
    ∃ setByUser, seen layout (afterCalls m calls) kind.property =
      some ⟨setByUser, .items ((added kind calls).map bundleItem)⟩ := by
  have hempty : (View.mk false (emptyContent kind.property.type)).content = .items [] := by
    cases kind <;> rfl
  obtain ⟨setByUser, hrun⟩ := run_certificates kind calls _ _ hempty
  exact ⟨setByUser, (seen_calls m calls kind.property).trans hrun⟩

theorem certificates_stored (m : SecurityMemory) (calls : List Setter) (kind : CertificateKind) :
    Memory.arrayView elements (afterCalls m calls).1
      ((afterCalls m calls).2 kind.property).pointer
      ((afterCalls m calls).2 kind.property).num = some ((added kind calls).map bundleItem) := by
  obtain ⟨setByUser, hseen⟩ := certificates_seen m calls kind
  have hlayout : layout kind.property = arrayLayout := by
    cases kind <;> rfl
  rw [seen, hlayout] at hseen
  obtain ⟨_, l, hl, heq⟩ := arrayLayout_view_eq_some_iff.mp hseen
  cases heq
  exact hl

def certificateFileAt (l : List Item) (index : Nat) : Text :=
  if l.length < index then some none
  else
    match l[index]? with
    | some (.bundle certificateFile _) => certificateFile
    | _ => none

def keyFileAt (l : List Item) (index : Nat) : Text :=
  if l.length ≤ index then some none
  else
    match l[index]? with
    | some (.bundle _ keyFile) => keyFile
    | _ => none

section Getters

variable {m : SecurityMemory} {sec : SecurityParameters} {kind : CertificateKind} {l : List Item}

theorem getElem?_of_arrayView {p : Option Nat} {num : Nat}
    (h : Memory.arrayView elements m p num = some l) (i : Nat) :
    l[i]? = ((m.elements p)[i]?).map (Element.see m.text) := by
  obtain ⟨_, rfl⟩ := Memory.arrayView_eq_some_iff.mp h
  exact List.getElem?_map

theorem getCertificateFile_eq
    (h : Memory.arrayView elements m (sec kind.property).pointer (sec kind.property).num = some l)
    (i : Nat) : getCertificateFile m sec kind i = certificateFileAt l i := by
  rw [getCertificateFile, certificateFileAt, Memory.length_of_arrayView h, getElem?_of_arrayView h]
  refine congrArg (ite _ _) ?_
  cases (m.elements (sec kind.property).pointer)[i]? with
  | none => rfl
  | some e => cases e <;> rfl

theorem getKeyFile_eq
    (h : Memory.arrayView elements m (sec kind.property).pointer (sec kind.property).num = some l)
    (i : Nat) : getKeyFile m sec kind i = keyFileAt l i := by
  rw [getKeyFile, keyFileAt, Memory.length_of_arrayView h, getElem?_of_arrayView h]
  refine congrArg (ite _ _) ?_
  cases (m.elements (sec kind.property).pointer)[i]? with
  | none => rfl
  | some e => cases e <;> rfl

theorem certificateFileAt_map (l : List (String × Option String)) (i : Nat) :
    certificateFileAt (l.map bundleItem) i =
      if i = l.length then none else some (l[i]?.map Prod.fst) := by
  rw [certificateFileAt, List.length_map, List.getElem?_map]
  rcases Nat.lt_trichotomy i l.length with hi | hi | hi
  · rw [if_neg (Nat.lt_asymm hi), if_neg (Nat.ne_of_lt hi), List.getElem?_eq_getElem hi]
    rfl
  · rw [if_neg (Nat.not_lt_of_le (Nat.le_of_eq hi)), if_pos hi,
      List.getElem?_eq_none (Nat.le_of_eq hi.symm)]
    rfl
  · rw [if_pos hi, if_neg (Nat.ne_of_gt hi), List.getElem?_eq_none (Nat.le_of_lt hi)]
    rfl

theorem keyFileAt_map (l : List (String × Option String)) (i : Nat) :
    keyFileAt (l.map bundleItem) i = (l[i]?.map Prod.snd).elim (some none) (Option.map some) := by
  rw [keyFileAt, List.length_map, List.getElem?_map]
  by_cases hi : i < l.length
  · rw [if_neg (Nat.not_le_of_lt hi), List.getElem?_eq_getElem hi]
    rfl
  · rw [if_pos (Nat.le_of_not_lt hi), List.getElem?_eq_none (Nat.le_of_not_lt hi)]
    rfl

end Getters

theorem certificate_count (m : SecurityMemory) (calls : List Setter) (kind : CertificateKind) :
    getCertificateCount (afterCalls m calls).2 kind = (added kind calls).length := by
  have hlength := Memory.length_of_arrayView (certificates_stored m calls kind)
  rw [List.length_map] at hlength
  exact hlength.symm

def RefinesAt (s : SecurityMemory × SecurityParameters) (kind : CertificateKind)
    (l : List (String × Option String)) (i : Nat) : Prop :=
  getCertificateFile s.1 s.2 kind i = some (l[i]?.map Prod.fst) ∧
    getKeyFile s.1 s.2 kind i = some (l[i]?.bind Prod.snd)

/-- The certificates of a kind are the list of its calls, except that the certificate getter reads
behind the last bundle at the count, and that nothing is stored for a key file that is NULL. -/
theorem certificates_refine_list_iff (m₀ : SecurityMemory) (calls : List Setter)
    (kind : CertificateKind) :
    getCertificateCount (afterCalls m₀ calls).2 kind =
        (added kind calls).length ∧
      (∀ i, RefinesAt (afterCalls m₀ calls) kind (added kind calls) i ↔
        i ≠ (added kind calls).length ∧ ∀ c, (added kind calls)[i]? = some c → c.2 ≠ none) ∧
      ∀ m₀' calls', added kind calls' = added kind calls →
        getCertificateCount (afterCalls m₀' calls').2 kind =
            getCertificateCount (afterCalls m₀ calls).2 kind ∧
          ∀ i, getCertificateFile (afterCalls m₀' calls').1
                (afterCalls m₀' calls').2 kind i =
              getCertificateFile (afterCalls m₀ calls).1
                (afterCalls m₀ calls).2 kind i ∧
            getKeyFile (afterCalls m₀' calls').1
                (afterCalls m₀' calls').2 kind i =
              getKeyFile (afterCalls m₀ calls).1
                (afterCalls m₀ calls).2 kind i := by
  have hstored := certificates_stored m₀ calls kind
  refine ⟨certificate_count m₀ calls kind, fun i => ?_, fun m₀' calls' hadded => ?_⟩
  · rw [RefinesAt, getCertificateFile_eq hstored, getKeyFile_eq hstored, certificateFileAt_map,
      keyFileAt_map]
    refine and_congr ?_ ?_
    · by_cases hi : i = (added kind calls).length
      · rw [if_pos hi]
        exact iff_of_false (Option.some_ne_none _).symm (not_not.mpr hi)
      · rw [if_neg hi]
        exact iff_of_true rfl hi
    · cases (added kind calls)[i]? with
      | none => exact iff_of_true rfl fun c hc => absurd hc.symm (Option.some_ne_none c)
      | some c =>
        obtain ⟨certFile, keyFile⟩ := c
        cases keyFile with
        | none => exact iff_of_false (Option.some_ne_none _).symm fun h => h _ rfl rfl
        | some keyFile =>
          refine iff_of_true rfl fun c hc => ?_
          cases hc
          exact Option.some_ne_none keyFile
  · have hstored' := certificates_stored m₀' calls' kind
    rw [hadded] at hstored'
    refine ⟨?_, fun i => ⟨?_, ?_⟩⟩
    · rw [certificate_count, certificate_count, hadded]
    · rw [getCertificateFile_eq hstored', getCertificateFile_eq hstored]
    · rw [getKeyFile_eq hstored', getKeyFile_eq hstored]

def noMemory : SecurityMemory := ⟨fun _ => none, 0, fun _ _ => rfl⟩

/-- The getter at the count, of no certificates and of one, and the key getter for a certificate
without a key file, return no defined value. -/
theorem certificates_refine_list_fails :
    getCertificateFile noMemory securityParametersNew .server 0 = none ∧
      (getCertificateCount (afterCalls noMemory
            [.addCertificate .server "cert.pem" (some "key.pem")]).2 .server = 1 ∧
        getCertificateFile
          (afterCalls noMemory [.addCertificate .server "cert.pem" (some "key.pem")]).1
          (afterCalls noMemory [.addCertificate .server "cert.pem" (some "key.pem")]).2 .server 1 =
            none) ∧
      getCertificateCount (afterCalls noMemory
          [.addCertificate .client "cert.pem" none]).2 .client = 1 ∧
        getKeyFile (afterCalls noMemory [.addCertificate .client "cert.pem" none]).1
          (afterCalls noMemory [.addCertificate .client "cert.pem" none]).2 .client 0 = none := by
  decide

end CTaps.Properties
