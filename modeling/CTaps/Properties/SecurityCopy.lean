import CTaps.Lib.Copies
import CTaps.Properties.SecurityParameters

/-! The deep copy of the security parameters. Each type of value has a copy of its own; the one of
the certificate bundles duplicates the name of every key file, also where none was stored. Without
such a certificate the copy answers every getter as the original does, and the two do not affect
each other; so it does for the attempts, where a value is one block. -/

namespace CTaps.Properties

open Lib
open Attempts (SecurityProperty PropertyType)

/-! ### Copies of values -/

def copyString (m : SecurityMemory) : Element → Option (SecurityMemory × Element)
  | .string w => (m.strdupWord w).map fun r => (r.1, .string (.addr r.2))
  | _ => none

def copyBundle (m : SecurityMemory) : Element → Option (SecurityMemory × Element)
  | .bundle certificateFileName privateKeyFileName =>
    (m.strdupWord certificateFileName).bind fun cert =>
      (cert.1.strdupWord privateKeyFileName).map fun key =>
        (key.1, .bundle (.addr cert.2) (.addr key.2))
  | _ => none

def copyByte (m : SecurityMemory) (e : Element) : Option (SecurityMemory × Element) := some (m, e)

def copyArrayOf (copy : SecurityMemory → Element → Option (SecurityMemory × Element))
    (m : SecurityMemory) (p : Parameter) : Option (SecurityMemory × Parameter) :=
  (Memory.copyArray copy m ((m.elements p.pointer).take p.num)).map fun r =>
    (r.1, ⟨p.setByUser, some r.2, p.num⟩)

def stringArrayValueDeepCopy (m : SecurityMemory) (p : Parameter) :
    Option (SecurityMemory × Parameter) :=
  -- an empty array is copied with its pointer
  if p.num = 0 then some (m, p) else copyArrayOf copyString m p

def certificateBundlesDeepCopy (m : SecurityMemory) (p : Parameter) :
    Option (SecurityMemory × Parameter) :=
  if p.num = 0 then some (m, ⟨p.setByUser, none, 0⟩) else copyArrayOf copyBundle m p

def stringDeepCopy (m : SecurityMemory) (p : Parameter) : Option (SecurityMemory × Parameter) :=
  match p.pointer with
  | some a => (m.strdupWord (.addr a)).map fun r => (r.1, ⟨p.setByUser, some r.2, 0⟩)
  | none => some (m, ⟨p.setByUser, none, 0⟩)

def byteArrayDeepCopy (m : SecurityMemory) (p : Parameter) : Option (SecurityMemory × Parameter) :=
  if p.num = 0 then some (m, ⟨p.setByUser, none, 0⟩) else copyArrayOf copyByte m p

def copyValue : PropertyType → SecurityMemory → Parameter → Option (SecurityMemory × Parameter)
  | .stringArray => stringArrayValueDeepCopy
  | .certificateBundles => certificateBundlesDeepCopy
  | .string => stringDeepCopy
  | .byteArray => byteArrayDeepCopy

/-- A parameter that was not set is left as it is in a new object. -/
def copyParameter (type : PropertyType) (m : SecurityMemory) (p : Parameter) :
    Option (SecurityMemory × Parameter) :=
  if p.setByUser then copyValue type m p else some (m, .default)

def securityParametersDeepCopy (m : SecurityMemory) (source : SecurityParameters) :
    Option (SecurityMemory × SecurityParameters) :=
  SecurityProperty.all.foldlM (copyStep (fun property => copyParameter property.type) source)
    (m, securityParametersNew)

/-! ### The other getters -/

inductive Getter
  | alpns
  | certificateCount (kind : CertificateKind)
  | certificateFile (kind : CertificateKind) (index : Nat)
  | keyFile (kind : CertificateKind) (index : Nat)
  | ticketStorePath
  | sessionTicketEncryptionKey
  | serverNameIdentification

inductive Answer
  | array (l : Option (List Item)) (num : Nat)
  | count (n : Nat)
  | text (t : Text)
  deriving DecidableEq

def itemsOf (m : SecurityMemory) (p : Option Nat) : Option (List Item) :=
  p.map fun a => (m.elements (some a)).map (elements.see m.text)

def getAlpns (m : SecurityMemory) (sec : SecurityParameters) : Option (List Item) × Nat :=
  if (sec .alpn).num = 0 then (none, 0) else (itemsOf m (sec .alpn).pointer, (sec .alpn).num)

def getSessionTicketEncryptionKey (m : SecurityMemory) (sec : SecurityParameters) :
    Option (List Item) × Nat :=
  (itemsOf m (sec .sessionTicketEncryptionKey).pointer, (sec .sessionTicketEncryptionKey).num)

def getTicketStorePath (m : SecurityMemory) (sec : SecurityParameters) : Text :=
  m.text (.ofPointer (sec .ticketStorePath).pointer)

def getServerNameIdentification (m : SecurityMemory) (sec : SecurityParameters) : Text :=
  m.text (.ofPointer (sec .serverNameIdentification).pointer)

def get (m : SecurityMemory) (sec : SecurityParameters) : Getter → Answer
  | .alpns => .array (getAlpns m sec).1 (getAlpns m sec).2
  | .certificateCount kind => .count (getCertificateCount sec kind)
  | .certificateFile kind index => .text (getCertificateFile m sec kind index)
  | .keyFile kind index => .text (getKeyFile m sec kind index)
  | .ticketStorePath => .text (getTicketStorePath m sec)
  | .sessionTicketEncryptionKey =>
    .array (getSessionTicketEncryptionKey m sec).1 (getSessionTicketEncryptionKey m sec).2
  | .serverNameIdentification => .text (getServerNameIdentification m sec)

namespace Getter

def property : Getter → SecurityProperty
  | .alpns => .alpn
  | .certificateCount kind | .certificateFile kind _ | .keyFile kind _ => kind.property
  | .ticketStorePath => .ticketStorePath
  | .sessionTicketEncryptionKey => .sessionTicketEncryptionKey
  | .serverNameIdentification => .serverNameIdentification

def answer : Getter → Content → Answer
  | .alpns, .items l | .sessionTicketEncryptionKey, .items l =>
    .array (if l.length = 0 then none else some l) l.length
  | .certificateCount _, .items l => .count l.length
  | .certificateFile _ index, .items l => .text (certificateFileAt l index)
  | .keyFile _ index, .items l => .text (keyFileAt l index)
  | .ticketStorePath, .text t | .serverNameIdentification, .text t => .text t
  | _, _ => .text none

end Getter

section Getters

variable {m : SecurityMemory} {sec : SecurityParameters}

theorem itemsOf_eq {p : Parameter} {l : List Item} (hnull : p.num = 0 → p.pointer = none)
    (h : Memory.arrayView elements m p.pointer p.num = some l) :
    itemsOf m p.pointer = if l.length = 0 then none else some l := by
  have hlength := Memory.length_of_arrayView h
  obtain ⟨harray, hl⟩ := Memory.arrayView_eq_some_iff.mp h
  by_cases hnum : p.num = 0
  · rw [hnull hnum, if_pos (hlength.trans hnum)]
    rfl
  · rw [if_neg fun h0 => hnum (hlength.symm.trans h0), ← hl]
    cases hp : p.pointer with
    | none =>
      rw [hp] at harray
      exact absurd (of_decide_eq_true harray) hnum
    | some a => rfl

theorem get_eq_answer {g : Getter} {v : View}
    (h : (layout g.property).view m (sec g.property) = some v) : get m sec g = g.answer v.content := by
  cases g with
  | alpns =>
    obtain ⟨hnull, l, hl, rfl⟩ := arrayLayout_view_eq_some_iff.mp h
    have hlength : l.length = (sec .alpn).num := Memory.length_of_arrayView hl
    have hitems : itemsOf m (sec .alpn).pointer = _ := itemsOf_eq hnull hl
    change Answer.array (getAlpns m sec).1 (getAlpns m sec).2 = .array _ l.length
    rw [getAlpns, ← hlength, hitems]
    split
    next h0 => rw [h0]
    next => rfl
  | certificateCount kind =>
    cases kind <;>
    · obtain ⟨_, l, hl, rfl⟩ := arrayLayout_view_eq_some_iff.mp h
      exact congrArg Answer.count (Memory.length_of_arrayView hl).symm
  | certificateFile kind index =>
    cases kind <;>
    · obtain ⟨_, l, hl, rfl⟩ := arrayLayout_view_eq_some_iff.mp h
      exact congrArg Answer.text (getCertificateFile_eq hl index)
  | keyFile kind index =>
    cases kind <;>
    · obtain ⟨_, l, hl, rfl⟩ := arrayLayout_view_eq_some_iff.mp h
      exact congrArg Answer.text (getKeyFile_eq hl index)
  | ticketStorePath =>
    cases h
    rfl
  | sessionTicketEncryptionKey =>
    obtain ⟨hnull, l, hl, rfl⟩ := arrayLayout_view_eq_some_iff.mp h
    exact congrArg₂ Answer.array (itemsOf_eq hnull hl) (Memory.length_of_arrayView hl).symm
  | serverNameIdentification =>
    cases h
    rfl

theorem get_congr {m' : SecurityMemory} {sec' : SecurityParameters}
    (hgood : ∀ property, Good property.type ((layout property).view m (sec property)))
    (h : ∀ property,
      (layout property).view m' (sec' property) = (layout property).view m (sec property))
    (g : Getter) : get m' sec' g = get m sec g := by
  obtain ⟨v, hv, _⟩ := hgood g.property
  rw [get_eq_answer hv, get_eq_answer ((h g.property).trans hv)]

end Getters

/-! ### The copy of a parameter -/

def Copyable (o : Option View) : Prop :=
  ∀ v l c, o = some v → v.content = .items l → bundleItem c ∈ l → c.2 ≠ none

section Copies

variable {m : SecurityMemory} {p : Parameter}

theorem copies_string {e : Element} {s : String}
    (he : elements.see m.text e = .string (some (some s))) :
    Memory.Copies elements copyString m e := by
  intro m' hext
  cases e with
  | bundle c k => cases he
  | byte b => cases he
  | string w =>
    have hw := hext.text_some (Item.string.inj he)
    refine ⟨(m'.alloc (.chars s), .string (.addr m'.next)), ?_, ?_, ?_⟩
    · rw [copyString, Memory.strdupWord_of_text hw]
      rfl
    · refine (m'.local_strdup s).of_subset fun a ha => ?_
      cases List.mem_singleton.mp ha
      rfl
    · rw [he]
      exact congrArg Item.string (Memory.text_alloc_next s)

theorem copies_bundle {e : Element} {c k : String}
    (he : elements.see m.text e = bundleItem (c, some k)) :
    Memory.Copies elements copyBundle m e := by
  intro m' hext
  cases e with
  | string w => cases he
  | byte b => cases he
  | bundle w w' =>
    obtain ⟨hw, hw'⟩ := Item.bundle.inj he
    obtain ⟨hlocal, hsee⟩ := makes_newBundle c (some k) m'
    have hcert := hext.text_some hw
    have hkey := (hext.trans (m'.local_strdup c).extends).text_some hw'
    refine ⟨newBundle c (some k) m', ?_, hlocal, ?_⟩
    · rw [copyBundle, Memory.strdupWord_of_text hcert, Option.bind_some,
        Memory.strdupWord_of_text hkey]
      rfl
    · rw [he]
      exact hsee

theorem copies_byte {e : Element} {b : BitVec 8} (he : elements.see m.text e = .byte b) :
    Memory.Copies elements copyByte m e := by
  intro m' _
  cases e with
  | string w => cases he
  | bundle c k => cases he
  | byte b' =>
    refine ⟨(m', .byte b'), rfl, Memory.local_nothing.of_subset ?_, rfl⟩
    intro a ha
    cases ha

theorem copyBundle_extends {e : Element} {r : SecurityMemory × Element}
    (h : copyBundle m e = some r) : m.Extends r.1 := by
  cases e with
  | string w => cases h
  | byte b => cases h
  | bundle w w' =>
    obtain ⟨cert, hcert, h⟩ := Option.bind_eq_some_iff.mp h
    obtain ⟨key, hkey, rfl⟩ := Option.map_eq_some_iff.mp h
    obtain ⟨c, _, rfl⟩ := Memory.strdupWord_spec hcert
    obtain ⟨k, _, rfl⟩ := Memory.strdupWord_spec hkey
    exact (m.local_strdup c).extends.trans (Memory.local_strdup _ k).extends

theorem copyBundle_eq_none {e : Element} {c : String × Option String}
    (he : elements.see m.text e = bundleItem c) (hc : c.2 = none)
    (howned : ∀ a ∈ elements.owned e, a < m.next) {m' : SecurityMemory} (hext : m.Extends m') :
    copyBundle m' e = none := by
  cases e with
  | string w => rfl
  | byte b => rfl
  | bundle w w' =>
    have hw' : m.text w' = none := by
      have hkey := (Item.bundle.inj he).2
      rw [hc] at hkey
      exact hkey
    have htext : ∀ m'', m.Extends m'' → m''.text w' = none := by
      intro m'' hext'
      rw [hext'.text_eq, hw']
      rintro a rfl
      exact howned a (List.mem_cons_of_mem _ List.mem_cons_self)
    rw [copyBundle]
    cases hcert : m'.strdupWord w with
    | none => rfl
    | some cert =>
      obtain ⟨s, _, rfl⟩ := Memory.strdupWord_spec hcert
      rw [Option.bind_some, Memory.strdupWord, htext _ (hext.trans (m'.local_strdup s).extends)]
      rfl

theorem copyArrayOf_copied {copy : SecurityMemory → Element → Option (SecurityMemory × Element)}
    {v : View} (hview : arrayLayout.view m p = some v) (hnum : p.num ≠ 0)
    (hcopy : ∀ e ∈ m.elements p.pointer, Memory.Copies elements copy m e) :
    ∃ r, copyArrayOf copy m p = some r ∧ m.Local r.1 ∅ (arrayLayout.owned r.1 r.2) ∧
      arrayLayout.view r.1 r.2 = arrayLayout.view m p := by
  obtain ⟨_, l, hl, rfl⟩ := arrayLayout_view_eq_some_iff.mp hview
  obtain ⟨harray, rfl⟩ := Memory.arrayView_eq_some_iff.mp hl
  have hlength := Memory.isArray_length harray
  obtain ⟨r, hr, hlocal, hcopied⟩ := Memory.copyArray_spec hcopy
  refine ⟨(r.1, ⟨p.setByUser, some r.2, p.num⟩), ?_, hlocal, ?_⟩
  · rw [copyArrayOf, List.take_of_length_le (Nat.le_of_eq hlength), hr, Option.map_some]
  · rw [hview, arrayLayout_view_eq_some_iff]
    rw [hlength] at hcopied
    exact ⟨fun h0 => absurd h0 hnum, _, hcopied, rfl⟩

theorem empty_copied {v : View} (hview : arrayLayout.view m p = some v) (hnum : p.num = 0) :
    m.Local m ∅ (arrayLayout.owned m ⟨p.setByUser, none, 0⟩) ∧
      arrayLayout.view m ⟨p.setByUser, none, 0⟩ = arrayLayout.view m p ∧
      p = ⟨p.setByUser, none, 0⟩ := by
  obtain ⟨hnull, _⟩ := arrayLayout_view_eq_some_iff.mp hview
  have hp : p = ⟨p.setByUser, none, 0⟩ := by
    rw [← hnull hnum, ← hnum]
  have hnone : arrayLayout.owned m ⟨p.setByUser, none, 0⟩ = ∅ := Memory.arrayOwned_null
  refine ⟨?_, by rw [← hp], hp⟩
  rw [hnone]
  exact Memory.local_nothing

theorem stringDeepCopy_copied {t : Option String} (ht : m.text (.ofPointer p.pointer) = some t) :
    ∃ r, stringDeepCopy m p = some r ∧ m.Local r.1 ∅ (stringLayout.owned r.1 r.2) ∧
      stringLayout.view r.1 r.2 = stringLayout.view m p := by
  have hview : stringLayout.view m p = some ⟨p.setByUser, .text (some t)⟩ := by
    rw [← ht]
    rfl
  rw [hview, stringDeepCopy]
  cases hp : p.pointer with
  | none =>
    rw [hp] at ht
    cases ht
    refine ⟨(m, ⟨p.setByUser, none, 0⟩), rfl, ?_, rfl⟩
    refine Memory.local_nothing.of_subset fun a ha => ?_
    cases ha
  | some a =>
    rw [hp] at ht
    cases t with
    | none =>
      simp only [Word.ofPointer, Memory.text] at ht
      split at ht <;> cases ht
    | some s =>
      refine ⟨(m.alloc (.chars s), ⟨p.setByUser, some m.next, 0⟩), ?_, ?_, ?_⟩
      · exact congrArg (Option.map _) (Memory.strdupWord_of_text ht)
      · refine (m.local_strdup s).of_subset fun a ha => ?_
        cases ha
        rfl
      · exact congrArg (fun t => some (View.mk p.setByUser (.text t))) (Memory.text_alloc_next s)

theorem array_copied (copy : SecurityMemory → Element → Option (SecurityMemory × Element))
    {f : SecurityMemory → Parameter → Option (SecurityMemory × Parameter)}
    (hzero : p.num = 0 → f m p = some (m, p) ∨ f m p = some (m, ⟨p.setByUser, none, 0⟩))
    (hmany : p.num ≠ 0 → f m p = copyArrayOf copy m p)
    {v : View} (hview : arrayLayout.view m p = some v)
    (hcopy : ∀ l, v.content = .items l → ∀ e ∈ m.elements p.pointer, elements.see m.text e ∈ l →
      Memory.Copies elements copy m e) :
    ∃ r, f m p = some r ∧ m.Local r.1 ∅ (arrayLayout.owned r.1 r.2) ∧
      arrayLayout.view r.1 r.2 = arrayLayout.view m p := by
  by_cases hnum : p.num = 0
  · obtain ⟨hlocal, hsame, hp⟩ := empty_copied hview hnum
    refine ⟨(m, ⟨p.setByUser, none, 0⟩), ?_, hlocal, hsame⟩
    rcases hzero hnum with h | h
    · rw [h, ← hp]
    · exact h
  · rw [hmany hnum]
    refine copyArrayOf_copied hview hnum fun e he => ?_
    obtain ⟨_, l, hl, rfl⟩ := arrayLayout_view_eq_some_iff.mp hview
    obtain ⟨_, rfl⟩ := Memory.arrayView_eq_some_iff.mp hl
    exact hcopy _ rfl e he (List.mem_map_of_mem he)

end Copies

theorem view_setByUser {m : SecurityMemory} {p : Parameter} {type : PropertyType} {v : View}
    (hview : (typeLayout type).view m p = some v) : v.setByUser = p.setByUser := by
  cases type with
  | string =>
    cases hview
    rfl
  | _ =>
    obtain ⟨_, l, _, rfl⟩ := arrayLayout_view_eq_some_iff.mp hview
    rfl

theorem copied_of_set {m : SecurityMemory} {p : Parameter} {type : PropertyType} {v : View}
    (hset : p.setByUser = true) (hview : (typeLayout type).view m p = some v)
    (htyped : WellTyped type v.content) (hok : Copyable (some v)) :
    ∃ r, copyParameter type m p = some r ∧ m.Local r.1 ∅ ((typeLayout type).owned r.1 r.2) ∧
      (typeLayout type).view r.1 r.2 = (typeLayout type).view m p := by
  rw [copyParameter, if_pos hset]
  cases type with
  | stringArray =>
    refine array_copied (f := stringArrayValueDeepCopy) copyString
      (fun h => Or.inl (if_pos h)) (fun h => if_neg h) hview fun l hl e _ hmem => ?_
    rw [hl] at htyped
    obtain ⟨s, hs⟩ := htyped _ hmem
    exact copies_string hs
  | certificateBundles =>
    refine array_copied (f := certificateBundlesDeepCopy) copyBundle
      (fun h => Or.inr (if_pos h)) (fun h => if_neg h) hview fun l hl e _ hmem => ?_
    rw [hl] at htyped
    obtain ⟨⟨certFile, keyFile⟩, hc⟩ := htyped _ hmem
    cases keyFile with
    | none => exact absurd rfl (hok v l _ rfl hl (hc ▸ hmem))
    | some keyFile => exact copies_bundle hc
  | byteArray =>
    refine array_copied (f := byteArrayDeepCopy) copyByte
      (fun h => Or.inr (if_pos h)) (fun h => if_neg h) hview fun l hl e _ hmem => ?_
    rw [hl] at htyped
    obtain ⟨b, hb⟩ := htyped _ hmem
    exact copies_byte hb
  | string =>
    cases hview
    obtain ⟨t, ht⟩ := htyped
    exact stringDeepCopy_copied ht

theorem WellTyped.type_eq {type : PropertyType} {l : List Item} {c : String × Option String}
    (h : WellTyped type (.items l)) (hc : bundleItem c ∈ l) : type = .certificateBundles := by
  cases type with
  | certificateBundles => rfl
  | string => exact h.elim
  | stringArray =>
    obtain ⟨s, hs⟩ := h _ hc
    cases hs
  | byteArray =>
    obtain ⟨b, hb⟩ := h _ hc
    cases hb

theorem refused_of_set {m : SecurityMemory} {p : Parameter} {type : PropertyType} {v : View}
    (howned : ∀ a ∈ (typeLayout type).owned m p, a < m.next) (hset : p.setByUser = true)
    (hview : (typeLayout type).view m p = some v) (htyped : WellTyped type v.content)
    {l : List Item} {c : String × Option String} (hl : v.content = .items l)
    (hmem : bundleItem c ∈ l) (hc : c.2 = none) : copyParameter type m p = none := by
  rw [hl] at htyped
  cases htyped.type_eq hmem
  obtain ⟨_, l', hl', rfl⟩ := arrayLayout_view_eq_some_iff.mp hview
  cases hl
  obtain ⟨harray, rfl⟩ := Memory.arrayView_eq_some_iff.mp hl'
  have hlength := Memory.isArray_length harray
  obtain ⟨e, he, hsee⟩ := List.mem_map.mp hmem
  have hnum : p.num ≠ 0 := by
    rw [← hlength]
    exact Nat.ne_of_gt (List.length_pos_of_mem he)
  have hnone : Memory.copyArray copyBundle m (m.elements p.pointer) = none :=
    Memory.copyArray_eq_none (fun _ _ _ => copyBundle_extends) he fun m' hext =>
      copyBundle_eq_none hsee hc (fun a ha => howned a (Or.inr ⟨e, he, ha⟩)) hext
  rw [copyParameter, if_pos hset, copyValue, certificateBundlesDeepCopy, if_neg hnum, copyArrayOf,
    List.take_of_length_le (Nat.le_of_eq hlength), hnone, Option.map_none]

theorem copiesValue (type : PropertyType) :
    CopiesValue (typeLayout type) (copyParameter type) (Good type) Copyable := by
  constructor
  · intro m p _ hgood hok
    obtain ⟨v, hv, htyped, hunset⟩ := hgood
    by_cases hset : p.setByUser = true
    · rw [hv] at hok
      exact copied_of_set hset hv htyped hok
    · have hfalse := Bool.eq_false_of_not_eq_true hset
      have hv' := (view_setByUser hv).trans hfalse
      refine ⟨(m, .default), if_neg hset, ?_, ?_⟩
      · rw [owned_default]
        exact Memory.local_nothing
      · rw [view_default, hv, ← hunset hv', ← hv']
  · intro m p howned hgood hok
    obtain ⟨v, hv, htyped, hunset⟩ := hgood
    unfold Copyable at hok
    push Not at hok
    obtain ⟨v', l, c, hv', hl, hmem, hc⟩ := hok
    cases hv.symm.trans hv'
    refine refused_of_set howned ?_ hv htyped hl hmem hc
    by_contra hset
    have hv'' := (view_setByUser hv).trans (Bool.eq_false_of_not_eq_true hset)
    rw [hunset hv''] at hl
    cases type <;> cases hl <;> cases hmem

/-! ### The copy of the object -/

def callOn : SecurityMemory × (Bool → SecurityParameters) → Bool × Setter →
    SecurityMemory × (Bool → SecurityParameters) :=
  stepOn Setter.property Setter.perform

/-- Every getter returns on the copy `c` what it returns on the original `s`, before and after
copying, and later calls on one of them change no getter of the other. -/
structure FaithfulCopy (s c : SecurityMemory × SecurityParameters) : Prop where
  same : ∀ g, get c.1 c.2 g = get s.1 s.2 g
  kept : ∀ g, get c.1 s.2 g = get s.1 s.2 g
  independent : ∀ (earlier later : List (Bool × Setter)) (side : Bool),
    (∀ x ∈ later, x.1 ≠ side) → ∀ g,
      get (run callOn (c.1, sides s.2 c.2) (earlier ++ later)).1
          ((run callOn (c.1, sides s.2 c.2) (earlier ++ later)).2 side) g =
        get (run callOn (c.1, sides s.2 c.2) earlier).1
          ((run callOn (c.1, sides s.2 c.2) earlier).2 side) g

section Object

variable {s : SecurityMemory × SecurityParameters}

theorem SecurityProperty.mem_all (property : SecurityProperty) :
    property ∈ SecurityProperty.all := by
  cases property <;> decide

theorem deepCopy_eq_some (h : Held layout (fun property => Good property.type) s)
    (hok : ∀ property, Copyable (seen layout s property)) :
    ∃ c, securityParametersDeepCopy s.1 s.2 = some c ∧
      AllHeld layout (fun property => Good property.type) (c.1, sides s.2 c.2) ∧
      (∀ property, (layout property).view c.1 (s.2 property) = seen layout s property) ∧
      ∀ property, seen layout c property = seen layout s property :=
  copy_all SecurityProperty.mem_all (fun property => copiesValue property.type) h
    (fun property => owned_default s.1 property.type) hok

theorem faithfulCopy_of_copyable (h : Held layout (fun property => Good property.type) s)
    (hok : ∀ property, Copyable (seen layout s property)) :
    ∃ c, securityParametersDeepCopy s.1 s.2 = some c ∧ FaithfulCopy s c := by
  obtain ⟨c, hc, hheld, hsource, hcopied⟩ := deepCopy_eq_some h hok
  refine ⟨c, hc, get_congr h.good hcopied, get_congr h.good hsource, ?_⟩
  intro earlier later side hlater g
  obtain ⟨hearlier, _⟩ := hheld.run setters_perform earlier
  rw [run_append]
  exact get_congr (hearlier.good side) ((hearlier.run setters_perform later).2 side hlater) g

theorem copyable_of_deepCopy (h : Held layout (fun property => Good property.type) s)
    {c : SecurityMemory × SecurityParameters} (hc : securityParametersDeepCopy s.1 s.2 = some c)
    (property : SecurityProperty) : Copyable (seen layout s property) := by
  by_contra hok
  have hnone : securityParametersDeepCopy s.1 s.2 = none :=
    copy_loop_eq_none (fun property => copiesValue property.type)
      (h.separate.sides fun property => owned_default s.1 property.type) h.good
      (SecurityProperty.mem_all property) hok
  cases hnone.symm.trans hc

end Object

theorem property_of_bundle {property : SecurityProperty} {l : List Item}
    {c : String × Option String} (htyped : WellTyped property.type (.items l))
    (hc : bundleItem c ∈ l) : ∃ kind : CertificateKind, property = kind.property := by
  have htype := htyped.type_eq hc
  cases property <;> first | exact ⟨.server, rfl⟩ | exact ⟨.client, rfl⟩ | cases htype

theorem copyable_iff (m : SecurityMemory) (calls : List Setter) :
    (∀ property, Copyable (seen layout (afterCalls m calls) property)) ↔
      ∀ kind, ∀ c ∈ added kind calls, c.2 ≠ none := by
  constructor
  · intro h kind c hc
    obtain ⟨setByUser, hview⟩ := certificates_seen m calls kind
    exact h kind.property _ _ c hview rfl (List.mem_map_of_mem hc)
  · intro h property v l c hv hl hc hkey
    obtain ⟨v', hv', htyped, _⟩ := (held_calls m calls).good property
    cases hv'.symm.trans hv
    rw [hl] at htyped
    obtain ⟨kind, rfl⟩ := property_of_bundle htyped hc
    obtain ⟨setByUser, hview⟩ := certificates_seen m calls kind
    cases hview.symm.trans hv
    cases hl
    obtain ⟨c', hc', heq⟩ := List.mem_map.mp hc
    refine h kind c' hc' ?_
    have hnone : c'.2.map some = c.2.map some := (Item.bundle.inj heq).2
    rw [hkey] at hnone
    exact Option.map_eq_none_iff.mp hnone

/-- The deep copy of an object that setters have made is faithful and independent if and only if no
certificate was added without a key file. -/
theorem securityParametersDeepCopy_faithful_iff (m₀ : SecurityMemory) (calls : List Setter) :
    (∃ c, securityParametersDeepCopy (afterCalls m₀ calls).1 (afterCalls m₀ calls).2 = some c ∧
      FaithfulCopy (afterCalls m₀ calls) c) ↔ ∀ kind, ∀ c ∈ added kind calls, c.2 ≠ none := by
  rw [← copyable_iff m₀ calls]
  constructor
  · rintro ⟨c, hc, _⟩
    exact copyable_of_deepCopy (held_calls m₀ calls) hc
  · exact faithfulCopy_of_copyable (held_calls m₀ calls)

theorem securityParametersDeepCopy_fails :
    securityParametersDeepCopy
      (afterCalls noMemory [.addCertificate .server "cert.pem" none]).1
      (afterCalls noMemory [.addCertificate .server "cert.pem" none]).2 = none := rfl

/-! ### The copy that an attempt works on -/

def cellContent : Attempts.Cell → Content
  | .strings l => .items (l.map fun s => .string (some (some s)))
  | .bundles l => .items (l.map fun c => bundleItem (c.1, some c.2))
  | .string s => .text (some (some s))
  | .bytes l => .items (l.map .byte)

def cellView (h : Attempts.Heap) (type : PropertyType) (p : Attempts.SecurityParameter) :
    Option View :=
  match p.pointer with
  | none => if p.num = 0 then some ⟨p.setByUser, emptyContent type⟩ else none
  | some a => (h.cells a).map fun c => ⟨p.setByUser, cellContent c⟩

section Attempt

variable {h h' : Attempts.Heap} {type : PropertyType} {p : Attempts.SecurityParameter} {v : View}

theorem cellView_eq_some_iff : cellView h type p = some v ↔
    (p.pointer = none ∧ p.num = 0 ∧ v = ⟨p.setByUser, emptyContent type⟩) ∨
      ∃ a c, p.pointer = some a ∧ h.cells a = some c ∧ v = ⟨p.setByUser, cellContent c⟩ := by
  unfold cellView
  cases hp : p.pointer with
  | none =>
    by_cases hnum : p.num = 0
    · simp [hnum, eq_comm]
    · simp [hnum]
  | some a => simp [eq_comm]

theorem cellView_of_extends (he : h.Extends h') (hview : cellView h type p = some v) :
    cellView h' type p = some v := by
  rw [cellView_eq_some_iff] at hview ⊢
  refine hview.imp_right ?_
  rintro ⟨a, c, hp, hc, hv⟩
  have hlt : a < h.next := by
    by_contra hle
    rw [h.fresh a (Nat.le_of_not_lt hle)] at hc
    cases hc
  exact ⟨a, c, hp, (he.2 a hlt).trans hc, hv⟩

theorem cellView_copyParameter (hview : cellView h type p = some v) (hgood : Good type (some v)) :
    cellView (Attempts.copyParameter h type p).1 type (Attempts.copyParameter h type p).2 = some v := by
  obtain ⟨v', hv', _, hunset⟩ := hgood
  cases hv'
  rw [Attempts.copyParameter]
  rcases cellView_eq_some_iff.mp hview with ⟨hp, hnum, rfl⟩ | ⟨a, c, hp, hc, rfl⟩
  · cases hset : p.setByUser with
    | false => rfl
    | true =>
      rw [if_neg (by decide), dif_pos hnum]
      refine cellView_eq_some_iff.mpr (Or.inl ⟨?_, rfl, rfl⟩)
      simp only [hp, ite_self]
  · have hnum : p.num ≠ 0 := by
      intro hnum
      rw [p.null_of_empty hnum] at hp
      cases hp
    cases hset : p.setByUser with
    | false =>
      have hempty : cellContent c = emptyContent type := hunset hset
      rw [hempty]
      rfl
    | true =>
      have hbind : p.pointer.bind h.cells = some c := by
        rw [hp, Option.bind_some, hc]
      rw [if_neg (by decide), dif_neg hnum]
      simp only [hbind]
      exact cellView_eq_some_iff.mpr (Or.inr ⟨h.next, c, rfl, h.alloc_cells_next c, rfl⟩)

theorem cellView_loop {source : Attempts.SecurityParameters} {views : SecurityProperty → View}
    (hsource : ∀ property, cellView h property.type (source property) = some (views property))
    (hgood : ∀ property : SecurityProperty, Good property.type (some (views property)))
    (l : List SecurityProperty) {s : Attempts.Heap × Attempts.SecurityParameters}
    (he : h.Extends s.1)
    (hdone : ∀ property ∉ l,
      cellView s.1 property.type (s.2 property) = some (views property)) (property : SecurityProperty) :
    cellView (l.foldl (Attempts.copyStep source) s).1 property.type
      ((l.foldl (Attempts.copyStep source) s).2 property) = some (views property) := by
  induction l generalizing s with
  | nil => exact hdone property List.not_mem_nil
  | cons i l ih =>
    have hstep := (Attempts.copyParameter_apart (Attempts.Heap.Extends.refl s.1) i.type (source i)).1
    refine ih (he.trans hstep) fun j hj => ?_
    by_cases hji : j = i
    · subst hji
      rw [Attempts.copyStep]
      dsimp only
      rw [Function.update_self]
      exact cellView_copyParameter (cellView_of_extends he (hsource j)) (hgood j)
    · rw [Attempts.copyStep]
      dsimp only
      rw [Function.update_of_ne hji]
      exact cellView_of_extends hstep (hdone j fun hmem => (List.mem_cons.mp hmem).elim hji hj)

theorem cellView_deepCopy {s c : SecurityMemory × SecurityParameters}
    {source : Attempts.SecurityParameters}
    (hheld : Held layout (fun property => Good property.type) s)
    (hsame : ∀ property, cellView h property.type (source property) = seen layout s property)
    (hc : securityParametersDeepCopy s.1 s.2 = some c) (property : SecurityProperty) :
    cellView (Attempts.securityParametersDeepCopy h source).1 property.type
      ((Attempts.securityParametersDeepCopy h source).2 property) = seen layout c property := by
  obtain ⟨c', hc', _, _, hcopied⟩ := deepCopy_eq_some hheld (copyable_of_deepCopy hheld hc)
  cases hc.symm.trans hc'
  choose views hviews hgood using hheld.good
  have hseen : seen layout c property = some (views property) :=
    (hcopied property).trans (hviews property)
  rw [hseen]
  exact cellView_loop (fun property => (hsame property).trans (hviews property))
    (fun property => ⟨_, rfl, hgood property⟩) SecurityProperty.all (Attempts.Heap.Extends.refl h)
    (fun property hnot => absurd (SecurityProperty.mem_all property) hnot) property

end Attempt

end CTaps.Properties
