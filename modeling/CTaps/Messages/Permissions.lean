import CTaps.Connections.Capabilities
import CTaps.Messages.Gating

/-! The permissions of the connections of a QUIC group, over whole runs. What was received on each
stream, and which connections were closed, is kept beside the run. No connection regains a permission
that it has lost, unless an event makes it ready, binds it or announces it too late. -/

namespace CTaps.Messages

open Connections (World Event Outline UserCallbacks)
open Connections.Outline (Marks Capped peerUnidirectional)

/-- A run, with the streams on which FIN and STOP_SENDING were received, the connections that
`ct_connection_close` has closed, and those that have been closing or closed. -/
structure Flow where
  sending : Sending
  fins : List (Nat × Nat) := []
  stops : List (Nat × Nat) := []
  closes : Nat → Bool := fun _ => false
  ends : Nat → Bool := fun _ => false

namespace Flow

open Sending (Input)

def world (d : Flow) : World := d.sending.world

def asEvent : Input → Option Event
  | .event e => some e
  | .initWithSend cbs early start _ => some (.initiate cbs early start)
  | .send c context sid _ => some (.send c (context.getD false) sid)
  | .completed .. => none

def note (d : Flow) : Event → Flow
  | .close c =>
    -- a connection that is closing or closed is not closed again
    if (d.world.conn c).isClosedOrClosing then d
    else { d with closes := Function.update d.closes c true }
  | .streamFin g sid _ _ => { d with fins := (g, sid) :: d.fins }
  | .stopSending g sid => { d with stops := (g, sid) :: d.stops }
  | _ => d

def endsAfter (d : Flow) (s : Sending) (c : Nat) : Bool :=
  d.ends c || (decide (c < s.world.numConns) && (s.world.conn c).isClosedOrClosing)

def step (d : Flow) (i : Input) : Flow :=
  if d.sending.enabled i then
    { (asEvent i).elim d d.note with
      sending := d.sending.act i
      ends := d.endsAfter (d.sending.act i) }
  else d

def start (callbacks : Nat → SendCallbacks) : Flow :=
  { sending := { world := { protocol := .quic }, callbacks := callbacks } }

def run (callbacks : Nat → SendCallbacks) (is : List Input) : Flow :=
  Lib.run step (start callbacks) is

variable {d : Flow} {m : Marks}

theorem step_sending (d : Flow) (i : Input) : (d.step i).sending = d.sending.step i := by
  unfold step Sending.step
  split <;> rfl

theorem run_sending (callbacks : Nat → SendCallbacks) (is : List Input) :
    (run callbacks is).sending = Sending.run .quic callbacks is :=
  Lib.run_project Flow.sending step_sending (start callbacks) is

def marks (d : Flow) : Marks :=
  { fins := d.fins, stops := d.stops, ended := fun c => d.sending.finals c || d.closes c }

def endMarks (d : Flow) : Marks :=
  { d.marks with ended := fun c => d.sending.finals c || d.ends c }

def NextStreamLocal (d : Flow) (i : Input) : Prop :=
  ∀ e ∈ asEvent i, d.world.NextStreamLocal e
deriving Decidable

def Restores (d : Flow) (m : Marks) (i : Input) : Prop := ∃ e ∈ asEvent i, d.world.Restores m e
deriving Decidable

/-! ### One input -/

theorem act_cases {i : Input} (hen : d.sending.enabled i = true) :
    (asEvent i = none ∧ (d.sending.act i).world = d.world) ∨
      ∃ e, asEvent i = some e ∧ d.world.enabled e = true ∧
        (d.sending.act i).world = d.world.step e := by
  cases i with
  | event e => exact Or.inr ⟨e, rfl, (of_decide_eq_true hen).2, rfl⟩
  | initWithSend cbs early start isFinal => exact Or.inr ⟨_, rfl, rfl, rfl⟩
  | send c context sid reply => exact Or.inr ⟨_, rfl, hen, (if_pos hen).symm⟩
  | completed k status => exact Or.inl ⟨rfl, rfl⟩

theorem finals_act (hp : d.world.protocol = .quic) {i : Input} (hen : d.sending.enabled i = true)
    {c : Nat} (hc : (d.sending.act i).finals c = true) : d.sending.finals c = true ∨
      c < (d.sending.act i).world.numConns ∧
        ((d.sending.act i).world.conn c).canSend = false := by
  cases i with
  | event e => exact Or.inl hc
  | initWithSend cbs early start isFinal =>
    dsimp only [Sending.act] at hc ⊢
    split at hc
    · next hfinal =>
      rcases eq_or_ne c d.sending.world.numConns with rfl | hne
      · obtain ⟨-, rfl⟩ := hfinal
        have hudp : d.sending.world.protocol ≠ .udp := by
          rw [show d.sending.world.protocol = .quic from hp]
          exact Gathering.Protocol.noConfusion
        exact Or.inr (World.initiate_begun hudp cbs early)
      · exact Or.inl (by simpa [hne] using hc)
    · exact Or.inl hc
  | send k context sid reply =>
    have hlt := Connections.World.lt_of_held hen
    dsimp only [Sending.act] at hc ⊢
    split at hc
    · next hfinal =>
      rcases eq_or_ne c k with rfl | hne
      · have hsite := World.site_sendMessage (w := d.sending.world) c (context.getD false) sid
        refine Or.inr ⟨hlt.trans_eq (congrArg Connections.Site.numConns hsite).symm, ?_⟩
        rw [hfinal.1]
        exact World.sendMessage_final d.sending.world c sid
      · exact Or.inl (by simpa [hne] using hc)
    · exact Or.inl hc
  | completed k status => exact Or.inl hc

def marksAfter (d : Flow) (m : Marks) (i : Input) : Marks :=
  (asEvent i).elim m (d.world.marksAfter m)

theorem marksAfter_step (hfins : m.fins = d.fins) (hstops : m.stops = d.stops) {i : Input}
    (hen : d.sending.enabled i = true) : (d.step i).fins = (d.marksAfter m i).fins ∧
      (d.step i).stops = (d.marksAfter m i).stops := by
  unfold step marksAfter
  rw [if_pos hen]
  cases asEvent i with
  | none => exact ⟨hfins.symm, hstops.symm⟩
  | some e =>
    cases e with
    | close c =>
      dsimp only [Option.elim, note, World.marksAfter]
      split <;> exact ⟨hfins.symm, hstops.symm⟩
    | streamFin g sid first hasData =>
      exact ⟨congrArg (List.cons (g, sid)) hfins.symm, hstops.symm⟩
    | stopSending g sid => exact ⟨hfins.symm, congrArg (List.cons (g, sid)) hstops.symm⟩
    | _ => exact ⟨hfins.symm, hstops.symm⟩

theorem ended_marksAfter (d : Flow) (i : Input) {c : Nat} (hc : m.ended c = true) :
    (d.marksAfter m i).ended c = true := by
  unfold marksAfter
  cases asEvent i with
  | none => exact hc
  | some e => exact World.ended_marksAfter e hc

theorem closes_marksAfter (hm : ∀ c, d.closes c = true → m.ended c = true) {i : Input}
    (hen : d.sending.enabled i = true) {c : Nat} (hc : (d.step i).closes c = true) :
    (d.marksAfter m i).ended c = true := by
  unfold step at hc
  rw [if_pos hen] at hc
  unfold marksAfter
  cases he : asEvent i with
  | none =>
    rw [he] at hc
    exact hm c hc
  | some e =>
    rw [he] at hc
    cases e with
    | close k =>
      dsimp only [Option.elim, note, World.marksAfter] at hc ⊢
      split at hc
      · next hclosed =>
        rw [if_pos hclosed]
        exact hm c hc
      · next hopen =>
        rw [if_neg hopen]
        rcases eq_or_ne c k with rfl | hck
        · simp
        · simpa [hck] using hm c (by simpa [hck] using hc)
    | _ => exact hm c hc

theorem capped_act (h : Capped d.world.outline m) (hb : d.world.outline.Bound)
    (hp : d.world.protocol = .quic) {i : Input} (hen : d.sending.enabled i = true)
    (hlocal : d.NextStreamLocal i) (hi : ¬ d.Restores m i) :
    Capped (d.sending.act i).world.outline (d.marksAfter m i) := by
  unfold marksAfter
  obtain ⟨he, hworld⟩ | ⟨e, he, hev, hworld⟩ := act_cases hen
  · rw [he, hworld]
    exact h
  · rw [he, hworld, show d.world.step e = d.world.act e from if_pos hev]
    exact World.capped_act h hb hp hev (hlocal e he) fun hrestores => hi ⟨e, he, hrestores⟩

/-! ### Whole runs -/

theorem step_act {i : Input} (hen : d.sending.enabled i = true) :
    (d.step i).sending = d.sending.act i :=
  (step_sending d i).trans (if_pos hen)

theorem step_world {i : Input} (hen : d.sending.enabled i = true) :
    (d.step i).world = (d.sending.act i).world :=
  congrArg Sending.world (step_act hen)

theorem step_keeps {I : Flow → Prop} (h : I d) {i : Input}
    (hact : d.sending.enabled i = true → I (d.step i)) : I (d.step i) := by
  cases hen : d.sending.enabled i with
  | true => exact hact hen
  | false =>
    rw [show d.step i = d from if_neg (by simp [hen])]
    exact h

structure Sound (d : Flow) : Prop where
  protocol : d.world.protocol = .quic
  bound : d.world.outline.Bound

theorem Sound.step (h : Sound d) {i : Input} (hlocal : d.NextStreamLocal i) : Sound (d.step i) := by
  refine step_keeps h fun hen => ?_
  rcases act_cases hen with ⟨-, hsame⟩ | ⟨e, he, -, hstep⟩
  · have hworld := (step_world hen).trans hsame
    exact ⟨hworld ▸ h.protocol, hworld ▸ h.bound⟩
  · have hworld := (step_world hen).trans hstep
    refine ⟨hworld ▸ (World.protocol_step d.world e).trans h.protocol, ?_⟩
    rw [hworld]
    exact World.bound_step h.bound h.protocol (hlocal e he).free

theorem Sound.capped (h : Sound d) (hm : Capped d.world.outline m) (hfins : m.fins = d.fins)
    (hstops : m.stops = d.stops) (hfinals : ∀ c, d.sending.finals c = true → m.ended c = true)
    {i : Input} (hen : d.sending.enabled i = true) (hlocal : d.NextStreamLocal i)
    (hi : ¬ d.Restores m i) {ended : Nat → Bool}
    (hended : ∀ c, ended c = true → (d.sending.act i).finals c = true ∨
      (d.marksAfter m i).ended c = true ∨ c < (d.sending.act i).world.numConns ∧
        ((d.sending.act i).world.conn c).canSend = false) :
    Capped (d.step i).world.outline
      { fins := (d.step i).fins, stops := (d.step i).stops, ended := ended } := by
  obtain ⟨hfins, hstops⟩ := marksAfter_step hfins hstops hen
  rw [step_world hen]
  refine (capped_act hm h.bound h.protocol hen hlocal hi).ends hfins hstops fun c hc => ?_
  rcases hended c hc with hfinal | hold
  · rcases finals_act h.protocol hen hfinal with hold | hnew
    · exact Or.inl (ended_marksAfter d i (hfinals c hold))
    · exact Or.inr hnew
  · exact hold

theorem Sound.marks (h : Sound d) (hm : Capped d.world.outline d.marks) {i : Input}
    (hlocal : d.NextStreamLocal i) (hi : ¬ d.Restores d.marks i) :
    Capped (d.step i).world.outline (d.step i).marks := by
  refine step_keeps (I := fun d => Capped d.world.outline d.marks) hm fun hen => ?_
  refine h.capped hm rfl rfl (fun c hc => by simp [Flow.marks, hc]) hen hlocal hi fun c hc => ?_
  rcases Bool.or_eq_true_iff.mp hc with hfinal | hclose
  · rw [step_act hen] at hfinal
    exact Or.inl hfinal
  · refine Or.inr (Or.inl (closes_marksAfter (fun k hk => ?_) hen hclose))
    simp [Flow.marks, hk]

theorem Sound.endMarks (h : Sound d) (hm : Capped d.world.outline d.endMarks) {i : Input}
    (hlocal : d.NextStreamLocal i) (hi : ¬ d.Restores d.endMarks i)
    (hgated : (d.step i).sending.Gated) :
    Capped (d.step i).world.outline (d.step i).endMarks := by
  refine step_keeps (I := fun d => Capped d.world.outline d.endMarks) hm fun hen => ?_
  have hends : (d.step i).ends = d.endsAfter (d.sending.act i) := by
    unfold Flow.step
    rw [if_pos hen]
  rw [step_act hen] at hgated
  refine h.capped hm rfl rfl (fun c hc => by simp [Flow.endMarks, hc]) hen hlocal hi fun c hc => ?_
  rcases Bool.or_eq_true_iff.mp hc with hfinal | hend
  · rw [step_act hen] at hfinal
    exact Or.inl hfinal
  · rw [hends] at hend
    rcases Bool.or_eq_true_iff.mp hend with hold | hnew
    · exact Or.inr (Or.inl (ended_marksAfter d i (by simp [Flow.endMarks, hold])))
    · obtain ⟨hlt, hclosed⟩ := Bool.and_eq_true_iff.mp hnew
      refine Or.inr (Or.inr ⟨of_decide_eq_true hlt, Bool.not_eq_true _ ▸ fun hs => ?_⟩)
      cases hclosed.symm.trans (hgated.gated.gated c hs).1

theorem sound_start (callbacks : Nat → SendCallbacks) : Sound (start callbacks) :=
  ⟨rfl, World.bound_init .quic⟩

theorem capped_start (callbacks : Nat → SendCallbacks) {ended : Nat → Bool}
    (hended : ∀ c, ended c = false) :
    Capped (start callbacks).world.outline { fins := [], stops := [], ended := ended } := by
  constructor
  · exact fun c hc => absurd hc (Nat.not_lt_zero c)
  · exact fun c hc => absurd hc (Nat.not_lt_zero c)
  · intro c hc
    cases (hended c).symm.trans hc
  · rintro g sid (hmem | hmem)
    · cases hmem
    · cases hmem

theorem marks_run {callbacks : Nat → SendCallbacks} {is : List Input}
    (his : Lib.AllSteps step (fun d i => d.NextStreamLocal i ∧ ¬ d.Restores d.marks i)
      (start callbacks) is) :
    Sound (run callbacks is) ∧ Capped (run callbacks is).world.outline (run callbacks is).marks := by
  refine Lib.run_invariant (I := fun d : Flow => Sound d ∧ Capped d.world.outline d.marks)
    (fun d i hd hi => ?_) ⟨sound_start callbacks, capped_start callbacks fun _ => rfl⟩ his
  exact ⟨hd.1.step hi.1, hd.1.marks hd.2 hi.1 hi.2⟩

theorem endMarks_run {callbacks : Nat → SendCallbacks} {is : List Input}
    (his : Lib.AllSteps step (fun d i => d.NextStreamLocal i ∧ ¬ d.Restores d.endMarks i ∧
      ¬ d.sending.Unblocks i) (start callbacks) is) :
    Capped (run callbacks is).world.outline (run callbacks is).endMarks := by
  have hall : Sound (run callbacks is) ∧ (run callbacks is).sending.Gated ∧
      Capped (run callbacks is).world.outline (run callbacks is).endMarks := by
    refine Lib.run_invariant (I := fun d : Flow => Sound d ∧ d.sending.Gated ∧
      Capped d.world.outline d.endMarks) (fun d i hd hi => ?_) ?_ his
    · have hgated : (d.step i).sending.Gated := by
        rw [step_sending]
        exact hd.2.1.step hi.2.2
      exact ⟨hd.1.step hi.1, hgated, hd.1.endMarks hd.2.2 hi.1 hi.2.1 hgated⟩
    · exact ⟨sound_start callbacks, Sending.gated_init .quic callbacks,
        capped_start callbacks fun _ => rfl⟩
  exact hall.2.2

/-! ### What stays -/

structure Later (d n : Flow) : Prop where
  protocol : d.world.protocol = .quic → n.world.protocol = .quic
  outline : d.world.protocol = .quic → d.world.outline.Extends n.world.outline
  fins : d.fins ⊆ n.fins
  stops : d.stops ⊆ n.stops
  finals : ∀ c, d.sending.finals c = true → n.sending.finals c = true
  closes : ∀ c, d.closes c = true → n.closes c = true
  ends : ∀ c, d.ends c = true → n.ends c = true

theorem Later.refl (d : Flow) : Later d d :=
  ⟨id, fun _ => Outline.Extends.refl _, List.Subset.refl _, List.Subset.refl _, fun _ => id,
    fun _ => id, fun _ => id⟩

theorem Later.trans {n k : Flow} (h : Later d n) (h' : Later n k) : Later d k where
  protocol hp := h'.protocol (h.protocol hp)
  outline hp := (h.outline hp).trans (h'.outline (h.protocol hp))
  fins := List.Subset.trans h.fins h'.fins
  stops := List.Subset.trans h.stops h'.stops
  finals c hc := h'.finals c (h.finals c hc)
  closes c hc := h'.closes c (h.closes c hc)
  ends c hc := h'.ends c (h.ends c hc)

theorem update_stays {k : Nat → Bool} (c : Nat) {d : Nat} (h : k d = true) :
    Function.update k c true d = true := by
  rcases eq_or_ne d c with rfl | hd
  · simp
  · simpa [hd] using h

theorem finals_stay (d : Sending) (i : Input) {c : Nat} (hc : d.finals c = true) :
    (d.act i).finals c = true := by
  cases i with
  | event e => exact hc
  | initWithSend cbs early start isFinal =>
    dsimp only [Sending.act]
    split
    · exact update_stays _ hc
    · exact hc
  | send k context sid reply =>
    dsimp only [Sending.act]
    split
    · exact update_stays _ hc
    · exact hc
  | completed k status => exact hc

theorem note_stays (d : Flow) (e : Event) : d.fins ⊆ (d.note e).fins ∧
    d.stops ⊆ (d.note e).stops ∧ ∀ c, d.closes c = true → (d.note e).closes c = true := by
  cases e with
  | close c =>
    dsimp only [note]
    split
    · exact ⟨List.Subset.refl _, List.Subset.refl _, fun _ => id⟩
    · exact ⟨List.Subset.refl _, List.Subset.refl _, fun _ => update_stays c⟩
  | streamFin g sid first hasData =>
    exact ⟨List.subset_cons_self _ _, List.Subset.refl _, fun _ => id⟩
  | stopSending g sid => exact ⟨List.Subset.refl _, List.subset_cons_self _ _, fun _ => id⟩
  | _ => exact ⟨List.Subset.refl _, List.Subset.refl _, fun _ => id⟩

theorem later_step (d : Flow) (i : Input) : Later d (d.step i) := by
  refine step_keeps (I := Later d) (Later.refl d) fun hen => ?_
  have hnoted : d.fins ⊆ (d.step i).fins ∧ d.stops ⊆ (d.step i).stops ∧
      ∀ c, d.closes c = true → (d.step i).closes c = true := by
    unfold step
    rw [if_pos hen]
    cases asEvent i with
    | none => exact ⟨List.Subset.refl _, List.Subset.refl _, fun _ => id⟩
    | some e => exact note_stays d e
  have hworld : (d.world.protocol = .quic → (d.step i).world.protocol = .quic) ∧
      (d.world.protocol = .quic → d.world.outline.Extends (d.step i).world.outline) := by
    rcases act_cases hen with ⟨-, hsame⟩ | ⟨e, -, -, hstep⟩
    · rw [(step_world hen).trans hsame]
      exact ⟨id, fun _ => Outline.Extends.refl _⟩
    · rw [(step_world hen).trans hstep, World.protocol_step]
      exact ⟨id, fun hp => World.extends_step hp e⟩
  refine ⟨hworld.1, hworld.2, hnoted.1, hnoted.2.1, fun c hc => ?_, hnoted.2.2, fun c hc => ?_⟩
  · rw [step_act hen]
    exact finals_stay _ i hc
  · unfold step
    rw [if_pos hen]
    simp [endsAfter, hc]

theorem later_run (d : Flow) (is : List Input) : Later d (Lib.run step d is) :=
  Lib.run_invariant_of_step (I := Later d) (fun n i hn => hn.trans (later_step n i)) (Later.refl d) is

/-- As long as no input gives a connection a permission that it has lost: a member that has stream
`sid` does not receive after FIN on the stream, and does not send after STOP_SENDING on it, after
its FINAL message or after `ct_connection_close`, nor ever if only the peer sends on the stream. If
moreover no input closes a connection and leaves it the permission to send, it does not send from
when it began to close. -/
theorem stream_capabilities (callbacks : Nat → SendCallbacks) (is js : List Input)
    (h : Lib.AllSteps step (fun d i => d.NextStreamLocal i ∧ ¬ d.Restores d.marks i)
      (start callbacks) (is ++ js)) (g c sid : Nat)
    (hc : c ∈ (run callbacks is).world.members g)
    (hs : ((run callbacks is).world.conn c).stream = some sid) :
    ((g, sid) ∈ (run callbacks is).fins →
      ((run callbacks (is ++ js)).world.conn c).canReceive = false) ∧
    ((g, sid) ∈ (run callbacks is).stops ∨ (run callbacks is).sending.finals c = true ∨
        (run callbacks is).closes c = true ∨
        peerUnidirectional ((run callbacks (is ++ js)).world.cnx g).isClient sid = true →
      ((run callbacks (is ++ js)).world.conn c).canSend = false) ∧
    (Lib.AllSteps step (fun d i => d.NextStreamLocal i ∧ ¬ d.Restores d.endMarks i ∧
        ¬ d.sending.Unblocks i) (start callbacks) (is ++ js) →
      (run callbacks is).ends c = true →
      ((run callbacks (is ++ js)).world.conn c).canSend = false) := by
  have hlater : Later (run callbacks is) (run callbacks (is ++ js)) := by
    unfold run
    rw [Lib.run_append]
    exact later_run _ js
  have hp : (run callbacks is).world.protocol = .quic :=
    (later_run (start callbacks) is).protocol rfl
  have hext := hlater.outline hp
  have hlt : c < (run callbacks (is ++ js)).world.outline.numConns :=
    (World.lt_of_mem_members hc).trans_le hext.conns
  have hgroup : ((run callbacks (is ++ js)).world.outline.conn c).group = g :=
    (hext.group c (World.lt_of_mem_members hc)).trans (World.group_of_mem_members hc)
  have hstream : ((run callbacks (is ++ js)).world.outline.conn c).stream = some sid :=
    (hext.stream c (World.lt_of_mem_members hc) (Option.isSome_of_eq_some hs)).trans hs
  obtain ⟨-, hcapped⟩ := marks_run h
  refine ⟨fun hfin => ?_, fun hmark => ?_, fun hends hend => ?_⟩
  · refine hcapped.receive c hlt (Outline.deaf_iff.mpr ⟨sid, hstream, ?_⟩)
    rw [hgroup]
    exact hlater.fins hfin
  · refine hcapped.send c hlt (Outline.mute_iff.mpr ?_)
    rw [hgroup]
    rcases hmark with hstop | hfinal | hclose | hpeer
    · exact Or.inr ⟨sid, hstream, Or.inl (hlater.stops hstop)⟩
    · exact Or.inl (by simp [Flow.marks, hlater.finals c hfinal])
    · exact Or.inl (by simp [Flow.marks, hlater.closes c hclose])
    · exact Or.inr ⟨sid, hstream, Or.inr hpeer⟩
  · refine (endMarks_run hends).send c hlt (Outline.mute_iff.mpr (Or.inl ?_))
    simp [Flow.endMarks, hlater.ends c hend]

def clientDone : List Input :=
  [.event (.initiate {} none .begun), .event (.cnxReady 0 0), .event (.raceWon 0),
    .send 0 (some true) 0 {}, .event (.streamFin 0 0 0 true)]

def serverOfUnidirectional : List Input :=
  [.event (.listen {} {}), .event (.newCnx 0), .event (.cnxReady 0 0),
    .event (.streamData 0 2 0 true)]

theorem stream_capabilities_both :
    (((run (fun _ => {}) (clientDone ++ [.event (.cnxClosed 0 [0] false)])).world.conn 0).canReceive =
        false ∧
      ((run (fun _ => {}) (clientDone ++ [.event (.cnxClosed 0 [0] false)])).world.conn 0).canSend =
        false) ∧
    ((run (fun _ => {}) (serverOfUnidirectional ++
      [.event (.streamData 0 2 0 true), .event (.close 0)])).world.conn 0).canSend = false := by
  have hclient := stream_capabilities (fun _ => {}) clientDone [.event (.cnxClosed 0 [0] false)]
    (by decide) 0 0 0 (by decide) (by decide)
  have hserver := stream_capabilities (fun _ => {}) serverOfUnidirectional
    [.event (.streamData 0 2 0 true), .event (.close 0)] (by decide) 0 0 2 (by decide) (by decide)
  exact ⟨⟨hclient.1 (by decide), hclient.2.1 (by decide)⟩,
    hserver.2.1 (Or.inr (Or.inr (Or.inr (by decide))))⟩

def serverThen (e : Event) : List Input :=
  [.event (.listen {} {}), .event (.newCnx 0), .event (.cnxReady 0 0),
    .event (.streamData 0 0 0 true), .event e]

/-- The peer opens the unidirectional stream 2, or stream 4 with FIN. The connection made for it is
announced, and sends, or receives. -/
theorem announced_too_late :
    (peerUnidirectional false 2 = true ∧
      ((run (fun _ => {}) (serverThen (.streamData 0 2 0 true))).world.cnx 0).isClient = false ∧
      ((run (fun _ => {}) (serverThen (.streamData 0 2 0 true))).world.conn 1).stream = some 2 ∧
      ((run (fun _ => {}) (serverThen (.streamData 0 2 0 true))).world.conn 1).canSend = true) ∧
    (0, 4) ∈ (run (fun _ => {}) (serverThen (.streamFin 0 4 0 true))).fins ∧
      1 ∈ (run (fun _ => {}) (serverThen (.streamFin 0 4 0 true))).world.members 0 ∧
      ((run (fun _ => {}) (serverThen (.streamFin 0 4 0 true))).world.conn 1).stream = some 4 ∧
      ((run (fun _ => {}) (serverThen (.streamFin 0 4 0 true))).world.conn 1).canReceive = true := by
  decide

end Flow

end CTaps.Messages
