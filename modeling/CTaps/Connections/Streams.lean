import CTaps.Connections.Dependents
import CTaps.Connections.Histories

/-! The histories of connections under the callbacks of picoquic. A stream whose first event
already carries FIN is the delicate one: the connection made for it is reported as closed before it
is announced as ready. -/

namespace CTaps.Connections.World

open Connection (Sound MayEnter mayEnter_of_establishing)

variable {o q : Prop} {w w' : World}

/-! ### Counting open dependents -/

theorem numOpenDependents_congr {s : Nat} (hsm : w'.sm s = w.sm s)
    (hc : ∀ c, (w'.conn c).state = (w.conn c).state) :
    w'.numOpenDependents s = w.numOpenDependents s := by
  unfold numOpenDependents Connection.isClosed
  simp only [hsm, hc]

theorem numOpenDependents_addConnection (h : Placed w) {x : Connection}
    (hx : x.state ≠ .closed) :
    (w.addConnection x).numOpenDependents x.socketManager =
      w.numOpenDependents x.socketManager + 1 := by
  have hold : ∀ c ∈ (w.sm x.socketManager).allConnections,
      ((!((w.addConnection x).conn c).isClosed) = true ↔ (!(w.conn c).isClosed) = true) := by
    intro c hc
    have hne : c ≠ w.numConns := Nat.ne_of_lt (h.lt_of_mem _ c hc)
    simp [hne]
  have hnew : (!((w.addConnection x).conn w.numConns).isClosed) = true := by
    simpa [Connection.isClosed] using hx
  unfold numOpenDependents
  simp only [addConnection_sm, Function.update_self]
  rw [List.countP_cons, List.countP_congr hold, if_pos hnew, ← Nat.add_assoc]
  rfl

/-! ### The connection of a stream -/

theorem bindStream_state (w : World) (g sid c d : Nat) :
    ((w.bindStream g sid c).conn d).state = (w.conn d).state :=
  Lib.update_keeps Connection.state (by rfl) d

theorem bindStream_history (w : World) (g sid c d : Nat) :
    ((w.bindStream g sid c).conn d).history = (w.conn d).history :=
  Lib.update_keeps Connection.history (by rfl) d

theorem AllSound.bind (h : AllSound o q w) (g sid c : Nat) : AllSound o q (w.bindStream g sid c) :=
  fun d => (h d).silent (bindStream_state w g sid c d) (bindStream_history w g sid c d)

theorem resolveOrCreate_cases (w : World) (g sid first : Nat) :
    (∃ c, w.streamCtx g sid = some c ∧
      w.resolveOrCreateStreamConnection g sid first = (w, c, false)) ∨
    (w.streamCtx g sid = none ∧ (w.conn first).stream.isSome = true ∧
      w.resolveOrCreateStreamConnection g sid first =
        ((w.addConnection ((w.conn first).cloneOf (w.conn first).socketManager)).bindStream g sid
          w.numConns, w.numConns, true)) ∨
    (w.streamCtx g sid = none ∧ (w.conn first).stream.isSome = false ∧
      w.resolveOrCreateStreamConnection g sid first = (w.bindStream g sid first, first, false)) := by
  unfold resolveOrCreateStreamConnection
  cases hctx : w.streamCtx g sid with
  | some c => exact Or.inl ⟨c, rfl, rfl⟩
  | none =>
    cases hst : (w.conn first).stream.isSome with
    | true => exact Or.inr (Or.inl ⟨rfl, rfl, rfl⟩)
    | false => exact Or.inr (Or.inr ⟨rfl, rfl, rfl⟩)

theorem AllSound.data (h : AllSound o q w) (g sid first : Nat) (hasData : Bool) :
    AllSound o q (w.streamData g sid first hasData) := by
  unfold streamData
  obtain ⟨c, -, heq⟩ | ⟨-, -, heq⟩ | ⟨-, -, heq⟩ := w.resolveOrCreate_cases g sid first
  · rw [heq]
    dsimp only [announceIf]
    split <;> exact h
  · rw [heq]
    have hnew := (h.withConnection (x := (w.conn first).cloneOf (w.conn first).socketManager)
      rfl).bind g sid w.numConns
    dsimp only [announceIf]
    split
    · exact hnew
    · refine hnew.ready ?_
      rw [bindStream_state, addConnection_conn, Function.update_self]
      exact mayEnter_of_establishing _
  · rw [heq]
    have hfirst := h.bind g sid first
    dsimp only [announceIf]
    split <;> exact hfirst

/-! ### FIN -/

theorem anyActive_of_inactive {g n : Nat} (hn : w'.numConns = w.numConns + 1)
    (hold : ∀ d, d ≠ n → w'.conn d = w.conn d) (hnew : n = w.numConns)
    (hs : (w'.conn n).canSend = false) (hr : (w'.conn n).canReceive = false)
    (h : w'.anyActive g = true) : w.anyActive g = true := by
  unfold anyActive members at h ⊢
  obtain ⟨d, hd, hactive⟩ := List.any_eq_true.mp h
  have hne : d ≠ n := by
    rintro rfl
    simp [hs, hr] at hactive
  rw [hold d hne] at hactive
  refine List.any_eq_true.mpr ⟨d, ?_, hactive⟩
  rw [List.mem_filter, List.mem_range, hold d hne, hn] at hd
  rw [List.mem_filter, List.mem_range]
  exact ⟨Nat.lt_of_le_of_ne (Nat.le_of_lt_succ hd.1) (hnew ▸ hne), hd.2⟩

def othersActive (w : World) (c : Nat) : Bool :=
  (w.members (w.conn c).group).any fun d => d ≠ c && ((w.conn d).canSend || (w.conn d).canReceive)

theorem handleStreamFin_cases (w : World) (c : Nat) :
    (w.handleStreamFin c = w.modConn c fun x => { x with canReceive := false }) ∨
    (w.handleStreamFin c = (w.modConn c fun x => { x with canReceive := false }).picoquicClose
      (w.conn c).group) ∨
    ((w.conn c).canSend = false ∧ w.othersActive c = true ∧
      w.handleStreamFin c =
        (w.modConn c fun x => { x with canReceive := false }).closedConnectionCb c) := by
  set w' := w.modConn c fun x => { x with canReceive := false }
  have hgroup : (w'.conn c).group = (w.conn c).group := by simp [w']
  have hsend : (w'.conn c).canSend = (w.conn c).canSend := by simp [w']
  by_cases hactive : w'.anyActive (w'.conn c).group = true
  · by_cases hcs : (w.conn c).canSend = true
    · left
      unfold handleStreamFin
      dsimp only
      rw [if_pos hactive, if_pos (hsend.trans hcs)]
    · right; right
      have hcs : (w.conn c).canSend = false := Bool.not_eq_true _ ▸ hcs
      refine ⟨hcs, ?_, ?_⟩
      · obtain ⟨d, hd, hdactive⟩ := List.any_eq_true.mp hactive
        have hne : d ≠ c := by
          rintro rfl
          simp [w', hcs] at hdactive
        have hmem : d ∈ w.members (w.conn c).group := by
          rw [hgroup] at hd
          simpa [members, w', hne] using hd
        refine List.any_eq_true.mpr ⟨d, hmem, ?_⟩
        simpa [w', hne] using hdactive
      · unfold handleStreamFin
        dsimp only
        rw [if_pos hactive, if_neg (by rw [hsend, hcs]; decide)]
  · right; left
    unfold handleStreamFin
    dsimp only
    rw [if_neg hactive, hgroup]

theorem AllSound.finOld (h : AllSound o q w) {c : Nat}
    (hc : q → (w.conn c).state = .closed → (w.conn c).canSend = true) :
    AllSound o q (w.handleStreamFin c) := by
  have hrecv := h.silent c (f := fun x => { x with canReceive := false })
    (fun _ => rfl) (fun _ => rfl)
  unfold handleStreamFin
  dsimp only
  split
  · split
    · exact hrecv
    · next hsend =>
      refine hrecv.report (fun hq hclosed => ?_) _
      simp only [modConn_conn, Function.update_self] at hsend hclosed
      exact hsend (hc hq hclosed)
  · exact hrecv

def withStream (w : World) (g sid first : Nat) : World :=
  (w.addConnection ((w.conn first).cloneOf (w.conn first).socketManager)).bindStream g sid w.numConns

theorem withStream_conn (w : World) (g sid first : Nat) :
    (w.withStream g sid first).conn w.numConns =
      { (w.conn first).cloneOf (w.conn first).socketManager with
        canSend := (streamCapabilities (w.cnx g).isClient sid).1
        canReceive := (streamCapabilities (w.cnx g).isClient sid).2
        stream := some sid } := by
  simp [withStream, bindStream]

theorem numOpenDependents_withStream (h : Placed w) (g sid first : Nat) :
    (w.withStream g sid first).numOpenDependents (w.conn first).socketManager =
      w.numOpenDependents (w.conn first).socketManager + 1 := by
  set x := (w.conn first).cloneOf (w.conn first).socketManager
  have hbind : (w.withStream g sid first).numOpenDependents x.socketManager =
      (w.addConnection x).numOpenDependents x.socketManager :=
    numOpenDependents_congr rfl (bindStream_state _ g sid _)
  exact hbind.trans (numOpenDependents_addConnection h ConnState.noConfusion)

def FinClosesNew (w : World) (g sid first : Nat) : Prop :=
  w.streamCtx g sid = none ∧ (w.conn first).stream.isSome = true ∧
    (streamCapabilities (w.cnx g).isClient sid).1 = false ∧ w.anyActive g = true ∧
    0 < w.numOpenDependents (w.conn first).socketManager
deriving Decidable

theorem finNew_state (hpl : Placed w) (hp : w.protocol = .quic) {g sid first : Nat}
    (hfirst : (w.conn first).group = g)
    (hfin : (streamCapabilities (w.cnx g).isClient sid).1 = false → w.anyActive g = true →
      w.numOpenDependents (w.conn first).socketManager = 0) :
    (((w.withStream g sid first).handleStreamFin w.numConns).conn w.numConns).state =
      .establishing := by
  have hconn := withStream_conn w g sid first
  unfold handleStreamFin
  set w2 := (w.withStream g sid first).modConn w.numConns fun x => { x with canReceive := false }
    with hw2
  have hn : w2.conn w.numConns = { (w.withStream g sid first).conn w.numConns with
      canReceive := false } := by simp [hw2]
  have hgroup : (w2.conn w.numConns).group = g := by
    rw [hn, hconn]
    exact hfirst
  have hhome : (w2.conn w.numConns).socketManager = (w.conn first).socketManager := by
    rw [hn, hconn]
    rfl
  have hstate : (w2.conn w.numConns).state = .establishing := by
    rw [hn, hconn]
    rfl
  dsimp only
  split
  · next hactive =>
    split
    · exact hstate
    · next hsend =>
      have hcaps : (streamCapabilities (w.cnx g).isClient sid).1 = false := by
        rw [hn, hconn] at hsend
        simpa using hsend
      have hold : w.anyActive g = true := by
        rw [hgroup] at hactive
        refine anyActive_of_inactive (n := w.numConns) rfl ?_ rfl ?_ ?_ hactive
        · intro d hd
          simp [hw2, withStream, bindStream, hd]
        · rw [hn, hconn]
          exact hcaps
        · rw [hn]
      have hopen : w2.numOpenDependents (w.conn first).socketManager = 1 := by
        have hrecv : w2.numOpenDependents (w.conn first).socketManager =
            (w.withStream g sid first).numOpenDependents (w.conn first).socketManager := by
          refine numOpenDependents_congr rfl fun d => ?_
          by_cases hd : d = w.numConns
          · subst hd
            simp [hw2]
          · simp [hw2, hd]
        rw [hrecv, numOpenDependents_withStream hpl, hfin hcaps hold]
      unfold closedConnectionCb reportEnd
      rw [hhome, if_pos hopen, socketManagerClose_conn]
      · exact hstate
      · exact fun hw => Gathering.Protocol.noConfusion (hp.symm.trans hw)
  · exact hstate

theorem AllSound.fin (h : AllSound o q w) (hpl : Placed w) (hp : w.protocol = .quic)
    {g sid first : Nat} (hfirst : (w.conn first).group = g)
    (hnew : o ∨ q → ¬ w.FinClosesNew g sid first)
    (hold : q → ∀ c, w.streamCtx g sid = some c → (w.conn c).state = .closed →
      (w.conn c).canSend = true)
    (hfree : q → w.streamCtx g sid = none → (w.conn first).stream.isSome = false →
      (w.conn first).state = .closed → (streamCapabilities (w.cnx g).isClient sid).1 = true)
    (hasData : Bool) : AllSound o q (w.streamFin g sid first hasData) := by
  unfold streamFin
  obtain ⟨c, hctx, heq⟩ | ⟨hctx, hst, heq⟩ | ⟨hctx, hst, heq⟩ := w.resolveOrCreate_cases g sid first
  · rw [heq]
    dsimp only [announceIf]
    split
    · exact h
    · exact h.finOld fun hq => hold hq c hctx
  · rw [heq]
    have hnewSound : AllSound o q (w.withStream g sid first) := (h.withConnection rfl).bind g sid _
    dsimp only [announceIf]
    split
    · exact hnewSound
    · have hstate : o ∨ q → (((w.withStream g sid first).handleStreamFin w.numConns).conn
          w.numConns).state = .establishing := by
        intro hoq
        refine finNew_state hpl hp hfirst fun hcaps hactive => Nat.eq_zero_of_not_pos fun hpos => ?_
        exact hnew hoq ⟨hctx, hst, hcaps, hactive, hpos⟩
      apply AllSound.ready
      · apply hnewSound.finOld
        intro _ hc
        rw [withStream_conn] at hc
        cases hc
      · constructor
        · intro ho
          exact (congrArg ConnState.rank (hstate (Or.inl ho))).trans_le (Nat.zero_le _)
        · intro hq hclosed
          exact absurd ((hstate (Or.inr hq)).symm.trans hclosed) (by decide)
  · rw [heq]
    have hfirstSound := h.bind g sid first
    dsimp only [announceIf]
    split
    · exact hfirstSound
    · refine hfirstSound.finOld fun hq hc => ?_
      rw [bindStream_state] at hc
      simpa [bindStream] using hfree hq hctx hst hc

/-! ### The other callbacks of picoquic -/

theorem AllSound.cnxReady (h : AllSound o q w) (g : Nat) {first : Nat}
    (hfirst : MayEnter o q (w.conn first).state .established) :
    AllSound o q (w.cnxReady g first) := by
  unfold World.cnxReady
  have h' : AllSound o q (w.modCnx g fun x => { x with ready := true }) := h
  dsimp only
  split
  · exact h'.received _ hfirst
  · exact h'.ready hfirst

theorem AllSound.cnxClosed (h : AllSound o q w) (hp : w.protocol = .quic) (g : Nat)
    {order : List Nat} (hnd : order.Nodup) (error : Bool) :
    AllSound o q (w.cnxClosed g order error) := by
  unfold World.cnxClosed reportGroup
  have h' : AllSound o q (w.modCnx g fun x => { x with closed := true }) := h
  have hopen : ∀ c ∈ order.filter fun d => !(w.conn d).isClosed, (w.conn c).state ≠ .closed := by
    intro c hc
    simpa [Connection.isClosed] using (List.mem_filter.mp hc).2
  have hne : w.protocol ≠ .tcp := by simp [hp]
  have hreports := fun r => h'.reports hne r (hnd.filter _) fun _ => hopen
  cases error with
  | true => exact hreports _
  | false => exact hreports _

theorem AllSound.reset (h : AllSound o q w) {g sid : Nat}
    (hold : q → ∀ c, w.streamCtx g sid = some c → (w.conn c).state ≠ .closed) :
    AllSound o q (w.streamReset g sid) := by
  unfold streamReset
  split
  · next c hc => exact h.report (fun hq => hold hq c hc) _
  · exact h

theorem AllSound.stop (h : AllSound o q w) (g sid : Nat) : AllSound o q (w.stopSending g sid) := by
  unfold stopSending
  split
  · next c _ =>
    exact h.silent c (f := fun x => { x with canSend := false }) (fun _ => rfl) (fun _ => rfl)
  · exact h

end CTaps.Connections.World
