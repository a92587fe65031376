import CTaps.Connections.Reach

/-! Every call and callback keeps closed connections out of reach, unless it closes one that data can
still be handed to. -/

namespace CTaps.Connections

open Gathering (Protocol)

namespace World

variable {P : Nat → Prop} {dry : Nat → Bool} {arriving : Option Nat} {w w' : World}

/-! ### Calls -/

def EndsInReach (w : World) (dry : Nat → Bool) (arriving : Option Nat) (c : Nat) : Prop :=
  w.protocol = .udp ∧ w.numOpenDependents (w.conn c).socketManager ≠ 1 ∧ ¬ w.Deaf dry arriving c
deriving Decidable

def AbortsInReach (w : World) (dry : Nat → Bool) (arriving : Option Nat) (c : Nat)
    (refused : List Nat) : Prop :=
  w.EndsInReach dry arriving c ∨
    (w.protocol = .quic ∧ 1 < w.numActiveConnections (w.conn c).group ∧
      (w.conn c).stream.isSome = true ∧ c ∉ refused ∧ ¬ w.Deaf dry arriving c)
deriving Decidable

def GroupEndsInReach (w : World) (dry : Nat → Bool) (arriving : Option Nat) (order : List Nat) :
    Prop :=
  w.protocol = .udp ∧ ¬ Lib.AllSteps udpClose (fun w d => ¬ w.EndsInReach dry arriving d) w order
deriving Decidable

def AbortAllInReach (w : World) (dry : Nat → Bool) (arriving : Option Nat)
    (order refused : List Nat) : Prop :=
  ¬ Lib.AllSteps (fun w d => if (w.conn d).isClosed then w else w.connectionAbort d refused)
    (fun w d => (w.conn d).isClosed = false → ¬ w.AbortsInReach dry arriving d refused) w order
deriving Decidable

theorem deaf_of_not_ends {c : Nat} (h : ¬ w.EndsInReach dry arriving c) (hp : w.protocol = .udp)
    (hne : w.numOpenDependents (w.conn c).socketManager ≠ 1) : w.Deaf dry arriving c :=
  not_not.mp fun hd => h ⟨hp, hne, hd⟩

theorem Quiet.udpReport (h : Quiet P dry arriving w) (hpl : Placed w) (hp : w.protocol = .udp)
    {c : Nat} (hc : c < w.numConns) (he : ¬ w.EndsInReach dry arriving c) (r : CloseReason) :
    Quiet P dry arriving (w.reportEnd c r) := by
  refine h.report hpl hc (fun ht => ?_) (deaf_of_not_ends he hp) r
  rw [hp] at ht
  cases ht

theorem Quiet.close (h : Quiet P dry arriving w) (hpl : Placed w) {c : Nat} (hc : c < w.numConns)
    (he : (w.conn c).isClosedOrClosing = false → ¬ w.EndsInReach dry arriving c) :
    Quiet P dry arriving (w.connectionClose c) := by
  unfold connectionClose
  split
  · exact h
  · next hstate =>
    have hstate : (w.conn c).isClosedOrClosing = false := Bool.not_eq_true _ ▸ hstate
    have hclosing : Quiet P dry arriving (w.modConn c (Connection.enter .closing)) := by
      refine h.silent c (fun _ => rfl) fun x hx => ?_
      cases hx
    unfold protocolClose
    split
    · exact hclosing.uvClose _ _
    · next hp =>
      refine hclosing.udpReport (hpl.of_site (by simp)) hp hc (fun hin => he hstate ?_) _
      obtain ⟨-, hne, hdeaf⟩ := hin
      have hhome : ((w.modConn c (Connection.enter .closing)).conn c).socketManager =
          (w.conn c).socketManager := by simp [Connection.enter]
      rw [hhome, numOpenDependents_closing hstate] at hne
      refine ⟨hp, hne, fun hd => hdeaf (hd.mono rfl hhome ?_ (fun hs => ?_) id id)⟩
      · simp [Connection.enter]
      · simpa [Connection.enter] using hs
    · have hsend : Quiet P dry arriving ((w.modConn c (Connection.enter .closing)).modConn c
          fun x => { x with canSend := false }) := hclosing.silent c (fun _ => rfl) fun _ hx => hx
      unfold quicCloseConnection
      dsimp only
      split
      · exact hsend
      · exact hsend.modCnx _ id rfl

theorem Quiet.abort (h : Quiet P dry arriving w) (hpl : Placed w) {c : Nat} (hc : c < w.numConns)
    {refused : List Nat} (he : ¬ w.AbortsInReach dry arriving c refused) :
    Quiet P dry arriving (w.connectionAbort c refused) := by
  obtain ⟨hudp, hquic⟩ := not_or.mp he
  unfold connectionAbort
  split
  · exact h.uvClose _ _
  · next hp => exact h.udpReport hpl hp hc hudp _
  · next hp =>
    unfold quicAbort
    split
    · next hactive =>
      split
      · next hreset =>
        refine h.modConn (fun _ => rfl) fun _ => Or.inr (Or.inr ⟨hc, ?_⟩)
        exact not_not.mp fun hd => hquic ⟨hp, hactive, hreset.1, hreset.2, hd⟩
      · exact h
    · exact h.modCnx _ id rfl

def Lists (order : List Nat) (w : World) : Prop := Placed w ∧ ∀ d ∈ order, d < w.numConns

theorem Lists.of_site {order : List Nat} (h : Lists order w) (hs : w'.site = w.site) :
    Lists order w' := by
  have hn : w'.numConns = w.numConns := congrArg Site.numConns hs
  exact ⟨h.1.of_site hs, hn ▸ h.2⟩

theorem lists_of_perm (hpl : Placed w) {g : Nat} {order : List Nat}
    (ho : order.Perm (w.members g)) : Lists order w :=
  ⟨hpl, fun _ hd => lt_of_mem_members (ho.mem_iff.mp hd)⟩

theorem Quiet.group (h : Quiet P dry arriving w) {order : List Nat} (hl : Lists order w)
    (he : ¬ w.GroupEndsInReach dry arriving order) (g : Nat) :
    Quiet P dry arriving (w.closeGroup g order) := by
  unfold closeGroup
  split
  · refine Lib.foldl_invariant (I := Quiet P dry arriving) (fun w d _ hw => ?_) h
    split
    · exact hw
    · exact hw.uvClose _ _
  · next hp =>
    have hsteps : Lib.AllSteps udpClose (fun w d => ¬ w.EndsInReach dry arriving d) w order :=
      not_not.mp fun hs => he ⟨hp, hs⟩
    unfold udpCloseConnectionGroup
    rw [Lib.foldl_eq_run]
    refine (Lib.run_invariant (I := fun w => Quiet P dry arriving w ∧ Lists order w ∧
      w.protocol = .udp) (fun w d hw hd => ?_) ⟨h, hl, hp⟩ hsteps.and_mem).1
    obtain ⟨hq, hlist, hudp⟩ := hw
    have hsite : (w.udpClose d).site = w.site := site_udpClose w d
    refine ⟨hq.udpReport hlist.1 hudp (hlist.2 d hd.2) hd.1 _, hlist.of_site hsite, ?_⟩
    rw [← hudp]
    exact congrArg Site.protocol hsite
  · exact h.modCnx g id rfl

theorem Quiet.abortMembers (h : Quiet P dry arriving w) {order refused : List Nat}
    (hl : Lists order w) (he : ¬ w.AbortAllInReach dry arriving order refused) :
    Quiet P dry arriving (w.abortAll order refused) := by
  unfold abortAll
  rw [Lib.foldl_eq_run]
  refine (Lib.run_invariant (I := fun w => Quiet P dry arriving w ∧ Lists order w)
    (fun w d hw hd => ?_) ⟨h, hl⟩ (not_not.mp he).and_mem).1
  obtain ⟨hq, hlist⟩ := hw
  split
  · exact ⟨hq, hlist⟩
  · next hstate =>
    refine ⟨hq.abort hlist.1 (hlist.2 d hd.2) (hd.1 (Bool.not_eq_true _ ▸ hstate)), ?_⟩
    exact hlist.of_site (site_connectionAbort w d refused)

theorem Quiet.listenerClosing (h : Quiet P dry arriving w) (hpl : Placed w) (s : Nat) :
    Quiet P dry arriving (w.listenerClose s) := by
  unfold listenerClose
  split
  · exact h.uvClose s _
  · next hp => exact h.listenerClosed hpl fun ht => absurd ht hp

theorem Quiet.send (h : Quiet P dry arriving w) {c : Nat} (hc : c < w.numConns) (isFinal : Bool)
    (sid : Nat) : Quiet P dry arriving (w.sendMessage c isFinal sid) := by
  have hsent : Quiet P dry arriving (w.modConn c fun x => { x with canSend := !isFinal }) :=
    h.silent c (fun _ => rfl) fun _ hx => hx
  unfold sendMessage
  split
  · dsimp only
    split
    · refine hsent.takeStream hc ?_ (fun _ => rfl) (fun _ => rfl) (fun _ => rfl) (fun _ => rfl)
      rfl
    · exact hsent
  · exact h

theorem Quiet.freed (h : Quiet P dry arriving w) (c : Nat) :
    Quiet P dry arriving (w.connectionFree c) := by
  refine Quiet.modSm ?_ _ id rfl
  exact h.silent c (fun _ => rfl) fun _ hx => hx

theorem Quiet.clone (h : Quiet P dry arriving w) (hpl : Placed w) (c : Nat) :
    Quiet P dry arriving (w.cloneConnection c) := by
  unfold cloneConnection
  split
  · exact (h.withSocketManager hpl rfl).withConnection ConnState.noConfusion
  · exact ((h.withSocketManager hpl rfl).withConnection ConnState.noConfusion).ready _
  · exact (h.withConnection ConnState.noConfusion).ready _

theorem Quiet.closeTcp (h : Quiet P dry arriving w) (hpl : Placed w) (hp : w.protocol = .tcp)
    {c : Nat} (hc : c < w.numConns) : Quiet P dry arriving (w.connectionClose c) := by
  refine h.close hpl hc fun _ hin => ?_
  cases hp.symm.trans hin.1

theorem Quiet.refused (h : Quiet P dry arriving w) (hpl : Placed w) (hp : w.protocol = .tcp)
    {c : Nat} (hc : c < w.numConns) : Quiet P dry arriving (w.refuse c) :=
  Quiet.silent (h.closeTcp hpl hp hc) c (fun _ => rfl) fun _ hx => hx

theorem numOpenDependents_addClient (hpl : Placed w) (cbs : UserCallbacks) {m : SocketManager}
    (hm : m.allConnections = []) (hl : m.listener = none) (early : Option Nat) :
    (w.addClient cbs m early).numOpenDependents w.numSms = 1 := by
  set x : Connection :=
    { role := .client, group := w.numGroups, socketManager := w.numSms, owner := .race,
      callbacks := cbs, stream := early }
  set w' := (w.addGroup
    { streamCtx := (early.map fun sid => (sid, w.numConns)).toList }).addSocketManager m
  have hpl' : Placed w' := (hpl.withGroup _).withSocketManager hm
  have hone : (w'.addConnection x).numOpenDependents w.numSms = w'.numOpenDependents w.numSms + 1 :=
    numOpenDependents_addConnection hpl' (x := x) ConnState.noConfusion
  have hzero : w'.numOpenDependents w.numSms = 0 := by
    simp [w', numOpenDependents, SocketManager.listenerOpen, hm, hl]
  rw [hzero] at hone
  exact hone

theorem Quiet.initiated (h : Quiet P dry arriving w) (hpl : Placed w) (cbs : UserCallbacks)
    (early : Option Nat) (start : Start) : Quiet P dry arriving (w.initiate cbs early start) := by
  obtain ⟨m, stream, hcases, -, hm⟩ := w.initiate_cases cbs early start
  have hclient := h.client hpl cbs hm.demuxTable stream
  have hplaced := placed_addClient hpl cbs hm.connections stream
  have hlt : w.numConns < (w.addClient cbs m stream).numConns := Nat.lt_succ_self _
  obtain he | ⟨-, he⟩ | ⟨-, ⟨hp, he⟩ | ⟨hp, he⟩⟩ := hcases <;> rw [he]
  · exact hclient
  · exact hclient.ready _
  · exact hclient.refused hplaced hp hlt
  · refine hclient.report hplaced hlt (fun ht => ?_) (fun hne => absurd ?_ hne) _
    · cases hp.symm.trans ht
    · rw [addClient_conn]
      exact numOpenDependents_addClient hpl cbs hm.connections hm.listener stream

/-! ### Callbacks of libuv -/

theorem Quiet.connect (h : Quiet P dry arriving w) (hpl : Placed w) (hp : w.protocol = .tcp)
    (ht : TcpPlaced w) (s : Nat) (ok readStarted : Bool) :
    Quiet P dry arriving (w.connected s ok readStarted) := by
  set w' := w.modSm s fun m => { m with connectPending := none }
  have h' : Quiet P dry arriving w' := h.modSm s id rfl
  have hpl' : Placed w' := hpl.of_site (site_modSm w s fun _ => rfl)
  unfold connected
  split
  · next cb c _ hc =>
    have hlt : c < w'.numConns := ht.lt s c hc
    dsimp only
    split
    · split
      · exact h'.ready c
      · exact h
    · split
      · exact h'.uvClose s _
      · exact h'
    · split
      · split
        · exact h'.ready c
        · exact h'.closeTcp hpl' hp hlt
      · exact h
    · exact h'.refused hpl' hp hlt
  · exact h

theorem Quiet.accept (h : Quiet P dry arriving w) (hpl : Placed w) (s : Nat) :
    Quiet P dry arriving (w.newStreamConnectionCb s true) := by
  rw [newStreamConnectionCb_started]
  split
  · split
    · have hnew := (h.withGroup hpl (x := { isClient := false }) rfl).withSocketManager
        (hpl.withGroup _) (m := { handle := .open, tcpConnection := some w.numConns }) rfl
      exact (hnew.withConnection ConnState.noConfusion).received s _
    · exact h
  · exact h

theorem Quiet.withDemux (h : Quiet P dry arriving w) {s c : Nat} (hc : c < w.numConns)
    (hs : (w.conn c).socketManager = s) (addr : Nat) :
    Quiet P dry arriving (w.modSm s fun m => { m with demuxTable := (addr, c) :: m.demuxTable }) := by
  set w' := w.modSm s fun m => { m with demuxTable := (addr, c) :: m.demuxTable }
  have hhandle : ∀ t, (w'.sm t).handle = (w.sm t).handle := Lib.update_keeps SocketManager.handle rfl
  refine h.keep rfl (Nat.le_refl _) (fun _ _ => ⟨rfl, rfl, id⟩) (fun d _ hd => ?_)
    (fun _ _ hs => hs) (fun _ hd => Or.inr (Or.inl hd)) (fun _ _ _ hs => Or.inl hs)
    (fun t a d hd => ?_)
  · unfold readable at hd ⊢
    rw [hhandle]
    exact hd
  · by_cases ht : t = s
    · subst ht
      have hlook : ((addr, c) :: (w.sm t).demuxTable).lookup a = some d := by
        simpa [w'] using hd
      by_cases ha : a = addr
      · subst ha
        rw [List.lookup_cons_self] at hlook
        obtain rfl := Option.some.inj hlook
        exact Or.inr ⟨hc, hs⟩
      · rw [List.lookup_cons, beq_false_of_ne ha] at hlook
        exact Or.inl hlook
    · refine Or.inl ?_
      simpa [w', ht] using hd

theorem Quiet.datagram (h : Quiet P dry arriving w) (hpl : Placed w) (s addr : Nat) :
    Quiet P dry arriving (w.udpMultiplexReceivedMessage s addr) := by
  unfold udpMultiplexReceivedMessage
  split
  · split
    · refine Quiet.received (Quiet.withDemux ?_ (Nat.lt_succ_self _) ?_ addr) s _
      · exact (h.withGroup hpl rfl).withConnection ConnState.noConfusion
      · simp
    · exact h
  · exact h

theorem Quiet.handle (h : Quiet P dry none w) (hpl : Placed w)
    (ht : w.protocol = .tcp → TcpPlaced w) (s : Nat) : Quiet P dry none (w.handleClosed s) := by
  have hmark : Quiet P dry none (w.markHandleClosed s) := by
    refine h.modSm s (fun _ => ?_) rfl
    simp [Handle.reads]
  have hplm : Placed (w.markHandleClosed s) := hpl.of_site (site_markHandleClosed w s)
  have hshut : (w.markHandleClosed s).readable s = false := by simp [readable, Handle.reads]
  have hend := w.handleEnd s
  generalize w.handleClosed s = w' at hend ⊢
  cases hend with
  | idle => exact h
  | @report _ c r hp _ _ hc =>
    have hout : (w.markHandleClosed s).readable ((w.markHandleClosed s).conn c).socketManager =
        false := by
      rw [markHandleClosed_conn, (ht hp).home s c hc]
      exact hshut
    refine hmark.report hplm ((ht hp).lt s c hc) (fun _ => ⟨hout, rfl⟩) (fun _ => ?_) r
    exact Or.inl ⟨hout, (Option.some_ne_none c).symm⟩
  | listener _ _ _ => exact hmark.listenerClosed hplm fun _ => ⟨hshut, rfl⟩
  | socket _ _ _ => exact hmark.closedSocket hplm hshut rfl
  | poll _ =>
    refine h.modSm s (fun _ => ?_) rfl
    simp [Handle.reads]
  | discarded _ => exact hmark

/-! ### Callbacks of picoquic -/

theorem Quiet.bind (h : Quiet P dry arriving w) {g sid c : Nat} (hc : c < w.numConns)
    (hg : (w.conn c).group = g) : Quiet P dry arriving (w.bindStream g sid c) :=
  h.takeStream hc hg (fun _ => rfl) (fun _ => rfl) (fun _ => rfl) (fun _ => rfl)

theorem Quiet.withStream (h : Quiet P dry arriving w) {g first : Nat}
    (hg : (w.conn first).group = g) (sid : Nat) :
    Quiet P dry arriving (w.withStream g sid first) := by
  refine (h.withConnection ConnState.noConfusion).bind (Nat.lt_succ_self _) ?_
  simpa [Connection.cloneOf] using hg

theorem Quiet.fin (h : Quiet P dry arriving w) (hpl : Placed w) (hp : w.protocol = .quic) {c : Nat}
    (hc : c < w.numConns) (hst : (w.conn c).stream.isSome = true) (hdry : dry c = true) :
    Quiet P dry arriving (w.handleStreamFin c) := by
  have hdone : Quiet P dry arriving (w.modConn c fun x => { x with canReceive := false }) :=
    h.silent c (fun _ => rfl) fun _ hx => hx
  obtain heq | heq | ⟨-, -, heq⟩ := w.handleStreamFin_cases c
  · rw [heq]
    exact hdone
  · rw [heq]
    exact hdone.modCnx _ id rfl
  · rw [heq]
    refine hdone.report (hpl.of_site (site_modConn w c fun _ => rfl)) hc (fun ht => ?_)
      (fun _ => Or.inr ⟨hp, Or.inr ⟨?_, hdry⟩⟩) _
    · cases hp.symm.trans ht
    · simpa using hst

theorem Quiet.announce (h : Quiet P dry arriving w) (isNew : Bool) (c : Nat) :
    Quiet P dry arriving (w.announceIf isNew c) := by
  unfold announceIf
  split
  · exact h.ready c
  · exact h

theorem Quiet.ended (h : Quiet P dry arriving w) (hpl : Placed w) (hp : w.protocol = .quic)
    {g : Nat} {order : List Nat} (ho : order.Perm (w.members g)) (error : Bool) :
    Quiet P dry arriving (w.cnxClosed g order error) := by
  have hclosed : Quiet P dry arriving (w.modCnx g fun x => { x with closed := true }) :=
    h.modCnx g (fun _ => rfl) rfl
  have hmem : ∀ d ∈ order, d < w.numConns ∧ (w.conn d).group = g := fun d hd =>
    ⟨lt_of_mem_members (ho.mem_iff.mp hd), group_of_mem_members (ho.mem_iff.mp hd)⟩
  -- reports move no connection and do not touch the QUIC connection
  let I (w' : World) : Prop :=
    Quiet P dry arriving w' ∧ w'.site = w.site ∧ (w'.cnx g).closed = true
  have hreport : ∀ w' : World, ∀ d ∈ order, ∀ r, I w' → I (w'.reportEnd d r) := by
    rintro w' d hd r ⟨hq, hsite, hend⟩
    have hn : w'.numConns = w.numConns := congrArg Site.numConns hsite
    have hp' : w'.protocol = .quic := (congrArg Site.protocol hsite).trans hp
    have hgroup : (w'.conn d).group = g := by
      have hconn : (w'.conn d).site = (w.conn d).site := congrFun (congrArg Site.conn hsite) d
      simp only [Connection.site, Prod.mk.injEq] at hconn
      exact hconn.2.1.trans (hmem d hd).2
    refine ⟨?_, (site_reportEnd w' d r).trans hsite, ?_⟩
    · refine hq.report (hpl.of_site hsite) (hn ▸ (hmem d hd).1) (fun ht => ?_)
        (fun _ => Or.inr ⟨hp', Or.inl (hgroup ▸ hend)⟩) r
      cases hp'.symm.trans ht
    · rw [reportEnd_cnx]
      exact hend
  have hstart : I (w.modCnx g fun x => { x with closed := true }) := ⟨hclosed, rfl, by simp⟩
  unfold cnxClosed reportGroup
  refine (Lib.foldl_invariant (I := I) (fun w' d hd hw => ?_) hstart).1
  have hin : d ∈ order := List.mem_of_mem_filter hd
  cases error with
  | true => exact hreport w' d hin _ hw
  | false => exact hreport w' d hin _ hw

/-! ### Steps -/

end World

def Event.isCall : Event → Bool
  | .initiate .. | .listen .. | .close _ | .abort .. | .closeGroup .. | .abortGroup .. | .clone _
  | .send .. | .free _ | .listenerClose _ | .raceWon _ | .raceCanceled .. => true
  | .handleClosed _ | .connected .. | .readEnded .. | .accepted _ | .datagram .. | .datagramError _
  | .newCnx _ | .cnxReady .. | .streamData .. | .streamFin .. | .streamReset .. | .stopSending ..
  | .cnxClosed .. => false

namespace World

def endedStream (w : World) : Event → Option Nat
  | .streamFin g sid first _ => some (w.resolveOrCreateStreamConnection g sid first).2.1
  | .streamReset g sid => w.streamCtx g sid
  | _ => none

def LeavesInReach (w : World) (dry : Nat → Bool) (arriving : Option Nat) : Event → Prop
  | .close c => (w.conn c).isClosedOrClosing = false ∧ w.EndsInReach dry arriving c
  | .abort c refused => w.AbortsInReach dry arriving c refused
  | .closeGroup _ order => w.GroupEndsInReach dry arriving order
  | .abortGroup _ order refused => w.AbortAllInReach dry arriving order refused
  | .raceCanceled c order =>
    (w.modConn c fun x => { x with owner := .canceledRace }).GroupEndsInReach dry arriving order
  | _ => False

theorem Quiet.streamEvent (h : Quiet P dry arriving w) {g first : Nat}
    (hfirst : first ∈ w.members g) (sid : Nat) :
    Quiet P dry arriving (w.resolveOrCreateStreamConnection g sid first).1 := by
  have hlt := lt_of_mem_members hfirst
  have hg := group_of_mem_members hfirst
  obtain ⟨c, -, heq⟩ | ⟨-, -, heq⟩ | ⟨-, -, heq⟩ := w.resolveOrCreate_cases g sid first
  · rw [heq]
    exact h
  · rw [heq]
    exact h.withStream hg sid
  · rw [heq]
    exact h.bind hlt hg

theorem Quiet.finEvent (h : Quiet P dry arriving w) (hpl : Placed w) (hp : w.protocol = .quic)
    {g sid first : Nat} (hfirst : first ∈ w.members g)
    (hdry : dry (w.resolveOrCreateStreamConnection g sid first).2.1 = true) (hasData : Bool) :
    Quiet P dry arriving (w.streamFin g sid first hasData) := by
  have hlt := lt_of_mem_members hfirst
  have hg := group_of_mem_members hfirst
  have hstream := h.streamEvent hfirst sid
  unfold streamFin
  obtain ⟨c, hctx, heq⟩ | ⟨-, -, heq⟩ | ⟨-, -, heq⟩ := w.resolveOrCreate_cases g sid first
  all_goals rw [heq] at hdry hstream ⊢; dsimp only; split
  · exact h
  · obtain ⟨hc, -, hst⟩ := h.ctx g sid c hctx
    exact (h.fin hpl hp hc hst hdry).announce _ _
  · exact hstream
  · have hplaced : Placed (w.withStream g sid first) :=
      (hpl.withClone hlt).of_site (site_bindStream _ g sid _)
    refine Quiet.announce (hstream.fin hplaced hp (Nat.lt_succ_self _) ?_ hdry) _ _
    simp [bindStream]
  · exact hstream
  · refine Quiet.announce (hstream.fin (hpl.of_site (by simp)) hp hlt ?_ hdry) _ _
    simp [bindStream]

theorem Quiet.step (h : Quiet P dry arriving w) (hpl : Placed w)
    (ht : w.protocol = .tcp → TcpPlaced w) {e : Event} (he : ¬ w.LeavesInReach dry arriving e)
    (ha : e.isCall = false → arriving = none) (hdry : ∀ c ∈ w.endedStream e, dry c = true) :
    Quiet P dry arriving (w.step e) := by
  refine step_keeps h fun hen => ?_
  cases e with
  | initiate cbs early start => exact h.initiated hpl cbs early start
  | listen l cbs => exact h.withSocketManager hpl rfl
  | close c => exact h.close hpl (lt_of_held hen) fun hs hin => he ⟨hs, hin⟩
  | abort c refused => exact h.abort hpl (lt_of_held hen) he
  | closeGroup c order => exact h.group (lists_of_perm hpl (of_decide_eq_true hen).2) he _
  | abortGroup c order refused =>
    exact h.abortMembers (lists_of_perm hpl (of_decide_eq_true hen).2) he
  | clone c => exact h.clone hpl c
  | send c isFinal sid => exact h.send (lt_of_held hen) isFinal sid
  | free c => exact h.freed c
  | listenerClose s => exact h.listenerClosing hpl s
  | raceWon c =>
    dsimp only [act, handOver]
    exact h.silent c (fun _ => rfl) fun _ hx => hx
  | raceCanceled c order =>
    have howner : Quiet P dry arriving (w.modConn c fun x => { x with owner := .canceledRace }) :=
      h.silent c (fun _ => rfl) fun _ hx => hx
    have hlists := lists_of_perm hpl (of_decide_eq_true hen).2.2
    exact howner.group (hlists.of_site (site_modConn w c fun _ => rfl)) he _
  | handleClosed s =>
    obtain rfl := ha rfl
    exact h.handle hpl ht s
  | connected s ok readStarted =>
    have hp : w.protocol = .tcp := of_decide_eq_true hen
    exact h.connect hpl hp (ht hp) s ok readStarted
  | readEnded s e =>
    dsimp only [act, tcpOnRead]
    split
    · split <;> exact h.uvClose s _
    · exact h
  | accepted s => exact h.accept hpl s
  | datagram s addr => exact h.datagram hpl s addr
  | datagramError s =>
    dsimp only [act, udpReadError]
    split
    · exact h.uvClose s _
    · exact h
  | newCnx s =>
    dsimp only [act, World.newCnx]
    split
    · split
      · exact (h.withGroup hpl rfl).withConnection ConnState.noConfusion
      · exact h
    · exact h
  | cnxReady g first =>
    have hready : Quiet P dry arriving (w.modCnx g fun x => { x with ready := true }) :=
      h.modCnx g id rfl
    dsimp only [act, World.cnxReady]
    split
    · exact hready.received _ _
    · exact hready.ready _
  | streamData g sid first hasData =>
    have hstream := h.streamEvent (of_decide_eq_true hen).2 sid
    dsimp only [act, World.streamData]
    split
    · exact hstream
    · exact hstream.announce _ _
  | streamFin g sid first hasData =>
    obtain ⟨⟨hp, -, -⟩, hfirst⟩ := of_decide_eq_true hen
    exact h.finEvent hpl hp hfirst (hdry _ rfl) hasData
  | streamReset g sid =>
    obtain ⟨hp, -, -⟩ := of_decide_eq_true hen
    dsimp only [act, World.streamReset]
    split
    · next c hctx =>
      -- the connection is closed beside others, but the peer sends nothing more on its stream
      obtain ⟨hc, -, hst⟩ := h.ctx g sid c hctx
      refine h.report hpl hc (fun htcp => ?_)
        (fun _ => Or.inr ⟨hp, Or.inr ⟨hst, hdry c hctx⟩⟩) _
      cases hp.symm.trans htcp
    · exact h
  | stopSending g sid =>
    dsimp only [act, World.stopSending]
    split
    · exact h.silent _ (fun _ => rfl) fun _ hx => hx
    · exact h
  | cnxClosed g order error =>
    obtain ⟨hp, -, ho⟩ := of_decide_eq_true hen
    exact h.ended hpl hp ho error

theorem quiet_init (p : Protocol) (dry : Nat → Bool) :
    Quiet (fun _ => False) dry none { protocol := p } := by
  constructor
  · rintro c (hc | hc)
    · exact hc.elim
    · cases hc
  · intro g sid c hc
    cases hc
  · intro s addr c hc
    cases hc

instance (w : World) (dry : Nat → Bool) (arriving : Option Nat) (e : Event) :
    Decidable (w.LeavesInReach dry arriving e) := by
  rcases e with ⟨⟩ <;> dsimp only [LeavesInReach] <;> infer_instance

end World

end CTaps.Connections
