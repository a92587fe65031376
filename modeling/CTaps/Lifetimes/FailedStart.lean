import Mathlib.Data.List.Nodup

/-! Connections and listeners whose protocol has failed to start. Each protocol builds its socket
state step by step, enters it in the socket manager at a moment of its own, and undoes something
else on each way out; what is left goes to its `free_socket_state` when the connection or the
listener is freed. -/

namespace CTaps.Lifetimes

inductive Part
  | handle | connectReq | initialMessageContext
  | certFileName | keyFileName | ticketStorePath | picoquicCtx | timerHandle | pollHandle
  | state
deriving DecidableEq, Repr

/-- The socket state of a socket manager. -/
structure Setup where
  /-- `internal_socket_manager_state` is not NULL. -/
  published : Bool := false
  /-- The pointers in it that are not NULL. -/
  pointers : List Part := []
  /-- What has been released, in this order. -/
  released : List Part := []
  /-- A pointer that is NULL, or to a state that is released, has been followed. -/
  fault : Bool := false
deriving DecidableEq, Repr

namespace Setup

def release (p : Part) (x : Setup) : Setup := { x with released := x.released ++ [p] }

def releaseAll (ps : List Part) (x : Setup) : Setup :=
  { x with released := x.released ++ ps.filter (· ∈ x.pointers) }

def point (p : Part) (x : Setup) : Setup := { x with pointers := x.pointers ++ [p] }

def freeState (ps : List Part) (x : Setup) : Setup :=
  let read := { x with fault := x.fault || !x.published || decide (Part.state ∈ x.released) }
  (read.releaseAll ps).release .state

def Sound (x : Setup) : Prop := x.fault = false ∧ x.released.Nodup
deriving Decidable

variable {x : Setup} {ps : List Part}

theorem sound_freeState_iff (hx : x.Sound) (hps : ps.Nodup) (hstate : Part.state ∉ ps) :
    (x.freeState ps).Sound ↔
      x.published = true ∧ Part.state ∉ x.released ∧ ∀ p ∈ ps, p ∈ x.pointers → p ∉ x.released := by
  have hread : (x.freeState ps).fault = false ↔ x.published = true ∧ Part.state ∉ x.released := by
    simp [freeState, release, releaseAll, hx.1]
  have hreleased : (x.freeState ps).released =
      x.released ++ (ps.filter (· ∈ x.pointers) ++ [Part.state]) := List.append_assoc _ _ _
  have hnodup : (ps.filter (· ∈ x.pointers) ++ [Part.state]).Nodup := by
    refine (hps.filter _).append (List.nodup_singleton _) ?_
    rw [List.disjoint_singleton]
    exact fun h => hstate (List.mem_of_mem_filter h)
  rw [Sound, hread, hreleased, List.nodup_append', and_iff_right hx.2, and_iff_right hnodup]
  constructor
  · rintro ⟨⟨hpublished, hlive⟩, hdisjoint⟩
    refine ⟨hpublished, hlive, fun p hp hpointer hreleased => ?_⟩
    refine hdisjoint hreleased (List.mem_append_left _ ?_)
    exact List.mem_filter.mpr ⟨hp, decide_eq_true hpointer⟩
  · rintro ⟨hpublished, hlive, hkept⟩
    refine ⟨⟨hpublished, hlive⟩, fun p hreleased hp => ?_⟩
    rcases List.mem_append.mp hp with hp | hp
    · obtain ⟨hp, hpointer⟩ := List.mem_filter.mp hp
      exact hkept p hp (of_decide_eq_true hpointer) hreleased
    · exact hlive (List.mem_singleton.mp hp ▸ hreleased)

structure Fresh (x : Setup) : Prop where
  published : x.published = true
  released : x.released = []
  fault : x.fault = false

theorem Fresh.point (h : x.Fresh) (p : Part) : (x.point p).Fresh :=
  ⟨h.published, h.released, h.fault⟩

theorem Fresh.sound_freeState (h : x.Fresh) (hps : ps.Nodup) (hstate : Part.state ∉ ps) :
    (x.freeState ps).Sound := by
  have hx : x.Sound := ⟨h.fault, by rw [h.released]; exact List.nodup_nil⟩
  rw [sound_freeState_iff hx hps hstate, h.released]
  exact ⟨h.published, List.not_mem_nil, fun _ _ _ => List.not_mem_nil⟩

theorem not_sound_freeState_of_released {p : Part} (hp : p ∈ ps) (hpointer : p ∈ x.pointers)
    (hreleased : p ∈ x.released) : ¬(x.freeState ps).Sound := by
  rintro ⟨_, hnodup⟩
  have hagain : p ∈ ps.filter (· ∈ x.pointers) := List.mem_filter.mpr ⟨hp, decide_eq_true hpointer⟩
  exact (List.nodup_append'.mp (List.nodup_append'.mp hnodup).1).2.2 hreleased hagain

theorem not_sound_freeState_of_state (h : Part.state ∈ x.released) : ¬(x.freeState ps).Sound := by
  rintro ⟨hfault, _⟩
  simp [freeState, release, releaseAll, h] at hfault

theorem mem_released_releaseAll {p : Part} (hp : p ∈ ps) (hpointer : p ∈ x.pointers) :
    p ∈ (x.releaseAll ps).released :=
  List.mem_append_right _ (List.mem_filter.mpr ⟨hp, decide_eq_true hpointer⟩)

theorem mem_released_release (p : Part) (x : Setup) : p ∈ (x.release p).released :=
  List.mem_append_right _ (List.mem_singleton_self p)

end Setup

def enomem : Int := -12

def eio : Int := -5

def einval : Int := -22

/-! ### UDP -/

structure UdpAnswers where
  /-- There is no local port, or the local address has one of the two families. -/
  familyKnown : Bool := true
  mallocHandle : Bool := true
  udpInit : Int := 0
  bind : Int := 0
  recvStart : Int := 0
  resolve : Int := 0
  mallocState : Bool := true

def createUdpListeningOnLocal (a : UdpAnswers) (x : Setup) : Setup × Bool :=
  if a.familyKnown = false then (x, false)
  else if a.mallocHandle = false then (x, false)
  else if a.udpInit < 0 then (x.release .handle, false)
  else if a.bind < 0 then (x.release .handle, false)
  else if a.recvStart < 0 then (x.release .handle, false)
  else (x, true)

def udpInitWithSend (a : UdpAnswers) : Setup × Int :=
  let created := createUdpListeningOnLocal a {}
  if created.2 = false then (created.1, eio)
  -- the handle is closed, and nobody has it any more
  else if a.resolve < 0 then (created.1, a.resolve)
  else ({ created.1 with published := a.mallocState, pointers := [.handle] }, 0)

def udpInit (a : UdpAnswers) : Setup × Int := udpInitWithSend a

def udpListen (a : UdpAnswers) : Setup × Int :=
  let created := createUdpListeningOnLocal a {}
  if created.2 = false then (created.1, eio)
  else ({ created.1 with published := a.mallocState, pointers := [.handle] }, 0)

/-- The state is read without a look whether there is one, and that is the end of it. -/
def udpFreeSocketState (x : Setup) : Setup :=
  if x.published then x.freeState [.handle] else { x with fault := true }

/-! ### TCP -/

structure TcpAnswers where
  mallocHandle : Bool := true
  tcpInit : Int := 0
  mallocConnectReq : Bool := true
  mallocState : Bool := true
  connect : Int := 0
  resolve : Int := 0
  bind : Int := 0
  listen : Int := 0

/-- The state with its pointers; `context` says whether there is an initial message context. -/
def tcpSocketStateNew (connectReq context : Bool) : Setup :=
  { published := true
    pointers := (if connectReq then [.connectReq] else []) ++
      (if context then [.initialMessageContext] else []) ++ [.handle] }

/-- From `uv_tcp_connect` on. `ct_connection_close` starts to close the handle. -/
def tcpConnect (a : TcpAnswers) (x : Setup) : Setup × Int :=
  -- the state keeps its pointer to the request
  if a.connect < 0 then (if a.mallocConnectReq then x.release .connectReq else x, a.connect)
  else if a.resolve < 0 then (x, a.resolve)
  else (x, 0)

def tcpInitWithSend (context : Bool) (a : TcpAnswers) : Setup × Int :=
  if a.mallocHandle = false then ({}, enomem)
  else if a.tcpInit < 0 then (Setup.release .handle {}, a.tcpInit)
  -- the request is not released here
  else if a.mallocState = false then ({}, enomem)
  else tcpConnect a (tcpSocketStateNew a.mallocConnectReq context)

def tcpInit (a : TcpAnswers) : Setup × Int :=
  if a.mallocHandle = false then ({}, enomem)
  else if a.tcpInit < 0 then (Setup.release .handle {}, a.tcpInit)
  else if a.mallocState = false then
    (if a.mallocConnectReq then Setup.release .connectReq {} else {}, enomem)
  else tcpConnect a (tcpSocketStateNew a.mallocConnectReq false)

def tcpListen (a : TcpAnswers) : Setup × Int :=
  if a.mallocHandle = false then ({}, enomem)
  else if a.tcpInit < 0 then (Setup.release .handle {}, a.tcpInit)
  else if a.bind < 0 then (Setup.release .handle {}, a.bind)
  else if a.listen < 0 then (Setup.release .handle {}, a.listen)
  else (if a.mallocState then tcpSocketStateNew false false else {}, 0)

def tcpFreeSocketState (x : Setup) : Setup :=
  let x := if x.published then x.freeState [.connectReq, .initialMessageContext, .handle] else x
  { x with published := false }

/-! ### QUIC -/

structure QuicAnswers where
  securityParameters : Bool := true
  certificateCount : Nat := 1
  certFile : Bool := true
  keyFile : Bool := true
  mallocState : Bool := true
  dupCertFile : Bool := true
  dupKeyFile : Bool := true
  ticketStorePath : Bool := false
  dupTicketStorePath : Bool := true
  numAlpns : Nat := 1
  picoquicCreate : Bool := true
  mallocTimer : Bool := true
  timerInit : Int := 0
  pollHandle : Bool := true
  groupState : Bool := true
  streamState : Bool := true

def fileNames : List Part := [.ticketStorePath, .keyFileName, .certFileName]

/-- `ct_quic_socket_state_new` from the ALPN strings on. -/
def quicSocketStateRest (a : QuicAnswers) (x : Setup) : Setup × Bool :=
  -- the one exit that leaves the state itself
  if a.numAlpns = 0 then (x.releaseAll fileNames, false)
  else if a.picoquicCreate = false then ((x.releaseAll fileNames).release .state, false)
  else
    let x := x.point .picoquicCtx
    if a.mallocTimer = false then ((x.releaseAll (.picoquicCtx :: fileNames)).release .state, false)
    else
      let x := x.point .timerHandle
      if a.timerInit < 0 then
        ((x.releaseAll (.timerHandle :: .picoquicCtx :: fileNames)).release .state, false)
      else (x, true)

/-- `ct_quic_socket_state_new` from where the socket manager has the state. -/
def quicSocketStatePublished (a : QuicAnswers) : Setup × Bool :=
  let x : Setup := { published := true, pointers := [.certFileName, .keyFileName] }
  if a.ticketStorePath = false then quicSocketStateRest a x
  else if a.dupTicketStorePath = false then
    ((x.releaseAll [.keyFileName, .certFileName]).release .state, false)
  else quicSocketStateRest a (x.point .ticketStorePath)

def quicSocketStateNew (a : QuicAnswers) : Setup × Bool :=
  if a.certFile = false ∨ a.keyFile = false ∨ a.securityParameters = false then ({}, false)
  else if a.mallocState = false then ({}, false)
  else if a.dupCertFile = false then (Setup.release .state {}, false)
  else if a.dupKeyFile = false then ((Setup.release .certFileName {}).release .state, false)
  else quicSocketStatePublished a

def withQuicContext (a : QuicAnswers) (rest : Setup → Setup × Int) : Setup × Int :=
  if a.securityParameters = false then ({}, einval)
  else if a.certificateCount = 0 then ({}, einval)
  else if a.certFile = false ∨ a.keyFile = false then ({}, einval)
  else
    let created := quicSocketStateNew a
    if created.2 = false then (created.1, eio) else rest created.1

/-- Every later failure is reported by `aborted_connection`, and 0 is returned. -/
def quicInit (a : QuicAnswers) : Setup × Int :=
  withQuicContext a fun x => (if a.pollHandle then x.point .pollHandle else x, 0)

def quicInitWithSend (a : QuicAnswers) : Setup × Int :=
  withQuicContext a fun x =>
    if a.pollHandle = false then (x, 0)
    else if a.groupState = false then (x.point .pollHandle, 0)
    else if a.streamState = false then (x.point .pollHandle, enomem)
    else (x.point .pollHandle, 0)

def quicListen (a : QuicAnswers) : Setup × Int :=
  withQuicContext a fun x =>
    if a.pollHandle = false then (x, eio) else (x.point .pollHandle, 0)

def quicFreeSocketState (x : Setup) : Setup :=
  if x.published then
    x.freeState
      [.picoquicCtx, .pollHandle, .timerHandle, .certFileName, .ticketStorePath, .keyFileName]
  else x

/-! ### Starting and freeing -/

/-- A call of a protocol's `init`, `init_with_send` or `listen`, with what it is answered. -/
inductive Start
  | udpInit (a : UdpAnswers)
  | udpInitWithSend (a : UdpAnswers)
  | udpListen (a : UdpAnswers)
  | tcpInit (a : TcpAnswers)
  | tcpInitWithSend (context : Bool) (a : TcpAnswers)
  | tcpListen (a : TcpAnswers)
  | quicInit (a : QuicAnswers)
  | quicInitWithSend (a : QuicAnswers)
  | quicListen (a : QuicAnswers)

def Start.result : Start → Setup × Int
  | .udpInit a => Lifetimes.udpInit a
  | .udpInitWithSend a => Lifetimes.udpInitWithSend a
  | .udpListen a => Lifetimes.udpListen a
  | .tcpInit a => Lifetimes.tcpInit a
  | .tcpInitWithSend context a => Lifetimes.tcpInitWithSend context a
  | .tcpListen a => Lifetimes.tcpListen a
  | .quicInit a => Lifetimes.quicInit a
  | .quicInitWithSend a => Lifetimes.quicInitWithSend a
  | .quicListen a => Lifetimes.quicListen a

/-- `free_socket_state` of the protocol, as the last reference to the socket manager calls it. -/
def Start.freeSocketState : Start → Setup → Setup
  | .udpInit _ | .udpInitWithSend _ | .udpListen _ => udpFreeSocketState
  | .tcpInit _ | .tcpInitWithSend _ _ | .tcpListen _ => tcpFreeSocketState
  | .quicInit _ | .quicInitWithSend _ | .quicListen _ => quicFreeSocketState

def Start.freed (s : Start) : Setup := s.freeSocketState s.result.1

def TcpAnswers.Refused (a : TcpAnswers) : Prop :=
  a.mallocHandle = true ∧ 0 ≤ a.tcpInit ∧ a.mallocState = true ∧ a.mallocConnectReq = true ∧
    a.connect < 0

def QuicAnswers.Publishes (a : QuicAnswers) : Prop :=
  a.securityParameters = true ∧ a.certificateCount ≠ 0 ∧ a.certFile = true ∧ a.keyFile = true ∧
    a.mallocState = true ∧ a.dupCertFile = true ∧ a.dupKeyFile = true

def QuicAnswers.Completes (a : QuicAnswers) : Prop :=
  (a.ticketStorePath = true → a.dupTicketStorePath = true) ∧ a.numAlpns ≠ 0 ∧
    a.picoquicCreate = true ∧ a.mallocTimer = true ∧ 0 ≤ a.timerInit

def Start.Clean : Start → Prop
  | .udpInit _ | .udpInitWithSend _ | .udpListen _ => False
  | .tcpInit a | .tcpInitWithSend _ a => ¬a.Refused
  | .tcpListen _ => True
  | .quicInit a | .quicInitWithSend a | .quicListen a => a.Publishes → a.Completes

section Udp

variable {a : UdpAnswers}

theorem createUdpListeningOnLocal_published (x : Setup) :
    (createUdpListeningOnLocal a x).1.published = x.published := by
  unfold createUdpListeningOnLocal
  split_ifs <;> rfl

theorem not_sound_udpFreeSocketState {x : Setup} (h : x.published = false) :
    ¬(udpFreeSocketState x).Sound := by
  rw [udpFreeSocketState, h]
  exact fun hsound => Bool.false_ne_true hsound.1.symm

theorem udpInitWithSend_unpublished (h : (udpInitWithSend a).2 ≠ 0) :
    (udpInitWithSend a).1.published = false := by
  unfold udpInitWithSend at h ⊢
  dsimp only at h ⊢
  split_ifs at h ⊢
  · exact createUdpListeningOnLocal_published {}
  · exact createUdpListeningOnLocal_published {}
  · exact absurd rfl h

theorem udpListen_unpublished (h : (udpListen a).2 ≠ 0) : (udpListen a).1.published = false := by
  unfold udpListen at h ⊢
  dsimp only at h ⊢
  split_ifs at h ⊢
  · exact createUdpListeningOnLocal_published {}
  · exact absurd rfl h

end Udp

section Tcp

variable {a : TcpAnswers}

theorem fresh_tcpSocketStateNew (connectReq context : Bool) :
    (tcpSocketStateNew connectReq context).Fresh :=
  ⟨rfl, rfl, rfl⟩

theorem Setup.Fresh.sound_tcpFree {x : Setup} (h : x.Fresh) : (tcpFreeSocketState x).Sound := by
  rw [tcpFreeSocketState, if_pos h.published]
  exact h.sound_freeState (by decide) (by decide)

theorem sound_freed_tcpConnect_iff (context : Bool)
    (h : (tcpConnect a (tcpSocketStateNew a.mallocConnectReq context)).2 ≠ 0) :
    (tcpFreeSocketState (tcpConnect a (tcpSocketStateNew a.mallocConnectReq context)).1).Sound ↔
      ¬(a.mallocConnectReq = true ∧ a.connect < 0) := by
  have hfresh := fresh_tcpSocketStateNew a.mallocConnectReq context
  unfold tcpConnect at h ⊢
  split_ifs at h ⊢ with hconnect hreq hresolve
  · refine iff_of_false ?_ (not_not.mpr ⟨hreq, hconnect⟩)
    have hpointer : Part.connectReq ∈ (Setup.release .connectReq
        (tcpSocketStateNew a.mallocConnectReq context)).pointers := by
      rw [hreq]
      exact List.mem_cons_self
    exact Setup.not_sound_freeState_of_released List.mem_cons_self hpointer
      (Setup.mem_released_release _ _)
  · exact iff_of_true hfresh.sound_tcpFree fun hboth => hreq hboth.1
  · exact iff_of_true hfresh.sound_tcpFree fun hboth => hconnect hboth.2
  · exact absurd rfl h

theorem refused_iff (hhandle : ¬a.mallocHandle = false) (hinit : ¬a.tcpInit < 0)
    (hstate : ¬a.mallocState = false) :
    a.Refused ↔ a.mallocConnectReq = true ∧ a.connect < 0 := by
  rw [TcpAnswers.Refused, and_iff_right (eq_true_of_ne_false hhandle),
    and_iff_right (Int.not_lt.mp hinit), and_iff_right (eq_true_of_ne_false hstate)]

theorem sound_freed_tcpInitWithSend_iff (context : Bool) (h : (tcpInitWithSend context a).2 ≠ 0) :
    (tcpFreeSocketState (tcpInitWithSend context a).1).Sound ↔ ¬a.Refused := by
  unfold tcpInitWithSend at h ⊢
  split_ifs at h ⊢ with hhandle hinit hstate
  · refine iff_of_true (by decide) fun hrefused => ?_
    exact Bool.false_ne_true (hhandle.symm.trans hrefused.1)
  · refine iff_of_true (show (tcpFreeSocketState (Setup.release .handle {})).Sound by decide) ?_
    exact fun hrefused => Int.not_lt.mpr hrefused.2.1 hinit
  · refine iff_of_true (by decide) fun hrefused => ?_
    exact Bool.false_ne_true (hstate.symm.trans hrefused.2.2.1)
  · rw [sound_freed_tcpConnect_iff context h, refused_iff hhandle hinit hstate]

theorem sound_freed_tcpInit_iff (h : (tcpInit a).2 ≠ 0) :
    (tcpFreeSocketState (tcpInit a).1).Sound ↔ ¬a.Refused := by
  unfold tcpInit at h ⊢
  split_ifs at h ⊢ with hhandle hinit hstate hreq
  · refine iff_of_true (by decide) fun hrefused => ?_
    exact Bool.false_ne_true (hhandle.symm.trans hrefused.1)
  · refine iff_of_true (show (tcpFreeSocketState (Setup.release .handle {})).Sound by decide) ?_
    exact fun hrefused => Int.not_lt.mpr hrefused.2.1 hinit
  · refine iff_of_true (by decide) fun hrefused => ?_
    exact Bool.false_ne_true (hstate.symm.trans hrefused.2.2.1)
  · refine iff_of_true (by decide) fun hrefused => ?_
    exact Bool.false_ne_true (hstate.symm.trans hrefused.2.2.1)
  · rw [sound_freed_tcpConnect_iff false h, refused_iff hhandle hinit hstate]

theorem sound_freed_tcpListen (h : (tcpListen a).2 ≠ 0) :
    (tcpFreeSocketState (tcpListen a).1).Sound := by
  have hhandle : (tcpFreeSocketState (Setup.release .handle {})).Sound := by decide
  unfold tcpListen at h ⊢
  split_ifs at h ⊢
  · decide
  · exact hhandle
  · exact hhandle
  · exact hhandle
  · exact absurd rfl h
  · exact absurd rfl h

end Tcp

section Quic

variable (a : QuicAnswers)

theorem Setup.Fresh.sound_quicFree {x : Setup} (h : x.Fresh) : (quicFreeSocketState x).Sound := by
  rw [quicFreeSocketState, if_pos h.published]
  exact h.sound_freeState (by decide) (by decide)

structure Setup.Gone (x : Setup) : Prop where
  published : x.published = true
  released : Part.state ∈ x.released ∨ .certFileName ∈ x.pointers ∧ .certFileName ∈ x.released

theorem Setup.Gone.not_sound_quicFree {x : Setup} (h : x.Gone) : ¬(quicFreeSocketState x).Sound := by
  rw [quicFreeSocketState, if_pos h.published]
  rcases h.released with hstate | ⟨hpointer, hreleased⟩
  · exact Setup.not_sound_freeState_of_state hstate
  · exact Setup.not_sound_freeState_of_released (by decide) hpointer hreleased

def QuicAnswers.Supplied (a : QuicAnswers) : Prop :=
  a.numAlpns ≠ 0 ∧ a.picoquicCreate = true ∧ a.mallocTimer = true ∧ 0 ≤ a.timerInit

theorem quicSocketStateRest_cases {x : Setup} (hx : x.Fresh) (hcert : .certFileName ∈ x.pointers) :
    (quicSocketStateRest a x).2 = false ∧ ¬a.Supplied ∧ (quicSocketStateRest a x).1.Gone ∨
      (quicSocketStateRest a x).2 = true ∧ a.Supplied ∧ (quicSocketStateRest a x).1.Fresh := by
  unfold quicSocketStateRest
  dsimp only
  split_ifs with halpns hcreate htimer hinit
  · refine Or.inl ⟨rfl, fun h => h.1 halpns, hx.published, Or.inr ⟨hcert, ?_⟩⟩
    exact Setup.mem_released_releaseAll (by decide) hcert
  · refine Or.inl ⟨rfl, fun h => Bool.false_ne_true (hcreate.symm.trans h.2.1), hx.published, ?_⟩
    exact Or.inl (Setup.mem_released_release _ _)
  · refine Or.inl ⟨rfl, fun h => Bool.false_ne_true (htimer.symm.trans h.2.2.1), hx.published, ?_⟩
    exact Or.inl (Setup.mem_released_release _ _)
  · refine Or.inl ⟨rfl, fun h => Int.not_lt.mpr h.2.2.2 hinit, hx.published, ?_⟩
    exact Or.inl (Setup.mem_released_release _ _)
  · refine Or.inr ⟨rfl, ⟨halpns, ?_, ?_, Int.not_lt.mp hinit⟩, (hx.point _).point _⟩
    · exact eq_true_of_ne_false hcreate
    · exact eq_true_of_ne_false htimer

theorem quicSocketStatePublished_cases :
    (quicSocketStatePublished a).2 = false ∧ ¬a.Completes ∧ (quicSocketStatePublished a).1.Gone ∨
      (quicSocketStatePublished a).2 = true ∧ a.Completes ∧ (quicSocketStatePublished a).1.Fresh := by
  have hstart : (⟨true, [.certFileName, .keyFileName], [], false⟩ : Setup).Fresh := ⟨rfl, rfl, rfl⟩
  unfold quicSocketStatePublished
  dsimp only
  split_ifs with hpath hdup
  · -- without a path there is nothing to copy
    have hcopied : a.ticketStorePath = true → a.dupTicketStorePath = true :=
      fun h => absurd (hpath.symm.trans h) Bool.false_ne_true
    refine (quicSocketStateRest_cases a hstart List.mem_cons_self).imp ?_ ?_
    · exact fun h => ⟨h.1, fun hall => h.2.1 hall.2, h.2.2⟩
    · exact fun h => ⟨h.1, ⟨hcopied, h.2.1⟩, h.2.2⟩
  · refine Or.inl ⟨rfl, fun h => ?_, rfl, Or.inl (Setup.mem_released_release _ _)⟩
    exact Bool.false_ne_true (hdup.symm.trans (h.1 (eq_true_of_ne_false hpath)))
  · refine (quicSocketStateRest_cases a (hstart.point .ticketStorePath) List.mem_cons_self).imp ?_ ?_
    · exact fun h => ⟨h.1, fun hall => h.2.1 hall.2, h.2.2⟩
    · exact fun h => ⟨h.1, ⟨fun _ => eq_true_of_ne_false hdup, h.2.1⟩, h.2.2⟩

theorem quicSocketStateNew_cases :
    (quicSocketStateNew a).2 = false ∧ ¬a.Publishes ∧ (quicSocketStateNew a).1.published = false ∧
        (quicSocketStateNew a).1.Sound ∨
      (a.certificateCount ≠ 0 → a.Publishes) ∧ quicSocketStateNew a = quicSocketStatePublished a := by
  unfold quicSocketStateNew
  split_ifs with hgiven hstate hcert hkey
  · refine Or.inl ⟨rfl, fun h => ?_, rfl, by decide⟩
    rcases hgiven with hnone | hnone | hnone
    · exact Bool.false_ne_true (hnone.symm.trans h.2.2.1)
    · exact Bool.false_ne_true (hnone.symm.trans h.2.2.2.1)
    · exact Bool.false_ne_true (hnone.symm.trans h.1)
  · refine Or.inl ⟨rfl, fun h => ?_, rfl, by decide⟩
    exact Bool.false_ne_true (hstate.symm.trans h.2.2.2.2.1)
  · refine Or.inl ⟨rfl, fun h => ?_, rfl, by decide⟩
    exact Bool.false_ne_true (hcert.symm.trans h.2.2.2.2.2.1)
  · refine Or.inl ⟨rfl, fun h => ?_, rfl, by decide⟩
    exact Bool.false_ne_true (hkey.symm.trans h.2.2.2.2.2.2)
  · rw [not_or, not_or] at hgiven
    refine Or.inr ⟨fun hcount => ?_, rfl⟩
    exact ⟨eq_true_of_ne_false hgiven.2.2, hcount, eq_true_of_ne_false hgiven.1,
      eq_true_of_ne_false hgiven.2.1, eq_true_of_ne_false hstate, eq_true_of_ne_false hcert,
      eq_true_of_ne_false hkey⟩

theorem sound_freed_withQuicContext_iff {rest : Setup → Setup × Int}
    (hrest : ∀ x : Setup, x.Fresh → (rest x).1.Fresh) :
    (quicFreeSocketState (withQuicContext a rest).1).Sound ↔ (a.Publishes → a.Completes) := by
  have hnothing : (quicFreeSocketState {}).Sound := by decide
  unfold withQuicContext
  dsimp only
  split_ifs with hparameters hcount hfiles hcreated
  · refine iff_of_true hnothing fun h => ?_
    exact absurd (hparameters.symm.trans h.1) Bool.false_ne_true
  · exact iff_of_true hnothing fun h => absurd hcount h.2.1
  · refine iff_of_true hnothing fun h => ?_
    rcases hfiles with hnone | hnone
    · exact absurd (hnone.symm.trans h.2.2.1) Bool.false_ne_true
    · exact absurd (hnone.symm.trans h.2.2.2.1) Bool.false_ne_true
  · rcases quicSocketStateNew_cases a with h | ⟨hpublishes, hnew⟩
    · rw [quicFreeSocketState, h.2.2.1]
      exact iff_of_true h.2.2.2 fun hpublishes => absurd hpublishes h.2.1
    · rw [hnew] at hcreated ⊢
      rcases quicSocketStatePublished_cases a with h | h
      · refine iff_of_false h.2.2.not_sound_quicFree fun himp => ?_
        exact h.2.1 (himp (hpublishes hcount))
      · exact absurd (hcreated.symm.trans h.1) Bool.false_ne_true
  · rcases quicSocketStateNew_cases a with h | ⟨_, hnew⟩
    · exact absurd h.1 hcreated
    · rw [hnew] at hcreated ⊢
      rcases quicSocketStatePublished_cases a with h | h
      · exact absurd h.1 hcreated
      · exact iff_of_true (hrest _ h.2.2).sound_quicFree fun _ => h.2.1

theorem sound_freed_quicInit_iff :
    (quicFreeSocketState (quicInit a).1).Sound ↔ (a.Publishes → a.Completes) := by
  apply sound_freed_withQuicContext_iff
  intro x hx
  split
  · exact hx.point _
  · exact hx

theorem sound_freed_quicInitWithSend_iff :
    (quicFreeSocketState (quicInitWithSend a).1).Sound ↔ (a.Publishes → a.Completes) := by
  apply sound_freed_withQuicContext_iff
  intro x hx
  split_ifs
  · exact hx
  · exact hx.point _
  · exact hx.point _
  · exact hx.point _

theorem sound_freed_quicListen_iff :
    (quicFreeSocketState (quicListen a).1).Sound ↔ (a.Publishes → a.Completes) := by
  apply sound_freed_withQuicContext_iff
  intro x hx
  split_ifs
  · exact hx
  · exact hx.point _

end Quic

/-- A connection or listener whose protocol has failed to start can be freed exactly when the way out
was a clean one. -/
theorem failed_start_freed_iff (s : Start) (h : s.result.2 ≠ 0) : s.freed.Sound ↔ s.Clean := by
  cases s with
  | udpInit a =>
    exact iff_of_false (not_sound_udpFreeSocketState (udpInitWithSend_unpublished h)) not_false
  | udpInitWithSend a =>
    exact iff_of_false (not_sound_udpFreeSocketState (udpInitWithSend_unpublished h)) not_false
  | udpListen a =>
    exact iff_of_false (not_sound_udpFreeSocketState (udpListen_unpublished h)) not_false
  | tcpInit a => exact sound_freed_tcpInit_iff h
  | tcpInitWithSend context a => exact sound_freed_tcpInitWithSend_iff context h
  | tcpListen a => exact iff_of_true (sound_freed_tcpListen h) trivial
  | quicInit a => exact sound_freed_quicInit_iff a
  | quicInitWithSend a => exact sound_freed_quicInitWithSend_iff a
  | quicListen a => exact sound_freed_quicListen_iff a

theorem failed_start_without_certificate :
    (Start.quicInit { certificateCount := 0 }).result.2 ≠ 0 ∧
      (Start.quicInit { certificateCount := 0 }).freed.Sound :=
  ⟨by decide, (failed_start_freed_iff (.quicInit { certificateCount := 0 }) (by decide)).mpr
    fun h => absurd rfl h.2.1⟩

/-- A UDP socket whose port is taken reads a state that is not there; a TCP connection that libuv
refuses at once and a QUIC client without ALPN release a part twice. -/
theorem failed_start_not_freed :
    (Start.udpInit { bind := -98 }).result.2 ≠ 0 ∧
      (Start.udpInit { bind := -98 }).freed.fault = true ∧
      (Start.tcpInit { connect := -101 }).result.2 ≠ 0 ∧
      (Start.tcpInit { connect := -101 }).freed.released.count .connectReq = 2 ∧
      (Start.quicInit { numAlpns := 0 }).result.2 ≠ 0 ∧
      (Start.quicInit { numAlpns := 0 }).freed.released.count .certFileName = 2 := by
  decide

end CTaps.Lifetimes
