import CTaps.Racing.Releases

/-! Who holds the race's copies of the initial message and of its context: next
to the race itself the TCP and QUIC socket states and the accepted write
requests. The machine here runs the race together with these holders. -/

namespace CTaps.Racing

inductive ProtocolStart
  | notCreated
  | tcpFailed | tcpConnectFailed | tcpPending
  | udpFailed | udpReady (sendAccepted : Bool) (sendRc : Int)
  | quicFailed | quicPending (attemptedEarlyData : Bool)
deriving DecidableEq, Repr

def ProtocolStart.outcome : ProtocolStart → InitOutcome
  | .notCreated => .notCreated
  | .tcpFailed | .udpFailed | .quicFailed => .failed
  | .tcpConnectFailed => .failedReported
  | .tcpPending | .quicPending _ => .pending
  | .udpReady _ sendRc => .ready sendRc false

def ProtocolStart.isTcpSocket : ProtocolStart → Bool
  | .tcpConnectFailed | .tcpPending => true
  | _ => false

def ProtocolStart.isUdpSend : ProtocolStart → Bool
  | .udpReady sendAccepted _ => sendAccepted
  | _ => false

/-- What is seen of an attempt. `won` is whether its `ready` decides the race. -/
inductive Occurrence
  /-- It is started, and the start has this result. -/
  | started (p : ProtocolStart)
  | tcpConnected (sendAccepted : Bool) (sendRc : Int) (won : Bool)
  | quicReady (sentEarlyData : Bool) (sendRc : Int) (won : Bool)
deriving DecidableEq, Repr

namespace Occurrence

def acceptsSend : Occurrence → Bool
  | .started p => p.isUdpSend
  | .tcpConnected sendAccepted _ _ => sendAccepted
  | .quicReady .. => false

def isUdpSend : Occurrence → Bool
  | .started p => p.isUdpSend
  | _ => false

def isTcpSocket : Occurrence → Bool
  | .started p => p.isTcpSocket
  | _ => false

def isQuicReady : Occurrence → Bool
  | .quicReady .. => true
  | _ => false

def winsEarly : Occurrence → Bool
  | .quicReady sentEarlyData _ won => won && sentEarlyData
  | _ => false

def failsSend : Occurrence → Bool
  | .started (.udpReady _ sendRc) => sendRc != 0
  | .tcpConnected _ sendRc won | .quicReady _ sendRc won => won && sendRc != 0
  | _ => false

end Occurrence

structure Ownership where
  ctx : Context
  /-- Attempts whose `uv_tcp_connect` has not called back. -/
  tcpConnecting : List Nat := []
  /-- Attempts whose TCP socket state points at the context copy. -/
  tcpContexts : List Nat := []
  /-- Attempts whose picoquic connection is not ready yet. -/
  quicConnecting : List Nat := []
  /-- Attempts whose QUIC socket state points at the message copy. -/
  quicMessages : List Nat := []
  /-- Attempts with `attempted_early_data` set in their QUIC group. -/
  quicEarlyData : List Nat := []
  /-- Write requests that libuv has accepted with both copies attached. -/
  requests : List Nat := []
  messageFrees : Nat := 0
  contextFrees : Nat := 0
  /-- What has been seen of the attempts, newest first. -/
  history : List Occurrence := []

namespace Ownership

def sendsEarly (s : Ownership) : Bool := s.ctx.shouldTryEarlyData && s.ctx.initialMessage

def consIf (b : Bool) (i : Nat) (l : List Nat) : List Nat := if b then i :: l else l

/-- What `init_with_send` (or `init`) of attempt `i` stores. -/
def initAttempt (s : Ownership) (i : Nat) (p : ProtocolStart) : Ownership :=
  let early := s.ctx.shouldTryEarlyData
  { s with
    tcpContexts := consIf (early && p.isTcpSocket) i s.tcpContexts
    tcpConnecting := consIf (p == .tcpPending) i s.tcpConnecting
    requests := consIf (s.sendsEarly && p.isUdpSend) i s.requests
    quicConnecting := consIf (p matches .quicPending _) i s.quicConnecting
    quicMessages := consIf (s.sendsEarly && p matches .quicPending _) i s.quicMessages
    quicEarlyData := consIf (early && p == .quicPending true) i s.quicEarlyData
    history := .started p :: s.history }

def startsAttempt (s : Ownership) : Bool :=
  s.ctx.timerActive && !s.ctx.raceComplete &&
    decide (s.ctx.nextAttemptIndex < s.ctx.numAttempts)

def decides (s : Ownership) (i : Nat) : Bool :=
  decide (i < s.ctx.numAttempts) && !s.ctx.raceComplete &&
    match (s.ctx.attempts i).connection with
    | none | some .user => false
    | some _ => true

def isLoser (s : Ownership) (i : Nat) : Bool :=
  decide (i < s.ctx.numAttempts) && s.ctx.state i != .succeeded &&
    (s.ctx.attempts i).connection.isSome

def freeConnections (s : Ownership) (p : Nat → Bool) : Ownership :=
  { s with
    contextFrees := s.contextFrees + s.tcpContexts.countP p
    tcpContexts := s.tcpContexts.filter (!p ·)
    tcpConnecting := s.tcpConnecting.filter (!p ·)
    quicConnecting := s.quicConnecting.filter (!p ·)
    quicMessages := s.quicMessages.filter (!p ·) }

def race (s : Ownership) (e : Event) : Ownership := { s with ctx := Racing.step s.ctx e }

end Ownership

inductive MessageEvent
  | timer (p : ProtocolStart)
  /-- `on_connect` without an error, and the results of the sends it leads to. -/
  | tcpConnected (i : Nat) (sendAccepted : Bool) (sendRc : Int)
  /-- `picoquic_callback_ready` -/
  | quicReady (i : Nat) (pskHandshake : Bool) (sendRc : Int)
  /-- `on_write` or `on_send` for a request of attempt `i`, with whatever status. -/
  | writeDone (i : Nat)
  | ended (i : Nat) (r : Report)
  | timerClosed
  /-- The application frees the winning connection. -/
  | connectionFree (i : Nat)
deriving DecidableEq, Repr

namespace Ownership

def step (s : Ownership) : MessageEvent → Ownership
  | .timer p =>
    let s' := if s.startsAttempt then s.initAttempt s.ctx.nextAttemptIndex p else s
    s'.race (.timer p.outcome)
  | .tcpConnected i sendAccepted sendRc =>
    -- a handle that is closing calls back with an error only
    if i ∈ s.tcpConnecting ∧ s.ctx.state i = .connecting then
      { s with
        tcpConnecting := s.tcpConnecting.erase i
        requests := consIf (s.sendsEarly && sendAccepted) i s.requests
        history := .tcpConnected sendAccepted sendRc (s.decides i) :: s.history
        ctx := Racing.step s.ctx (.report i (.ready sendRc false)) }
    else s
  | .quicReady i pskHandshake sendRc =>
    if i ∈ s.quicConnecting then
      let sentEarlyData := pskHandshake && decide (i ∈ s.quicEarlyData)
      { s with
        messageFrees := s.messageFrees + (decide (i ∈ s.quicMessages)).toNat
        quicConnecting := s.quicConnecting.filter (· != i)
        quicMessages := s.quicMessages.filter (· != i)
        history := .quicReady sentEarlyData sendRc (s.decides i) :: s.history
        ctx := Racing.step s.ctx (.report i (.ready sendRc sentEarlyData)) }
    else s
  | .writeDone i =>
    if i ∈ s.requests then
      { s with
        requests := s.requests.erase i
        messageFrees := s.messageFrees + 1
        contextFrees := s.contextFrees + 1 }
    else s
  | .ended i r => if r.isReady then s else s.race (.report i r)
  | .timerClosed =>
    let s' := if s.ctx.timerClosing && !s.ctx.freed then s.freeConnections s.isLoser else s
    s'.race .timerClosed
  | .connectionFree i => if s.ctx.state i = .succeeded then s.freeConnections (· == i) else s

/-- `start_candidate_racing_on_nodes_ready`. Without candidates there is nothing to start; otherwise
the start of the first attempt has result `p`. -/
def start (u : Setup) (candidates : Option Nat) (p : ProtocolStart) : Ownership :=
  let s : Ownership := { ctx := racingContextCreate u }
  let s := match candidates with
    | none | some 0 => s
    | some _ => s.initAttempt 0 p
  { s with ctx := startCandidateRacingOnNodesReady u candidates p.outcome }

def run (u : Setup) (candidates : Option Nat) (p : ProtocolStart) (es : List MessageEvent) :
    Ownership :=
  Lib.run step (start u candidates p) es

def TornDown (s : Ownership) : Prop :=
  s.ctx.freed = true ∧ s.tcpContexts = [] ∧ s.requests = []
deriving Decidable

def messageReleases (s : Ownership) : Nat := s.messageFrees + s.ctx.messageReleases

def contextReleases (s : Ownership) : Nat := s.contextFrees + s.ctx.contextReleases

end Ownership

end CTaps.Racing
