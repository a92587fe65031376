import Mathlib.Data.List.Basic
import Mathlib.Logic.Function.Basic
import Mathlib.Tactic.Simps.Basic
import CTaps.Lib.Machine

/-! The candidate race of `candidate_racing.c` as a machine: the racing context
with its attempts, the functions that conclude an attempt, and the events
libuv and the protocols deliver. Every observable action is logged, newest first. -/

namespace CTaps.Racing

inductive AttemptState
  | pending | connecting | closing | succeeded | failed | canceled
deriving DecidableEq, Repr

/-- A report through the callbacks of a connection. A `ready` report carries the answers it meets:
the result of `ct_send_message_full` and whether early data was sent. -/
inductive Report
  | ready (sendRc : Int) (sentEarlyData : Bool)
  | establishmentError | closed | connectionError
deriving DecidableEq, Repr

def Report.isReady : Report → Bool
  | .ready _ _ => true
  | _ => false

/-- The callbacks on the connection of an attempt: those of `start_connection_attempt` (`closed` and
`connection_error` are NULL), the same with `closed` set by `cancel_all_other_attempts`, or the
user's. -/
inductive Callbacks
  | racing | racingClosed | user
deriving DecidableEq, Repr

structure Attempt where
  state : AttemptState := .pending
  /-- The callbacks of `attempt->connection`; `none` is a NULL connection. -/
  connection : Option Callbacks := none
deriving DecidableEq, Repr

structure UserCallbacks where
  ready : Bool := true
  establishmentError : Bool := true
deriving DecidableEq, Repr

inductive Entry
  | attemptState (i : Nat) (old new : AttemptState) (raceComplete : Bool)
  | report (i : Nat) (r : Report)
  | forwarded (i : Nat) (r : Report)
  | userReady (i : Nat) (callbacks : Option Callbacks)
  | userEstablishmentError
  | closeGroup (i : Nat)
  | sendInitialMessage (i : Nat)
  | messageSendError (i : Nat)
  | messageSent (i : Nat)
  | readyReturned (i : Nat) (states : List AttemptState)
  | timerStart
  | timerClose
  | messageFree
  | messageContextFree
deriving DecidableEq, Repr

/-- `ct_racing_context_t`, with the stagger timer as libuv sees it. -/
structure Context where
  attempts : Nat → Attempt := fun _ => {}
  numAttempts : Nat := 0
  nextAttemptIndex : Nat := 0
  completedAttempts : Nat := 0
  raceComplete : Bool := false
  winningAttemptIndex : Int := -1
  userCallbacks : UserCallbacks := {}
  shouldTryEarlyData : Bool := false
  initialMessage : Bool := false
  initialMessageContext : Bool := false
  timerActive : Bool := false
  timerClosing : Bool := false
  freed : Bool := false
  log : List Entry := []

namespace Context

def state (c : Context) (i : Nat) : AttemptState := (c.attempts i).state

@[simps]
def note (c : Context) (e : Entry) : Context := { c with log := e :: c.log }

@[simps]
def noteIf (c : Context) (b : Bool) (e : Entry) : Context :=
  { c with log := if b then e :: c.log else c.log }

@[simps numAttempts nextAttemptIndex raceComplete winningAttemptIndex userCallbacks
  shouldTryEarlyData initialMessage initialMessageContext timerActive timerClosing freed log]
def setState (c : Context) (i : Nat) (s : AttemptState) : Context :=
  { c with
    attempts := Function.update c.attempts i { c.attempts i with state := s }
    log := .attemptState i (c.state i) s c.raceComplete :: c.log }

@[simps numAttempts nextAttemptIndex raceComplete winningAttemptIndex userCallbacks
  shouldTryEarlyData initialMessage initialMessageContext timerActive timerClosing freed log]
def setConnection (c : Context) (i : Nat) (conn : Option Callbacks) : Context :=
  { c with attempts := Function.update c.attempts i { c.attempts i with connection := conn } }

def states (c : Context) : List AttemptState := (List.range c.numAttempts).map c.state

end Context

def AttemptState.isFailed (s : AttemptState) : Bool := s == .failed || s == .canceled

def AttemptState.isConcluded (s : AttemptState) : Bool := s.isFailed || s == .succeeded

def allAttemptsFailed (c : Context) : Bool := c.states.all AttemptState.isFailed

def allAttemptsConcluded (c : Context) : Bool := c.states.all AttemptState.isConcluded

@[simps]
def initiateContextClose (c : Context) : Context :=
  { c with timerActive := false, timerClosing := true, log := .timerClose :: c.log }

def handleAllAttemptsFailed (c : Context) : Context :=
  let c := { c with raceComplete := true }
  initiateContextClose (c.noteIf c.userCallbacks.establishmentError .userEstablishmentError)

def handleConcludedAttempt (c : Context) : Context :=
  if allAttemptsFailed c then handleAllAttemptsFailed c
  else if allAttemptsConcluded c then initiateContextClose c
  else c

@[simps! numAttempts nextAttemptIndex raceComplete winningAttemptIndex userCallbacks
  shouldTryEarlyData initialMessage initialMessageContext timerActive timerClosing freed log]
def Context.conclude (c : Context) (i : Nat) (s : AttemptState) : Context :=
  { c.setState i s with completedAttempts := c.completedAttempts + 1 }

def registerFailedAttempt (c : Context) (i : Nat) : Context :=
  handleConcludedAttempt (c.conclude i .failed)

def registerCanceledAttempt (c : Context) (i : Nat) : Context :=
  handleConcludedAttempt (c.conclude i .canceled)

def registerSuccesfulAttempt (c : Context) (i : Nat) : Context :=
  handleConcludedAttempt
    { c.conclude i .succeeded with winningAttemptIndex := i, raceComplete := true }

def racedConnectionCloseCb (c : Context) (i : Nat) : Context := registerCanceledAttempt c i

def Callbacks.setClosed : Callbacks → Callbacks
  | .racing => .racingClosed
  | cb => cb

/-- The body of the loop of `cancel_all_other_attempts`. -/
def cancelAttempt (winningIndex : Nat) (c : Context) (i : Nat) : Context :=
  if i = winningIndex then c
  else match c.state i with
    | .connecting =>
      let c := c.setState i .closing
      let c := c.setConnection i ((c.attempts i).connection.map Callbacks.setClosed)
      c.note (.closeGroup i)
    | .pending => registerCanceledAttempt c i
    | _ => c

def cancelAllOtherAttempts (c : Context) (winningIndex : Nat) : Context :=
  (List.range c.numAttempts).foldl (cancelAttempt winningIndex) c

/-- The part of `racing_on_attempt_ready` that deals with the initial message. -/
def sendInitialMessage (c : Context) (i : Nat) (sendRc : Int) (sentEarlyData : Bool) : Context :=
  let sendNow := !c.shouldTryEarlyData && c.initialMessage
  let c := c.noteIf sendNow (.sendInitialMessage i)
  let c := c.noteIf (sendNow && sendRc != 0) (.messageSendError i)
  c.noteIf sentEarlyData (.messageSent i)

def notifyUserReady (c : Context) (i : Nat) : Context :=
  c.noteIf c.userCallbacks.ready (.userReady i (c.attempts i).connection)

def racingOnAttemptReady (c : Context) (i : Nat) (sendRc : Int) (sentEarlyData : Bool) : Context :=
  if c.raceComplete then c
  else
    let c := registerSuccesfulAttempt c i
    let c := cancelAllOtherAttempts c i
    let c := c.setConnection i (some .user)
    let c := sendInitialMessage c i sendRc sentEarlyData
    let c := notifyUserReady c i
    c.note (.readyReturned i c.states)

def onAttemptEstablishmentError (c : Context) (i : Nat) : Context :=
  if c.raceComplete then c else registerFailedAttempt c i

/-- A report reaches whatever the connection's callbacks are at that moment; a
NULL callback swallows it. -/
def deliver (c : Context) (i : Nat) (r : Report) : Context :=
  match (c.attempts i).connection with
  | none => c
  | some .user => c.note (.forwarded i r)
  | some cb =>
    let c := c.note (.report i r)
    match r with
    | .ready sendRc sentEarlyData => racingOnAttemptReady c i sendRc sentEarlyData
    | .establishmentError => onAttemptEstablishmentError c i
    | .closed => if cb = .racingClosed then racedConnectionCloseCb c i else c
    | .connectionError => c

/-- The start of one attempt: no connection could be made, or the protocol's `init` fails (silently,
or after reporting `establishment_error`), stays pending, or reports `ready` before it returns 0. -/
inductive InitOutcome
  | notCreated | failed | failedReported | pending
  | ready (sendRc : Int) (sentEarlyData : Bool)
deriving DecidableEq, Repr

def InitOutcome.isError : InitOutcome → Bool
  | .notCreated | .failed | .failedReported => true
  | .pending | .ready _ _ => false

def startConnectionAttempt (c : Context) (i : Nat) (o : InitOutcome) : Context :=
  let c := c.setState i .connecting
  match o with
  | .notCreated => c
  | .failed | .pending => c.setConnection i (some .racing)
  | .failedReported => deliver (c.setConnection i (some .racing)) i .establishmentError
  | .ready sendRc sentEarlyData =>
    deliver (c.setConnection i (some .racing)) i (.ready sendRc sentEarlyData)

def uvTimerStart (c : Context) : Context :=
  { c with timerActive := c.timerActive || !c.timerClosing, log := .timerStart :: c.log }

def scheduleNextAttempt (c : Context) : Context :=
  let c := { c with nextAttemptIndex := c.nextAttemptIndex + 1 }
  if c.nextAttemptIndex < c.numAttempts then uvTimerStart c else c

/-- What `initiate_next_attempt` does when the start of the attempt failed. -/
def registerFailedStart (c : Context) (i : Nat) : Context :=
  let c := registerFailedAttempt c i
  if allAttemptsFailed c then handleAllAttemptsFailed c else scheduleNextAttempt c

def initiateNextAttempt (c : Context) (o : InitOutcome) : Context :=
  if c.raceComplete then c
  else if c.numAttempts ≤ c.nextAttemptIndex then c
  else
    let i := c.nextAttemptIndex
    let c := startConnectionAttempt c i o
    if o.isError then registerFailedStart c i else scheduleNextAttempt c

def onStaggerTimer (c : Context) (o : InitOutcome) : Context :=
  if c.raceComplete then c else initiateNextAttempt c o

def racingContextFree (c : Context) : Context :=
  { c with timerClosing := true, log := .timerClose :: c.log }

/-- What the caller of the race hands over. Early data is only asked for by a
message context, so it never comes without one. -/
structure Setup where
  userCallbacks : UserCallbacks := {}
  initialMessage : Bool := false
  initialMessageContext : Bool := false
  shouldTryEarlyData : Bool := false
  earlyData_context : shouldTryEarlyData = true → initialMessageContext = true := by decide

def racingContextCreate (u : Setup) : Context :=
  { userCallbacks := u.userCallbacks
    initialMessage := u.initialMessage
    initialMessageContext := u.initialMessageContext
    shouldTryEarlyData := u.shouldTryEarlyData }

def racingContextInitializeAttemptArray (c : Context) (n : Nat) : Context :=
  { c with numAttempts := n, attempts := fun _ => {} }

/-- `candidates` is the length of the array, or `none` where it could not be allocated. -/
def startCandidateRacingOnNodesReady (u : Setup) (candidates : Option Nat) (o : InitOutcome) :
    Context :=
  let c := racingContextCreate u
  match candidates with
  | none | some 0 =>
    racingContextFree (c.noteIf c.userCallbacks.establishmentError .userEstablishmentError)
  | some n => initiateNextAttempt (racingContextInitializeAttemptArray c n) o

def onTimerCloseFreeContext (c : Context) : Context :=
  let ownsMessage := !c.shouldTryEarlyData && c.initialMessage
  let c := (c.noteIf ownsMessage .messageFree).noteIf ownsMessage .messageContextFree
  { c with
    freed := true
    attempts := fun i =>
      if i < c.numAttempts ∧ c.state i ≠ .succeeded then { c.attempts i with connection := none }
      else c.attempts i }

inductive Event
  | timer (o : InitOutcome)
  | report (i : Nat) (r : Report)
  | timerClosed
deriving DecidableEq, Repr

def step (c : Context) : Event → Context
  | .timer o => if c.timerActive then onStaggerTimer { c with timerActive := false } o else c
  | .report i r => if i < c.numAttempts then deliver c i r else c
  | .timerClosed => if c.timerClosing && !c.freed then onTimerCloseFreeContext c else c

/-- The race over `n` candidates: the first attempt is started at once with
outcome `o`, then the events happen in the given order. -/
def race (u : Setup) (n : Nat) (o : InitOutcome) (es : List Event) : Context :=
  Lib.run step (startCandidateRacingOnNodesReady u (some n) o) es

end CTaps.Racing
