import CTaps.Racing.Keeps

/-! Which functions of the race release the copies of the initial message and of
its context: the hand-over to the user releases the context when the send fails
or went out as early data, and the teardown releases what was not early data. -/

namespace CTaps.Racing

variable {c c' c'' : Context} {i w m m' x x' : Nat} {o : InitOutcome} {r : Report}

def Entry.isMessageRelease : Entry → Bool
  | .messageFree => true
  | _ => false

def Entry.isContextRelease : Entry → Bool
  | .messageContextFree | .messageSendError _ | .messageSent _ => true
  | _ => false

def Context.messageReleases (c : Context) : Nat := c.log.countP Entry.isMessageRelease

def Context.contextReleases (c : Context) : Nat := c.log.countP Entry.isContextRelease

structure Releases (m x : Nat) (c c' : Context) : Prop where
  message : c'.messageReleases = c.messageReleases + m
  context : c'.contextReleases = c.contextReleases + x

theorem Releases.trans (h : Releases m x c c') (h' : Releases m' x' c' c'') :
    Releases (m + m') (x + x') c c'' :=
  ⟨by rw [h'.message, h.message, Nat.add_assoc], by rw [h'.context, h.context, Nat.add_assoc]⟩

theorem Releases.of_log {p : Entry → Prop} (h : LogGrows p c c')
    (hm : ∀ e, p e → e.isMessageRelease = false) (hx : ∀ e, p e → e.isContextRelease = false) :
    Releases 0 0 c c' :=
  ⟨h.countP_eq hm, h.countP_eq hx⟩

theorem Releases.of_log_eq (h : c'.log = c.log) : Releases 0 0 c c' :=
  ⟨by rw [Context.messageReleases, h]; rfl, by rw [Context.contextReleases, h]; rfl⟩

theorem Releases.refl (c : Context) : Releases 0 0 c c := .of_log_eq rfl

theorem Releases.of_log_if {e : Entry} {b : Bool}
    (h : c'.log = if b then e :: c.log else c.log) :
    Releases (b && e.isMessageRelease).toNat (b && e.isContextRelease).toNat c c' := by
  cases b with
  | false => exact .of_log_eq h
  | true =>
    have hlog : c'.log = e :: c.log := h
    constructor
    · cases he : e.isMessageRelease <;> simp [Context.messageReleases, hlog, he]
    · cases he : e.isContextRelease <;> simp [Context.contextReleases, hlog, he]

theorem Releases.of_log_cons {e : Entry} (h : c'.log = e :: c.log)
    (hm : e.isMessageRelease = false) (hx : e.isContextRelease = false) : Releases 0 0 c c' := by
  have hr := Releases.of_log_if (b := true) h
  rwa [hm, hx] at hr

section Silent

theorem releases_handleConcludedAttempt : Releases 0 0 c (handleConcludedAttempt c) := by
  refine .of_log handleConcludedAttempt_logGrows ?_ ?_ <;> rintro e (rfl | rfl) <;> rfl

theorem releases_setConnection (cb : Option Callbacks) : Releases 0 0 c (c.setConnection i cb) :=
  .of_log_eq rfl

theorem releases_note_silent {e : Entry} (hm : e.isMessageRelease = false)
    (hx : e.isContextRelease = false) : Releases 0 0 c (c.note e) := .of_log_cons rfl hm hx

theorem releases_noteIf (b : Bool) (e : Entry) :
    Releases (b && e.isMessageRelease).toNat (b && e.isContextRelease).toNat c (c.noteIf b e) :=
  .of_log_if rfl

theorem releases_notifyUserReady : Releases 0 0 c (notifyUserReady c i) := by
  simpa [Entry.isMessageRelease, Entry.isContextRelease, notifyUserReady] using
    releases_noteIf (c := c) c.userCallbacks.ready (.userReady i (c.attempts i).connection)

theorem releases_conclude (s : AttemptState) : Releases 0 0 c (c.conclude i s) :=
  .of_log_cons rfl rfl rfl

theorem releases_registerFailedAttempt : Releases 0 0 c (registerFailedAttempt c i) :=
  (releases_conclude .failed).trans releases_handleConcludedAttempt

theorem releases_registerCanceledAttempt : Releases 0 0 c (registerCanceledAttempt c i) :=
  (releases_conclude .canceled).trans releases_handleConcludedAttempt

theorem releases_registerSuccesfulAttempt : Releases 0 0 c (registerSuccesfulAttempt c i) := by
  refine Releases.trans ?_ releases_handleConcludedAttempt
  exact .of_log_cons (e := .attemptState i (c.state i) .succeeded c.raceComplete) rfl rfl rfl

theorem releases_cancelAttempt : Releases 0 0 c (cancelAttempt w c i) := by
  unfold cancelAttempt
  split_ifs
  · exact .refl c
  · cases c.state i with
    | connecting =>
      exact (releases_conclude (c := c) (i := i) .closing).trans
        (.of_log_cons (e := .closeGroup i) rfl rfl rfl)
    | pending => exact releases_registerCanceledAttempt
    | closing | succeeded | failed | canceled => exact .refl c

theorem releases_cancelLoop {l : List Nat} : Releases 0 0 c (l.foldl (cancelAttempt w) c) := by
  induction l generalizing c with
  | nil => exact .refl c
  | cons i l ih => exact releases_cancelAttempt.trans ih

theorem releases_handleAllAttemptsFailed : Releases 0 0 c (handleAllAttemptsFailed c) := by
  have hnote : Releases 0 0 c (c.noteIf c.userCallbacks.establishmentError
      .userEstablishmentError) := by
    simpa [Entry.isMessageRelease, Entry.isContextRelease] using
      releases_noteIf (c := c) c.userCallbacks.establishmentError .userEstablishmentError
  exact hnote.trans (.of_log_cons (e := .timerClose) rfl rfl rfl)

theorem releases_scheduleNextAttempt : Releases 0 0 c (scheduleNextAttempt c) := by
  simp only [scheduleNextAttempt]
  split_ifs
  · exact .of_log_cons (e := .timerStart) rfl rfl rfl
  · exact .of_log_eq rfl

theorem releases_registerFailedStart : Releases 0 0 c (registerFailedStart c i) := by
  simp only [registerFailedStart]
  split_ifs
  · exact releases_registerFailedAttempt.trans releases_handleAllAttemptsFailed
  · exact releases_registerFailedAttempt.trans releases_scheduleNextAttempt

end Silent

section Ready

def handoverReleases (c : Context) (sendRc : Int) (sentEarlyData : Bool) : Nat :=
  (!c.shouldTryEarlyData && c.initialMessage && sendRc != 0).toNat + sentEarlyData.toNat

theorem releases_sendInitialMessage (sendRc : Int) (sentEarlyData : Bool) :
    Releases 0 (handoverReleases c sendRc sentEarlyData) c
      (sendInitialMessage c i sendRc sentEarlyData) := by
  have h := ((releases_noteIf (c := c) (!c.shouldTryEarlyData && c.initialMessage)
      (.sendInitialMessage i)).trans
    (releases_noteIf (!c.shouldTryEarlyData && c.initialMessage && sendRc != 0)
      (.messageSendError i))).trans (releases_noteIf sentEarlyData (.messageSent i))
  simpa [Entry.isMessageRelease, Entry.isContextRelease, handoverReleases, sendInitialMessage]
    using h

theorem releases_racingOnAttemptReady (hc : c.raceComplete = false) (sendRc : Int)
    (sentEarlyData : Bool) :
    Releases 0 (handoverReleases c sendRc sentEarlyData) c
      (racingOnAttemptReady c i sendRc sentEarlyData) := by
  have hsetup := ((keeps_registerSuccesfulAttempt (c := c) (i := i)).trans
    (keeps_cancelAllOtherAttempts (w := i))).frame
  have hcancel : Releases 0 0 c (cancelAllOtherAttempts (registerSuccesfulAttempt c i) i) :=
    releases_registerSuccesfulAttempt.trans releases_cancelLoop
  have hsend := (hcancel.trans (releases_setConnection (i := i) (some .user))).trans
    (releases_sendInitialMessage (i := i) sendRc sentEarlyData)
  have hsame : handoverReleases ((cancelAllOtherAttempts (registerSuccesfulAttempt c i)
      i).setConnection i (some .user)) sendRc sentEarlyData =
      handoverReleases c sendRc sentEarlyData := by
    simp [handoverReleases, hsetup.early, hsetup.message]
  rw [hsame, Nat.zero_add, Nat.zero_add] at hsend
  simp only [racingOnAttemptReady]
  rw [if_neg (by simp [hc])]
  exact (hsend.trans releases_notifyUserReady).trans (releases_note_silent rfl rfl)

def deliverReleases (c : Context) (i : Nat) : Report → Nat
  | .ready sendRc sentEarlyData =>
    match (c.attempts i).connection with
    | none | some .user => 0
    | some _ => if c.raceComplete then 0 else handoverReleases c sendRc sentEarlyData
  | _ => 0

theorem releases_racing {cb : Callbacks} (hconn : (c.attempts i).connection = some cb)
    (hcb : cb ≠ .user) : Releases 0 (deliverReleases c i r) c (deliver c i r) := by
  have hnote : Releases 0 0 c (c.note (.report i r)) := .of_log_cons rfl rfl rfl
  have hdeliver : deliver c i r = match r with
      | .ready sendRc sentEarlyData =>
        racingOnAttemptReady (c.note (.report i r)) i sendRc sentEarlyData
      | .establishmentError => onAttemptEstablishmentError (c.note (.report i r)) i
      | .closed =>
        if cb = .racingClosed then racedConnectionCloseCb (c.note (.report i r)) i
        else c.note (.report i r)
      | .connectionError => c.note (.report i r) := by
    cases cb <;> cases r <;> simp_all [deliver]
  rw [hdeliver]
  cases r with
  | ready sendRc sentEarlyData =>
    have hreleases : deliverReleases c i (.ready sendRc sentEarlyData) =
        if c.raceComplete then 0 else handoverReleases c sendRc sentEarlyData := by
      cases cb <;> simp_all [deliverReleases]
    rw [hreleases]
    cases hcomplete : c.raceComplete with
    | true => simpa [racingOnAttemptReady, hcomplete] using hnote
    | false =>
      have hready := hnote.trans (releases_racingOnAttemptReady (i := i)
        (c := c.note (.report i (.ready sendRc sentEarlyData))) hcomplete sendRc sentEarlyData)
      simpa [handoverReleases] using hready
  | establishmentError =>
    simp only [onAttemptEstablishmentError]
    split_ifs
    · exact hnote
    · exact hnote.trans releases_registerFailedAttempt
  | closed =>
    dsimp only
    split_ifs
    · exact hnote.trans releases_registerCanceledAttempt
    · exact hnote
  | connectionError => exact hnote

theorem releases_deliver : Releases 0 (deliverReleases c i r) c (deliver c i r) := by
  cases hconn : (c.attempts i).connection with
  | none =>
    have hzero : deliverReleases c i r = 0 := by cases r <;> simp [deliverReleases, hconn]
    rw [hzero]
    simpa only [deliver, hconn] using Releases.refl c
  | some cb =>
    by_cases hcb : cb = .user
    · subst hcb
      have hzero : deliverReleases c i r = 0 := by cases r <;> simp [deliverReleases, hconn]
      rw [hzero]
      have hforward : Releases 0 0 c (c.note (.forwarded i r)) := releases_note_silent rfl rfl
      simpa only [deliver, hconn] using hforward
    · exact releases_racing hconn hcb

end Ready

section Step

def startReleases (c : Context) : InitOutcome → Nat
  | .ready sendRc sentEarlyData => handoverReleases c sendRc sentEarlyData
  | _ => 0

theorem releases_startConnectionAttempt (hc : c.raceComplete = false) :
    Releases 0 (startReleases c o) c (startConnectionAttempt c i o) := by
  have hstart : Releases 0 0 c (c.setState i .connecting) := .of_log_cons rfl rfl rfl
  have hconn : Releases 0 0 c ((c.setState i .connecting).setConnection i (some .racing)) :=
    hstart.trans (releases_setConnection (some .racing))
  cases o with
  | notCreated => exact hstart
  | failed | pending => exact hconn
  | failedReported =>
    simpa [deliverReleases, startReleases, startConnectionAttempt] using
      hconn.trans (releases_deliver (i := i) (r := .establishmentError))
  | ready sendRc sentEarlyData =>
    have hready := hconn.trans (releases_deliver (i := i) (r := .ready sendRc sentEarlyData))
    simpa [deliverReleases, hc, handoverReleases, startReleases, startConnectionAttempt] using hready

def eventReleases (c : Context) : Event → Nat
  | .timer o =>
    if c.timerActive ∧ c.raceComplete = false ∧ c.nextAttemptIndex < c.numAttempts then
      startReleases c o
    else 0
  | .report i r => if i < c.numAttempts then deliverReleases c i r else 0
  | .timerClosed => 0

def teardownReleases (c : Context) : Event → Nat
  | .timerClosed =>
    (c.timerClosing && !c.freed && !c.shouldTryEarlyData && c.initialMessage).toNat
  | _ => 0

theorem releases_initiateNextAttempt (hc : c.raceComplete = false)
    (hk : c.nextAttemptIndex < c.numAttempts) :
    Releases 0 (startReleases c o) c (initiateNextAttempt c o) := by
  have hstart := releases_startConnectionAttempt (i := c.nextAttemptIndex) (o := o) hc
  simp only [initiateNextAttempt]
  rw [if_neg (by simp [hc]), if_neg (by omega)]
  split_ifs
  · exact hstart.trans releases_registerFailedStart
  · exact hstart.trans releases_scheduleNextAttempt

theorem releases_onTimerCloseFreeContext :
    Releases (!c.shouldTryEarlyData && c.initialMessage).toNat
      (!c.shouldTryEarlyData && c.initialMessage).toNat c (onTimerCloseFreeContext c) := by
  let owns := !c.shouldTryEarlyData && c.initialMessage
  have hnotes := (releases_noteIf (c := c) owns .messageFree).trans
    (releases_noteIf owns .messageContextFree)
  have hfree : Releases 0 0 ((c.noteIf owns .messageFree).noteIf owns .messageContextFree)
      (onTimerCloseFreeContext c) := .of_log_eq rfl
  simpa [Entry.isMessageRelease, Entry.isContextRelease, owns] using hnotes.trans hfree

theorem releases_step (e : Event) :
    Releases (teardownReleases c e) (teardownReleases c e + eventReleases c e) c (step c e) := by
  cases e with
  | timer o =>
    by_cases hstart : c.timerActive = true ∧ c.raceComplete = false ∧
        c.nextAttemptIndex < c.numAttempts
    · have hstep : step c (.timer o) = initiateNextAttempt { c with timerActive := false } o := by
        simp [step, onStaggerTimer, hstart.1, hstart.2.1]
      have h := releases_initiateNextAttempt (c := { c with timerActive := false }) (o := o)
        hstart.2.1 hstart.2.2
      rw [hstep]
      simp only [teardownReleases, eventReleases, if_pos hstart, Nat.zero_add]
      exact ⟨h.message, h.context⟩
    · have hidle : Releases 0 0 c (step c (.timer o)) := by
        refine .of_log_eq ?_
        simp only [step, onStaggerTimer, initiateNextAttempt]
        split_ifs <;> first | rfl | exact absurd ⟨by assumption, by simp_all, by simp_all⟩ hstart
      simpa only [teardownReleases, eventReleases, if_neg hstart] using hidle
  | report i r =>
    by_cases hi : i < c.numAttempts
    · simpa [step, hi, teardownReleases, eventReleases] using releases_deliver
    · simpa [step, hi, teardownReleases, eventReleases] using Releases.refl c
  | timerClosed =>
    by_cases hclose : (c.timerClosing && !c.freed) = true
    · have hstep : step c .timerClosed = onTimerCloseFreeContext c := by
        simp only [step, if_pos hclose]
      rw [hstep]
      simpa [teardownReleases, eventReleases, hclose] using releases_onTimerCloseFreeContext (c := c)
    · have hstep : step c .timerClosed = c := by simp only [step, if_neg hclose]
      rw [hstep]
      have hfalse : (c.timerClosing && !c.freed) = false := by simpa using hclose
      simpa [teardownReleases, eventReleases, hfalse] using Releases.refl c

end Step

end CTaps.Racing
