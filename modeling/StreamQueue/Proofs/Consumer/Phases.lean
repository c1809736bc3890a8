import StreamQueue.Proofs.Consumer.Course

/-!
# From phase to phase

What a run may do in a turn, as a relation between the phase it waits in, what it is told, the
phase it goes to and the call that it starts. The relation has a constructor for each edge of
the machine, so what every run keeps is a matter of looking at the edges one by one.

A failure that ends a run is an edge of its own. The same failure of an entry ends the run when
the entry is replayed, and leaves the entry behind when it is new or claimed: there the run is
`Past` the entry and goes on with the next.

## What is proved

* `leads_step` — a turn takes an edge.
* `Phase.Fails.step` — a failure that can end a run does end it.
-/

namespace StreamQueue.Consumer

/-- A run that has stopped is told nothing. -/
theorem Phase.Hears.running {phase : Phase} {seen : Bool} {signal : Signal} (hears : phase.Hears seen signal)
    (reason : QueueError) : phase ≠ .stopped reason := by
  rintro rfl
  cases signal <;> exact hears.elim

/-- A failure that ends the run, with the reason that the run gives for its end. -/
inductive Phase.Fails : Phase → Signal → QueueError → Prop
  /-- The log cannot be reached when the group is created. -/
  | connection (text : String) :
      Fails .creating (.created (.error (.connection text))) (.connection (.connection text))
  /-- The group is not created for any other reason than that it is there. -/
  | init {e : LogError} (missing : e.isGroupExists = false) (reached : ∀ text, e ≠ .connection text) :
      Fails .creating (.created (.error e)) (.init e)
  /-- The read for the next pending entry fails. -/
  | replay (recovered : Nat) (e : LogError) :
      Fails (.replaying recovered) (.replayed (.error e)) (.read e)
  /-- The read for new entries fails. -/
  | read (e : LogError) : Fails .listening (.delivered (.error e)) (.read e)
  /-- The work for a replayed entry fails. -/
  | processing (entry : Entry) (recovered : Nat) {e : WorkError} (other : e ≠ .cancelled) :
      Fails (.working entry (.replayed recovered)) (.worked (.error e)) (.processing entry.id e)
  /-- The acknowledgement of a replayed entry fails. -/
  | ack (entry : Entry) (recovered : Nat) (outcome : WorkOutcome) (e : LogError) :
      Fails (.acking entry (.replayed recovered) outcome) (.acked (.error e)) (.ack entry.id e)

/-- The run is done with an entry, for better or worse, and goes on. -/
inductive Phase.Past (entry : Entry) : Origin → Phase → Signal → Prop
  /-- The work for an entry that is not replayed has failed. -/
  | failed {origin : Origin} (other : ∀ n, origin ≠ .replayed n) {e : WorkError}
      (running : e ≠ .cancelled) : Past entry origin (.working entry origin) (.worked (.error e))
  /-- The acknowledgement of an entry that is not replayed has failed. -/
  | unacknowledged {origin : Origin} (other : ∀ n, origin ≠ .replayed n) (outcome : WorkOutcome)
      (e : LogError) : Past entry origin (.acking entry origin outcome) (.acked (.error e))
  | acknowledged (origin : Origin) (outcome : WorkOutcome) (n : Nat) :
      Past entry origin (.acking entry origin outcome) (.acked (.ok n))

section

variable (cfg : ConsumerConfig) (me : String)

/-- The edges from phase to phase, with the call that is started; `fired` says whether the token
has fired by the time of the move. -/
inductive Phase.Leads (fired : Bool) : Phase → Signal → Phase → Option LogCall → Prop
  | fails {phase : Phase} {signal : Signal} {reason : QueueError} (fails : phase.Fails signal reason) :
      Leads fired phase signal (.stopped reason) none
  | cancelled {phase : Phase} {signal : Signal}
      (why : fired = true ∨ signal = .cancelled ∨ signal = .worked (.error .cancelled)) :
      Leads fired phase signal (.stopped .cancelled) none
  /-- The group was created or was there. -/
  | created {result : Except LogError Unit} (there : ∀ e, result = .error e → e.isGroupExists = true) :
      Leads fired .creating (.created result) (.replaying 0) (some (replayCall cfg me StreamId.zero))
  | replays (n : Nat) (entry : Entry) (others : List Entry) :
      Leads fired (.replaying n) (.replayed (.ok (entry :: others))) (.working entry (.replayed n)) none
  | recovered (n : Nat) :
      Leads fired (.replaying n) (.replayed (.ok [])) .listening (some (readCall cfg me))
  | worked (entry : Entry) (origin : Origin) (outcome : WorkOutcome) :
      Leads fired (.working entry origin) (.worked (.ok outcome)) (.acking entry origin outcome)
        (some (.ack cfg.stream cfg.group [entry.id]))
  | nextReplayed {entry : Entry} {n : Nat} {phase : Phase} {signal : Signal}
      (past : phase.Past entry (.replayed n) signal) :
      Leads fired phase signal (.replaying (n + 1)) (some (replayCall cfg me entry.id))
  | nextFresh {entry : Entry} {next : Entry} {rest : List Entry} {phase : Phase} {signal : Signal}
      (past : phase.Past entry (.fresh (next :: rest)) signal) :
      Leads fired phase signal (.working next (.fresh rest)) none
  | lastFresh {entry : Entry} {phase : Phase} {signal : Signal} (past : phase.Past entry (.fresh []) signal) :
      Leads fired phase signal .listening (some (readCall cfg me))
  | nextClaimed {entry : Entry} {next : Entry} {rest : List Entry} {phase : Phase} {signal : Signal}
      (past : phase.Past entry (.claimed (next :: rest)) signal) :
      Leads fired phase signal (.working next (.claimed rest)) none
  | lastClaimed {entry : Entry} {phase : Phase} {signal : Signal}
      (past : phase.Past entry (.claimed []) signal) : Leads fired phase signal .listening none
  | delivered (entry : Entry) (rest : List Entry) :
      Leads fired .listening (.delivered (.ok (entry :: rest))) (.working entry (.fresh rest)) none
  | deliveredNone : Leads fired .listening (.delivered (.ok [])) .listening (some (readCall cfg me))
  | due : Leads fired .listening .due (.scanning []) (some (scanCall cfg StreamId.zero))
  | scans (found found' : List StreamId) (page : List PendingEntry) (after : StreamId) :
      Leads fired (.scanning found) (.scanned (.ok page)) (.scanning found') (some (scanCall cfg after))
  | claims (found ids : List StreamId) (page : List PendingEntry) :
      Leads fired (.scanning found) (.scanned (.ok page)) .claiming
        (some (.claim cfg.stream cfg.group me cfg.claimMinIdle ids))
  | scannedNone (found : List StreamId) (result : Except LogError (List PendingEntry)) :
      Leads fired (.scanning found) (.scanned result) .listening none
  | claimed (entry : Entry) (rest entries : List Entry) (all : inOrder entries = entry :: rest) :
      Leads fired .claiming (.claimed (.ok entries)) (.working entry (.claimed rest)) none
  | claimedNone (result : Except LogError (List Entry)) :
      Leads fired .claiming (.claimed result) .listening none

/-- A move takes an edge. -/
def Move.Takes (fired : Bool) (phase : Phase) (signal : Signal) (m : Move) : Prop :=
  phase.Leads cfg me fired signal m.phase m.starts

variable {cfg me} {fired : Bool} {phase : Phase} {signal : Signal}

theorem Move.Takes.behind {m : Move} (h : m.Takes cfg me fired phase signal) (events : List Event) :
    (m.behind events).Takes cfg me fired phase signal := h

theorem Move.Takes.unlessCancelled {m : Move} (h : m.Takes cfg me fired phase signal) :
    (Consumer.unlessCancelled me fired m).Takes cfg me fired phase signal := by
  cases fired with
  | false => exact h
  | true => exact .cancelled (.inl rfl)

theorem takes_listen {readIsOut : Bool} (h : phase.Leads cfg me fired signal .listening
    (if readIsOut then none else some (readCall cfg me))) :
    (listen cfg me fired readIsOut).Takes cfg me fired phase signal := .unlessCancelled h

theorem takes_proceed {entry : Entry} {origin : Origin} (past : phase.Past entry origin signal) :
    (proceed cfg me fired entry origin).Takes cfg me fired phase signal := by
  match origin, past with
  | .replayed n, past => exact .unlessCancelled (.nextReplayed past)
  | .fresh [], past => exact takes_listen (.lastFresh past)
  | .fresh (next :: rest), past => exact .nextFresh past
  | .claimed [], past => exact takes_listen (.lastClaimed past)
  | .claimed (next :: rest), past => exact .unlessCancelled (.nextClaimed past)

theorem takes_fail {entry : Entry} {origin : Origin} {e : QueueError}
    (fails : ∀ n, origin = .replayed n → phase.Fails signal e)
    (past : (∀ n, origin ≠ .replayed n) → phase.Past entry origin signal) :
    (fail cfg me fired entry origin e).Takes cfg me fired phase signal := by
  cases origin with
  | replayed n => exact .fails (fails n rfl)
  | fresh rest => exact .behind (takes_proceed (past (by simp))) _
  | claimed rest => exact .behind (takes_proceed (past (by simp))) _

theorem takes_claimFound {found found' : List StreamId} {page : List PendingEntry} :
    (claimFound cfg me fired found').Takes cfg me fired (.scanning found) (.scanned (.ok page)) := by
  unfold claimFound
  split
  · exact takes_listen (.scannedNone found _)
  · exact .claims found _ page

theorem takes_scanned {found : List StreamId} {page : List PendingEntry} :
    (scanned cfg me fired found page).Takes cfg me fired (.scanning found) (.scanned (.ok page)) := by
  unfold scanned
  split
  · exact takes_claimFound
  · simp only
    split
    · exact takes_claimFound
    · exact .scans found _ page _

/-- **A turn takes an edge.** -/
theorem leads_step (cfg : ConsumerConfig) (me : String) (fired : Bool) {seen : Bool}
    (hears : phase.Hears seen signal) :
    phase.Leads cfg me fired signal (step cfg me fired phase signal).phase
      (step cfg me fired phase signal).starts := by
  change (step cfg me fired phase signal).Takes cfg me fired phase signal
  cases phase with
  | creating =>
    cases signal with
    | created result =>
      rw [step]
      cases result with
      | ok value => exact .unlessCancelled (.created (by simp))
      | error e =>
        cases there : e.isGroupExists with
        | true =>
          simp only [groupOutcome, there, if_true]
          exact .unlessCancelled (.created (by simp [there]))
        | false =>
          simp only [groupOutcome, there, Bool.false_eq_true, if_false]
          cases e with
          | connection text => exact .fails (.connection text)
          | streamNotFound | groupNotFound | groupExists | invalidId | redis =>
            exact .fails (.init there (by simp))
    | cancelled => exact .cancelled (.inr (.inl rfl))
    | _ => exact hears.elim
  | replaying n =>
    cases signal with
    | replayed result =>
      cases result with
      | error e => exact .fails (.replay n e)
      | ok entries =>
        cases entries with
        | nil => exact .behind (takes_listen (.recovered n)) _
        | cons e es => exact .replays n e es
    | cancelled => exact .cancelled (.inr (.inl rfl))
    | _ => exact hears.elim
  | working entry origin =>
    cases signal with
    | worked result =>
      cases result with
      | ok outcome => exact .worked entry origin outcome
      | error e =>
        cases e with
        | cancelled => exact .cancelled (.inr (.inr rfl))
        | size | generation | generatorLost | digest =>
          refine takes_fail (fun n same => ?_) fun other => .failed other (by simp)
          subst same
          exact .processing entry n (by simp)
    | _ => exact hears.elim
  | acking entry origin outcome =>
    cases signal with
    | acked result =>
      cases result with
      | ok n => exact .behind (takes_proceed (.acknowledged origin outcome n)) _
      | error e =>
        refine takes_fail (fun n same => ?_) fun other => .unacknowledged other outcome e
        subst same
        exact .ack entry n outcome e
    | _ => exact hears.elim
  | listening =>
    cases signal with
    | delivered result =>
      cases result with
      | error e => exact .fails (.read e)
      | ok entries =>
        cases entries with
        | nil => exact takes_listen .deliveredNone
        | cons e es => exact .delivered e es
    | due => exact .due
    | cancelled => exact .cancelled (.inr (.inl rfl))
    | _ => exact hears.elim
  | scanning found =>
    cases signal with
    | scanned result =>
      cases result with
      | ok page => exact takes_scanned
      | error e => exact .behind (takes_listen (.scannedNone found _)) _
    | _ => exact hears.elim
  | claiming =>
    cases signal with
    | claimed result =>
      cases result with
      | error e => exact .behind (takes_listen (.claimedNone _)) _
      | ok entries =>
        cases entries with
        | nil => exact takes_listen (.claimedNone _)
        | cons e es =>
          refine .behind ?_ _
          cases all : inOrder (e :: es) with
          | nil => exact takes_listen (.claimedNone _)
          | cons first rest => exact .unlessCancelled (.claimed first rest (e :: es) all)
    | _ => exact hears.elim
  | stopped reason => cases signal <;> exact hears.elim

/-- A failure that can end a run does end it. -/
theorem Phase.Fails.step {reason : QueueError} (fails : phase.Fails signal reason) :
    (Consumer.step cfg me fired phase signal).phase = .stopped reason := by
  cases fails with
  | connection text => rfl
  | @init e missing reached =>
    simp only [Consumer.step, groupOutcome, missing, Bool.false_eq_true, if_false]
    cases e with
    | connection text => exact absurd rfl (reached text)
    | _ => rfl
  | replay n e => rfl
  | read e => rfl
  | @processing entry n e other =>
    cases e with
    | cancelled => exact absurd rfl other
    | _ => rfl
  | ack entry n outcome e => rfl

end

/-- The run is told something, and the token has not fired. -/
theorem Course.told {turns : List Turn} {before : Bool} (course : Course cfg me turns phase before false)
    (signal : Signal) (hears : phase.Hears false signal) :
    Course cfg me (turns ++ [.look phase before false signal false]) (step cfg me false phase signal).phase
      false false :=
  course.look hears id

end StreamQueue.Consumer
