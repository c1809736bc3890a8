import StreamQueue.Consumer.Config
import StreamQueue.Consumer.Ticker
import StreamQueue.Job
import StreamQueue.Work.Simulator

/-!
# The run of a consumer

A run creates its group, replays what it had not acknowledged, and then listens: it
reads new entries one at a time, does the work for each and acknowledges it. From
time to time it looks for entries that are stuck with other consumers, claims some
and works on them too.

The run is a machine. A `Phase` says what it waits for and remembers what it needs
to go on; a `Signal` is what it has waited for; a `Move` is the phase it goes to, the
events it reports and the call it starts. Who drives the machine carries out its calls
and work, and hands it the signals.

## Cancellation

Whether the run is cancelled is looked at before each call that creates the group,
reads or replays, and between two claimed entries. While such a call is out, the
signal `cancelled` ends the run without it. A call that lists, claims or acknowledges
is waited for.

## The read for new entries

One read is out for the whole of the listening phase and what follows from it: a tick
neither gives it up nor starts another. It is renewed when its entries are done with.

When the run looks, its read comes before the ticker: a tick is noticed only while the
read is not back.
-/

namespace StreamQueue.Consumer

/-- Where an entry that is worked on has come from. -/
inductive Origin
  /-- It was pending, and so were this many before it. -/
  | replayed (recovered : Nat)
  /-- It is new, and so are these after it. -/
  | fresh (rest : List Entry)
  /-- It was claimed, and so were these after it. -/
  | claimed (rest : List Entry)
  deriving DecidableEq, Repr

/-- What a run waits for. -/
inductive Phase
  /-- The creation of the group. -/
  | creating
  /-- The next pending entry, after as many were recovered. -/
  | replaying (recovered : Nat)
  /-- The work for an entry. -/
  | working (entry : Entry) (origin : Origin)
  /-- The acknowledgement of an entry. -/
  | acking (entry : Entry) (origin : Origin) (outcome : WorkOutcome)
  /-- New entries, or a tick. -/
  | listening
  /-- A page of stuck entries, after these were found. -/
  | scanning (found : List StreamId)
  /-- The entries it claims. -/
  | claiming
  /-- Nothing more. -/
  | stopped (reason : QueueError)
  deriving DecidableEq, Repr

/-- What a run has waited for. -/
inductive Signal
  | created (result : Except LogError Unit)
  | replayed (result : Except LogError (List Entry))
  | worked (result : Except WorkError WorkOutcome)
  | acked (result : Except LogError Nat)
  | delivered (result : Except LogError (List Entry))
  /-- The ticker has come due. -/
  | due
  | scanned (result : Except LogError (List PendingEntry))
  | claimed (result : Except LogError (List Entry))
  /-- The run is cancelled. -/
  | cancelled

/-- What a run does next. -/
structure Move where
  phase : Phase
  /-- What it reports first. -/
  events : List Event
  /-- The call it starts then. -/
  starts : Option LogCall
  deriving Repr

/-- A move after some events. -/
def Move.behind (m : Move) (events : List Event) : Move := { m with events := events ++ m.events }

/-- What a run shows of itself in a phase. -/
def Phase.state : Phase → State
  | creating => .initializing
  | replaying recovered => if recovered = 0 then .recoveringPending else .processing
  | working .. | acking .. => .processing
  | listening => .listening
  | scanning _ | claiming => .claiming
  | stopped _ => .stopped

/-- Whether a cancellation is noticed while the run waits in a phase. -/
def Phase.heedsCancel : Phase → Bool
  | creating | replaying _ | listening => true
  | _ => false

/-- The signal that the result of a call is. -/
def Signal.ofResult? : (c : LogCall) → c.Result → Option Signal
  | .createGroup .., r => some (.created r)
  | .readPending .., r => some (.replayed r)
  | .ack .., r => some (.acked r)
  | .readNew .., r => some (.delivered r)
  | .pendingEntries .., r => some (.scanned r)
  | .claim .., r => some (.claimed r)
  | .ping, _ | .append .., _ | .pendingCount .., _ | .len .., _ | .rangeAfter .., _
  | .groups .., _ => none

/-- What the creation of a group comes to: a group that is there already is as good. -/
def groupOutcome (cfg : ConsumerConfig) : Except LogError Unit → Except QueueError (List Event)
  | .ok () => .ok [.groupReady cfg.stream cfg.group]
  | .error e =>
    if e.isGroupExists then .ok []
    else match e with
      | .connection _ => .error (.connection e)
      | _ => .error (.init e)

/-- The call that creates the group, at the start of the stream. -/
def groupCall (cfg : ConsumerConfig) : LogCall := .createGroup cfg.stream cfg.group StreamId.zero

/-- Create the group, outside a run. -/
def initGroup (cfg : ConsumerConfig) : Job (Except QueueError Unit) := do
  let result ← Job.ask (groupCall cfg)
  match groupOutcome cfg result with
  | .error e => return .error e
  | .ok events =>
    events.forM Job.tell
    return .ok ()

section Moves

variable (cfg : ConsumerConfig) (me : String)

/-- How many stuck entries are asked for at a time. -/
def batch : Nat := max cfg.claimBatch 1

/-- The read for new entries. -/
def readCall : LogCall := .readNew cfg.stream cfg.group me 1 cfg.readBlock

/-- The read for the next pending entry. -/
def replayCall (after : StreamId) : LogCall := .readPending cfg.stream cfg.group me after 1

/-- The look for stuck entries. -/
def scanCall (after : StreamId) : LogCall :=
  .pendingEntries cfg.stream cfg.group cfg.claimMinIdle after (batch cfg)

/-- End the run. -/
def stop (reason : QueueError) : Move :=
  ⟨.stopped reason,
    [match reason with
      | .cancelled => .consumerCancelled me
      | e => .consumerStopped me e],
    none⟩

/-- Go on with a move unless the run is cancelled. -/
def unlessCancelled (cancelled : Bool) (m : Move) : Move :=
  if cancelled then stop me .cancelled else m

/-- Look for the next pending entry. -/
def replay (cancelled : Bool) (after : StreamId) (recovered : Nat) : Move :=
  unlessCancelled me cancelled ⟨.replaying recovered, [], some (replayCall cfg me after)⟩

/-- Listen, with a read that is out or with a new one. -/
def listen (cancelled : Bool) (readIsOut : Bool) : Move :=
  unlessCancelled me cancelled
    ⟨.listening, [], if readIsOut then none else some (readCall cfg me)⟩

/-- Work on an entry. -/
def work (entry : Entry) (origin : Origin) : Move := ⟨.working entry origin, [], none⟩

/-- Work on the next claimed entry, or listen again. -/
def nextClaimed (cancelled : Bool) : List Entry → Move
  | [] => listen cfg me cancelled true
  | e :: rest => unlessCancelled me cancelled (work e (.claimed rest))

/-- Work on the next new entry, or read again. -/
def nextFresh (cancelled : Bool) : List Entry → Move
  | [] => listen cfg me cancelled false
  | e :: rest => work e (.fresh rest)

/-- Go on after an entry is done with. -/
def proceed (cancelled : Bool) (entry : Entry) : Origin → Move
  | .replayed recovered => replay cfg me cancelled entry.id (recovered + 1)
  | .fresh rest => nextFresh cfg me cancelled rest
  | .claimed rest => nextClaimed cfg me cancelled rest

/-- Go on after an entry has failed: a replay ends there, else the entry is left pending. -/
def fail (cancelled : Bool) (entry : Entry) (origin : Origin) (e : QueueError) : Move :=
  match origin with
  | .replayed _ => stop me e
  | origin => (proceed cfg me cancelled entry origin).behind [.leftPending me entry.id e]

/-- Claim what was found, if anything was. -/
def claimFound (cancelled : Bool) (found : List StreamId) : Move :=
  match found.take (batch cfg) with
  | [] => listen cfg me cancelled true
  | ids => ⟨.claiming, [], some (.claim cfg.stream cfg.group me cfg.claimMinIdle ids)⟩

/-- Go on after a page of stuck entries. Entries of the run itself are passed over. A
short page is the last, and no more pages are asked for than fill the batch. -/
def scanned (cancelled : Bool) (found : List StreamId) (page : List PendingEntry) : Move :=
  match page.getLast? with
  | none => claimFound cfg me cancelled found
  | some final =>
    let found := found ++ ((page.filter fun p => p.consumer != me).map (·.id))
    if page.length < batch cfg || batch cfg ≤ found.length then claimFound cfg me cancelled found
    else ⟨.scanning found, [], some (scanCall cfg final.id)⟩

/-- Give up looking for stuck entries for this time. -/
def skipClaiming (cancelled : Bool) (e : LogError) : Move :=
  (listen cfg me cancelled true).behind [.reclamationSkipped me (.reclaim e)]

/-- Entries in the order of their identifiers. -/
def inOrder (entries : List Entry) : List Entry := entries.mergeSort fun a b => a.id ≤ b.id

/-- Begin a run. -/
def begin (cancelled : Bool) : Move :=
  (unlessCancelled me cancelled ⟨.creating, [], some (groupCall cfg)⟩).behind
    [.consumerStarting cfg.stream cfg.group me]

/-- Begin to listen after a replay. -/
def recovered (cancelled : Bool) (n : Nat) : Move :=
  (listen cfg me cancelled false).behind (if 0 < n then [.recovered me n] else [])

/-- What a run does on a signal. `cancelled` says whether it is cancelled by now. A
signal that a phase does not wait for changes nothing. -/
def step (cancelled : Bool) : Phase → Signal → Move
  | .creating, .created result =>
    match groupOutcome cfg result with
    | .error e => stop me e
    | .ok events => (replay cfg me cancelled StreamId.zero 0).behind events
  | .replaying _, .replayed (.error e) => stop me (.read e)
  | .replaying n, .replayed (.ok []) => recovered cfg me cancelled n
  | .replaying n, .replayed (.ok (e :: _)) => work e (.replayed n)
  | .working entry origin, .worked (.ok outcome) =>
    ⟨.acking entry origin outcome, [], some (.ack cfg.stream cfg.group [entry.id])⟩
  | .working _ _, .worked (.error .cancelled) => stop me .cancelled
  | .working entry origin, .worked (.error e) =>
    fail cfg me cancelled entry origin (.processing entry.id e)
  | .acking entry origin outcome, .acked (.ok _) =>
    (proceed cfg me cancelled entry origin).behind [.processed me entry.id outcome.digest]
  | .acking entry origin _, .acked (.error e) => fail cfg me cancelled entry origin (.ack entry.id e)
  | .listening, .delivered (.error e) => stop me (.read e)
  | .listening, .delivered (.ok entries) => nextFresh cfg me cancelled entries
  | .listening, .due => ⟨.scanning [], [], some (scanCall cfg StreamId.zero)⟩
  | .scanning found, .scanned (.ok page) => scanned cfg me cancelled found page
  | .scanning _, .scanned (.error e) => skipClaiming cfg me cancelled e
  | .claiming, .claimed (.ok []) => listen cfg me cancelled true
  | .claiming, .claimed (.ok entries) =>
    (nextClaimed cfg me cancelled (inOrder entries)).behind [.claimedStuck me entries.length]
  | .claiming, .claimed (.error e) => skipClaiming cfg me cancelled e
  | phase, .cancelled =>
    if phase.heedsCancel then stop me .cancelled else ⟨phase, [], none⟩
  | phase, _ => ⟨phase, [], none⟩

/-- The ticker of a run behind a signal that came in a phase. It begins with the listening
phase, before anything can end that, and is handled when it is noticed. -/
def tickerAfter (now : Instant) (ticker : Ticker) : Phase → Signal → Ticker
  | .replaying _, .replayed (.ok []) => Ticker.start now cfg.claimInterval
  | .listening, .due => ticker.handle now cfg.claimInterval
  | _, _ => ticker

end Moves

/-- What a run that listens is told when it looks: the answer of its read if that is back, else
that the ticker is due if it is. -/
def heard (answer : Option Signal) (due : Bool) : Option Signal :=
  match answer with
  | some s => some s
  | none => if due then some .due else none

end StreamQueue.Consumer
