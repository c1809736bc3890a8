import StreamQueue.Consumer.Run
import StreamQueue.Consumer.Ticker
import StreamQueue.Http.App
import StreamQueue.Log.Reader
import StreamQueue.Rehearsal.Script
import StreamQueue.Text.Uuid

/-!
# The world of a rehearsal

The log, the clocks, the rules, and the clients with what they wait for. Consumers
and reads that were begun beside the script are *tasks*: they go on when they are
woken, one after the other, in the order in which they were woken.
-/

namespace StreamQueue.Rehearsal

/-- Where a call is that has not come back. -/
inductive Flight
  /-- It is held back until an instant, and then refused or carried out. -/
  | delayed (due : Instant) (refusal : Option LogError) (stamp : Nat)
  /-- It never comes back. -/
  | hung
  /-- It is a read that waits. The ticket is its place among the waiting reads. -/
  | waiting (request : ReadRequest) (receiver : Receiver) (stamp ticket : Nat)

/-- How far a call has got. -/
inductive Progress (c : LogCall)
  | returned (result : c.Result)
  | out (f : Flight)

/-- A run of a consumer. -/
structure Run where
  identity : String
  cancelled : Bool
  /-- The phase, once the run has begun. -/
  phase : Option Consumer.Phase
  /-- The call that the phase waits for, the read for new entries apart. -/
  flight : Option (LogCall × Flight)
  /-- The read for new entries. -/
  read : Option (LogCall × Flight)
  ticker : Ticker
  /-- When the ticker was last looked at anew. -/
  tickStamp : Option Nat
  /-- Whether the work is being done elsewhere. -/
  busy : Bool

/-- A consumer. -/
structure Worker where
  config : ConsumerConfig
  source : SourceScript
  /-- The calls on the byte source so far. -/
  calls : Nat
  shown : Consumer.State
  run : Option Run

/-- A read that was begun beside the script. -/
structure ReadTask where
  call : LogCall
  flight : Option Flight
  result : Option (Except LogError (List Entry))

/-- A task. -/
inductive TaskId
  | worker (name : String)
  | read (name : String)
  deriving DecidableEq, Repr

/-- Everything there is. -/
structure World where
  store : Store
  feed : Feed
  clock : Clock
  rules : List Rule
  records : List Record
  receivers : Table String Receiver
  publishers : Table String PublisherConfig
  apps : Table String App
  workers : Table String Worker
  reads : Table String ReadTask
  /-- The tasks that are woken, first to last. -/
  ready : List TaskId
  /-- How many stamps and tickets were given out. -/
  stamps : Nat
  /-- How many identities were drawn. -/
  identities : Nat

/-- A world in which nothing has happened. -/
def World.initial (wall : Timestamp) : World :=
  { store := Store.empty, feed := Feed.empty, clock := ⟨Instant.zero, wall⟩, rules := [],
    records := [], receivers := Table.empty, publishers := Table.empty, apps := Table.empty,
    workers := Table.empty, reads := Table.empty, ready := [], stamps := 0, identities := 0 }

/-- What happens in a world and is then known. -/
abbrev Play := StateM World

def now : Play Instant := return (← get).clock.now

/-- A number that was not given out before. -/
def stamp : Play Nat := do
  modify fun w => { w with stamps := w.stamps + 1 }
  return (← get).stamps

def record (h : Happening) : Play Unit := do
  let t ← now
  modify fun w => { w with records := ⟨t, h⟩ :: w.records }

def reportAll (events : List Event) : Play Unit := events.forM fun e => record (.reported e)

/-- Wake a task, unless it is woken already. -/
def wake (t : TaskId) : Play Unit :=
  modify fun w => if w.ready.contains t then w else { w with ready := w.ready ++ [t] }

/-- The ticket of a read that waits for notices. -/
def Flight.ticket? : Flight → Option Nat
  | waiting _ _ _ ticket => some ticket
  | _ => none

/-- The instant at which a call goes on by itself, with its stamp. -/
def Flight.timer? : Flight → Option (Instant × Nat)
  | delayed t _ stamp => some (t, stamp)
  | waiting r _ stamp _ => r.deadline.map fun t => (t, stamp)
  | hung => none

/-- The calls of a run that have not come back. -/
def Run.flights (r : Run) : List Flight := (r.flight.toList ++ r.read.toList).map (·.2)

/-- The calls of all tasks that have not come back. -/
def World.flights (w : World) : List (TaskId × Flight) :=
  (w.workers.pairs.flatMap fun (name, worker) =>
    (worker.run.toList.flatMap Run.flights).map fun f => (.worker name, f)) ++
  (w.reads.pairs.flatMap fun (name, task) => task.flight.toList.map fun f => (.read name, f))

/-- The tickers that are looked at, with their tasks. -/
def World.tickers (w : World) : List (TaskId × Instant × Nat) :=
  w.workers.pairs.filterMap fun (name, worker) => do
    let r ← worker.run
    let stamp ← r.tickStamp
    return (.worker name, r.ticker.due, stamp)

/-- All instants at which a task goes on by itself. -/
def World.timers (w : World) : List (TaskId × Instant × Nat) :=
  (w.flights.filterMap fun (t, f) => f.timer?.map fun timer => (t, timer)) ++ w.tickers

/-- Announce an append, and wake the reads that wait, longest-waiting first. -/
def announce (stream : String) (id : StreamId) : Play Unit := do
  modify fun w => { w with feed := w.feed.send ⟨stream, id⟩ }
  let waiting := (← get).flights.filterMap fun (t, f) => f.ticket?.map fun n => (n, t)
  (waiting.mergeSort fun a b => a.1 ≤ b.1).forM fun p => wake p.2

/-- Carry out a call on the log at this moment. -/
def perform (c : LogCall) : Play c.Result := do
  let w ← get
  let (result, store) := w.store.perform w.clock c
  set { w with store }
  reportAll (c.events result)
  match c, result with
  | .append stream _ _, .ok id => announce stream id
  | _, _ => pure ()
  return result

/-! ### Steps on the log -/

/-- All there is of a stream now. -/
def World.dump (w : World) (stream : String) : Dump :=
  let groups := (w.store.groups stream).toOption
  { entries := (w.store.entries stream).map (·.id)
    groups
    pending := (groups.getD []).map fun g =>
      (g.name, ((w.store.pendingEntries w.clock.now stream g.name Span.zero StreamId.zero
        g.pending).toOption).getD []) }

/-- Append numbered messages; the identifiers of the first and the last. -/
def appendMany (stream stem : String) (maxLen : Nat) (i : Nat) (first last : Option StreamId) :
    Nat → Play (Option StreamId × Option StreamId)
  | 0 => return (first, last)
  | n + 1 => do
    match ← perform (.append stream [(Publisher.messageField, stem ++ toString i)] maxLen) with
    | .ok id => appendMany stream stem maxLen (i + 1) (first <|> some id) (some id) n
    | .error _ => return (first, last)

/-- A step on the log that does not wait. -/
def LogStep.play : LogStep → Play Outcome
  | call c => return .answered c (← perform c)
  | misnamed id => return .refused (.invalidId id)
  | appendMany stream n stem maxLen => do
    let (first, last) ← Rehearsal.appendMany stream stem maxLen 0 none none n
    return .appended first last
  | has stream => return .flag ((← get).store.has stream)
  | entries stream => return .entries ((← get).store.entries stream)
  | dump stream => return .dump ((← get).dump stream)
  | setWall t => do
    modify fun w => { w with clock := { w.clock with wall := t } }
    return .done

/-! ### Calls of clients -/

def modifyWorker (name : String) (f : Worker → Worker) : Play Unit :=
  modify fun w => { w with workers := w.workers.adjust name f }

def modifyRun (name : String) (f : Run → Run) : Play Unit :=
  modifyWorker name fun worker => { worker with run := worker.run.map f }

/-- Cancel the run of a consumer. -/
def cancelRun (name : String) : Play Unit := do
  modifyRun name fun r => { r with cancelled := true }
  wake (.worker name)

/-- The first rule that applies to a call of a client, with the rules after the call was
counted. -/
def applyRules (operation client : String) : List Rule → Option Fault × List Rule
  | [] => (none, [])
  | r :: rest =>
    if r.operation == operation && (r.client.all (· == client)) && r.times != some 0 then
      if 0 < r.skip then
        let (fault, rest) := applyRules operation client rest
        (fault, { r with skip := r.skip - 1 } :: rest)
      else (some r.fault, { r with times := r.times.map (· - 1) } :: rest)
    else
      let (fault, rest) := applyRules operation client rest
      (fault, r :: rest)

/-- What a look at a waiting read has come to. -/
def settleRead {stream group consumer : String} {count : Nat} {block : Option Span}
    (request : ReadRequest) (stamp ticket : Nat) :
    ReadStep → Progress (.readNew stream group consumer count block)
  | .ended result => .returned result
  | .waiting receiver => .out (.waiting request receiver stamp ticket)

/-- Let a call go on to the log. -/
def goOn : (c : LogCall) → Play (Progress c)
  | .readNew stream group consumer count block => do
    let w ← get
    let request : ReadRequest :=
      ⟨stream, group, consumer, count, block.map w.clock.now.after⟩
    let (step, store) := request.attempt w.clock.now w.feed w.store
    set { w with store }
    let n ← stamp
    return settleRead request n n step
  | c => return .returned (← perform c)

/-- Look again at a call that is out. -/
def lookAt : (c : LogCall) → Flight → Play (Progress c)
  | _, .hung => return .out .hung
  | c, .delayed t refusal stamp => do
    if t ≤ (← now) then
      match refusal with
      | some e => return .returned (.error e)
      | none => goOn c
    else return .out (.delayed t refusal stamp)
  | .readNew _ _ _ _ _, .waiting request receiver first ticket => do
    let w ← get
    let (step, store) := request.resume w.clock.now w.feed receiver w.store
    set { w with store }
    let ticket ← if receiver.behind < w.feed.sent.size then stamp else pure ticket
    return settleRead request first ticket step
  | _, f => return .out f

/-- Start a call of a client. -/
def startCall (client : String) (state : Option Consumer.State) (c : LogCall) :
    Play (Progress c) := do
  record (.called client c state)
  let w ← get
  let (fault, rules) := applyRules c.operation client w.rules
  set { w with rules }
  match fault with
  | none => goOn c
  | some fault =>
    for s in fault.steps do
      let _ ← s.play
    fault.cancels.forM cancelRun
    if fault.hangs then return .out .hung
    else if Span.zero < fault.delay then
      return .out (.delayed ((← now).after fault.delay) fault.refusal (← stamp))
    else match fault.refusal with
      | some e => return .returned (.error e)
      | none => goOn c

end StreamQueue.Rehearsal
