import StreamQueue.Rehearsal.World

/-!
# Playing a rehearsal

A step of a script either ends at once or waits. While it waits, the tasks that are
woken go on, one after the other; work that was handed out is finished; and when
nobody has anything left to do, the monotonic clock jumps to the next instant at
which somebody has. Tasks that were begun go on only while a step waits.

A task that is cancelled notices it before anything else; what comes back from a call
counts before a deadline or a tick of the same instant.

The loops are bounded by `patience`, a number that no script comes near.
-/

namespace StreamQueue.Rehearsal

/-- A bound on the turns of every loop. -/
def patience : Nat := Nat.pow 10 12

/-! ### Tasks -/

/-- What a consumer that listens is told, with the answer of its read if that is back. -/
def hear (name : String) (answer : Option Consumer.Signal) : Play (Option Consumer.Signal) := do
  let some worker := (← get).workers.get? name | return none
  let some r := worker.run | return none
  let signal := Consumer.heard answer (r.ticker.isDue (← now))
  match signal with
  | some .due => modifyRun name fun r => { r with tickStamp := none }
  | some _ => pure ()
  | none =>
    if r.tickStamp.isNone then
      let n ← stamp
      modifyRun name fun r => { r with tickStamp := some n }
  return signal

/-- Let a consumer make a move: what it shows, reports and starts. -/
def makeMove (name : String) (m : Consumer.Move) : Play (Option Consumer.Signal) := do
  reportAll m.events
  modifyRun name fun r => { r with phase := some m.phase, flight := none }
  match m.phase with
  | .stopped _ => modifyRun name fun r => { r with read := none, tickStamp := none }
  | _ => pure ()
  modifyWorker name fun worker => { worker with shown := m.phase.state }
  match m.starts with
  | none => return none
  | some c =>
    match ← startCall name (some m.phase.state) c with
    | .returned result => return Consumer.Signal.ofResult? c result
    | .out f =>
      match m.phase with
      | .listening =>
        modifyRun name fun r => { r with read := some (c, f) }
        -- The same look goes on to the ticker, even if the start of the read has cancelled the run.
        hear name none
      | _ =>
        modifyRun name fun r => { r with flight := some (c, f) }
        return none

/-- Look at the call that a phase waits for. -/
def lookAtFlight (name : String) (c : LogCall) (f : Flight) (put : Flight → Run → Run) :
    Play (Option Consumer.Signal) := do
  match ← lookAt c f with
  | .returned result => return Consumer.Signal.ofResult? c result
  | .out f =>
    modifyRun name (put f)
    return none

/-- Do the work for an entry, or hand it out if it takes any time. -/
def doWork (name : String) (worker : Worker) (r : Run) : Play (Option Consumer.Signal) := do
  if 0 < worker.config.size && !r.cancelled && !r.busy then
    modifyRun name fun r => { r with busy := true }
    return none
  else
    let w := Work.run worker.source.source worker.calls r.cancelled worker.config.size
    modifyWorker name fun worker => { worker with calls := w.calls }
    modifyRun name fun r => { r with busy := false, cancelled := w.cancelled }
    return some (.worked w.result)

/-- The signal that a consumer gets when it looks at what it waits for. -/
def nextSignal (name : String) (worker : Worker) (r : Run) (phase : Consumer.Phase) :
    Play (Option Consumer.Signal) := do
  if r.cancelled && phase.heedsCancel then return some .cancelled
  match phase with
  | .working .. => doWork name worker r
  | .listening =>
    let answer ← match r.read with
      | some (c, f) => lookAtFlight name c f fun f r => { r with read := some (c, f) }
      | none => pure none
    if answer.isSome then modifyRun name fun r => { r with read := none }
    hear name answer
  | _ =>
    match r.flight with
    | some (c, f) => lookAtFlight name c f fun f r => { r with flight := some (c, f) }
    | none => return none

/-- Let a consumer go on with signals until it has to wait. -/
def advance (name : String) : Nat → Option Consumer.Signal → Play Unit
  | 0, _ => return ()
  | fuel + 1, signal => do
    let some worker := (← get).workers.get? name | return ()
    let some r := worker.run | return ()
    match r.phase with
    | none =>
      let signal ← makeMove name (Consumer.begin worker.config r.identity r.cancelled)
      advance name fuel signal
    | some (.stopped _) => return ()
    | some phase =>
      let signal ← match signal with
        | some s => pure (some s)
        | none => nextSignal name worker r phase
      match signal with
      | none => return ()
      | some s =>
        let some worker := (← get).workers.get? name | return ()
        let some r := worker.run | return ()
        let move := Consumer.step worker.config r.identity r.cancelled phase s
        let t ← now
        modifyRun name fun r =>
          { r with ticker := Consumer.tickerAfter worker.config t r.ticker phase s }
        let signal ← makeMove name move
        advance name fuel signal

/-- Let a read that was begun beside the script go on. -/
def advanceRead (name : String) : Play Unit := do
  let some task := (← get).reads.get? name | return ()
  if task.result.isSome then return ()
  let put (t : ReadTask) : Play Unit := modify fun w => { w with reads := w.reads.insert name t }
  match task with
  | ⟨.readNew stream group consumer count block, flight, _⟩ =>
    let c := LogCall.readNew stream group consumer count block
    let progress ← match flight with
      | none => goOn c
      | some f => lookAt c f
    match progress with
    | .returned result => put ⟨c, none, some result⟩
    | .out f => put ⟨c, some f, none⟩
  | _ => return ()

/-- Let a task go on. -/
def TaskId.advance : TaskId → Play Unit
  | worker name => Rehearsal.advance name patience none
  | read name => advanceRead name

/-- Let all woken tasks go on. -/
def runTasks : Nat → Play Unit
  | 0 => return ()
  | fuel + 1 => do
    match (← get).ready with
    | [] => return ()
    | t :: rest =>
      modify fun w => { w with ready := rest }
      t.advance
      runTasks fuel

/-! ### Steps that wait -/

/-- What a step waits for. -/
inductive Errand
  /-- An instant. -/
  | sleep (due : Instant)
  /-- A call of a job, perhaps with a deadline and what the job does then. -/
  | job (client : String) (state : Option Consumer.State) (c : LogCall) (f : Flight)
    (next : c.Result → Job Outcome) (deadline : Option (Instant × Job Outcome))
  /-- A read on the log itself, up to an instant. -/
  | read (c : LogCall) (f : Flight) (due : Instant)
  /-- The end of a run, up to an instant. -/
  | join (name : String) (due : Instant)

/-- How long a step waits at most. -/
def longestWait : Span := Span.ofSeconds 3600

/-- Do a job until it ends or a call is out. -/
def doJob (client : String) (state : Option Consumer.State) :
    Nat → Option (Instant × Job Outcome) → Job Outcome → Play (Outcome ⊕ Errand)
  | 0, _, _ => return .inl .blocked
  | _ + 1, _, .done o => return .inl o
  | fuel + 1, deadline, .report e rest => do
    record (.reported e)
    doJob client state fuel deadline rest
  | fuel + 1, deadline, .readWall next => do
    doJob client state fuel deadline (next (← get).clock.wall)
  | fuel + 1, _, .arm limit late rest => do
    doJob client state fuel (some ((← now).after limit, late)) rest
  | fuel + 1, _, .disarm rest => doJob client state fuel none rest
  | fuel + 1, deadline, .call c next => do
    match ← startCall client state c with
    | .returned result => doJob client state fuel deadline (next result)
    | .out f =>
      match deadline with
      | some (due, late) =>
        if due ≤ (← now) then doJob client state fuel none late
        else return .inr (.job client state c f next deadline)
      | none => return .inr (.job client state c f next none)

/-- How a run has ended, if it has. -/
def World.endOf (w : World) (name : String) : Option QueueError :=
  match (w.workers.get? name).bind (·.run) with
  | some { phase := some (.stopped reason), .. } => some reason
  | _ => none

/-- Look at what a step waits for. -/
def Errand.look : Errand → Play (Outcome ⊕ Errand)
  | sleep due => do
    if due ≤ (← now) then return .inl .done else return .inr (sleep due)
  | job client state c f next deadline => do
    match ← lookAt c f with
    | .returned result => doJob client state patience deadline (next result)
    | .out f =>
      match deadline with
      | some (due, late) =>
        if due ≤ (← now) then doJob client state patience none late
        else return .inr (job client state c f next deadline)
      | none => return .inr (job client state c f next none)
  | read c f due => do
    match ← lookAt c f with
    | .returned result => return .inl (.answered c result)
    | .out f => if due ≤ (← now) then return .inl .blocked else return .inr (read c f due)
  | join name due => do
    match (← get).endOf name with
    | some reason =>
      modifyWorker name fun worker => { worker with run := none }
      return .inl (.ended reason)
    | none => if due ≤ (← now) then return .inl .blocked else return .inr (join name due)

/-- The instants at which a step goes on by itself. -/
def Errand.timers : Errand → List Instant
  | sleep due => [due]
  | job _ _ _ f _ deadline => (f.timer?.map (·.1)).toList ++ (deadline.map (·.1)).toList
  | read _ f due => due :: (f.timer?.map (·.1)).toList
  | join _ due => [due]

/-- The consumers whose work was handed out. -/
def World.busyTasks (w : World) : List TaskId :=
  w.workers.pairs.filterMap fun (name, worker) =>
    match worker.run with
    | some { busy := true, .. } => some (.worker name)
    | _ => none

/-- The next instant at which somebody goes on by itself. -/
def World.nextInstant? (w : World) (e : Errand) : Option Instant :=
  let later := (e.timers ++ w.timers.map (·.2.1)).filter fun t => w.clock.now < t
  later.foldl (fun best t => match best with
    | some b => if t < b then some t else some b
    | none => some t) none

/-- Let the clock jump to an instant, and wake the tasks that go on then. -/
def jumpTo (t : Instant) : Play Unit := do
  modify fun w => { w with clock := { w.clock with now := t } }
  let due := (← get).timers.filter fun timer => timer.2.1 == t
  (due.mergeSort fun a b => a.2.2 ≤ b.2.2).forM fun timer => wake timer.1

/-- Wait until a step ends. -/
def wait : Nat → Errand → Play Outcome
  | 0, _ => return .blocked
  | fuel + 1, e => do
    runTasks patience
    match ← e.look with
    | .inl o => return o
    | .inr e =>
      match (← get).busyTasks with
      | [] =>
        match (← get).nextInstant? e with
        | none => return .blocked
        | some t =>
          jumpTo t
          match ← e.look with
          | .inl o => return o
          | .inr e => wait fuel e
      | busy =>
        busy.forM wake
        wait fuel e

/-- Go on with a step that ends at once or waits. -/
def settle : Outcome ⊕ Errand → Play Outcome
  | .inl o => return o
  | .inr e => wait patience e

/-- Do a job of a client to its end. -/
def play (client : String) (state : Option Consumer.State) (job : Job Outcome) : Play Outcome := do
  settle (← doJob client state patience none job)

/-! ### Steps -/

/-- A read for new entries on the log itself. -/
def readNow (c : LogCall) : Play Outcome := do
  match ← goOn c with
  | .returned result => return .answered c result
  | .out f => wait patience (.read c f ((← now).after longestWait))

/-- Do something with a named client. -/
def withNamed {α : Type} (found : Option α) (f : α → Play Outcome) : Play Outcome :=
  match found with
  | some a => f a
  | none => return .unknown

/-- Play one step. -/
def Step.play : Step → Play Outcome
  | log (.call (.readNew stream group consumer count block)) =>
    readNow (.readNew stream group consumer count block)
  | log s => s.play
  | run d => do settle (← (Errand.sleep ((← now).after d)).look)
  | startRead name c => do
    modify fun w => { w with reads := w.reads.insert name ⟨c, none, none⟩ }
    wake (.read name)
    return .done
  | pollRead name => do
    withNamed ((← get).reads.get? name) fun task =>
      match task with
      | ⟨.readNew stream group consumer count block, _, some result⟩ =>
        return .answered (.readNew stream group consumer count block) result
      | _ => return .blocked
  | dropRead name => do
    modify fun w => { w with reads := w.reads.erase name }
    return .done
  | subscribe name => do
    modify fun w => { w with receivers := w.receivers.insert name w.feed.subscribe }
    return .done
  | drain name => do
    let w ← get
    withNamed (w.receivers.get? name) fun receiver => do
      let (received, receiver) := w.feed.takeAll receiver
      set { w with receivers := w.receivers.insert name receiver }
      return .notices received
  | addRule r => do
    modify fun w => { w with rules := w.rules ++ [r] }
    return .done
  | heal => do
    modify fun w => { w with rules := [] }
    return .done
  | newPublisher name p => do
    modify fun w => { w with publishers := w.publishers.insert name p }
    return .publisher p
  | publish name message => do
    withNamed ((← get).publishers.get? name) fun p =>
      Rehearsal.play name none (.published <$> Publisher.publish p message)
  | publishBatch name messages => do
    withNamed ((← get).publishers.get? name) fun p =>
      Rehearsal.play name none (.batch <$> Publisher.publishBatch p messages)
  | backlog name group => do
    withNamed ((← get).publishers.get? name) fun p =>
      Rehearsal.play name none (.backlog <$> Publisher.backlog p group)
  | newConsumer name c source => do
    modify fun w =>
      { w with workers := w.workers.insert name ⟨c, source, 0, .initializing, none⟩ }
    return .consumer c .initializing
  | initGroup name => do
    withNamed ((← get).workers.get? name) fun worker =>
      Rehearsal.play name (some worker.shown) (.group <$> Consumer.initGroup worker.config)
  | startConsumer name => do
    withNamed ((← get).workers.get? name) fun worker => do
      let identity ← match worker.config.identity with
        | some id => pure id
        | none => do
          modify fun w => { w with identities := w.identities + 1 }
          pure (Text.Uuid.ofNat (← get).identities)
      modifyWorker name fun worker =>
        { worker with
          run := some ⟨identity, false, none, none, none, ⟨Instant.zero⟩, none, false⟩ }
      wake (.worker name)
      return .done
  | cancelConsumer name => do
    cancelRun name
    return .done
  | showConsumer name => do
    withNamed ((← get).workers.get? name) fun worker =>
      return .shown worker.shown worker.calls (worker.run.map fun r =>
        match r.phase with
        | some (.stopped _) => true
        | _ => false)
  | joinConsumer name => do
    settle (← (Errand.join name ((← now).after longestWait)).look)
  | newApp name p group => do
    modify fun w => { w with apps := w.apps.insert name ⟨p, group, Health.initial⟩ }
    return .done
  | http name r => do
    withNamed ((← get).apps.get? name) fun a => do
      let (a, job) := a.handle r
      modify fun w => { w with apps := w.apps.insert name a }
      Rehearsal.play name none (.response <$> job)
  | unsendable => return .unsendable

/-- A step's outcome, the instant at which it ended, and what was recorded since the last. -/
structure Scene where
  outcome : Outcome
  time : Instant
  records : List Record

/-- Play a step and take what was recorded. -/
def Step.scene (s : Step) : Play Scene := do
  let outcome ← s.play
  let w ← get
  set { w with records := [] }
  return ⟨outcome, w.clock.now, w.records.reverse⟩

/-- Play a script from the beginning. -/
def playAll (wall : Timestamp) (script : List Step) : List Scene :=
  ((script.mapM Step.scene).run (World.initial wall)).1

end StreamQueue.Rehearsal
