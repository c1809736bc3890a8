import StreamQueue.Proofs.Rehearsal.Quiet

/-!
# Publishers in a rehearsal

While nobody but publishers is there, what a rehearsal plays is a job in virtual time. The log is the one
in memory behind the rules of the rehearsal, which hold calls back, refuse them or let them hang; they
count the calls, so that they hinder the appends of a publisher one by one.

The loops of a rehearsal are bounded by a number of turns. No job of a publisher comes near it, if a batch
is not too long.

## What is proved

* `Rehearsal.plays_job` — a rehearsed job is a job in virtual time, by induction on the turns it takes.
* `Rehearsal.plays_publisher` — each operation of a publisher.
* `Rehearsal.rehearsed_batch` — what a batch writes in a rehearsal.
* `Rehearsal.quiet_script` — a rehearsal with publishers only stays quiet.
-/

namespace StreamQueue

namespace Rehearsal

/-- The log in memory behind the rules of a rehearsal, which count the calls. -/
def ruled (client : String) (wall : Timestamp) : Service (Store × List Rule) where
  comeback _ c t log :=
    let (fault, rules) := applyRules c.operation client log.2
    ((hitchOf fault).comeback (fun _ => wall) c t log.1).map fun b => ⟨b.after, b.result, (b.left, rules)⟩
  lost c log := (log.1, (applyRules c.operation client log.2).2)
  wall _ := wall

/-! ### Jobs -/

/-- A job that takes no more than so many turns whatever comes back, and makes only such calls. -/
inductive Brief {α : Type} (P : LogCall → Prop) : Nat → Job α → Prop
  | done (n : Nat) (a : α) : Brief P n (.done a)
  | call {n : Nat} {c : LogCall} {next : c.Result → Job α} (made : P c) (rest : ∀ r, Brief P n (next r)) :
    Brief P (n + 1) (.call c next)
  | report {n : Nat} {rest : Job α} (e : Event) (brief : Brief P n rest) : Brief P (n + 1) (.report e rest)
  | readWall {n : Nat} {next : Timestamp → Job α} (rest : ∀ t, Brief P n (next t)) :
    Brief P (n + 1) (.readWall next)
  | arm {m n : Nat} {late rest : Job α} (limit : Span) (after : Brief P m late) (before : Brief P n rest) :
    Brief P (n + m + 1) (.arm limit late rest)
  | disarm {n : Nat} {rest : Job α} (brief : Brief P n rest) : Brief P (n + 1) (.disarm rest)

/-- A deadline of a rehearsed job, in virtual time. -/
def virtual {σ : Type} (log : Service σ) (deadline : Option (Instant × Job Outcome)) :
    Option (Instant × (Nat → σ → Job.Passage Outcome σ)) :=
  deadline.map fun d => (d.1, fun i s => d.2.passing log none i d.1 s)

/-- If there is no deadline, none has passed. -/
theorem undated (t : Instant) : ∀ d ∈ (none : Option (Instant × Job Outcome)), t ≤ d.1 ∧ Brief Prompt 0 d.2 :=
  fun _ mem => by cases mem

/-- What has come of a rehearsed job is what becomes of it in virtual time. -/
structure Plays (w : World) (o : Job.Passage Outcome (Store × List Rule)) (played : Outcome × World) : Prop where
  leads : w.Leads o.calls o.reports played.2
  log : played.2.log = o.left
  ended : ∀ t a, o.ended = some (t, a) → played.1 = a ∧ played.2.clock.now = t
  blocked : o.ended = none → played.1 = .blocked

/-- What was called and reported before counts as well. -/
theorem Plays.behind {w w' : World} {calls : List (Instant × LogCall)} {reports : List Event}
    {o : Job.Passage Outcome (Store × List Rule)} {played : Outcome × World} (first : w.Leads calls reports w')
    (rest : Plays w' o played) : Plays w ⟨o.ended, calls ++ o.calls, reports ++ o.reports, o.left⟩ played :=
  ⟨first.trans rest.leads, rest.log, rest.ended, rest.blocked⟩

/-- The outcome of a step, if the job in it ends. -/
theorem Plays.outcome {α : Type} {w : World} {shown : α → Outcome} {o : Job.Passage α (Store × List Rule)}
    {played : Outcome × World} (plays : Plays w (o.map shown) played) :
    played.1 = (o.ended.map fun x => shown x.2).getD .blocked := by
  obtain ⟨ended, calls, reports, left⟩ := o
  cases ended with
  | none => exact plays.blocked rfl
  | some x => exact (plays.ended x.1 (shown x.2) rfl).1

/-- What the log in memory answers behind the rules. -/
theorem ruled_comeback (w : World) (client : String) (i : Nat) (c : LogCall) :
    (ruled client w.clock.wall).comeback i c w.clock.now w.log = (w.hitch client c).delay.map fun d =>
      let outcome := (w.hitch client c).outcome ⟨w.clock.now.after d, w.clock.wall⟩ c w.store
      ⟨d, outcome.1, (outcome.2, (applyRules c.operation client w.rules).2)⟩ := by
  simp only [ruled, Hitch.comeback, Option.map_map]
  rfl

/-- The answer of a call is in time if it is not held back past the deadline. -/
theorem ruled_inTime {w : World} {client : String} {c : LogCall} {d : Span}
    (after : (w.hitch client c).delay = some d) {deadline : Option (Instant × Job Outcome)}
    (early : ∀ x ∈ deadline, w.clock.now.after d ≤ x.1) (i : Nat) :
    let log := ruled client w.clock.wall
    let outcome := (w.hitch client c).outcome ⟨w.clock.now.after d, w.clock.wall⟩ c w.store
    log.inTime ((virtual log deadline).map (·.1)) i c w.clock.now w.log =
      some ⟨d, outcome.1, (outcome.2, (applyRules c.operation client w.rules).2)⟩ := by
  intro log outcome
  have back := ruled_comeback w client i c
  rw [after, Option.map_some] at back
  cases deadline with
  | none => exact (Service.inTime_none log i c w.clock.now w.log).trans back
  | some d => exact Service.inTime_eq_some back (early d rfl)

section Call

variable {client : String} {state : Option Consumer.State} {c : LogCall} {next : c.Result → Job Outcome}
  {deadline : Option (Instant × Job Outcome)} {fuel : Nat} {w w' : World} {f : Flight}
  (started : (startCall client state c).run w = (.out f, w'))

include started

theorem run_doJob_out (before : ∀ d ∈ deadline, w'.clock.now < d.1) :
    (doJob client state (fuel + 1) deadline (.call c next)).run w =
      (.inr (.job client state c f next deadline), w') := by
  rw [doJob, run_bind_of started]
  rcases deadline with _ | ⟨due, late⟩
  · rfl
  · have notYet : ¬ due ≤ w'.clock.now := Nat.not_le.2 (before _ rfl)
    simp only
    rw [run_bind_of (run_now w'), if_neg notYet]
    rfl

theorem run_doJob_late {due : Instant} (there : due ≤ w'.clock.now) (late : Job Outcome) :
    (doJob client state (fuel + 1) (some (due, late)) (.call c next)).run w =
      (doJob client state fuel none late).run w' := by
  rw [doJob, run_bind_of started]
  simp only
  rw [run_bind_of (run_now w'), if_pos there]

end Call

/-- How a rehearsed job goes on behind a call of it. -/
inductive CallPlayed (client : String) (state : Option Consumer.State) (c : LogCall) (next : c.Result → Job Outcome)
    (deadline : Option (Instant × Job Outcome)) (least turns : Nat) (w w' : World) : Outcome × World → Prop
  /-- The answer is in time. -/
  | back {d : Span} {fuel turns' : Nat} (after : (w.hitch client c).delay = some d)
    (early : ∀ x ∈ deadline, w.clock.now.after d ≤ x.1) (there : w'.clock.now = w.clock.now.after d)
    (log : w'.log = (((w.hitch client c).outcome ⟨w.clock.now.after d, w.clock.wall⟩ c w.store).2,
      (applyRules c.operation client w.rules).2))
    (enough : least ≤ fuel) (waits : turns ≤ turns') :
    CallPlayed client state c next deadline least turns w w' ((doJob client state fuel deadline
      (next ((w.hitch client c).outcome ⟨w.clock.now.after d, w.clock.wall⟩ c w.store).1) >>=
        settleWithin turns').run w')
  /-- The deadline is there first. -/
  | late {due : Instant} {late : Job Outcome} {fuel turns' : Nat} (armed : deadline = some (due, late))
    (past : ∀ d, (w.hitch client c).delay = some d → due < w.clock.now.after d) (there : w'.clock.now = due)
    (log : w'.log = (w.store, (applyRules c.operation client w.rules).2))
    (enough : least ≤ fuel) (waits : turns ≤ turns') :
    CallPlayed client state c next deadline least turns w w'
      ((doJob client state fuel none late >>= settleWithin turns').run w')
  /-- There is neither. -/
  | never (free : deadline = none) (hangs : (w.hitch client c).delay = none)
    (log : w'.log = (w.store, (applyRules c.operation client w.rules).2)) :
    CallPlayed client state c next deadline least turns w w' (.blocked, w')

section Out

variable {client : String} {state : Option Consumer.State} {c : LogCall} {next : c.Result → Job Outcome}
  {w w₁ : World} {f : Flight} (leads : w.Leads [(w.clock.now, c)] [] w₁) (clock : w₁.clock = w.clock)
  (started : (startCall client state c).run w = (.out f, w₁)) (held : Held (w.hitch client c) w.clock.now f)
  (log : w₁.log = (w.store, (applyRules c.operation client w.rules).2)) {least fuel : Nat}
  (patient : least ≤ patience) (turns : Nat)

include leads clock started held log patient

theorem callPlayed_back (prompt : Prompt c) {deadline : Option (Instant × Job Outcome)} {d : Span}
    (after : (w.hitch client c).delay = some d) (early : ∀ x ∈ deadline, w.clock.now.after d ≤ x.1) :
    ∃ w', w.Leads [(w.clock.now, c)] [] w' ∧ CallPlayed client state c next deadline least turns w w'
      ((doJob client state (fuel + 1) deadline (.call c next) >>= settleWithin (turns + 1)).run w) := by
  have stored : w₁.store = w.store := congrArg Prod.fst log
  have counted : w₁.rules = (applyRules c.operation client w.rules).2 := congrArg Prod.snd log
  have later := held.later after
  rw [← clock] at held later
  have early' (x : Instant × Job Outcome) (hx : x ∈ deadline) : w₁.clock.now.after d ≤ x.1 := by
    rw [clock]
    exact early x hx
  have before (x : Instant × Job Outcome) (hx : x ∈ deadline) : w₁.clock.now < x.1 :=
    Nat.lt_of_lt_of_le later (early' x hx)
  obtain ⟨w₂, waited, leads', there, log'⟩ := run_wait_back held leads.quiet turns prompt after early'
  refine ⟨w₂, leads.trans leads', ?_⟩
  rw [run_bind_of (run_doJob_out started before), settleWithin, waited, clock, stored]
  rw [clock] at there
  rw [clock, stored, counted] at log'
  exact .back after early there log' patient (Nat.le_refl turns)

theorem callPlayed_late {due : Instant} {late : Job Outcome} (notPast : w.clock.now ≤ due) (enough : least ≤ fuel)
    (past : ∀ d, (w.hitch client c).delay = some d → due < w.clock.now.after d) :
    ∃ w', w.Leads [(w.clock.now, c)] [] w' ∧ CallPlayed client state c next (some (due, late)) least turns w w'
      ((doJob client state (fuel + 1) (some (due, late)) (.call c next) >>= settleWithin (turns + 1)).run w) := by
  have here : w₁.clock.now = w.clock.now := congrArg Clock.now clock
  by_cases there : due ≤ w₁.clock.now
  · refine ⟨w₁, leads, ?_⟩
    rw [StateT.run_bind, run_doJob_late started there]
    rw [here] at there
    have atDue : w₁.clock.now = due := here.trans (congrArg Instant.mk (Nat.le_antisymm notPast there))
    exact .late rfl past atDue log enough (Nat.le_succ turns)
  · have before : w₁.clock.now < due := Nat.not_le.1 there
    have armed : ∀ x ∈ some (due, late), w₁.clock.now < x.1 := by
      rintro x ⟨⟩
      exact before
    have past' : ∀ d, (w.hitch client c).delay = some d → due < w₁.clock.now.after d := by rwa [clock]
    rw [← clock] at held
    refine ⟨w₁.jump due, leads.trans (leads.quiet.leads rfl rfl rfl rfl rfl rfl), ?_⟩
    rw [run_bind_of (run_doJob_out started armed), settleWithin,
      run_wait_late held leads.quiet turns before past' late]
    exact .late rfl past rfl log patient (Nat.le_refl turns)

omit patient in
theorem callPlayed_never (hangs : (w.hitch client c).delay = none) :
    ∃ w', w.Leads [(w.clock.now, c)] [] w' ∧ CallPlayed client state c next none least turns w w'
      ((doJob client state (fuel + 1) none (.call c next) >>= settleWithin (turns + 1)).run w) := by
  have free : ∀ x ∈ (none : Option (Instant × Job Outcome)), w₁.clock.now < x.1 := by simp
  rw [← clock] at held
  refine ⟨w₁, leads, ?_⟩
  rw [run_bind_of (run_doJob_out started free), settleWithin, run_wait_never held leads.quiet turns hangs]
  exact .never rfl hangs log

end Out

/-- **A call of a rehearsed job**, which may be waited for. -/
theorem run_call (client : String) (state : Option Consumer.State) {c : LogCall} (prompt : Prompt c)
    (next : c.Result → Job Outcome) {deadline : Option (Instant × Job Outcome)} {w : World} (quiet : w.Quiet)
    (notPast : ∀ d ∈ deadline, w.clock.now ≤ d.1) (least turns : Nat) {fuel : Nat} (enough : least ≤ fuel)
    (patient : least ≤ patience) :
    ∃ w', w.Leads [(w.clock.now, c)] [] w' ∧ CallPlayed client state c next deadline least turns w w'
      ((doJob client state (fuel + 1) deadline (.call c next) >>= settleWithin (turns + 1)).run w) := by
  obtain ⟨w₁, leads, clock, ⟨atOnce, started, log⟩ | ⟨f, held, started, log⟩⟩ :=
    startCall_cases quiet client state prompt
  · refine ⟨w₁, leads, ?_⟩
    have still : w.clock = ⟨w.clock.now.after .zero, w.clock.wall⟩ := rfl
    have goes : (doJob client state (fuel + 1) deadline (.call c next)).run w =
        (doJob client state fuel deadline (next ((w.hitch client c).outcome w.clock c w.store).1)).run w₁ := by
      rw [doJob, run_bind_of started]
    rw [still] at goes log
    rw [StateT.run_bind, goes]
    exact .back atOnce notPast (congrArg Clock.now clock) log enough (Nat.le_succ turns)
  · by_cases early : ∃ d, (w.hitch client c).delay = some d ∧ ∀ x ∈ deadline, w.clock.now.after d ≤ x.1
    · obtain ⟨d, after, early⟩ := early
      exact callPlayed_back leads clock started held log patient turns prompt after early
    · rcases deadline with _ | ⟨due, late⟩
      · have hangs : (w.hitch client c).delay = none := by
          rw [Option.eq_none_iff_forall_ne_some]
          intro d after
          exact early ⟨d, after, by simp⟩
        exact callPlayed_never leads clock started held log turns hangs
      · have past (d : Span) (after : (w.hitch client c).delay = some d) : due < w.clock.now.after d := by
          refine Nat.not_le.1 fun inTime => early ⟨d, after, ?_⟩
          rintro x ⟨⟩
          exact inTime
        exact callPlayed_late leads clock started held log patient turns (notPast _ rfl) enough past

/-- **A rehearsed job is a job in virtual time.** -/
theorem plays_job (client : String) (state : Option Consumer.State) (k fuel turns i : Nat) {n m : Nat}
    {job : Job Outcome} (brief : Brief Prompt n job) {deadline : Option (Instant × Job Outcome)} {w : World}
    (quiet : w.Quiet) {wall : Timestamp} (shows : w.clock.wall = wall)
    (notPast : ∀ d ∈ deadline, w.clock.now ≤ d.1 ∧ Brief Prompt m d.2) (total : n + m = k)
    (enough : k < fuel) (waits : k ≤ turns) (patient : k < patience) :
    Plays w (job.passing (ruled client wall) (virtual (ruled client wall) deadline) i w.clock.now w.log)
      ((doJob client state fuel deadline job >>= settleWithin turns).run w) := by
  -- The induction is on the turns that the job and what it does at the deadline take together.
  induction k using Nat.strong_induction_on generalizing fuel turns i n m job deadline w with
  | _ k ih =>
  obtain ⟨fuel, rfl⟩ : ∃ f, fuel = f + 1 := ⟨fuel - 1, by omega⟩
  cases brief with
  | done _ a =>
    exact ⟨.refl quiet, rfl, fun t b ended => by cases ended; exact ⟨rfl, rfl⟩, fun never => by cases never⟩
  | @report n rest e brief =>
    let told : World := { w with records := ⟨w.clock.now, .reported e⟩ :: w.records }
    have first : w.Leads [] [e] told := by
      refine ⟨⟨quiet.idle, quiet.still, quiet.ready, quiet.plain⟩, rfl, ?_, ?_⟩ <;>
        simp [told, World.called, World.reported]
    exact .behind first <|
      ih (n + m) (by omega) fuel turns i brief first.quiet shows notPast rfl (by omega) (by omega) (by omega)
  | @readWall n next rest =>
    obtain rfl := shows
    exact ih (n + m) (by omega) fuel turns i (rest _) quiet rfl notPast rfl (by omega) (by omega) (by omega)
  | @arm m' n late rest limit after before =>
    have armed : ∀ d ∈ some (w.clock.now.after limit, late), w.clock.now ≤ d.1 ∧ Brief Prompt m' d.2 := by
      rintro d ⟨⟩
      exact ⟨Nat.le_add_right _ _, after⟩
    exact ih (n + m') (by omega) fuel turns i before quiet shows armed rfl (by omega) (by omega) (by omega)
  | @disarm n rest brief =>
    exact ih (n + 0) (by omega) fuel turns i brief quiet shows (undated _) rfl (by omega) (by omega) (by omega)
  | @call n c next prompt rest =>
    obtain ⟨turns, rfl⟩ : ∃ f, turns = f + 1 := ⟨turns - 1, by omega⟩
    obtain ⟨w', leads, played⟩ := run_call client state prompt next quiet (fun d hd => (notPast d hd).1) k turns
      (Nat.le_of_lt_succ enough) (Nat.le_of_lt patient)
    obtain rfl := shows
    generalize (doJob client state (fuel + 1) deadline (.call c next) >>= settleWithin (turns + 1)).run w = result
      at played ⊢
    cases played with
    | @back _ fuel' turns' after early there log enough waits =>
      rw [Job.passing_call_of_some (ruled_inTime after early i)]
      have stillOpen : ∀ d ∈ deadline, w'.clock.now ≤ d.1 ∧ Brief Prompt m d.2 := fun d hd =>
        ⟨by rw [there]; exact early d hd, (notPast d hd).2⟩
      have goes (r : c.Result) := ih (n + m) (by omega) fuel' turns' (i + 1) (rest r) leads.quiet leads.wall stillOpen
        rfl (by omega) (by omega) (by omega)
      rw [there, log] at goes
      exact .behind leads (goes _)
    | @late due late fuel' turns' armed past there log enough waits =>
      obtain rfl := armed
      have missed : (ruled client w.clock.wall).inTime (some due) i c w.clock.now w.log = none := by
        refine Service.inTime_eq_none ?_
        intro b back
        rw [ruled_comeback] at back
        obtain ⟨d, after, rfl⟩ := Option.map_eq_some_iff.1 back
        exact past d after
      have goes := ih (m + 0) (by omega) fuel' turns' (i + 1) (notPast _ rfl).2 leads.quiet leads.wall (undated _) rfl
        (by omega) (by omega) (by omega)
      rw [there, log] at goes
      rw [virtual, Option.map_some, Job.passing_call_of_none missed]
      exact .behind leads goes
    | never free hangs log =>
      obtain rfl := free
      have silent : (ruled client w.clock.wall).inTime none i c w.clock.now w.log = none := by
        rw [Service.inTime_none, ruled_comeback, hangs, Option.map_none]
      rw [virtual, Option.map_none, Job.passing_call_of_hung silent]
      exact ⟨leads, log, (fun t a ended => by cases ended), fun _ => rfl⟩

/-! ### Publishers -/

section Brief

variable {α β : Type} {P Q : LogCall → Prop} {n m : Nat} {job : Job α}

theorem Brief.mono (brief : Brief P n job) (le : n ≤ m) : Brief P m job := by
  induction brief generalizing m with
  | done _ a => exact .done m a
  | call prompt rest ih =>
    obtain ⟨m, rfl⟩ : ∃ k, m = k + 1 := ⟨m - 1, by omega⟩
    exact .call prompt fun r => ih r (by omega)
  | report e brief ih =>
    obtain ⟨m, rfl⟩ : ∃ k, m = k + 1 := ⟨m - 1, by omega⟩
    exact .report e (ih (by omega))
  | readWall rest ih =>
    obtain ⟨m, rfl⟩ : ∃ k, m = k + 1 := ⟨m - 1, by omega⟩
    exact .readWall fun t => ih t (by omega)
  | @arm a b _ _ limit after before ihAfter ihBefore =>
    obtain ⟨m, rfl⟩ : ∃ k, m = k + a + 1 := ⟨m - a - 1, by omega⟩
    exact .arm limit after (ihBefore (by omega))
  | disarm brief ih =>
    obtain ⟨m, rfl⟩ : ∃ k, m = k + 1 := ⟨m - 1, by omega⟩
    exact .disarm (ih (by omega))

theorem Brief.bind_done (brief : Brief P n job) (f : α → β) : Brief P n (job.bind fun a => .done (f a)) := by
  induction brief with
  | done n a => exact .done n (f a)
  | call prompt rest ih => exact .call prompt ih
  | report e brief ih => exact .report e ih
  | readWall rest ih => exact .readWall ih
  | arm limit after before ihAfter ihBefore => exact .arm limit ihAfter ihBefore
  | disarm brief ih => exact .disarm ih

theorem Brief.imp (brief : Brief P n job) (all : ∀ c, P c → Q c) : Brief Q n job := by
  induction brief with
  | done n a => exact .done n a
  | call made rest ih => exact .call (all _ made) ih
  | report e brief ih => exact .report e ih
  | readWall rest ih => exact .readWall ih
  | arm limit after before ihAfter ihBefore => exact .arm limit ihAfter ihBefore
  | disarm brief ih => exact .disarm ih

end Brief

/-- A call that appends. -/
def Appends (c : LogCall) : Prop := c.operation = "append"

theorem Appends.prompt {c : LogCall} (appends : Appends c) : Prompt c := by
  cases c with
  | readNew => simp [Appends, LogCall.operation] at appends
  | createGroup => simp [Appends, LogCall.operation] at appends
  | _ => trivial

theorem brief_publish_bind {β : Type} (p : PublisherConfig) (message : String)
    {f : Except QueueError StreamId → Job β} {m n : Nat}
    (late : Brief Appends m (f (.error (.timeout p.timeout)))) (rest : ∀ r, Brief Appends n (f r)) :
    Brief Appends (n + 2 + m + 1) ((Publisher.publish p message).bind f) := by
  rw [Publisher.publish_bind]
  exact .arm p.timeout late (.call rfl fun r => .disarm (rest _))

theorem brief_publish (p : PublisherConfig) (message : String) : Brief Appends 3 (Publisher.publish p message) := by
  rw [Publisher.publish, Publisher.timed_eq]
  exact .arm p.timeout (.done 0 _) (.call rfl fun r => .disarm (.done 0 _))

theorem brief_publishFrom (p : PublisherConfig) (messages : List String) (i : Nat) :
    Brief Appends (5 * messages.length) (Publisher.publishFrom p i messages) := by
  induction messages generalizing i with
  | nil => exact .done 0 _
  | cons message messages ih =>
    have failed (n : Nat) (e : QueueError) : Brief Appends (n + 1) (Publisher.onward p i messages (.error e)) :=
      .report _ (.done n _)
    have goes (r : Except QueueError StreamId) :
        Brief Appends (5 * messages.length + 1) (Publisher.onward p i messages r) := by
      cases r with
      | error e => exact failed _ e
      | ok id => exact ((ih (i + 1)).bind_done _).mono (Nat.le_succ _)
    rw [Publisher.publishFrom_cons]
    exact brief_publish_bind p message (failed 0 _) goes

theorem brief_backlog (p : PublisherConfig) (group : String) : Brief Prompt 5 (Publisher.backlog p group) := by
  have counts (fresh : Except QueueError Nat) :
      Brief Prompt 2 ((Publisher.countPending p group fresh).bind fun r => .disarm (.done r)) := by
    cases fresh with
    | error e => exact .disarm (.done 1 _)
    | ok fresh =>
      refine .call trivial fun r => ?_
      cases r <;> exact .disarm (.done 0 _)
  have counted (r : Except LogError (List GroupInfo)) :
      Brief Prompt 3 ((Publisher.countFor p group r).bind fun r => .disarm (.done r)) := by
    cases r with
    | error e => exact .disarm (.done 2 _)
    | ok groups =>
      simp only [Publisher.countFor]
      cases groups.find? fun g => g.name == group with
      | none => exact .disarm (.done 2 _)
      | some g =>
        simp only [Publisher.undelivered]
        cases g.neverRead <;> exact .call trivial fun r => counts _
  rw [Publisher.backlog_eq, Publisher.timed_eq]
  exact .arm p.timeout (.done 0 _) (.call trivial counted)

/-- What a client does in a rehearsal, shown as an outcome. -/
theorem plays_shown {α : Type} (client : String) (state : Option Consumer.State) (shown : α → Outcome) {n : Nat}
    {job : Job α} (brief : Brief Prompt n job) (patient : n < patience) {w : World} (quiet : w.Quiet) :
    Plays w ((job.passing (ruled client w.clock.wall) none 0 w.clock.now w.log).map shown)
      ((Rehearsal.play client state (shown <$> job)).run w) := by
  have plays := plays_job client state n patience patience 0 (brief.bind_done shown) quiet rfl (undated _) rfl patient
    (Nat.le_of_lt patient) patient
  have whole := Job.passing_bind_done (ruled client w.clock.wall) shown job none 0 w.clock.now w.log
  rw [Option.map_none] at whole
  rw [virtual, Option.map_none, whole] at plays
  have settles : settle = settleWithin patience := by
    funext r
    cases r <;> rfl
  rw [Rehearsal.play, settles]
  exact plays

/-- **A publisher in a rehearsal** does what it does in virtual time, with the log in memory behind the rules. -/
theorem plays_publisher {w : World} (quiet : w.Quiet) {name : String} {p : PublisherConfig}
    (known : w.publishers.get? name = some p) :
    let inTime {α : Type} (job : Job α) := job.passing (ruled name w.clock.wall) none 0 w.clock.now w.log
    (∀ message, Plays w ((inTime (Publisher.publish p message)).map .published)
      ((Step.publish name message).play.run w)) ∧
    (∀ messages, 5 * messages.length < patience →
      Plays w ((inTime (Publisher.publishBatch p messages)).map .batch)
        ((Step.publishBatch name messages).play.run w)) ∧
    ∀ group, Plays w ((inTime (Publisher.backlog p group)).map .backlog)
      ((Step.backlog name group).play.run w) := by
  intro inTime
  refine ⟨fun message => ?_, fun messages few => ?_, fun group => ?_⟩
  · rw [Step.play, run_bind_of (run_get w), known]
    exact plays_shown name none .published ((brief_publish p message).imp fun _ => Appends.prompt) (by decide) quiet
  · rw [Step.play, run_bind_of (run_get w), known]
    exact plays_shown name none .batch ((brief_publishFrom p messages 0).imp fun _ => Appends.prompt) few quiet
  · rw [Step.play, run_bind_of (run_get w), known]
    exact plays_shown name none .backlog (brief_backlog p group) (by decide) quiet

/-! ### Batches -/

/-- The rules behind which a client makes its next append after so many. -/
def rulesBehind (client : String) (rules : List Rule) : Nat → List Rule
  | 0 => rules
  | i + 1 => (applyRules "append" client (rulesBehind client rules i)).2

/-- What hinders the appends of a client, one after the other. -/
def hitches (client : String) (rules : List Rule) (i : Nat) : Hitch :=
  hitchOf (applyRules "append" client (rulesBehind client rules i)).1

/-- A passage on the log behind the rules is one on the log that is hindered. -/
def Follows {α : Type} (client : String) (rules : List Rule) (o : Job.Passage α (Store × List Rule))
    (o' : Job.Passage α Store) : Prop :=
  ∃ j, o = ⟨o'.ended, o'.calls, o'.reports, (o'.left, rulesBehind client rules j)⟩

/-- **Rules hinder appends one by one.** -/
theorem follows_hindered {α : Type} (client : String) (rules : List Rule) (wall : Timestamp) {n : Nat} {job : Job α}
    (brief : Brief Appends n job)
    {deadline : Option (Instant × (Nat → Store × List Rule → Job.Passage α (Store × List Rule)))}
    {deadline' : Option (Instant × (Nat → Store → Job.Passage α Store))}
    (alike : Option.Rel (fun d d' => d.1 = d'.1 ∧
      ∀ i s, Follows client rules (d.2 i (s, rulesBehind client rules i)) (d'.2 i s)) deadline deadline')
    (i : Nat) (t : Instant) (s : Store) :
    Follows client rules (job.passing (ruled client wall) deadline i t (s, rulesBehind client rules i))
      (job.passing (.hindered (hitches client rules) fun _ => wall) deadline' i t s) := by
  induction brief generalizing deadline deadline' i t s with
  | done n a => exact ⟨i, rfl⟩
  | report e brief ih =>
    obtain ⟨j, eq⟩ := ih alike i t s
    refine ⟨j, ?_⟩
    simp only [Job.passing, eq]
  | readWall rest ih => exact ih wall alike i t s
  | arm limit after before ihAfter ihBefore =>
    exact ihBefore (.some ⟨rfl, fun i s => ihAfter .none i (t.after limit) s⟩) i t s
  | disarm brief ih => exact ih .none i t s
  | @call n c next made rest ih =>
    have dues : deadline.map (·.1) = deadline'.map (·.1) := by
      cases alike with
      | none => rfl
      | some alike => exact congrArg some alike.1
    have comeback : (ruled client wall).comeback i c t (s, rulesBehind client rules i) =
        ((Service.hindered (hitches client rules) fun _ => wall).comeback i c t s).map fun b =>
          ⟨b.after, b.result, (b.left, rulesBehind client rules (i + 1))⟩ := by
      have operation : c.operation = "append" := made
      simp only [ruled, Service.hindered, hitches, rulesBehind, operation]
    have inTime (due : Option Instant) : (ruled client wall).inTime due i c t (s, rulesBehind client rules i) =
        ((Service.hindered (hitches client rules) fun _ => wall).inTime due i c t s).map fun b =>
          ⟨b.after, b.result, (b.left, rulesBehind client rules (i + 1))⟩ := by
      rw [Service.inTime, Service.inTime, comeback, Option.filter_map]
      rfl
    have lost : (ruled client wall).lost c (s, rulesBehind client rules i) =
        (s, rulesBehind client rules (i + 1)) := by
      rw [rulesBehind, ← made]
      rfl
    cases back : (Service.hindered (hitches client rules) fun _ => wall).inTime (deadline'.map (·.1)) i c t s with
    | some b =>
      have back' := inTime (deadline.map (·.1))
      rw [dues, back, Option.map_some, ← dues] at back'
      obtain ⟨j, eq⟩ := ih b.result alike (i + 1) (t.after b.after) b.left
      refine ⟨j, ?_⟩
      rw [Job.passing_call_of_some back, Job.passing_call_of_some back', eq]
      rfl
    | none =>
      cases alike with
      | none =>
        have never := inTime none
        rw [Option.map_none] at back
        rw [back, Option.map_none] at never
        refine ⟨i + 1, ?_⟩
        rw [Job.passing_call_of_hung never, Job.passing_call_of_hung back, lost]
        rfl
      | @some d d' alike =>
        obtain ⟨due, late⟩ := d
        obtain ⟨due', late'⟩ := d'
        obtain ⟨rfl, alike⟩ := alike
        have missed := inTime (some due)
        rw [Option.map_some] at back
        rw [back, Option.map_none] at missed
        obtain ⟨j, eq⟩ : Follows client rules (late (i + 1) (s, rulesBehind client rules (i + 1)))
            (late' (i + 1) s) := alike (i + 1) s
        refine ⟨j, ?_⟩
        rw [Job.passing_call_of_none missed, Job.passing_call_of_none back, lost, eq]
        rfl

/-- **A batch in a rehearsal** writes a prefix of its messages, as the rules have it. -/
theorem rehearsed_batch {w : World} (quiet : w.Quiet) {name : String} {p : PublisherConfig}
    (known : w.publishers.get? name = some p) {messages : List String} (few : 5 * messages.length < patience) :
    ∃ n posts o,
      Publisher.Published p (hitches name w.rules) (fun _ => w.clock.wall) w.store 0 messages n posts o ∧
      let played := (Step.publishBatch name messages).play.run w
      played.1 = (o.ended.map fun x => .batch x.2).getD .blocked ∧ played.2.store = o.left ∧
        played.2.called = w.called ++ o.calls ∧ played.2.reported = w.reported ++ o.reports := by
  obtain ⟨-, batch, -⟩ := plays_publisher quiet known
  have plays : Plays w (((Publisher.publishBatch p messages).passing (ruled name w.clock.wall) none 0 w.clock.now
      w.log).map .batch) ((Step.publishBatch name messages).play.run w) := batch messages few
  let o := (Publisher.publishBatch p messages).passing (.hindered (hitches name w.rules) fun _ => w.clock.wall) none 0
    w.clock.now w.store
  obtain ⟨n, posts, published⟩ : ∃ n posts,
      Publisher.Published p (hitches name w.rules) (fun _ => w.clock.wall) w.store 0 messages n posts o :=
    Publisher.published_batch p (hitches name w.rules) (fun _ => w.clock.wall) messages 0 w.clock.now w.store
  obtain ⟨j, follows⟩ : Follows name w.rules ((Publisher.publishBatch p messages).passing (ruled name w.clock.wall)
      none 0 w.clock.now w.log) o :=
    follows_hindered name w.rules w.clock.wall (brief_publishFrom p messages 0) .none 0 w.clock.now w.store
  rw [follows] at plays
  exact ⟨n, posts, o, published, plays.outcome, congrArg Prod.fst plays.log, plays.leads.called,
    plays.leads.reported⟩

/-! ### Scripts -/

/-- A step in a rehearsal with publishers only. -/
inductive Publishes : Step → Prop
  | call {c : LogCall} (prompt : Prompt c) : Publishes (.log (.call c))
  | createGroup (stream group : String) (start : StreamId) :
    Publishes (.log (.call (.createGroup stream group start)))
  | setWall (t : Timestamp) : Publishes (.log (.setWall t))
  | addRule {r : Rule} (plain : r.fault.steps = [] ∧ r.fault.cancels = none) : Publishes (.addRule r)
  | heal : Publishes .heal
  | newPublisher (name : String) (p : PublisherConfig) : Publishes (.newPublisher name p)
  | publish (name message : String) : Publishes (.publish name message)
  | publishBatch (name : String) {messages : List String} (few : 5 * messages.length < patience) :
    Publishes (.publishBatch name messages)
  | backlog (name group : String) : Publishes (.backlog name group)

theorem quiet_reportAll {w : World} (quiet : w.Quiet) (events : List Event) :
    ((reportAll events).run w).2.Quiet := by
  induction events generalizing w with
  | nil => exact quiet
  | cons e events ih =>
    have told : ((record (.reported e)).run w).2.Quiet := ⟨quiet.idle, quiet.still, quiet.ready, quiet.plain⟩
    exact ih told

theorem quiet_withNamed {α : Type} {w : World} (quiet : w.Quiet) {found : Option α} {f : α → Play Outcome}
    (each : ∀ a, ((f a).run w).2.Quiet) : ((withNamed found f).run w).2.Quiet := by
  cases found with
  | none => exact quiet
  | some a => exact each a

/-- A quiet world stays so with publishers only. -/
theorem Publishes.quiet {s : Step} (publishes : Publishes s) {w : World} (quiet : w.Quiet) :
    (s.play.run w).2.Quiet := by
  cases publishes with
  | @call c prompt =>
    obtain ⟨w', performed, leads, -⟩ := run_perform quiet prompt
    have played : ((Step.log (.call c)).play.run w).2 = ((perform c).run w).2 := by
      cases c with
      | readNew => exact absurd prompt id
      | _ => rfl
    rw [played, performed]
    exact leads.quiet
  | createGroup stream group start =>
    let c := LogCall.createGroup stream group start
    let done := w.store.perform w.clock c
    have left : ({ w with store := done.2 } : World).Quiet := ⟨quiet.idle, quiet.still, quiet.ready, quiet.plain⟩
    exact quiet_reportAll left (c.events done.1)
  | setWall t => exact ⟨quiet.idle, quiet.still, quiet.ready, quiet.plain⟩
  | addRule plain =>
    refine ⟨quiet.idle, quiet.still, quiet.ready, fun r hr => ?_⟩
    rcases List.mem_append.1 hr with old | new
    · exact quiet.plain r old
    · rw [List.mem_singleton.1 new]
      exact plain
  | heal => exact ⟨quiet.idle, quiet.still, quiet.ready, fun _ mem => by cases mem⟩
  | newPublisher name p => exact ⟨quiet.idle, quiet.still, quiet.ready, quiet.plain⟩
  | publish name message =>
    rw [Step.play, run_bind_of (run_get w)]
    exact quiet_withNamed quiet fun p => (plays_shown name none .published
      ((brief_publish p message).imp fun _ => Appends.prompt) (by decide) quiet).leads.quiet
  | @publishBatch name messages few =>
    rw [Step.play, run_bind_of (run_get w)]
    exact quiet_withNamed quiet fun p => (plays_shown name none .batch
      ((brief_publishFrom p messages 0).imp fun _ => Appends.prompt) few quiet).leads.quiet
  | backlog name group =>
    rw [Step.play, run_bind_of (run_get w)]
    exact quiet_withNamed quiet fun p =>
      (plays_shown name none .backlog (brief_backlog p group) (by decide) quiet).leads.quiet

theorem quiet_mapM {script : List Step} (publish : ∀ s ∈ script, Publishes s) {w : World} (quiet : w.Quiet) :
    ((script.mapM Step.scene).run w).2.Quiet := by
  induction script generalizing w with
  | nil => exact quiet
  | cons s script ih =>
    obtain ⟨first, rest⟩ := List.forall_mem_cons.1 publish
    have played := first.quiet quiet
    have cleared : ((s.scene).run w).2.Quiet := ⟨played.idle, played.still, played.ready, played.plain⟩
    rw [List.mapM_cons, StateT.run_bind]
    exact ih rest cleared

/-- A world in which nothing has happened is quiet. -/
theorem quiet_initial (wall : Timestamp) : (World.initial wall).Quiet where
  idle := fun _ mem => by cases mem
  still := fun _ mem => by cases mem
  ready := rfl
  plain := fun _ mem => by cases mem

/-- **A rehearsal with publishers only is quiet**, whatever the rules do to their calls. -/
theorem quiet_script (wall : Timestamp) {script : List Step} (publish : ∀ s ∈ script, Publishes s) :
    ((script.mapM Step.scene).run (World.initial wall)).2.Quiet :=
  quiet_mapM publish (quiet_initial wall)

end Rehearsal

end StreamQueue
