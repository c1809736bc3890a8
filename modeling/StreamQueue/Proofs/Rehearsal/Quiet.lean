import StreamQueue.Rehearsal.Play
import StreamQueue.Proofs.Publisher.Batch

/-!
# Quiet rehearsals

In a rehearsal a step is played by turns: it starts a call, and if this does not come back at once it
looks at it again, each time that the clock has jumped to the next instant at which anybody has something
to do. The tasks beside the script go on meanwhile.

A world is quiet if there is no such task, and if the rules do nothing but hold calls back, refuse them or
let them hang. Then the clock jumps straight to the instant at which the call that is out comes back, or to
the deadline of the job if that is earlier.

## What is proved

* `Rehearsal.startCall_cases` — a call comes back at once, or is held back.
* `Rehearsal.run_wait_back`, `Rehearsal.run_wait_late`, `Rehearsal.run_wait_never` — what the waiting for
  a call comes to.
-/

namespace StreamQueue

namespace Rehearsal

/-- The time that a fault holds a call back, and what the call is refused with. -/
def hitchOf : Option Fault → Hitch
  | none => ⟨some .zero, none⟩
  | some f => ⟨if f.hangs then none else some f.delay, f.refusal⟩

/-- Nobody but the script is there, and the rules do nothing but hold calls back, refuse them or let
them hang. -/
structure World.Quiet (w : World) : Prop where
  idle : ∀ p ∈ w.workers.pairs, p.2.run = none
  still : ∀ p ∈ w.reads.pairs, p.2.flight = none
  ready : w.ready = []
  plain : ∀ r ∈ w.rules, r.fault.steps = [] ∧ r.fault.cancels = none

namespace World

/-- A world after its clock has jumped. -/
def jump (w : World) (t : Instant) : World := { w with clock := { w.clock with now := t } }

/-- The log of a world and its rules. -/
def log (w : World) : Store × List Rule := (w.store, w.rules)

/-- The calls that were recorded, in order, each with its instant. -/
def called (w : World) : List (Instant × LogCall) :=
  w.records.reverse.filterMap fun r => match r.happening with
    | .called _ c _ => some (r.time, c)
    | .reported _ => none

/-- The events that were recorded, in order. -/
def reported (w : World) : List Event :=
  w.records.reverse.filterMap fun r => match r.happening with
    | .called _ _ _ => none
    | .reported e => some e

/-- A quiet world in which calls and reports were made, and nothing else was done to the clock on the wall. -/
structure Leads (w : World) (calls : List (Instant × LogCall)) (reports : List Event) (w' : World) : Prop where
  quiet : w'.Quiet
  wall : w'.clock.wall = w.clock.wall
  called : w'.called = w.called ++ calls
  reported : w'.reported = w.reported ++ reports

variable {w w' : World}

theorem Quiet.flights (quiet : w.Quiet) : w.flights = [] := by
  rw [World.flights, List.append_eq_nil_iff, List.flatMap_eq_nil_iff, List.flatMap_eq_nil_iff]
  constructor
  · intro p hp
    simp [quiet.idle p hp]
  · intro p hp
    simp [quiet.still p hp]

theorem Quiet.timers (quiet : w.Quiet) : w.timers = [] := by
  rw [World.timers, quiet.flights, List.filterMap_nil, List.nil_append, World.tickers,
    List.filterMap_eq_nil_iff]
  intro p hp
  simp [quiet.idle p hp]

theorem Quiet.busyTasks (quiet : w.Quiet) : w.busyTasks = [] := by
  rw [World.busyTasks, List.filterMap_eq_nil_iff]
  intro p hp
  simp [quiet.idle p hp]

end World

namespace World

variable {w w' w'' : World} {calls calls' : List (Instant × LogCall)} {reports reports' : List Event}

theorem Leads.refl (quiet : w.Quiet) : w.Leads [] [] w :=
  ⟨quiet, rfl, (List.append_nil _).symm, (List.append_nil _).symm⟩

/-- What else there is in a world does not matter. -/
theorem Quiet.leads (quiet : w.Quiet) (workers : w'.workers = w.workers) (reads : w'.reads = w.reads)
    (ready : w'.ready = w.ready) (rules : w'.rules = w.rules) (records : w'.records = w.records)
    (wall : w'.clock.wall = w.clock.wall) : w.Leads [] [] w' where
  quiet := by
    refine ⟨?_, ?_, ?_, ?_⟩
    · rw [workers]
      exact quiet.idle
    · rw [reads]
      exact quiet.still
    · rw [ready]
      exact quiet.ready
    · rw [rules]
      exact quiet.plain
  wall := wall
  called := by rw [World.called, records, List.append_nil, World.called]
  reported := by rw [World.reported, records, List.append_nil, World.reported]

theorem Leads.trans (first : w.Leads calls reports w') (second : w'.Leads calls' reports' w'') :
    w.Leads (calls ++ calls') (reports ++ reports') w'' where
  quiet := second.quiet
  wall := second.wall.trans first.wall
  called := by rw [second.called, first.called, List.append_assoc]
  reported := by rw [second.reported, first.reported, List.append_assoc]

end World

/-- A call that answers at once and reports nothing: anything but a read for new entries or the
creation of a group. -/
def Prompt : LogCall → Prop
  | .readNew .. | .createGroup .. => False
  | _ => True

/-- A call that is not held back any more is refused or goes on to the log. -/
def release (c : LogCall) : Option LogError → Play (Progress c)
  | some e => return .returned (.error e)
  | none => goOn c

/-! ### Single plays -/

theorem run_get (w : World) : (get : Play World).run w = (w, w) := rfl

theorem run_now (w : World) : now.run w = (w.clock.now, w) := rfl

theorem run_bind_of {α β : Type} {x : Play α} {w w' : World} {a : α} (ran : x.run w = (a, w'))
    (f : α → Play β) : (x >>= f).run w = (f a).run w' := by
  rw [StateT.run_bind, ran]
  rfl

section Plays

variable {w : World} (quiet : w.Quiet)

include quiet

theorem run_runTasks (fuel : Nat) : (runTasks fuel).run w = ((), w) := by
  cases fuel with
  | zero => rfl
  | succ fuel =>
    rw [runTasks, run_bind_of (run_get w), quiet.ready]
    rfl

theorem run_jumpTo (t : Instant) : (jumpTo t).run w = ((), w.jump t) := by
  have timers : (w.jump t).timers = [] := quiet.timers
  have jumped : (modify fun w => { w with clock := { w.clock with now := t } } : Play Unit).run w = ((), w.jump t) :=
    rfl
  rw [jumpTo, run_bind_of jumped, run_bind_of (run_get _), timers]
  simp only [List.filter_nil, List.mergeSort_nil]
  rfl

theorem run_announce (stream : String) (id : StreamId) :
    (announce stream id).run w = ((), { w with feed := w.feed.send ⟨stream, id⟩ }) := by
  let sent : World := { w with feed := w.feed.send ⟨stream, id⟩ }
  have flights : sent.flights = [] := quiet.flights
  have told : (modify fun w => { w with feed := w.feed.send ⟨stream, id⟩ } : Play Unit).run w = ((), sent) := rfl
  rw [announce, run_bind_of told, run_bind_of (run_get _), flights]
  simp only [List.filterMap_nil, List.mergeSort_nil]
  rfl

/-- A call that is carried out changes the log, and is announced if it is an append. -/
theorem run_perform {c : LogCall} (prompt : Prompt c) :
    ∃ w', (perform c).run w = ((w.store.perform w.clock c).1, w') ∧ w.Leads [] [] w' ∧
      w'.clock = w.clock ∧ w'.log = ((w.store.perform w.clock c).2, w.rules) := by
  cases c with
  | append stream fields maxLen =>
    let id := (w.store.append w.clock.wall stream fields maxLen).1
    let appended : World := { w with store := (w.store.append w.clock.wall stream fields maxLen).2 }
    have calm : appended.Quiet := ⟨quiet.idle, quiet.still, quiet.ready, quiet.plain⟩
    have announced := run_announce calm stream id
    have performed : (perform (.append stream fields maxLen)).run w =
        (do announce stream id; return .ok id : Play (Except LogError StreamId)).run appended := rfl
    refine ⟨{ appended with feed := w.feed.send ⟨stream, id⟩ }, ?_, quiet.leads rfl rfl rfl rfl rfl rfl, rfl,
      rfl⟩
    rw [performed, StateT.run_bind, announced]
    rfl
  | readNew => exact absurd prompt id
  | createGroup => exact absurd prompt id
  | _ => exact ⟨_, rfl, quiet.leads rfl rfl rfl rfl rfl rfl, rfl, rfl⟩

theorem run_release {c : LogCall} (prompt : Prompt c) (h : Hitch) :
    ∃ w', (release c h.refusal).run w = (.returned (h.outcome w.clock c w.store).1, w') ∧
      w.Leads [] [] w' ∧ w'.clock = w.clock ∧ w'.log = ((h.outcome w.clock c w.store).2, w.rules) := by
  rw [Hitch.outcome]
  cases h.refusal with
  | some e => exact ⟨w, rfl, .refl quiet, rfl, rfl⟩
  | none =>
    obtain ⟨w', performed, leads⟩ := run_perform quiet prompt
    refine ⟨w', ?_, leads⟩
    have goes : release c none = (do return .returned (← perform c) : Play (Progress c)) := by
      cases c with
      | readNew => exact absurd prompt id
      | _ => rfl
    rw [goes, StateT.run_bind, performed]
    rfl

end Plays

/-! ### A call of a client -/

/-- Rules that do nothing but hold calls back, refuse them or let them hang stay so. -/
theorem plain_applyRules (operation client : String) {rules : List Rule}
    (plain : ∀ r ∈ rules, r.fault.steps = [] ∧ r.fault.cancels = none) :
    (∀ f ∈ (applyRules operation client rules).1, f.steps = [] ∧ f.cancels = none) ∧
      ∀ r ∈ (applyRules operation client rules).2, r.fault.steps = [] ∧ r.fault.cancels = none := by
  induction rules with
  | nil => simp [applyRules]
  | cons r rest ih =>
    obtain ⟨first, others⟩ := List.forall_mem_cons.1 plain
    obtain ⟨fault, rules⟩ := ih others
    simp only [applyRules]
    split
    · split
      · exact ⟨fault, List.forall_mem_cons.2 ⟨first, rules⟩⟩
      · refine ⟨?_, List.forall_mem_cons.2 ⟨first, others⟩⟩
        intro f hf
        rw [← Option.some.inj hf]
        exact first
    · exact ⟨fault, List.forall_mem_cons.2 ⟨first, rules⟩⟩

/-- What hinders a call in a world. -/
def World.hitch (w : World) (client : String) (c : LogCall) : Hitch :=
  hitchOf (applyRules c.operation client w.rules).1

/-- A world in which a call was recorded and counted. -/
def World.counted (w : World) (client : String) (state : Option Consumer.State) (c : LogCall) : World :=
  { w with
    records := ⟨w.clock.now, .called client c state⟩ :: w.records
    rules := (applyRules c.operation client w.rules).2 }

theorem World.Quiet.counted {w : World} (quiet : w.Quiet) (client : String) (state : Option Consumer.State)
    (c : LogCall) : w.Leads [(w.clock.now, c)] [] (w.counted client state c) where
  quiet := ⟨quiet.idle, quiet.still, quiet.ready, (plain_applyRules c.operation client quiet.plain).2⟩
  wall := rfl
  called := by
    simp [World.called, World.counted]
  reported := by
    simp [World.reported, World.counted]

/-- How a call goes on when it was recorded and counted. -/
def through (c : LogCall) : Option Fault → Play (Progress c)
  | none => goOn c
  | some f =>
    if f.hangs then return .out .hung
    else if Span.zero < f.delay then do
      return .out (.delayed ((← now).after f.delay) f.refusal (← stamp))
    else release c f.refusal

theorem run_startCall {w : World} (quiet : w.Quiet) (client : String) (state : Option Consumer.State)
    (c : LogCall) : (startCall client state c).run w =
      (through c (applyRules c.operation client w.rules).1).run (w.counted client state c) := by
  have plain := (plain_applyRules c.operation client quiet.plain).1
  have begun : (startCall client state c).run w = (match (applyRules c.operation client w.rules).1 with
      | none => goOn c
      | some fault => do
        for s in fault.steps do
          let _ ← s.play
        fault.cancels.forM cancelRun
        through c (some fault) : Play (Progress c)).run (w.counted client state c) := rfl
  rw [begun]
  cases fault : (applyRules c.operation client w.rules).1 with
  | none => rfl
  | some f =>
    obtain ⟨steps, cancels⟩ := plain f fault
    simp [steps, cancels]

/-- Where a call is that was started at an instant and has not come back at once. -/
inductive Held (h : Hitch) (t : Instant) : Flight → Prop
  | hung (never : h.delay = none) : Held h t .hung
  | delayed {d : Span} (n : Nat) (after : h.delay = some d) (later : Span.zero < d) :
    Held h t (.delayed (t.after d) h.refusal n)

/-- **A call of a client** comes back at once, or is held back. -/
theorem startCall_cases {w : World} (quiet : w.Quiet) (client : String) (state : Option Consumer.State)
    {c : LogCall} (prompt : Prompt c) :
    let h := w.hitch client c
    let rules := (applyRules c.operation client w.rules).2
    ∃ w', w.Leads [(w.clock.now, c)] [] w' ∧ w'.clock = w.clock ∧
      (h.delay = some .zero ∧
          (startCall client state c).run w = (.returned (h.outcome w.clock c w.store).1, w') ∧
          w'.log = ((h.outcome w.clock c w.store).2, rules) ∨
        ∃ f, Held h w.clock.now f ∧ (startCall client state c).run w = (.out f, w') ∧
          w'.log = (w.store, rules)) := by
  intro h rules
  have counted := quiet.counted client state c
  obtain ⟨w', goes, leads, clock, log⟩ := run_release counted.quiet prompt h
  have came := counted.trans leads
  rw [run_startCall quiet]
  cases fault : (applyRules c.operation client w.rules).1 with
  | none =>
    have is : h = ⟨some .zero, none⟩ := congrArg hitchOf fault
    rw [is] at goes ⊢
    exact ⟨w', came, clock, .inl ⟨rfl, goes, by rw [log, is]; rfl⟩⟩
  | some f =>
    have is : h = ⟨if f.hangs then none else some f.delay, f.refusal⟩ := congrArg hitchOf fault
    by_cases hangs : f.hangs
    · refine ⟨_, counted, rfl, .inr ⟨.hung, .hung (by simp [is, hangs]), ?_, rfl⟩⟩
      simp [through, hangs]
      rfl
    · by_cases delay : Span.zero < f.delay
      · let stamped : World := { w.counted client state c with stamps := w.stamps + 1 }
        have held : (w.counted client state c).Leads [] [] stamped :=
          counted.quiet.leads rfl rfl rfl rfl rfl rfl
        have after : h.delay = some f.delay := by simp [is, hangs]
        refine ⟨stamped, counted.trans held, rfl, .inr ⟨_, .delayed (w.stamps + 1) after delay, ?_, rfl⟩⟩
        simp [through, hangs, delay, is]
        rfl
      · have undelayed : f.delay = .zero := congrArg Span.mk (Nat.eq_zero_of_not_pos delay)
        have straight : through c (some f) = release c h.refusal := by
          simp only [through, if_neg hangs, if_neg delay, is]
        rw [straight]
        exact ⟨w', came, clock, .inl ⟨by simp [is, hangs, undelayed], goes, log⟩⟩

/-! ### A call that is out -/

theorem run_lookAt_delayed (c : LogCall) (due : Instant) (refusal : Option LogError) (n : Nat) (w : World) :
    (lookAt c (.delayed due refusal n)).run w =
      (if due ≤ w.clock.now then release c refusal else return .out (.delayed due refusal n)).run w := by
  simp only [lookAt]
  cases refusal <;> rfl

/-- A call that is held back comes back later. -/
theorem Held.later {h : Hitch} {t : Instant} {f : Flight} (held : Held h t f) {d : Span} (after : h.delay = some d) :
    t < t.after d := by
  cases held with
  | hung never => simp [never] at after
  | delayed n same later =>
    obtain rfl := Option.some.inj (same.symm.trans after)
    exact Nat.lt_add_of_pos_right later

section Held

variable {h : Hitch} {t : Instant} {f : Flight} (held : Held h t f) {w : World}

include held

theorem run_lookAt_early (c : LogCall) (early : ∀ d, h.delay = some d → w.clock.now < t.after d) :
    (lookAt c f).run w = (.out f, w) := by
  cases held with
  | hung never =>
    simp only [lookAt]
    rfl
  | delayed n after later =>
    have notYet : ¬ t.after _ ≤ w.clock.now := Nat.not_le.2 (early _ after)
    rw [run_lookAt_delayed, if_neg notYet]
    rfl

theorem run_lookAt_back (quiet : w.Quiet) {c : LogCall} (prompt : Prompt c) {d : Span}
    (after : h.delay = some d) (there : t.after d ≤ w.clock.now) :
    ∃ w', (lookAt c f).run w = (.returned (h.outcome w.clock c w.store).1, w') ∧
      w.Leads [] [] w' ∧ w'.clock = w.clock ∧ w'.log = ((h.outcome w.clock c w.store).2, w.rules) := by
  cases held with
  | hung never => simp [never] at after
  | delayed n same later =>
    obtain rfl := Option.some.inj (same.symm.trans after)
    rw [run_lookAt_delayed, if_pos there]
    exact run_release quiet prompt h

end Held

/-! ### Waiting -/

/-- Go on with a step that ends at once or waits, for so many turns. -/
def settleWithin (turns : Nat) : Outcome ⊕ Errand → Play Outcome
  | .inl o => return o
  | .inr e => wait turns e

/-- Go on with a step at an instant, if there is one. -/
def goOnAt (turns : Nat) (e : Errand) : Option Instant → Play Outcome
  | none => return .blocked
  | some t => do
    jumpTo t
    settleWithin turns (← e.look)

section Wait

variable {w : World} (quiet : w.Quiet) {e : Errand} (waits : e.look.run w = (.inr e, w)) (turns : Nat)

include quiet waits

/-- A step that waits goes on at the next instant at which it does by itself. -/
theorem run_wait : (wait (turns + 1) e).run w = (goOnAt turns e (w.nextInstant? e)).run w := by
  rw [wait, run_bind_of (run_runTasks quiet patience), run_bind_of waits]
  simp only
  rw [run_bind_of (run_get w), quiet.busyTasks]
  simp only
  rw [run_bind_of (run_get w)]
  cases w.nextInstant? e with
  | none => rfl
  | some t =>
    refine congrArg (fun goes => (do jumpTo t; e.look >>= goes : Play Outcome).run w) (funext fun r => ?_)
    cases r <;> rfl

theorem run_wait_jump {t : Instant} (next : w.nextInstant? e = some t) :
    (wait (turns + 1) e).run w = (e.look >>= settleWithin turns).run (w.jump t) := by
  rw [run_wait quiet waits, next, goOnAt, run_bind_of (run_jumpTo quiet t)]

end Wait

/-! ### The call of a job that is out -/

section Out

variable {client : String} {state : Option Consumer.State} {c : LogCall} {next : c.Result → Job Outcome}
  {deadline : Option (Instant × Job Outcome)} {h : Hitch} {t : Instant} {f : Flight} (held : Held h t f) {w : World}

include held

/-- A look at a call that is not back yet, before the deadline. -/
theorem run_look_waits (early : ∀ d, h.delay = some d → w.clock.now < t.after d)
    (before : ∀ d ∈ deadline, w.clock.now < d.1) :
    (Errand.job client state c f next deadline).look.run w = (.inr (.job client state c f next deadline), w) := by
  rw [Errand.look, run_bind_of (run_lookAt_early held c early)]
  rcases deadline with _ | ⟨due, late⟩
  · rfl
  · have notYet : ¬ due ≤ w.clock.now := Nat.not_le.2 (before _ rfl)
    simp only
    rw [run_bind_of (run_now w), if_neg notYet]
    rfl

/-- A look at a call that is not back by the deadline. -/
theorem run_look_late (early : ∀ d, h.delay = some d → w.clock.now < t.after d) {due : Instant}
    (there : due ≤ w.clock.now) (late : Job Outcome) :
    (Errand.job client state c f next (some (due, late))).look.run w =
      (doJob client state patience none late).run w := by
  rw [Errand.look, run_bind_of (run_lookAt_early held c early)]
  simp only
  rw [run_bind_of (run_now w), if_pos there]

/-- A look at a call that is back. -/
theorem run_look_back (quiet : w.Quiet) (prompt : Prompt c) {d : Span} (after : h.delay = some d)
    (there : t.after d ≤ w.clock.now) :
    ∃ w', (Errand.job client state c f next deadline).look.run w =
        (doJob client state patience deadline (next (h.outcome w.clock c w.store).1)).run w' ∧
      w.Leads [] [] w' ∧ w'.clock = w.clock ∧ w'.log = ((h.outcome w.clock c w.store).2, w.rules) := by
  obtain ⟨w', looked, leads⟩ := run_lookAt_back held quiet prompt after there
  refine ⟨w', ?_, leads⟩
  rw [Errand.look, run_bind_of looked]

/-- The next instant for a call that comes back in time. -/
theorem nextInstant_back (quiet : w.Quiet) (here : w.clock.now = t) {d : Span} (after : h.delay = some d)
    (inTime : ∀ x ∈ deadline, t.after d ≤ x.1) :
    w.nextInstant? (.job client state c f next deadline) = some (t.after d) := by
  cases held with
  | hung never => simp [never] at after
  | @delayed d' n same later =>
    obtain rfl := Option.some.inj (same.symm.trans after)
    have later : t < t.after d' := Nat.lt_add_of_pos_right later
    rcases deadline with _ | ⟨due, late⟩
    · simp [World.nextInstant?, Errand.timers, quiet.timers, Flight.timer?, here, later]
    · have before : ¬ due < t.after d' := Nat.not_lt.2 (inTime _ rfl)
      have early : t < due := Nat.lt_of_lt_of_le later (inTime _ rfl)
      simp [World.nextInstant?, Errand.timers, quiet.timers, Flight.timer?, here, later, before, early]

/-- The next instant for a call that does not. -/
theorem nextInstant_late (quiet : w.Quiet) (here : w.clock.now = t) {due : Instant} (before : t < due)
    (past : ∀ d, h.delay = some d → due < t.after d) (late : Job Outcome) :
    w.nextInstant? (.job client state c f next (some (due, late))) = some due := by
  cases held with
  | hung never => simp [World.nextInstant?, Errand.timers, quiet.timers, Flight.timer?, here, before]
  | delayed n after later =>
    have past := past _ after
    have later : t < t.after _ := Nat.lt_trans before past
    simp [World.nextInstant?, Errand.timers, quiet.timers, Flight.timer?, here, later, before, past]

/-- Without a deadline, nothing goes on while a call hangs. -/
theorem nextInstant_never (quiet : w.Quiet) (never : h.delay = none) :
    w.nextInstant? (.job client state c f next none) = none := by
  cases held with
  | hung _ => simp [World.nextInstant?, Errand.timers, quiet.timers, Flight.timer?]
  | delayed n after later => simp [never] at after

end Out

section Wait

variable {client : String} {state : Option Consumer.State} {c : LogCall} {next : c.Result → Job Outcome}
  {deadline : Option (Instant × Job Outcome)} {h : Hitch} {f : Flight} {w : World}
  (held : Held h w.clock.now f) (quiet : w.Quiet) (turns : Nat)

include held quiet

/-- **To wait for a call that comes back in time** is to go on with its answer. -/
theorem run_wait_back (prompt : Prompt c) {d : Span} (after : h.delay = some d)
    (inTime : ∀ x ∈ deadline, w.clock.now.after d ≤ x.1) :
    let outcome := h.outcome ⟨w.clock.now.after d, w.clock.wall⟩ c w.store
    ∃ w', (wait (turns + 1) (.job client state c f next deadline)).run w =
        (doJob client state patience deadline (next outcome.1) >>= settleWithin turns).run w' ∧
      w.Leads [] [] w' ∧ w'.clock.now = w.clock.now.after d ∧ w'.log = (outcome.2, w.rules) := by
  intro outcome
  have later := held.later after
  have early (e : Span) (same : h.delay = some e) : w.clock.now < w.clock.now.after e := held.later same
  have before (x : Instant × Job Outcome) (hx : x ∈ deadline) : w.clock.now < x.1 :=
    Nat.lt_of_lt_of_le later (inTime x hx)
  have jumped : w.Leads [] [] (w.jump (w.clock.now.after d)) := quiet.leads rfl rfl rfl rfl rfl rfl
  obtain ⟨w', looked, leads, clock, log⟩ := run_look_back held jumped.quiet prompt after (Nat.le_refl _)
  refine ⟨w', ?_, jumped.trans leads, congrArg Clock.now clock, log⟩
  rw [run_wait_jump quiet (run_look_waits held early before) turns (nextInstant_back held quiet rfl after inTime),
    StateT.run_bind, looked]
  rfl

/-- **To wait for a call that does not** is to be late at the deadline. -/
theorem run_wait_late {due : Instant} (before : w.clock.now < due)
    (past : ∀ d, h.delay = some d → due < w.clock.now.after d) (late : Job Outcome) :
    (wait (turns + 1) (.job client state c f next (some (due, late)))).run w =
      (doJob client state patience none late >>= settleWithin turns).run (w.jump due) := by
  have early (d : Span) (after : h.delay = some d) : w.clock.now < w.clock.now.after d := held.later after
  have armed : ∀ x ∈ some (due, late), w.clock.now < x.1 := by
    rintro x ⟨⟩
    exact before
  have there : due ≤ (w.jump due).clock.now := Nat.le_refl _
  rw [run_wait_jump quiet (run_look_waits held early armed) turns (nextInstant_late held quiet rfl before past late),
    StateT.run_bind, run_look_late held past there]
  rfl

theorem run_wait_never (never : h.delay = none) :
    (wait (turns + 1) (.job client state c f next none)).run w = (.blocked, w) := by
  have early (d : Span) (after : h.delay = some d) : w.clock.now < w.clock.now.after d := held.later after
  have free : ∀ x ∈ (none : Option (Instant × Job Outcome)), w.clock.now < x.1 := by simp
  rw [run_wait quiet (run_look_waits held early free), nextInstant_never held quiet never]
  rfl

end Wait

end Rehearsal

end StreamQueue
