import StreamQueue.Proofs.Http.PublishTrigger
import StreamQueue.Proofs.Rehearsal.Publisher

/-!
# Requests in a rehearsal

A request makes calls of several kinds, and the rules of a rehearsal look at the kind of a call. So what
hinders the calls one by one is known only from the calls that were made: behind them stand the rules that
are left, and the next call meets those. Taken from the calls of a whole passage, it gives the same passage.

## What is proved

* `Rehearsal.passing_hitchesOf` — a job on the log behind the rules is one on a log that is hindered.
* `Rehearsal.rehearsed_request` — what becomes of a request to publish in a rehearsal.
-/

namespace StreamQueue

namespace Rehearsal

open Job

variable {α β : Type} {client : String} {rules : List Rule} {wall : Timestamp} {all before : List LogCall}

/-! ### What hinders the calls -/

/-- The rules behind which a client makes its next call after these. -/
def rulesAfter (client : String) (rules : List Rule) (calls : List LogCall) : List Rule :=
  calls.foldl (fun rules c => (applyRules c.operation client rules).2) rules

/-- What hinders the calls of a client that makes these, one after the other. -/
def hitchesOf (client : String) (rules : List Rule) (calls : List LogCall) (i : Nat) : Hitch :=
  match calls[i]? with
  | some c => hitchOf (applyRules c.operation client (rulesAfter client rules (calls.take i))).1
  | none => ⟨none, none⟩

theorem rulesAfter_snoc (c : LogCall) : rulesAfter client rules (before ++ [c]) =
    (applyRules c.operation client (rulesAfter client rules before)).2 := List.foldl_append ..

theorem hitchesOf_append (c : LogCall) (behind : List LogCall) :
    hitchesOf client rules (before ++ c :: behind) before.length =
      hitchOf (applyRules c.operation client (rulesAfter client rules before)).1 := by
  simp [hitchesOf]

/-- A passage without the rules. -/
def unruled (o : Passage α (Store × List Rule)) : Passage α Store := ⟨o.ended, o.calls, o.reports, o.left.1⟩

/-- Two deadlines at one instant, of which one is on a log that is hindered as by the calls that are made
if it comes. -/
inductive AsMade (client : String) (rules : List Rule) (all : List LogCall) :
    Option (Instant × (Nat → Store × List Rule → Passage α (Store × List Rule))) →
    Option (Instant × (Nat → Store → Passage α Store)) → Prop
  | none : AsMade client rules all none none
  | some (due : Instant) {late : Nat → Store × List Rule → Passage α (Store × List Rule)}
    {quit : Nat → Store → Passage α Store}
    (same : ∀ before s,
      all = before ++ (late before.length (s, rulesAfter client rules before)).calls.map (·.2) →
      quit before.length s = unruled (late before.length (s, rulesAfter client rules before))) :
    AsMade client rules all (some (due, late)) (some (due, quit))

theorem inTime_hitchesOf (c : LogCall) (behind : List LogCall) (due : Option Instant) (t : Instant) (s : Store) :
    (ruled client wall).inTime due before.length c t (s, rulesAfter client rules before) =
      ((Service.hindered (hitchesOf client rules (before ++ c :: behind)) fun _ => wall).inTime due before.length c
        t s).map fun b => ⟨b.after, b.result, (b.left, rulesAfter client rules (before ++ [c]))⟩ := by
  have back : (ruled client wall).comeback before.length c t (s, rulesAfter client rules before) =
      ((Service.hindered (hitchesOf client rules (before ++ c :: behind)) fun _ => wall).comeback before.length c
        t s).map fun b => ⟨b.after, b.result, (b.left, rulesAfter client rules (before ++ [c]))⟩ := by
    simp only [ruled, Service.hindered, hitchesOf_append, rulesAfter_snoc]
  rw [Service.inTime, Service.inTime, back, Option.filter_map]
  rfl

/-- **Behind the rules** a job passes as on a log that is hindered, as the rules hinder the calls that the job
makes. -/
theorem passing_hitchesOf {job : Job α}
    {deadline : Option (Instant × (Nat → Store × List Rule → Passage α (Store × List Rule)))}
    {quit : Option (Instant × (Nat → Store → Passage α Store))} (same : AsMade client rules all deadline quit)
    (before : List LogCall) (t : Instant) (s : Store)
    (whole : all = before ++ (job.passing (ruled client wall) deadline before.length t
      (s, rulesAfter client rules before)).calls.map (·.2)) :
    job.passing (.hindered (hitchesOf client rules all) fun _ => wall) quit before.length t s =
      unruled (job.passing (ruled client wall) deadline before.length t (s, rulesAfter client rules before)) := by
  induction job generalizing deadline quit before t s with
  | done a => rfl
  | report e rest ih =>
    have is := ih same before t s whole
    simp only [passing, is]
    rfl
  | readWall next ih => exact ih wall same before t s whole
  | arm limit late rest ihLate ih =>
    exact ih (.some (t.after limit) fun before s => ihLate .none before (t.after limit) s) before t s whole
  | disarm rest ih => exact ih .none before t s whole
  | call c next ih =>
    -- The call stands at its place among those of the whole passage, so it is hindered as the rules have it.
    obtain ⟨behind, made⟩ : ∃ behind, all = before ++ c :: behind := by
      rcases deadline with _ | ⟨due, late⟩ <;> simp only [passing, Passage.behind, List.map_cons] at whole <;>
        exact ⟨_, whole⟩
    have due : deadline.map (·.1) = quit.map (·.1) := by
      cases same <;> rfl
    have found : (ruled client wall).inTime (deadline.map (·.1)) before.length c t
        (s, rulesAfter client rules before) = _ := inTime_hitchesOf c behind (deadline.map (·.1)) t s
    rw [← made] at found
    cases back : (Service.hindered (hitchesOf client rules all) fun _ => wall).inTime (quit.map (·.1))
        before.length c t s with
    | some b =>
      rw [due, back, Option.map_some, ← due] at found
      rw [passing_call_of_some found] at whole ⊢
      have rest := ih b.result same (before ++ [c]) (t.after b.after) b.left
      rw [List.length_append, List.length_singleton] at rest
      rw [passing_call_of_some back, rest (by simpa [Passage.behind] using whole)]
      rfl
    | none =>
      rw [due, back, Option.map_none, ← due] at found
      have lost : (ruled client wall).lost c (s, rulesAfter client rules before) =
          (s, rulesAfter client rules (before ++ [c])) := by
        rw [rulesAfter_snoc]
        rfl
      cases same with
      | none =>
        rw [passing_call_of_hung found, passing_call_of_hung back, lost]
        rfl
      | @some due late quit same =>
        rw [passing_call_of_none found, lost] at whole ⊢
        have rest := same (before ++ [c]) s
        rw [List.length_append, List.length_singleton] at rest
        rw [passing_call_of_none back]
        exact congrArg (Passage.behind t c) (rest (by simpa [Passage.behind] using whole))

/-! ### The turns of a request -/

theorem Brief.bind {P : LogCall → Prop} {n k : Nat} {job : Job α} (brief : Brief P n job) {f : α → Job β}
    (each : ∀ a, Brief P k (f a)) : Brief P (n + (n + 1) * k) (job.bind f) := by
  induction brief with
  | done n a => exact (each a).mono (by nlinarith)
  | @call n c next made rest ih =>
    refine Brief.mono (.call made ih) ?_
    nlinarith
  | @report n rest e brief ih =>
    refine Brief.mono (.report e ih) ?_
    nlinarith
  | @readWall n next rest ih =>
    refine Brief.mono (.readWall ih) ?_
    nlinarith
  | @arm m n late rest limit after before ihAfter ihBefore =>
    refine Brief.mono (.arm limit ihAfter ihBefore) ?_
    nlinarith
  | @disarm n rest brief ih =>
    refine Brief.mono (.disarm ih) ?_
    nlinarith

theorem brief_publishTimes (a : App) (c : Nat) : Brief Prompt (6 * c) (a.publishTimes c) := by
  induction c with
  | zero => exact .done 0 _
  | succ c ih =>
    have failed (n : Nat) (e : QueueError) : Brief Prompt (n + 1) (a.onward c (.error e)) := .report _ (.done n _)
    have goes (r : Except QueueError StreamId) : Brief Prompt (6 * c + 1) (a.onward c r) := by
      cases r with
      | error e => exact failed _ e
      | ok id => exact ih.mono (Nat.le_succ _)
    have published (now : Timestamp) :
        Brief Prompt (6 * c + 1 + 2 + 1 + 1) ((Publisher.publish a.publisher now.rfc3339).bind (a.onward c)) := by
      have prompt : Prompt (Publisher.appending a.publisher now.rfc3339) := trivial
      rw [Publisher.publish_bind]
      exact .arm (m := 1) (n := 6 * c + 1 + 2) _ (failed 0 _) (.call prompt fun r => .disarm (goes _))
    rw [App.publishTimes_succ]
    exact .readWall published

theorem brief_status (a : App) (error : Option String) : Brief Prompt 17 (a.status error) := by
  have concludes (counted : Except QueueError Nat) : Brief Prompt 2 (a.conclude error counted) := by
    cases counted with
    | ok n => exact .call trivial fun _ => .done 1 _
    | error e => exact .report _ (.call trivial fun _ => .done 0 _)
  rw [App.status_eq]
  exact (brief_backlog a.publisher a.group).bind concludes

theorem brief_handle (a : App) {r : Http.Request} {text : Option String} (asks : r.Asks text) :
    Brief Prompt (108 * a.publishCount text + 17) (a.handle r).2 := by
  rw [App.handle_eq a asks]
  refine ((brief_publishTimes a _).bind fun failure => (brief_status a _).bind_done App.opened).mono ?_
  omega

/-- **A request in a rehearsal**: the appends are made as the rules have it, and the status is answered. -/
theorem rehearsed_request {w : World} (quiet : w.Quiet) {name : String} {a : App}
    (known : w.apps.get? name = some a) {r : Http.Request} {text : Option String} (asks : r.Asks text)
    (few : 108 * a.publishCount text + 17 < patience) :
    ∃ hitches j times posts failure first looks shown o,
      App.Posted a.publisher hitches (fun _ => w.clock.wall) w.store 0 (a.publishCount text) j times posts failure
        first ∧
      a.Answered hitches (w.store.afterAll posts) failure first.calls looks shown o ∧
      let played := (Step.http name r).play.run w
      played.1 = (o.ended.map fun x => .response x.2).getD .blocked ∧ played.2.store = o.left ∧
        played.2.called = w.called ++ o.calls ∧ played.2.reported = w.reported ++ o.reports := by
  let job := (a.handle r).2
  let w' : World := { w with apps := w.apps.insert name (a.handle r).1 }
  have still : w'.Quiet := ⟨quiet.idle, quiet.still, quiet.ready, quiet.plain⟩
  have played : (Step.http name r).play.run w = (Rehearsal.play name none (.response <$> job)).run w' := by
    rw [Step.play, run_bind_of (run_get w), known]
    rfl
  have plays := plays_shown name none .response (brief_handle a asks) few still
  let o := job.passing (ruled name w.clock.wall) none 0 w.clock.now w.log
  let hitches := hitchesOf name w.rules (o.calls.map (·.2))
  have follows : job.passing (.hindered hitches fun _ => w.clock.wall) none 0 w.clock.now w.store = unruled o :=
    passing_hitchesOf .none [] w.clock.now w.store rfl
  obtain ⟨j, times, posts, failure, first, looks, shown, posted, answered⟩ :=
    App.passing_handle a asks hitches (fun _ => w.clock.wall) w.clock.now w.store
  rw [follows] at answered
  refine ⟨hitches, j, times, posts, failure, first, looks, shown, unruled o, posted, answered, ?_⟩
  rw [played]
  exact ⟨plays.outcome, congrArg Prod.fst plays.log, plays.leads.called, plays.leads.reported⟩

end Rehearsal

end StreamQueue
