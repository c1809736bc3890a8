import StreamQueue.Proofs.Work.Sequential

/-!
# Work on two tasks

The payload for a message is drawn on one task and digested on another, and a pipe between them
holds a few chunks. The one who wants the outcome looks at its own token and at the two tasks, and
may also go before they have ended. Any of them may be next at any time. A step is one look at the
token, the start of a call or its return, or a chunk handed over or received; the caller looks at
its token and at both tasks in one step.

A task waits only for the other: to hand a chunk over while the pipe is full, or to receive one
while it is empty. So they never wait both at once, and a task that has ended, by itself or in a
failure, closes its end of the pipe and holds nobody up. Each step leaves less to do.

## What is proved

* `step_of_next` — what can happen at all, guards included.
* `Pipeline.live` — while a task is unfinished, a task can go on.
* `Pipeline.ends` — both tasks end under every schedule that is fair to them.
-/

namespace StreamQueue.Work

/-! ### The two tasks and the pipe -/

/-- How many chunks the pipe holds. -/
def pipeDepth : Nat := 4

/-- Where the task that draws is, and how many bytes it has handed over. -/
inductive Generator
  /-- It is about to see whether there is more to draw, and to look at the token. -/
  | looking (written : Nat)
  /-- It is about to call the source. -/
  | drawing (written : Nat)
  /-- The call is out. -/
  | calling (written : Nat)
  /-- It has a chunk to hand over. -/
  | sending (written : Nat) (chunk : List UInt8)
  /-- It is done, and its end of the pipe is closed. -/
  | ended (result : Except WorkError Nat)

/-- Where the task that digests is, and how many bytes it has read. -/
inductive Digester
  /-- It is about to take a chunk from the pipe. -/
  | receiving (hasher : Digest.Hasher) (read : Nat)
  /-- It has a chunk and is about to look at the token. -/
  | checking (hasher : Digest.Hasher) (read : Nat) (chunk : List UInt8)
  /-- It is done, and its end of the pipe is closed. -/
  | ended (result : Except WorkError WorkOutcome)

/-- Where the one is who wants the outcome. -/
inductive Caller
  | waiting
  | has (result : Except WorkError WorkOutcome)
  /-- It went before it had an outcome. -/
  | gone

/-- The result of the task, if it is done. -/
def Generator.result? : Generator → Option (Except WorkError Nat)
  | ended result => some result
  | _ => none

/-- The result of the task, if it is done. -/
def Digester.result? : Digester → Option (Except WorkError WorkOutcome)
  | ended result => some result
  | _ => none

/-- Work on two tasks. -/
structure Pipeline where
  /-- Whether the caller's token has fired. -/
  cancelled : Bool
  /-- Whether the token has fired that the tasks look at. It fires with the caller's, and also when
  the caller has its outcome or goes. -/
  stopped : Bool
  /-- How many calls on the source were made. -/
  calls : Nat
  generator : Generator
  pipe : List (List UInt8)
  digester : Digester
  caller : Caller

/-- Who is next, or what happens next. -/
inductive Actor
  | generator
  | digester
  /-- The caller's token fires. -/
  | fires
  /-- The caller looks for its outcome. -/
  | takes
  /-- The caller goes. -/
  | leaves
  deriving DecidableEq

/-- The outcome that two results make. A failure to draw explains a short payload and comes first. -/
def join : Except WorkError Nat → Except WorkError WorkOutcome → Except WorkError WorkOutcome
  | .error error, _ => .error error
  | .ok _, digested => digested

/-- What the digesting task ends with once the pipe is empty and closed. -/
def finish (total : Nat) (hasher : Digest.Hasher) (read : Nat) : Except WorkError WorkOutcome :=
  if read = total then .ok ⟨Digest.hex hasher.digest, read⟩
  else .error (.digest ("expected " ++ toString total ++ " bytes, read " ++ toString read))

namespace Pipeline

/-- Nothing was done yet. -/
def start (calls : Nat) : Pipeline :=
  ⟨false, false, calls, .looking 0, [], .receiving Digest.Hasher.start 0, .waiting⟩

/-- Both tasks are done. -/
def Ended (p : Pipeline) : Prop := p.generator.result?.isSome ∧ p.digester.result?.isSome

/-- The outcome that the caller finds: it looks at its token and then at the tasks. -/
def outcome? (p : Pipeline) : Option (Except WorkError WorkOutcome) :=
  if p.cancelled then some (.error .cancelled)
  else p.generator.result?.bind fun drawn => p.digester.result?.map (join drawn)

/-- A step of the task that draws, if it can go on. -/
def draw (source : ByteSource) (total : Nat) (p : Pipeline) : Option Pipeline :=
  match p.generator with
  | .looking written =>
    if written < total then
      if p.stopped then some { p with generator := .ended (.error .cancelled) }
      else some { p with generator := .drawing written }
    else some { p with generator := .ended (.ok written) }
  | .drawing written =>
    some { p with
      calls := p.calls + 1
      cancelled := p.cancelled || (source (p.calls + 1)).cancels
      stopped := p.stopped || (source (p.calls + 1)).cancels
      generator := .calling written }
  | .calling written =>
    match (source p.calls).yield with
    | .failed text => some { p with generator := .ended (.error (.generation text)) }
    | .lost => some { p with generator := .ended (.error .generatorLost) }
    | .filled byte =>
      some { p with generator := .sending written (firstBytes byte (min (total - written) chunkSize)) }
  | .sending written chunk =>
    if p.digester.result?.isSome then
      some { p with generator := .ended (.error (.digest "digest side closed the pipe")) }
    else if p.pipe.length < pipeDepth then
      some { p with pipe := p.pipe ++ [chunk], generator := .looking (written + chunk.length) }
    else none
  | .ended _ => none

/-- A step of the task that digests, if it can go on. -/
def digest (total : Nat) (p : Pipeline) : Option Pipeline :=
  match p.digester with
  | .receiving hasher read =>
    match p.pipe with
    | chunk :: pipe => some { p with pipe := pipe, digester := .checking hasher read chunk }
    | [] =>
      if p.generator.result?.isSome then some { p with digester := .ended (finish total hasher read) }
      else none
  | .checking hasher read chunk =>
    if p.stopped then some { p with digester := .ended (.error .cancelled) }
    else some { p with digester := .receiving (hasher.absorb chunk) (read + chunk.length) }
  | .ended _ => none

/-- What is next, if it can happen. -/
def next (source : ByteSource) (total : Nat) (p : Pipeline) : Actor → Option Pipeline
  | .generator => p.draw source total
  | .digester => p.digest total
  | .fires => some { p with cancelled := true, stopped := true }
  | .takes =>
    match p.caller with
    | .waiting => p.outcome?.map fun result => { p with stopped := true, caller := .has result }
    | _ => none
  | .leaves =>
    match p.caller with
    | .waiting => some { p with stopped := true, caller := .gone }
    | _ => none

/-- What is there after something was next. Nothing changes if it could not happen. -/
def occur (source : ByteSource) (total : Nat) (p : Pipeline) (actor : Actor) : Pipeline :=
  (p.next source total actor).getD p

/-- What is there after a schedule. -/
def after (source : ByteSource) (total : Nat) (p : Pipeline) (schedule : List Actor) : Pipeline :=
  schedule.foldl (occur source total) p

end Pipeline

variable {source : ByteSource} {total : Nat} {p q : Pipeline} {actor : Actor}

theorem Generator.ended_of_isSome {g : Generator} (done : g.result?.isSome) : ∃ drawn, g = .ended drawn := by
  cases g with
  | ended drawn => exact ⟨drawn, rfl⟩
  | looking | drawing | calling | sending => cases done

/-! ### The steps -/

/-- What can happen to work on two tasks. -/
inductive Step (source : ByteSource) (total : Nat) (p : Pipeline) : Actor → Pipeline → Prop
  /-- There is more to draw. -/
  | goesOn (written : Nat) (looking : p.generator = .looking written) (more : written < total)
      (runs : p.stopped = false) : Step source total p .generator { p with generator := .drawing written }
  /-- There is more to draw, but the token has fired. -/
  | stops (written : Nat) (looking : p.generator = .looking written) (stopped : p.stopped = true) :
      Step source total p .generator { p with generator := .ended (.error .cancelled) }
  /-- All is drawn. -/
  | completes (written : Nat) (looking : p.generator = .looking written) (all : total ≤ written) :
      Step source total p .generator { p with generator := .ended (.ok written) }
  /-- A call starts, and perhaps fires the token. -/
  | calls (written : Nat) (drawing : p.generator = .drawing written) :
      Step source total p .generator { p with
        calls := p.calls + 1
        cancelled := p.cancelled || (source (p.calls + 1)).cancels
        stopped := p.stopped || (source (p.calls + 1)).cancels
        generator := .calling written }
  /-- A call comes back with a full buffer. -/
  | fills (written : Nat) (byte : Nat → UInt8) (calling : p.generator = .calling written)
      (filled : (source p.calls).yield = .filled byte) :
      Step source total p .generator { p with
        generator := .sending written (firstBytes byte (min (total - written) chunkSize)) }
  /-- A call fails, or its task is lost. -/
  | fails (written : Nat) (error : WorkError) (calling : p.generator = .calling written)
      (fault : Draw.fault? ⟨false, (source p.calls).yield⟩ = some error) :
      Step source total p .generator { p with generator := .ended (.error error) }
  /-- The other end of the pipe is closed. -/
  | closed (written : Nat) (chunk : List UInt8) (sending : p.generator = .sending written chunk)
      (gone : p.digester.result?.isSome) :
      Step source total p .generator { p with
        generator := .ended (.error (.digest "digest side closed the pipe")) }
  /-- A chunk is handed over. -/
  | sends (written : Nat) (chunk : List UInt8) (sending : p.generator = .sending written chunk)
      (there : p.digester.result? = none) (room : p.pipe.length < pipeDepth) :
      Step source total p .generator { p with
        pipe := p.pipe ++ [chunk], generator := .looking (written + chunk.length) }
  /-- A chunk is received. -/
  | receives (hasher : Digest.Hasher) (read : Nat) (chunk : List UInt8) (pipe : List (List UInt8))
      (receiving : p.digester = .receiving hasher read) (filled : p.pipe = chunk :: pipe) :
      Step source total p .digester { p with pipe := pipe, digester := .checking hasher read chunk }
  /-- There is nothing left to receive. -/
  | finishes (hasher : Digest.Hasher) (read : Nat) (receiving : p.digester = .receiving hasher read)
      (empty : p.pipe = []) (done : p.generator.result?.isSome) :
      Step source total p .digester { p with digester := .ended (finish total hasher read) }
  /-- A chunk is digested. -/
  | absorbs (hasher : Digest.Hasher) (read : Nat) (chunk : List UInt8)
      (checking : p.digester = .checking hasher read chunk) (runs : p.stopped = false) :
      Step source total p .digester { p with
        digester := .receiving (hasher.absorb chunk) (read + chunk.length) }
  /-- A chunk is not digested, for the token has fired. -/
  | abandons (hasher : Digest.Hasher) (read : Nat) (chunk : List UInt8)
      (checking : p.digester = .checking hasher read chunk) (stopped : p.stopped = true) :
      Step source total p .digester { p with digester := .ended (.error .cancelled) }
  /-- The caller's token fires. -/
  | fires : Step source total p .fires { p with cancelled := true, stopped := true }
  /-- The caller finds its outcome. -/
  | takes (result : Except WorkError WorkOutcome) (waiting : p.caller = .waiting)
      (found : p.outcome? = some result) :
      Step source total p .takes { p with stopped := true, caller := .has result }
  /-- The caller goes. -/
  | leaves (waiting : p.caller = .waiting) :
      Step source total p .leaves { p with stopped := true, caller := .gone }

theorem step_of_draw (drawn : p.draw source total = some q) : Step source total p .generator q := by
  unfold Pipeline.draw at drawn
  split at drawn
  case h_1 written looking =>
    split at drawn
    · split at drawn
      · obtain rfl := Option.some.inj drawn
        exact .stops written looking ‹_›
      · obtain rfl := Option.some.inj drawn
        exact .goesOn written looking ‹_› (Bool.eq_false_iff.2 ‹_›)
    · obtain rfl := Option.some.inj drawn
      exact .completes written looking (Nat.le_of_not_lt ‹_›)
  case h_2 written drawing =>
    obtain rfl := Option.some.inj drawn
    exact .calls written drawing
  case h_3 written calling =>
    split at drawn
    case h_1 text failed =>
      obtain rfl := Option.some.inj drawn
      exact .fails written _ calling (by rw [failed]; rfl)
    case h_2 lost =>
      obtain rfl := Option.some.inj drawn
      exact .fails written _ calling (by rw [lost]; rfl)
    case h_3 byte filled =>
      obtain rfl := Option.some.inj drawn
      exact .fills written byte calling filled
  case h_4 written chunk sending =>
    split at drawn
    · obtain rfl := Option.some.inj drawn
      exact .closed written chunk sending ‹_›
    · split at drawn
      · obtain rfl := Option.some.inj drawn
        exact .sends written chunk sending (Option.not_isSome_iff_eq_none.1 ‹_›) ‹_›
      · exact absurd drawn.symm (Option.some_ne_none q)
  case h_5 => exact absurd drawn.symm (Option.some_ne_none q)

theorem step_of_digest (digested : p.digest total = some q) : Step source total p .digester q := by
  unfold Pipeline.digest at digested
  split at digested
  case h_1 hasher read receiving =>
    split at digested
    case h_1 chunk pipe filled =>
      obtain rfl := Option.some.inj digested
      exact .receives hasher read chunk pipe receiving filled
    case h_2 empty =>
      split at digested
      · obtain rfl := Option.some.inj digested
        exact .finishes hasher read receiving empty ‹_›
      · exact absurd digested.symm (Option.some_ne_none q)
  case h_2 hasher read chunk checking =>
    split at digested
    · obtain rfl := Option.some.inj digested
      exact .abandons hasher read chunk checking ‹_›
    · obtain rfl := Option.some.inj digested
      exact .absorbs hasher read chunk checking (Bool.eq_false_iff.2 ‹_›)
  case h_3 => exact absurd digested.symm (Option.some_ne_none q)

/-- Nothing happens but these steps. -/
theorem step_of_next (happens : p.next source total actor = some q) : Step source total p actor q := by
  cases actor with
  | generator => exact step_of_draw happens
  | digester => exact step_of_digest happens
  | fires =>
    obtain rfl := Option.some.inj happens
    exact .fires
  | takes =>
    simp only [Pipeline.next] at happens
    split at happens
    · obtain ⟨result, found, rfl⟩ := Option.map_eq_some_iff.1 happens
      exact .takes result ‹_› found
    · exact absurd happens.symm (Option.some_ne_none q)
  | leaves =>
    simp only [Pipeline.next] at happens
    split at happens
    · obtain rfl := Option.some.inj happens
      exact .leaves ‹_›
    · exact absurd happens.symm (Option.some_ne_none q)

/-! ### Schedules -/

namespace Pipeline

theorem occur_eq_or_step (source : ByteSource) (total : Nat) (p : Pipeline) (actor : Actor) :
    p.next source total actor = none ∧ p.occur source total actor = p ∨
    Step source total p actor (p.occur source total actor) := by
  cases happens : p.next source total actor with
  | none => exact .inl ⟨rfl, by rw [occur, happens, Option.getD_none]⟩
  | some q =>
    rw [occur, happens, Option.getD_some]
    exact .inr (step_of_next happens)

theorem after_snoc (schedule : List Actor) : p.after source total (schedule ++ [actor]) =
    (p.after source total schedule).occur source total actor := by
  rw [after, List.foldl_append, List.foldl_cons, List.foldl_nil, after]

theorem after_append (before later : List Actor) : p.after source total (before ++ later) =
    (p.after source total before).after source total later := List.foldl_append

/-- What no step of the schedule breaks holds after it. -/
theorem after_induction_of_mem {Good : Pipeline → Prop} (first : Good p) {schedule : List Actor}
    (step : ∀ {p q : Pipeline}, ∀ actor ∈ schedule, Good p → Step source total p actor q → Good q) :
    Good (p.after source total schedule) := by
  induction schedule using List.reverseRecOn with
  | nil => exact first
  | append_singleton schedule actor ih =>
    have before := ih fun actor among => step actor (List.mem_append_left _ among)
    rw [after_snoc]
    rcases occur_eq_or_step source total (p.after source total schedule) actor with ⟨_, same⟩ | happens
    · rw [same]
      exact before
    · exact step actor (List.mem_append_right _ List.mem_cons_self) before happens

/-- What no step breaks holds after every schedule. -/
theorem after_induction {Good : Pipeline → Prop} (first : Good p)
    (step : ∀ {p q : Pipeline} {actor : Actor}, Good p → Step source total p actor q → Good q)
    (schedule : List Actor) : Good (p.after source total schedule) :=
  after_induction_of_mem first fun _ _ => step

end Pipeline

/-! ### No deadlock, and an end -/

/-- It is one of the two tasks. -/
def Actor.isTask : Actor → Bool
  | generator | digester => true
  | _ => false

namespace Pipeline

/-- The drawing task waits only to hand a chunk over, when the pipe is full and not closed. -/
theorem draw_eq_none : p.draw source total = none ↔ p.generator.result?.isSome ∨
    (∃ written chunk, p.generator = .sending written chunk) ∧ pipeDepth ≤ p.pipe.length ∧
      p.digester.result? = none := by
  obtain ⟨cancelled, stopped, calls, generator, pipe, digester, caller⟩ := p
  cases generator with
  | looking written =>
    simp only [draw, Generator.result?]
    split_ifs <;> simp
  | drawing written => simp [draw, Generator.result?]
  | calling written =>
    simp only [draw, Generator.result?]
    split <;> simp
  | sending written chunk =>
    simp only [draw, Generator.result?]
    split_ifs with closed room
    · simp [Option.isSome_iff_ne_none.1 closed]
    · simp [Nat.not_le.2 room]
    · simp [Nat.not_lt.1 room, Option.not_isSome_iff_eq_none.1 closed]
  | ended result => simp [draw, Generator.result?]

/-- The digesting task waits only to receive a chunk, when the pipe is empty and not closed. -/
theorem digest_eq_none : p.digest total = none ↔ p.digester.result?.isSome ∨
    (∃ hasher read, p.digester = .receiving hasher read) ∧ p.pipe = [] ∧
      p.generator.result? = none := by
  obtain ⟨cancelled, stopped, calls, generator, pipe, digester, caller⟩ := p
  cases digester with
  | receiving hasher read =>
    cases pipe with
    | nil =>
      simp only [digest, Digester.result?]
      split_ifs with closed
      · simp [Option.isSome_iff_ne_none.1 closed]
      · simp [Option.not_isSome_iff_eq_none.1 closed]
    | cons chunk pipe => simp [digest, Digester.result?]
  | checking hasher read chunk =>
    simp only [digest, Digester.result?]
    split_ifs <;> simp
  | ended result => simp [digest, Digester.result?]

/-- While a task is unfinished, a task can go on. -/
theorem live (source : ByteSource) (total : Nat) (unfinished : ¬p.Ended) :
    ∃ task : Actor, task.isTask ∧ (p.next source total task).isSome := by
  by_contra! stuck
  have noDraw : p.draw source total = none :=
    Option.not_isSome_iff_eq_none.1 (stuck .generator rfl)
  have noDigest : p.digest total = none :=
    Option.not_isSome_iff_eq_none.1 (stuck .digester rfl)
  rcases draw_eq_none.1 noDraw with drawn | ⟨_, full, there⟩ <;>
    rcases digest_eq_none.1 noDigest with digested | ⟨_, empty, drawing⟩
  · exact unfinished ⟨drawn, digested⟩
  · rw [drawing] at drawn
    exact absurd drawn nofun
  · rw [there] at digested
    exact absurd digested nofun
  · rw [empty] at full
    exact absurd full (by decide)

end Pipeline

/-- The position is within the payload. -/
def Generator.Within (total : Nat) : Generator → Prop
  | looking written => written ≤ total
  | drawing written | calling written => written < total
  | sending written chunk => 0 < chunk.length ∧ written + chunk.length ≤ total
  | ended _ => True

theorem firstBytes_length (byte : Nat → UInt8) (n : Nat) : (firstBytes byte n).length = n := by
  rw [firstBytes, List.length_map, List.length_range]

theorem Step.within (step : Step source total p actor q) (within : p.generator.Within total) :
    q.generator.Within total := by
  cases step with
  | goesOn written looking more runs => exact more
  | stops | completes | fails | closed => trivial
  | calls written drawing =>
    rw [drawing] at within
    exact within
  | fills written byte calling filled =>
    rw [calling] at within
    have more : written < total := within
    simp only [Generator.Within, firstBytes_length, chunkSize]
    omega
  | sends written chunk sending there room =>
    rw [sending] at within
    exact within.2
  | receives | finishes | absorbs | abandons | fires | takes | leaves => exact within

/-- How much the drawing task has still to do. -/
def Generator.left (total : Nat) : Generator → Nat
  | looking written => 6 * (total - written) + 1
  | drawing written => 6 * (total - written)
  | calling written => 6 * (total - written) - 1
  | sending written _ => 6 * (total - written) - 2
  | ended _ => 0

/-- How much the digesting task has still to do when some chunks are in the pipe. -/
def Digester.left (chunks : Nat) : Digester → Nat
  | receiving _ _ => 2 * chunks + 1
  | checking _ _ _ => 2 * chunks + 2
  | ended _ => 0

/-- How much the tasks have still to do. -/
def Pipeline.left (total : Nat) (p : Pipeline) : Nat :=
  p.generator.left total + p.digester.left p.pipe.length

/-- **A step of a task** leaves less to do. -/
theorem Step.left_lt (step : Step source total p actor q) (task : actor.isTask)
    (within : p.generator.Within total) : q.left total < p.left total := by
  simp only [Pipeline.left]
  cases step with
  | goesOn _ here | stops _ here | completes _ here | calls _ here
  | fills _ _ here | fails _ _ here | closed _ _ here =>
    rw [here] at within ⊢
    simp only [Generator.Within, Generator.left] at within ⊢
    omega
  | sends written chunk sending there room =>
    -- The chunk is still to be digested, but it is not to be drawn any more.
    rw [sending] at within ⊢
    simp only [Generator.Within, Generator.left, List.length_append, List.length_singleton] at within ⊢
    cases digesting : p.digester with
    | receiving | checking =>
      simp only [Digester.left]
      omega
    | ended result =>
      rw [digesting] at there
      exact absurd there (Option.some_ne_none result)
  | receives hasher read chunk pipe receiving filled =>
    simp only [receiving, filled, Digester.left, List.length_cons]
    omega
  | finishes _ _ here | absorbs _ _ _ here | abandons _ _ _ here =>
    rw [here]
    simp only [Digester.left]
    omega
  | fires | takes | leaves => exact absurd task nofun

/-- No step leaves more to do. -/
theorem Step.left_le (step : Step source total p actor q) (within : p.generator.Within total) :
    q.left total ≤ p.left total := by
  by_cases task : actor.isTask
  · exact Nat.le_of_lt (step.left_lt task within)
  · cases step with
    | fires | takes | leaves => exact Nat.le_refl _
    | _ => exact absurd rfl task

/-- What the others do leaves the drawing task where it is, and does not stand in its way. -/
theorem Step.beside_generator (step : Step source total p actor q) (other : actor ≠ .generator) :
    q.generator = p.generator ∧ q.pipe.length ≤ p.pipe.length ∧
      (q.digester.result? = none → p.digester.result? = none) := by
  cases step with
  | receives hasher read chunk pipe receiving filled =>
    rw [filled, receiving]
    exact ⟨rfl, Nat.le_succ _, fun _ => rfl⟩
  | finishes | abandons => exact ⟨rfl, Nat.le_refl _, fun there => absurd there (Option.some_ne_none _)⟩
  | absorbs hasher read chunk checking runs =>
    rw [checking]
    exact ⟨rfl, Nat.le_refl _, fun _ => rfl⟩
  | fires | takes | leaves => exact ⟨rfl, Nat.le_refl _, id⟩
  | _ => exact absurd rfl other

/-- What the others do leaves the digesting task where it is, and does not stand in its way. -/
theorem Step.beside_digester (step : Step source total p actor q) (other : actor ≠ .digester) :
    q.digester = p.digester ∧ (q.pipe = [] → p.pipe = []) ∧
      (q.generator.result? = none → p.generator.result? = none) := by
  cases step with
  | goesOn _ here | calls _ here | fills _ _ here =>
    rw [here]
    exact ⟨rfl, id, fun _ => rfl⟩
  | stops | completes | fails | closed =>
    exact ⟨rfl, id, fun there => absurd there (Option.some_ne_none _)⟩
  | sends written chunk sending =>
    rw [sending]
    have filled : p.pipe ++ [chunk] ≠ [] := List.append_ne_nil_of_right_ne_nil _ (List.cons_ne_nil _ _)
    exact ⟨rfl, fun empty => absurd empty filled, fun _ => rfl⟩
  | fires | takes | leaves => exact ⟨rfl, id, id⟩
  | _ => exact absurd rfl other

/-- What a task can do it can still do after something else has happened. -/
theorem Step.still (step : Step source total p actor q) {task : Actor} (isTask : task.isTask)
    (other : actor ≠ task) (can : (p.next source total task).isSome) :
    (q.next source total task).isSome := by
  rw [Option.isSome_iff_ne_none] at can ⊢
  refine mt (fun stuck => ?_) can
  cases task with
  | generator =>
    obtain ⟨same, shorter, there⟩ := step.beside_generator other
    exact Pipeline.draw_eq_none.2 ((Pipeline.draw_eq_none.1 stuck).imp (same ▸ id)
      fun ⟨sending, full, running⟩ => ⟨same ▸ sending, full.trans shorter, there running⟩)
  | digester =>
    obtain ⟨same, empty, there⟩ := step.beside_digester other
    exact Pipeline.digest_eq_none.2 ((Pipeline.digest_eq_none.1 stuck).imp (same ▸ id)
      fun ⟨receiving, nothing, running⟩ => ⟨same ▸ receiving, empty nothing, there running⟩)
  | fires | takes | leaves => exact absurd isTask nofun

/-! ### Fair schedules -/

/-- It has a turn again and again. -/
def Recurs (turns : Nat → Actor) (actor : Actor) : Prop := ∀ n, ∃ m ≥ n, turns m = actor

/-- Both tasks have a turn again and again. -/
def Fair (turns : Nat → Actor) : Prop := ∀ task : Actor, task.isTask → Recurs turns task

/-- What is there after a number of turns. -/
def Pipeline.at (source : ByteSource) (total : Nat) (p : Pipeline) (turns : Nat → Actor) (n : Nat) :
    Pipeline :=
  p.after source total ((List.range n).map turns)

theorem Fair.later {turns : Nat → Actor} (fair : Fair turns) (n : Nat) : Fair fun i => turns (n + i) := by
  intro task isTask m
  obtain ⟨k, late, turn⟩ := fair task isTask (n + m)
  have instant : n + (k - n) = k := by omega
  exact ⟨k - n, by omega, (congrArg turns instant).trans turn⟩

namespace Pipeline

variable {turns : Nat → Actor}

theorem at_succ (n : Nat) : p.at source total turns (n + 1) =
    (p.at source total turns n).occur source total (turns n) := by
  rw [Pipeline.at, List.range_succ, List.map_append, List.map_singleton, after_snoc, Pipeline.at]

theorem at_add (n m : Nat) : p.at source total turns (n + m) =
    (p.at source total turns n).at source total (fun i => turns (n + i)) m := by
  rw [Pipeline.at, List.range_add, List.map_append, List.map_map, after_append, Pipeline.at, Pipeline.at]
  rfl

theorem within_after (source : ByteSource) (within : p.generator.Within total) (schedule : List Actor) :
    (p.after source total schedule).generator.Within total :=
  after_induction within (fun within step => step.within within) schedule

/-- A task that can go on and has its turn some time later has less to do then, or there was less to
do before. -/
theorem less_left (within : p.generator.Within total) {task : Actor} (isTask : task.isTask)
    (can : (p.next source total task).isSome) {n : Nat} (turn : turns n = task) :
    ∃ m, (p.at source total turns m).left total < p.left total := by
  by_contra! enough
  -- As long as there is not less to do, the task can still go on.
  have waits : ∀ k ≤ n, ((p.at source total turns k).next source total task).isSome ∧
      (p.at source total turns k).left total ≤ p.left total := by
    intro k
    induction k with
    | zero => exact fun _ => ⟨can, Nat.le_refl _⟩
    | succ k ih =>
      intro before
      obtain ⟨still, most⟩ := ih (by omega)
      have more := enough (k + 1)
      rw [at_succ] at more ⊢
      rcases occur_eq_or_step source total (p.at source total turns k) (turns k) with ⟨_, same⟩ | step
      · rw [same]
        exact ⟨still, most⟩
      · have within := within_after source within ((List.range k).map turns)
        refine ⟨step.still isTask (fun its => ?_) still, (step.left_le within).trans most⟩
        have less := step.left_lt (its ▸ isTask) within
        omega
  obtain ⟨still, most⟩ := waits n (Nat.le_refl n)
  have more := enough (n + 1)
  rw [at_succ, turn] at more
  rcases occur_eq_or_step source total (p.at source total turns n) task with ⟨stuck, _⟩ | step
  · rw [stuck] at still
    exact absurd still nofun
  · have less := step.left_lt isTask (within_after source within ((List.range n).map turns))
    omega

/-- **Both tasks end** under every fair schedule. -/
theorem ends (source : ByteSource) (within : p.generator.Within total) (fair : Fair turns) :
    ∃ n, (p.at source total turns n).Ended := by
  induction much : p.left total using Nat.strongRecOn generalizing p turns with
  | ind much' ih =>
    subst much
    by_cases unfinished : p.Ended
    · exact ⟨0, unfinished⟩
    · obtain ⟨task, isTask, can⟩ := live source total unfinished
      obtain ⟨n, _, turn⟩ := fair task isTask 0
      obtain ⟨m, less⟩ := less_left within isTask can turn
      obtain ⟨k, ended⟩ := ih _ less (within_after source within _) (fair.later m) rfl
      refine ⟨m + k, ?_⟩
      rw [at_add]
      exact ended

end Pipeline

/-- Tasks that have ended stay as they are. -/
theorem Step.ended (step : Step source total p actor q) (ended : p.Ended) :
    q.generator = p.generator ∧ q.digester = p.digester := by
  obtain ⟨drawn, digested⟩ := ended
  cases step with
  | goesOn _ here | stops _ here | completes _ here | calls _ here
  | fills _ _ here | fails _ _ here | closed _ _ here | sends _ _ here =>
    rw [here] at drawn
    exact absurd drawn nofun
  | receives _ _ _ _ here | finishes _ _ here | absorbs _ _ _ here | abandons _ _ _ here =>
    rw [here] at digested
    exact absurd digested nofun
  | fires | takes | leaves => exact ⟨rfl, rfl⟩

end StreamQueue.Work
