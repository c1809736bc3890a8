import StreamQueue.Proofs.Work.Pipeline

/-!
# Every schedule of the two tasks comes to the same

Whatever the order of what happens, two tasks do the work as it is done one chunk after the other,
unless the token fires. What is in the pipe is what was drawn and not yet digested, so the side
that digests reads too little only if the side that draws has failed, and that failure comes first.
This holds as long as the tasks are not told to stop; `Pipeline.OnCourse` says it, and nothing but
the token takes the work off this course.

A token that fires stops both tasks, but a call may be about to start that nobody takes back.

## What is proved

* `Step.flows` — no step takes the work off its course.
* `Pipeline.calls_after` — at most one call starts once the tasks are told to stop.
* `Pipeline.finishes` — a caller that looks again and again has its outcome in the end.
* `two_tasks` — under every schedule the caller has what the work comes to one chunk after the
  other, or that it is cancelled if its token has fired.
-/

namespace StreamQueue

/-- The error tells of the byte source. -/
def WorkError.IsGeneration : WorkError → Prop
  | generation _ | generatorLost => True
  | _ => False

namespace Work

variable {source : ByteSource} {total : Nat} {p q : Pipeline} {actor : Actor}

/-! ### What the work comes to -/

/-- With some bytes handed over, digested by `hasher` in the end, the drawing task goes on to what
the rest of the work comes to. -/
def Generator.Leads (source : ByteSource) (total calls : Nat) (hasher : Digest.Hasher) (written : Nat)
    (target : Except WorkError WorkOutcome) : Generator → Prop
  | looking w | drawing w =>
    w = written ∧ (drawRest source total calls hasher (total - w)).result = target
  | calling w => w = written ∧ ∃ earlier, calls = earlier + 1 ∧ (source calls).cancels = false ∧
      (drawRest source total earlier hasher (total - w)).result = target
  | sending w chunk => w = written ∧
      (drawRest source total calls (hasher.absorb chunk) (total - (w + chunk.length))).result = target
  | ended (.ok w) => w = written ∧ w = total ∧ target = .ok ⟨Digest.hex hasher.digest, total⟩
  | ended (.error error) => error.IsGeneration ∧ target = .error error

/-- With some bytes in the pipe, the digesting task comes to `hasher` and a number of bytes read. -/
def Digester.Hears (bytes : List UInt8) (hasher : Digest.Hasher) (written : Nat) : Digester → Prop
  | receiving h read => h.absorb bytes = hasher ∧ read + bytes.length = written
  | checking h read chunk => h.absorb (chunk ++ bytes) = hasher ∧ read + (chunk ++ bytes).length = written
  | ended _ => False

/-- The work is under way to what it comes to, or has come to it. -/
inductive Pipeline.OnCourse (source : ByteSource) (total : Nat) (target : Except WorkError WorkOutcome)
    (p : Pipeline) : Prop
  | flows (hasher : Digest.Hasher) (written : Nat) (runs : p.stopped = false)
      (leads : p.generator.Leads source total p.calls hasher written target)
      (hears : p.digester.Hears p.pipe.flatten hasher written)
  | settled (drawn : Except WorkError Nat) (digested : Except WorkError WorkOutcome)
      (generator : p.generator = .ended drawn) (digester : p.digester = .ended digested)
      (joined : join drawn digested = target)
      (genuine : ∀ error, target = .error error → error.IsGeneration)

variable {target : Except WorkError WorkOutcome} {hasher : Digest.Hasher} {written : Nat} {bytes : List UInt8}

theorem isGeneration_of_fault {yield : Draw.Yield} {error : WorkError}
    (fault : Draw.fault? ⟨false, yield⟩ = some error) : error.IsGeneration := by
  rcases Draw.of_fault_some fault with ⟨cancels, _⟩ | ⟨text, _, rfl⟩ | ⟨_, rfl⟩
  · exact absurd cancels nofun
  · trivial
  · trivial

/-- A digesting task that still comes to something has not ended. -/
theorem Digester.Hears.there {d : Digester} (hears : d.Hears bytes hasher written) : d.result? = none := by
  cases d with
  | receiving | checking => rfl
  | ended => exact hears.elim

/-- What is put into the pipe will be digested behind the rest. -/
theorem Digester.Hears.behind {d : Digester} (hears : d.Hears bytes hasher written) (chunk : List UInt8) :
    d.Hears (bytes ++ chunk) (hasher.absorb chunk) (written + chunk.length) := by
  cases d with
  | receiving h read =>
    obtain ⟨rfl, rfl⟩ := hears
    exact ⟨Digest.Hasher.absorb_append h bytes chunk, by rw [List.length_append, Nat.add_assoc]⟩
  | checking h read next =>
    obtain ⟨rfl, rfl⟩ := hears
    rw [Hears, ← List.append_assoc, Digest.Hasher.absorb_append]
    exact ⟨rfl, by simp only [List.length_append, Nat.add_assoc]⟩
  | ended => exact hears.elim

/-- An unstopped task that has drawn what was wanted, and one that has failed, give the target. -/
theorem settled_of_finish {drawn : Except WorkError Nat} (generator : q.generator = .ended drawn)
    (digester : q.digester = .ended (finish total hasher written))
    (leads : (Generator.ended drawn).Leads source total p.calls hasher written target) :
    q.OnCourse source total target := by
  cases drawn with
  | ok w =>
    obtain ⟨rfl, rfl, rfl⟩ := leads
    exact .settled _ _ generator digester (if_pos rfl) nofun
  | error error =>
    obtain ⟨genuine, rfl⟩ := leads
    exact .settled _ _ generator digester rfl fun _ same => Except.error.inj same ▸ genuine

theorem Step.uncancelled (step : Step source total p actor q) (uncancelled : q.cancelled = false) :
    p.cancelled = false := by
  cases step with
  | calls => exact (Bool.or_eq_false_iff.1 uncancelled).1
  | fires => exact absurd uncancelled nofun
  | _ => exact uncancelled

theorem Step.flows (step : Step source total p actor q) (within : p.generator.Within total)
    (runs : p.stopped = false)
    (leads : p.generator.Leads source total p.calls hasher written target)
    (hears : p.digester.Hears p.pipe.flatten hasher written)
    (uncancelled : q.cancelled = false) (stays : q.caller ≠ .gone) : q.OnCourse source total target := by
  cases step with
  | goesOn w looking =>
    rw [looking] at leads
    exact .flows hasher written runs leads hears
  | stops w looking stopped => exact absurd (runs.symm.trans stopped) nofun
  | completes w looking all =>
    rw [looking] at leads within
    obtain rfl : w = total := Nat.le_antisymm within all
    refine .flows hasher written runs ⟨leads.1, rfl, ?_⟩ hears
    rw [← leads.2, drawRest_done (Nat.sub_self w)]
  | calls w drawing =>
    rw [drawing] at leads
    have free := (Bool.or_eq_false_iff.1 uncancelled).2
    exact .flows hasher written (by simp only [runs, free, Bool.or_self])
      ⟨leads.1, p.calls, rfl, free, leads.2⟩ hears
  | fills w byte calling filled =>
    rw [calling] at leads within
    obtain ⟨same, earlier, count, free, rest⟩ := leads
    refine .flows hasher written runs ⟨same, ?_⟩ hears
    -- The token was not fired by the call, so the call is the one that is made one after the other.
    have draw : source (earlier + 1) = ⟨false, .filled byte⟩ := by rw [← count, ← free, ← filled]
    have left : total - (w + min (total - w) chunkSize) = total - w - chunkSize := by omega
    rw [firstBytes_length, left, count, ← rest, drawRest_filled (Nat.sub_pos_of_lt within) draw]
  | fails w error calling fault =>
    rw [calling] at leads within
    obtain ⟨_, earlier, count, free, rest⟩ := leads
    have call : (source (earlier + 1)).fault? = some error := by rw [← count, ← fault, ← free]
    refine .flows hasher written runs ⟨isGeneration_of_fault fault, ?_⟩ hears
    rw [← rest, drawRest_fault (Nat.sub_pos_of_lt within) call]
  | closed w chunk sending gone =>
    rw [hears.there] at gone
    exact absurd gone nofun
  | sends w chunk sending there room =>
    rw [sending] at leads
    obtain ⟨rfl, rest⟩ := leads
    refine .flows (hasher.absorb chunk) (w + chunk.length) runs ⟨rfl, rest⟩ ?_
    rw [List.flatten_append, List.flatten_singleton]
    exact hears.behind chunk
  | receives h read chunk pipe receiving filled =>
    rw [receiving, filled, List.flatten_cons] at hears
    exact .flows hasher written runs leads hears
  | finishes h read receiving empty done =>
    -- Nothing is left in the pipe, so all that was handed over is digested.
    rw [receiving, empty] at hears
    obtain ⟨rfl, rfl⟩ := hears
    obtain ⟨drawn, generator⟩ := Generator.ended_of_isSome done
    rw [generator] at leads
    exact settled_of_finish generator rfl leads
  | absorbs h read chunk checking =>
    rw [checking] at hears
    obtain ⟨rfl, rfl⟩ := hears
    refine .flows _ _ runs leads ⟨(Digest.Hasher.absorb_append h chunk p.pipe.flatten).symm, ?_⟩
    rw [List.length_append, Nat.add_assoc]
  | abandons h read chunk checking stopped => exact absurd (runs.symm.trans stopped) nofun
  | fires => exact absurd uncancelled nofun
  | takes result waiting found =>
    rw [Pipeline.outcome?, if_neg (by rw [uncancelled]; exact Bool.false_ne_true), hears.there] at found
    cases drawn : p.generator.result? <;> rw [drawn] at found <;> exact absurd found nofun
  | leaves => exact absurd rfl stays

/-- What holds at every moment of work on two tasks. -/
structure Pipeline.Sound (source : ByteSource) (total : Nat) (target : Except WorkError WorkOutcome)
    (p : Pipeline) : Prop where
  within : p.generator.Within total
  shallow : p.pipe.length ≤ pipeDepth
  /-- The tasks know that the token has fired, or that nobody waits for them. -/
  told : p.cancelled = true ∨ p.caller ≠ .waiting → p.stopped = true
  course : p.cancelled = false → p.caller ≠ .gone → p.OnCourse source total target

theorem Step.told (step : Step source total p actor q)
    (told : p.cancelled = true ∨ p.caller ≠ .waiting → p.stopped = true) :
    q.cancelled = true ∨ q.caller ≠ .waiting → q.stopped = true := by
  cases step with
  | calls w drawing =>
    simp only [Bool.or_eq_true]
    rintro ((before | now) | served)
    · exact .inl (told (.inl before))
    · exact .inr now
    · exact .inl (told (.inr served))
  | fires | takes | leaves => exact fun _ => rfl
  | _ => exact told

theorem Step.shallow (step : Step source total p actor q) (shallow : p.pipe.length ≤ pipeDepth) :
    q.pipe.length ≤ pipeDepth := by
  cases step with
  | sends written chunk sending there room =>
    rw [List.length_append, List.length_singleton]
    exact room
  | receives hasher read chunk pipe receiving filled =>
    rw [filled] at shallow
    exact (Nat.le_succ _).trans shallow
  | _ => exact shallow

theorem Step.course (step : Step source total p actor q) (within : p.generator.Within total)
    (course : p.cancelled = false → p.caller ≠ .gone → p.OnCourse source total target)
    (uncancelled : q.cancelled = false) (stays : q.caller ≠ .gone) : q.OnCourse source total target := by
  have stayed : p.caller ≠ .gone := by
    cases step with
    | takes result waiting found =>
      rw [waiting]
      exact nofun
    | leaves => exact absurd rfl stays
    | _ => exact stays
  cases course (step.uncancelled uncancelled) stayed with
  | flows hasher written runs leads hears => exact step.flows within runs leads hears uncancelled stays
  | settled drawn digested generator digester joined genuine =>
    have ended : p.Ended := by
      rw [Pipeline.Ended, generator, digester]
      exact ⟨rfl, rfl⟩
    obtain ⟨sameDrawn, sameDigested⟩ := step.ended ended
    exact .settled drawn digested (sameDrawn.trans generator) (sameDigested.trans digester) joined genuine

theorem Step.sound (step : Step source total p actor q) (sound : p.Sound source total target) :
    q.Sound source total target :=
  ⟨step.within sound.within, step.shallow sound.shallow, step.told sound.told,
    step.course sound.within sound.course⟩

/-! ### The caller and its token -/

/-- The calls that the drawing task makes whatever the token does. -/
def Generator.ahead : Generator → Nat
  | drawing _ => 1
  | _ => 0

theorem Generator.ahead_le_one (g : Generator) : g.ahead ≤ 1 := by
  cases g <;> simp [ahead]

/-- After the token has fired no step sets out for another call, except the one that is ahead. -/
theorem Step.calls_le (step : Step source total p actor q) (stopped : p.stopped = true) :
    q.stopped = true ∧ q.calls + q.generator.ahead ≤ p.calls + p.generator.ahead := by
  cases step with
  | goesOn w looking more runs => exact absurd (runs.symm.trans stopped) nofun
  | calls w drawing =>
    rw [drawing, stopped]
    exact ⟨rfl, Nat.le_refl _⟩
  | stops | completes | fills | fails | closed | sends => exact ⟨stopped, Nat.le_add_right _ _⟩
  | receives | finishes | absorbs | abandons => exact ⟨stopped, Nat.le_refl _⟩
  | fires | takes | leaves => exact ⟨rfl, Nat.le_refl _⟩

namespace Pipeline

theorem calls_after (stopped : p.stopped = true) (schedule : List Actor) :
    (p.after source total schedule).calls ≤ p.calls + 1 := by
  let Bounded (q : Pipeline) : Prop :=
    q.stopped = true ∧ q.calls + q.generator.ahead ≤ p.calls + p.generator.ahead
  have bounded : Bounded (p.after source total schedule) := by
    refine after_induction ⟨stopped, Nat.le_refl _⟩ (fun before step => ?_) schedule
    obtain ⟨still, fewer⟩ := step.calls_le before.1
    exact ⟨still, fewer.trans before.2⟩
  have most := p.generator.ahead_le_one
  have enough := bounded.2
  omega

/-- How a caller that waited before a schedule comes to be where it is after it: it has what it found
when it looked, and it is gone only if it went. -/
def Explains (source : ByteSource) (total : Nat) (p : Pipeline) (schedule : List Actor) : Caller → Prop
  | .waiting => True
  | .has result => ∃ before later, schedule = before ++ .takes :: later ∧
      (p.after source total before).caller = .waiting ∧
      (p.after source total before).outcome? = some result
  | .gone => .leaves ∈ schedule

theorem Explains.later {schedule : List Actor} {caller : Caller}
    (explains : p.Explains source total schedule caller) (actor : Actor) :
    p.Explains source total (schedule ++ [actor]) caller := by
  cases caller with
  | waiting => trivial
  | has result =>
    obtain ⟨before, later, rfl, found⟩ := explains
    exact ⟨before, later ++ [actor], by rw [List.append_assoc, List.cons_append], found⟩
  | gone => exact List.mem_append_left _ explains

theorem caller_after (waiting : p.caller = .waiting) (schedule : List Actor) :
    p.Explains source total schedule (p.after source total schedule).caller := by
  induction schedule using List.reverseRecOn with
  | nil =>
    rw [after, List.foldl_nil, waiting]
    trivial
  | append_singleton schedule actor ih =>
    rw [after_snoc]
    rcases occur_eq_or_step source total (p.after source total schedule) actor with ⟨_, same⟩ | step
    · rw [same]
      exact ih.later actor
    · generalize (p.after source total schedule).occur source total actor = q at step
      cases step with
      | takes result waits found => exact ⟨schedule, [], rfl, waits, found⟩
      | leaves => exact List.mem_append_right _ List.mem_cons_self
      | _ => exact ih.later _

/-- A caller that waits finds an outcome if its token has fired or both tasks have ended. -/
theorem takes_isSome (source : ByteSource) (total : Nat) (waiting : p.caller = .waiting)
    (ready : p.cancelled = true ∨ p.Ended) : (p.next source total .takes).isSome := by
  simp only [next, waiting, Option.isSome_map, outcome?]
  rcases ready with cancelled | ⟨drawn, digested⟩
  · rw [if_pos cancelled]
    rfl
  · split
    · rfl
    · obtain ⟨drawn, eqDrawn⟩ := Option.isSome_iff_exists.1 drawn
      rw [eqDrawn, Option.bind_some, Option.isSome_map]
      exact digested

theorem sound_start (calls : Nat) {size : Int} (positive : 0 < size) :
    (start calls).Sound source size.toNat (run source calls false size).result := by
  refine ⟨Nat.zero_le _, Nat.zero_le _, ?_, fun _ _ => .flows Digest.Hasher.start 0 rfl ⟨rfl, ?_⟩ ⟨rfl, rfl⟩⟩
  · rintro (cancelled | served)
    · exact absurd cancelled nofun
    · exact absurd rfl served
  · rw [run, if_neg (Int.not_le.2 positive), if_neg Bool.false_ne_true, Nat.sub_zero]
    rfl

theorem ended_after (ended : p.Ended) (schedule : List Actor) : (p.after source total schedule).Ended := by
  refine after_induction ended (fun {p q _} ended step => ?_) schedule
  obtain ⟨sameDrawn, sameDigested⟩ := step.ended ended
  rw [Ended, sameDrawn, sameDigested]
  exact ended

/-- A caller that looks when both tasks have ended waits no more. -/
theorem served (ended : p.Ended) : (p.occur source total .takes).caller ≠ .waiting := by
  rcases occur_eq_or_step source total p .takes with ⟨stuck, same⟩ | step
  · rw [same]
    intro waiting
    have can := takes_isSome source total waiting (.inr ended)
    rw [stuck] at can
    exact absurd can nofun
  · generalize p.occur source total .takes = q at step
    cases step with
    | takes => exact nofun

/-- A caller that looks again and again has its outcome in the end, unless it goes. -/
theorem finishes (waiting : p.caller = .waiting) (within : p.generator.Within total)
    {turns : Nat → Actor} (fair : Fair turns) (looks : Recurs turns .takes) :
    ∃ n, (∃ result, (p.at source total turns n).caller = .has result) ∨ ∃ m < n, turns m = .leaves := by
  obtain ⟨n, ended⟩ := ends source within fair
  obtain ⟨m, late, turn⟩ := looks n
  obtain ⟨k, rfl⟩ := Nat.exists_eq_add_of_le late
  have still : (p.at source total turns (n + k)).Ended := by
    rw [at_add]
    exact ended_after ended _
  refine ⟨n + k + 1, ?_⟩
  have explains : p.Explains source total _ (p.at source total turns (n + k + 1)).caller :=
    caller_after waiting _
  cases now : (p.at source total turns (n + k + 1)).caller with
  | waiting =>
    rw [at_succ, turn] at now
    exact absurd now (served still)
  | has result => exact .inl ⟨result, rfl⟩
  | gone =>
    rw [now] at explains
    obtain ⟨m, before, left⟩ := List.mem_map.1 explains
    exact .inr ⟨m, List.mem_range.1 before, left⟩

end Pipeline

/-! ### All schedules -/

/-- What a caller may have when it looks at some moment: if its token has fired, that the work is
cancelled, and else, when both tasks have ended, what the work comes to one chunk after the other. -/
def Pipeline.Verdict (source : ByteSource) (calls : Nat) (size : Int) (p : Pipeline)
    (result : Except WorkError WorkOutcome) : Prop :=
  if p.cancelled then result = .error .cancelled
  else p.Ended ∧ result = (run source calls false size).result ∧
    ∀ error, result = .error error → error.IsGeneration

/-- What a caller finds whose token has not fired is what both tasks have come to. -/
theorem Pipeline.Sound.outcome {result : Except WorkError WorkOutcome} (sound : p.Sound source total target)
    (waiting : p.caller = .waiting) (free : p.cancelled = false) (found : p.outcome? = some result) :
    p.Ended ∧ result = target ∧ ∀ error, target = .error error → error.IsGeneration := by
  rw [Pipeline.outcome?, if_neg (by rw [free]; exact Bool.false_ne_true)] at found
  obtain ⟨drawn, eqDrawn, rest⟩ := Option.bind_eq_some_iff.1 found
  obtain ⟨digested, eqDigested, rfl⟩ := Option.map_eq_some_iff.1 rest
  refine ⟨⟨by rw [eqDrawn]; rfl, by rw [eqDigested]; rfl⟩, ?_⟩
  cases sound.course free (by rw [waiting]; exact nofun) with
  | flows hasher written runs leads hears =>
    rw [hears.there] at eqDigested
    exact absurd eqDigested nofun
  | settled _ _ generator digester joined genuine =>
    rw [generator] at eqDrawn
    rw [digester] at eqDigested
    obtain rfl := Option.some.inj eqDrawn
    obtain rfl := Option.some.inj eqDigested
    exact ⟨joined, genuine⟩

/-- What a caller finds is right. -/
theorem Pipeline.Sound.verdict {calls : Nat} {size : Int} {result : Except WorkError WorkOutcome}
    (sound : p.Sound source size.toNat (run source calls false size).result) (waiting : p.caller = .waiting)
    (found : p.outcome? = some result) : p.Verdict source calls size result := by
  unfold Pipeline.Verdict
  split
  case isTrue cancelled =>
    rw [Pipeline.outcome?, if_pos cancelled] at found
    exact (Option.some.inj found).symm
  case isFalse free =>
    obtain ⟨ended, rfl, genuine⟩ := sound.outcome waiting (Bool.eq_false_iff.2 free) found
    exact ⟨ended, rfl, genuine⟩

/-- Work on two tasks is like work one chunk after the other, whatever the schedule. -/
structure Faithful (source : ByteSource) (calls : Nat) (size : Int) : Prop where
  /-- While a task is unfinished, a task can go on. The pipe never holds more than it may. -/
  live : ∀ schedule, let p := (Pipeline.start calls).after source size.toNat schedule
    p.pipe.length ≤ pipeDepth ∧
      (¬p.Ended → ∃ task : Actor, task.isTask ∧ (p.next source size.toNat task).isSome)
  /-- A caller that waits can take an outcome if its token has fired or both tasks have ended. -/
  ready : ∀ schedule, let p := (Pipeline.start calls).after source size.toNat schedule
    p.caller = .waiting → p.cancelled = true ∨ p.Ended → (p.next source size.toNat .takes).isSome
  /-- The caller has what was right when it looked. -/
  taken : ∀ schedule result,
    ((Pipeline.start calls).after source size.toNat schedule).caller = .has result →
    ∃ before later, schedule = before ++ .takes :: later ∧
      ((Pipeline.start calls).after source size.toNat before).caller = .waiting ∧
      ((Pipeline.start calls).after source size.toNat before).Verdict source calls size result
  /-- At most one more call starts after the token has fired, or after the caller has its outcome
  or is gone. -/
  stops : ∀ before later, let p := (Pipeline.start calls).after source size.toNat before
    p.cancelled = true ∨ p.caller ≠ .waiting →
    ((Pipeline.start calls).after source size.toNat (before ++ later)).calls ≤ p.calls + 1
  /-- Both tasks end, whether and whenever the token fires. -/
  ends : ∀ turns, Fair turns → ∃ n, ((Pipeline.start calls).at source size.toNat turns n).Ended
  /-- A caller that looks again and again has its outcome in the end, unless it goes. -/
  served : ∀ turns, Fair turns → Recurs turns .takes →
    ∃ n, (∃ result, ((Pipeline.start calls).at source size.toNat turns n).caller = .has result) ∨
      ∃ m < n, turns m = .leaves
  /-- What the work comes to one chunk after the other: the digest of all chunks in order, or the
  failure of the first call that does not fill its buffer. -/
  reading : Drawn source calls size.toNat (fun bytes => ⟨Digest.hex (Digest.sha256 bytes), size.toNat⟩)
    (run source calls false size).result

/-- **Two tasks** do the work as it is done one chunk after the other, under every schedule. -/
theorem two_tasks (source : ByteSource) (calls : Nat) {size : Int} (positive : 0 < size) :
    Faithful source calls size := by
  have sound (schedule : List Actor) : ((Pipeline.start calls).after source size.toNat schedule).Sound source
      size.toNat (run source calls false size).result :=
    Pipeline.after_induction (Pipeline.sound_start calls positive) (fun sound step => step.sound sound) schedule
  refine
    { live := fun schedule => ⟨(sound schedule).shallow, Pipeline.live source _⟩
      ready := fun schedule => Pipeline.takes_isSome source _
      taken := ?taken
      stops := ?stops
      ends := fun turns fair => Pipeline.ends source (Nat.zero_le _) fair
      served := fun turns fair looks => Pipeline.finishes rfl (Nat.zero_le _) fair looks
      reading := drawn_of_run positive }
  case taken =>
    intro schedule result has
    have explains : (Pipeline.start calls).Explains source size.toNat schedule (.has result) :=
      has ▸ Pipeline.caller_after rfl schedule
    obtain ⟨before, later, split, waiting, found⟩ := explains
    exact ⟨before, later, split, waiting, (sound before).verdict waiting found⟩
  case stops =>
    intro before later p past
    rw [Pipeline.after_append]
    exact Pipeline.calls_after ((sound before).told past) later

/-- The work of one byte with a source that is dry: the one who waits is told so, and one who cancels
while the call is out is told that, and both tasks end then too. -/
theorem two_tasks_dry :
    (0 : Int) < 1 ∧ Faithful (fun _ => ⟨false, .failed "dry"⟩) 0 1 ∧
      ((Pipeline.start 0).after (fun _ => ⟨false, .failed "dry"⟩) 1
        [.digester, .generator, .generator, .generator, .digester, .takes]).caller =
          .has (.error (.generation "dry")) ∧
      ((Pipeline.start 0).after (fun _ => ⟨false, .failed "dry"⟩) 1
        [.generator, .generator, .fires, .takes, .generator, .digester]).caller =
          .has (.error .cancelled) :=
  ⟨by decide, two_tasks _ 0 (by decide), rfl, rfl⟩

end Work

end StreamQueue
