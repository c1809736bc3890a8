import StreamQueue.Proofs.Publisher.Batch

/-!
# One job after another

A job that goes on with another one makes its calls first, and the other begins where it has ended.
In virtual time this is so if the first takes every deadline away that it sets: one that it left
behind would be over the second as well. A job that waits for ever is never gone on with.

A job may also do no more than look at a log. It leaves the log as it is, and what it is shown does
not depend on when it looks, so it passes as on a log whose answers are written down beforehand.

## What is proved

* `Job.passing_bind` — the passage of a job and of what it goes on with, put together.
* `Job.passing_looks` — a job that only looks, on the log in memory with calls that are hindered.
-/

namespace StreamQueue

namespace Job

variable {α β σ : Type}

/-! ### What a job leaves behind -/

/-- A job under a deadline or not that stands under none when it ends. -/
inductive Tidy : Bool → Job α → Prop
  | done (a : α) : Tidy false (done a)
  | call {armed : Bool} {c : LogCall} {next : c.Result → Job α} (each : ∀ r, Tidy armed (next r)) :
    Tidy armed (call c next)
  | report {armed : Bool} {e : Event} {rest : Job α} (tidy : Tidy armed rest) : Tidy armed (report e rest)
  | readWall {armed : Bool} {next : Timestamp → Job α} (each : ∀ t, Tidy armed (next t)) :
    Tidy armed (readWall next)
  | arm {armed : Bool} {limit : Span} {late rest : Job α} (whenLate : Tidy false late) (tidy : Tidy true rest) :
    Tidy armed (arm limit late rest)
  | disarm {armed : Bool} {rest : Job α} (tidy : Tidy false rest) : Tidy armed (disarm rest)

/-- A passage and that of what the job goes on with, the calls being counted from the `i`-th on. -/
def Passage.followed (log : Service σ) (f : α → Job β) (i : Nat) (o : Passage α σ) : Passage β σ :=
  match o.ended with
  | some (t, a) =>
    let rest := (f a).passing log none (i + o.calls.length) t o.left
    ⟨rest.ended, o.calls ++ rest.calls, o.reports ++ rest.reports, rest.left⟩
  | none => ⟨none, o.calls, o.reports, o.left⟩

section Followed

variable {log : Service σ} {f : α → Job β} {i : Nat} {o : Passage α σ}

theorem Passage.followed_of_ended {t : Instant} {a : α} (ended : o.ended = some (t, a)) :
    o.followed log f i =
      let rest := (f a).passing log none (i + o.calls.length) t o.left
      ⟨rest.ended, o.calls ++ rest.calls, o.reports ++ rest.reports, rest.left⟩ := by
  rw [followed, ended]

theorem Passage.followed_behind (t : Instant) (c : LogCall) :
    (o.behind t c).followed log f i = (o.followed log f (i + 1)).behind t c := by
  have later : i + (o.calls.length + 1) = i + 1 + o.calls.length := by omega
  simp only [followed, behind, List.length_cons, later]
  cases o.ended <;> rfl

theorem Passage.followed_report (e : Event) :
    Passage.followed log f i { o with reports := e :: o.reports } =
      { o.followed log f i with reports := e :: (o.followed log f i).reports } := by
  simp only [followed]
  cases o.ended <;> rfl

end Followed

/-- **One job after another**: the second begins when the first has ended, with the log that it has
left and under no deadline. -/
theorem passing_bind (log : Service σ) (f : α → Job β) {armed : Bool} {job : Job α} (tidy : Tidy armed job)
    (deadline : Option (Instant × (Nat → σ → Passage α σ))) (under : deadline.isSome = armed) (i : Nat)
    (t : Instant) (s : σ) :
    (job.bind f).passing log
        (deadline.map fun (due, late) => (due, fun i s => (late i s).followed log f i)) i t s =
      (job.passing log deadline i t s).followed log f i := by
  induction tidy generalizing deadline i t s with
  | done a =>
    rw [Option.isSome_eq_false_iff, Option.isNone_iff_eq_none] at under
    subst under
    rfl
  | @call armed c next each ih =>
    have due : (deadline.map fun (due, late) => (due, fun i s => (late i s).followed log f i)).map (·.1) =
        deadline.map (·.1) := by
      cases deadline <;> rfl
    cases back : log.inTime (deadline.map (·.1)) i c t s with
    | some b =>
      rw [bind, passing_call_of_some back, passing_call_of_some (by rw [due]; exact back), ih _ deadline under,
        Passage.followed_behind]
    | none =>
      cases deadline with
      | some deadline =>
        rw [Option.map_some, bind, passing_call_of_none back, passing_call_of_none back, Passage.followed_behind]
      | none =>
        rw [Option.map_none, bind, passing_call_of_hung back, passing_call_of_hung back]
        rfl
  | report tidy ih => simp only [bind, passing, ih deadline under, Passage.followed_report]
  | readWall each ih => exact ih (log.wall t) deadline under i t s
  | @arm armed limit late rest whenLate tidy ihLate ihRest =>
    -- Whoever is late goes on with the second job too, from the instant of the deadline.
    have afterwards (i : Nat) (s : σ) := ihLate none rfl i (t.after limit) s
    simp only [Option.map_none] at afterwards
    simp only [bind, passing, afterwards]
    exact ihRest (some (t.after limit, fun i s => late.passing log none i (t.after limit) s)) rfl i t s
  | disarm tidy ih => exact ih none rfl i t s

/-- The first job stands under no deadline. -/
theorem passing_bind_none {job : Job α} (tidy : Tidy false job) (log : Service σ) (f : α → Job β) (i : Nat)
    (t : Instant) (s : σ) :
    (job.bind f).passing log none i t s = (job.passing log none i t s).followed log f i :=
  passing_bind log f tidy none rfl i t s

/-! ### Jobs that only look -/

/-- A call that is answered from a store and leaves it as it is, whenever it is made. -/
def Shows (s : Store) (c : LogCall) : Prop := ∀ clock clock', s.perform clock c = ((s.perform clock' c).1, s)

/-- A job, under a deadline or not, that only looks at a store and stands under no deadline when it
ends. -/
inductive Looking (s : Store) : Bool → Job α → Prop
  | done (a : α) : Looking s false (done a)
  | call {armed : Bool} {c : LogCall} {next : c.Result → Job α} (shows : Shows s c)
    (each : ∀ r, Looking s armed (next r)) : Looking s armed (call c next)
  | arm {armed : Bool} {limit : Span} {late rest : Job α} (whenLate : Looking s false late)
    (looking : Looking s true rest) : Looking s armed (arm limit late rest)
  | disarm {armed : Bool} {rest : Job α} (looking : Looking s false rest) : Looking s armed (disarm rest)

theorem Looking.tidy {s : Store} {armed : Bool} {job : Job α} (looking : Looking s armed job) :
    Tidy armed job := by
  induction looking with
  | done a => exact .done a
  | call _ _ ih => exact .call ih
  | arm _ _ ihLate ih => exact .arm ihLate ih
  | disarm _ ih => exact .disarm ih

/-- The answer of a store to a call that may be refused, from the `i`-th call on. -/
def shown (hitches : Nat → Hitch) (i : Nat) (s : Store) (k : Nat) (c : LogCall) : c.Result :=
  ((hitches (i + k)).outcome ⟨.zero, ⟨0⟩⟩ c s).1

/-- How long the calls are held back, from the `i`-th on. -/
def held (hitches : Nat → Hitch) (i k : Nat) : Option Span := (hitches (i + k)).delay

/-- A passage on a log that was left as it is. -/
def Passage.leaving (s : Store) (o : Passage α Unit) : Passage α Store := ⟨o.ended, o.calls, o.reports, s⟩

section Looking

variable {hitches : Nat → Hitch} {wall : Instant → Timestamp} {s : Store} {c : LogCall}

theorem comeback_of_shows (shows : Shows s c) (i k : Nat) (t : Instant) :
    (Service.hindered hitches wall).comeback (i + k) c t s =
      ((Service.scripted (held hitches i) (shown hitches i s) wall).comeback k c t ()).map fun b =>
        ⟨b.after, b.result, s⟩ := by
  simp only [Service.hindered, Service.scripted, Hitch.comeback, held, Option.map_map]
  refine congrArg (fun f => Option.map f (hitches (i + k)).delay) (funext fun d => ?_)
  simp only [Function.comp_apply, shown, Hitch.outcome]
  cases (hitches (i + k)).refusal with
  | some e => rfl
  | none =>
    have same := shows ⟨t.after d, wall (t.after d)⟩ ⟨.zero, ⟨0⟩⟩
    simp only [same]

theorem inTime_of_shows (shows : Shows s c) (due : Option Instant) (i k : Nat) (t : Instant) :
    (Service.hindered hitches wall).inTime due (i + k) c t s =
      ((Service.scripted (held hitches i) (shown hitches i s) wall).inTime due k c t ()).map fun b =>
        ⟨b.after, b.result, s⟩ := by
  rw [Service.inTime, Service.inTime, comeback_of_shows shows]
  cases (Service.scripted (held hitches i) (shown hitches i s) wall).comeback k c t () with
  | none => rfl
  | some b =>
    simp only [Option.map_some, Option.filter_some]
    split <;> rfl

/-- Two deadlines at one instant, of which one is on a log whose answers are written down. -/
inductive SameDeadline (i : Nat) (s : Store) : Option (Instant × (Nat → Store → Passage α Store)) →
    Option (Instant × (Nat → Unit → Passage α Unit)) → Prop
  | none : SameDeadline i s none none
  | some (due : Instant) {late : Nat → Store → Passage α Store} {quit : Nat → Unit → Passage α Unit}
    (same : ∀ k, late (i + k) s = (quit k ()).leaving s) : SameDeadline i s (some (due, late)) (some (due, quit))

/-- **A job that only looks** passes as if all answers were written down. -/
theorem passing_looks {i : Nat} {armed : Bool} {job : Job α} (looking : Looking s armed job)
    {deadline : Option (Instant × (Nat → Store → Passage α Store))}
    {quit : Option (Instant × (Nat → Unit → Passage α Unit))} (same : SameDeadline i s deadline quit) (k : Nat)
    (t : Instant) :
    job.passing (.hindered hitches wall) deadline (i + k) t s =
      (job.passing (.scripted (held hitches i) (shown hitches i s) wall) quit k t ()).leaving s := by
  induction looking generalizing deadline quit k t with
  | done a => rfl
  | @call armed c next shows each ih =>
    have due : deadline.map (·.1) = quit.map (·.1) := by
      cases same <;> rfl
    have found : (Service.hindered hitches wall).inTime (quit.map (·.1)) (i + k) c t s = _ :=
      inTime_of_shows shows (quit.map (·.1)) i k t
    cases back : (Service.scripted (held hitches i) (shown hitches i s) wall).inTime (quit.map (·.1)) k c t () with
    | some b =>
      rw [back, Option.map_some, ← due] at found
      rw [passing_call_of_some found, passing_call_of_some back, Nat.add_assoc, ih _ same]
      rfl
    | none =>
      rw [back, Option.map_none, ← due] at found
      cases same with
      | none =>
        rw [passing_call_of_hung found, passing_call_of_hung back]
        rfl
      | some due same =>
        rw [passing_call_of_none found, passing_call_of_none back, Nat.add_assoc]
        exact congrArg (Passage.behind t c) (same (k + 1))
  | @arm armed limit late rest whenLate looking ihLate ih =>
    exact ih (.some (t.after limit) fun k => ihLate .none k (t.after limit)) k t
  | disarm looking ih => exact ih .none k t

end Looking

end Job

end StreamQueue
