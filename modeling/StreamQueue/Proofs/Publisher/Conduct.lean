import StreamQueue.Proofs.Publisher.Batch

/-!
# The conduct of a job

What a job may do on any log whatever. A log may answer a call with anything, or never. If the job
stands under a deadline, a call that is out may be given up at any moment. So a call that was made may
have been carried out or not, also if it was refused or given up, and some time later perhaps; what has
reached the log is among the calls that were made, and no more is known of it.

`Job.Unfolds` collects all that may happen, and `Job.Keeps` is what can be read off a job about all of it:
which calls it makes and to which values it comes. The passage of a job in virtual time is one of the ways
in which it may unfold.

## What is proved

* `Job.Unfolds.keeps` — what is read off a job is true of every way in which it unfolds.
* `Job.follows_passing` — the log in memory with calls that are hindered is one of these logs.
-/

namespace StreamQueue

namespace Job

variable {α β σ : Type} {P : LogCall → Prop} {Q : α → Prop} {R : β → Prop} {job : Job α} {f : α → Job β}

/-! ### What is read off a job -/

/-- All calls that a job can make have one property, and all values that it can come to another. -/
def Keeps (P : LogCall → Prop) (Q : α → Prop) : Job α → Prop
  | done a => Q a
  | call c next => P c ∧ ∀ r, (next r).Keeps P Q
  | report _ rest => rest.Keeps P Q
  | readWall next => ∀ t, (next t).Keeps P Q
  | arm _ late rest => late.Keeps P Q ∧ rest.Keeps P Q
  | disarm rest => rest.Keeps P Q

theorem Keeps.bind (keeps : job.Keeps P Q) (goes : ∀ a, Q a → (f a).Keeps P R) : (job.bind f).Keeps P R := by
  induction job with
  | done a => exact goes a keeps
  | call c next ih => exact ⟨keeps.1, fun r => ih r (keeps.2 r)⟩
  | report e rest ih => exact ih keeps
  | readWall next ih => exact fun t => ih t (keeps t)
  | arm limit late rest ihLate ih => exact ⟨ihLate keeps.1, ih keeps.2⟩
  | disarm rest ih => exact ih keeps

theorem Keeps.mono {P' : LogCall → Prop} {Q' : α → Prop} (keeps : job.Keeps P Q) (calls : ∀ c, P c → P' c)
    (values : ∀ a, Q a → Q' a) : job.Keeps P' Q' := by
  induction job with
  | done a => exact values a keeps
  | call c next ih => exact ⟨calls c keeps.1, fun r => ih r (keeps.2 r)⟩
  | report e rest ih => exact ih keeps
  | readWall next ih => exact fun t => ih t (keeps t)
  | arm limit late rest ihLate ih => exact ⟨ihLate keeps.1, ih keeps.2⟩
  | disarm rest ih => exact ih keeps

/-! ### What may happen to a job -/

/-- The ways in which a job may unfold, with what it does if the deadline comes that it stands under: the
calls that it has made, in order, and its value unless it waits for ever. -/
inductive Unfolds : Job α → Option (Job α) → List LogCall → Option α → Prop
  | done (a : α) (late : Option (Job α)) : Unfolds (done a) late [] (some a)
  | answered {c : LogCall} {next : c.Result → Job α} {late : Option (Job α)} {calls : List LogCall}
    {ended : Option α} (r : c.Result) (rest : Unfolds (next r) late calls ended) :
    Unfolds (call c next) late (c :: calls) ended
  | givenUp {c : LogCall} {next : c.Result → Job α} {late : Job α} {calls : List LogCall} {ended : Option α}
    (rest : Unfolds late none calls ended) : Unfolds (call c next) (some late) (c :: calls) ended
  | hung (c : LogCall) (next : c.Result → Job α) (late : Option (Job α)) :
    Unfolds (call c next) late [c] none
  | report {e : Event} {job : Job α} {late : Option (Job α)} {calls : List LogCall} {ended : Option α}
    (rest : Unfolds job late calls ended) : Unfolds (report e job) late calls ended
  | readWall {next : Timestamp → Job α} {late : Option (Job α)} {calls : List LogCall} {ended : Option α}
    (t : Timestamp) (rest : Unfolds (next t) late calls ended) : Unfolds (readWall next) late calls ended
  | arm {limit : Span} {quit job : Job α} {late : Option (Job α)} {calls : List LogCall} {ended : Option α}
    (rest : Unfolds job (some quit) calls ended) : Unfolds (arm limit quit job) late calls ended
  | disarm {job : Job α} {late : Option (Job α)} {calls : List LogCall} {ended : Option α}
    (rest : Unfolds job none calls ended) : Unfolds (disarm job) late calls ended

/-- **However a job unfolds**, it keeps to what is read off it. -/
theorem Unfolds.keeps {late : Option (Job α)} {calls : List LogCall} {ended : Option α}
    (unfolds : job.Unfolds late calls ended) (keeps : job.Keeps P Q) (whenLate : ∀ quit ∈ late, quit.Keeps P Q) :
    (∀ c ∈ calls, P c) ∧ ∀ a ∈ ended, Q a := by
  induction unfolds with
  | done a late => exact ⟨by simp, by rintro _ ⟨⟩; exact keeps⟩
  | answered r rest ih =>
    obtain ⟨each, value⟩ := ih (keeps.2 r) whenLate
    exact ⟨List.forall_mem_cons.2 ⟨keeps.1, each⟩, value⟩
  | givenUp rest ih =>
    obtain ⟨each, value⟩ := ih (whenLate _ rfl) (by simp)
    exact ⟨List.forall_mem_cons.2 ⟨keeps.1, each⟩, value⟩
  | hung c next late => exact ⟨List.forall_mem_singleton.2 keeps.1, by simp⟩
  | report rest ih => exact ih keeps whenLate
  | readWall t rest ih => exact ih (keeps t) whenLate
  | arm rest ih => exact ih keeps.2 (by rintro _ ⟨⟩; exact keeps.1)
  | disarm rest ih => exact ih keeps (by simp)

/-- A job that makes no call comes to its value. -/
theorem Unfolds.of_done {a : α} {late : Option (Job α)} {calls : List LogCall} {ended : Option α}
    (unfolds : (Job.done a).Unfolds late calls ended) : calls = [] ∧ ended = some a := by
  cases unfolds
  exact ⟨rfl, rfl⟩

/-! ### In virtual time -/

/-- A passage on the log in memory is a way in which the job may unfold, and what was carried out are calls
that it has made. -/
structure Passage.Follows (o : Passage α Store) (job : Job α) (late : Option (Job α)) (s : Store) : Prop where
  unfolds : job.Unfolds late (o.calls.map (·.2)) (o.ended.map (·.2))
  left : ∃ ds, o.left = s.afterAll ds ∧ ∀ q ∈ ds, q.call ∈ o.calls.map (·.2)

/-- Behind a call that was carried out there may be more. -/
theorem Passage.Follows.behind {c : LogCall} {next : c.Result → Job α} {late : Option (Job α)} {rest : Job α}
    {o : Passage α Store} {s : Store} {ds : List TimedCall} {pending : Option (Job α)}
    (follows : o.Follows rest pending (s.afterAll ds)) (same : ∀ q ∈ ds, q.call = c)
    (step : ∀ {calls ended}, rest.Unfolds pending calls ended → (call c next).Unfolds late (c :: calls) ended)
    (t : Instant) : (o.behind t c).Follows (call c next) late s := by
  obtain ⟨es, left, reached⟩ := follows.left
  refine ⟨step follows.unfolds, ds ++ es, left.trans (Store.afterAll_append ..).symm, ?_⟩
  intro q hq
  rcases List.mem_append.1 hq with here | later
  · exact List.mem_cons.2 (.inl (same q here))
  · exact List.mem_cons.2 (.inr (reached q later))

/-- What becomes of a job from the deadline on that it stands under. -/
def expired (log : Service σ) (due : Instant × Job α) : Instant × (Nat → σ → Passage α σ) :=
  (due.1, fun i s => due.2.passing log none i due.1 s)

/-- What comes back from a call that is hindered leaves the log as it was or carries the call out. -/
theorem left_of_comeback {h : Hitch} {wall : Instant → Timestamp} {c : LogCall} {t : Instant} {s : Store}
    {b : Comeback Store c} (back : h.comeback wall c t s = some b) :
    ∃ ds, b.left = s.afterAll ds ∧ ∀ q ∈ ds, q.call = c := by
  obtain ⟨d, -, rfl⟩ := Option.map_eq_some_iff.1 back
  cases refusal : h.refusal with
  | some e =>
    refine ⟨[], ?_, by simp⟩
    simp only [Hitch.outcome, refusal]
    rfl
  | none =>
    refine ⟨[⟨⟨t.after d, wall (t.after d)⟩, c⟩], ?_, by simp⟩
    simp only [Hitch.outcome, refusal]
    rfl

/-- **The passage of a job** on the log in memory, with calls that are hindered. -/
theorem follows_passing (hitches : Nat → Hitch) (wall : Instant → Timestamp) (job : Job α)
    (due : Option (Instant × Job α))
    (whenLate : ∀ d ∈ due, ∀ i s, (d.2.passing (.hindered hitches wall) none i d.1 s).Follows d.2 none s)
    (i : Nat) (t : Instant) (s : Store) :
    (job.passing (.hindered hitches wall) (due.map (expired (.hindered hitches wall))) i t s).Follows job
      (due.map (·.2)) s := by
  induction job generalizing due i t s with
  | done a => exact ⟨.done a _, [], rfl, by simp⟩
  | call c next ih =>
    cases back : (Service.hindered hitches wall).inTime
        ((due.map (expired (.hindered hitches wall))).map (·.1)) i c t s with
    | some b =>
      obtain ⟨ds, left, same⟩ := left_of_comeback (Option.mem_filter_iff.1 back).1
      have rest := ih b.result due whenLate (i + 1) (t.after b.after) b.left
      rw [passing_call_of_some back]
      rw [left] at rest ⊢
      exact rest.behind same (.answered b.result) t
    | none =>
      cases due with
      | some due =>
        have missed : (Service.hindered hitches wall).inTime (some due.1) i c t s = none := back
        rw [Option.map_some, expired, passing_call_of_none missed]
        have rest : Passage.Follows _ due.2 none (s.afterAll []) := whenLate due rfl (i + 1) s
        exact rest.behind (by simp) .givenUp t
      | none =>
        rw [Option.map_none, passing_call_of_hung back]
        exact ⟨.hung c next _, [], rfl, by simp⟩
  | report e rest ih =>
    have rest := ih due whenLate i t s
    exact ⟨.report rest.unfolds, rest.left⟩
  | readWall next ih =>
    have rest := ih (wall t) due whenLate i t s
    exact ⟨.readWall (wall t) rest.unfolds, rest.left⟩
  | arm limit late rest ihLate ih =>
    have rest := ih (some (t.after limit, late)) (by
      rintro _ ⟨⟩ i s
      exact ihLate none (by simp) i (t.after limit) s) i t s
    exact ⟨.arm rest.unfolds, rest.left⟩
  | disarm rest ih =>
    have rest := ih none (by simp) i t s
    exact ⟨.disarm rest.unfolds, rest.left⟩

/-- It stands under no deadline. -/
theorem follows_passing_none (hitches : Nat → Hitch) (wall : Instant → Timestamp) (job : Job α) (i : Nat)
    (t : Instant) (s : Store) : (job.passing (.hindered hitches wall) none i t s).Follows job none s :=
  follows_passing hitches wall job none (by simp) i t s

end Job

end StreamQueue
