import StreamQueue.Proofs.Consumer.Course

/-!
# The cancellation of a run

Once its token has fired, a run should fetch nothing more: it starts no read, no look for stuck
entries and no claim, and it waits for no call but an acknowledgement that is under way. `Heeds`
says this of a course, and that every further turn brings the run nearer to its end.

Not every course does. The reclamation of stuck entries is not raced against the token: a page
that comes back after the token has fired is followed by the next page or by the claim. And a
call that a turn starts is started even if the token fires within this very turn. `Timely` says
that the token fires at no such moment.

## What is proved

* `Course.heeds_iff_timely` — a course heeds the token exactly if the token fires at a timely
  moment.
* `claims_when_cancelled` — a course that claims after the token has fired.
-/

namespace StreamQueue

namespace Consumer

/-- Whether the token has fired by the end of a turn. -/
def Turn.fired : Turn → Bool
  | start fired | look _ _ _ _ fired => fired

/-- The reclamation of stuck entries. -/
def Phase.Reclaims : Phase → Prop
  | scanning _ | claiming => True
  | _ => False

/-- A wait that nothing but the result of a call ends. -/
def Phase.Insists : Phase → Prop
  | acking .. | scanning _ | claiming => True
  | _ => False

/-- The wait may go on when the token has fired: the token ends it, or no call is waited for, or
only an acknowledgement that was under way `before` the token fired. -/
def Phase.MayWait (before : Bool) : Phase → Prop
  | acking .. => before = false
  | scanning _ | claiming => False
  | _ => True

/-- How many turns a run has left at most once its token has fired. -/
def Phase.turnsLeft : Phase → Nat
  | stopped _ => 0
  | working _ (.fresh rest) | acking _ (.fresh rest) _ => rest.length + 1
  | _ => 1

theorem Phase.turnsLeft_eq_zero_iff {phase : Phase} :
    phase.turnsLeft = 0 ↔ ∃ reason, phase = .stopped reason := by
  cases phase with
  | working entry origin => cases origin <;> simp [turnsLeft]
  | acking entry origin outcome => cases origin <;> simp [turnsLeft]
  | _ => simp [turnsLeft]

section

variable (cfg : ConsumerConfig) (me : String)

/-- From the moment the token has fired, the run fetches nothing, waits for no call other than an
acknowledgement under way, and comes to its end. -/
structure Heeds (turns : List Turn) (phase : Phase) (before now : Bool) : Prop where
  fetches : ∀ t ∈ turns, t.fired → ∀ c ∈ (t.move cfg me).starts, ¬ c.Fetches
  waited : ∀ p b signal fired, .look p b true signal fired ∈ turns → p.MayWait b
  waits : now → phase.MayWait before
  ends : ∀ p b signal fired, .look p b true signal fired ∈ turns →
    (step cfg me fired p signal).phase.turnsLeft < p.turnsLeft

/-- The token does not fire while the run reclaims, nor within a turn that starts a call. -/
structure Timely (turns : List Turn) (phase : Phase) (before now : Bool) : Prop where
  waited : ∀ p signal fired, .look p false true signal fired ∈ turns → ¬ p.Reclaims
  waits : before = false → now → ¬ phase.Reclaims
  within : ∀ p b signal, .look p b false signal true ∈ turns → (step cfg me true p signal).starts = none

end

theorem Phase.mayWait_of {phase : Phase} {before : Bool} (quiet : ¬ phase.Reclaims)
    (calm : before → ¬ phase.Insists) : phase.MayWait before := by
  cases phase with
  | acking => exact Bool.eq_false_iff.2 fun began => calm began trivial
  | scanning | claiming => exact absurd trivial quiet
  | _ => trivial

theorem Phase.MayWait.not_reclaims {phase : Phase} {before : Bool} (may : phase.MayWait before) :
    ¬ phase.Reclaims := by
  cases phase <;> first | exact id | exact fun _ => may

theorem Phase.not_reclaims_of_not_insists {phase : Phase} (calm : ¬ phase.Insists) : ¬ phase.Reclaims := by
  cases phase <;> first | exact id | exact calm

/-! ### Turns after the token has fired -/

variable {cfg : ConsumerConfig} {me : String}

/-- A move that starts nothing and leaves a bounded number of turns. -/
structure Move.Ends (m : Move) (n : Nat) : Prop where
  starts : m.starts = none
  left : m.phase.turnsLeft ≤ n

theorem ends_stop (reason : QueueError) (n : Nat) : (stop me reason).Ends n := ⟨rfl, Nat.zero_le _⟩

theorem Move.Ends.behind {m : Move} {n : Nat} (h : m.Ends n) (events : List Event) : (m.behind events).Ends n :=
  ⟨h.starts, h.left⟩

theorem ends_nextFresh (rest : List Entry) : (nextFresh cfg me true rest).Ends rest.length := by
  cases rest with
  | nil => exact ends_stop _ _
  | cons e rest => exact ⟨rfl, Nat.le_refl _⟩

theorem ends_nextClaimed (rest : List Entry) (n : Nat) : (nextClaimed cfg me true rest).Ends n := by
  cases rest <;> exact ends_stop _ _

theorem ends_proceed (entry e : Entry) (origin : Origin) :
    (proceed cfg me true entry origin).Ends ((Phase.working e origin).turnsLeft - 1) := by
  cases origin with
  | replayed n => exact ends_stop _ _
  | fresh rest => exact ends_nextFresh rest
  | claimed rest => exact ends_nextClaimed rest _

theorem ends_fail (entry e : Entry) (origin : Origin) (reason : QueueError) :
    (fail cfg me true entry origin reason).Ends ((Phase.working e origin).turnsLeft - 1) := by
  cases origin with
  | replayed n => exact ends_stop _ _
  | fresh rest => exact .behind (ends_nextFresh rest) _
  | claimed rest => exact .behind (ends_nextClaimed rest _) _

theorem turnsLeft_working (entry : Entry) (origin : Origin) : 0 < (Phase.working entry origin).turnsLeft := by
  refine Nat.pos_of_ne_zero fun none => ?_
  obtain ⟨reason, stopped⟩ := Phase.turnsLeft_eq_zero_iff.1 none
  exact Phase.noConfusion stopped

theorem turnsLeft_acking (entry : Entry) (origin : Origin) (outcome : WorkOutcome) :
    (Phase.acking entry origin outcome).turnsLeft = (Phase.working entry origin).turnsLeft := by
  cases origin <;> rfl

/-- **A turn after the token has fired**, outside of reclamation, starts nothing and brings the
run nearer to its end. -/
theorem ends_step {phase : Phase} {signal : Signal} (hears : phase.Hears true signal)
    (calm : ¬ phase.Reclaims) :
    (step cfg me true phase signal).starts = none ∧
      (step cfg me true phase signal).phase.turnsLeft < phase.turnsLeft := by
  have nearer {m : Move} (h : m.Ends (phase.turnsLeft - 1)) (some : 0 < phase.turnsLeft) :
      m.starts = none ∧ m.phase.turnsLeft < phase.turnsLeft :=
    ⟨h.starts, by have := h.left; omega⟩
  cases phase with
  | creating =>
    cases signal with
    | cancelled => exact nearer (ends_stop _ _) Nat.one_pos
    | created => exact absurd hears (by simp [Phase.Hears])
    | _ => exact hears.elim
  | replaying n =>
    cases signal with
    | cancelled => exact nearer (ends_stop _ _) Nat.one_pos
    | replayed => exact absurd hears (by simp [Phase.Hears])
    | _ => exact hears.elim
  | listening =>
    cases signal with
    | cancelled => exact nearer (ends_stop _ _) Nat.one_pos
    | delivered | due => exact absurd hears (by simp [Phase.Hears])
    | _ => exact hears.elim
  | working entry origin =>
    have some := turnsLeft_working entry origin
    cases signal with
    | worked result =>
      match result with
      | .ok _ => exact absurd hears (by simp [Phase.Hears])
      | .error .cancelled => exact nearer (ends_stop _ _) some
      | .error (.size _) | .error (.generation _) | .error .generatorLost | .error (.digest _) =>
        exact nearer (ends_fail entry entry origin _) some
    | _ => exact hears.elim
  | acking entry origin outcome =>
    have some := turnsLeft_working entry origin
    rw [turnsLeft_acking] at nearer ⊢
    cases signal with
    | acked result =>
      match result with
      | .ok _ => exact nearer (.behind (ends_proceed entry entry origin) _) some
      | .error e => exact nearer (ends_fail entry entry origin _) some
    | _ => exact hears.elim
  | scanning | claiming => exact absurd trivial calm
  | stopped reason => cases signal <;> exact hears.elim

theorem Move.Goes.starts_of_insists {m : Move} {supply : List Entry} (h : m.Goes cfg supply)
    (insists : m.phase.Insists) : m.starts ≠ none := by
  cases h with
  | works => exact insists.elim
  | calls => exact Option.some_ne_none _
  | @waits phase _ quiet => cases phase <;> first | exact quiet.elim | exact insists.elim

/-- A wait that only a call ends comes with the start of this call. -/
theorem starts_of_insists {phase : Phase} {seen fired : Bool} {signal : Signal}
    (hears : phase.Hears seen signal) (insists : (step cfg me fired phase signal).phase.Insists) :
    (step cfg me fired phase signal).starts ≠ none := by
  obtain ⟨entry, origin, outcome, rfl, rfl⟩ | goes := worked_or_goes hears fired
  · exact Option.some_ne_none _
  · exact goes.starts_of_insists insists

/-! ### Whole courses -/

namespace Course

variable {turns : List Turn} {phase : Phase} {before now : Bool}

theorem before_le (course : Course cfg me turns phase before now) : before → now := by
  induction course with
  | start | look => exact id
  | fire => exact fun _ => rfl

/-- The token, once it has fired, stays so, and a run is told only what it hears. -/
theorem look_spec (course : Course cfg me turns phase before now) {p : Phase} {b seen : Bool}
    {signal : Signal} {fired : Bool} (mem : .look p b seen signal fired ∈ turns) :
    (b → seen) ∧ (seen → fired) ∧ p.Hears seen signal := by
  induction course with
  | start => simp at mem
  | fire _ ih => exact ih mem
  | look course hears later ih =>
    rcases List.mem_append.1 mem with old | new
    · exact ih old
    · obtain ⟨rfl, rfl, rfl, rfl, rfl⟩ := by simpa using new
      exact ⟨course.before_le, later, hears⟩

/-- Behind every turn the run waits in the phase to which it has moved. -/
theorem waits_behind (course : Course cfg me turns phase before now) {t : Turn} (mem : t ∈ turns) :
    (phase = (t.move cfg me).phase ∧ before = t.fired) ∨
      ∃ seen signal fired, .look (t.move cfg me).phase t.fired seen signal fired ∈ turns := by
  induction course with
  | start fired => exact .inl (by rw [List.mem_singleton.1 mem]; exact ⟨rfl, rfl⟩)
  | fire _ ih => exact ih mem
  | @look turns phase before seen signal fired _ _ _ ih =>
    rcases List.mem_append.1 mem with old | new
    · rcases ih old with ⟨rfl, rfl⟩ | ⟨seen', signal', fired', earlier⟩
      · exact .inr ⟨seen, signal, fired, by simp⟩
      · exact .inr ⟨seen', signal', fired', List.mem_append_left _ earlier⟩
    · exact .inl (by rw [List.mem_singleton.1 new]; exact ⟨rfl, rfl⟩)

/-- If the token fires at a timely moment, no wait that begins later insists on a call. -/
theorem calm (course : Course cfg me turns phase before now)
    (waited : ∀ p signal fired, .look p false true signal fired ∈ turns → ¬ p.Reclaims)
    (within : ∀ p b signal, .look p b false signal true ∈ turns → (step cfg me true p signal).starts = none) :
    (before → ¬ phase.Insists) ∧
      ∀ p seen signal fired, .look p true seen signal fired ∈ turns → ¬ p.Insists := by
  induction course with
  | start fired =>
    refine ⟨?_, by simp⟩
    rintro rfl
    exact id
  | fire _ ih => exact ih waited within
  | @look turns phase before seen signal fired course hears later ih =>
    obtain ⟨now, past⟩ := ih (fun p s f mem => waited p s f (List.mem_append_left _ mem))
      fun p b s mem => within p b s (List.mem_append_left _ mem)
    refine ⟨?_, fun p seen' signal' fired' mem => ?_⟩
    · rintro rfl insists
      refine starts_of_insists hears insists ?_
      cases seen with
      | false => exact within phase before signal (by simp)
      | true =>
        refine (ends_step hears ?_).1
        cases before with
        | false => exact waited phase signal true (by simp)
        | true => exact Phase.not_reclaims_of_not_insists (now rfl)
    · rcases List.mem_append.1 mem with old | new
      · exact past p seen' signal' fired' old
      · obtain ⟨rfl, rfl, -⟩ : p = phase ∧ before = true ∧ _ := by simpa [eq_comm] using new
        exact now rfl

/-- At a timely moment the token fires outside of reclamation. -/
theorem not_reclaims (course : Course cfg me turns phase before now) (timely : Timely cfg me turns phase before now)
    {p : Phase} {b : Bool} {signal : Signal} {fired : Bool} (mem : .look p b true signal fired ∈ turns) :
    ¬ p.Reclaims := by
  cases b with
  | false => exact timely.waited p signal fired mem
  | true =>
    exact Phase.not_reclaims_of_not_insists
      ((course.calm timely.waited timely.within).2 p true signal fired mem)

theorem heeds_of_timely (course : Course cfg me turns phase before now)
    (timely : Timely cfg me turns phase before now) : Heeds cfg me turns phase before now := by
  obtain ⟨calmNow, calmPast⟩ := course.calm timely.waited timely.within
  refine ⟨fun t mem fired c starts => ?_, fun p b signal fired mem => ?_, fun now => ?_,
    fun p b signal fired mem => ?_⟩
  · have nothing : (t.move cfg me).starts = none := by
      cases t with
      | start f =>
        obtain rfl : f = true := fired
        rfl
      | look p b seen signal f =>
        obtain rfl : f = true := fired
        cases seen with
        | false => exact timely.within p b signal mem
        | true => exact (ends_step (course.look_spec mem).2.2 (course.not_reclaims timely mem)).1
    rw [nothing] at starts
    exact absurd starts (by simp)
  · refine Phase.mayWait_of (course.not_reclaims timely mem) fun began => ?_
    obtain rfl : b = true := began
    exact calmPast p true signal fired mem
  · refine Phase.mayWait_of ?_ calmNow
    cases before with
    | false => exact timely.waits rfl now
    | true => exact Phase.not_reclaims_of_not_insists (calmNow rfl)
  · obtain rfl : fired = true := (course.look_spec mem).2.1 rfl
    exact (ends_step (course.look_spec mem).2.2 (course.not_reclaims timely mem)).2

/-- An acknowledgement that starts after the token has fired is waited for. -/
theorem not_heeds_of_ack (course : Course cfg me turns phase before now)
    (heeds : Heeds cfg me turns phase before now) {t : Turn} (mem : t ∈ turns) (fired : t.fired)
    {entry : Entry} {origin : Origin} {outcome : WorkOutcome}
    (acks : (t.move cfg me).phase = .acking entry origin outcome) : False := by
  rcases course.waits_behind mem with ⟨rfl, rfl⟩ | ⟨seen, signal, fired', behind⟩
  · have may := heeds.waits (course.before_le fired)
    rw [acks, fired] at may
    exact Bool.noConfusion may
  · obtain rfl : seen = true := (course.look_spec behind).1 fired
    have may := heeds.waited _ _ _ _ behind
    rw [acks, fired] at may
    exact Bool.noConfusion may

theorem timely_of_heeds (course : Course cfg me turns phase before now)
    (heeds : Heeds cfg me turns phase before now) : Timely cfg me turns phase before now := by
  refine ⟨fun p signal fired mem => (heeds.waited p false signal fired mem).not_reclaims,
    fun _ now => (heeds.waits now).not_reclaims, fun p b signal mem => ?_⟩
  have hears := (course.look_spec mem).2.2
  obtain ⟨entry, origin, outcome, rfl, rfl⟩ | goes := worked_or_goes hears true
  · exact (course.not_heeds_of_ack heeds mem rfl rfl).elim
  · refine Option.eq_none_iff_forall_ne_some.2 fun c starts => ?_
    exact heeds.fetches _ mem rfl c starts (goes.fetches starts)

/-- **Cancellation**: a course heeds the token exactly if the token fires at a timely moment, that
is while the run neither waits for a page of stuck entries or for a claim, nor is in a turn that
starts a call. Then it fetches nothing more, waits for no call but an acknowledgement under way,
and comes to its end. -/
theorem heeds_iff_timely (course : Course cfg me turns phase before now) :
    Heeds cfg me turns phase before now ↔ Timely cfg me turns phase before now :=
  ⟨course.timely_of_heeds, course.heeds_of_timely⟩

end Course

/-! ### Two courses -/

/-- Settings under which stuck entries are looked for every second. -/
def everySecond : ConsumerConfig :=
  { config "s" "g" with claimInterval := .ofSeconds 1, claimMinIdle := .zero }

/-- The first turns of a run whose look for pending entries is answered. -/
def replaysWith (entries : List Entry) : List Turn :=
  [.start false] ++ [.look .creating false false (.created (.ok ())) false] ++
    [.look (.replaying 0) false false (.replayed (.ok entries)) false]

theorem course_replaysWith (entries : List Entry) :
    Course cfg me (replaysWith entries)
      (step cfg me false (.replaying 0) (.replayed (.ok entries))).phase false false := by
  have creating : Course cfg me [.start false] .creating false false := .start false
  have replaying : Course cfg me
      ([.start false] ++ [.look .creating false false (.created (.ok ())) false]) (.replaying 0) false false :=
    creating.look rfl id
  exact replaying.look rfl id

/-- The token fires while the acknowledgement of an entry is under way. -/
def cancelledInAck (entry : Entry) (outcome : WorkOutcome) : List Turn :=
  replaysWith [entry] ++ [.look (.working entry (.replayed 0)) false false (.worked (.ok outcome)) false] ++
    [.look (.acking entry (.replayed 0) outcome) false true (.acked (.ok 1)) true]

/-- The acknowledgement is waited for, and then the run ends. -/
theorem heeds_cancelledInAck :
    Course everySecond "c1" (cancelledInAck ⟨⟨1, 0⟩, .empty⟩ ⟨"", 1⟩) (.stopped .cancelled) true true ∧
      Heeds everySecond "c1" (cancelledInAck ⟨⟨1, 0⟩, .empty⟩ ⟨"", 1⟩) (.stopped .cancelled) true true := by
  have acking : Course everySecond "c1" (replaysWith [⟨⟨1, 0⟩, .empty⟩] ++
      [.look (.working ⟨⟨1, 0⟩, .empty⟩ (.replayed 0)) false false (.worked (.ok ⟨"", 1⟩)) false])
      (.acking ⟨⟨1, 0⟩, .empty⟩ (.replayed 0) ⟨"", 1⟩) false false :=
    (course_replaysWith [⟨⟨1, 0⟩, .empty⟩]).look rfl id
  have course : Course everySecond "c1" (cancelledInAck ⟨⟨1, 0⟩, .empty⟩ ⟨"", 1⟩) (.stopped .cancelled)
      true true := acking.fire.look trivial id
  refine ⟨course, course.heeds_iff_timely.2 ⟨?_, by simp, ?_⟩⟩
  · intro p signal fired mem
    simp [cancelledInAck, replaysWith] at mem
    simp [mem, Phase.Reclaims]
  · intro p b signal mem
    simp [cancelledInAck, replaysWith] at mem

/-- The token fires while a page of stuck entries is out. -/
def cancelledInScan : List Turn :=
  replaysWith [] ++ [.look .listening false false .due false] ++
    [.look (.scanning []) false true (.scanned (.ok [⟨⟨1700000000000, 0⟩, "other", 1, .ofSeconds 1⟩])) true]

/-- A page that comes back after the token has fired is followed by a claim. -/
theorem claims_when_cancelled :
    Course everySecond "c1" cancelledInScan .claiming true true ∧
      (∃ t ∈ cancelledInScan, t.fired ∧ (t.move everySecond "c1").starts =
        some (.claim "s" "g" "c1" .zero [⟨1700000000000, 0⟩])) ∧
      ¬ Heeds everySecond "c1" cancelledInScan .claiming true true := by
  have scanning : Course everySecond "c1" (replaysWith [] ++ [.look .listening false false .due false])
      (.scanning []) false false := (course_replaysWith []).look rfl id
  refine ⟨scanning.fire.look trivial id, ⟨_, List.mem_of_mem_getLast? rfl, rfl, rfl⟩, ?_⟩
  exact fun heeds => heeds.waits rfl

end Consumer

end StreamQueue
