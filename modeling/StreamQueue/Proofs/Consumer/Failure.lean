import StreamQueue.Proofs.Consumer.Phases
import StreamQueue.Proofs.Consumer.Reclamation

/-!
# Which failures end a run

A run ends with an error and in no other way. Nine kinds of failure may come to it: the group
cannot be created, one of two reads fails, or the work or an acknowledgement fails for an entry
that is replayed, new or claimed, or a look for stuck entries or a claim fails. Which of them end
the run is said by `Phase.Fails`; the others leave an entry pending or a claim for later.

The work says that it was cancelled in the same way in which it says that it has failed, and a
new entry's failure is passed over. So the cancellation of work is told apart first: it ends the
run whatever the entry, and it comes only once the token has fired.

## What is proved

* `Work.cancelled_of_error` — the work says that it was cancelled only if the token has fired.
* `Course.ended_iff` — a run has ended for a reason other than its cancellation exactly if a turn
  has met the failure that this reason stands for.
* `fatal_failures` — which failures end a run, and which do not.
-/

namespace StreamQueue

/-- The work says that it was cancelled only if the token has fired. -/
theorem Work.cancelled_of_error {source : ByteSource} {calls : Nat} {cancelled : Bool} {size : Int}
    (is : (run source calls cancelled size).result = .error .cancelled) :
    (run source calls cancelled size).cancelled = true := by
  have rest (total calls : Nat) (hasher : Digest.Hasher) (remaining : Nat)
      (is : (drawRest source total calls hasher remaining).result = .error .cancelled) :
      (drawRest source total calls hasher remaining).cancelled = true := by
    fun_induction drawRest source total calls hasher remaining with
    | case1 | case3 | case4 => cases is
    | case2 => rfl
    | case5 =>
      rename_i ih
      exact ih is
  unfold run at is ⊢
  split
  · rename_i negative
    rw [if_pos negative] at is
    cases is
  · split
    · rfl
    · rename_i positive running
      rw [if_neg positive, if_neg running] at is
      exact rest _ _ _ _ is

/-- The errors that say of a group that it is there. -/
theorem LogError.isGroupExists_iff {e : LogError} : e.isGroupExists = true ↔
    (∃ stream group, e = .groupExists stream group) ∨
      ∃ error, e = .redis error ∧ error.extensionCode? = some "BUSYGROUP" := by
  cases e <;> simp [isGroupExists]

/-- A run of a consumer may end for this reason. -/
def QueueError.EndsRuns : QueueError → Prop
  | connection _ | init _ | read _ | processing _ _ | ack _ _ | cancelled => True
  | reclaim _ | publish _ | groupNotFound _ | log _ | timeout _ => False

namespace Consumer

/-- What the run is told in a turn. -/
def Turn.signal? : Turn → Option Signal
  | start _ => none
  | look _ _ _ signal _ => some signal

/-- A turn meets a failure that ends the run for a reason. -/
def Turn.Fails (reason : QueueError) : Turn → Prop
  | start _ => False
  | look phase _ _ signal _ => phase.Fails signal reason

/-- The work in a turn is done as the simulator does it, from any source of bytes, or the token
fires elsewhere while it is under way. The run sees a token that has fired by its end. -/
def Turn.Simulated (cfg : ConsumerConfig) : Turn → Prop
  | look _ _ seen (.worked result) _ =>
    (∃ source calls cancelled, result = (Work.run source calls cancelled cfg.size).result ∧
      ((Work.run source calls cancelled cfg.size).cancelled = true → seen = true)) ∨
    result = .error .cancelled ∧ seen = true
  | _ => True

/-- Work that says that it was cancelled has seen the token. -/
theorem Turn.Simulated.seen {cfg : ConsumerConfig} {phase : Phase} {before seen fired : Bool}
    (simulated : (look phase before seen (.worked (.error .cancelled)) fired).Simulated cfg) : seen = true := by
  obtain ⟨source, calls, cancelled, is, sees⟩ | ⟨-, seen⟩ := simulated
  · exact sees (Work.cancelled_of_error is.symm)
  · exact seen

/-- The replayed entry that the run is busy with. -/
def Phase.replayed? : Phase → Option Entry
  | working entry (.replayed _) | acking entry (.replayed _) _ => some entry
  | _ => none

variable {cfg : ConsumerConfig} {me : String} {fired : Bool} {phase phase' : Phase} {signal : Signal}
  {starts : Option LogCall} {turns : List Turn} {before now : Bool}

/-- A failure ends a run for one of the reasons that there are, and not because of the token. -/
theorem Phase.Fails.endsRuns {reason : QueueError} (fails : phase.Fails signal reason) :
    reason.EndsRuns ∧ reason ≠ .cancelled := by
  cases fails <;> exact ⟨trivial, by simp⟩

/-- Once the run listens, nothing but its read can fail so that it ends. -/
theorem Phase.Fails.read_of_not_replays {reason : QueueError} (fails : phase.Fails signal reason)
    (late : ¬ phase.Replays) : ∃ e, reason = .read e ∧ signal = .delivered (.error e) := by
  cases fails with
  | read e => exact ⟨e, rfl, rfl⟩
  | _ => exact absurd trivial late

/-- The run stops for a failure of this turn, or because the token has fired. -/
theorem Phase.Leads.stopped {reason : QueueError}
    (leads : phase.Leads cfg me fired signal (.stopped reason) starts) :
    phase.Fails signal reason ∨ reason = .cancelled ∧
      (fired = true ∨ signal = .cancelled ∨ signal = .worked (.error .cancelled)) := by
  cases leads with
  | fails fails => exact .inl fails
  | cancelled why => exact .inr ⟨rfl, why⟩

/-- A replayed entry was just replayed, or the run was busy with it before. -/
theorem Phase.Leads.replayed (leads : phase.Leads cfg me fired signal phase' starts) {entry : Entry}
    (busy : phase'.replayed? = some entry) :
    phase.replayed? = some entry ∨ ∃ others, signal = .replayed (.ok (entry :: others)) := by
  cases leads with
  | replays n first others =>
    obtain rfl := Option.some.inj busy
    exact .inr ⟨others, rfl⟩
  | worked other origin outcome =>
    cases origin with
    | replayed n => exact .inl busy
    | _ => cases busy
  | _ => cases busy

/-- A turn that hears of a cancellation has seen the token. -/
theorem seen_of_cancelled {seen : Bool} (hears : phase.Hears seen .cancelled) : seen = true := by
  cases phase <;> first | exact hears | exact hears.elim

namespace Course

/-- **Ends and failures**: a run has ended for a reason other than its cancellation exactly if a
turn has met the failure that this reason stands for. -/
theorem ended_iff (course : Course cfg me turns phase before now) {reason : QueueError}
    (other : reason ≠ .cancelled) : phase = .stopped reason ↔ ∃ t ∈ turns, t.Fails reason := by
  induction course with
  | start fired =>
    cases fired with
    | true => simpa [begin, unlessCancelled, stop, Move.behind, Turn.Fails] using other.symm
    | false => simp [begin, unlessCancelled, Move.behind, Turn.Fails]
  | fire _ ih => exact ih
  | @look turns phase before seen signal fired _ hears _ ih =>
    have earlier : ¬ ∃ t ∈ turns, t.Fails reason := fun failed => hears.running reason (ih.2 failed)
    constructor
    · intro ended
      have leads := leads_step cfg me fired hears
      rw [ended] at leads
      obtain fails | ⟨is, -⟩ := leads.stopped
      · exact ⟨_, List.mem_append_right _ (List.mem_singleton_self _), fails⟩
      · exact absurd is other
    · rintro ⟨t, ht, fails⟩
      rcases List.mem_append.1 ht with old | new
      · exact absurd ⟨t, old, fails⟩ earlier
      · rw [List.mem_singleton.1 new] at fails
        exact Phase.Fails.step fails

/-- A run is cancelled only if the token has fired. -/
theorem fired_of_cancelled (course : Course cfg me turns phase before now)
    (simulated : ∀ t ∈ turns, t.Simulated cfg) (ended : phase = .stopped .cancelled) : now = true := by
  induction course with
  | start fired =>
    cases fired with
    | true => rfl
    | false => cases ended
  | fire _ ih => rfl
  | @look turns phase before seen signal fired _ hears later ih =>
    have leads := leads_step cfg me fired hears
    rw [ended] at leads
    obtain fails | ⟨-, is | rfl | rfl⟩ := leads.stopped
    · exact absurd rfl fails.endsRuns.2
    · exact is
    · exact later (seen_of_cancelled hears)
    · exact later (simulated _ (List.mem_append_right _ (List.mem_singleton_self _))).seen

/-- A replayed entry that the run is busy with was handed to it by a look for pending entries. -/
theorem handed_of_replayed (course : Course cfg me turns phase before now) {entry : Entry}
    (busy : phase.replayed? = some entry) :
    ∃ t ∈ turns, ∃ others, t.signal? = some (.replayed (.ok (entry :: others))) := by
  induction course with
  | start fired => cases fired <;> cases busy
  | fire _ ih => exact ih busy
  | @look turns phase before seen signal fired _ hears _ ih =>
    have leads := leads_step cfg me fired hears
    obtain was | ⟨others, rfl⟩ := leads.replayed busy
    · obtain ⟨t, ht, told⟩ := ih was
      exact ⟨t, List.mem_append_left _ ht, told⟩
    · exact ⟨_, List.mem_append_right _ (List.mem_singleton_self _), others, rfl⟩

/-- So was one that it was busy with in an earlier turn. -/
theorem handed_of_look (course : Course cfg me turns phase before now) {p : Phase} {b seen : Bool}
    {signal : Signal} {fired : Bool} (look : .look p b seen signal fired ∈ turns) {entry : Entry}
    (busy : p.replayed? = some entry) :
    ∃ t ∈ turns, ∃ others, t.signal? = some (.replayed (.ok (entry :: others))) := by
  induction course with
  | start fired => simp at look
  | fire _ ih => exact ih look
  | look course hears _ ih =>
    rcases List.mem_append.1 look with old | new
    · obtain ⟨t, ht, told⟩ := ih old
      exact ⟨t, List.mem_append_left _ ht, told⟩
    · cases List.mem_singleton.1 new
      obtain ⟨t, ht, told⟩ := course.handed_of_replayed busy
      exact ⟨t, List.mem_append_left _ ht, told⟩

/-- Once a move has taken the run to listen, it replays no more, and nothing but its read can fail
so that it ends. -/
theorem of_listened (course : Course cfg me turns phase before now)
    (listened : ∃ t ∈ turns, (t.move cfg me).phase = .listening) :
    ¬ phase.Replays ∧ ∀ reason, phase = .stopped reason →
      reason = .cancelled ∨ ∃ e, reason = .read e ∧ ∃ t ∈ turns, t.signal? = some (.delivered (.error e)) := by
  induction course with
  | start fired =>
    obtain ⟨t, ht, listens⟩ := listened
    rw [List.mem_singleton.1 ht] at listens
    cases fired <;> cases listens
  | fire _ ih => exact ih listened
  | @look turns phase before seen signal fired _ hears _ ih =>
    have leads := leads_step cfg me fired hears
    obtain ⟨t, ht, listens⟩ := listened
    rcases List.mem_append.1 ht with old | new
    · have late := (ih ⟨t, old, listens⟩).1
      refine ⟨not_replays_step late hears fired, fun reason ended => ?_⟩
      rw [ended] at leads
      obtain fails | ⟨is, -⟩ := leads.stopped
      · obtain ⟨e, is, told⟩ := fails.read_of_not_replays late
        refine .inr ⟨e, is, _, List.mem_append_right _ (List.mem_singleton_self _), ?_⟩
        rw [Turn.signal?, told]
      · exact .inl is
    · rw [List.mem_singleton.1 new, Turn.move] at listens
      rw [listens]
      exact ⟨id, fun reason ended => by cases ended⟩

end Course

/-- What a run has to do with its failures. -/
structure Ending (cfg : ConsumerConfig) (me : String) (turns : List Turn) (phase : Phase) (now : Bool) :
    Prop where
  /-- It is cancelled only if the token has fired. -/
  cancelled : phase = .stopped .cancelled → now = true
  /-- For any other reason it ends exactly if it has met the failure that the reason names. -/
  failed : ∀ reason, reason ≠ .cancelled → (phase = .stopped reason ↔ ∃ t ∈ turns, t.Fails reason)
  reasons : ∀ reason, phase = .stopped reason → reason.EndsRuns
  /-- A group that is there already is as good as one that was created. -/
  groupThere : ∀ e : LogError, ((∃ stream group, e = .groupExists stream group) ∨
      ∃ error, e = .redis error ∧ error.extensionCode? = some "BUSYGROUP") → ∀ fired,
    (step cfg me fired .creating (.created (.error e))).phase =
        (step cfg me fired .creating (.created (.ok ()))).phase ∧
      (step cfg me fired .creating (.created (.error e))).starts =
        (step cfg me fired .creating (.created (.ok ()))).starts
  /-- It ends for the failure of an entry only if it was handed this entry to replay. -/
  replayed : ∀ id, (∃ e, phase = .stopped (.processing id e)) ∨ (∃ e, phase = .stopped (.ack id e)) →
    ∃ entry, entry.id = id ∧ ∃ t ∈ turns, ∃ others, t.signal? = some (.replayed (.ok (entry :: others)))
  /-- Once it has come to listen, only its cancellation and its read end it. -/
  listened : (∃ t ∈ turns, (t.move cfg me).phase = .listening) → ∀ reason, phase = .stopped reason →
    reason = .cancelled ∨ ∃ e, reason = .read e ∧ ∃ t ∈ turns, t.signal? = some (.delivered (.error e))

/-- **Fatal failures**: whatever a run meets, it ends for a failure of its group, of one of its two
reads, of the work or the acknowledgement for a replayed entry, or because the token has fired,
and for nothing else; and once it listens, only its read can fail so that it ends. -/
theorem fatal_failures (course : Course cfg me turns phase before now) (simulated : ∀ t ∈ turns, t.Simulated cfg) :
    Ending cfg me turns phase now where
  cancelled := course.fired_of_cancelled simulated
  failed := fun _ other => course.ended_iff other
  reasons := by
    intro reason ended
    by_cases is : reason = .cancelled
    · subst is
      trivial
    · obtain ⟨t, -, fails⟩ := (course.ended_iff is).1 ended
      cases t with
      | start fired => exact fails.elim
      | look => exact fails.endsRuns.1
  groupThere := by
    intro e there fired
    have there := LogError.isGroupExists_iff.2 there
    simp [step, groupOutcome, there, Move.behind]
  replayed := by
    rintro id (⟨e, ended⟩ | ⟨e, ended⟩)
    all_goals
      obtain ⟨t, ht, fails⟩ := (course.ended_iff (by simp)).1 ended
      cases t with
      | start fired => exact fails.elim
      | look =>
        cases fails
        exact ⟨_, rfl, course.handed_of_look ht rfl⟩
  listened := fun listened => (course.of_listened listened).2

/-- While it listens a run leaves an entry pending and skips a claim; then its read fails. -/
def failsThrice (entry : Entry) (e : LogError) : List Turn :=
  replaysWith [] ++ [.look .listening false false (.delivered (.ok [entry])) false] ++
    [.look (.working entry (.fresh [])) false false (.worked (.error (.size 0))) false] ++
    [.look .listening false false .due false] ++
    [.look (.scanning []) false false (.scanned (.error e)) false] ++
    [.look .listening false false (.delivered (.error e)) false]

/-- The first two of the failures do not end the run. -/
theorem fatal_failures_failsThrice :
    let cfg := { everySecond with size := 0 }
    let e := LogError.connection "lost"
    let turns := failsThrice ⟨⟨1, 0⟩, .empty⟩ e
    Course cfg "c1" turns (.stopped (.read e)) false false ∧ (∀ t ∈ turns, t.Simulated cfg) ∧
    (∃ t ∈ turns, t.Fails (.read e)) ∧ ¬ ∃ t ∈ turns, t.Fails (.processing ⟨1, 0⟩ (.size 0)) := by
  intro cfg e turns
  have listening : Course cfg "c1" (replaysWith []) .listening false false := course_replaysWith []
  have working : Course cfg "c1" _ (.working ⟨⟨1, 0⟩, .empty⟩ (.fresh [])) false false :=
    listening.told (.delivered (.ok [⟨⟨1, 0⟩, .empty⟩])) rfl
  have again : Course cfg "c1" _ .listening false false :=
    working.told (.worked (.error (.size 0))) trivial
  have scanning : Course cfg "c1" _ (.scanning []) false false := again.told .due rfl
  have still : Course cfg "c1" _ .listening false false :=
    scanning.told (.scanned (.error e)) trivial
  have course : Course cfg "c1" turns (.stopped (.read e)) false false :=
    still.told (.delivered (.error e)) rfl
  have simulated : ∀ t ∈ turns, t.Simulated cfg := by
    have work : (Work.run (SourceScript.uniform 0).source 0 false 0).result = .error (.size 0) := rfl
    simp only [turns, failsThrice, replaysWith, List.cons_append, List.nil_append, List.forall_mem_cons]
    refine ⟨trivial, trivial, trivial, trivial, .inl ⟨_, 0, false, work.symm, ?_⟩, trivial, trivial, trivial, by simp⟩
    exact fun fired => Bool.noConfusion fired
  have ending := fatal_failures course simulated
  refine ⟨course, simulated, (ending.failed _ (by simp)).1 rfl, fun fails => ?_⟩
  cases (ending.failed _ (by simp)).2 fails

end Consumer

end StreamQueue
