import StreamQueue.Proofs.Consumer.Cancellation
import StreamQueue.Proofs.Log.History

/-!
# When stuck entries are looked for

A run that listens is woken by its read and by a ticker, and should look for stuck entries once
the ticker is due: `Prompt` says that it handles at most one more result of its read before. Not
every run is prompt. When it looks, the read comes before the ticker, and behind every result
the run starts the next read and looks again; so as long as each read is back by the time of
that look, the ticker is not noticed.

A course with instants says when the turns of a run take place, what its ticker is, and which
looks it takes while it listens, those that tell it nothing among them. Instants, answers and
everything else that a course leaves open are left open here too.

## What is proved

* `Course.exists_timed` — every course is one with instants.
* `Timed.followed` — what two looks in a row have to do with each other: the ticker stays due
  until it is noticed.
* `Timed.prompt_iff` — a run is prompt exactly if no result that is handled late is followed by
  a look that finds the next.
* `starved` — any number of results may be handled late, one after the other.
* `not_prompt_backlog` — four entries that wait for a run, each of which takes it 600 ms.
-/

namespace StreamQueue

namespace Consumer

/-! ### Looks -/

/-- A look of a run that listens. -/
structure Look where
  now : Instant
  ticker : Ticker
  /-- Whether the token is seen to have fired. -/
  seen : Bool
  /-- The result of the read, if it is back. -/
  answer : Option (Except LogError (List Entry))
  /-- Whether the token has fired when the run moves on. -/
  fired : Bool
  deriving DecidableEq

namespace Look

variable (l : Look)

/-- What the look tells the run. The token comes first. -/
def told : Option Signal :=
  if l.seen then some .cancelled else heard (l.answer.map .delivered) (l.ticker.isDue l.now)

/-- The ticker is due. -/
def late : Bool := l.ticker.isDue l.now

/-- The run handles a result of its read. -/
def handles : Bool := !l.seen && match l.answer with
  | some (.ok _) => true
  | _ => false

/-- The run is cancelled, or its read has failed. -/
def ends : Bool := l.seen || match l.answer with
  | some (.error _) => true
  | _ => false

/-- The call that the run starts behind the look. -/
def starts (cfg : ConsumerConfig) (me : String) : Option LogCall :=
  l.told.bind fun signal => (step cfg me l.fired .listening signal).starts

/-- The run starts to look for stuck entries, from the first on. -/
def Scans (cfg : ConsumerConfig) (me : String) : Prop := l.starts cfg me = some (scanCall cfg StreamId.zero)

instance (cfg : ConsumerConfig) (me : String) : Decidable (l.Scans cfg me) :=
  inferInstanceAs (Decidable (l.starts cfg me = some (scanCall cfg StreamId.zero)))

/-- What a look may come to. -/
theorem cases_told :
    (l.told = some .cancelled ∧ l.ends = true ∧ l.handles = false) ∨
    (∃ e, l.told = some (.delivered (.error e)) ∧ l.ends = true ∧ l.handles = false) ∨
    (∃ es, l.told = some (.delivered (.ok es)) ∧ l.ends = false ∧ l.handles = true) ∨
    (l.told = some .due ∧ l.ends = false ∧ l.handles = false ∧ l.late = true) ∨
    (l.told = none ∧ l.ends = false ∧ l.handles = false ∧ l.late = false) := by
  obtain ⟨now, ticker, seen, answer, fired⟩ := l
  cases seen with
  | true => exact .inl ⟨rfl, rfl, rfl⟩
  | false =>
    match answer with
    | some (.error e) => exact .inr (.inl ⟨e, rfl, rfl, rfl⟩)
    | some (.ok es) => exact .inr (.inr (.inl ⟨es, rfl, rfl, rfl⟩))
    | none =>
      cases due : ticker.isDue now with
      | true => exact .inr (.inr (.inr (.inl ⟨by simp [told, heard, due], rfl, rfl, due⟩)))
      | false => exact .inr (.inr (.inr (.inr ⟨by simp [told, heard, due], rfl, rfl, due⟩)))

variable {l} {cfg : ConsumerConfig} {me : String}

/-- The run looks for stuck entries exactly if it is told that the ticker is due. -/
theorem scans_iff : l.Scans cfg me ↔ l.told = some .due := by
  unfold Scans starts
  obtain ⟨told, -⟩ | ⟨e, told, -⟩ | ⟨es, told, -⟩ | ⟨told, -⟩ | ⟨told, -⟩ := l.cases_told
  · simp [told, step, Phase.heedsCancel, stop]
  · simp [told, step, stop]
  · rw [told]
    cases es with
    | nil => cases hf : l.fired <;> simp [step, nextFresh, listen, unlessCancelled, stop, readCall, scanCall]
    | cons e es => simp [step, nextFresh, work]
  · simp [told, step]
  · simp [told]

theorem not_ends_of_told_none (nothing : l.told = none) : ¬ l.ends := by
  rcases l.cases_told with ⟨told, -⟩ | ⟨e, told, -⟩ | ⟨es, told, -⟩ | ⟨told, -⟩ | ⟨-, goesOn, -⟩
  all_goals simp_all

theorem told_ne_due_of_handles (handles : l.handles) : l.told ≠ some .due := by
  rcases l.cases_told with ⟨told, -⟩ | ⟨e, told, -⟩ | ⟨es, told, -⟩ | ⟨-, -, other, -⟩ | ⟨told, -⟩
  all_goals simp_all

/-- A look at which the ticker is due notices it, or has something else to tell. -/
theorem told_due_of_late (late : l.late) (other : ¬ l.handles) (goesOn : ¬ l.ends) : l.told = some .due := by
  rcases l.cases_told with ⟨-, ends, -⟩ | ⟨e, -, ends, -⟩ | ⟨es, -, -, handles⟩ | ⟨told, -⟩ | ⟨-, -, -, early⟩
  all_goals simp_all

/-- A run that is told of its end stops. -/
theorem stops_of_ends {signal : Signal} (told : l.told = some signal) (ends : l.ends) :
    ∃ reason, (step cfg me l.fired .listening signal).phase = .stopped reason := by
  rcases l.cases_told with ⟨is, -⟩ | ⟨e, is, -⟩ | ⟨es, -, goesOn, -⟩ | ⟨-, goesOn, -⟩ | ⟨-, goesOn, -⟩
  · obtain rfl := Option.some.inj (told.symm.trans is)
    exact ⟨_, rfl⟩
  · obtain rfl := Option.some.inj (told.symm.trans is)
    exact ⟨_, rfl⟩
  all_goals exact absurd (goesOn.symm.trans ends) (by simp)

end Look

/-- At most one result is handled between the time the ticker comes due and the next look for
stuck entries. -/
def Prompt (cfg : ConsumerConfig) (me : String) (looks : List Look) : Prop :=
  ∀ front a between b back, looks = front ++ a :: (between ++ b :: back) →
    a.late → a.handles → b.handles → ∃ c ∈ between, c.Scans cfg me

section

variable (cfg : ConsumerConfig) (me : String)

/-- The courses that a run may have taken, with the looks it has taken while it listened, its
ticker and the time. -/
inductive Timed : List Turn → List Look → Phase → Bool → Bool → Ticker → Instant → Prop
  | start (fired : Bool) (ticker : Ticker) (now : Instant) :
      Timed [.start fired] [] (begin cfg me fired).phase fired fired ticker now
  /-- The token fires while the run waits. -/
  | fire {turns : List Turn} {looks : List Look} {phase : Phase} {before seen : Bool} {ticker : Ticker}
      {now : Instant} (timed : Timed turns looks phase before seen ticker now) :
      Timed turns looks phase before true ticker now
  /-- Time passes. -/
  | pass {turns : List Turn} {looks : List Look} {phase : Phase} {before seen : Bool} {ticker : Ticker}
      {now : Instant} (timed : Timed turns looks phase before seen ticker now) (d : Span) :
      Timed turns looks phase before seen ticker (now.after d)
  /-- A turn of a run that does not listen. -/
  | turn {turns : List Turn} {looks : List Look} {phase : Phase} {before seen : Bool} {ticker : Ticker}
      {now : Instant} {signal : Signal} {fired : Bool}
      (timed : Timed turns looks phase before seen ticker now) (other : phase ≠ .listening)
      (hears : phase.Hears seen signal) (later : seen → fired) :
      Timed (turns ++ [.look phase before seen signal fired]) looks (step cfg me fired phase signal).phase
        fired fired (tickerAfter cfg now ticker phase signal) now
  /-- A look of a run that listens and has to wait on. -/
  | idle {turns : List Turn} {looks : List Look} {before : Bool} {l : Look}
      (timed : Timed turns looks .listening before l.seen l.ticker l.now) (nothing : l.told = none) :
      Timed turns (looks ++ [l]) .listening before l.seen l.ticker l.now
  /-- A turn of a run that listens. -/
  | listen {turns : List Turn} {looks : List Look} {before : Bool} {l : Look} {signal : Signal}
      (timed : Timed turns looks .listening before l.seen l.ticker l.now) (told : l.told = some signal)
      (later : l.seen → l.fired) :
      Timed (turns ++ [.look .listening before l.seen signal l.fired]) (looks ++ [l])
        (step cfg me l.fired .listening signal).phase l.fired l.fired
        (tickerAfter cfg l.now l.ticker .listening signal) l.now

end

variable {cfg : ConsumerConfig} {me : String} {turns : List Turn} {looks : List Look} {phase : Phase}
  {before seen : Bool} {ticker : Ticker} {now : Instant}

/-! ### Courses with instants are courses -/

theorem Look.hears {l : Look} {signal : Signal} (told : l.told = some signal) :
    Phase.listening.Hears l.seen signal := by
  obtain ⟨now, ticker, seen, answer, fired⟩ := l
  cases seen with
  | true =>
    obtain rfl := Option.some.inj told
    rfl
  | false =>
    cases answer with
    | some result =>
      obtain rfl := Option.some.inj told
      rfl
    | none =>
      simp only [Look.told, heard, Option.map_none, Bool.false_eq_true, if_false] at told
      split at told
      · obtain rfl := Option.some.inj told
        rfl
      · exact absurd told (by simp)

theorem Timed.course (timed : Timed cfg me turns looks phase before seen ticker now) :
    Course cfg me turns phase before seen := by
  induction timed with
  | start fired => exact .start fired
  | fire _ ih => exact ih.fire
  | pass _ _ ih => exact ih
  | turn _ _ hears later ih => exact ih.look hears later
  | idle _ _ ih => exact ih
  | listen _ told later ih => exact ih.look (Look.hears told) later

/-- Every course is one with instants: the time that a tick needs may always pass. -/
theorem Course.exists_timed (course : Course cfg me turns phase before seen) :
    ∃ looks ticker now, Timed cfg me turns looks phase before seen ticker now := by
  induction course with
  | start fired => exact ⟨[], ⟨.zero⟩, .zero, .start fired _ _⟩
  | fire _ ih =>
    obtain ⟨looks, ticker, now, timed⟩ := ih
    exact ⟨looks, ticker, now, timed.fire⟩
  | @look turns phase before seen signal fired course hears later ih =>
    obtain ⟨looks, ticker, now, timed⟩ := ih
    by_cases listens : phase = .listening
    · subst listens
      cases signal with
      | delivered result =>
        obtain rfl : seen = false := hears
        have told : (Look.mk now ticker false (some result) fired).told = some (.delivered result) := rfl
        exact ⟨_, _, _, .listen timed told later⟩
      | due =>
        obtain rfl : seen = false := hears
        have late : ticker.isDue (now.after ⟨ticker.due.nanos⟩) := by
          simp [Ticker.isDue, Instant.le_def, Instant.after]
        have told : (Look.mk (now.after ⟨ticker.due.nanos⟩) ticker false none fired).told = some .due := by
          simp [Look.told, heard, late]
        exact ⟨_, _, _, .listen (timed.pass _) told later⟩
      | cancelled =>
        obtain rfl : seen = true := hears
        have told : (Look.mk now ticker true none fired).told = some .cancelled := rfl
        exact ⟨_, _, _, .listen timed told later⟩
      | _ => exact hears.elim
    · exact ⟨_, _, _, .turn timed listens hears later⟩

/-! ### The ticker between two looks -/

/-- The run has not come to listen yet. -/
def Phase.Replays : Phase → Prop
  | creating | replaying _ | working _ (.replayed _) | acking _ (.replayed _) _ => True
  | _ => False

theorem not_replays_listen (fired readIsOut : Bool) : ¬ (listen cfg me fired readIsOut).phase.Replays := by
  cases fired <;> exact id

theorem not_replays_nextFresh (fired : Bool) (es : List Entry) :
    ¬ (nextFresh cfg me fired es).phase.Replays := by
  cases es with
  | nil => exact not_replays_listen fired false
  | cons e es => exact id

theorem not_replays_nextClaimed (fired : Bool) (es : List Entry) :
    ¬ (nextClaimed cfg me fired es).phase.Replays := by
  cases es with
  | nil => exact not_replays_listen fired true
  | cons e es => cases fired <;> exact id

theorem not_replays_proceed (fired : Bool) (entry : Entry) {origin : Origin}
    (late : ¬ (Phase.working entry origin).Replays) : ¬ (proceed cfg me fired entry origin).phase.Replays := by
  cases origin with
  | replayed n => exact absurd trivial late
  | fresh rest => exact not_replays_nextFresh fired rest
  | claimed rest => exact not_replays_nextClaimed fired rest

theorem not_replays_fail (fired : Bool) (entry : Entry) {origin : Origin}
    (late : ¬ (Phase.working entry origin).Replays) (e : QueueError) :
    ¬ (fail cfg me fired entry origin e).phase.Replays := by
  cases origin with
  | replayed n => exact id
  | fresh rest => exact not_replays_nextFresh fired rest
  | claimed rest => exact not_replays_nextClaimed fired rest

theorem not_replays_claimFound (fired : Bool) (found : List StreamId) :
    ¬ (claimFound cfg me fired found).phase.Replays := by
  unfold claimFound
  split
  · exact not_replays_listen fired true
  · exact id

/-- A run that has come to listen does not replay any more. -/
theorem not_replays_step {signal : Signal} (late : ¬ phase.Replays) (hears : phase.Hears seen signal)
    (fired : Bool) : ¬ (step cfg me fired phase signal).phase.Replays := by
  cases phase with
  | creating | replaying => exact absurd trivial late
  | working entry origin =>
    have notReplayed : ¬ (Phase.working entry origin).Replays := late
    cases signal with
    | worked result =>
      cases result with
      | ok outcome => cases origin <;> exact late
      | error e =>
        cases e with
        | cancelled => exact id
        | size | generation | generatorLost | digest => exact not_replays_fail fired entry notReplayed _
    | _ => exact hears.elim
  | acking entry origin outcome =>
    have notReplayed : ¬ (Phase.working entry origin).Replays := by cases origin <;> exact late
    cases signal with
    | acked result =>
      cases result with
      | ok n => exact not_replays_proceed fired entry notReplayed
      | error e => exact not_replays_fail fired entry notReplayed _
    | _ => exact hears.elim
  | listening =>
    cases signal with
    | delivered result =>
      cases result with
      | ok es => exact not_replays_nextFresh fired es
      | error e => exact id
    | due | cancelled => exact id
    | _ => exact hears.elim
  | scanning found =>
    cases signal with
    | scanned result =>
      cases result with
      | ok page =>
        rw [step, scanned]
        split
        · exact not_replays_claimFound fired found
        · simp only
          split
          · exact not_replays_claimFound fired _
          · exact id
      | error e => exact not_replays_listen fired true
    | _ => exact hears.elim
  | claiming =>
    cases signal with
    | claimed result =>
      cases result with
      | ok entries =>
        cases entries with
        | nil => exact not_replays_listen fired true
        | cons e es => exact not_replays_nextClaimed fired _
      | error e => exact not_replays_listen fired true
    | _ => exact hears.elim
  | stopped reason => cases signal <;> exact hears.elim

/-- The ticker of a run that has come to listen changes only when it is noticed. -/
theorem tickerAfter_eq {signal : Signal} (late : ¬ phase.Replays) (other : phase = .listening → signal ≠ .due) :
    tickerAfter cfg now ticker phase signal = ticker := by
  unfold tickerAfter
  split
  · exact absurd trivial late
  · exact absurd rfl (other rfl)
  · rfl

/-- What a look has to do with a later point of the course that no look comes before. -/
structure Since (l : Look) (phase : Phase) (ticker : Ticker) (now : Instant) : Prop where
  time : l.now ≤ now
  ticker : l.told ≠ some .due → ticker = l.ticker
  listened : ¬ phase.Replays
  ended : l.ends = true → ∃ reason, phase = .stopped reason

namespace Timed

/-- Each look has to do with the next one so, and the last one with where the run is now. -/
theorem followed (timed : Timed cfg me turns looks phase before seen ticker now) :
    looks.IsChain (fun a b => Since a .listening b.ticker b.now) ∧
      ∀ l ∈ looks.getLast?, Since l phase ticker now := by
  have snoc {looks : List Look} {l : Look} (chain : looks.IsChain fun a b => Since a .listening b.ticker b.now)
      (last : ∀ a ∈ looks.getLast?, Since a .listening l.ticker l.now) :
      (looks ++ [l]).IsChain fun a b => Since a .listening b.ticker b.now := by
    refine chain.append (by simp) fun a ha b hb => ?_
    obtain rfl : l = b := by simpa using hb
    exact last a ha
  induction timed with
  | start => exact ⟨by simp, by simp⟩
  | fire _ ih => exact ih
  | pass timed d ih =>
    refine ⟨ih.1, fun l hl => ?_⟩
    have since := ih.2 l hl
    exact ⟨Nat.le_trans since.time (Nat.le_add_right _ _), since.ticker, since.listened, since.ended⟩
  | turn timed other hears later ih =>
    refine ⟨ih.1, fun l hl => ?_⟩
    have since := ih.2 l hl
    refine ⟨since.time, fun told => ?_, not_replays_step since.listened hears _, fun ends => ?_⟩
    · rw [tickerAfter_eq since.listened fun listens => absurd listens other]
      exact since.ticker told
    · obtain ⟨reason, rfl⟩ := since.ended ends
      exact hears.elim
  | @idle turns looks before l timed nothing ih =>
    refine ⟨snoc ih.1 ih.2, fun a ha => ?_⟩
    obtain rfl : l = a := by simpa using ha
    exact ⟨Nat.le_refl _, fun _ => rfl, id, fun ends => absurd ends (Look.not_ends_of_told_none nothing)⟩
  | @listen turns looks before l signal timed told later ih =>
    refine ⟨snoc ih.1 ih.2, fun a ha => ?_⟩
    obtain rfl : l = a := by simpa using ha
    refine ⟨Nat.le_refl _, fun other => ?_, not_replays_step id (Look.hears told) _, Look.stops_of_ends told⟩
    exact tickerAfter_eq id fun _ due => other (due ▸ told)

/-- The look behind a result that is handled late scans, unless it finds the next result or ends
the run. -/
theorem scans_of_late {a b : Look} (since : Since a .listening b.ticker b.now) (late : a.late)
    (handles : a.handles) (next : ¬ b.handles) (goesOn : ¬ b.ends) : b.Scans cfg me := by
  have still : b.late = true := by
    have due : a.ticker.due ≤ a.now := of_decide_eq_true late
    rw [Look.late, since.ticker (Look.told_ne_due_of_handles handles)]
    exact decide_eq_true (Nat.le_trans due since.time)
  rw [Look.scans_iff]
  exact Look.told_due_of_late still next goesOn

/-- **Reclamation**: a run handles at most one result between the time its ticker comes due and
its next look for stuck entries, exactly if no result that it handles late is followed by a look
that finds the next result. The look behind such a result then is the one that scans, unless the
run is cancelled or the read has failed. -/
theorem prompt_iff (timed : Timed cfg me turns looks phase before seen ticker now) :
    (Prompt cfg me looks ↔ looks.IsChain fun a b => a.late → a.handles → ¬ b.handles) ∧
      looks.IsChain fun a b => a.late → a.handles → ¬ b.handles → ¬ b.ends → b.Scans cfg me := by
  have chain := timed.followed.1
  rw [List.isChain_iff_forall_rel_of_append_cons_cons] at chain
  refine ⟨⟨fun prompt => ?_, fun unanswered => ?_⟩, ?_⟩
  · rw [List.isChain_iff_forall_rel_of_append_cons_cons]
    intro a b front back split late handles next
    obtain ⟨c, mem, -⟩ := prompt front a [] b back split late handles next
    exact absurd mem (by simp)
  · rw [List.isChain_iff_forall_rel_of_append_cons_cons] at unanswered
    intro front a between b back split late handles next
    cases between with
    | nil => exact absurd next (unanswered split late handles)
    | cons c between =>
      have first : looks = front ++ a :: c :: (between ++ b :: back) := split
      refine ⟨c, List.mem_cons_self, scans_of_late (chain first) late handles (unanswered first late handles) ?_⟩
      -- There is a look behind `c`, and a run that has ended takes none.
      intro ends
      obtain ⟨d, rest, more⟩ : ∃ d rest, between ++ b :: back = d :: rest := by
        cases between with
        | nil => exact ⟨_, _, rfl⟩
        | cons d between => exact ⟨_, _, rfl⟩
      have second : looks = (front ++ [a]) ++ c :: d :: rest := by rw [first, more]; simp
      obtain ⟨reason, stopped⟩ := (chain second).ended ends
      exact Phase.noConfusion stopped
  · rw [List.isChain_iff_forall_rel_of_append_cons_cons]
    intro a b front back split late handles next goesOn
    exact scans_of_late (chain split) late handles next goesOn

end Timed

/-! ### Runs that are kept busy -/

/-- A run comes to listen, with its ticker just begun. -/
theorem timed_listening (cfg : ConsumerConfig) (me : String) :
    Timed cfg me (replaysWith []) [] .listening false false (Ticker.start .zero cfg.claimInterval) .zero := by
  have creating : Timed cfg me [.start false] [] .creating false false ⟨.zero⟩ .zero := .start false _ _
  have replaying : Timed cfg me ([.start false] ++ [.look .creating false false (.created (.ok ())) false]) []
      (.replaying 0) false false ⟨.zero⟩ .zero := .turn creating (by simp) rfl id
  exact .turn replaying (by simp) rfl id

/-- A look that finds an entry. -/
def Look.finds (now : Instant) (ticker : Ticker) (e : Entry) : Look := ⟨now, ticker, false, some (.ok [e]), false⟩

/-- **One round** of a run that is kept busy: its read is back with an entry, the run works on it
and acknowledges it, which may take any time, and listens again. -/
theorem Timed.serve (timed : Timed cfg me turns looks .listening before false ticker now) (e : Entry) (d : Span) :
    ∃ turns', Timed cfg me turns' (looks ++ [.finds now ticker e]) .listening false false ticker (now.after d) := by
  have told : (Look.finds now ticker e).told = some (.delivered (.ok [e])) := rfl
  have worked : (Phase.working e (.fresh [])).Hears false (.worked (.ok ⟨"", 0⟩)) := rfl
  have acked : (Phase.acking e (.fresh []) ⟨"", 0⟩).Hears false (.acked (.ok 1)) := trivial
  have working : Timed cfg me _ (looks ++ [.finds now ticker e]) (.working e (.fresh [])) false false ticker
      now := Timed.listen (l := .finds now ticker e) timed told id
  have acking : Timed cfg me _ (looks ++ [.finds now ticker e]) (.acking e (.fresh []) ⟨"", 0⟩) false false
      ticker now := working.turn (by simp) worked id
  exact ⟨_, (acking.pass d).turn (by simp) acked id⟩

/-- **Starvation**: whatever number of entries a run is handed, it may handle them all while its
ticker is due, one after the other, and not look for stuck entries. -/
theorem starved (cfg : ConsumerConfig) (me : String) (es : List Entry) :
    ∃ turns looks ticker now, Timed cfg me turns looks .listening false false ticker now ∧
      looks.map (·.answer) = es.map (fun e => some (.ok [e])) ∧
      ∀ l ∈ looks, l.late ∧ l.handles ∧ ¬ l.Scans cfg me := by
  suffices ∃ turns looks ticker now, Timed cfg me turns looks .listening false false ticker now ∧
      looks.map (·.answer) = es.map (fun e => some (.ok [e])) ∧ ticker.isDue now ∧
      ∀ l ∈ looks, l.late ∧ l.handles ∧ ¬ l.Scans cfg me by
    obtain ⟨turns, looks, ticker, now, timed, answers, -, all⟩ := this
    exact ⟨turns, looks, ticker, now, timed, answers, all⟩
  induction es using List.reverseRecOn with
  | nil =>
    refine ⟨_, [], _, _, (timed_listening cfg me).pass cfg.claimInterval, rfl, ?_, by simp⟩
    exact decide_eq_true (Nat.le_refl _)
  | append_singleton es e ih =>
    obtain ⟨turns, looks, ticker, now, timed, answers, due, all⟩ := ih
    obtain ⟨turns', served⟩ := timed.serve e .zero
    refine ⟨turns', _, ticker, _, served, ?_, due, ?_⟩
    · rw [List.map_append, List.map_append, answers]
      rfl
    · intro l mem
      rcases List.mem_append.1 mem with old | new
      · exact all l old
      · obtain rfl := List.mem_singleton.1 new
        refine ⟨due, rfl, ?_⟩
        rw [Look.scans_iff]
        exact fun told => Signal.noConfusion (Option.some.inj told)

/-- A call while the wall clock stands still. -/
def standing (ms : Nat) (c : LogCall) : TimedCall :=
  ⟨⟨⟨ms * Span.nanosPerMilli⟩, .ofMillis 1700000000000 0⟩, c⟩

/-- An entry is stuck with a consumer, and four more wait. -/
def fourWait : List TimedCall :=
  [standing 0 (.createGroup "s" "g" .zero), standing 0 (.append "s" [("msg", "stuck")] 1000),
    standing 0 (.readNew "s" "g" "dead" 1 none)] ++
  ["m0", "m1", "m2", "m3"].map fun text => standing 0 (.append "s" [("msg", text)] 1000)

/-- The reads of a run that takes 600 ms for each entry. -/
def fourReads : List TimedCall :=
  [0, 600, 1200, 1800].map fun ms => standing ms (.readNew "s" "g" "c1" 1 none)

/-- What such a run finds as it looks. Its ticker is due from the end of the first second on. -/
def fourLooks : List Look :=
  [(0, 1, "m0"), (600, 2, "m1"), (1200, 3, "m2"), (1800, 4, "m3")].map fun (ms, seq, text) =>
    .finds ⟨ms * Span.nanosPerMilli⟩ ⟨⟨1000000000⟩⟩ ⟨⟨1700000000000, seq⟩, .ofList [("msg", text)]⟩

/-- The last two of the four are handled late, and the stuck entry is not looked for. -/
theorem not_prompt_backlog :
    (∃ turns ticker now, Timed everySecond "c1" turns fourLooks .listening false false ticker now) ∧
      ((Store.empty.afterAll fourWait).history fourReads).map (fun a => some (.ok (a.delivered "s" "g"))) =
        fourLooks.map (·.answer) ∧
      fourLooks.map (·.late) = [false, false, true, true] ∧
      (∀ l ∈ fourLooks, l.handles ∧ ¬ l.ends ∧ ¬ l.Scans everySecond "c1") ∧
      ¬ Prompt everySecond "c1" fourLooks := by
  refine ⟨?_, by decide, by decide, by decide, fun prompt => ?_⟩
  · obtain ⟨_, first⟩ := (timed_listening everySecond "c1").serve
      ⟨⟨1700000000000, 1⟩, .ofList [("msg", "m0")]⟩ (.ofMillis 600)
    obtain ⟨_, second⟩ := first.serve ⟨⟨1700000000000, 2⟩, .ofList [("msg", "m1")]⟩ (.ofMillis 600)
    obtain ⟨_, third⟩ := second.serve ⟨⟨1700000000000, 3⟩, .ofList [("msg", "m2")]⟩ (.ofMillis 600)
    obtain ⟨_, fourth⟩ := third.serve ⟨⟨1700000000000, 4⟩, .ofList [("msg", "m3")]⟩ (.ofMillis 600)
    exact ⟨_, _, _, fourth⟩
  · obtain ⟨c, mem, -⟩ := prompt (fourLooks.take 2) _ [] _ [] rfl rfl rfl rfl
    exact absurd mem (by simp)

/-- The looks of a run that is handed one entry late and none after it. -/
def lateOnce : List Look :=
  [.finds ⟨1200000000⟩ ⟨⟨1000000000⟩⟩ ⟨⟨1, 0⟩, .empty⟩, ⟨⟨1800000000⟩, ⟨⟨1000000000⟩⟩, false, none, false⟩]

/-- The look behind the one late result scans. -/
theorem prompt_lateOnce :
    (∃ turns ticker, Timed everySecond "c1" turns lateOnce (.scanning []) false false ticker ⟨1800000000⟩) ∧
      Prompt everySecond "c1" lateOnce ∧ ∃ l ∈ lateOnce, l.Scans everySecond "c1" := by
  obtain ⟨_, served⟩ := ((timed_listening everySecond "c1").pass (.ofMillis 1200)).serve ⟨⟨1, 0⟩, .empty⟩
    (.ofMillis 600)
  have told : (Look.mk ⟨1800000000⟩ ⟨⟨1000000000⟩⟩ false none false).told = some .due := rfl
  have scanning := Timed.listen (l := ⟨⟨1800000000⟩, ⟨⟨1000000000⟩⟩, false, none, false⟩) served told id
  obtain ⟨prompt, scans⟩ := scanning.prompt_iff
  refine ⟨⟨_, _, scanning⟩, prompt.2 (by simp [Look.finds, Look.handles]), ?_⟩
  exact ⟨_, by simp [lateOnce], (List.isChain_cons_cons.1 scans).1 rfl rfl (by decide) (by decide)⟩

end Consumer

end StreamQueue
