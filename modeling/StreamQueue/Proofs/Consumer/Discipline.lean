import StreamQueue.Proofs.Consumer.Acknowledgement
import StreamQueue.Proofs.Consumer.Phases
import StreamQueue.Proofs.Consumer.Reclamation

/-!
# The discipline of the calls

A run makes its calls in an order that the log can rely on, and shows a state that fits each of
them. Most of all it has one read for new entries out at a time: a tick does not touch it, and
the next one starts when every entry of the last one has been worked on.

A record of a run is what it was told, which work it began and which calls it started, in order.
`Mark.Allowed` says what may stand in a record behind what is there already; it is the rule
that the run keeps. How many reads are out can be told from the phase, and in a phase that works
on new entries those that are left are what was returned and not begun with.

## What is proved

* `Orderly.look` — a turn of a run keeps its record orderly.
* `out_le_one` — in a record that keeps the rule, no two reads are out at any moment.
* `call_discipline` — the record of every run keeps the rule, and a run that listens has one
  read out.
-/

namespace StreamQueue.Consumer

/-! ### Records -/

/-- What is written down of a run. -/
inductive Mark
  /-- The run is told something. -/
  | told (signal : Signal)
  /-- The work for an entry begins. -/
  | begins (entry : Entry)
  /-- A call starts while the run shows a state. -/
  | calls (state : State) (c : LogCall)

/-- The work that begins with a phase. -/
def Phase.begins : Phase → List Entry
  | working entry _ => [entry]
  | _ => []

/-- What is written down of a move. -/
def Move.marks (m : Move) : List Mark :=
  m.phase.begins.map .begins ++ m.starts.toList.map (.calls m.phase.state)

/-- What is written down of a turn. -/
def Turn.marks (cfg : ConsumerConfig) (me : String) (t : Turn) : List Mark :=
  (match t with
    | start _ => []
    | look _ _ _ signal _ => [.told signal]) ++ (t.move cfg me).marks

/-- The record of a run. -/
def record (cfg : ConsumerConfig) (me : String) (turns : List Turn) : List Mark :=
  turns.flatMap (Turn.marks cfg me)

/-- The call that a mark is about. -/
def Mark.call? : Mark → Option LogCall
  | calls _ c => some c
  | _ => none

/-- The entry that a mark is about, if its work begins. -/
def Mark.begun? : Mark → Option Entry
  | begins entry => some entry
  | _ => none

/-- A read for new entries starts. -/
def Mark.startsRead : Mark → Bool
  | calls _ (.readNew ..) => true
  | _ => false

/-- A read for new entries comes back. -/
def Mark.endsRead : Mark → Bool
  | told (.delivered _) => true
  | _ => false

/-- The calls of a record. -/
def calls (marks : List Mark) : List LogCall := marks.filterMap Mark.call?

/-- The entries whose work was begun in a record, in order. -/
def undertaken (marks : List Mark) : List Entry := marks.filterMap Mark.begun?

/-- How many reads for new entries have started. -/
def started (marks : List Mark) : Nat := marks.countP Mark.startsRead

/-- How many reads for new entries have come back. -/
def returned (marks : List Mark) : Nat := marks.countP Mark.endsRead

@[simp] theorem calls_append (marks more : List Mark) : calls (marks ++ more) = calls marks ++ calls more :=
  List.filterMap_append

@[simp] theorem undertaken_append (marks more : List Mark) :
    undertaken (marks ++ more) = undertaken marks ++ undertaken more :=
  List.filterMap_append

@[simp] theorem started_append (marks more : List Mark) :
    started (marks ++ more) = started marks + started more := List.countP_append

@[simp] theorem returned_append (marks more : List Mark) :
    returned (marks ++ more) = returned marks + returned more := List.countP_append

@[simp] theorem started_begins (entries : List Entry) : started (entries.map .begins) = 0 := by
  simp [started, List.countP_map, Function.comp_def, Mark.startsRead]

@[simp] theorem returned_begins (entries : List Entry) : returned (entries.map .begins) = 0 := by
  simp [returned, List.countP_map, Function.comp_def, Mark.endsRead]

@[simp] theorem undertaken_begins (entries : List Entry) : undertaken (entries.map .begins) = entries := by
  simp [undertaken, List.filterMap_map, Function.comp_def, Mark.begun?]

@[simp] theorem returned_calls (state : State) (cs : List LogCall) : returned (cs.map (.calls state)) = 0 := by
  simp [returned, List.countP_map, Function.comp_def, Mark.endsRead]

@[simp] theorem undertaken_calls (state : State) (cs : List LogCall) :
    undertaken (cs.map (.calls state)) = [] := by
  simp [undertaken, List.filterMap_map, Function.comp_def, Mark.begun?]

/-- All that the last read has returned was begun since, each entry once and in order. -/
def Served (past : List Mark) : Prop :=
  started past = 0 ∨ ∃ before entries since, past = before ++ .told (.delivered (.ok entries)) :: since ∧
    started since = 0 ∧ undertaken since = entries

/-- What may come next in a record. -/
def Mark.Allowed (cfg : ConsumerConfig) (past : List Mark) : Mark → Prop
  | calls state c =>
    match c with
    | .createGroup .. => c = groupCall cfg ∧ state = .initializing ∧ Consumer.calls past = []
    | .readPending .. => (state = .recoveringPending ∨ state = .processing) ∧
        Consumer.calls past ≠ [] ∧ started past = 0
    | .readNew .. => state = .listening ∧ Consumer.calls past ≠ [] ∧ started past = returned past ∧
        Served past
    | .pendingEntries .. | .claim .. => state = .claiming ∧ Consumer.calls past ≠ []
    | .ack .. => state = .processing ∧ Consumer.calls past ≠ []
    | _ => False
  -- A tick is noticed, and a read comes back, while one read is out.
  | told (.delivered _) | told .due => started past = returned past + 1
  | _ => True

theorem record_snoc (cfg : ConsumerConfig) (me : String) (turns : List Turn) (t : Turn) :
    record cfg me (turns ++ [t]) = record cfg me turns ++ t.marks cfg me := by
  rw [record, List.flatMap_append, List.flatMap_singleton, record]

/-- In a record that keeps the rule, no two reads are out at any moment. -/
theorem out_le_one {cfg : ConsumerConfig} {marks : List Mark} (ruled : Throughout (Mark.Allowed cfg) marks) :
    returned marks ≤ started marks ∧ started marks ≤ returned marks + 1 := by
  induction marks using List.reverseRecOn with
  | nil => simp [returned, started]
  | append_singleton marks mark ih =>
    have before := ih fun past next later split =>
      ruled (show marks ++ [mark] = past ++ next :: (later ++ [mark]) by
        rw [split, List.append_assoc, List.cons_append])
    have allowed : mark.Allowed cfg marks := ruled rfl
    simp only [returned, started, List.countP_append, List.countP_singleton] at before ⊢
    cases mark with
    | told signal =>
      cases signal with
      | delivered result =>
        have one : started marks = returned marks + 1 := allowed
        simp only [returned, started] at one
        simp only [Mark.endsRead, Mark.startsRead]
        simp
        omega
      | _ => simpa [Mark.endsRead, Mark.startsRead] using before
    | begins entry => simpa [Mark.endsRead, Mark.startsRead] using before
    | calls state c =>
      cases c with
      | readNew =>
        have same : started marks = returned marks := allowed.2.2.1
        simp only [returned, started] at same
        simp [Mark.endsRead, Mark.startsRead, same]
      | _ => simpa [Mark.endsRead, Mark.startsRead] using before

/-! ### What a phase knows of the record -/

/-- How many reads for new entries are out in a phase. -/
def Phase.readsOut : Phase → Nat
  | listening | scanning _ | claiming | working _ (.claimed _) | acking _ (.claimed _) _ => 1
  | _ => 0

/-- The new entries that the run has in hand and has not begun with, if it works on such. -/
def Phase.fresh? : Phase → Option (List Entry)
  | working _ (.fresh rest) | acking _ (.fresh rest) _ => some rest
  | _ => none

variable {cfg : ConsumerConfig} {me : String} {fired : Bool} {phase phase' : Phase} {signal : Signal}
  {starts : Option LogCall}

/-- The read goes out and comes back as the phases say. -/
theorem Phase.Leads.readsOut (leads : phase.Leads cfg me fired signal phase' starts)
    (goesOn : ∀ reason, phase' ≠ .stopped reason) :
    phase'.readsOut + returned [.told signal] =
      phase.readsOut + started (starts.toList.map (.calls phase'.state)) := by
  cases leads with
  | fails | cancelled => exact absurd rfl (goesOn _)
  | nextReplayed past | nextFresh past | lastFresh past | nextClaimed past | lastClaimed past =>
    cases past <;> rfl
  | worked entry origin outcome => cases origin <;> rfl
  | scannedNone found result | claimedNone result => cases result <;> rfl
  | _ => rfl

/-- The new entries in hand were just returned, or they were in hand before; one that is begun is
the next of them. -/
theorem Phase.Leads.fresh (leads : phase.Leads cfg me fired signal phase' starts) {rest : List Entry}
    (serves : phase'.fresh? = some rest) :
    started (starts.toList.map (.calls phase'.state)) = 0 ∧
      (phase.fresh? = some (phase'.begins ++ rest) ∨ signal = .delivered (.ok (phase'.begins ++ rest))) := by
  cases leads with
  | nextFresh past =>
    obtain rfl := Option.some.inj serves
    cases past <;> exact ⟨rfl, .inl rfl⟩
  | worked entry origin outcome =>
    cases origin with
    | fresh rest' =>
      obtain rfl := Option.some.inj serves
      exact ⟨rfl, .inl rfl⟩
    | _ => cases serves
  | delivered entry rest' =>
    obtain rfl := Option.some.inj serves
    exact ⟨rfl, .inr rfl⟩
  | _ => cases serves

/-- The run replays only if it has always done so, and then it does not read. -/
theorem Phase.Leads.early (leads : phase.Leads cfg me fired signal phase' starts)
    (early : phase'.Replays) : phase.Replays ∧ started (starts.toList.map (.calls phase'.state)) = 0 := by
  cases leads with
  | created | replays => exact ⟨trivial, rfl⟩
  | nextReplayed past => cases past <;> exact ⟨trivial, rfl⟩
  | worked entry origin outcome =>
    cases origin with
    | replayed n => exact ⟨trivial, rfl⟩
    | _ => exact early.elim
  | _ => exact early.elim

/-- What the record of a run has to do with the phase that the run waits in. -/
structure Orderly (cfg : ConsumerConfig) (marks : List Mark) (phase : Phase) : Prop where
  ruled : Throughout (Mark.Allowed cfg) marks
  created : (∀ reason, phase ≠ .stopped reason) → calls marks ≠ []
  readsOut : (∀ reason, phase ≠ .stopped reason) → started marks = returned marks + phase.readsOut
  early : phase.Replays → started marks = 0
  /-- What was returned last is what was begun since and what is left of it. -/
  serves : ∀ rest, phase.fresh? = some rest → ∃ before entries since,
    marks = before ++ .told (.delivered (.ok entries)) :: since ∧ started since = 0 ∧
      undertaken since ++ rest = entries

/-- What the run is told is allowed. -/
theorem Orderly.allowed_told {marks : List Mark} (orderly : Orderly cfg marks phase) {seen : Bool}
    (hears : phase.Hears seen signal) : (Mark.told signal).Allowed cfg marks := by
  have listens (is : phase = .listening) : started marks = returned marks + 1 := by
    subst is
    exact orderly.readsOut (by simp)
  cases signal with
  | delivered result => exact listens (by cases phase <;> first | rfl | exact hears.elim)
  | due => exact listens (by cases phase <;> first | rfl | exact hears.elim)
  | _ => trivial

/-- The call that the run starts is allowed. -/
theorem Orderly.allowed_calls {marks : List Mark} (orderly : Orderly cfg marks phase) {seen : Bool}
    (hears : phase.Hears seen signal) {c : LogCall}
    (leads : phase.Leads cfg me fired signal phase' (some c)) :
    (Mark.calls phase'.state c).Allowed cfg (marks ++ [.told signal]) := by
  have created : calls (marks ++ [.told signal]) ≠ [] := by
    rw [calls_append]
    exact List.append_ne_nil_of_left_ne_nil (orderly.created hears.running) _
  have before (replays : phase.Replays) : started (marks ++ [.told signal]) = 0 := by
    rw [started_append, orderly.early replays]
    rfl
  have counts := orderly.readsOut hears.running
  generalize same : some c = starts at leads
  cases leads with
  | created there =>
    obtain rfl := Option.some.inj same
    exact ⟨.inl rfl, created, before trivial⟩
  | nextReplayed past =>
    obtain rfl := Option.some.inj same
    refine ⟨.inr (by simp [Phase.state]), created, before ?_⟩
    cases past <;> trivial
  | recovered n =>
    obtain rfl := Option.some.inj same
    refine ⟨rfl, created, ?_, .inl (before trivial)⟩
    rw [started_append, returned_append, counts]
    rfl
  | lastFresh past =>
    obtain rfl := Option.some.inj same
    have serves : phase.fresh? = some [] := by cases past <;> rfl
    obtain ⟨earlier, entries, since, eq, unread, all⟩ := orderly.serves [] serves
    refine ⟨rfl, created, ?_, .inr ⟨earlier, entries, since ++ [.told signal], ?_, ?_, ?_⟩⟩
    · rw [started_append, returned_append, counts]
      cases past <;> rfl
    · rw [eq, List.append_assoc, List.cons_append]
    · rw [started_append, unread]
      rfl
    · rw [undertaken_append, ← all]
      rfl
  | deliveredNone =>
    obtain rfl := Option.some.inj same
    refine ⟨rfl, created, ?_, .inr ⟨marks, [], [], rfl, rfl, rfl⟩⟩
    rw [started_append, returned_append, counts]
    rfl
  | worked | due | scans | claims =>
    obtain rfl := Option.some.inj same
    exact ⟨rfl, created⟩
  | _ => cases same

/-- **A turn** of a run keeps its record orderly. -/
theorem Orderly.look {marks : List Mark} (orderly : Orderly cfg marks phase) {seen : Bool}
    (hears : phase.Hears seen signal) (before fired : Bool) :
    Orderly cfg (marks ++ (Turn.look phase before seen signal fired).marks cfg me)
      (step cfg me fired phase signal).phase := by
  have leads := leads_step cfg me fired hears
  have told := orderly.ruled.snoc (orderly.allowed_told hears)
  change Orderly cfg (marks ++ (.told signal :: (step cfg me fired phase signal).marks)) _
  generalize (step cfg me fired phase signal) = m at leads
  obtain ⟨phase', events, starts⟩ := m
  rw [← List.singleton_append, ← List.append_assoc, Move.marks]
  dsimp only at leads ⊢
  constructor
  case ruled =>
    cases starts with
    | none =>
      cases phase' with
      | working entry origin => exact told.snoc trivial
      | _ => simpa [Phase.begins] using told
    | some c =>
      have begins : phase'.begins = [] := by cases leads <;> rfl
      rw [begins]
      exact told.snoc (orderly.allowed_calls hears leads)
  case created =>
    intro _
    rw [calls_append, calls_append]
    exact List.append_ne_nil_of_left_ne_nil
      (List.append_ne_nil_of_left_ne_nil (orderly.created hears.running) _) _
  case readsOut =>
    intro goesOn
    have counts := orderly.readsOut hears.running
    have edge := leads.readsOut goesOn
    have signals : started [.told signal] = 0 := rfl
    simp only [started_append, returned_append, started_begins, returned_begins, returned_calls]
    omega
  case early =>
    intro early
    obtain ⟨replays, idle⟩ := leads.early early
    simp only [started_append, orderly.early replays, idle, started_begins]
    rfl
  case serves =>
    intro rest serves
    obtain ⟨idle, hand⟩ := leads.fresh serves
    rcases hand with before | new
    · obtain ⟨earlier, entries, since, eq, silent, split⟩ := orderly.serves _ before
      refine ⟨earlier, entries, since ++ [.told signal] ++ (phase'.begins.map .begins ++
        starts.toList.map (.calls phase'.state)), ?_, ?_, ?_⟩
      · rw [eq]
        simp only [List.append_assoc, List.cons_append]
      · simp only [started_append, silent, started_begins, idle]
        rfl
      · simp only [undertaken_append, undertaken_begins, undertaken_calls, List.append_nil, List.append_assoc]
        exact split
    · subst new
      refine ⟨marks, phase'.begins ++ rest, phase'.begins.map .begins ++
        starts.toList.map (.calls phase'.state), ?_, ?_, ?_⟩
      · rw [List.append_assoc, List.singleton_append]
      · rw [started_append, started_begins, idle]
      · rw [undertaken_append, undertaken_begins, undertaken_calls, List.append_nil]

/-- The record of every run is orderly. -/
theorem Course.orderly {turns : List Turn} {before now : Bool}
    (course : Course cfg me turns phase before now) : Orderly cfg (record cfg me turns) phase := by
  induction course with
  | start fired =>
    cases fired with
    | true => exact ⟨throughout_nil _, fun running => absurd rfl (running .cancelled),
        fun running => absurd rfl (running .cancelled), fun early => early.elim, fun _ serves => by cases serves⟩
    | false =>
      refine ⟨?_, fun _ => by simp [record, Turn.marks, Turn.move, begin, unlessCancelled, Move.behind,
        Move.marks, Phase.begins, calls, Mark.call?], fun _ => rfl, fun _ => rfl, fun _ serves => by cases serves⟩
      exact (throughout_nil _).snoc ⟨rfl, rfl, rfl⟩
  | fire _ ih => exact ih
  | @look turns phase before seen signal fired _ hears _ ih =>
    rw [record_snoc]
    exact ih.look hears before fired

/-- **Call discipline**: whatever a run meets, every mark of its record was allowed by what came
before it; at every moment at most one read for new entries is out; and until the run ends as
many are out as its phase says, one when it listens and none when it works on new entries. It
shows that it has stopped exactly when it has ended. -/
theorem call_discipline {turns : List Turn} {before now : Bool}
    (course : Course cfg me turns phase before now) :
    (∀ past mark later, record cfg me turns = past ++ mark :: later → mark.Allowed cfg past) ∧
    (∀ past, past <+: record cfg me turns →
      returned past ≤ started past ∧ started past ≤ returned past + 1) ∧
    ((∀ reason, phase ≠ .stopped reason) →
      started (record cfg me turns) = returned (record cfg me turns) + phase.readsOut) ∧
    (phase.state = .stopped ↔ ∃ reason, phase = .stopped reason) := by
  have orderly := course.orderly
  refine ⟨fun past mark later split => orderly.ruled split, fun past moment => ?_, orderly.readsOut, ?_⟩
  · obtain ⟨later, split⟩ := moment
    have ruled : Throughout (Mark.Allowed cfg) past := fun before mark between eq =>
      orderly.ruled (show record cfg me turns = before ++ mark :: (between ++ later) by
        rw [← split, eq, List.append_assoc, List.cons_append])
    exact out_le_one ruled
  · cases phase with
    | replaying n => cases n <;> simp [Phase.state]
    | _ => simp [Phase.state]

/-- A tick comes while a read is out; then the read returns an entry, which is worked on. -/
def tickBetween (entry : Entry) : List Turn :=
  replaysWith [] ++ [.look .listening false false .due false] ++
    [.look (.scanning []) false false (.scanned (.ok [])) false] ++
    [.look .listening false false (.delivered (.ok [entry])) false] ++
    [.look (.working entry (.fresh [])) false false (.worked (.ok ⟨"", 1⟩)) false] ++
    [.look (.acking entry (.fresh []) ⟨"", 1⟩) false false (.acked (.ok 1)) false]

/-- The second read starts when the entry is done with. -/
theorem call_discipline_tickBetween :
    let turns := tickBetween ⟨⟨1, 0⟩, .empty⟩
    Course everySecond "c1" turns .listening false false ∧
    calls (record everySecond "c1" turns) = [groupCall everySecond, replayCall everySecond "c1" StreamId.zero,
      readCall everySecond "c1", scanCall everySecond StreamId.zero, .ack "s" "g" [⟨1, 0⟩],
      readCall everySecond "c1"] ∧
    started (record everySecond "c1" turns) = returned (record everySecond "c1" turns) + 1 := by
  intro turns
  have listening : Course everySecond "c1" (replaysWith []) .listening false false := course_replaysWith []
  have scanning : Course everySecond "c1" _ (.scanning []) false false := listening.told .due rfl
  have again : Course everySecond "c1" _ .listening false false :=
    scanning.told (.scanned (.ok [])) trivial
  have working : Course everySecond "c1" _ (.working ⟨⟨1, 0⟩, .empty⟩ (.fresh [])) false false :=
    again.told (.delivered (.ok [⟨⟨1, 0⟩, .empty⟩])) rfl
  have acking : Course everySecond "c1" _ (.acking ⟨⟨1, 0⟩, .empty⟩ (.fresh []) ⟨"", 1⟩) false false :=
    working.told (.worked (.ok ⟨"", 1⟩)) rfl
  have course : Course everySecond "c1" turns .listening false false :=
    acking.told (.acked (.ok 1)) trivial
  exact ⟨course, rfl, (call_discipline course).2.2.1 (by simp)⟩

end StreamQueue.Consumer
