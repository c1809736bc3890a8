import StreamQueue.Proofs.Consumer.Session
import StreamQueue.Proofs.Lists

/-!
# A run acknowledges finished work only

The recovery, the reading of new entries and the reclamation of stuck ones bring a run
different entries in different ways, and each meets failures in its own. What they share is
the order of what happens to one entry: it is handed over, its work begins, the work ends, and
if it has ended well the entry is acknowledged at once.

`Deed.Due` writes this order down as what may happen after what has happened.

## What is proved

* `Course.kept` — in every course, every deed is due when it is done.
* `acknowledges_finished_work` — what the order says of acknowledgements, and of the entries that
  stay pending on a log in memory.
-/

namespace StreamQueue

namespace Consumer

variable {cfg : ConsumerConfig} {me : String}

/-- The entries that were handed over. -/
def handed (ds : List Deed) : List Entry :=
  ds.filterMap fun
    | .handed e => some e
    | _ => none

/-- The entries with whose work the run has begun. -/
def begun (ds : List Deed) : List Entry :=
  ds.filterMap fun
    | .begins e => some e
    | _ => none

/-- No work goes on, and none that has ended well waits to be acknowledged. -/
def Settled (ds : List Deed) : Prop :=
  match ds.getLast? with
  | some (.begins _) | some (.ends _ (.ok _)) => False
  | _ => True

/-- What may be done after what was done. -/
def Deed.Due (cfg : ConsumerConfig) (before : List Deed) : Deed → Prop
  | handed _ => Settled before
  -- The entry was handed over once more than work has begun for it.
  | begins e => Settled before ∧ (begun before ++ [e]).Subperm (Consumer.handed before)
  | ends e _ => before.getLast? = some (.begins e)
  | calls c => ¬ c.IsAck ∧ Settled before ∨
      ∃ e outcome, before.getLast? = some (.ends e (.ok outcome)) ∧ c = .ack cfg.stream cfg.group [e.id]

/-! ### One turn -/

theorem Phase.Free.rest {phase : Phase} (free : phase.Free) : phase.rest = [] := by
  cases phase <;> first | rfl | exact free.elim

/-- What has been done by the time a run waits in a phase. -/
structure Kept (cfg : ConsumerConfig) (ds : List Deed) (phase : Phase) : Prop where
  due : Throughout (Deed.Due cfg) ds
  /-- The run works exactly while the last thing done is to begin with it. -/
  place : match phase with
    | .working e _ => ds.getLast? = some (.begins e)
    | _ => Settled ds
  /-- What the run has in hand was handed over and not begun with yet. -/
  enough : (begun ds ++ phase.rest).Subperm (handed ds)

variable {ds : List Deed} {supply : List Entry}

theorem Kept.settled {phase : Phase} (h : Kept cfg ds phase) (idle : ∀ e origin, phase ≠ .working e origin) :
    Settled ds := by
  have place := h.place
  cases phase with
  | working e origin => exact absurd rfl (idle e origin)
  | _ => exact place

/-- Entries are handed over. -/
theorem due_hand (due : Throughout (Deed.Due cfg) ds) (settled : Settled ds) (es : List Entry) :
    Throughout (Deed.Due cfg) (ds ++ es.map .handed) ∧ Settled (ds ++ es.map .handed) := by
  induction es using List.reverseRecOn with
  | nil => simpa using ⟨due, settled⟩
  | append_singleton es e ih =>
    rw [List.map_append, ← List.append_assoc]
    exact ⟨ih.1.snoc ih.2, by simp [Settled]⟩

/-- The run moves on without acknowledging anything. -/
theorem kept_move {m : Move} (due : Throughout (Deed.Due cfg) ds) (settled : Settled ds)
    (goes : m.Goes cfg supply) (enough : (begun ds ++ supply).Subperm (handed ds)) :
    Kept cfg (ds ++ m.deeds) m.phase := by
  have fewer : (begun ds).Subperm (handed ds) := (List.sublist_append_left _ _).subperm.trans enough
  cases goes with
  | @works entry origin events some =>
    have all : (begun ds ++ entry :: origin.rest).Subperm (handed ds) :=
      ((List.subperm_append_left _).2 some).trans enough
    refine ⟨due.snoc ⟨settled, ?_⟩, by simp [Move.deeds], ?_⟩
    · exact (((List.cons_sublist_cons.2 (List.nil_sublist _)).append_left _).subperm).trans all
    · simpa [Move.deeds, begun, handed, Phase.rest] using all
  | @calls phase events c free names fetches =>
    have only : (Move.deeds ⟨phase, events, some c⟩) = [.calls c] := by
      cases phase <;> first | rfl | exact free.elim
    rw [only]
    refine ⟨due.snoc (.inl ⟨fetches.not_isAck, settled⟩), ?_, ?_⟩
    · cases phase <;> first | exact free.elim | simp [Settled]
    · simpa [begun, handed, free.rest] using fewer
  | @waits phase events quiet =>
    have free := quiet.free
    have nothing : (Move.deeds ⟨phase, events, none⟩) = [] := by
      cases phase <;> first | rfl | exact free.elim
    rw [nothing, List.append_nil]
    refine ⟨due, ?_, ?_⟩
    · cases phase <;> first | exact free.elim | exact settled
    · simpa [free.rest] using fewer

/-- **One turn** keeps the order of deeds. -/
theorem Kept.look {phase : Phase} {seen : Bool} {signal : Signal} (h : Kept cfg ds phase)
    (hears : phase.Hears seen signal) (before fired : Bool) :
    Kept cfg (ds ++ ((Turn.look phase before seen signal fired).told ++
      (step cfg me fired phase signal).deeds)) (step cfg me fired phase signal).phase := by
  rw [← List.append_assoc]
  -- Outside of work a run may be handed entries, and then it moves.
  have outside (idle : ∀ e origin, phase ≠ .working e origin)
      (told : (Turn.look phase before seen signal fired).told = signal.handed.map .handed) :
      Kept cfg (ds ++ (Turn.look phase before seen signal fired).told ++
        (step cfg me fired phase signal).deeds) (step cfg me fired phase signal).phase := by
    rw [told]
    obtain ⟨due, settled⟩ := due_hand h.due (h.settled idle) signal.handed
    refine kept_move due settled (goes_step hears fired fun e origin _ at_work => absurd at_work (idle e origin)) ?_
    have enough := h.enough
    simp only [begun, handed, List.filterMap_append, List.filterMap_map, Function.comp_def] at enough ⊢
    simp only [List.filterMap_none, List.filterMap_some, List.append_nil]
    exact (List.perm_append_comm_assoc _ _ _).subperm.trans
      (((List.subperm_append_left _).2 enough).trans List.perm_append_comm.subperm)
  cases phase with
  | working entry origin =>
    cases signal with
    | worked result =>
      have ended : (Turn.look (.working entry origin) before seen (.worked result) fired).told =
          [.ends entry result] := rfl
      have due := h.due.snoc (x := .ends entry result) h.place
      have enough : (begun (ds ++ [.ends entry result]) ++ origin.rest).Subperm
          (handed (ds ++ [.ends entry result])) := by
        simpa [begun, handed, Phase.rest] using h.enough
      rw [ended]
      match result with
      | .ok outcome =>
        refine ⟨due.snoc (.inr ⟨entry, outcome, by simp, rfl⟩), ?_, ?_⟩
        · simp [step, Move.deeds, Settled]
        · simpa [step, Move.deeds, begun, handed, Phase.rest] using enough
      | .error e =>
        refine kept_move due (by simp [Settled]) (goes_step hears fired ?_) enough
        simp
    | _ => exact hears.elim
  | _ => exact outside (by simp) rfl

/-- **The order of deeds**: in every course every deed is due when it is done. -/
theorem Course.kept {turns : List Turn} {phase : Phase} {before now : Bool}
    (course : Course cfg me turns phase before now) : Kept cfg (deeds cfg me turns) phase := by
  induction course with
  | start fired =>
    have enough : (begun [] ++ []).Subperm (handed []) := List.nil_subperm
    cases fired with
    | true => exact ⟨throughout_nil _, trivial, enough⟩
    | false =>
      have due : Throughout (Deed.Due cfg) ([] ++ [.calls (groupCall cfg)]) :=
        (throughout_nil _).snoc (.inl ⟨id, trivial⟩)
      exact ⟨due, trivial, enough⟩
  | fire _ ih => exact ih
  | look course hears later ih =>
    rw [deeds_snoc]
    exact ih.look hears _ _

/-! ### What the order says of acknowledgements -/

namespace Kept

variable {phase : Phase}

/-- An acknowledgement stands directly behind work that has ended well. -/
theorem ends_before_ack (h : Kept cfg ds phase) {before after : List Deed} {c : LogCall}
    (split : ds = before ++ .calls c :: after) (ack : c.IsAck) :
    ∃ earlier e outcome, before = earlier ++ [.begins e, .ends e (.ok outcome)] ∧
      c = .ack cfg.stream cfg.group [e.id] ∧ (begun earlier ++ [e]).Subperm (handed earlier) := by
  obtain ⟨other, -⟩ | ⟨e, outcome, last, named⟩ := h.due split
  · exact absurd ack other
  obtain ⟨ended, rfl⟩ := List.getLast?_eq_some_iff.1 last
  rw [List.append_assoc] at split
  obtain ⟨earlier, rfl⟩ := List.getLast?_eq_some_iff.1 (h.due split)
  rw [List.append_assoc] at split
  exact ⟨earlier, e, outcome, by simp, named, (h.due split).2⟩

/-- Work that has ended well is acknowledged at once. -/
theorem ack_behind_ends (h : Kept cfg ds phase) {before after : List Deed} {e : Entry} {outcome : WorkOutcome}
    (split : ds = before ++ .ends e (.ok outcome) :: after) :
    ∃ later, after = .calls (.ack cfg.stream cfg.group [e.id]) :: later := by
  cases after with
  | nil =>
    have place := h.place
    rw [split] at place
    cases phase <;> simp [Settled] at place
  | cons d later =>
    have split' : ds = (before ++ [.ends e (.ok outcome)]) ++ d :: later := by simpa using split
    have due := h.due split'
    cases d with
    | calls c =>
      obtain ⟨-, settled⟩ | ⟨e', outcome', last, named⟩ := due
      · simp [Settled] at settled
      · obtain ⟨rfl, -⟩ : e = e' ∧ outcome = outcome' := by simpa using last
        exact ⟨later, by rw [named]⟩
    | begins e' => simp [Deed.Due, Settled] at due
    | _ => simp [Deed.Due, Settled] at due

/-- Between two acknowledgements work is begun. -/
theorem begins_between_acks (h : Kept cfg ds phase) {before between after : List Deed} {c d : LogCall}
    (split : ds = before ++ .calls c :: between ++ .calls d :: after) (ack : d.IsAck) :
    ∃ e, .begins e ∈ between := by
  obtain ⟨earlier, e, outcome, behind, -⟩ := h.ends_before_ack split ack
  refine ⟨e, ?_⟩
  have behind : (before ++ [.calls c]) ++ between = earlier ++ [.begins e, .ends e (.ok outcome)] := by
    simpa using behind
  obtain ⟨more, -, within⟩ | ⟨more, front, back⟩ := List.append_eq_append_iff.1 behind
  · simp [within]
  · -- The earlier of the two calls is neither the beginning nor the end of work.
    match more with
    | [] =>
      rw [List.nil_append] at back
      simp [← back]
    | [d] =>
      have last := congrArg List.getLast? front
      simp at back last
      simp [← last] at back
    | [d, d'] =>
      have last := congrArg List.getLast? front
      simp at back last
      simp [← last] at back
    | _ :: _ :: _ :: _ => simp at back

end Kept

/-! ### On a log in memory -/

/-- An acknowledgement that counts an entry for a run is one of an entry whose work has ended well. -/
theorem Session.ends_of_counted {s : Store} {t : Stage} (session : Session cfg me s t) {a : Act}
    (ha : (.run, a) ∈ t.acts) {id : StreamId} (counted : id ∈ a.counted cfg.stream cfg.group) :
    ∃ e outcome, .ends e (.ok outcome) ∈ deeds cfg me t.turns ∧ e.id = id := by
  have started := session.started ha
  obtain ⟨before, after, split⟩ := List.append_of_mem started
  unfold Act.counted at counted
  split at counted
  · rename_i stream group ids call
    rw [call] at split
    obtain ⟨earlier, e, outcome, behind, named, -⟩ := session.course.kept.ends_before_ack split trivial
    obtain ⟨-, -, rfl⟩ : stream = cfg.stream ∧ group = cfg.group ∧ ids = [e.id] := by simpa using named
    refine ⟨e, outcome, by simp [split, behind], ?_⟩
    split at counted
    · exact (List.mem_singleton.1 (of_decide_eq_true (List.mem_filter.1 counted).2)).symm
    · exact absurd counted List.not_mem_nil
  · exact absurd counted List.not_mem_nil

/-- An entry that was handed to a run, with none of its work ended well, is pending unless another
client has acknowledged it since or a claim has dropped it since. -/
theorem Session.pending_of_unfinished {s : Store} {t : Stage} (session : Session cfg me s t) {e : Entry}
    (handed : .handed e ∈ deeds cfg me t.turns)
    (unfinished : ∀ e' outcome, .ends e' (.ok outcome) ∈ deeds cfg me t.turns → e'.id ≠ e.id) :
    ∃ (before : List (Party × Act)) (a : Act) (after : List (Party × Act)),
      t.acts = before ++ (.run, a) :: after ∧ e ∈ a.answered cfg.stream cfg.group ∧
      (e.id ∈ (t.store.pendingOf cfg.stream cfg.group).keys ∨
        (∃ b, (.other, b) ∈ after ∧ e.id ∈ b.counted cfg.stream cfg.group) ∨
        ∃ p b, (p, b) ∈ after ∧ e.id ∈ b.dropped cfg.stream cfg.group) := by
  obtain ⟨a, ha, given⟩ := session.answered_of_handed handed
  obtain ⟨before, after, split⟩ := List.append_of_mem ha
  refine ⟨before, a, after, split, given, ?_⟩
  obtain still | ⟨p, b, hb, counted | dropped⟩ :=
    session.pending_since split (a.pending_of_answered given)
  · exact .inl still
  · cases p with
    | other => exact .inr (.inl ⟨b, hb, counted⟩)
    | run =>
      have mine : (.run, b) ∈ t.acts := by simp [split, hb]
      obtain ⟨e', outcome, ended, same⟩ := session.ends_of_counted mine counted
      exact absurd same (unfinished e' outcome ended)
  · exact .inr (.inr ⟨p, b, hb, dropped⟩)

/-! ### The whole of it -/

/-- **Acknowledgements**: in every course of a run, on any log,

* every acknowledgement names one entry, and stands directly behind the end, with success, of the
  work for it; by then the run was handed the entry once more than it has begun work for it, so no
  hand-over is worked on or acknowledged twice;
* work that ends with success is followed at once by the acknowledgement of its entry, and between
  two acknowledgements other work is begun.

And on a log in memory, an entry that was handed to the run, and whose work has never ended with
success, has stayed pending since, unless another client has acknowledged it or a claim has found
it trimmed. -/
theorem acknowledges_finished_work (cfg : ConsumerConfig) (me : String) :
    (∀ turns phase before now, Course cfg me turns phase before now →
      (∀ (front : List Deed) (c : LogCall) (back : List Deed),
        deeds cfg me turns = front ++ .calls c :: back → c.IsAck →
        ∃ earlier e outcome, front = earlier ++ [.begins e, .ends e (.ok outcome)] ∧
          c = .ack cfg.stream cfg.group [e.id] ∧ (begun earlier ++ [e]).Subperm (handed earlier)) ∧
      (∀ (front : List Deed) (e : Entry) (outcome : WorkOutcome) (back : List Deed),
        deeds cfg me turns = front ++ .ends e (.ok outcome) :: back →
        ∃ later, back = .calls (.ack cfg.stream cfg.group [e.id]) :: later) ∧
      ∀ (front : List Deed) (c : LogCall) (between : List Deed) (d : LogCall) (back : List Deed),
        deeds cfg me turns = front ++ .calls c :: between ++ .calls d :: back →
        d.IsAck → ∃ e, .begins e ∈ between) ∧
    ∀ s t, Session cfg me s t → ∀ e, .handed e ∈ deeds cfg me t.turns →
      (∀ e' outcome, .ends e' (.ok outcome) ∈ deeds cfg me t.turns → e'.id ≠ e.id) →
      ∃ (before : List (Party × Act)) (a : Act) (after : List (Party × Act)),
        t.acts = before ++ (.run, a) :: after ∧ e ∈ a.answered cfg.stream cfg.group ∧
        (e.id ∈ (t.store.pendingOf cfg.stream cfg.group).keys ∨
          (∃ b, (.other, b) ∈ after ∧ e.id ∈ b.counted cfg.stream cfg.group) ∨
          ∃ p b, (p, b) ∈ after ∧ e.id ∈ b.dropped cfg.stream cfg.group) := by
  refine ⟨fun turns phase before now course => ⟨?_, ?_, ?_⟩, fun s t session e given unfinished => ?_⟩
  · intro front c back split ack
    exact course.kept.ends_before_ack split ack
  · intro front e outcome back split
    exact course.kept.ack_behind_ends split
  · intro front c between d back split ack
    exact course.kept.begins_between_acks split ack
  · exact session.pending_of_unfinished given unfinished

/-! ### Work that fails -/

/-- A log that holds one entry. -/
def oneJob : Store := (Store.empty.perform ⟨⟨0⟩, ⟨5000000⟩⟩ (.append "jobs" [] 10)).2

/-- The log when the run has created its group. -/
def oneJobGrouped : Store := (oneJob.perform ⟨⟨0⟩, ⟨0⟩⟩ (groupCall (config "jobs" "workers"))).2

/-- The run is handed the entry and fails at its work. -/
def failedOnce : Stage where
  store := (oneJobGrouped.perform ⟨⟨0⟩, ⟨0⟩⟩ (readCall (config "jobs" "workers") "ann")).2
  acts := [(.run, ⟨oneJob, ⟨⟨0⟩, ⟨0⟩⟩, groupCall (config "jobs" "workers")⟩),
    (.run, ⟨oneJobGrouped, ⟨⟨0⟩, ⟨0⟩⟩, readCall (config "jobs" "workers") "ann"⟩)]
  turns := [.start false, .look .creating false false (.created (.ok ())) false,
    .look (.replaying 0) false false (.replayed (.ok [])) false,
    .look .listening false false (.delivered (.ok [⟨⟨5, 0⟩, .empty⟩])) false,
    .look (.working ⟨⟨5, 0⟩, .empty⟩ (.fresh [])) false false (.worked (.error .generatorLost)) false]
  phase := .listening
  before := false
  fired := false

theorem session_failedOnce : Session (config "jobs" "workers") "ann" oneJob failedOnce := by
  have creating : Session (config "jobs" "workers") "ann" oneJob _ := .start false
  have created := creating.carryOut (c := groupCall (config "jobs" "workers")) List.mem_cons_self ⟨⟨0⟩, ⟨0⟩⟩
  have replaying := @Session.look _ _ _ _ (.created (.ok ())) false created rfl (absurd rfl) id
  have listening := @Session.look _ _ _ _ (.replayed (.ok [])) false replaying rfl (absurd rfl) id
  have read := listening.carryOut (c := readCall (config "jobs" "workers") "ann")
    (List.mem_of_mem_getLast? rfl) ⟨⟨0⟩, ⟨0⟩⟩
  have working := @Session.look _ _ _ _ (.delivered (.ok [⟨⟨5, 0⟩, .empty⟩])) false read rfl
    (fun _ => ⟨⟨oneJobGrouped, _, readCall (config "jobs" "workers") "ann"⟩,
      List.mem_cons_of_mem _ List.mem_cons_self, rfl⟩) id
  exact @Session.look _ _ _ _ (.worked (.error .generatorLost)) false working trivial (absurd rfl) id

/-- The entry is pending afterwards. -/
theorem acknowledges_finished_work_failedOnce :
    Session (config "jobs" "workers") "ann" oneJob failedOnce ∧
      .handed ⟨⟨5, 0⟩, .empty⟩ ∈ deeds (config "jobs" "workers") "ann" failedOnce.turns ∧
      ∃ before a after, failedOnce.acts = before ++ (.run, a) :: after ∧
        ⟨⟨5, 0⟩, .empty⟩ ∈ a.answered "jobs" "workers" ∧
        (⟨5, 0⟩ ∈ (failedOnce.store.pendingOf "jobs" "workers").keys ∨
          (∃ b, (.other, b) ∈ after ∧ ⟨5, 0⟩ ∈ b.counted "jobs" "workers") ∨
          ∃ p b, (p, b) ∈ after ∧ ⟨5, 0⟩ ∈ b.dropped "jobs" "workers") := by
  have all : deeds (config "jobs" "workers") "ann" failedOnce.turns =
      [.calls (groupCall (config "jobs" "workers")),
        .calls (replayCall (config "jobs" "workers") "ann" StreamId.zero),
        .calls (readCall (config "jobs" "workers") "ann"), .handed ⟨⟨5, 0⟩, .empty⟩,
        .begins ⟨⟨5, 0⟩, .empty⟩, .ends ⟨⟨5, 0⟩, .empty⟩ (.error .generatorLost),
        .calls (readCall (config "jobs" "workers") "ann")] := rfl
  have given : .handed ⟨⟨5, 0⟩, .empty⟩ ∈ deeds (config "jobs" "workers") "ann" failedOnce.turns := by
    simp [all]
  refine ⟨session_failedOnce, given, ?_⟩
  refine (acknowledges_finished_work (config "jobs" "workers") "ann").2 oneJob failedOnce session_failedOnce _
    given fun e outcome ended => ?_
  simp [all] at ended

end Consumer

end StreamQueue
