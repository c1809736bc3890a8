import StreamQueue.Proofs.Consumer.Course
import StreamQueue.Proofs.Log.Conservation

/-!
# A run on a log in memory

A run shares a log with other clients. Its calls are carried out some time after they have
started, or not at all, or even more than once, and calls of others come between them. Faults
are left open: whatever the run is told, only the entries that it is handed must be the answer
to one of its calls.

## What is proved

* `Session.course` — the turns of the run are a course.
* `Session.pending_since` — what is pending behind an act stays so until a later act counts or
  drops it.
* `Session.answered_of_handed` — what a run was handed was the answer to one of its own acts.
-/

namespace StreamQueue.Consumer

/-- Whose call is carried out. -/
inductive Party
  | run
  | other
  deriving DecidableEq, Repr

/-- How far a run and its log have got. -/
structure Stage where
  store : Store
  /-- The acts that were carried out, in order. -/
  acts : List (Party × Act)
  turns : List Turn
  phase : Phase
  /-- Whether the token had fired when the run began to wait. -/
  before : Bool
  /-- Whether the token has fired. -/
  fired : Bool

/-- The entries that a signal hands over are the answer to a call of the run. -/
def Signal.Honest (acts : List (Party × Act)) (signal : Signal) : Prop :=
  signal.handed ≠ [] → ∃ a, (.run, a) ∈ acts ∧ Signal.ofResult? a.call a.result = some signal

section

variable (cfg : ConsumerConfig) (me : String) (s : Store)

/-- The stages that a run may reach on a log that it finds as `s`. -/
inductive Session : Stage → Prop
  | start (fired : Bool) :
      Session ⟨s, [], [.start fired], (begin cfg me fired).phase, fired, fired⟩
  /-- The token fires. -/
  | fire {t : Stage} (session : Session t) : Session { t with fired := true }
  /-- The run is told something and moves. -/
  | look {t : Stage} {signal : Signal} {fired : Bool} (session : Session t)
      (hears : t.phase.Hears t.fired signal) (honest : signal.Honest t.acts) (later : t.fired → fired) :
      Session { t with
        turns := t.turns ++ [.look t.phase t.before t.fired signal fired]
        phase := (step cfg me fired t.phase signal).phase
        before := fired
        fired := fired }
  /-- A call that the run has started is carried out. -/
  | carryOut {t : Stage} {c : LogCall} (session : Session t) (started : .calls c ∈ deeds cfg me t.turns)
      (clock : Clock) : Session { t with
        store := (t.store.perform clock c).2
        acts := t.acts ++ [(.run, ⟨t.store, clock, c⟩)] }
  /-- A call of another client is carried out. -/
  | interfere {t : Stage} (session : Session t) (c : LogCall) (clock : Clock) : Session { t with
      store := (t.store.perform clock c).2
      acts := t.acts ++ [(.other, ⟨t.store, clock, c⟩)] }

end

variable {cfg : ConsumerConfig} {me : String} {s : Store} {t : Stage}

theorem Session.course (session : Session cfg me s t) : Course cfg me t.turns t.phase t.before t.fired := by
  induction session with
  | start fired => exact .start fired
  | fire _ ih => exact .fire ih
  | look _ hears _ later ih => exact .look ih hears later
  | carryOut _ _ _ ih | interfere _ _ _ ih => exact ih

/-- What was carried out for the run was started by it. -/
theorem Session.started (session : Session cfg me s t) {a : Act} (ha : (.run, a) ∈ t.acts) :
    .calls a.call ∈ deeds cfg me t.turns := by
  induction session with
  | start fired => simp at ha
  | fire _ ih => exact ih ha
  | look _ hears _ later ih => exact mem_deeds_snoc.2 (.inl (ih ha))
  | @carryOut t c _ started clock ih =>
    rcases List.mem_append.1 ha with old | new
    · exact ih old
    · obtain rfl : a = ⟨t.store, clock, c⟩ := by simpa using new
      exact started
  | interfere _ c clock ih =>
    rcases List.mem_append.1 ha with old | new
    · exact ih old
    · simp at new

/-- An entry is pending in a store, or one of some acts has counted or dropped it. -/
def Accounted (stream group : String) (id : StreamId) (now : Store) (acts : List (Party × Act)) : Prop :=
  id ∈ (now.pendingOf stream group).keys ∨
    ∃ p a, (p, a) ∈ acts ∧ (id ∈ a.counted stream group ∨ id ∈ a.dropped stream group)

variable {stream group : String} {id : StreamId}

theorem Accounted.next {acts : List (Party × Act)} {a : Act} (h : Accounted stream group id a.found acts)
    (p : Party) : Accounted stream group id a.left (acts ++ [(p, a)]) := by
  obtain pending | ⟨q, b, hb, gone⟩ := h
  · rcases a.pending_left pending with left | gone
    · exact .inl left
    · exact .inr ⟨p, a, by simp, gone⟩
  · exact .inr ⟨q, b, List.mem_append_left _ hb, gone⟩

/-- What is accounted for by all that has come behind an act is so after one more act. -/
theorem accounted_snoc {now : Store} {acts before after : List (Party × Act)} {p : Party} {a : Act}
    (pending : id ∈ (a.left.pendingOf stream group).keys)
    (ih : ∀ {before after : List (Party × Act)}, acts = before ++ (p, a) :: after →
      Accounted stream group id now after) (q : Party) (clock : Clock) (c : LogCall)
    (split : acts ++ [(q, ⟨now, clock, c⟩)] = before ++ (p, a) :: after) :
    Accounted stream group id (now.perform clock c).2 after := by
  rcases List.eq_nil_or_concat after with rfl | ⟨init, last, rfl⟩
  · obtain ⟨-, same⟩ := List.append_inj' split rfl
    obtain ⟨-, rfl⟩ : q = p ∧ ⟨now, clock, c⟩ = a := by simpa using same
    exact .inl pending
  · rw [List.concat_eq_append, ← List.cons_append, ← List.append_assoc] at split
    obtain ⟨old, same⟩ := List.append_inj' split rfl
    obtain rfl : (q, ⟨now, clock, c⟩) = last := by simpa using same
    rw [List.concat_eq_append]
    exact (ih old).next (a := ⟨now, clock, c⟩) q

/-- An act leaves pending what is pending behind it, until a later act counts or drops it. -/
theorem Session.pending_since (session : Session cfg me s t) {before after : List (Party × Act)}
    {p : Party} {a : Act} (split : t.acts = before ++ (p, a) :: after)
    (pending : id ∈ (a.left.pendingOf stream group).keys) :
    Accounted stream group id t.store after := by
  induction session generalizing before after with
  | start fired => simp at split
  | fire _ ih | look _ _ _ _ ih => exact ih split
  | carryOut _ _ clock ih => exact accounted_snoc pending ih .run clock _ split
  | interfere _ c clock ih => exact accounted_snoc pending ih .other clock c split

/-- What a signal hands over is what the call has answered. -/
theorem mem_answered_of_ofResult {c : LogCall} {result : c.Result} {signal : Signal}
    (told : Signal.ofResult? c result = some signal) (names : cfg.Names c) {e : Entry}
    (he : e ∈ signal.handed) : e ∈ c.answered cfg.stream cfg.group result := by
  cases c with
  | readNew | readPending | claim =>
    obtain rfl := Option.some.inj told
    cases result with
    | ok es =>
      obtain ⟨rfl, rfl⟩ := names
      simpa [LogCall.answered, Signal.handed] using he
    | error => exact absurd he List.not_mem_nil
  | createGroup | pendingEntries | ack =>
    obtain rfl := Option.some.inj told
    exact absurd he List.not_mem_nil
  | ping | append | pendingCount | len | rangeAfter | groups => exact absurd told (by simp [Signal.ofResult?])

/-- What the run was handed was the answer to one of its own acts. -/
theorem Session.answered_of_handed (session : Session cfg me s t) {e : Entry}
    (he : .handed e ∈ deeds cfg me t.turns) :
    ∃ a, (.run, a) ∈ t.acts ∧ e ∈ a.answered cfg.stream cfg.group := by
  induction session with
  | start fired => simp [deeds, Turn.told, Move.handed_notMem_deeds] at he
  | fire _ ih => exact ih he
  | @look t signal fired session hears honest later ih =>
    rcases mem_deeds_snoc.1 he with old | told | does
    · exact ih old
    · have given := Turn.handed_mem_told told
      obtain ⟨a, ha, answer⟩ := honest (List.ne_nil_of_mem given)
      exact ⟨a, ha, mem_answered_of_ofResult answer
        (session.course.names_of_calls (session.started ha)) given⟩
    · exact absurd does (Move.handed_notMem_deeds _ e)
  | carryOut _ _ _ ih | interfere _ _ _ ih =>
    obtain ⟨a, ha, given⟩ := ih he
    exact ⟨a, List.mem_append_left _ ha, given⟩

end StreamQueue.Consumer
