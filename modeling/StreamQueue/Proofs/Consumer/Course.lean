import StreamQueue.Consumer.Run
import Mathlib.Data.List.Perm.Subperm

/-!
# The course of a run

A run goes from turn to turn. It waits in a phase until it is told something, looks at what
it has been told, and moves. Between two turns anything may happen elsewhere, and the token
may fire, so what a run is told is left open as far as it can be: a call may come back with
any answer or any error, after any time, and the work may end in any way.

The token is read three times in a turn: when the wait begins, when the look begins, and when
the move is made. Once it has fired it stays so. A wait that heeds the token ends with it,
since it is looked at before anything else; the work heeds it likewise, and does not succeed
once it has fired. A wait that does not heed it ends with the result of its call alone.

## What is proved

* `goes_step` — apart from work that has succeeded, nothing that a run is told leads to an
  acknowledgement.
* `Course.names_of_calls` — a run makes no other calls than those on the stream and the group
  of its settings.
* `Consumer.Phase.hears_worked` — whatever the work of an entry comes to, a run may be told it.
-/

namespace StreamQueue

/-- Work that ends with the token fired has failed. -/
theorem Work.error_of_cancelled {source : ByteSource} {calls : Nat} {cancelled : Bool} {size : Int}
    (fired : (run source calls cancelled size).cancelled = true) :
    ∃ e, (run source calls cancelled size).result = .error e := by
  have rest (total calls : Nat) (hasher : Digest.Hasher) (remaining : Nat)
      (fired : (drawRest source total calls hasher remaining).cancelled = true) :
      ∃ e, (drawRest source total calls hasher remaining).result = .error e := by
    fun_induction drawRest source total calls hasher remaining with
    | case1 => exact Bool.noConfusion fired
    | case2 | case3 | case4 => exact ⟨_, rfl⟩
    | case5 =>
      rename_i ih
      exact ih fired
  unfold run at fired ⊢
  split
  · exact ⟨_, rfl⟩
  · split
    · exact ⟨_, rfl⟩
    · rename_i positive running
      rw [if_neg positive, if_neg running] at fired
      exact rest _ _ _ _ fired

/-- A call on the stream and the group that settings name. -/
def ConsumerConfig.Names (cfg : ConsumerConfig) : LogCall → Prop
  | .createGroup s g _ | .readNew s g _ _ _ | .readPending s g _ _ _ | .pendingEntries s g _ _ _
  | .claim s g _ _ _ | .ack s g _ => s = cfg.stream ∧ g = cfg.group
  | _ => False

/-- An acknowledgement. -/
def LogCall.IsAck : LogCall → Prop
  | .ack .. => True
  | _ => False

/-- A call by which a run comes by entries, or looks for some. -/
def LogCall.Fetches : LogCall → Prop
  | .readNew .. | .readPending .. | .pendingEntries .. | .claim .. => True
  | _ => False

theorem LogCall.Fetches.not_isAck {c : LogCall} (h : c.Fetches) : ¬ c.IsAck := by
  cases c <;> first | exact h.elim | exact id

namespace Consumer

/-! ### Turns -/

/-- A turn of a run. -/
inductive Turn
  /-- The run begins. The token is read when the first move is made. -/
  | start (fired : Bool)
  /-- The run has waited in a phase, is told something, and moves. The token is read when the
  wait begins, when the look begins, and when the move is made. -/
  | look (phase : Phase) (before seen : Bool) (signal : Signal) (fired : Bool)

/-- What a run may be told in a phase when the token has been `seen` to have fired or not. -/
def Phase.Hears (seen : Bool) : Phase → Signal → Prop
  | creating, .created _ | replaying _, .replayed _ | listening, .delivered _ | listening, .due
  | working .., .worked (.ok _) => seen = false
  | creating, .cancelled | replaying _, .cancelled | listening, .cancelled => seen = true
  | working .., .worked (.error _) | acking .., .acked _ | scanning _, .scanned _
  | claiming, .claimed _ => True
  | _, _ => False

/-- **Whatever the work of an entry comes to**, a run may be told it, with the token as the work has left it. -/
theorem Phase.hears_worked (e : Entry) (origin : Origin) (source : ByteSource) (calls : Nat) (cancelled : Bool)
    (size : Int) :
    let work := Work.run source calls cancelled size
    (working e origin).Hears work.cancelled (.worked work.result) := by
  intro work
  cases fired : work.cancelled with
  | false => cases work.result <;> trivial
  | true =>
    obtain ⟨_, failed⟩ := Work.error_of_cancelled fired
    rw [failed]
    trivial

section

variable (cfg : ConsumerConfig) (me : String)

/-- What the run does in a turn. -/
def Turn.move : Turn → Move
  | start fired => begin cfg me fired
  | look phase _ _ signal fired => step cfg me fired phase signal

/-- The courses that a run may have taken: its turns so far, the phase it waits in, whether
the token had fired when this wait began, and whether it has fired by now. -/
inductive Course : List Turn → Phase → Bool → Bool → Prop
  | start (fired : Bool) : Course [.start fired] (begin cfg me fired).phase fired fired
  /-- The token fires while the run waits. -/
  | fire {turns : List Turn} {phase : Phase} {before now : Bool} (course : Course turns phase before now) :
      Course turns phase before true
  /-- The run is told something. The token may fire before the move is made. -/
  | look {turns : List Turn} {phase : Phase} {before seen : Bool} {signal : Signal} {fired : Bool}
      (course : Course turns phase before seen) (hears : phase.Hears seen signal) (later : seen → fired) :
      Course (turns ++ [.look phase before seen signal fired]) (step cfg me fired phase signal).phase
        fired fired

/-! ### What a run does -/

/-- What concerns an entry in a run, and the calls that it makes. -/
inductive Deed
  /-- The log hands an entry to the run. -/
  | handed (entry : Entry)
  /-- The work for an entry begins. -/
  | begins (entry : Entry)
  /-- The work for an entry ends. -/
  | ends (entry : Entry) (result : Except WorkError WorkOutcome)
  /-- A call starts. -/
  | calls (c : LogCall)

end

/-- The entries that a signal hands over. -/
def Signal.handed : Signal → List Entry
  | replayed (.ok es) | delivered (.ok es) | claimed (.ok es) => es
  | _ => []

/-- What has happened by the time of a look. -/
def Turn.told : Turn → List Deed
  | start _ => []
  | look (.working entry _) _ _ (.worked result) _ => [.ends entry result]
  | look _ _ _ signal _ => signal.handed.map .handed

/-- What the run does as it moves. -/
def Move.deeds (m : Move) : List Deed :=
  (match m.phase with
    | .working entry _ => [.begins entry]
    | _ => []) ++ m.starts.toList.map .calls

/-- All that has happened in some turns, in order. -/
def deeds (cfg : ConsumerConfig) (me : String) (turns : List Turn) : List Deed :=
  turns.flatMap fun t => t.told ++ (t.move cfg me).deeds

theorem deeds_snoc (cfg : ConsumerConfig) (me : String) (turns : List Turn) (t : Turn) :
    deeds cfg me (turns ++ [t]) = deeds cfg me turns ++ (t.told ++ (t.move cfg me).deeds) := by
  rw [deeds, List.flatMap_append, List.flatMap_singleton, deeds]

theorem mem_deeds_snoc {cfg : ConsumerConfig} {me : String} {turns : List Turn} {t : Turn} {d : Deed} :
    d ∈ deeds cfg me (turns ++ [t]) ↔ d ∈ deeds cfg me turns ∨ d ∈ t.told ∨ d ∈ (t.move cfg me).deeds := by
  rw [deeds_snoc, List.mem_append, List.mem_append]

/-! ### What a move may be -/

/-- The entries that the run has in hand and has not begun with. -/
def Origin.rest : Origin → List Entry
  | replayed _ => []
  | fresh rest | claimed rest => rest

/-- The entries that the run has in hand and has not begun with. -/
def Phase.rest : Phase → List Entry
  | working _ origin | acking _ origin _ => origin.rest
  | _ => []

/-- The run is not busy with an entry. -/
def Phase.Free : Phase → Prop
  | working .. | acking .. => False
  | _ => True

/-- The run listens with a read that is out, or has stopped. -/
def Phase.Quiet : Phase → Prop
  | listening | stopped _ => True
  | _ => False

theorem Phase.Quiet.free {phase : Phase} (quiet : phase.Quiet) : phase.Free := by
  cases phase <;> trivial

section

variable (cfg : ConsumerConfig) (me : String)

/-- What a move may be that does not acknowledge anything, if the run has some entries in hand:
it begins with the first of them, or it fetches something, or it goes back to the read that is
out or stops. -/
inductive Move.Goes (supply : List Entry) : Move → Prop
  | works {entry : Entry} {origin : Origin} {events : List Event}
      (enough : (entry :: origin.rest).Subperm supply) : Goes supply ⟨.working entry origin, events, none⟩
  | calls {phase : Phase} {events : List Event} {c : LogCall} (free : phase.Free) (names : cfg.Names c)
      (fetches : c.Fetches) : Goes supply ⟨phase, events, some c⟩
  | waits {phase : Phase} {events : List Event} (quiet : phase.Quiet) : Goes supply ⟨phase, events, none⟩

variable {cfg me} {supply : List Entry}

theorem Move.Goes.behind {m : Move} (h : m.Goes cfg supply) (events : List Event) :
    (m.behind events).Goes cfg supply := by
  cases h with
  | works enough => exact .works enough
  | calls free names fetches => exact .calls free names fetches
  | waits quiet => exact .waits quiet

theorem goes_stop (reason : QueueError) : (stop me reason).Goes cfg supply := .waits trivial

theorem Move.Goes.unlessCancelled {m : Move} (h : m.Goes cfg supply) (cancelled : Bool) :
    (Consumer.unlessCancelled me cancelled m).Goes cfg supply := by
  cases cancelled with
  | false => exact h
  | true => exact goes_stop .cancelled

theorem goes_replay (cancelled : Bool) (after : StreamId) (n : Nat) :
    (replay cfg me cancelled after n).Goes cfg supply := by
  refine .unlessCancelled ?_ cancelled
  exact .calls trivial ⟨rfl, rfl⟩ trivial

theorem goes_listen (cancelled readIsOut : Bool) : (listen cfg me cancelled readIsOut).Goes cfg supply := by
  refine .unlessCancelled ?_ cancelled
  cases readIsOut with
  | true => exact .waits trivial
  | false => exact .calls trivial ⟨rfl, rfl⟩ trivial

theorem goes_nextClaimed (cancelled : Bool) {entries : List Entry} (enough : entries.Subperm supply) :
    (nextClaimed cfg me cancelled entries).Goes cfg supply := by
  cases entries with
  | nil => exact goes_listen cancelled true
  | cons e rest => exact .unlessCancelled (.works enough) cancelled

theorem goes_nextFresh (cancelled : Bool) {entries : List Entry} (enough : entries.Subperm supply) :
    (nextFresh cfg me cancelled entries).Goes cfg supply := by
  cases entries with
  | nil => exact goes_listen cancelled false
  | cons e rest => exact .works enough

theorem goes_proceed (cancelled : Bool) (entry : Entry) {origin : Origin}
    (enough : origin.rest.Subperm supply) : (proceed cfg me cancelled entry origin).Goes cfg supply := by
  cases origin with
  | replayed n => exact goes_replay cancelled entry.id (n + 1)
  | fresh rest => exact goes_nextFresh cancelled enough
  | claimed rest => exact goes_nextClaimed cancelled enough

theorem goes_fail (cancelled : Bool) (entry : Entry) {origin : Origin}
    (enough : origin.rest.Subperm supply) (e : QueueError) :
    (fail cfg me cancelled entry origin e).Goes cfg supply := by
  cases origin with
  | replayed n => exact goes_stop e
  | fresh rest => exact .behind (goes_nextFresh cancelled enough) _
  | claimed rest => exact .behind (goes_nextClaimed cancelled enough) _

theorem goes_claimFound (cancelled : Bool) (found : List StreamId) :
    (claimFound cfg me cancelled found).Goes cfg supply := by
  unfold claimFound
  split
  · exact goes_listen cancelled true
  · exact .calls trivial ⟨rfl, rfl⟩ trivial

theorem goes_scanned (cancelled : Bool) (found : List StreamId) (page : List PendingEntry) :
    (scanned cfg me cancelled found page).Goes cfg supply := by
  unfold scanned
  split
  · exact goes_claimFound cancelled found
  · simp only
    split
    · exact goes_claimFound cancelled _
    · exact .calls trivial ⟨rfl, rfl⟩ trivial

theorem goes_skipClaiming (cancelled : Bool) (e : LogError) :
    (skipClaiming cfg me cancelled e).Goes cfg supply := .behind (goes_listen cancelled true) _

/-- Apart from work that has succeeded, nothing that a run is told leads to an acknowledgement. -/
theorem goes_step {phase : Phase} {seen : Bool} {signal : Signal} (hears : phase.Hears seen signal)
    (fired : Bool)
    (other : ∀ entry origin outcome, phase = .working entry origin → signal ≠ .worked (.ok outcome)) :
    (step cfg me fired phase signal).Goes cfg (signal.handed ++ phase.rest) := by
  cases phase with
  | creating =>
    cases signal with
    | created result =>
      rw [step]
      split
      · exact goes_stop _
      · exact .behind (goes_replay fired _ _) _
    | cancelled => exact goes_stop _
    | _ => exact hears.elim
  | replaying n =>
    cases signal with
    | replayed result =>
      match result with
      | .error e => exact goes_stop _
      | .ok [] => exact .behind (goes_listen fired false) _
      | .ok (e :: es) => exact .works (List.singleton_sublist.2 List.mem_cons_self).subperm
    | cancelled => exact goes_stop _
    | _ => exact hears.elim
  | working entry origin =>
    have enough : origin.rest.Subperm (Phase.working entry origin).rest := (List.Sublist.refl _).subperm
    cases signal with
    | worked result =>
      match result with
      | .ok outcome => exact absurd rfl (other entry origin outcome rfl)
      | .error .cancelled => exact goes_stop _
      | .error (.size _) | .error (.generation _) | .error .generatorLost | .error (.digest _) =>
        exact goes_fail fired entry enough _
    | _ => exact hears.elim
  | acking entry origin outcome =>
    have enough : origin.rest.Subperm (Phase.acking entry origin outcome).rest :=
      (List.Sublist.refl _).subperm
    cases signal with
    | acked result =>
      match result with
      | .ok _ => exact .behind (goes_proceed fired entry enough) _
      | .error e => exact goes_fail fired entry enough _
    | _ => exact hears.elim
  | listening =>
    cases signal with
    | delivered result =>
      match result with
      | .ok es => exact goes_nextFresh fired (List.sublist_append_left es _).subperm
      | .error e => exact goes_stop _
    | due => exact .calls trivial ⟨rfl, rfl⟩ trivial
    | cancelled => exact goes_stop _
    | _ => exact hears.elim
  | scanning found =>
    cases signal with
    | scanned result =>
      match result with
      | .ok page => exact goes_scanned fired found page
      | .error e => exact goes_skipClaiming fired e
    | _ => exact hears.elim
  | claiming =>
    cases signal with
    | claimed result =>
      match result with
      | .ok [] => exact goes_listen fired true
      | .ok (e :: es) =>
        have enough : (inOrder (e :: es)).Subperm (e :: es ++ []) :=
          (List.append_nil (e :: es)).symm ▸ (List.mergeSort_perm _ _).subperm
        exact .behind (goes_nextClaimed fired enough) _
      | .error e => exact goes_skipClaiming fired e
    | _ => exact hears.elim
  | stopped reason => cases signal <;> exact hears.elim

/-- Work has succeeded, or the run moves on without acknowledging anything. -/
theorem worked_or_goes {phase : Phase} {seen : Bool} {signal : Signal} (hears : phase.Hears seen signal)
    (fired : Bool) :
    (∃ entry origin outcome, phase = .working entry origin ∧ signal = .worked (.ok outcome)) ∨
      (step cfg me fired phase signal).Goes cfg (signal.handed ++ phase.rest) := by
  by_cases well : ∃ entry origin outcome, phase = .working entry origin ∧ signal = .worked (.ok outcome)
  · exact .inl well
  · refine .inr (goes_step hears fired fun entry origin outcome at_work ended => ?_)
    exact well ⟨entry, origin, outcome, at_work, ended⟩

/-! ### The calls of a run -/

theorem Move.calls_mem_deeds {m : Move} {c : LogCall} : .calls c ∈ m.deeds ↔ m.starts = some c := by
  obtain ⟨phase, events, starts⟩ := m
  cases phase <;> simp [Move.deeds]

theorem Turn.calls_notMem_told (t : Turn) (c : LogCall) : .calls c ∉ t.told := by
  unfold Turn.told
  split <;> simp

theorem Turn.handed_mem_told {phase : Phase} {before seen : Bool} {signal : Signal} {fired : Bool} {e : Entry}
    (h : .handed e ∈ (Turn.look phase before seen signal fired).told) : e ∈ signal.handed := by
  unfold Turn.told at h
  split at h
  · simp at h
  · simp at h
  · rename_i told
    cases told
    simpa using h

theorem Move.handed_notMem_deeds (m : Move) (e : Entry) : .handed e ∉ m.deeds := by
  obtain ⟨phase, events, starts⟩ := m
  cases phase <;> simp [Move.deeds]

theorem Move.Goes.names {m : Move} (h : m.Goes cfg supply) {c : LogCall} (starts : m.starts = some c) :
    cfg.Names c := by
  cases h with
  | calls free names fetches => exact Option.some.inj starts ▸ names
  | works | waits => exact absurd starts (by simp)

theorem Move.Goes.fetches {m : Move} (h : m.Goes cfg supply) {c : LogCall} (starts : m.starts = some c) :
    c.Fetches := by
  cases h with
  | calls free names fetches => exact Option.some.inj starts ▸ fetches
  | works | waits => exact absurd starts (by simp)

theorem names_step {phase : Phase} {seen : Bool} {signal : Signal} (hears : phase.Hears seen signal)
    {fired : Bool} {c : LogCall} (starts : (step cfg me fired phase signal).starts = some c) : cfg.Names c := by
  obtain ⟨entry, origin, outcome, rfl, rfl⟩ | goes := worked_or_goes hears fired
  · obtain rfl : .ack cfg.stream cfg.group [entry.id] = c := Option.some.inj starts
    exact ⟨rfl, rfl⟩
  · exact goes.names starts

/-- A run makes no other calls than those on the stream and the group of its settings. -/
theorem Course.names_of_calls {turns : List Turn} {phase : Phase} {before now : Bool}
    (course : Course cfg me turns phase before now) {c : LogCall} (hc : .calls c ∈ deeds cfg me turns) :
    cfg.Names c := by
  induction course with
  | start fired =>
    have first : (begin cfg me fired).starts = some c :=
      Move.calls_mem_deeds.1 (by simpa [deeds, Turn.told, Turn.move] using hc)
    cases fired with
    | true => exact absurd first (by simp [begin, unlessCancelled, stop, Move.behind])
    | false =>
      obtain rfl : groupCall cfg = c := Option.some.inj first
      exact ⟨rfl, rfl⟩
  | fire _ ih => exact ih hc
  | @look turns phase before seen signal fired _ hears _ ih =>
    rcases mem_deeds_snoc.1 hc with old | told | does
    · exact ih old
    · exact absurd told (Turn.calls_notMem_told _ c)
    · exact names_step hears (Move.calls_mem_deeds.1 does)

end

end Consumer

end StreamQueue
