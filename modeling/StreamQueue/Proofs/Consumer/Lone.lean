import StreamQueue.Proofs.Consumer.Discipline
import StreamQueue.Proofs.Consumer.Session
import StreamQueue.Proofs.Log.Listing

/-!
# A run alone with its log

A run that shares its log with nobody and that nobody cancels. Every call that it starts is
carried out before anything else happens, so what it comes to depends on the log that it finds,
on what the clocks show, and on which of its works and acknowledgements fail. `Circumstances` are
these last two, and `Lone.next` is the one thing that can happen next.

A refused acknowledgement has not touched the log. A read that finds no new entry waits, and as
nobody appends any, that is where the run stays.

## What is proved

* `Lone.session` — a lone run is one of the runs on a log in memory that have no company.
* `Lone.roomy_of_reaches` — its log goes on with a history that appends nothing.
* `comesTo_of_well`, `comesTo_of_failure` — what becomes of an entry in hand.
-/

namespace StreamQueue

attribute [local instance] StreamId.linearOrder

namespace Consumer

/-! ### What a lone run meets -/

/-- What a lone run meets. -/
structure Circumstances where
  /-- What the clocks show when a run has taken so many turns. -/
  clock : Nat → Clock
  /-- How the work for an entry ends. -/
  work : StreamId → Except WorkError WorkOutcome
  /-- The refusal of the acknowledgement of an entry, if it is refused. -/
  refusal : StreamId → Option LogError
  /-- No work is cancelled. -/
  uncancelled : ∀ id, work id ≠ .error .cancelled

namespace Circumstances

variable (c : Circumstances) (cfg : ConsumerConfig)

/-- Why the run does not get an entry done, if it does not. -/
def failure? (id : StreamId) : Option QueueError :=
  match c.work id with
  | .error e => some (.processing id e)
  | .ok _ => (c.refusal id).map (.ack id)

/-- The acknowledgement that the run asks for behind the work for an entry. -/
def asked (id : StreamId) : List LogCall :=
  match c.work id with
  | .error _ => []
  | .ok _ => [.ack cfg.stream cfg.group [id]]

/-- The refusal of the call that is out in a phase, if it is refused. -/
def refused : Phase → Option LogError
  | .acking e _ _ => c.refusal e.id
  | _ => none

end Circumstances

/-- How far a lone run has got. -/
structure Lone where
  store : Store
  turns : List Turn
  phase : Phase
  /-- The call that is to be carried out. -/
  out : Option LogCall

namespace Lone

variable (cfg : ConsumerConfig) (me : String) (c : Circumstances) (s : Store)

/-- A run that has begun. -/
def start : Lone := ⟨s, [.start false], (begin cfg me false).phase, (begin cfg me false).starts⟩

/-- The run is told something and moves. -/
def told (t : Lone) (left : Store) (signal : Signal) : Lone :=
  let m := step cfg me false t.phase signal
  ⟨left, t.turns ++ [.look t.phase false false signal false], m.phase, m.starts⟩

/-- A call is carried out and answered. A read that finds nothing waits. -/
def answered (t : Lone) (call : LogCall) : Option Lone :=
  let r := t.store.perform (c.clock t.turns.length) call
  match Signal.ofResult? call r.1 with
  | none => none
  | some (.delivered (.ok [])) => some { t with store := r.2, out := none }
  | some signal => some (t.told cfg me r.2 signal)

/-- What happens next. -/
def next (t : Lone) : Option Lone :=
  match t.phase with
  | .working e _ => some (t.told cfg me t.store (.worked (c.work e.id)))
  | phase => t.out.bind fun call => match c.refused phase with
    | some e => some (t.told cfg me t.store (.acked (.error e)))
    | none => t.answered cfg me c call

/-- The run gets from one moment to another. -/
def Reaches : Lone → Lone → Prop := Relation.ReflTransGen fun t u => t.next cfg me c = some u

end Lone

/-! ### A lone run is a run -/

/-- What a run has out in a phase, if everything before was answered. -/
def Phase.Awaits : Phase → Option LogCall → Prop
  | creating, some (.createGroup ..) | replaying _, some (.readPending ..) | working .., none
  | acking .., some (.ack ..) | listening, none | listening, some (.readNew ..)
  | scanning _, some (.pendingEntries ..) | claiming, some (.claim ..) | stopped _, none => True
  | _, _ => False

theorem Phase.Leads.awaits {cfg : ConsumerConfig} {me : String} {fired : Bool} {phase phase' : Phase}
    {signal : Signal} {starts : Option LogCall} (leads : phase.Leads cfg me fired signal phase' starts) :
    phase'.Awaits starts := by
  cases leads <;> trivial

/-- The answer of the call that a run has out is something that it waits for. -/
theorem Phase.Awaits.hears {phase : Phase} {call : LogCall} (awaits : phase.Awaits (some call))
    {r : call.Result} {signal : Signal} (told : Signal.ofResult? call r = some signal) :
    phase.Hears false signal := by
  cases call with
  | createGroup | readPending | ack | readNew | pendingEntries | claim =>
    obtain rfl := Option.some.inj told
    cases phase <;> trivial
  | _ => cases told

namespace Lone

variable {cfg : ConsumerConfig} {me : String} {c : Circumstances} {s : Store} {t u : Lone}

/-- The call that is out is carried out, and the run is told the answer, or its read waits. -/
def Carries (cfg : ConsumerConfig) (me : String) (c : Circumstances) (t u : Lone) : Prop :=
  ∃ call signal, t.out = some call ∧
    Signal.ofResult? call (t.store.perform (c.clock t.turns.length) call).1 = some signal ∧
    (u = t.told cfg me (t.store.perform (c.clock t.turns.length) call).2 signal ∨
      u = { t with store := (t.store.perform (c.clock t.turns.length) call).2, out := none } ∧
        signal = .delivered (.ok []))

/-- First of all the group is created. -/
theorem next_start {r : (groupCall cfg).Result} {left : Store}
    (performs : s.perform (c.clock 1) (groupCall cfg) = (r, left)) :
    (start cfg me s).next cfg me c = some ((start cfg me s).told cfg me left (.created r)) := by
  obtain ⟨rfl, rfl⟩ := Prod.mk.inj performs
  rfl

/-- A call that is not refused is carried out, and the run is told the answer, unless it is that of
a read that finds nothing. -/
theorem next_answered {turns : List Turn} {phase : Phase} {call : LogCall} {r : call.Result} {left : Store}
    {signal : Signal} (asks : phase.Awaits (some call)) (granted : c.refused phase = none)
    (performs : s.perform (c.clock turns.length) call = (r, left))
    (answer : Signal.ofResult? call r = some signal) (news : signal ≠ .delivered (.ok [])) :
    let t : Lone := ⟨s, turns, phase, some call⟩
    t.next cfg me c = some (t.told cfg me left signal) := by
  intro t
  have answers : t.answered cfg me c call = some (t.told cfg me left signal) := by
    simp only [answered, t, performs, answer]
  cases phase with
  | working => exact asks.elim
  | _ => simp only [next, t, Option.bind_some, granted, answers]

theorem carries_of_answered {call : LogCall} (out : t.out = some call)
    (answers : t.answered cfg me c call = some u) : t.Carries cfg me c u := by
  rw [answered] at answers
  split at answers
  · cases answers
  · rename_i told
    exact ⟨call, _, out, told, .inr ⟨(Option.some.inj answers).symm, rfl⟩⟩
  · rename_i signal _ told
    exact ⟨call, signal, out, told, .inl (Option.some.inj answers).symm⟩

/-- What can happen next: the run is told something that the log has no part in, or its call is
carried out. -/
theorem next_cases (next : t.next cfg me c = some u) :
    (∃ signal, u = t.told cfg me t.store signal ∧ signal.handed = [] ∧
      (t.phase.Awaits t.out → t.phase.Hears false signal)) ∨ t.Carries cfg me c u := by
  obtain ⟨store, turns, phase, out⟩ := t
  cases phase with
  | working entry origin =>
    obtain rfl := Option.some.inj next
    refine .inl ⟨_, rfl, rfl, fun _ => ?_⟩
    cases c.work entry.id with
    | ok outcome => rfl
    | error e => trivial
  | acking entry origin outcome =>
    obtain ⟨call, out, next⟩ := Option.bind_eq_some_iff.1 next
    cases refused : c.refusal entry.id with
    | some e =>
      simp only [Circumstances.refused, refused] at next
      obtain rfl := Option.some.inj next
      exact .inl ⟨_, rfl, rfl, fun _ => trivial⟩
    | none =>
      simp only [Circumstances.refused, refused] at next
      exact .inr (carries_of_answered out next)
  | creating | replaying | listening | scanning | claiming | stopped =>
    obtain ⟨call, out, next⟩ := Option.bind_eq_some_iff.1 next
    exact .inr (carries_of_answered out next)

/-- A lone run has out what its phase waits for, and it is a run on a log in memory. -/
structure Sound (cfg : ConsumerConfig) (me : String) (s : Store) (t : Lone) : Prop where
  awaits : t.phase.Awaits t.out
  started : ∀ call, t.out = some call → .calls call ∈ deeds cfg me t.turns
  session : ∃ acts, Session cfg me s ⟨t.store, acts, t.turns, t.phase, false, false⟩

theorem sound_start : (start cfg me s).Sound cfg me s where
  awaits := trivial
  started := by
    rintro call ⟨⟩
    exact List.mem_cons_self
  session := ⟨[], .start false⟩

/-- What is said and what was carried out before make a turn of a run. -/
theorem sound_told {left : Store} {acts : List (Party × Act)} {signal : Signal}
    (session : Session cfg me s ⟨left, acts, t.turns, t.phase, false, false⟩)
    (hears : t.phase.Hears false signal) (honest : signal.Honest acts) :
    (t.told cfg me left signal).Sound cfg me s where
  awaits := (leads_step cfg me false hears).awaits
  started := by
    intro call starts
    exact mem_deeds_snoc.2 (.inr (.inr (Move.calls_mem_deeds.2 starts)))
  session := ⟨acts, session.look hears honest id⟩

theorem Sound.next (sound : t.Sound cfg me s) (next : t.next cfg me c = some u) : u.Sound cfg me s := by
  obtain ⟨acts, session⟩ := sound.session
  obtain ⟨signal, rfl, nothing, hears⟩ | ⟨call, signal, out, told, which⟩ := next_cases next
  · exact sound_told session (hears sound.awaits) fun handed => absurd nothing handed
  · have carried := session.carryOut (sound.started call out) (c.clock t.turns.length)
    obtain rfl | ⟨rfl, rfl⟩ := which
    · refine sound_told carried ((out ▸ sound.awaits).hears told) fun _ => ?_
      exact ⟨_, List.mem_append_right _ List.mem_cons_self, told⟩
    · refine ⟨?_, by simp, _, carried⟩
      have awaits := sound.awaits
      rw [out] at awaits
      have hears := awaits.hears told
      cases phase : t.phase with
      | listening => trivial
      | _ => exact (phase ▸ hears).elim

/-- **A lone run** is one of the runs on a log in memory. -/
theorem session (reaches : (start cfg me s).Reaches cfg me c t) :
    ∃ acts, Session cfg me s ⟨t.store, acts, t.turns, t.phase, false, false⟩ := by
  suffices sound : t.Sound cfg me s from sound.session
  induction reaches with
  | refl => exact sound_start
  | tail _ next ih => exact ih.next next

/-- What a run is answered is no answer to an append. -/
theorem hasRoom_of_told {call : LogCall} {r : call.Result} {signal : Signal} (s : Store) (clock : Clock)
    (told : Signal.ofResult? call r = some signal) : (⟨s, clock, call⟩ : Act).HasRoom := by
  cases call with
  | append => cases told
  | _ => trivial

/-- The log of a lone run goes on with a history that appends nothing. -/
theorem roomy_of_reaches (reaches : t.Reaches cfg me c u) :
    ∃ ds, u.store = t.store.afterAll ds ∧ t.store.Roomy ds := by
  induction reaches with
  | refl => exact ⟨[], rfl, by simp [Store.Roomy, Store.history]⟩
  | @tail v w _ next ih =>
    obtain ⟨ds, left, room⟩ := ih
    obtain ⟨signal, rfl, -, -⟩ | ⟨call, signal, -, told, which⟩ := next_cases next
    · exact ⟨ds, left, room⟩
    · refine ⟨ds ++ [⟨c.clock v.turns.length, call⟩], ?_, ?_⟩
      · rw [Store.afterAll_append, ← left]
        obtain rfl | ⟨rfl, -⟩ := which <;> rfl
      · intro a ha
        rw [Store.history_append] at ha
        rcases List.mem_append.1 ha with old | new
        · exact room a old
        · rw [List.mem_singleton.1 new]
          exact hasRoom_of_told _ _ told

end Lone

/-- A lone run gets from one moment to another, and starts some calls and the work for some
entries on its way. -/
structure ComesTo (cfg : ConsumerConfig) (me : String) (c : Circumstances) (t u : Lone)
    (made : List LogCall) (works : List Entry) : Prop where
  reaches : t.Reaches cfg me c u
  calls_eq : calls (record cfg me u.turns) = calls (record cfg me t.turns) ++ made
  undertaken_eq : undertaken (record cfg me u.turns) = undertaken (record cfg me t.turns) ++ works

section

variable {cfg : ConsumerConfig} {me : String} {c : Circumstances} {t u v : Lone}
  {made made' : List LogCall} {works works' : List Entry}

theorem ComesTo.refl (t : Lone) : ComesTo cfg me c t t [] [] :=
  ⟨.refl, (List.append_nil _).symm, (List.append_nil _).symm⟩

theorem ComesTo.trans (first : ComesTo cfg me c t u made works) (second : ComesTo cfg me c u v made' works') :
    ComesTo cfg me c t v (made ++ made') (works ++ works') where
  reaches := first.reaches.trans second.reaches
  calls_eq := by rw [second.calls_eq, first.calls_eq, List.append_assoc]
  undertaken_eq := by rw [second.undertaken_eq, first.undertaken_eq, List.append_assoc]

theorem Move.calls_marks (m : Move) : calls m.marks = m.starts.toList := by
  have begun : calls (m.phase.begins.map .begins) = [] := List.filterMap_eq_nil_iff.2 (by simp [Mark.call?])
  rw [marks, calls_append, begun, List.nil_append, calls, List.filterMap_map]
  exact List.filterMap_some

theorem Move.undertaken_marks (m : Move) : undertaken m.marks = m.phase.begins := by
  rw [marks, undertaken_append, undertaken_begins, undertaken_calls, List.append_nil]

theorem Lone.calls_told (t : Lone) (left : Store) (signal : Signal) :
    calls (record cfg me (t.told cfg me left signal).turns) =
      calls (record cfg me t.turns) ++ (step cfg me false t.phase signal).starts.toList := by
  rw [told, record_snoc, calls_append]
  exact congrArg _ (Move.calls_marks _)

theorem Lone.undertaken_told (t : Lone) (left : Store) (signal : Signal) :
    undertaken (record cfg me (t.told cfg me left signal).turns) =
      undertaken (record cfg me t.turns) ++ (step cfg me false t.phase signal).phase.begins := by
  rw [told, record_snoc, undertaken_append]
  exact congrArg _ (Move.undertaken_marks _)

/-- A turn, with the call and the work that it starts. -/
theorem comesTo_told {left : Store} (signal : Signal) {m : Move}
    (next : t.next cfg me c = some (t.told cfg me left signal))
    (moves : step cfg me false t.phase signal = m) :
    ComesTo cfg me c t ⟨left, t.turns ++ [.look t.phase false false signal false], m.phase, m.starts⟩
      m.starts.toList m.phase.begins := by
  subst moves
  exact ⟨.single next, t.calls_told left signal, t.undertaken_told left signal⟩

/-! ### An entry in hand -/

theorem work_eq_ok {entry : Entry} (well : c.failure? entry.id = none) :
    (∃ outcome, c.work entry.id = .ok outcome) ∧ c.refusal entry.id = none := by
  unfold Circumstances.failure? at well
  cases worked : c.work entry.id with
  | error e => simp [worked] at well
  | ok outcome => exact ⟨⟨outcome, rfl⟩, by simpa [worked] using well⟩

variable (cfg me) (s : Store) (st : Stream) (g : Group) (turns : List Turn) (entry : Entry)
  (origin : Origin)

/-- The work for an entry succeeds, and its acknowledgement is out. -/
theorem comesTo_acking {outcome : WorkOutcome} (worked : c.work entry.id = .ok outcome) :
    ComesTo cfg me c ⟨s, turns, .working entry origin, none⟩
      ⟨s, turns ++ [.look (.working entry origin) false false (.worked (.ok outcome)) false],
        .acking entry origin outcome, some (.ack cfg.stream cfg.group [entry.id])⟩
      [.ack cfg.stream cfg.group [entry.id]] [] :=
  comesTo_told (.worked (.ok outcome)) (m := ⟨_, [], _⟩) (by simp [Lone.next, worked]) rfl

/-- **An entry is done**: it is acknowledged, and the run goes on. -/
theorem comesTo_of_well (well : c.failure? entry.id = none) :
    let m := proceed cfg me false entry origin
    ∃ turns', ComesTo cfg me c
      ⟨s.putGroup cfg.stream st cfg.group g, turns, .working entry origin, none⟩
      ⟨s.putGroup cfg.stream st cfg.group (g.acknowledgeAll [entry.id]).2, turns', m.phase, m.starts⟩
      (.ack cfg.stream cfg.group [entry.id] :: m.starts.toList) m.phase.begins := by
  intro m
  obtain ⟨⟨outcome, worked⟩, granted⟩ := work_eq_ok well
  have asks := comesTo_acking cfg me (s.putGroup cfg.stream st cfg.group g) turns entry origin worked
  refine ⟨_, asks.trans (comesTo_told (.acked (.ok (g.acknowledgeAll [entry.id]).1))
    (m := m.behind [.processed me entry.id outcome.digest]) ?_ rfl)⟩
  exact Lone.next_answered trivial granted (s.perform_ack ..) rfl (by simp)

/-- **An entry is not done**: the log is as it was, and the run goes on or ends. -/
theorem comesTo_of_failure {e : QueueError} (fails : c.failure? entry.id = some e) :
    let m := fail cfg me false entry origin e
    ∃ turns', ComesTo cfg me c ⟨s, turns, .working entry origin, none⟩ ⟨s, turns', m.phase, m.starts⟩
      (c.asked cfg entry.id ++ m.starts.toList) m.phase.begins := by
  intro m
  unfold Circumstances.failure? at fails
  cases worked : c.work entry.id with
  | error error =>
    obtain rfl : .processing entry.id error = e := by simpa [worked] using fails
    have running : error ≠ .cancelled := fun same => c.uncancelled entry.id (same ▸ worked)
    have asked : c.asked cfg entry.id = [] := by simp only [Circumstances.asked, worked]
    rw [asked, List.nil_append]
    refine ⟨_, comesTo_told (.worked (.error error)) (by simp only [Lone.next, worked]) ?_⟩
    cases error with
    | cancelled => exact absurd rfl running
    | size | generation | generatorLost | digest => rfl
  | ok outcome =>
    obtain ⟨error, refused, rfl⟩ : ∃ error, c.refusal entry.id = some error ∧ .ack entry.id error = e := by
      simpa [worked, Option.map_eq_some_iff] using fails
    have asked : c.asked cfg entry.id = [.ack cfg.stream cfg.group [entry.id]] := by
      simp only [Circumstances.asked, worked]
    rw [asked]
    have asks := comesTo_acking cfg me s turns entry origin worked
    refine ⟨_, asks.trans (comesTo_told (.acked (.error error)) ?_ rfl)⟩
    simp only [Lone.next, Option.bind_some, Circumstances.refused, refused]

end

end Consumer

end StreamQueue
