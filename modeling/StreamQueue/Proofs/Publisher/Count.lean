import StreamQueue.Proofs.Publisher.Sequence

/-!
# The backlog on a log that is hindered

To count what a group has before it a publisher makes three calls under one deadline. If one of them is
refused, or if all of them together take too long, nothing is counted; otherwise the number is exact.
The look leaves the log as it is in either case, and it always ends, since it stands under a deadline.

## What is proved

* `Publisher.looking_backlog` — a look at the backlog only looks.
* `Publisher.passing_backlog` — what it comes to if the calls on the log in memory are hindered.
-/

namespace StreamQueue

attribute [local instance] StreamId.linearOrder

namespace Publisher

open Job

variable {α : Type} {p : PublisherConfig} {group : String} {hitches : Nat → Hitch} {i : Nat} {s : Store}

/-! ### A look at the backlog only looks -/

theorem looking_timed {job : Job (Except QueueError α)}
    (looking : Looking s true (job.bind fun r => disarm (.done r))) : Looking s false (timed p job) := by
  rw [timed_eq]
  exact .arm (.done _) looking

/-- The pending ones are counted with one call, if the others could be counted. -/
theorem looking_countPending (p : PublisherConfig) (group : String) (fresh : Except QueueError Nat) :
    Looking s true ((countPending p group fresh).bind fun r => disarm (.done r)) := by
  cases fresh with
  | error e => exact .disarm (.done _)
  | ok fresh =>
    refine .call (fun _ _ => rfl) ?_
    intro r
    cases r <;> exact .disarm (.done _)

/-- **A look at the backlog** leaves the log as it is. -/
theorem looking_backlog (p : PublisherConfig) (group : String) (s : Store) :
    Looking s false (backlog p group) := by
  rw [backlog_eq]
  refine looking_timed (.call (fun _ _ => rfl) ?_)
  intro r
  cases r with
  | error e => exact .disarm (.done _)
  | ok groups =>
    simp only [countFor]
    cases groups.find? fun info => info.name == group with
    | none => exact .disarm (.done _)
    | some info =>
      simp only [undelivered]
      cases info.neverRead with
      | true => exact .call (fun _ _ => rfl) fun r => looking_countPending p group (r.mapError .log)
      | false =>
        exact .call (fun _ _ => rfl) fun r => looking_countPending p group ((r.mapError .log).map List.length)

/-! ### What is made of the answers -/

/-- Three calls, from the `i`-th on, get through to the log, and all together in time. -/
def Heard (hitches : Nat → Hitch) (i : Nat) (limit : Span) : Prop :=
  (∀ k < 3, (hitches (i + k)).refusal = none) ∧ ∃ d, elapsed (held hitches i) 3 = some d ∧ d ≤ limit

section Shown

variable {k : Nat} {c : LogCall}

theorem shown_of_none (allowed : (hitches (i + k)).refusal = none) :
    shown hitches i s k c = (s.perform ⟨.zero, ⟨0⟩⟩ c).1 := by
  rw [shown, Hitch.outcome, allowed]

theorem refusal_of_shown {r : c.Answer} (fine : shown hitches i s k c = .ok r) :
    (hitches (i + k)).refusal = none := by
  cases refusal : (hitches (i + k)).refusal with
  | none => rfl
  | some e =>
    rw [shown, Hitch.outcome, refusal] at fine
    cases fine

end Shown

/-- What is counted past the cursor of a group was not refused. -/
theorem refusal_of_counts {info : GroupInfo} {c : LogCall} {fresh : Nat}
    (counts : Counts p (shown hitches i s) info c (.ok fresh)) : (hitches (i + 1)).refusal = none := by
  generalize counted : Except.ok fresh = r at counts
  cases counts with
  | all never => exact refusal_of_shown counted.symm
  | past before =>
    cases told : shown hitches i s 1 (.rangeAfter p.stream info.lastDelivered) with
    | error e =>
      rw [told] at counted
      cases counted
    | ok entries => exact refusal_of_shown told

/-- If it was not refused, what is past the cursor is counted. -/
theorem counted_of_counts {info : GroupInfo} {c : LogCall} {r : Except LogError Nat}
    (allowed : (hitches (i + 1)).refusal = none) (whole : s.rangeAfter p.stream .zero = s.entries p.stream)
    (counts : Counts p (shown hitches i s) info c r) :
    r = .ok (s.rangeAfter p.stream info.lastDelivered).length := by
  cases counts with
  | all never =>
    rw [shown_of_none allowed, never, whole]
    rfl
  | past before =>
    rw [shown_of_none allowed]
    rfl

variable {calls : List LogCall} {result : Except QueueError Nat}

/-- Only if no call is refused there is a number. -/
theorem allowed_of_looks {n : Nat} (looks : Looks p group (shown hitches i s) calls (.ok n)) :
    calls.length = 3 ∧ ∀ k < 3, (hitches (i + k)).refusal = none := by
  generalize counted : Except.ok n = r at looks
  cases looks with
  | hidden | unlisted | uncounted | refused => cases counted
  | counted first listed second third =>
    refine ⟨rfl, ?_⟩
    intro k three
    interval_cases k
    · exact refusal_of_shown first
    · exact refusal_of_counts second
    · exact refusal_of_shown third

/-- There is no number for a group that is not there. -/
theorem error_of_looks (missing : (s.view p.stream group).group = none)
    (looks : Looks p group (shown hitches i s) calls result) : ∃ e, result = .error e := by
  cases looks with
  | hidden | unlisted | uncounted | refused => exact ⟨_, rfl⟩
  | counted first listed second third =>
    rw [shown_of_none (refusal_of_shown first)] at first
    rcases find_group_none missing with refused | ⟨groups, present, unlisted⟩
    · rw [Store.perform, refused] at first
      cases first
    · rw [Store.perform, present] at first
      cases first
      rw [unlisted] at listed
      cases listed

/-- If no call is refused the number is exact. -/
theorem counted_of_looks (allowed : ∀ k < 3, (hitches (i + k)).refusal = none)
    (whole : s.rangeAfter p.stream .zero = s.entries p.stream) {g : Group}
    (there : (s.view p.stream group).group = some g)
    (looks : Looks p group (shown hitches i s) calls result) :
    calls.length = 3 ∧ result = .ok ((s.rangeAfter p.stream g.cursor).length + g.pending.size) := by
  obtain ⟨groups, info, is, found, cursor⟩ := find_group there
  have first : shown hitches i s 0 (.groups p.stream) = .ok groups := by
    rw [shown_of_none (allowed 0 (by decide))]
    exact is
  have third : shown hitches i s 2 (.pendingCount p.stream group) = .ok g.pending.size := by
    rw [shown_of_none (allowed 2 (by decide))]
    exact pendingCount_of_group there
  have second {c : LogCall} {r : Except LogError Nat} (counts : Counts p (shown hitches i s) info c r) :
      r = .ok (s.rangeAfter p.stream g.cursor).length := by
    rw [← cursor]
    exact counted_of_counts (allowed 1 (by decide)) whole counts
  have same {groups' : List GroupInfo} {info' : GroupInfo}
      (first' : shown hitches i s 0 (.groups p.stream) = .ok groups')
      (listed : groups'.find? (fun info => info.name == group) = some info') : info' = info := by
    rw [first] at first'
    cases first'
    exact Option.some.inj (listed.symm.trans found)
  cases looks with
  | hidden first' => cases first.symm.trans first'
  | unlisted first' missing =>
    cases first.symm.trans first'
    have named := List.find?_some found
    exact absurd (beq_iff_eq.1 named) (missing info (List.mem_of_find?_eq_some found))
  | uncounted first' listed counts =>
    rw [same first' listed] at counts
    cases second counts
  | refused first' listed counts third' => cases third.symm.trans third'
  | counted first' listed counts third' =>
    rw [same first' listed] at counts
    cases second counts
    cases third.symm.trans third'
    exact ⟨rfl, rfl⟩

/-- A look at the backlog makes up to three calls, none of them an append. -/
theorem calls_of_looks {answers : Nat → (c : LogCall) → c.Result} (looks : Looks p group answers calls result) :
    calls.length ≤ 3 ∧ ∀ c ∈ calls, ∀ stream fields maxLen, c ≠ .append stream fields maxLen := by
  have counts {info : GroupInfo} {c : LogCall} {r : Except LogError Nat} (counts : Counts p answers info c r) :
      ∀ stream fields maxLen, c ≠ .append stream fields maxLen := by
    cases counts <;> simp
  cases looks with
  | hidden | unlisted => simp
  | uncounted _ _ second => simpa using counts second
  | refused _ _ second _ _ => simpa using counts second
  | counted _ _ second _ => simpa using counts second

/-! ### The calls in time -/

/-- What a look at the backlog of a group comes to, the calls being counted from the `i`-th on. -/
structure Told (p : PublisherConfig) (group : String) (hitches : Nat → Hitch) (i : Nat) (s : Store)
    (result : Except QueueError Nat) : Prop where
  /-- There is a number only if the calls get through and the group is there. -/
  only : ∀ n, result = .ok n → Heard hitches i p.timeout ∧ ∃ g, (s.view p.stream group).group = some g
  /-- Then there is one, and it is exact. -/
  exactly : Heard hitches i p.timeout → s.rangeAfter p.stream .zero = s.entries p.stream →
    ∀ g, (s.view p.stream group).group = some g →
      result = .ok ((s.rangeAfter p.stream g.cursor).length + g.pending.size)

/-- What could not be counted is shown as nothing, and what was counted is what is outstanding. -/
theorem Told.number_eq_zero (told : Told p group hitches i s result) (unheard : ¬ Heard hitches i p.timeout) :
    result.toOption.getD 0 = 0 := by
  cases result with
  | error e => rfl
  | ok n => exact absurd (told.only n rfl).1 unheard

theorem Told.number_eq_card {cs : List TimedCall} (told : Told p group hitches i (Store.empty.afterAll cs) result)
    (heard : Heard hitches i p.timeout) (room : Store.empty.Roomy cs) :
    result.toOption.getD 0 = ((Store.empty.afterAll cs).outstanding p.stream group).card := by
  cases there : ((Store.empty.afterAll cs).view p.stream group).group with
  | none =>
    rw [Store.outstanding_eq_empty there, Finset.card_empty]
    cases result with
    | error e => rfl
    | ok n =>
      obtain ⟨-, g, found⟩ := told.only n rfl
      rw [there] at found
      cases found
  | some g =>
    rw [Store.card_outstanding room there, told.exactly heard (Store.rangeAfter_zero room) g there]
    rfl

/-- **A look at the backlog** of a log that is hindered ends in any case, with the exact number if the
calls get through and with an error otherwise. -/
theorem passing_backlog (p : PublisherConfig) (group : String) (hitches : Nat → Hitch)
    (wall : Instant → Timestamp) (i : Nat) (start : Instant) (s : Store) :
    ∃ t result looks, (backlog p group).passing (.hindered hitches wall) none i start s =
        ⟨some (t, result), looks, [], s⟩ ∧
      looks.length ≤ 3 ∧ (∀ look ∈ looks, ∀ stream fields maxLen, look.2 ≠ .append stream fields maxLen) ∧
      Told p group hitches i s result := by
  obtain ⟨calls, result, looks, course⟩ := course_backlog p group (shown hitches i s)
  have passage : (backlog p group).passing (.hindered hitches wall) none (i + 0) start s =
      ((backlog p group).passing (.scripted (held hitches i) (shown hitches i s) wall) none 0 start ()).leaving s :=
    passing_looks (looking_backlog p group s) .none 0 start
  have covered : Covered p.timeout (held hitches i) start 0 calls result
      ((backlog p group).passing (.scripted (held hitches i) (shown hitches i s) wall) none 0 start ()) := by
    rw [backlog_eq]
    exact covered_timed course
  generalize (backlog p group).passing (.scripted (held hitches i) (shown hitches i s) wall) none 0 start () = o
    at covered passage
  obtain ⟨few, reading⟩ := calls_of_looks looks
  obtain ⟨t, told, ended, -⟩ := covered.noLater
  have made (k : Nat) (t : Instant) (c : LogCall) (call : o.calls[k]? = some (t, c)) : calls[k]? = some c :=
    ((covered.made k t c).1 call).1
  refine ⟨t, told, o.calls, ?passage, ?few, ?reading, ?only, ?exactly⟩
  case passage =>
    rw [Nat.add_zero] at passage
    rw [passage, Passage.leaving, ended, covered.quiet]
  case few =>
    by_contra! many
    obtain ⟨⟨t, c⟩, call⟩ : ∃ call, o.calls[3]? = some call := ⟨_, List.getElem?_eq_getElem many⟩
    have fourth := made 3 t c call
    rw [List.getElem?_eq_none few] at fourth
    cases fourth
  case reading =>
    intro look hlook
    obtain ⟨k, call⟩ := List.getElem?_of_mem hlook
    exact reading look.2 (List.mem_of_getElem? (made k look.1 look.2 call))
  case only =>
    rintro n rfl
    -- The deadline was not missed, so the number is that of the three calls.
    obtain ⟨d, all, within⟩ : ∃ d, elapsed (held hitches i) (0 + calls.length) = some d ∧ d ≤ p.timeout := by
      by_contra! past
      have late := covered.late fun d all => Nat.not_le.1 (past d all)
      rw [ended] at late
      cases late
    have same := covered.inTime d all within
    rw [ended] at same
    cases same
    obtain ⟨three, allowed⟩ := allowed_of_looks looks
    rw [Nat.zero_add, three] at all
    refine ⟨⟨allowed, d, all, within⟩, ?_⟩
    cases there : (s.view p.stream group).group with
    | some g => exact ⟨g, rfl⟩
    | none =>
      obtain ⟨e, error⟩ := error_of_looks there looks
      cases error
  case exactly =>
    rintro ⟨allowed, d, all, within⟩ whole g there
    obtain ⟨three, counted⟩ := counted_of_looks allowed whole there looks
    rw [← three, ← Nat.zero_add calls.length] at all
    have same := covered.inTime d all within
    rw [ended, counted] at same
    cases same
    rfl

end Publisher

end StreamQueue
