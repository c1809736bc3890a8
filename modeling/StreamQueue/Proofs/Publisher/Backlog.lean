import StreamQueue.Publisher
import StreamQueue.Proofs.Log.Conservation
import StreamQueue.Proofs.Log.Waiting

/-!
# The backlog of a group among other clients

To tell how much a group has before it, a publisher makes three calls: it looks the group up,
it counts the entries past the cursor that the group had then, and it counts what is pending.
Other clients may do anything between two of these calls, so the number is put together from
three different stores.

`Job.among` says what a job comes to on a log that it shares: before each of its calls the
others do whatever they do, and a deadline, if there is one, may pass. An entry is outstanding
for a group when it is retained past the cursor or pending. The cursor is what tells the two
apart, and it never goes back. So what is outstanding at the last two of the calls is counted by
one of them: past the cursor at the second call, it is past the cursor of the first as well;
pending at the second call, it can be outstanding at the third only as pending.

## What is proved

* `Store.divided_afterAll` — in every history that had room, what is pending is not past the
  cursor, and no entry has the least identifier.
* `Store.outstanding_subset` — what is outstanding before and after others have acted was past
  an old cursor before or is pending after.
* `Publisher.backlog_hides_nothing` — the backlog is at least the number of entries that are
  outstanding throughout, and exactly that if nobody interferes.
-/

namespace StreamQueue

attribute [local instance] StreamId.linearOrder

/-! ### Jobs on a log that is shared -/

namespace Job

/-- Who makes a call on a log that a job shares with others. -/
inductive Caller
  | job
  | other
  deriving DecidableEq, Repr

/-- How a call of a job gets through to the log. -/
structure Turn where
  /-- What other clients do before it. -/
  others : List TimedCall
  clock : Clock
  /-- Whether a deadline passes before it. -/
  late : Bool
  deriving Repr

/-- What has become of a job. -/
structure Outing (α : Type) where
  value : α
  /-- What was carried out meanwhile, in order. -/
  acts : List (Caller × Act)

namespace Outing

variable {α : Type}

/-- An outing with acts before it. -/
def behind (acts : List (Caller × Act)) (o : Outing α) : Outing α := { o with acts := acts ++ o.acts }

/-- The acts from the first call of the job to its last one. -/
def meanwhile (o : Outing α) : List (Caller × Act) :=
  (o.acts.dropWhile fun a => a.1 = .other).rdropWhile fun a => a.1 = .other

end Outing

variable {α : Type}

/-- What other clients do, each act with its caller. -/
def interference (s : Store) (others : List TimedCall) : List (Caller × Act) :=
  (s.history others).map fun a => (.other, a)

/-- Others who leave no act have done nothing. -/
theorem eq_nil_of_interference {s : Store} {others : List TimedCall}
    (alone : ∀ a ∈ interference s others, a.1 = .job) : others = [] := by
  cases others with
  | nil => rfl
  | cons c others =>
    have act := alone (.other, ⟨s, c.clock, c.call⟩) (by simp [interference, Store.history])
    cases act

/-- What a job comes to from its `i`-th call on, with what it does if a deadline passes. -/
def among (turns : Nat → Turn) :
    Job α → Option (Nat → Store → Outing α) → Nat → Store → Outing α
  | done a, _, _, _ => ⟨a, []⟩
  | call c next, late, i, s =>
    let found := s.afterAll (turns i).others
    match if (turns i).late then late else none with
    | some late => (late (i + 1) found).behind (interference s (turns i).others)
    | none =>
      let act : Act := ⟨found, (turns i).clock, c⟩
      ((next act.result).among turns late (i + 1) act.left).behind
        (interference s (turns i).others ++ [(.job, act)])
  | report _ rest, late, i, s => rest.among turns late i s
  | readWall next, late, i, s => (next (turns i).clock.wall).among turns late i s
  | arm _ late rest, _, i, s => rest.among turns (some (late.among turns none)) i s
  | disarm rest, _, i, s => rest.among turns none i s

theorem Outing.meanwhile_eq {o : Outing α} {s : Store} {others : List TimedCall} {a b : Act}
    {acts : List (Caller × Act)}
    (eq : o.acts = interference s others ++ (.job, a) :: (acts ++ [(.job, b)])) :
    o.meanwhile = (.job, a) :: (acts ++ [(.job, b)]) := by
  have before : ∀ act ∈ interference s others, decide (act.1 = Caller.other) = true := by
    simp [interference]
  rw [meanwhile, eq, List.dropWhile_append_of_pos before, List.dropWhile_cons_of_neg (by simp),
    ← List.cons_append, List.rdropWhile_concat_neg _ _ _ (by simp)]

end Job

/-! ### What is outstanding -/

/-- What a group has behind it and what it has before it are told apart by its cursor. -/
structure View.Divided (v : View) : Prop where
  inOrder : v.InOrder
  positive : ∀ e ∈ v.entries, StreamId.zero < e.id
  behind : ∀ g ∈ v.group, ∀ id ∈ g.pending.keys, id ≤ g.cursor

/-- No call brings an entry with the least identifier. -/
theorem View.positive_step {v : View} (positive : ∀ e ∈ v.entries, StreamId.zero < e.id)
    (stream group : String) (clock : Clock) (c : LogCall)
    (room : ∀ fields maxLen, c = .append stream fields maxLen → v.lastId ≠ StreamId.last) :
    ∀ e ∈ (v.step stream group clock c).entries, StreamId.zero < e.id := by
  refine step_elim (motive := fun v' => ∀ e ∈ v'.entries, StreamId.zero < e.id) positive ?push ?create
    ?read ?see ?claim ?ack
  case push =>
    intro fields maxLen call e he
    rcases List.mem_append.1 (List.mem_of_mem_drop he) with old | new
    · exact positive e old
    · rw [List.mem_singleton.1 new]
      exact lt_of_le_of_lt (StreamId.zero_le _)
        (Stream.lt_nextId (s := v.stream) (room fields maxLen call) clock.wall)
  case create | read => exact fun _ _ => positive
  case see | ack => exact fun _ => positive
  case claim => exact fun _ _ _ => positive

namespace Store

variable {s : Store} {cs ds : List TimedCall} {stream group : String}

/-- The entries that are outstanding for a group: those that are retained past its cursor, and
those that are pending. -/
def outstanding (s : Store) (stream group : String) : Finset StreamId :=
  ((s.undelivered stream group).map (·.id)).toFinset ∪ (s.pendingOf stream group).keys.toFinset

theorem positive_afterAll (room : empty.Roomy cs) (stream group : String) :
    ∀ e ∈ ((empty.afterAll cs).view stream group).entries, StreamId.zero < e.id := by
  refine history_induction (P := fun _ s => ∀ e ∈ (s.view stream group).entries, StreamId.zero < e.id)
    (by simp [view_empty]) (fun _ a positive fits => ?_) cs room
  rw [Act.left_view]
  refine View.positive_step positive stream group a.clock a.call fun fields maxLen call => ?_
  rw [Act.HasRoom, call] at fits
  exact fits

/-- In every history that had room, what is pending is not past the cursor, and no entry has the
least identifier. -/
theorem divided_afterAll (room : empty.Roomy cs) (stream group : String) :
    ((empty.afterAll cs).view stream group).Divided where
  inOrder := inOrder_afterAll room stream group
  positive := positive_afterAll room stream group
  behind := by
    intro g there id hid
    have keys : g.pending.keys = ((empty.afterAll cs).pendingOf stream group).keys := by
      rw [pendingOf_eq, View.pending, there]
    have delivered : id ∈ (empty.history cs).delivered stream group :=
      (balance_afterAll stream group room).mem_iff.1
        (List.mem_append_left _ (List.mem_append_left _ (keys ▸ hid)))
    exact (sound_afterAll stream group room).le_cursor (by simp [View.ledger, Option.mem_def.1 there]) delivered

/-- A group stays, and its cursor does not go back, whatever is done. -/
theorem cursor_afterAll (room : empty.Roomy (cs ++ ds)) {g : Group}
    (there : ((empty.afterAll cs).view stream group).group = some g) :
    ∃ g', ((empty.afterAll (cs ++ ds)).view stream group).group = some g' ∧ g.cursor ≤ g'.cursor := by
  induction ds using List.reverseRecOn with
  | nil =>
    rw [List.append_nil]
    exact ⟨g, there, le_refl _⟩
  | append_singleton ds c ih =>
    rw [← List.append_assoc] at room ⊢
    have before := (roomy_append.1 room).1
    obtain ⟨g', there', le⟩ := ih before
    obtain ⟨g'', there'', le', -⟩ := View.cursor_step (inOrder_afterAll before stream group) there'
      stream group c.clock c.call
    refine ⟨g'', ?_, le_trans le le'⟩
    rw [afterAll_append]
    exact (view_perform _ stream group c.clock c.call).symm ▸ there''

/-- The retained entries of a stream past an identifier. -/
def past (s : Store) (stream : String) (id : StreamId) : Finset StreamId :=
  ((s.rangeAfter stream id).map (·.id)).toFinset

theorem mem_past {id cursor : StreamId} :
    id ∈ s.past stream cursor ↔ id ∈ s.retained stream ∧ cursor < id := by
  simp only [past, rangeAfter, retained, List.mem_toFinset, List.mem_map, List.mem_filter,
    decide_eq_true_eq]
  constructor
  · rintro ⟨e, ⟨he, past⟩, rfl⟩
    exact ⟨⟨e, he, rfl⟩, past⟩
  · rintro ⟨⟨e, he, rfl⟩, past⟩
    exact ⟨e, ⟨he, past⟩, rfl⟩

/-- What is outstanding for a group that is there is past its cursor or pending. -/
theorem outstanding_eq {g : Group} (there : (s.view stream group).group = some g) :
    s.outstanding stream group = s.past stream g.cursor ∪ g.pending.keys.toFinset := by
  rw [outstanding, undelivered_eq, pendingOf_eq, View.left, View.pending, there, past, rangeAfter,
    entries_eq s stream group]
  rfl

/-- Nothing is outstanding for a group that is not there. -/
theorem outstanding_eq_empty (missing : (s.view stream group).group = none) : s.outstanding stream group = ∅ := by
  rw [outstanding, undelivered_eq, pendingOf_eq, View.left, View.pending, missing]
  rfl

/-- **Between two looks**: what is outstanding for a group before and after others have acted
was past any cursor that it had earlier, or is pending in the end. -/
theorem outstanding_subset (room : empty.Roomy (cs ++ ds)) {g g' : Group} {cursor : StreamId}
    (there : ((empty.afterAll cs).view stream group).group = some g) (earlier : cursor ≤ g.cursor)
    (there' : ((empty.afterAll (cs ++ ds)).view stream group).group = some g') :
    (empty.afterAll cs).outstanding stream group ∩ (empty.afterAll (cs ++ ds)).outstanding stream group ⊆
      (empty.afterAll cs).past stream cursor ∪ g'.pending.keys.toFinset := by
  intro id hid
  obtain ⟨before, after⟩ := Finset.mem_inter.1 hid
  rw [outstanding_eq there] at before
  rw [outstanding_eq there'] at after
  rcases Finset.mem_union.1 before with fresh | pending
  · obtain ⟨retained, past⟩ := mem_past.1 fresh
    exact Finset.mem_union_left _ (mem_past.2 ⟨retained, lt_of_le_of_lt earlier past⟩)
  · -- What was pending was behind the cursor, and the cursor has not gone back.
    have behind := (divided_afterAll (roomy_append.1 room).1 stream group).behind g there id
      (List.mem_toFinset.1 pending)
    obtain ⟨same, is, le⟩ := cursor_afterAll room there
    obtain rfl := Option.some.inj (is.symm.trans there')
    rcases Finset.mem_union.1 after with fresh | pending
    · exact absurd (mem_past.1 fresh).2 (not_lt.2 (le_trans behind le))
    · exact Finset.mem_union_right _ pending

/-- What is past the cursor and what is pending have nothing in common. -/
theorem card_outstanding (room : empty.Roomy cs) {g : Group}
    (there : ((empty.afterAll cs).view stream group).group = some g) :
    ((empty.afterAll cs).outstanding stream group).card =
      ((empty.afterAll cs).rangeAfter stream g.cursor).length + g.pending.size := by
  have divided := divided_afterAll room stream group
  rw [outstanding_eq there, Finset.card_union_of_disjoint, past, List.toFinset_card_of_nodup,
    List.toFinset_card_of_nodup (Table.nodup_keys _), List.length_map, Table.keys, List.length_map,
    Table.size]
  · rw [rangeAfter, entries_eq _ stream group]
    exact ((divided.inOrder.increasing.sublist List.filter_sublist).imp fun h => ne_of_lt h).map _
      fun _ _ => id
  · refine Finset.disjoint_left.2 fun id fresh pending => ?_
    exact absurd (mem_past.1 fresh).2
      (not_lt.2 (divided.behind g there id (List.mem_toFinset.1 pending)))

/-- After the least identifier there is all of a stream. -/
theorem rangeAfter_zero (room : empty.Roomy cs) :
    (empty.afterAll cs).rangeAfter stream StreamId.zero = (empty.afterAll cs).entries stream := by
  refine List.filter_eq_self.2 fun e he => ?_
  rw [entries_eq _ stream ""] at he
  exact decide_eq_true (positive_afterAll room stream "" e he)

end Store

namespace Publisher

open Job

variable {α : Type} {p : PublisherConfig} {turns : Nat → Turn} {s : Store} {stream group : String}

theorem among_timed_done (i : Nat) (result : Except QueueError α) :
    (timed p (done result)).among turns none i s = ⟨result, []⟩ := rfl

/-- A call may miss the publisher's deadline. -/
theorem among_timed_late {i : Nat} (late : (turns i).late) (c : LogCall)
    (next : c.Result → Job (Except QueueError α)) :
    ((timed p (call c next)).among turns none i s).value = .error (.timeout p.timeout) := by
  simp only [timed, within, Bind.bind, Job.bind, among, late]
  rfl

/-- After a call that meets the publisher's deadline and leaves the store as it was, the rest
stands under the deadline still. -/
theorem among_timed_call {i : Nat} {found : Store} (finds : s.afterAll (turns i).others = found)
    (punctual : ¬ (turns i).late) {c : LogCall} {next : c.Result → Job (Except QueueError α)}
    {rest : Job (Except QueueError α)} (left : (⟨found, (turns i).clock, c⟩ : Act).left = found)
    (goes : next (⟨found, (turns i).clock, c⟩ : Act).result = rest) :
    (timed p (call c next)).among turns none i s =
      ((timed p rest).among turns none (i + 1) found).behind
        (interference s (turns i).others ++ [(.job, ⟨found, (turns i).clock, c⟩)]) := by
  subst finds goes
  simp only [timed, within, Bind.bind, Job.bind, among, punctual, Bool.false_eq_true, if_false, left]

/-! ### What the calls answer -/

/-- A group that is there is listed, with its cursor. -/
theorem find_group {g : Group} (there : (s.view stream group).group = some g) :
    ∃ groups info, s.groups stream = .ok groups ∧
      (groups.find? fun info => info.name == group) = some info ∧ info.lastDelivered = g.cursor := by
  rw [Store.view, Store.streamOrNew] at there
  cases hs : s.streams.get? stream with
  | none =>
    rw [hs] at there
    exact absurd there (by simp [Stream.empty])
  | some st =>
    have there : st.groups.get? group = some g := by simpa [hs] using there
    refine ⟨_, ⟨group, g.consumers.length, g.pending.size, g.cursor⟩, by rw [Store.groups, hs], ?_, rfl⟩
    rw [List.find?_map]
    simp only [Function.comp_def, Table.find?_pairs, there, Option.map_some]

/-- A group that is not there is not listed, and maybe there is no stream to list groups of. -/
theorem find_group_none (missing : (s.view stream group).group = none) :
    s.groups stream = .error (.streamNotFound stream) ∨
      ∃ groups, s.groups stream = .ok groups ∧ (groups.find? fun info => info.name == group) = none := by
  rw [Store.view, Store.streamOrNew] at missing
  cases hs : s.streams.get? stream with
  | none => exact .inl (by rw [Store.groups, hs])
  | some st =>
    have missing : st.groups.get? group = none := by simpa [hs] using missing
    refine .inr ⟨_, by rw [Store.groups, hs], ?_⟩
    rw [List.find?_map]
    simp only [Function.comp_def, Table.find?_pairs, missing, Option.map_none]

/-- What is past a cursor is counted by the length of the stream or by the entries themselves. -/
theorem undelivered_eq_call (p : PublisherConfig) (info : GroupInfo) :
    ∃ (c : LogCall) (read : c.Result → Except QueueError Nat),
      undelivered p info = call c (fun r => done (read r)) ∧
      ∀ (clock : Clock) {s : Store}, s.rangeAfter p.stream .zero = s.entries p.stream →
        (⟨s, clock, c⟩ : Act).left = s ∧
          read (⟨s, clock, c⟩ : Act).result = .ok (s.rangeAfter p.stream info.lastDelivered).length := by
  cases never : info.neverRead with
  | true =>
    refine ⟨.len p.stream, fun r => r.mapError .log, by rw [undelivered, never]; rfl, ?_⟩
    intro clock s whole
    have zero : info.lastDelivered = StreamId.zero := by
      simpa [GroupInfo.neverRead, StreamId.isZero] using never
    refine ⟨rfl, ?_⟩
    rw [zero, whole]
    rfl
  | false =>
    refine ⟨.rangeAfter p.stream info.lastDelivered, fun r => (r.mapError .log).map List.length,
      by rw [undelivered, never]; rfl, ?_⟩
    intro clock s whole
    exact ⟨rfl, rfl⟩

/-! ### The three calls -/

/-- What the publisher does once it has counted what was never delivered. -/
def countPending (p : PublisherConfig) (group : String) : Except QueueError Nat → Job (Except QueueError Nat)
  | .error e => done (.error e)
  | .ok fresh => call (.pendingCount p.stream group) fun
    | .error e => done (.error (groupError group e))
    | .ok pending => done (.ok (fresh + pending))

/-- What the publisher does once it has been shown the groups of its stream. -/
def countFor (p : PublisherConfig) (group : String) :
    Except LogError (List GroupInfo) → Job (Except QueueError Nat)
  | .error e => done (.error (groupError group e))
  | .ok groups => match groups.find? fun info => info.name == group with
    | none => done (.error (.groupNotFound group))
    | some info => (undelivered p info).bind (countPending p group)

theorem backlog_eq : backlog p group = timed p (call (.groups p.stream) (countFor p group)) := by
  refine congrArg (fun next => timed p (call (.groups p.stream) next)) (funext fun groups => ?_)
  cases groups with
  | error e => rfl
  | ok groups =>
    simp only [Job.bind, countFor]
    cases groups.find? fun info => info.name == group with
    | none => rfl
    | some info => exact congrArg (undelivered p info).bind (funext fun fresh => by cases fresh <;> rfl)

/-- Nothing is counted for a group that is not there. -/
theorem countFor_of_none (missing : (s.view p.stream group).group = none) (clock : Clock) :
    countFor p group (⟨s, clock, .groups p.stream⟩ : Act).result = done (.error (.groupNotFound group)) := by
  rcases find_group_none missing with unlisted | ⟨groups, listed, unlisted⟩
  · simp only [Act.result, Store.perform, unlisted, countFor, groupError]
  · simp only [Act.result, Store.perform, listed, countFor, unlisted]

/-- For a group that is there two counts are added. -/
theorem countFor_of_group {g : Group} (there : (s.view p.stream group).group = some g) (clock : Clock) :
    ∃ (c : LogCall) (read : c.Result → Except QueueError Nat),
      countFor p group (⟨s, clock, .groups p.stream⟩ : Act).result =
        call c (fun r => countPending p group (read r)) ∧
      ∀ (clock : Clock) {s : Store}, s.rangeAfter p.stream .zero = s.entries p.stream →
        (⟨s, clock, c⟩ : Act).left = s ∧
          read (⟨s, clock, c⟩ : Act).result = .ok (s.rangeAfter p.stream g.cursor).length := by
  obtain ⟨groups, info, listed, found, cursor⟩ := find_group there
  obtain ⟨c, read, eq, counted⟩ := undelivered_eq_call p info
  refine ⟨c, read, ?_, cursor ▸ counted⟩
  simp only [Act.result, Store.perform, listed, countFor, found, eq]
  rfl

theorem pendingCount_of_group {g : Group} (there : (s.view stream group).group = some g) :
    s.pendingCount stream group = .ok g.pending.size := by
  rw [Store.pendingCount, Store.groupOr_eq, there]
  rfl

/-- What the three calls come to on the stores that they find: a deadline is missed, the group is
missing at the first call, or the counts of the second and of the third are added. -/
theorem among_backlog (p : PublisherConfig) (group : String) (turns : Nat → Turn) {s₁ s₂ s₃ : Store}
    (h₁ : s.afterAll (turns 0).others = s₁)
    (h₂ : s₁.afterAll (turns 1).others = s₂) (h₃ : s₂.afterAll (turns 2).others = s₃)
    (whole : s₂.rangeAfter p.stream .zero = s₂.entries p.stream)
    (stays : (s₁.view p.stream group).group.isSome → (s₃.view p.stream group).group.isSome) :
    let o := (backlog p group).among turns none 0 s
    (o.value = .error (.timeout p.timeout) ∧ ∃ i < 3, (turns i).late) ∨
    (o.value = .error (.groupNotFound group) ∧ (s₁.view p.stream group).group = none) ∨
    ∃ (g g' : Group) (c : LogCall), (s₁.view p.stream group).group = some g ∧
      (s₃.view p.stream group).group = some g' ∧
      o.value = .ok ((s₂.rangeAfter p.stream g.cursor).length + g'.pending.size) ∧
      o.acts = interference s (turns 0).others ++ (.job, ⟨s₁, (turns 0).clock, .groups p.stream⟩) ::
        ((interference s₁ (turns 1).others ++ (.job, ⟨s₂, (turns 1).clock, c⟩) ::
          interference s₂ (turns 2).others) ++
            [(.job, ⟨s₃, (turns 2).clock, .pendingCount p.stream group⟩)]) := by
  rw [backlog_eq]
  by_cases late : (turns 0).late
  · exact .inl ⟨among_timed_late late _ _, 0, by omega, late⟩
  cases there : (s₁.view p.stream group).group with
  | none =>
    rw [among_timed_call h₁ late rfl (countFor_of_none there _)]
    exact .inr (.inl ⟨rfl, rfl⟩)
  | some g =>
    obtain ⟨c, read, eq, counted⟩ := countFor_of_group there (turns 0).clock
    obtain ⟨left, fresh⟩ := counted (turns 1).clock whole
    obtain ⟨g', there'⟩ := Option.isSome_iff_exists.1 (stays (by rw [there]; rfl))
    rw [among_timed_call h₁ late rfl eq]
    by_cases late : (turns 1).late
    · exact .inl ⟨among_timed_late late _ _, 1, by omega, late⟩
    rw [among_timed_call h₂ late left (by rw [fresh, countPending])]
    by_cases late : (turns 2).late
    · exact .inl ⟨among_timed_late late _ _, 2, by omega, late⟩
    rw [among_timed_call h₃ late rfl (by rw [Act.result, Store.perform, pendingCount_of_group there'])]
    refine .inr (.inr ⟨g, g', c, rfl, there', rfl, ?_⟩)
    simp only [Outing.behind, among_timed_done, List.append_assoc, List.cons_append, List.nil_append,
      List.append_nil]

/-- **Nothing is hidden**: on a log that others use as they like, from any history that had room,
the publisher's look at the backlog of a group may miss its deadline. Otherwise it says that
the group was not found exactly if the group or its stream was not there at the first call; and
if it was, the look comes to a number that is at least the number of entries that are
outstanding throughout, from the first of the three calls to the last, and that is the number
of outstanding entries if nobody interferes between them. -/
theorem backlog_hides_nothing (p : PublisherConfig) (group : String) (turns : Nat → Turn)
    {cs : List TimedCall}
    (room : Store.empty.Roomy (cs ++ (turns 0).others ++ (turns 1).others ++ (turns 2).others)) :
    let o := (backlog p group).among turns none 0 (Store.empty.afterAll cs)
    let first := Store.empty.afterAll (cs ++ (turns 0).others)
    (o.value = .error (.timeout p.timeout) ∧ ∃ i < 3, (turns i).late) ∨
    (o.value = .error (.groupNotFound group) ↔ first.group? p.stream group = none) ∧
    ((first.group? p.stream group).isSome → ∃ n, o.value = .ok n ∧
      (∀ ids : Finset StreamId,
        (∀ a ∈ o.meanwhile, ids ⊆ a.2.found.outstanding p.stream group) → ids.card ≤ n) ∧
      ((∀ a ∈ o.meanwhile, a.1 = .job) → n = (first.outstanding p.stream group).card)) := by
  intro o first
  have room₂ := (Store.roomy_append.1 room).1
  have stays (there : (first.view p.stream group).group.isSome) :
      ((Store.empty.afterAll (cs ++ (turns 0).others ++ (turns 1).others ++ (turns 2).others)).view
        p.stream group).group.isSome := by
    obtain ⟨g, there⟩ := Option.isSome_iff_exists.1 there
    rw [List.append_assoc (cs ++ _)] at room ⊢
    obtain ⟨g', there', -⟩ := Store.cursor_afterAll room there
    rw [there']
    rfl
  have begun : (Store.empty.afterAll cs).afterAll (turns 0).others = first := (Store.afterAll_append ..).symm
  have outcome := among_backlog p group turns begun (Store.afterAll_append ..).symm
    (Store.afterAll_append ..).symm (Store.rangeAfter_zero room₂) stays
  change (o.value = _ ∧ _) ∨ (o.value = _ ∧ _) ∨ ∃ g g' c, _ ∧ _ ∧ o.value = _ ∧ o.acts = _ at outcome
  rw [Store.group?_eq, Option.map_eq_none_iff, Option.isSome_map]
  obtain timeout | ⟨value, missing⟩ | ⟨g, g', c, there, there', value, acts⟩ := outcome
  · exact .inl timeout
  · refine .inr ⟨by simp [value, missing], fun there => ?_⟩
    rw [missing] at there
    exact absurd there (by simp)
  · obtain ⟨h, between, later⟩ := Store.cursor_afterAll room₂ there
    have meanwhile := Outing.meanwhile_eq acts
    refine .inr ⟨by simp [value, there], fun _ => ⟨_, value, fun ids throughout => ?_, fun alone => ?_⟩⟩
    · simp only [meanwhile, List.forall_mem_cons, List.forall_mem_append] at throughout
      obtain ⟨-, ⟨-, second, -⟩, third, -⟩ := throughout
      have counted := (Finset.subset_inter second third).trans
        (Store.outstanding_subset room between later there')
      refine (Finset.card_le_card counted).trans ((Finset.card_union_le _ _).trans (Nat.add_le_add ?_ ?_))
      · exact (List.toFinset_card_le _).trans (by rw [List.length_map])
      · exact (List.toFinset_card_le _).trans (by rw [Table.keys, List.length_map, Table.size])
    · simp only [meanwhile, List.forall_mem_cons, List.forall_mem_append] at alone
      obtain ⟨-, ⟨quiet₁, -, quiet₂⟩, -⟩ := alone
      simp only [eq_nil_of_interference quiet₁, eq_nil_of_interference quiet₂, List.append_nil] at there' ⊢
      obtain rfl := Option.some.inj (there.symm.trans there')
      exact (Store.card_outstanding (Store.roomy_append.1 room₂).1 there).symm

/-- A group that has read nothing, with three entries before it. -/
def threeWaiting : List TimedCall := [
  .atMilli 0 (.createGroup "jobs" "workers" .zero), .atMilli 1 (.append "jobs" [] 9),
  .atMilli 2 (.append "jobs" [] 9), .atMilli 3 (.append "jobs" [] 9)]

/-- A reader takes two of the entries and acknowledges one while they are counted, and an entry
is appended. -/
def readerBetween : Nat → Turn
  | 1 => ⟨[.atMilli 5 (.readNew "jobs" "workers" "ann" 2 none), .atMilli 6 (.append "jobs" [] 9)],
      (TimedCall.atMilli 7 .ping).clock, false⟩
  | 2 => ⟨[.atMilli 8 (.ack "jobs" "workers" [⟨1, 0⟩])], (TimedCall.atMilli 9 .ping).clock, false⟩
  | _ => ⟨[], (TimedCall.atMilli 4 .ping).clock, false⟩

/-- Two entries are outstanding throughout, and five are counted. -/
theorem backlog_hides_nothing_readerBetween :
    Store.empty.Roomy (threeWaiting ++ (readerBetween 0).others ++ (readerBetween 1).others ++
      (readerBetween 2).others) ∧
    ((backlog (config "jobs") "workers").among readerBetween none 0
      (Store.empty.afterAll threeWaiting)).value = .ok 5 ∧
    ∃ n, Except.ok (ε := QueueError) 5 = .ok n ∧ ({⟨2, 0⟩, ⟨3, 0⟩} : Finset StreamId).card ≤ n := by
  have room : Store.empty.Roomy (threeWaiting ++ (readerBetween 0).others ++ (readerBetween 1).others ++
    (readerBetween 2).others) := by decide
  have value : ((backlog (config "jobs") "workers").among readerBetween none 0
    (Store.empty.afterAll threeWaiting)).value = .ok 5 := by decide
  obtain ⟨timeout, -⟩ | ⟨-, counted⟩ :=
    backlog_hides_nothing (config "jobs") "workers" readerBetween room
  · rw [value] at timeout
    cases timeout
  · obtain ⟨n, eq, least, -⟩ := counted (by decide)
    exact ⟨room, value, n, value ▸ eq, least _ (by decide)⟩

end Publisher

end StreamQueue
