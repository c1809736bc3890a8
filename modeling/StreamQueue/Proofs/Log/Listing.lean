import StreamQueue.Proofs.Log.Group
import StreamQueue.Proofs.Log.Refusal

/-!
# The views of a pending list

Five operations show what is pending in a group, each in its own way: one counts, one lists the
deliveries, one shows the entries of a single consumer, the list of groups has a number for each of
them, and it says how many consumers a group has. They skip different things. The lists begin past an
identifier, so they would miss an entry with the least one; the entries are shown consumer by
consumer, so those of a consumer that the group does not know would be shown to nobody.

Neither happens. A read delivers entries past the cursor only, and no cursor is less than the least
identifier. And whoever is handed an entry has been noted as a consumer before.

## What is proved

* `View.Attended.step` — one call leaves the deliveries past the least identifier and with a known
  consumer, and the consumers those that have come to the group.
* `Store.attended_afterAll` — so it is in every history.
* `Group.perm_ownedBy` — the entries of the consumers are those that are pending, each once.
* `Store.shares_ownedBy` — and those are what is replayed to them.
* `Store.views_agree` — all views of a pending list agree, and the list of groups is complete and in
  order.
-/

namespace StreamQueue

attribute [local instance] StreamId.linearOrder

/-! ### Who has come to a group -/

/-- The consumer that a call on a group is made for, if the call has found the group. -/
def LogCall.visitor? (stream group : String) : (c : LogCall) → c.Result → Option String
  | .readNew s g consumer _ _, .ok _ | .readPending s g consumer _ _, .ok _
  | .claim s g consumer _ _, .ok _ => if s = stream ∧ g = group then some consumer else none
  | _, _ => none

def Act.visitor? (stream group : String) (a : Act) : Option String := a.call.visitor? stream group a.result

/-- The consumers for which calls have found a group, in the order of the calls. -/
def History.visitors (h : History) (stream group : String) : List String :=
  h.flatMap fun a => (a.visitor? stream group).toList

/-- The consumer that a call on a group is made for, if the group is there. -/
def View.visitor? (stream group : String) (v : View) : LogCall → Option String
  | .readNew s g consumer _ _ | .readPending s g consumer _ _ | .claim s g consumer _ _ =>
    if (s = stream ∧ g = group) ∧ v.group.isSome then some consumer else none
  | _ => none

theorem Act.visitor?_eq (a : Act) (stream group : String) :
    a.visitor? stream group = (a.found.view stream group).visitor? stream group a.call := by
  obtain ⟨s, clock, c⟩ := a
  cases c with
  | readNew x y _ _ _ | readPending x y _ _ _ | claim x y _ _ _ =>
    simp only [visitor?, LogCall.visitor?, result, View.visitor?, Store.perform, Store.deliver_eq,
      Store.replay_eq, Store.claim_eq]
    by_cases here : x = stream ∧ y = group
    · obtain ⟨rfl, rfl⟩ := here
      cases (s.view x y).group <;> simp [Store.settle]
    · cases (s.view x y).group <;> simp [Store.settle, here]
  | _ => rfl

/-! ### One call -/

/-- Everything pending in a group is past the least identifier and belongs to a consumer that the
group knows, and the group knows those that have come to it. -/
structure Group.Attended (g : Group) (visitors : List String) : Prop where
  positive : ∀ id d, g.pending.get? id = some d → StreamId.zero < id
  known : ∀ id d, g.pending.get? id = some d → d.owner ∈ g.consumers
  once : g.consumers.Nodup
  visitors : ∀ consumer, consumer ∈ g.consumers ↔ consumer ∈ visitors

/-- A group is attended, or it is not there and nobody has come to it. -/
structure View.Attended (v : View) (visitors : List String) : Prop where
  group : ∀ g ∈ v.group, g.Attended visitors
  absent : v.group = none → visitors = []

namespace Group.Attended

variable {g : Group} {names : List String}

theorem startingAt (start : StreamId) : (Group.startingAt start).Attended [] where
  positive _ _ hd := by simp at hd
  known _ _ hd := by simp at hd
  once := List.nodup_nil
  visitors _ := Iff.rfl

/-- A consumer comes to the group, and may be handed entries. -/
theorem visit (h : g.Attended names) {g' : Group} {consumer : String}
    (consumers : g'.consumers = (g.see consumer).consumers)
    (handed : ∀ id d, g'.pending.get? id = some d → g.pending.get? id = some d ∨
      StreamId.zero < id ∧ d.owner = consumer) : g'.Attended (names ++ [consumer]) := by
  have member (name : String) : name ∈ g'.consumers ↔ name = consumer ∨ name ∈ g.consumers := by
    rw [consumers]
    exact List.mem_insert_iff
  constructor
  case positive =>
    intro id d hd
    rcases handed id d hd with old | ⟨past, -⟩
    · exact h.positive id d old
    · exact past
  case known =>
    intro id d hd
    rw [member]
    rcases handed id d hd with old | ⟨-, owner⟩
    · exact .inr (h.known id d old)
    · exact .inl owner
  case once =>
    rw [consumers]
    exact h.once.insert
  case visitors =>
    intro name
    rw [member, h.visitors, List.mem_append, List.mem_singleton, or_comm]

theorem zero_lt (h : g.Attended names) {id : StreamId} (pending : id ∈ g.pending.keys) :
    StreamId.zero < id := by
  obtain ⟨d, hd⟩ := Table.mem_keys_iff.1 pending
  exact h.positive id d hd

theorem acknowledgeAll (h : g.Attended names) (ids : List StreamId) :
    (g.acknowledgeAll ids).2.Attended names := by
  have old (id : StreamId) (d : Delivery) (hd : (g.acknowledgeAll ids).2.pending.get? id = some d) :
      g.pending.get? id = some d := by
    rw [get?_acknowledgeAll] at hd
    split at hd
    · cases hd
    · exact hd
  constructor
  case positive => exact fun id d hd => h.positive id d (old id d hd)
  case known =>
    intro id d hd
    rw [acknowledgeAll_consumers]
    exact h.known id d (old id d hd)
  case once =>
    rw [acknowledgeAll_consumers]
    exact h.once
  case visitors =>
    intro name
    rw [acknowledgeAll_consumers]
    exact h.visitors name

end Group.Attended

namespace View.Attended

variable {v : View} {names : List String} {stream group : String}

theorem same (h : v.Attended names) {v' : View} (group : v'.group = v.group) : v'.Attended (names ++ []) := by
  rw [List.append_nil]
  exact ⟨group ▸ h.group, group ▸ h.absent⟩

/-- Work that a consumer has a group do, if the group is there. -/
theorem visit (h : v.Attended names) (here : Prop) [Decidable here] {f : Group → Group} {consumer : String}
    (work : ∀ g, v.group = some g → g.Attended names → (f g).Attended (names ++ [consumer])) :
    (if here then v.adjust f else v).Attended
      (names ++ (if here ∧ v.group.isSome then some consumer else none).toList) := by
  by_cases is : here
  · rw [if_pos is]
    cases there : v.group with
    | none =>
      rw [if_neg (by simp)]
      exact h.same (by rw [adjust, there]; rfl)
    | some g =>
      rw [if_pos ⟨is, rfl⟩]
      refine ⟨?_, ?_⟩
      · intro g' hg'
        obtain rfl : f g = g' := by simpa [adjust, there] using hg'
        exact work g there (h.group g there)
      · intro none
        simp [adjust, there] at none
  · rw [if_neg is, if_neg fun both => is both.1]
    exact h.same rfl

/-- **One call** leaves a group attended, by one consumer more if the call is made for one. -/
theorem step (h : v.Attended names) (clock : Clock) (c : LogCall) :
    (v.step stream group clock c).Attended (names ++ (v.visitor? stream group c).toList) := by
  cases c with
  | readNew x y consumer count block =>
    refine h.visit _ fun g there attended => attended.visit (g.receive_consumers clock.now consumer _) ?_
    intro id d hd
    refine (Group.old_or_received hd).imp_right ?_
    rintro ⟨given, rfl⟩
    obtain ⟨e, he, rfl⟩ := List.mem_map.1 given
    exact ⟨lt_of_le_of_lt (StreamId.zero_le _) (View.lt_of_mem_fresh there he), rfl⟩
  | readPending x y consumer after count =>
    exact h.visit _ fun g _ attended => attended.visit rfl fun id d hd => .inl hd
  | claim x y consumer minIdle ids =>
    refine h.visit _ fun g there attended => attended.visit (v.stream.claimAll_consumers clock.now consumer
      minIdle (g.see consumer) ids) ?_
    intro id d hd
    refine (Stream.old_or_claimed hd).imp_right ?_
    rintro ⟨was, -, owner, -⟩
    obtain ⟨before, is⟩ := Option.isSome_iff_exists.1 was
    exact ⟨attended.positive id before is, owner⟩
  | ack x y ids =>
    show (v.step stream group clock (.ack x y ids)).Attended (names ++ [])
    rw [List.append_nil, View.step]
    split
    · refine ⟨?_, fun none => h.absent (Option.map_eq_none_iff.1 none)⟩
      intro g' hg'
      obtain ⟨g, there, rfl⟩ := Option.map_eq_some_iff.1 hg'
      exact (h.group g there).acknowledgeAll ids
    · exact h
  | createGroup x y start =>
    show (v.step stream group clock (.createGroup x y start)).Attended (names ++ [])
    rw [List.append_nil, View.step]
    split
    · refine ⟨?_, by simp⟩
      rintro g' ⟨⟩
      cases there : v.group with
      | none =>
        rw [h.absent there]
        exact .startingAt start
      | some g => exact h.group g there
    · exact h
  | append x fields maxLen =>
    refine h.same ?_
    rw [View.step]
    split <;> rfl
  | ping | pendingEntries | pendingCount | len | rangeAfter | groups => exact h.same rfl

end View.Attended

namespace Store

theorem visitors_append_singleton (s : Store) (cs : List TimedCall) (c : TimedCall) (stream group : String) :
    (s.history (cs ++ [c])).visitors stream group =
      (s.history cs).visitors stream group ++
        (((s.afterAll cs).view stream group).visitor? stream group c.call).toList := by
  let a : Act := ⟨s.afterAll cs, c.clock, c.call⟩
  rw [history_append, ← a.visitor?_eq stream group, History.visitors, List.flatMap_append]
  exact congrArg _ (List.flatMap_singleton ..)

/-- Every history leaves a group attended by those for whom calls have found it. -/
theorem attended_afterAll (cs : List TimedCall) (stream group : String) :
    ((empty.afterAll cs).view stream group).Attended ((empty.history cs).visitors stream group) := by
  induction cs using List.reverseRecOn with
  | nil => exact ⟨by simp [afterAll, view_empty], fun _ => rfl⟩
  | append_singleton cs c ih =>
    rw [visitors_append_singleton, afterAll_append]
    show (((empty.afterAll cs).perform c.clock c.call).2.view stream group).Attended _
    rw [view_perform]
    exact ih.step c.clock c.call

end Store

/-! ### The lists of a group -/

namespace Group

variable {g : Group} {names : List String}

theorem mem_ownedBy {consumer : String} {id : StreamId} :
    id ∈ g.ownedBy consumer ↔ ∃ d, g.pending.get? id = some d ∧ d.owner = consumer := by
  simp only [ownedBy, List.mem_map, List.mem_filter, beq_iff_eq, Prod.exists, exists_and_right,
    exists_eq_right, Table.mem_pairs_iff]

theorem ownedBy_sublist (consumer : String) : (g.ownedBy consumer).Sublist g.pending.keys :=
  List.Sublist.map _ List.filter_sublist

theorem disjoint_ownedBy {c c' : String} (different : c ≠ c') : (g.ownedBy c).Disjoint (g.ownedBy c') := by
  intro id one other
  obtain ⟨d, hd, rfl⟩ := mem_ownedBy.1 one
  obtain ⟨d', hd', rfl⟩ := mem_ownedBy.1 other
  obtain rfl := Option.some.inj (hd.symm.trans hd')
  exact different rfl

/-- **Consumer by consumer**: the entries of all consumers are those that are pending, each once. -/
theorem perm_ownedBy (h : g.Attended names) : (g.consumers.flatMap g.ownedBy).Perm g.pending.keys := by
  have once : (g.consumers.flatMap g.ownedBy).Nodup := by
    rw [List.nodup_flatMap]
    refine ⟨?_, ?_⟩
    · intro consumer _
      exact (Table.nodup_keys g.pending).sublist (g.ownedBy_sublist consumer)
    · exact h.once.imp disjoint_ownedBy
  rw [List.perm_ext_iff_of_nodup once (Table.nodup_keys g.pending)]
  intro id
  rw [List.mem_flatMap, Table.mem_keys_iff]
  constructor
  · rintro ⟨consumer, -, owned⟩
    obtain ⟨d, hd, -⟩ := mem_ownedBy.1 owned
    exact ⟨d, hd⟩
  · rintro ⟨d, hd⟩
    exact ⟨d.owner, h.known id d hd, mem_ownedBy.2 ⟨d, hd, rfl⟩⟩

end Group

/-! ### The views of a store -/

namespace Store

variable {s : Store} {stream group : String} {st : Stream} {g : Group} {names : List String}

/-- The list of all deliveries, however many it is asked for. -/
theorem pendingEntries_all (there : s.group? stream group = some (st, g)) (h : g.Attended names)
    (now : Instant) {count : Nat} (all : g.pending.size ≤ count) :
    s.pendingEntries now stream group .zero .zero count =
      .ok (g.pending.pairs.map fun p => Group.listing now p.1 p.2) := by
  have idle : g.idle now .zero = g.pending.pairs.map fun p => Group.listing now p.1 p.2 := by
    rw [Group.idle, List.filter_eq_self]
    intro p _
    exact decide_eq_true (Nat.zero_le _)
  have past : (g.idle now .zero).filter (fun p => StreamId.zero < p.id) = g.idle now .zero := by
    rw [List.filter_eq_self, idle]
    intro p hp
    obtain ⟨pair, pending, rfl⟩ := List.mem_map.1 hp
    exact decide_eq_true (h.zero_lt (List.mem_map_of_mem pending))
  rw [pendingEntries, groupOr_of_there there]
  show Except.ok (((g.idle now .zero).filter fun p => StreamId.zero < p.id).take count) = _
  rw [past, idle, List.take_of_length_le]
  rw [List.length_map]
  exact all

/-- All entries of one consumer, however many are asked for. -/
theorem replay_all (there : s.group? stream group = some (st, g)) (h : g.Attended names) (consumer : String)
    {count : Nat} (all : g.pending.size ≤ count) :
    s.replay stream group consumer .zero count =
      .ok ((g.ownedBy consumer).map st.shown, s.putGroup stream st group (g.see consumer)) := by
  have sublist := g.ownedBy_sublist consumer
  have past : ((g.ownedBy consumer).filter fun id => StreamId.zero < id) = g.ownedBy consumer := by
    rw [List.filter_eq_self]
    intro id owned
    exact decide_eq_true (h.zero_lt (sublist.subset owned))
  rw [replay, groupOr_of_there there]
  show Except.ok ((((g.ownedBy consumer).filter fun id => StreamId.zero < id).take count).map st.shown, _) = _
  rw [past, List.take_of_length_le]
  have few := sublist.length_le
  rw [Table.keys, List.length_map] at few
  exact Nat.le_trans few all

/-- To show a known consumer its entries changes nothing. -/
theorem putGroup_see (there : s.group? stream group = some (st, g)) {consumer : String}
    (known : consumer ∈ g.consumers) : s.putGroup stream st group (g.see consumer) = s := by
  rw [Group.see_eq_self known, putGroup_self there]

/-- What the list of groups says of a group. -/
theorem info?_of_there (there : s.group? stream group = some (st, g)) (h : g.Attended names) :
    ∃ info, s.info? stream group = some info ∧ info.pending = g.pending.size ∧
      info.consumers = names.toFinset.card := by
  refine ⟨_, by rw [info?_eq, view_of_there there, Option.map_some], rfl, ?_⟩
  have same : g.consumers.toFinset = names.toFinset := by
    ext name
    rw [List.mem_toFinset, List.mem_toFinset, h.visitors]
  rw [← same, List.toFinset_card_of_nodup h.once]

/-- **The list of groups** has every group once, in the order of the names. -/
theorem groups_of_there (there : s.group? stream group = some (st, g)) :
    ∃ infos, s.groups stream = .ok infos ∧ (infos.map (·.name)).Pairwise (· < ·) ∧
      ∀ name, name ∈ infos.map (·.name) ↔ s.HasGroup stream name := by
  obtain ⟨here, -⟩ := group?_eq_some.1 there
  refine ⟨_, by rw [groups, here], ?_, ?_⟩
  · rw [List.map_map]
    exact List.pairwise_map.2 st.groups.increasing
  · intro name
    rw [List.map_map]
    show name ∈ st.groups.keys ↔ _
    rw [Table.mem_keys_iff, HasGroup, Option.isSome_iff_exists]
    constructor
    · rintro ⟨g', found⟩
      exact ⟨(st, g'), group?_eq_some.2 ⟨here, found⟩⟩
    · rintro ⟨⟨st', g'⟩, is⟩
      obtain ⟨here', found⟩ := group?_eq_some.1 is
      obtain rfl := Option.some.inj (here.symm.trans here')
      exact ⟨g', found⟩

/-- A look at a read is its call in the history of the log, and its consumer has come to the group
from then on, whether the look brings entries or not. -/
theorem info?_attempt {cs : List TimedCall} (there : (empty.afterAll cs).group? stream group = some (st, g))
    {r : ReadRequest} (forStream : r.stream = stream) (forGroup : r.group = group) (now : Instant)
    (feed : Feed) :
    ∃ info, (r.attempt now feed (empty.afterAll cs)).2.info? stream group = some info ∧
      info.consumers = (insert r.consumer ((empty.history cs).visitors stream group).toFinset).card := by
  subst forStream forGroup
  let look : TimedCall := ⟨⟨now, ⟨0⟩⟩, r.call none⟩
  have left : (r.attempt now feed (empty.afterAll cs)).2 = empty.afterAll (cs ++ [look]) := by
    rw [ReadRequest.attempt_store r now ⟨0⟩ feed _ none, afterAll_append]
    rfl
  have hasGroup : (empty.afterAll cs).HasGroup r.stream r.group := by
    rw [HasGroup, there, Option.isSome_some]
  have visitors : (empty.history (cs ++ [look])).visitors r.stream r.group =
      (empty.history cs).visitors r.stream r.group ++ [r.consumer] := by
    have visitor : ((empty.afterAll cs).view r.stream r.group).visitor? r.stream r.group look.call =
        some r.consumer := if_pos ⟨⟨rfl, rfl⟩, hasGroup_iff.1 hasGroup⟩
    rw [visitors_append_singleton, visitor, Option.toList_some]
  have stays : (empty.afterAll (cs ++ [look])).HasGroup r.stream r.group := by
    rw [afterAll_append]
    exact hasGroup.afterAll [look]
  obtain ⟨⟨st', g'⟩, there'⟩ := Option.isSome_iff_exists.1 stays
  have attended := (attended_afterAll (cs ++ [look]) r.stream r.group).group g' (view_of_there there')
  obtain ⟨info, is, -, consumers⟩ := info?_of_there there' attended
  refine ⟨info, by rw [left, is], ?_⟩
  rw [consumers, visitors, List.toFinset_append, List.toFinset_cons, List.toFinset_nil,
    Finset.union_insert, Finset.union_empty]

/-- What is replayed to each consumer of a group: different consumers share nothing, and all of it together is
what is pending. -/
structure Shares (s : Store) (stream group : String) (g : Group) (replayed : String → List StreamId) : Prop where
  /-- To show a known consumer its entries changes nothing, so the order in which this is done does not matter. -/
  shown : ∀ consumer count, g.pending.size ≤ count → ∃ shown left,
    s.replay stream group consumer .zero count = .ok (shown, left) ∧ shown.map (·.id) = replayed consumer ∧
      (consumer ∈ g.consumers → left = s)
  sum : (g.consumers.map fun consumer => (replayed consumer).length).sum = g.pending.size
  disjoint : ∀ c c', c ≠ c' → (replayed c).Disjoint (replayed c')
  all : (g.consumers.flatMap replayed).Perm g.pending.keys
  /-- Each delivery is replayed to its owner, who is a known consumer, and to nobody else. -/
  owner : ∀ id d, g.pending.get? id = some d →
    d.owner ∈ g.consumers ∧ ∀ consumer, id ∈ replayed consumer ↔ consumer = d.owner

/-- What every view of a store says of a group, and of those who have come to it. -/
structure Views (s : Store) (stream group : String) (g : Group) (visitors : Finset String) : Prop where
  counted : s.pendingCount stream group = .ok g.pending.size
  info : ∃ info, s.info? stream group = some info ∧ info.pending = g.pending.size ∧
    info.consumers = visitors.card
  listed : ∀ now count, g.pending.size ≤ count → ∃ listed,
    s.pendingEntries now stream group .zero .zero count = .ok listed ∧ listed.length = g.pending.size ∧
      listed.map (·.id) = g.pending.keys
  shares : ∃ replayed, s.Shares stream group g replayed
  /-- A read counts from its first look on, even if it waits. -/
  looks : ∀ (r : ReadRequest) (now : Instant) (feed : Feed), r.stream = stream → r.group = group →
    ∃ info, (r.attempt now feed s).2.info? stream group = some info ∧
      info.consumers = (insert r.consumer visitors).card
  /-- The list of groups has every group of the stream once, in the order of the names. -/
  groups : ∃ infos, s.groups stream = .ok infos ∧ (infos.map (·.name)).Pairwise (· < ·) ∧
    ∀ name, name ∈ infos.map (·.name) ↔ s.HasGroup stream name

/-- The entries of the consumers of a group are shares of what is pending. -/
theorem shares_ownedBy (there : s.group? stream group = some (st, g)) (h : g.Attended names) :
    s.Shares stream group g g.ownedBy where
  shown := by
    intro consumer count all
    refine ⟨_, _, replay_all there h consumer all, ?_, putGroup_see there⟩
    rw [List.map_map]
    exact List.map_id'' st.id_shown _
  sum := by
    have length := (Group.perm_ownedBy h).length_eq
    rw [List.length_flatMap, Table.keys, List.length_map] at length
    exact length
  disjoint c c' different := Group.disjoint_ownedBy different
  all := Group.perm_ownedBy h
  owner := by
    intro id d hd
    refine ⟨h.known id d hd, ?_⟩
    intro consumer
    rw [Group.mem_ownedBy]
    constructor
    · rintro ⟨d', hd', rfl⟩
      rw [Option.some.inj (hd'.symm.trans hd)]
    · rintro rfl
      exact ⟨d, hd, rfl⟩

/-- **The views agree**: after any calls, for every group that is there, the number of deliveries that
wait to be acknowledged is what the list of groups says, it is the length of the list of all of
them, and it is the sum of the lengths of what is replayed to each consumer that the group knows.
The list of groups says how many different consumers there are for whom a read, a replay or a claim
has found the group. -/
theorem views_agree (cs : List TimedCall) (there : (empty.afterAll cs).group? stream group = some (st, g)) :
    (empty.afterAll cs).Views stream group g ((empty.history cs).visitors stream group).toFinset := by
  have attended : g.Attended ((empty.history cs).visitors stream group) :=
    (attended_afterAll cs stream group).group g (view_of_there there)
  refine ⟨?counted, info?_of_there there attended, ?listed, ⟨_, shares_ownedBy there attended⟩, ?looks,
    groups_of_there there⟩
  case counted =>
    rw [pendingCount, groupOr_of_there there]
    rfl
  case listed =>
    intro now count all
    refine ⟨_, pendingEntries_all there attended now all, ?_, ?_⟩
    · rw [List.length_map]
      rfl
    · rw [List.map_map]
      rfl
  case looks =>
    intro r now feed forStream forGroup
    exact info?_attempt there forStream forGroup now feed

/-- Of three entries one is trimmed while it is pending. One of them is claimed; a third consumer
reads when nothing is left, and a fourth asks for a group that is not there. -/
def threeConsumers : List TimedCall := [
  .atMilli 1 (.createGroup "jobs" "workers" .zero), .atMilli 2 (.append "jobs" [] 2),
  .atMilli 3 (.readNew "jobs" "workers" "ann" 1 none), .atMilli 4 (.append "jobs" [] 2),
  .atMilli 5 (.append "jobs" [] 2), .atMilli 6 (.readNew "jobs" "workers" "ann" 9 none),
  .atMilli 7 (.claim "jobs" "workers" "bob" .zero [⟨4, 0⟩]),
  .atMilli 8 (.readNew "jobs" "workers" "eve" 9 none),
  .atMilli 9 (.readPending "jobs" "auditors" "dan" .zero 9)]

/-- Three deliveries are pending, two with one consumer, one with another and none with the third. -/
theorem views_agree_threeConsumers :
    ∃ st g, (empty.afterAll threeConsumers).group? "jobs" "workers" = some (st, g) ∧ g.pending.size = 3 ∧
      (empty.afterAll threeConsumers).pendingCount "jobs" "workers" = .ok 3 ∧
      (∃ info, (empty.afterAll threeConsumers).info? "jobs" "workers" = some info ∧ info.pending = 3 ∧
        info.consumers = 3) ∧
      (∃ listed,
        (empty.afterAll threeConsumers).pendingEntries ⟨0⟩ "jobs" "workers" .zero .zero 9 = .ok listed ∧
        listed.length = 3) ∧
      ∃ replayed : String → List StreamId,
        (g.consumers.map fun consumer => (replayed consumer).length).sum = 3 ∧
        replayed "ann" = [⟨2, 0⟩, ⟨5, 0⟩] ∧ (g.consumers.flatMap replayed).Perm g.pending.keys := by
  obtain ⟨⟨st, g⟩, there⟩ : ∃ found, (empty.afterAll threeConsumers).group? "jobs" "workers" = some found :=
    Option.isSome_iff_exists.1 (by decide)
  obtain ⟨counted, ⟨info, is, pending, consumers⟩, listed, ⟨replayed, shares⟩, -, -⟩ :=
    views_agree threeConsumers there
  have three : g.pending.size = 3 := by
    have count : ((empty.afterAll threeConsumers).pendingOf "jobs" "workers").size = 3 := by decide
    rw [pendingOf, there] at count
    exact count
  have visitors : ((empty.history threeConsumers).visitors "jobs" "workers").toFinset.card = 3 := by decide
  obtain ⟨entries, listing, length, -⟩ := listed ⟨0⟩ 9 (by omega)
  obtain ⟨es, left, replay, ids, -⟩ := shares.shown "ann" 9 (by omega)
  refine ⟨st, g, there, three, three ▸ counted, ⟨info, is, pending.trans three, consumers.trans visitors⟩,
    ⟨entries, listing, length.trans three⟩, replayed, shares.sum.trans three, ?_, shares.all⟩
  have given : ((empty.afterAll threeConsumers).replay "jobs" "workers" "ann" .zero 9).toOption.map
      (fun r => r.1.map (·.id)) = some [⟨2, 0⟩, ⟨5, 0⟩] := by decide
  rw [replay] at given
  exact ids.symm.trans (Option.some.inj given)

end Store

end StreamQueue
