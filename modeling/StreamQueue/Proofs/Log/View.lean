import StreamQueue.Proofs.Log.History

/-!
# The view of a group

A call on a log touches one stream, and most calls touch one group of it. What a store
holds that concerns a group is its `View`: the entries of the stream, the last identifier
given out in it, and the group itself. The rest of the store, other streams and other
groups of the same stream, has no part in it.

## What is proved

* `Store.view_perform` — a call changes the view of a group as `View.step` says, which
  knows nothing but the view.
* `View.step_elim` — what such a step may be, for a property of views that all calls keep.
* `Act.delivered_eq`, `Act.acknowledged_eq`, `Act.appended_eq` — what a call answers for a
  group or a stream depends on the view alone.

So a statement about the histories of one group is one about the steps of its view.
-/

namespace StreamQueue

/-- What a log holds that concerns a group of a stream. -/
@[ext]
structure View where
  /-- The retained entries of the stream, oldest first. -/
  entries : List Entry
  /-- The identifier of the last entry ever appended to the stream. -/
  lastId : StreamId
  /-- The group, if it is there. -/
  group : Option Group

/-- A group after entries are delivered to a consumer for the first time. -/
def Group.receive (g : Group) (now : Instant) (consumer : String) (es : List Entry) : Group :=
  es.foldl (fun g e => g.deliver now consumer e) (g.see consumer)

namespace View

/-- The stream that a view shows, its groups left out. -/
def stream (v : View) : Stream := ⟨v.entries, v.lastId, Table.empty⟩

/-- The deliveries that wait to be acknowledged. -/
def pending (v : View) : Table StreamId Delivery :=
  match v.group with
  | some g => g.pending
  | none => Table.empty

/-- The entries that a read for new entries is given. -/
def fresh (v : View) (count : Nat) : List Entry :=
  match v.group with
  | some g => (v.stream.after g.cursor).take count
  | none => []

/-- The view with the group, if it is there, changed. -/
def adjust (v : View) (f : Group → Group) : View := { v with group := v.group.map f }

/-- The view after an append to the stream. -/
def push (v : View) (wall : Timestamp) (fields : Fields) (maxLen : Nat) : View :=
  let st := v.stream.push wall fields maxLen
  ⟨st.entries, st.lastId, v.group⟩

/-- The view of a group after a call. -/
def step (stream group : String) (clock : Clock) (v : View) : LogCall → View
  | .append s fields maxLen =>
    if s = stream then v.push clock.wall (Table.ofList fields) maxLen else v
  | .createGroup s g start =>
    if s = stream ∧ g = group then { v with group := some (v.group.getD (.startingAt start)) } else v
  | .readNew s g consumer count _ =>
    if s = stream ∧ g = group then v.adjust fun h => h.receive clock.now consumer (v.fresh count)
    else v
  | .readPending s g consumer _ _ =>
    if s = stream ∧ g = group then v.adjust fun h => h.see consumer else v
  | .claim s g consumer minIdle ids =>
    if s = stream ∧ g = group then
      v.adjust fun h => (v.stream.claimAll clock.now consumer minIdle (h.see consumer) ids).2
    else v
  | .ack s g ids =>
    if s = stream ∧ g = group then v.adjust fun h => (h.acknowledgeAll ids).2 else v
  | .ping | .pendingEntries .. | .pendingCount .. | .len .. | .rangeAfter .. | .groups .. => v

/-- **What one call may do** to the view of a group: nothing, an append to its stream, its
creation, or one of four kinds of work on it while it is there. -/
theorem step_elim {motive : View → Prop} {stream group : String} {clock : Clock} {v : View} {c : LogCall}
    (idle : motive v)
    (push : ∀ fields maxLen, c = .append stream fields maxLen →
      motive (v.push clock.wall (Table.ofList fields) maxLen))
    (create : ∀ start, v.group = none → motive { v with group := some (.startingAt start) })
    (read : ∀ consumer count, motive (v.adjust fun g => g.receive clock.now consumer (v.fresh count)))
    (see : ∀ consumer, motive (v.adjust fun g => g.see consumer))
    (claim : ∀ consumer minIdle ids, motive (v.adjust fun g =>
      (v.stream.claimAll clock.now consumer minIdle (g.see consumer) ids).2))
    (ack : ∀ ids, motive (v.adjust fun g => (g.acknowledgeAll ids).2)) :
    motive (v.step stream group clock c) := by
  cases c with
  | append s fields maxLen =>
    rw [step]
    split
    · rename_i same
      exact push fields maxLen (by rw [same])
    · exact idle
  | createGroup s g start =>
    rw [step]
    split
    · cases there : v.group with
      | none => exact create start there
      | some g =>
        rw [Option.getD_some, ← there]
        exact idle
    · exact idle
  | readNew s g consumer count block =>
    rw [step]
    split
    · exact read consumer count
    · exact idle
  | readPending s g consumer after count =>
    rw [step]
    split
    · exact see consumer
    · exact idle
  | claim s g consumer minIdle ids =>
    rw [step]
    split
    · exact claim consumer minIdle ids
    · exact idle
  | ack s g ids =>
    rw [step]
    split
    · exact ack ids
    · exact idle
  | ping | pendingEntries | pendingCount | len | rangeAfter | groups => exact idle

/-- A group stays where it is. -/
theorem isSome_group_step {stream group : String} {v : View} (there : v.group.isSome) (clock : Clock)
    (c : LogCall) : (v.step stream group clock c).group.isSome := by
  refine step_elim (motive := fun v' => v'.group.isSome) there ?push ?create ?read ?see ?claim ?ack
  case push => exact fun _ _ _ => there
  case create => exact fun _ _ => rfl
  all_goals simp [adjust, there]

end View

/-- A claim looks at the entries of its stream and at nothing else of it. -/
theorem Stream.claimAll_congr {s t : Stream} (h : s.entries = t.entries) (now : Instant)
    (consumer : String) (minIdle : Span) (g : Group) (ids : List StreamId) :
    s.claimAll now consumer minIdle g ids = t.claimAll now consumer minIdle g ids := by
  have one : ∀ g id, s.claimOne now consumer minIdle g id = t.claimOne now consumer minIdle g id := by
    intro g id
    simp only [claimOne, find?, h]
  induction ids generalizing g with
  | nil => rfl
  | cons id ids ih => simp only [claimAll, one, ih]

namespace Store

/-! ### A group in its place -/

section Place

variable {s : Store} {a b : String} {st : Stream} {g : Group}

theorem group?_eq_some :
    s.group? a b = some (st, g) ↔ s.streams.get? a = some st ∧ st.groups.get? b = some g := by
  simp only [group?, Option.bind_eq_bind, Option.bind_eq_some_iff, Option.pure_def, Option.some.injEq,
    Prod.mk.injEq]
  constructor
  · rintro ⟨st', here, g', there, rfl, rfl⟩
    exact ⟨here, there⟩
  · rintro ⟨here, there⟩
    exact ⟨st, here, g, there, rfl, rfl⟩

theorem group?_putGroup (s : Store) (a b : String) (st : Stream) (g : Group) :
    (s.putGroup a st b g).group? a b = some ({ st with groups := st.groups.insert b g }, g) := by
  rw [group?_eq_some]
  constructor
  · rw [putGroup, putStream, Table.get?_insert, if_pos rfl]
  · rw [Table.get?_insert, if_pos rfl]

/-- A group that is written twice is as if it had been written once. -/
theorem putGroup_putGroup (s : Store) (a b : String) (st : Stream) (g g' : Group) :
    (s.putGroup a st b g).putGroup a { st with groups := st.groups.insert b g } b g' =
      s.putGroup a st b g' := by
  simp only [putGroup, putStream, Table.insert_insert]

/-- To write a group as it stands changes nothing. -/
theorem putGroup_self (there : s.group? a b = some (st, g)) : s.putGroup a st b g = s := by
  obtain ⟨here, found⟩ := group?_eq_some.1 there
  rw [putGroup, Table.insert_self found, putStream, Table.insert_self here]

end Place

/-! ### The view in a store -/

variable (s : Store) (stream group : String)

/-- The view of a group in a store. -/
def view : View :=
  let st := s.streamOrNew stream
  ⟨st.entries, st.lastId, st.groups.get? group⟩

theorem streamOrNew_putStream (a : String) (st : Stream) :
    (s.putStream a st).streamOrNew stream = if stream = a then st else s.streamOrNew stream := by
  simp only [streamOrNew, putStream, Table.get?_insert]
  split <;> rfl

theorem view_putStream (a : String) (st : Stream) :
    (s.putStream a st).view stream group =
      if a = stream then ⟨st.entries, st.lastId, st.groups.get? group⟩ else s.view stream group := by
  simp only [view, streamOrNew_putStream, eq_comm (a := a)]
  split <;> rfl

/-- To put back a stream with one group replaced changes the view of that group alone. -/
theorem view_putGroup (a b : String) (h : Group) :
    (s.putGroup a (s.streamOrNew a) b h).view stream group =
      if a = stream ∧ b = group then { s.view stream group with group := some h }
      else s.view stream group := by
  simp only [putGroup, view_putStream, Table.get?_insert, eq_comm (a := group)]
  by_cases ha : a = stream
  · subst ha
    by_cases hb : b = group <;> simp [hb, view]
  · simp [ha]

theorem group?_eq :
    s.group? stream group = (s.view stream group).group.map fun g => (s.streamOrNew stream, g) := by
  simp only [group?, view, streamOrNew]
  cases s.streams.get? stream with
  | none => rfl
  | some st => cases h : st.groups.get? group <;> simp [h]

theorem groupOr_eq :
    s.groupOr stream group =
      match (s.view stream group).group with
      | some g => .ok (s.streamOrNew stream, g)
      | none => .error (.groupNotFound stream group) := by
  rw [groupOr, group?_eq]
  cases (s.view stream group).group <;> rfl

theorem pendingOf_eq : s.pendingOf stream group = (s.view stream group).pending := by
  rw [pendingOf, group?_eq, View.pending]
  cases (s.view stream group).group <;> rfl

theorem cursor?_eq : s.cursor? stream group = (s.view stream group).group.map (·.cursor) := by
  rw [cursor?, group?_eq, Option.map_map]
  rfl

theorem entries_eq : s.entries stream = (s.view stream group).entries := by
  simp only [entries, view, streamOrNew]
  cases s.streams.get? stream <;> rfl

theorem retained_eq : s.retained stream = (s.view stream group).entries.map (·.id) := by
  rw [retained, entries_eq s stream group]

/-- What the list of the groups of a stream says of one of them. -/
def info? : Option GroupInfo :=
  match s.groups stream with
  | .ok infos => infos.find? fun info => info.name == group
  | .error _ => none

theorem info?_eq :
    s.info? stream group = (s.view stream group).group.map fun g =>
      ⟨group, g.consumers.length, g.pending.size, g.cursor⟩ := by
  simp only [info?, groups, view, streamOrNew]
  cases s.streams.get? stream with
  | none => rfl
  | some st =>
    simp only [List.find?_map, Function.comp_def, Table.find?_pairs, Option.map_map, Option.getD_some]

/-! ### One operation at a time -/

variable (a b : String)

theorem createGroup_eq (start : StreamId) :
    s.createGroup a b start =
      match (s.view a b).group with
      | some _ => .error (.groupExists a b)
      | none => .ok (s.putGroup a (s.streamOrNew a) b (.startingAt start)) := by
  cases hg : (s.streamOrNew a).groups.get? b with
  | some g =>
    have there : (s.streamOrNew a).groups.contains b = true := by rw [Table.contains, hg]; rfl
    simp [createGroup, there, view, hg]
  | none =>
    have missing : (s.streamOrNew a).groups.contains b = false := by rw [Table.contains, hg]; rfl
    simp [createGroup, missing, view, hg]

theorem deliver_eq (now : Instant) (consumer : String) (count : Nat) :
    s.deliver now a b consumer count =
      match (s.view a b).group with
      | some g => .ok ((s.view a b).fresh count,
          s.putGroup a (s.streamOrNew a) b (g.receive now consumer ((s.view a b).fresh count)))
      | none => .error (.groupNotFound a b) := by
  rw [deliver, groupOr_eq, View.fresh]
  cases (s.view a b).group <;> rfl

theorem replay_eq (consumer : String) (after : StreamId) (count : Nat) :
    s.replay a b consumer after count =
      match (s.view a b).group with
      | some g => .ok ((((g.ownedBy consumer).filter fun id => after < id).take count).map
          (s.view a b).stream.shown, s.putGroup a (s.streamOrNew a) b (g.see consumer))
      | none => .error (.groupNotFound a b) := by
  rw [replay, groupOr_eq]
  cases (s.view a b).group <;> rfl

theorem claim_eq (now : Instant) (consumer : String) (minIdle : Span) (ids : List StreamId) :
    s.claim now a b consumer minIdle ids =
      match (s.view a b).group with
      | some g =>
        let r := (s.view a b).stream.claimAll now consumer minIdle (g.see consumer) ids
        .ok (r.1, s.putGroup a (s.streamOrNew a) b r.2)
      | none => .error (.groupNotFound a b) := by
  rw [claim, groupOr_eq]
  cases (s.view a b).group with
  | none => rfl
  | some g =>
    simp only [← Stream.claimAll_congr (s := s.streamOrNew a) (t := (s.view a b).stream) rfl]
    rfl

theorem ack_eq (ids : List StreamId) :
    s.ack a b ids =
      match (s.view a b).group with
      | some g => ((g.acknowledgeAll ids).1,
          s.putGroup a (s.streamOrNew a) b (g.acknowledgeAll ids).2)
      | none => (0, s) := by
  rw [ack, group?_eq]
  cases (s.view a b).group <;> rfl

/-- Work on a group that is there changes its view, and no other. -/
theorem view_settle {α : Type} (f : Group → α × Group) (e : LogError) :
    (s.settle (match (s.view a b).group with
        | some g => .ok ((f g).1, s.putGroup a (s.streamOrNew a) b (f g).2)
        | none => .error e)).2.view stream group =
      if a = stream ∧ b = group then (s.view stream group).adjust fun g => (f g).2
      else s.view stream group := by
  by_cases h : a = stream ∧ b = group
  · obtain ⟨rfl, rfl⟩ := h
    rw [if_pos ⟨rfl, rfl⟩]
    cases hg : (s.view a b).group with
    | none => simp [settle, View.adjust, View.ext_iff, hg]
    | some g => simp [settle, View.adjust, view_putGroup, hg]
  · rw [if_neg h]
    cases (s.view a b).group with
    | none => rfl
    | some g => simp [settle, view_putGroup, h]

/-- **One call** changes the view of a group as the view's own step says. -/
theorem view_perform (clock : Clock) (c : LogCall) :
    (s.perform clock c).2.view stream group = (s.view stream group).step stream group clock c := by
  cases c with
  | append a fields maxLen =>
    simp only [perform, append, view_putStream, View.step, View.push]
    by_cases h : a = stream
    · subst h
      rfl
    · simp only [if_neg h]
  | createGroup a b start =>
    simp only [perform, createGroup_eq, View.step]
    by_cases h : a = stream ∧ b = group
    · obtain ⟨rfl, rfl⟩ := h
      cases hg : (s.view a b).group with
      | some g => simp [settle, Except.map, View.ext_iff, hg]
      | none => simp [settle, Except.map, view_putGroup]
    · cases (s.view a b).group with
      | some g => simp [settle, Except.map, h]
      | none => simp [settle, Except.map, view_putGroup, h]
  | readNew a b consumer count block =>
    simp only [perform, deliver_eq, View.step]
    rw [s.view_settle stream group a b fun g =>
      ((s.view a b).fresh count, g.receive clock.now consumer ((s.view a b).fresh count))]
    refine ite_congr rfl (fun h => ?_) fun _ => rfl
    obtain ⟨rfl, rfl⟩ := h
    rfl
  | readPending a b consumer after count =>
    simp only [perform, replay_eq, View.step]
    exact s.view_settle stream group a b (fun g =>
      ((((g.ownedBy consumer).filter fun id => after < id).take count).map
        (s.view a b).stream.shown, g.see consumer)) _
  | claim a b consumer minIdle ids =>
    simp only [perform, claim_eq, View.step]
    rw [s.view_settle stream group a b fun g =>
      (s.view a b).stream.claimAll clock.now consumer minIdle (g.see consumer) ids]
    refine ite_congr rfl (fun h => ?_) fun _ => rfl
    obtain ⟨rfl, rfl⟩ := h
    rfl
  | ack a b ids =>
    simp only [perform, ack_eq, View.step]
    by_cases h : a = stream ∧ b = group
    · obtain ⟨rfl, rfl⟩ := h
      cases hg : (s.view a b).group with
      | none => simp [View.adjust, View.ext_iff, hg]
      | some g => simp [View.adjust, view_putGroup, hg]
    · rw [if_neg h]
      cases (s.view a b).group with
      | none => rfl
      | some g => simp [view_putGroup, h]
  | ping => rfl
  | pendingEntries => rfl
  | pendingCount => rfl
  | len => rfl
  | rangeAfter => rfl
  | groups => rfl

end Store

/-! ### What a call answers -/

namespace View

/-- The entries that a call delivers to a group for the first time. -/
def delivered (stream group : String) (v : View) : LogCall → List Entry
  | .readNew s g _ count _ => if s = stream ∧ g = group then v.fresh count else []
  | _ => []

/-- The entries that a call on a group answers with. -/
def answered (stream group : String) (clock : Clock) (v : View) : LogCall → List Entry
  | .readNew s g _ count _ => if s = stream ∧ g = group then v.fresh count else []
  | .readPending s g consumer after count =>
    if s = stream ∧ g = group then
      (v.group.map fun h => (((h.ownedBy consumer).filter fun id => after < id).take count).map
        v.stream.shown).getD []
    else []
  | .claim s g consumer minIdle ids =>
    if s = stream ∧ g = group then
      (v.group.map fun h =>
        (v.stream.claimAll clock.now consumer minIdle (h.see consumer) ids).1).getD []
    else []
  | _ => []

/-- What a call answers to an acknowledgement for a group. -/
def acknowledged (stream group : String) (v : View) : LogCall → Nat
  | .ack s g ids =>
    if s = stream ∧ g = group then (v.group.map fun h => (h.acknowledgeAll ids).1).getD 0 else 0
  | _ => 0

/-- The identifier that a call appends to a stream. -/
def appended (stream : String) (clock : Clock) (v : View) : LogCall → List StreamId
  | .append s _ _ => if s = stream then [v.stream.nextId clock.wall] else []
  | _ => []

/-- The cursor with which a call creates a group. -/
def started (stream group : String) (v : View) : LogCall → List StreamId
  | .createGroup s g start => if (s = stream ∧ g = group) ∧ v.group = none then [start] else []
  | _ => []

end View

namespace Act

variable (a : Act) (stream group : String)

theorem left_view :
    a.left.view stream group = (a.found.view stream group).step stream group a.clock a.call :=
  a.found.view_perform stream group a.clock a.call

private theorem ite_nil {α : Type} {p : Prop} [Decidable p] {l : List α} (h : p → l = []) :
    (if p then l else []) = [] := by
  split
  · exact h ‹p›
  · rfl

theorem delivered_eq :
    a.delivered stream group = (a.found.view stream group).delivered stream group a.call := by
  obtain ⟨s, clock, c⟩ := a
  cases c with
  | readNew x y consumer count block =>
    simp only [delivered, LogCall.delivered, result, View.delivered, Store.perform, Store.deliver_eq]
    cases hg : (s.view x y).group with
    | some g =>
      refine ite_congr rfl (fun h => ?_) fun _ => rfl
      obtain ⟨rfl, rfl⟩ := h
      rfl
    | none => exact (ite_nil (by rintro ⟨rfl, rfl⟩; rw [View.fresh, hg])).symm
  | _ => rfl

theorem answered_eq :
    a.answered stream group = (a.found.view stream group).answered stream group a.clock a.call := by
  obtain ⟨s, clock, c⟩ := a
  cases c with
  | readNew x y consumer count block =>
    simp only [answered, LogCall.answered, result, View.answered, Store.perform, Store.deliver_eq]
    cases hg : (s.view x y).group with
    | some g =>
      refine ite_congr rfl (fun h => ?_) fun _ => rfl
      obtain ⟨rfl, rfl⟩ := h
      rfl
    | none => exact (ite_nil (by rintro ⟨rfl, rfl⟩; rw [View.fresh, hg])).symm
  | readPending x y consumer after count =>
    simp only [answered, LogCall.answered, result, View.answered, Store.perform, Store.replay_eq]
    cases hg : (s.view x y).group with
    | some g =>
      refine ite_congr rfl (fun h => ?_) fun _ => rfl
      obtain ⟨rfl, rfl⟩ := h
      rw [hg]
      rfl
    | none => exact (ite_nil (by rintro ⟨rfl, rfl⟩; simp [hg])).symm
  | claim x y consumer minIdle ids =>
    simp only [answered, LogCall.answered, result, View.answered, Store.perform, Store.claim_eq]
    cases hg : (s.view x y).group with
    | some g =>
      refine ite_congr rfl (fun h => ?_) fun _ => rfl
      obtain ⟨rfl, rfl⟩ := h
      rw [hg]
      rfl
    | none => exact (ite_nil (by rintro ⟨rfl, rfl⟩; simp [hg])).symm
  | _ => rfl

theorem acknowledged_eq :
    a.acknowledged stream group = (a.found.view stream group).acknowledged stream group a.call := by
  obtain ⟨s, clock, c⟩ := a
  cases c with
  | ack x y ids =>
    refine ite_congr rfl (fun h => ?_) fun _ => rfl
    obtain ⟨rfl, rfl⟩ := h
    change (s.ack x y ids).1 = ((s.view x y).group.map fun g => (g.acknowledgeAll ids).1).getD 0
    rw [Store.ack_eq]
    cases (s.view x y).group <;> rfl
  | _ => rfl

theorem appended_eq :
    a.appended stream = (a.found.view stream group).appended stream a.clock a.call := by
  obtain ⟨s, clock, c⟩ := a
  cases c with
  | append x fields maxLen =>
    refine ite_congr rfl (fun h => ?_) fun _ => rfl
    subst h
    rfl
  | _ => rfl

theorem started_eq :
    a.started stream group = (a.found.view stream group).started stream group a.call := by
  obtain ⟨s, clock, c⟩ := a
  cases c with
  | createGroup x y start =>
    simp only [started, LogCall.started, result, View.started, Store.perform, Store.createGroup_eq]
    by_cases h : x = stream ∧ y = group
    · obtain ⟨rfl, rfl⟩ := h
      cases (s.view x y).group <;> simp [Store.settle, Except.map]
    · cases (s.view x y).group <;> simp [Store.settle, Except.map, h]
  | _ => rfl

theorem missed_eq :
    a.missed stream group =
      (((a.found.view stream group).entries.map (·.id) ++ a.appended stream).filter fun id =>
        id ∉ (a.left.view stream group).entries.map (·.id)).filter fun id =>
          ∀ g ∈ (a.found.view stream group).group, g.cursor < id := by
  simp only [missed, trimmed, Store.retained_eq _ stream group, Store.cursor?_eq]
  refine List.filter_congr fun id _ => ?_
  simp

end Act

end StreamQueue
