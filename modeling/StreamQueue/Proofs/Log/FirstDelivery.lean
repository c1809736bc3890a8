import StreamQueue.Proofs.Log.Group

/-!
# First deliveries

A group has one cursor, and all its readers move it. A read for new entries is given what
lies behind the cursor and takes the cursor along, so no matter how the reads of several
consumers, the appends and everything else are mixed, the deliveries of the group follow one
order.

What has become of the entries of a stream as far as a group is concerned is written down in
a `Ledger`. Three acts change it: an append, the creation of the group, and a read for new
entries. Each keeps it `Sound`.

## What is proved

* `Store.sound_afterAll` — the ledger of every history that had room is sound.
* `Store.first_delivery` — the deliveries of a group are in order, they are the entries from
  the start to the cursor that were not trimmed before the group has come to them, and the
  cursor neither goes back nor jumps over an entry.
-/

namespace StreamQueue

attribute [local instance] StreamId.linearOrder

/-- What has become of the entries of a stream, as far as a group is concerned. -/
structure Ledger where
  /-- The entries that were appended. -/
  appended : List StreamId
  /-- The cursors with which the group was created. -/
  started : List StreamId
  /-- The entries that were delivered to the group for the first time. -/
  delivered : List StreamId
  /-- The entries that were trimmed before the group has come to them. -/
  missed : List StreamId
  /-- The entries that are retained. -/
  retained : List StreamId
  /-- The last entry ever appended. -/
  lastId : StreamId
  /-- The cursor of the group. -/
  cursor? : Option StreamId

namespace Ledger

/-- The group has had its entries in order, and all that it could have. -/
structure Sound (l : Ledger) : Prop where
  retained_appended : ∀ id ∈ l.retained, id ∈ l.appended
  appended_le : ∀ id ∈ l.appended, id ≤ l.lastId
  missed_appended : ∀ id ∈ l.missed, id ∈ l.appended
  missed_gone : ∀ id ∈ l.missed, id ∉ l.retained
  /-- No entry past the cursor is unaccounted for. -/
  kept : ∀ id ∈ l.appended, (∀ c ∈ l.cursor?, c < id) → id ∈ l.retained ∨ id ∈ l.missed
  absent : l.cursor? = none → l.started = [] ∧ l.delivered = []
  present : ∀ c ∈ l.cursor?, ∃ start, l.started = [start] ∧ start ≤ c ∧
    -- An entry that is still to come is past a cursor that has moved, but maybe not past the start.
    (c = start ∨ c ≤ l.lastId) ∧
    ∀ id, id ∈ l.delivered ↔ id ∈ l.appended ∧ start < id ∧ id ≤ c ∧ id ∉ l.missed
  increasing : l.delivered.Pairwise (· < ·)

/-- The ledger after an append that has left some entries. -/
def append (l : Ledger) (id : StreamId) (left : List StreamId) : Ledger :=
  { l with
    appended := l.appended ++ [id]
    missed := l.missed ++ ((l.retained ++ [id]).filter (· ∉ left)).filter fun i => ∀ c ∈ l.cursor?, c < i
    retained := left
    lastId := id }

/-- The ledger after the creation of the group. -/
def create (l : Ledger) (start : StreamId) : Ledger :=
  { l with started := l.started ++ [start], cursor? := some start }

/-- The ledger after a read for new entries that has taken the cursor along. -/
def receive (l : Ledger) (ids : List StreamId) (cursor : StreamId) : Ledger :=
  { l with delivered := l.delivered ++ ids, cursor? := some cursor }

variable {l : Ledger}

theorem Sound.le_cursor (h : l.Sound) {c id : StreamId} (hc : c ∈ l.cursor?) (hid : id ∈ l.delivered) :
    id ≤ c := by
  obtain ⟨start, -, -, -, iff⟩ := h.present c hc
  exact ((iff id).1 hid).2.2.1

theorem Sound.append (h : l.Sound) {id : StreamId} (later : l.lastId < id) {left : List StreamId}
    (hleft : ∀ i ∈ left, i ∈ l.retained ++ [id]) : (l.append id left).Sound := by
  have fresh : id ∉ l.appended := fun hid => absurd later (not_lt.2 (h.appended_le id hid))
  constructor
  case retained_appended =>
    intro i hi
    rcases List.mem_append.1 (hleft i hi) with hi | hi
    · exact List.mem_append_left _ (h.retained_appended i hi)
    · exact List.mem_append_right _ hi
  case appended_le =>
    intro i hi
    rcases List.mem_append.1 hi with hi | hi
    · exact le_trans (h.appended_le i hi) (le_of_lt later)
    · exact le_of_eq (List.mem_singleton.1 hi)
  case missed_appended =>
    intro i hi
    rcases List.mem_append.1 hi with hi | hi
    · exact List.mem_append_left _ (h.missed_appended i hi)
    · rcases List.mem_append.1 (List.mem_of_mem_filter (List.mem_of_mem_filter hi)) with hi | hi
      · exact List.mem_append_left _ (h.retained_appended i hi)
      · exact List.mem_append_right _ hi
  case missed_gone =>
    intro i hi
    rcases List.mem_append.1 hi with hi | hi
    · intro back
      rcases List.mem_append.1 (hleft i back) with back | back
      · exact h.missed_gone i hi back
      · exact fresh (List.mem_singleton.1 back ▸ h.missed_appended i hi)
    · have gone : i ∉ left := by simpa using (List.mem_filter.1 (List.mem_of_mem_filter hi)).2
      exact gone
  case kept =>
    intro i hi past
    change ∀ c ∈ l.cursor?, c < i at past
    have old : i ∈ l.retained ++ [id] ∨ i ∈ l.missed := by
      rcases List.mem_append.1 hi with hi | hi
      · exact (h.kept i hi past).imp_left (List.mem_append_left _)
      · exact .inl (List.mem_append_right _ hi)
    rcases old with old | old
    · by_cases stays : i ∈ left
      · exact .inl stays
      · refine .inr (List.mem_append_right _ (List.mem_filter.2 ⟨List.mem_filter.2 ⟨old, ?_⟩, ?_⟩))
        · simpa using stays
        · simpa using past
    · exact .inr (List.mem_append_left _ old)
  case absent => exact h.absent
  case present =>
    intro c hc
    obtain ⟨start, hs, le, bound, iff⟩ := h.present c hc
    refine ⟨start, hs, le, bound.imp_right fun b => le_trans b (le_of_lt later), fun i => ?_⟩
    have notPast : i ≤ c → i ∉ ((l.retained ++ [id]).filter (· ∉ left)).filter fun i =>
        ∀ c ∈ l.cursor?, c < i := by
      intro hi hm
      have past : ∀ c ∈ l.cursor?, c < i := by simpa using (List.mem_filter.1 hm).2
      exact absurd (past c hc) (not_lt.2 hi)
    -- The new entry is past the start only if it is past the cursor.
    have notNew : start < id → ¬ id ≤ c := by
      intro hlt hle
      rcases bound with rfl | bound
      · exact absurd hlt (not_lt.2 hle)
      · exact absurd later (not_lt.2 (le_trans hle bound))
    simp only [Ledger.append, iff, List.mem_append, List.mem_singleton]
    grind
  case increasing => exact h.increasing

theorem Sound.create (h : l.Sound) (absent : l.cursor? = none) (start : StreamId) :
    (l.create start).Sound := by
  obtain ⟨none_started, none_delivered⟩ := h.absent absent
  constructor
  case retained_appended => exact h.retained_appended
  case appended_le => exact h.appended_le
  case missed_appended => exact h.missed_appended
  case missed_gone => exact h.missed_gone
  case kept =>
    intro i hi _
    exact h.kept i hi (by simp [absent])
  case absent =>
    intro missing
    simp [Ledger.create] at missing
  case present =>
    intro c hc
    obtain rfl : start = c := by simpa [Ledger.create] using hc
    refine ⟨start, by simp [Ledger.create, none_started], le_refl _, .inl rfl, fun i => ?_⟩
    simp only [Ledger.create, none_delivered, List.not_mem_nil, false_iff]
    rintro ⟨-, hlt, hle, -⟩
    exact absurd hlt (not_lt.2 hle)
  case increasing => exact h.increasing

/-- A read for new entries is given what is retained between the old cursor and the new one. -/
theorem Sound.receive (h : l.Sound) {c c' : StreamId} (hc : l.cursor? = some c) (le : c ≤ c')
    (bound : c' = c ∨ c' ≤ l.lastId) {ids : List StreamId} (increasing : ids.Pairwise (· < ·))
    (given : ∀ id, id ∈ ids ↔ id ∈ l.retained ∧ c < id ∧ id ≤ c') : (l.receive ids c').Sound := by
  constructor
  case retained_appended => exact h.retained_appended
  case appended_le => exact h.appended_le
  case missed_appended => exact h.missed_appended
  case missed_gone => exact h.missed_gone
  case kept =>
    intro i hi past
    have past : c' < i := by simpa [Ledger.receive] using past
    exact h.kept i hi (by simpa [hc] using lt_of_le_of_lt le past)
  case absent =>
    intro missing
    simp [Ledger.receive] at missing
  case present =>
    intro d hd
    obtain rfl : c' = d := by simpa [Ledger.receive] using hd
    obtain ⟨start, hs, hle, hb, iff⟩ := h.present c (by simp [hc])
    refine ⟨start, hs, le_trans hle le, ?_, fun i => ?_⟩
    · rcases bound with rfl | bound
      · exact hb
      · exact .inr bound
    · have kept : i ∈ l.appended → c < i → i ∈ l.retained ∨ i ∈ l.missed := fun hi past =>
        h.kept i hi (by simpa [hc] using past)
      have := h.retained_appended i
      have := h.missed_gone i
      simp only [Ledger.receive, List.mem_append, iff, given]
      grind
  case increasing =>
    refine List.pairwise_append.2 ⟨h.increasing, increasing, fun a ha b hb => ?_⟩
    exact lt_of_le_of_lt (h.le_cursor (by simp [hc]) ha) ((given b).1 hb).2.1

end Ledger

/-! ### The ledger of a history -/

namespace View

variable (v : View) (stream group : String) (h : History)

/-- The ledger of a group that a history has brought to a view. -/
def ledger : Ledger where
  appended := h.appended stream
  started := h.started stream group
  delivered := h.delivered stream group
  missed := h.missed stream group
  retained := v.entries.map (·.id)
  lastId := v.lastId
  cursor? := v.group.map (·.cursor)

end View

namespace Act

variable {a : Act} {stream group : String} (h : History)

/-- Nothing is missed where the entries stay. -/
theorem missed_eq_nil (appended : a.appended stream = [])
    (entries : (a.left.view stream group).entries = (a.found.view stream group).entries) :
    a.missed stream group = [] := by
  refine List.eq_nil_iff_forall_not_mem.2 fun id hid => ?_
  rw [missed_eq, appended, entries, List.append_nil] at hid
  obtain ⟨there, gone⟩ := List.mem_filter.1 (List.mem_of_mem_filter hid)
  exact absurd there (by simpa using gone)

/-- An act that leaves the stream alone and does not move the cursor leaves the ledger alone. -/
theorem ledger_idle (appended : a.appended stream = []) (started : a.started stream group = [])
    (delivered : a.delivered stream group = []) {f : Group → Group} (hf : ∀ g, (f g).cursor = g.cursor)
    (left : a.left.view stream group = (a.found.view stream group).adjust f) :
    (a.left.view stream group).ledger stream group (h ++ [a]) =
      (a.found.view stream group).ledger stream group h := by
  have missed : a.missed stream group = [] := missed_eq_nil appended (by rw [left, View.adjust])
  simp [View.ledger, View.adjust, History.appended, History.started, History.delivered, History.missed,
    appended, started, delivered, missed, left, Function.comp_def, hf]

theorem ledger_append (started : a.started stream group = [])
    (delivered : a.delivered stream group = []) {id : StreamId} (appended : a.appended stream = [id])
    (lastId : (a.left.view stream group).lastId = id)
    (same : (a.left.view stream group).group = (a.found.view stream group).group) :
    (a.left.view stream group).ledger stream group (h ++ [a]) =
      ((a.found.view stream group).ledger stream group h).append id
        ((a.left.view stream group).entries.map (·.id)) := by
  simp [View.ledger, Ledger.append, History.appended, History.started, History.delivered,
    History.missed, appended, started, delivered, lastId, missed_eq, same]

theorem ledger_create (appended : a.appended stream = []) (delivered : a.delivered stream group = [])
    {start : StreamId} (started : a.started stream group = [start])
    (left : a.left.view stream group =
      { a.found.view stream group with group := some (.startingAt start) }) :
    (a.left.view stream group).ledger stream group (h ++ [a]) =
      ((a.found.view stream group).ledger stream group h).create start := by
  have missed : a.missed stream group = [] := missed_eq_nil appended (by rw [left])
  simp [View.ledger, Ledger.create, History.appended, History.started, History.delivered,
    History.missed, appended, delivered, started, left, missed]

theorem ledger_receive (appended : a.appended stream = []) (started : a.started stream group = [])
    {es : List Entry} (delivered : a.delivered stream group = es) {g : Group}
    (left : a.left.view stream group = { a.found.view stream group with group := some g }) :
    (a.left.view stream group).ledger stream group (h ++ [a]) =
      ((a.found.view stream group).ledger stream group h).receive (es.map (·.id)) g.cursor := by
  have missed : a.missed stream group = [] := missed_eq_nil appended (by rw [left])
  simp [View.ledger, Ledger.receive, History.appended, History.started, History.delivered,
    History.missed, appended, delivered, started, left, missed]

/-! ### Each act keeps the ledger sound -/

variable {s : Store} {clock : Clock}

theorem sound_append {fields : List (String × String)} {maxLen : Nat}
    (room : (s.view stream group).lastId ≠ StreamId.last)
    (sound : ((s.view stream group).ledger stream group h).Sound) :
    let a : Act := ⟨s, clock, .append stream fields maxLen⟩
    ((a.left.view stream group).ledger stream group (h ++ [a])).Sound := by
  intro a
  have left := a.left_view stream group
  rw [View.step, if_pos rfl] at left
  have appended := a.appended_eq stream group
  rw [View.appended, if_pos rfl] at appended
  rw [ledger_append h rfl rfl appended (by rw [left]; rfl) (by rw [left]; rfl), left]
  refine sound.append (Stream.lt_nextId (s := (s.view stream group).stream) room clock.wall) ?_
  intro id hid
  obtain ⟨e, he, rfl⟩ := List.mem_map.1 hid
  rcases List.mem_append.1 (List.mem_of_mem_drop he) with old | new
  · exact List.mem_append_left _ (List.mem_map_of_mem old)
  · rw [List.mem_singleton.1 new]
    exact List.mem_append_right _ (List.mem_singleton_self _)

theorem sound_createGroup {start : StreamId} (absent : (s.view stream group).group = none)
    (sound : ((s.view stream group).ledger stream group h).Sound) :
    let a : Act := ⟨s, clock, .createGroup stream group start⟩
    ((a.left.view stream group).ledger stream group (h ++ [a])).Sound := by
  intro a
  have left := a.left_view stream group
  rw [View.step, if_pos ⟨rfl, rfl⟩, absent] at left
  have started := a.started_eq stream group
  rw [View.started, if_pos ⟨⟨rfl, rfl⟩, absent⟩] at started
  rw [ledger_create h rfl rfl started left]
  exact sound.create (by simp [View.ledger, absent]) start

theorem sound_readNew {consumer : String} {count : Nat} {block : Option Span} {g : Group}
    (there : (s.view stream group).group = some g) (inOrder : (s.view stream group).InOrder)
    (sound : ((s.view stream group).ledger stream group h).Sound) :
    let a : Act := ⟨s, clock, .readNew stream group consumer count block⟩
    ((a.left.view stream group).ledger stream group (h ++ [a])).Sound := by
  intro a
  have left := a.left_view stream group
  rw [View.step, if_pos ⟨rfl, rfl⟩, View.adjust, there] at left
  have delivered := a.delivered_eq stream group
  rw [View.delivered, if_pos ⟨rfl, rfl⟩] at delivered
  rw [ledger_receive h rfl rfl delivered left]
  refine sound.receive (by simp [View.ledger, there]) (View.cursor_le_receive clock.now consumer there count)
    (View.receive_cursor_le clock.now consumer inOrder count) ?_
    (View.mem_fresh_iff clock.now consumer inOrder there count)
  exact (inOrder.fresh count).map _ fun _ _ => id

/-- **One act** keeps the ledger of a group sound. -/
theorem sound_ledger (room : a.HasRoom) (inOrder : (a.found.view stream group).InOrder)
    (sound : ((a.found.view stream group).ledger stream group h).Sound) :
    ((a.left.view stream group).ledger stream group (h ++ [a])).Sound := by
  have idle (f : Group → Group) (appended : a.appended stream = []) (started : a.started stream group = [])
      (delivered : a.delivered stream group = []) (hf : ∀ g, (f g).cursor = g.cursor)
      (left : a.left.view stream group = (a.found.view stream group).adjust f) :
      ((a.left.view stream group).ledger stream group (h ++ [a])).Sound := by
    rw [ledger_idle h appended started delivered hf left]
    exact sound
  obtain ⟨s, clock, c⟩ := a
  have untouched : s.view stream group = (s.view stream group).adjust fun g => g := by simp [View.adjust]
  have left := left_view ⟨s, clock, c⟩ stream group
  cases c with
  | append x fields maxLen =>
    by_cases here : x = stream
    · subst here
      exact sound_append h room sound
    · rw [View.step, if_neg here] at left
      exact idle _ (if_neg here) rfl rfl (fun _ => rfl) (left.trans untouched)
  | createGroup x y start =>
    by_cases here : (x = stream ∧ y = group) ∧ (s.view stream group).group = none
    · obtain ⟨⟨rfl, rfl⟩, absent⟩ := here
      exact sound_createGroup h absent sound
    · have started := started_eq ⟨s, clock, .createGroup x y start⟩ stream group
      rw [View.started, if_neg here] at started
      refine idle _ rfl started rfl (fun _ => rfl) (left.trans (.trans ?_ untouched))
      rw [View.step]
      split
      · rename_i same
        obtain ⟨g, hg⟩ := Option.ne_none_iff_exists'.1 fun none => here ⟨same, none⟩
        simp [View.ext_iff, hg]
      · rfl
  | readNew x y consumer count block =>
    have delivered := delivered_eq ⟨s, clock, .readNew x y consumer count block⟩ stream group
    by_cases here : x = stream ∧ y = group
    · obtain ⟨rfl, rfl⟩ := here
      cases hg : (s.view x y).group with
      | some g => exact sound_readNew h hg inOrder sound
      | none =>
        rw [View.delivered, if_pos ⟨rfl, rfl⟩, View.fresh, hg] at delivered
        rw [View.step, if_pos ⟨rfl, rfl⟩] at left
        refine idle (fun g => g) rfl rfl delivered (fun _ => rfl) (left.trans ?_)
        simp [View.adjust, hg]
    · rw [View.delivered, if_neg here] at delivered
      rw [View.step, if_neg here] at left
      exact idle _ rfl rfl delivered (fun _ => rfl) (left.trans untouched)
  | readPending x y consumer after count =>
    rw [View.step] at left
    split at left
    · exact idle _ rfl rfl rfl (fun g => g.see_cursor consumer) left
    · exact idle _ rfl rfl rfl (fun _ => rfl) (left.trans untouched)
  | claim x y consumer minIdle ids =>
    rw [View.step] at left
    split at left
    · exact idle _ rfl rfl rfl (fun g => Stream.claimAll_cursor _ _ _ _ (g.see consumer) ids) left
    · exact idle _ rfl rfl rfl (fun _ => rfl) (left.trans untouched)
  | ack x y ids =>
    rw [View.step] at left
    split at left
    · exact idle _ rfl rfl rfl (fun g => g.acknowledgeAll_cursor ids) left
    · exact idle _ rfl rfl rfl (fun _ => rfl) (left.trans untouched)
  | ping | pendingEntries | pendingCount | len | rangeAfter | groups =>
    exact idle _ rfl rfl rfl (fun _ => rfl) (left.trans untouched)

end Act

/-- The cursor of a group stays, or a read takes it along: never back, and never past an
entry that the read is not given. -/
theorem View.cursor_step {v : View} (inOrder : v.InOrder) {g : Group} (hg : v.group = some g)
    (stream group : String) (clock : Clock) (c : LogCall) :
    ∃ g', (v.step stream group clock c).group = some g' ∧ g.cursor ≤ g'.cursor ∧
      ∀ e ∈ v.entries, g.cursor < e.id → e.id ≤ g'.cursor → e ∈ v.delivered stream group c := by
  have stays (g' : Group) (there : (v.step stream group clock c).group = some g')
      (same : g'.cursor = g.cursor) : ∃ g', (v.step stream group clock c).group = some g' ∧
        g.cursor ≤ g'.cursor ∧
        ∀ e ∈ v.entries, g.cursor < e.id → e.id ≤ g'.cursor → e ∈ v.delivered stream group c :=
    ⟨g', there, le_of_eq same.symm, fun e _ past passed => absurd past (not_lt.2 (same ▸ passed))⟩
  cases c with
  | readNew x y consumer count block =>
    by_cases here : x = stream ∧ y = group
    · simp only [View.step, if_pos here, View.adjust, hg, Option.map_some, View.delivered]
      exact ⟨_, rfl, View.cursor_le_receive clock.now consumer hg count,
        fun e he => View.mem_fresh_of_le_cursor clock.now consumer inOrder hg he⟩
    · exact stays _ (by rw [View.step, if_neg here, hg]) rfl
  | createGroup x y start =>
    refine stays g ?_ rfl
    rw [View.step]
    split <;> simp [hg]
  | append x fields maxLen =>
    refine stays g ?_ rfl
    rw [View.step]
    split <;> exact hg
  | readPending x y consumer after count =>
    by_cases here : x = stream ∧ y = group
    · exact stays _ (by rw [View.step, if_pos here, View.adjust, hg]; rfl) (g.see_cursor consumer)
    · exact stays _ (by rw [View.step, if_neg here, hg]) rfl
  | claim x y consumer minIdle ids =>
    by_cases here : x = stream ∧ y = group
    · exact stays _ (by rw [View.step, if_pos here, View.adjust, hg]; rfl)
        (Stream.claimAll_cursor _ _ _ _ (g.see consumer) ids)
    · exact stays _ (by rw [View.step, if_neg here, hg]) rfl
  | ack x y ids =>
    by_cases here : x = stream ∧ y = group
    · exact stays _ (by rw [View.step, if_pos here, View.adjust, hg]; rfl) (g.acknowledgeAll_cursor ids)
    · exact stays _ (by rw [View.step, if_neg here, hg]) rfl
  | ping | pendingEntries | pendingCount | len | rangeAfter | groups => exact stays g hg rfl

theorem Act.cursor_left {a : Act} {stream group : String} (inOrder : (a.found.view stream group).InOrder)
    {c : StreamId} (hc : c ∈ a.found.cursor? stream group) :
    ∃ c' ∈ a.left.cursor? stream group, c ≤ c' ∧ ∀ id ∈ a.found.retained stream, c < id → id ≤ c' →
      id ∈ (a.delivered stream group).map (·.id) := by
  rw [Store.cursor?_eq, Option.mem_def, Option.map_eq_some_iff] at hc
  obtain ⟨g, hg, rfl⟩ := hc
  obtain ⟨g', there, le, given⟩ := View.cursor_step inOrder hg stream group a.clock a.call
  refine ⟨g'.cursor, ?_, le, fun id hid past passed => ?_⟩
  · rw [Store.cursor?_eq, left_view, there]
    rfl
  · rw [Store.retained_eq _ stream group] at hid
    obtain ⟨e, he, rfl⟩ := List.mem_map.1 hid
    rw [delivered_eq]
    exact List.mem_map_of_mem (given e he past passed)

namespace Store

variable (stream group : String)

theorem sound_empty : ((empty.view stream group).ledger stream group []).Sound := by
  constructor <;> simp [View.ledger, view_empty, History.appended, History.started, History.delivered,
    History.missed]

/-- The ledger of every history that had room is sound. -/
theorem sound_afterAll {cs : List TimedCall} (room : empty.Roomy cs) :
    (((empty.afterAll cs).view stream group).ledger stream group (empty.history cs)).Sound := by
  refine (history_induction (P := fun h s => (s.view stream group).InOrder ∧
      ((s.view stream group).ledger stream group h).Sound)
    ⟨inOrder_empty stream group, sound_empty stream group⟩ (fun h a ⟨inOrder, sound⟩ fits => ?_) cs room).2
  exact ⟨inOrder_left fits inOrder, a.sound_ledger h fits inOrder sound⟩

variable {stream group}

/-- **First deliveries**: in every history that had room and in which a group was created at
`start`, the entries delivered to it for the first time, in the order of the deliveries, have
increasing identifiers. They are the entries that were appended past `start` up to the cursor,
apart from those that were trimmed before the group was there or while they were past its
cursor. No call takes the cursor back or past a retained entry that it does not deliver. -/
theorem first_delivery {cs : List TimedCall} (room : empty.Roomy cs) {start : StreamId}
    (created : start ∈ (empty.history cs).started stream group) :
    ((empty.history cs).delivered stream group).Pairwise (· < ·) ∧
    (∃ cursor ∈ (empty.afterAll cs).cursor? stream group, start ≤ cursor ∧
      ∀ id, id ∈ (empty.history cs).delivered stream group ↔
        id ∈ (empty.history cs).appended stream ∧ start < id ∧ id ≤ cursor ∧
          id ∉ (empty.history cs).missed stream group) ∧
    ∀ a ∈ empty.history cs, ∀ c ∈ a.found.cursor? stream group,
      ∃ c' ∈ a.left.cursor? stream group, c ≤ c' ∧
        ∀ id ∈ a.found.retained stream, c < id → id ≤ c' → id ∈ (a.delivered stream group).map (·.id) := by
  have sound := sound_afterAll stream group room
  refine ⟨sound.increasing, ?_, fun a ha c hc => a.cursor_left (inOrder_found room ha stream group) hc⟩
  cases hc : (empty.afterAll cs).cursor? stream group with
  | none =>
    rw [cursor?_eq] at hc
    have missing : (empty.history cs).started stream group = [] := (sound.absent hc).1
    rw [missing] at created
    exact absurd created List.not_mem_nil
  | some cursor =>
    rw [cursor?_eq] at hc
    obtain ⟨first, only, le, -, iff⟩ := sound.present cursor hc
    change (empty.history cs).started stream group = [first] at only
    rw [only] at created
    obtain rfl := List.mem_singleton.1 created
    exact ⟨cursor, rfl, le, iff⟩

/-- Two readers of one group, and an entry that is trimmed before either has come to it. -/
def twoReaders : List TimedCall := [
  .atMilli 1 (.append "jobs" [] 2), .atMilli 2 (.createGroup "jobs" "workers" .zero),
  .atMilli 3 (.append "jobs" [] 2), .atMilli 4 (.append "jobs" [] 2),
  .atMilli 5 (.readNew "jobs" "workers" "ann" 1 none),
  .atMilli 6 (.readNew "jobs" "workers" "bob" 5 none)]

/-- The second reader goes on where the first one has stopped. -/
theorem first_delivery_twoReaders :
    empty.Roomy twoReaders ∧ .zero ∈ (empty.history twoReaders).started "jobs" "workers" ∧
    [⟨3, 0⟩, ⟨4, 0⟩].Pairwise ((· < ·) : StreamId → StreamId → Prop) ∧
    ∃ cursor ∈ (empty.afterAll twoReaders).cursor? "jobs" "workers", .zero ≤ cursor ∧
      ∀ id : StreamId, id ∈ [⟨3, 0⟩, ⟨4, 0⟩] ↔
        id ∈ [⟨1, 0⟩, ⟨3, 0⟩, ⟨4, 0⟩] ∧ StreamId.zero < id ∧ id ≤ cursor ∧ id ∉ [⟨1, 0⟩] := by
  have room : empty.Roomy twoReaders := by decide
  have created : .zero ∈ (empty.history twoReaders).started "jobs" "workers" := by decide
  obtain ⟨increasing, delivered, -⟩ := first_delivery room created
  exact ⟨room, created, increasing, delivered⟩

end Store

end StreamQueue
