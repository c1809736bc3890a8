import StreamQueue.Proofs.Log.Retention
import StreamQueue.Proofs.Redis.Listing

/-!
# Entries from a server

An entry goes to a server in the words of a command, its fields one after the other, and comes back in a
reply as an item: its identifier, and a list of the names and the values in turn. The reply to a read has
the items of each stream under the stream's name; a claim and a range are replied to with the items alone.
In place of the fields of an entry that is trimmed there is nothing.

The items are read in two steps. First each list of fields is made a map, in which a name keeps its place
and takes its last value; then the values that are texts are kept. So a name whose last value is no text is
left out, though an earlier value of it may be one, and the other fields are as if it had never been there.
Last, the identifiers are read, and one that is none takes all entries away.

## What is proved

* `lookup_collect`, `get?_ofList_textFields` — the two steps, by look-ups.
* `rawEntries_items`, `rawStreams_rows` — the items of a reply, whatever its shape.
* `entries_survive` — the entries that come back are those that a log in memory keeps.
-/

namespace StreamQueue.Redis

open Text.Utf8 (encode decode? decode?_encode)

/-! ### Fields -/

section Fields

variable {β : Type} {l : List (String × β)} {key name : String} {value : β}

/-- The map of pairs, in which each name has its last value. -/
def collect (l : List (String × β)) : List (String × β) := l.foldl (fun acc p => Value.assign p.1 p.2 acc) []

theorem lookup_assign (acc : List (String × β)) :
    (Value.assign key value acc).lookup name = if name = key then some value else acc.lookup name := by
  induction acc with
  | nil => exact lookup_cons_eq name (key, value) []
  | cons p acc ih =>
    obtain ⟨k, v⟩ := p
    by_cases here : k = key
    · rw [Value.assign, if_pos here, lookup_cons_eq, lookup_cons_eq, here]
      by_cases same : name = key <;> simp [same]
    · rw [Value.assign, if_neg here, lookup_cons_eq, lookup_cons_eq, ih]
      by_cases same : name = k
      · simp [same, here]
      · simp [same]

theorem mem_keys_assign (acc : List (String × β)) :
    name ∈ (Value.assign key value acc).map (·.1) ↔ name = key ∨ name ∈ acc.map (·.1) := by
  induction acc with
  | nil => simp [Value.assign]
  | cons p acc ih =>
    obtain ⟨k, v⟩ := p
    by_cases here : k = key
    · simp [Value.assign, here]
    · rw [Value.assign, if_neg here, List.map_cons, List.mem_cons, ih, List.map_cons, List.mem_cons, or_left_comm]

theorem nodup_keys_assign {acc : List (String × β)} (once : (acc.map (·.1)).Nodup) :
    ((Value.assign key value acc).map (·.1)).Nodup := by
  induction acc with
  | nil => simp [Value.assign]
  | cons p acc ih =>
    obtain ⟨k, v⟩ := p
    obtain ⟨new, once⟩ := List.nodup_cons.1 once
    by_cases here : k = key
    · rw [Value.assign, if_pos here]
      exact List.nodup_cons.2 ⟨new, once⟩
    · rw [Value.assign, if_neg here]
      refine List.nodup_cons.2 ⟨fun mem => ?_, ih once⟩
      exact ((mem_keys_assign acc).1 mem).elim here new

/-- **Each name has its last value.** -/
theorem lookup_collect (l : List (String × β)) (name : String) :
    (collect l).lookup name = l.reverse.lookup name := by
  induction l using List.reverseRecOn with
  | nil => rfl
  | append_singleton l p ih =>
    rw [collect, List.foldl_append, List.foldl_cons, List.foldl_nil, lookup_assign, List.reverse_append,
      List.reverse_singleton, List.singleton_append, lookup_cons_eq, ← ih]
    rfl

theorem nodup_keys_collect (l : List (String × β)) : ((collect l).map (·.1)).Nodup := by
  induction l using List.reverseRecOn with
  | nil => exact List.nodup_nil
  | append_singleton l p ih =>
    rw [collect, List.foldl_append]
    exact nodup_keys_assign ih

theorem nodup_keys_textFields {l : List (String × Value)} (once : (l.map (·.1)).Nodup) :
    ((textFields l).map (·.1)).Nodup := by
  refine once.sublist ?_
  induction l with
  | nil => exact .slnil
  | cons p l ih =>
    have rest := ih (List.nodup_cons.1 once).2
    rw [textFields, List.filterMap_cons]
    cases p.2.text.toOption with
    | none => exact rest.cons p.1
    | some s => exact rest.cons_cons p.1

theorem mem_textFields_iff {l : List (String × Value)} {s : String} :
    (name, s) ∈ textFields l ↔ ∃ v, (name, v) ∈ l ∧ v.text = .ok s := by
  have reads (v : Value) : v.text.toOption = some s ↔ v.text = .ok s := by
    cases v.text <;> simp [Except.toOption]
  simp only [textFields, List.mem_filterMap, Option.map_eq_some_iff, Prod.mk.injEq, Prod.exists]
  constructor
  · rintro ⟨_, v, mem, _, text, rfl, rfl⟩
    exact ⟨v, mem, (reads v).1 text⟩
  · rintro ⟨v, mem, text⟩
    exact ⟨name, v, mem, s, (reads v).2 text, rfl, rfl⟩

/-- **The fields of an entry** are the names whose last value is a text. -/
theorem get?_ofList_textFields (l : List (String × Value)) (name s : String) :
    (Table.ofList (textFields (collect l))).get? name = some s ↔
      ∃ v, l.reverse.lookup name = some v ∧ v.text = .ok s := by
  have once := nodup_keys_textFields (nodup_keys_collect l)
  have backward : ((textFields (collect l)).reverse.map (·.1)).Nodup := by
    rw [List.map_reverse, List.nodup_reverse]
    exact once
  rw [Table.get?_ofList, lookup_eq_some_iff_mem backward, List.mem_reverse, mem_textFields_iff]
  simp only [← lookup_eq_some_iff_mem (nodup_keys_collect l), lookup_collect]

end Fields

/-! ### Items -/

/-- What a server shows of an entry: the text of its identifier, and names with values, or nothing in their
place. No value is a refusal or has one in it. -/
structure Item where
  id : String
  fields : Option (List (String × Value))
  plain : ∀ shown ∈ fields, ∀ p ∈ shown, p.2.firstError? = none

namespace Item

/-- The names and the values that are shown. -/
def pairs (item : Item) : List (String × Value) := item.fields.getD []

/-- The item in a reply. -/
def value (item : Item) : Value :=
  .array [.bulk (encode item.id), match item.fields with
    | none => .nil
    | some shown => .array (shown.flatMap fun p => [.bulk (encode p.1), p.2])]

/-- What is read of an item. -/
def raw (item : Item) : RawEntry := (item.id, collect item.pairs)

/-- An entry is what an item means. Of each name the last value counts, and it is a field if it is a text. -/
structure Means (item : Item) (e : Entry) : Prop where
  id : StreamId.Spells item.id.toList e.id
  fields : ∀ name s, e.fields.get? name = some s ↔
    ∃ v, item.pairs.reverse.lookup name = some v ∧ v.text = .ok s

/-- The item of an entry that is trimmed. -/
def trimmed (id : String) : Item := ⟨id, none, by simp⟩

/-- The item in which a server shows the names and values that it was sent. -/
def echo (id : String) (sent : List (String × String)) : Item where
  id := id
  fields := some (sent.map fun p => (p.1, .bulk (encode p.2)))
  plain := by
    rintro _ ⟨⟩ p mem
    obtain ⟨q, -, rfl⟩ := List.mem_map.1 mem
    rfl

end Item

/-! ### Reading items -/

theorem inPairs_flatMap {α : Type} (l : List α) (k v : α → Value) :
    Value.inPairs (l.flatMap fun a => [k a, v a]) = some (l.map fun a => (k a, v a)) := by
  induction l with
  | nil => rfl
  | cons a l ih =>
    rw [List.flatMap_cons, List.cons_append, List.cons_append, List.nil_append, Value.inPairs, ih]
    rfl

theorem text_bulk_encode (s : String) : (Value.bulk (encode s)).text = .ok s := by
  rw [Value.text, Value.textOf, decode?_encode]

/-- The map of names and values that stand in turn. -/
theorem map_flatMap {α β : Type} (read : Value → Decoded β) (l : List α) (name : α → String) (v : α → Value)
    (b : α → β) (each : ∀ a ∈ l, read (v a) = .ok (b a)) :
    Value.map read (.array (l.flatMap fun a => [.bulk (encode (name a)), v a])) =
      .ok (collect (l.map fun a => (name a, b a))) := by
  have pairs : (l.map fun a => (Value.bulk (encode (name a)), v a)).mapM
      (fun p => do return (← p.1.text, ← read p.2) : Value × Value → Decoded (String × β)) =
        .ok (l.map fun a => (name a, b a)) := by
    rw [List.mapM_map]
    refine mapM_eq_ok fun a mem => ?_
    simp only [Function.comp_apply, text_bulk_encode, each a mem]
    rfl
  rw [Value.map, inPairs_flatMap]
  simp only [pairs]
  rfl

/-- One name and one value. -/
theorem map_single {β : Type} {read : Value → Decoded β} (name : String) {v : Value} {b : β}
    (reads : read v = .ok b) : Value.map read (.array [.bulk (encode name), v]) = .ok [(name, b)] :=
  map_flatMap read [()] (fun _ => name) (fun _ => v) (fun _ => b) fun _ _ => reads

/-- **The items of a reply**, as they are read. -/
theorem rawEntries_items (items : List Item) :
    rawEntries (.array (items.map Item.value)) = .ok (items.map Item.raw) := by
  have each (item : Item) : Value.map (Value.map Value.raw) item.value = .ok [item.raw] := by
    obtain ⟨id, fields, plain⟩ := item
    cases fields with
    | none => exact map_single id rfl
    | some shown =>
      have fields := map_flatMap Value.raw shown (·.1) (·.2) (·.2) fun _ _ => rfl
      rw [List.map_id'] at fields
      exact map_single id fields
  have rows : (items.map Item.value).mapM (Value.map (Value.map Value.raw)) = .ok (items.map fun i => [i.raw]) := by
    rw [List.mapM_map]
    exact mapM_eq_ok fun item _ => each item
  have flat : (items.map fun i => [i.raw]).flatten = items.map Item.raw := by
    rw [← List.flatMap_def, List.map_eq_flatMap]
  rw [rawEntries, Value.list, rows, ← flat]
  rfl

/-- The items of a stream, under its name. -/
structure Row where
  stream : String
  items : List Item

/-- The row in a reply. -/
def Row.value (r : Row) : Value := .array [.bulk (encode r.stream), .array (r.items.map Item.value)]

/-- The items under all names, as they are read. -/
theorem rawStreams_rows (rows : List Row) :
    rawStreams (.array (rows.map Row.value)) = .ok ((rows.flatMap (·.items)).map Item.raw) := by
  have each (r : Row) : Value.map rawEntries r.value = .ok [(r.stream, r.items.map Item.raw)] :=
    map_single r.stream (rawEntries_items r.items)
  have all : (rows.map Row.value).mapM (Value.map rawEntries) =
      .ok (rows.map fun r => [(r.stream, r.items.map Item.raw)]) := by
    rw [List.mapM_map]
    exact mapM_eq_ok fun r _ => each r
  have flat : (rows.map fun r => [(r.stream, r.items.map Item.raw)]).flatten.flatMap (·.2) =
      (rows.flatMap (·.items)).map Item.raw := by
    simp [← List.flatMap_def, List.map_flatMap, List.flatMap_assoc]
  rw [rawStreams, Value.list, all, ← flat]
  rfl

/-- No item has a refusal in it. -/
theorem firstError?_item (item : Item) : item.value.firstError? = none := by
  obtain ⟨id, fields, plain⟩ := item
  cases fields with
  | none => rfl
  | some shown =>
    have fine : Value.firstErrorIn? (shown.flatMap fun p => [.bulk (encode p.1), p.2]) = none := by
      refine firstErrorIn?_eq_none_iff.2 fun v mem => ?_
      obtain ⟨p, there, mem⟩ := List.mem_flatMap.1 mem
      rcases List.mem_cons.1 mem with rfl | mem
      · rfl
      · rw [List.mem_singleton.1 mem]
        exact plain shown rfl p there
    exact firstErrorIn?_eq_none_iff.2 (by simpa [Value.firstError?] using fine)

theorem firstError?_items (items : List Item) : (Value.array (items.map Item.value)).firstError? = none :=
  firstErrorIn?_eq_none_iff.2 (List.forall_mem_map.2 fun item _ => firstError?_item item)

theorem firstError?_rows (rows : List Row) : (Value.array (rows.map Row.value)).firstError? = none := by
  refine firstErrorIn?_eq_none_iff.2 (List.forall_mem_map.2 fun r _ => ?_)
  refine firstErrorIn?_eq_none_iff.2 (List.forall_mem_cons.2 ⟨rfl, List.forall_mem_cons.2 ⟨?_, by simp⟩⟩)
  exact firstError?_items r.items

/-! ### Calls for entries -/

/-- A call that is answered with entries. -/
inductive Fetch
  | new (stream group consumer : String) (count : Nat) (block : Option Span)
  | pending (stream group consumer : String) (after : StreamId) (count : Nat)
  | claim (stream group consumer : String) (minIdle : Span) (ids : List StreamId)
  | range (stream : String) (after : StreamId)

namespace Fetch

/-- What a reply means for the call. -/
def result : Fetch → Reply → Except LogError (List Entry)
  | new stream group consumer count block => Redis.result (.readNew stream group consumer count block)
  | pending stream group consumer after count => Redis.result (.readPending stream group consumer after count)
  | claim stream group consumer minIdle ids => Redis.result (.claim stream group consumer minIdle ids)
  | range stream after => Redis.result (.rangeAfter stream after)

/-- A reply to a read shows the items of all its rows, or says that there is none. -/
inductive Streamed : Value → List Item → Prop
  | nothing : Streamed .nil []
  | rows (rows : List Row) : Streamed (.array (rows.map Row.value)) (rows.flatMap (·.items))

/-- A reply shows items. -/
def Shows : Fetch → Value → List Item → Prop
  | new .., v, items | pending .., v, items => Streamed v items
  | claim .., v, items | range .., v, items => v = .array (items.map Item.value)

variable {f : Fetch} {v : Value} {items : List Item}

theorem decode_items (items : List Item) :
    decode rawEntries (.value (.array (items.map Item.value))) = .ok (items.map Item.raw) := by
  rw [decode, firstError?_items]
  exact rawEntries_items items

theorem decode_streamed (streamed : Streamed v items) :
    ∃ raws, decode (Value.optional rawStreams) (.value v) = .ok raws ∧ raws.getD [] = items.map Item.raw := by
  cases streamed with
  | nothing => exact ⟨none, rfl, rfl⟩
  | rows rows =>
    refine ⟨some ((rows.flatMap (·.items)).map Item.raw), ?_, rfl⟩
    rw [decode, firstError?_rows]
    simp only [Value.optional, rawStreams_rows]
    rfl

/-- **A reply is read item by item**, whatever its shape. -/
theorem result_eq (shows : f.Shows v items) : f.result (.value v) = (items.map Item.raw).mapM readEntry := by
  cases f with
  | new | pending =>
    obtain ⟨raws, read, is⟩ := decode_streamed shows
    rw [result, Redis.result, read, ← is]
    rfl
  | claim | range =>
    obtain rfl := shows
    rw [result, Redis.result, decode_items]
    rfl

end Fetch

/-! ### Entries -/

namespace Item

variable {item : Item} {e : Entry}

theorem readEntry_eq_ok_iff : readEntry item.raw = .ok e ↔ item.Means e := by
  have fields (name s : String) : (Table.ofList (textFields item.raw.2)).get? name = some s ↔
      ∃ v, item.pairs.reverse.lookup name = some v ∧ v.text = .ok s := get?_ofList_textFields item.pairs name s
  constructor
  · intro read
    cases id : readId item.id with
    | error refusal =>
      rw [readEntry, raw, id] at read
      cases read
    | ok id' =>
      rw [readEntry, raw, id] at read
      obtain rfl := Except.ok.inj read
      exact ⟨StreamId.ofText?_eq_some_iff.1 (StreamId.readId_eq_ok_iff.1 id), fields⟩
  · rintro ⟨spelled, same⟩
    have id : readId item.id = .ok e.id := StreamId.readId_eq_ok_iff.2 (StreamId.ofText?_eq_some_iff.2 spelled)
    have all : Table.ofList (textFields item.raw.2) = e.fields :=
      Table.ext_get? fun name => Option.ext fun s => (fields name s).trans (same name s).symm
    rw [readEntry, all, raw, id]
    rfl

theorem readEntry_eq_error_iff {refusal : LogError} : readEntry item.raw = .error refusal ↔
    (∀ id, ¬ StreamId.Spells item.id.toList id) ∧ refusal = .invalidId item.id := by
  rw [← StreamId.readId_eq_error_iff, readEntry, raw]
  cases readId item.id with
  | ok id => exact iff_of_false (fun is => by cases is) (fun is => by cases is)
  | error other =>
    constructor
    · rintro ⟨⟩
      rfl
    · rintro ⟨⟩
      rfl

/-- An item has a meaning if its identifier is one. -/
theorem exists_means_iff : (∃ e, item.Means e) ↔ ∃ id, StreamId.Spells item.id.toList id := by
  constructor
  · rintro ⟨e, means⟩
    exact ⟨e.id, means.id⟩
  · rintro ⟨id, spelled⟩
    exact ⟨⟨id, Table.ofList (textFields item.raw.2)⟩, spelled, get?_ofList_textFields item.pairs⟩

/-- The item of an entry that is trimmed means the entry without fields. -/
theorem means_trimmed_iff {id : String} :
    (trimmed id).Means e ↔ StreamId.Spells id.toList e.id ∧ e = Entry.trimmed e.id := by
  constructor
  · rintro ⟨spelled, fields⟩
    refine ⟨spelled, Entry.ext rfl (Table.ext_get? fun name => Option.eq_none_iff_forall_ne_some.2 fun s is => ?_)⟩
    obtain ⟨v, absent, -⟩ := (fields name s).1 is
    cases absent
  · rintro ⟨spelled, is⟩
    refine ⟨spelled, fun name s => ?_⟩
    rw [is]
    constructor
    · intro absent
      cases absent
    · rintro ⟨v, absent, -⟩
      cases absent

/-- The item of names and values that were sent means an entry with the map of them. -/
theorem means_echo_iff {id : String} {sent : List (String × String)} :
    (echo id sent).Means e ↔ StreamId.Spells id.toList e.id ∧ e.fields = Table.ofList sent := by
  have last (name s : String) : (∃ v, (echo id sent).pairs.reverse.lookup name = some v ∧ v.text = .ok s) ↔
      (Table.ofList sent).get? name = some s := by
    have shown : (echo id sent).pairs.reverse = sent.reverse.map fun p => (p.1, Value.bulk (encode p.2)) :=
      List.map_reverse.symm
    rw [shown, Table.get?_ofList]
    induction sent.reverse with
    | nil => simp
    | cons p rest ih =>
      rw [List.map_cons, lookup_cons_eq, lookup_cons_eq]
      by_cases same : name = p.1
      · simp [same, text_bulk_encode]
      · simpa only [if_neg same] using ih
  constructor
  · rintro ⟨spelled, fields⟩
    exact ⟨spelled, Table.ext_get? fun name => Option.ext fun s => (fields name s).trans (last name s)⟩
  · rintro ⟨spelled, is⟩
    exact ⟨spelled, fun name s => is ▸ (last name s).symm⟩

/-- What a server shows of a command's fields are the words of the command. -/
theorem value_echo (id stream : String) (sent : List (String × String)) (maxLen : Nat) :
    (echo id sent).value = .array [.bulk (encode id),
      .array (((Command.ofCall (.append stream sent maxLen)).words.drop 6).map fun word => .bulk (encode word))] := by
  simp [value, echo, Command.ofCall, Command.plain, List.flatMap_map, List.map_flatMap]

end Item

/-- **Entries survive** a server: take any reply to a read, a claim or a range, in which the server shows any
number of items, whatever the texts of their identifiers and the values of their fields. If all identifiers
are spelled, there is one entry for each item and in this order, which the item means: of each name the last
value is the field if it is a text, and the other fields do not matter. If one is not, the call fails with the
first such text and without an entry. An item without fields means a trimmed entry. An item that shows the words
that were sent to append means an entry with the fields that the log in memory keeps of the same append. -/
theorem entries_survive {f : Fetch} {v : Value} {items : List Item} (shows : f.Shows v items) :
    (∀ entries, f.result (.value v) = .ok entries ↔ List.Forall₂ Item.Means items entries) ∧
    (∀ refusal, f.result (.value v) = .error refusal ↔ ∃ before bad behind, items = before ++ bad :: behind ∧
      (∀ item ∈ before, ∃ id, StreamId.Spells item.id.toList id) ∧ (∀ id, ¬ StreamId.Spells bad.id.toList id) ∧
      refusal = .invalidId bad.id) ∧
    (∀ id e, (Item.trimmed id).Means e ↔ StreamId.Spells id.toList e.id ∧ e = Entry.trimmed e.id) ∧
    ∀ (id : String) (a : Act) stream sent maxLen, a.call = .append stream sent maxLen →
      (Item.echo id sent).value = .array [.bulk (encode id),
        .array (((Command.ofCall a.call).words.drop 6).map fun word => .bulk (encode word))] ∧
      ∀ e, (Item.echo id sent).Means e → StreamId.Spells id.toList e.id ∧
        a.left.entries stream = Stream.lastOf maxLen (a.found.entries stream ++
          [⟨(a.found.streamOrNew stream).nextId a.clock.wall, e.fields⟩]) := by
  have read := f.result_eq shows
  refine ⟨fun entries => ?_, fun refusal => ?_, fun _ _ => Item.means_trimmed_iff, ?_⟩
  · rw [read, mapM_eq_ok_iff, List.forall₂_map_left_iff]
    simp only [Item.readEntry_eq_ok_iff]
  · rw [read, List.mapM_map, mapM_eq_error_iff]
    simp only [Function.comp_apply, Item.readEntry_eq_ok_iff, Item.readEntry_eq_error_iff, Item.exists_means_iff]
  · intro id a stream sent maxLen call
    refine ⟨?_, fun e means => ?_⟩
    · rw [call]
      exact Item.value_echo id stream sent maxLen
    · obtain ⟨spelled, is⟩ := Item.means_echo_iff.1 means
      rw [is]
      exact ⟨spelled, (Act.stream_left_of_append call).1⟩

/-- An item with a value that is no text. -/
def halfRead : Item where
  id := "3-1"
  fields := some [("a", .bulk [0xff]), ("b", .bulk (encode "y"))]
  plain := by
    rintro _ ⟨⟩ p mem
    fin_cases mem <;> rfl

/-- An item with a name twice, one of a trimmed entry, and one that is half read. -/
def threeItems : List Item := [.echo "1-0" [("a", "1"), ("b", "x"), ("a", "2")], .trimmed "+02", halfRead]

/-- They are replayed from under the name of their stream. -/
theorem entries_survive_threeItems :
    let f := Fetch.pending "jobs" "workers" "ann" .zero 10
    let v := Value.array [.array [.bulk (encode "jobs"), .array (threeItems.map Item.value)]]
    f.Shows v threeItems ∧ f.result (.value v) =
      .ok [⟨⟨1, 0⟩, Table.ofList [("a", "2"), ("b", "x")]⟩, ⟨⟨2, 0⟩, .empty⟩, ⟨⟨3, 1⟩, Table.ofList [("b", "y")]⟩] := by
  intro f v
  have shows : f.Shows v threeItems := .rows [⟨"jobs", threeItems⟩]
  refine ⟨shows, ((entries_survive shows).1 _).2 ?_⟩
  have spelled {s : String} {id : StreamId} (read : StreamId.ofText? s = some id) : StreamId.Spells s.toList id :=
    StreamId.ofText?_eq_some_iff.1 read
  refine .cons ?_ (.cons ?_ (.cons ?_ .nil))
  · exact Item.means_echo_iff.2 ⟨spelled (by decide), by decide⟩
  · exact Item.means_trimmed_iff.2 ⟨spelled (by decide), rfl⟩
  · exact Item.readEntry_eq_ok_iff.1 (by decide +kernel)

end StreamQueue.Redis
