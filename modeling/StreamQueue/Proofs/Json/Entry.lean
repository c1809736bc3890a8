import StreamQueue.Entry.Json
import StreamQueue.Proofs.Json.Reading
import StreamQueue.Proofs.Text.Identifier

/-!
# Entries as JSON

An entry is written in one way, up to the order of its fields, and may be given in many: with its
members in any order and others between them, as an array of two, with any spelling of the identifier,
with fields that are repeated. Here is said which values hold an entry (`Entry.Holds`), and which entry
that is. Reading follows it, so whatever was read is written in the one way and read again as the same
entry, its identifier now in the canonical spelling.

## What is proved

* `Entry.ofJson?_eq_some_iff` — a value is taken for the entry that it holds.
* `Entry.denotes_text` — what is written of an entry is a value that holds it, in any order of its fields.
* `Entry.json_exact` — what the texts that are read and written mean.
-/

namespace StreamQueue

open Json (Denotes objectText quote)

/-! ### Identifiers and fields -/

/-- The identifier that a value names, in any spelling. -/
inductive NamesId : Json → StreamId → Prop
  | mk {s : String} {id : StreamId} (spelled : StreamId.Spells s.toList id) : NamesId (.string (some s)) id

theorem StreamId.ofJson?_eq_some_iff {j : Json} {id : StreamId} : StreamId.ofJson? j = some id ↔ NamesId j id := by
  constructor
  · intro read
    unfold ofJson? at read
    split at read
    case h_1 => exact .mk (ofText?_eq_some_iff.1 read)
    case h_2 => exact absurd read (Option.some_ne_none _).symm
  · rintro ⟨spelled⟩
    exact ofText?_eq_some_iff.2 spelled

/-- Named texts as the members of an object. -/
def textMembers (pairs : List (String × String)) : List (Option String × Json) :=
  pairs.map fun p => (some p.1, .string (some p.2))

/-- The fields that a value holds: of those with the same name the last one. -/
inductive HoldsFields : Json → Fields → Prop
  | mk {pairs : List (String × String)} {fields : Fields}
    (lasts : ∀ name, fields.get? name = pairs.reverse.lookup name) : HoldsFields (.object (textMembers pairs)) fields

namespace Entry

theorem fieldPairs?_eq_some_iff {members : List (Option String × Json)} {pairs : List (String × String)} :
    fieldPairs? members = some pairs ↔ members = textMembers pairs := by
  fun_induction fieldPairs? members generalizing pairs with
  | case1 => cases pairs <;> simp [textMembers]
  | case2 name value members ih =>
    cases pairs with
    | nil => simp [textMembers]
    | cons p pairs =>
      have others := @ih pairs
      simp only [textMembers] at others
      simp [textMembers, ← others, Prod.ext_iff, and_assoc, and_comm]
  | case3 members nonempty other =>
    cases pairs with
    | nil => simpa [textMembers] using nonempty
    | cons p pairs =>
      simp only [reduceCtorEq, false_iff]
      rintro rfl
      exact other p.1 p.2 (textMembers pairs) rfl

theorem fieldsOfJson?_eq_some_iff {j : Json} {fields : Fields} :
    fieldsOfJson? j = some fields ↔ HoldsFields j fields := by
  constructor
  · intro read
    unfold fieldsOfJson? at read
    split at read
    case h_1 members =>
      obtain ⟨pairs, texts, rfl⟩ := Option.map_eq_some_iff.1 read
      rw [fieldPairs?_eq_some_iff.1 texts]
      exact .mk fun name => Table.get?_ofList pairs name
    case h_2 => exact absurd read (Option.some_ne_none _).symm
  · rintro ⟨lasts⟩
    rw [fieldsOfJson?, fieldPairs?_eq_some_iff.2 rfl, Option.map_some, Option.some.injEq]
    exact Table.ext_get? fun name => (Table.get?_ofList _ name).trans (lasts name).symm

/-! ### Entries -/

/-- The entry that a value holds. -/
inductive Holds : Json → Entry → Prop
  /-- Identifier and fields in an array. -/
  | pair {i f : Json} {e : Entry} (id : NamesId i e.id) (fields : HoldsFields f e.fields) : Holds (.array [i, f]) e
  /-- An object with each of the two once, anywhere among others. -/
  | members {i f : Json} {e : Entry} {members others : List (Option String × Json)} (id : NamesId i e.id)
    (fields : HoldsFields f e.fields) (known : members.Perm ((some "id", i) :: (some "fields", f) :: others))
    (unknown : ∀ m ∈ others, ∃ name, m.1 = some name ∧ name ≠ "id" ∧ name ≠ "fields") : Holds (.object members) e

variable {members others : List (Option String × Json)} {name : String} {i f : Json} {e : Entry}

theorem filter_of_membersNamed (named : membersNamed name members = [f]) :
    (members.filter fun m => m.1 == some name) = [(some name, f)] := by
  obtain ⟨m, only, rfl⟩ := List.map_eq_singleton_iff.1 named
  have there : m ∈ members.filter fun m => m.1 == some name := by simp [only]
  have key : m.1 = some name := by simpa using (List.mem_filter.1 there).2
  rw [only, ← key]

/-- An object with both members has nothing beside them but others. -/
theorem perm_of_membersNamed (ids : membersNamed "id" members = [i])
    (fields : membersNamed "fields" members = [f]) :
    members.Perm ((some "id", i) :: (some "fields", f) ::
      (members.filter fun m => !m.1 == some "id").filter fun m => !m.1 == some "fields") := by
  have behind : ((members.filter fun m => !m.1 == some "id").filter fun m => m.1 == some "fields") =
      [(some "fields", f)] := by
    rw [← filter_of_membersNamed fields, List.filter_filter]
    refine List.filter_congr fun m _ => ?_
    cases here : m.1 == some "fields" with
    | false => rfl
    | true => simp [beq_iff_eq.1 here]
  have rest := List.filter_append_perm (fun m : Option String × Json => m.1 == some "fields")
    (members.filter fun m => !m.1 == some "id")
  have whole := List.filter_append_perm (fun m : Option String × Json => m.1 == some "id") members
  rw [behind] at rest
  rw [filter_of_membersNamed ids] at whole
  exact whole.symm.trans (rest.symm.cons _)

theorem membersNamed_of_perm (known : members.Perm ((some "id", i) :: (some "fields", f) :: others))
    (unknown : ∀ m ∈ others, ∃ name, m.1 = some name ∧ name ≠ "id" ∧ name ≠ "fields") :
    membersNamed "id" members = [i] ∧ membersNamed "fields" members = [f] := by
  have noId : (others.filter fun m => m.1 == some "id") = [] := by
    refine List.filter_eq_nil_iff.2 fun m mem => ?_
    obtain ⟨name, key, noId, -⟩ := unknown m mem
    simp [key, noId]
  have noFields : (others.filter fun m => m.1 == some "fields") = [] := by
    refine List.filter_eq_nil_iff.2 fun m mem => ?_
    obtain ⟨name, key, -, noFields⟩ := unknown m mem
    simp [key, noFields]
  have same (name : String) :
      (membersNamed name members).Perm (membersNamed name ((some "id", i) :: (some "fields", f) :: others)) :=
    (known.filter _).map _
  have ids : membersNamed "id" ((some "id", i) :: (some "fields", f) :: others) = [i] := by
    simp [membersNamed, noId]
  have fields : membersNamed "fields" ((some "id", i) :: (some "fields", f) :: others) = [f] := by
    simp [membersNamed, noFields]
  exact ⟨List.perm_singleton.1 (ids ▸ same "id"), List.perm_singleton.1 (fields ▸ same "fields")⟩

/-- **Reading a value**: it is taken for the entry that it holds. -/
theorem ofJson?_eq_some_iff {j : Json} : ofJson? j = some e ↔ Holds j e := by
  have both {i f : Json} {e : Entry} : (do return ⟨← StreamId.ofJson? i, ← fieldsOfJson? f⟩ : Option Entry) = some e ↔
      NamesId i e.id ∧ HoldsFields f e.fields := by
    rw [← StreamId.ofJson?_eq_some_iff, ← fieldsOfJson?_eq_some_iff]
    cases StreamId.ofJson? i <;> cases fieldsOfJson? f <;> simp [Entry.ext_iff]
  constructor
  · intro read
    unfold ofJson? at read
    split at read
    case h_1 i f =>
      obtain ⟨id, fields⟩ := both.1 read
      exact .pair id fields
    case h_2 members =>
      split at read
      case isFalse => exact absurd read (Option.some_ne_none _).symm
      case isTrue keys =>
        split at read
        case h_2 => exact absurd read (Option.some_ne_none _).symm
        case h_1 i f ids fields =>
          obtain ⟨id, fields'⟩ := both.1 read
          refine .members id fields' (perm_of_membersNamed ids fields) fun m mem => ?_
          simp only [List.mem_filter, Bool.not_eq_true', beq_eq_false_iff_ne] at mem
          obtain ⟨⟨there, noId⟩, noFields⟩ := mem
          obtain ⟨name, key⟩ := Option.isSome_iff_exists.1 (List.all_eq_true.1 keys m there)
          exact ⟨name, key, fun same => noId (same ▸ key), fun same => noFields (same ▸ key)⟩
    case h_3 => exact absurd read (Option.some_ne_none _).symm
  · intro holds
    cases holds with
    | pair id fields => exact both.2 ⟨id, fields⟩
    | @members i f _ members others id fields known unknown =>
      have keys : (members.all fun m => m.1.isSome) = true := by
        refine List.all_eq_true.2 fun m mem => ?_
        have there := known.subset mem
        simp only [List.mem_cons] at there
        rcases there with rfl | rfl | there
        · rfl
        · rfl
        · obtain ⟨name, key, -⟩ := unknown m there
          rw [key, Option.isSome_some]
      obtain ⟨ids, all⟩ := membersNamed_of_perm known unknown
      rw [ofJson?, if_pos keys, ids, all]
      exact both.2 ⟨id, fields⟩

theorem parseJson?_eq_some_iff {text : String} :
    parseJson? text = some e ↔ ∃ j, Denotes text.toList j ∧ Holds j e := by
  simp only [parseJson?, Option.bind_eq_bind, Option.bind_eq_some_iff, Json.parse?_eq_some_iff, ofJson?_eq_some_iff]

/-! ### What is written -/

/-- An entry as it is written with its fields in some order. -/
def textOf (id : StreamId) (pairs : List (String × String)) : String :=
  objectText [("id", id.toJson), ("fields", objectText (pairs.map fun p => (p.1, quote p.2)))]

/-- The value that is written of an entry. -/
def written (id : StreamId) (pairs : List (String × String)) : Json :=
  .object [(some "id", .string (some id.text)), (some "fields", .object (textMembers pairs))]

theorem toJson_eq (e : Entry) : e.toJson = textOf e.id e.fields.pairs := rfl

theorem denotes_textOf (id : StreamId) (pairs : List (String × String)) :
    Denotes (textOf id pairs).toList (written id pairs) := by
  have texts : Denotes (objectText (pairs.map fun p => (p.1, quote p.2))).toList (.object (textMembers pairs)) := by
    have each : ∀ m ∈ pairs.map fun p => (p.1, quote p.2, Json.string (some p.2)), Denotes m.2.1.toList m.2.2 := by
      intro m mem
      obtain ⟨p, -, rfl⟩ := List.mem_map.1 mem
      exact Json.denotes_quote p.2
    simpa [textMembers, Function.comp_def] using Json.denotes_objectText each
  have both : ∀ m ∈ [("id", id.toJson, Json.string (some id.text)),
      ("fields", objectText (pairs.map fun p => (p.1, quote p.2)), Json.object (textMembers pairs))],
      Denotes m.2.1.toList m.2.2 := by
    simpa using ⟨Json.denotes_quote id.text, texts⟩
  have whole := Json.denotes_objectText both
  simp only [List.map_cons, List.map_nil] at whole
  rw [textOf, written]
  exact whole

theorem holdsFields_perm {pairs : List (String × String)} {fields : Fields} (order : pairs.Perm fields.pairs) :
    HoldsFields (.object (textMembers pairs)) fields := by
  have once : (pairs.reverse.map Prod.fst).Nodup := by
    rw [List.map_reverse, List.nodup_reverse, (order.map Prod.fst).nodup_iff]
    exact fields.nodup_keys
  refine .mk fun name => Option.ext fun value => ?_
  rw [lookup_eq_some_iff_mem once, List.mem_reverse, order.mem_iff]
  exact Table.mem_pairs_iff.symm

theorem holds_written {pairs : List (String × String)} (order : pairs.Perm e.fields.pairs) :
    Holds (written e.id pairs) e :=
  .members (.mk (StreamId.spells_text e.id)) (holdsFields_perm order) (.refl _)
    fun _ mem => absurd mem List.not_mem_nil

/-- **An entry that is written is read back**, in whatever order its fields are written. -/
theorem parseJson?_textOf {pairs : List (String × String)} (order : pairs.Perm e.fields.pairs) :
    parseJson? (textOf e.id pairs) = some e :=
  parseJson?_eq_some_iff.2 ⟨_, denotes_textOf e.id pairs, holds_written order⟩

/-- A value that gives a text for the identifier of an entry. -/
inductive GivesId : Json → String → Prop
  | pair {s : String} {rest : List Json} : GivesId (.array (.string (some s) :: rest)) s
  | members {s : String} {members : List (Option String × Json)} (there : (some "id", .string (some s)) ∈ members) :
    GivesId (.object members) s

/-- The identifier of an entry has the text that was given for it. -/
theorem Holds.spells {j : Json} {s : String} (holds : Holds j e) (given : GivesId j s) :
    StreamId.Spells s.toList e.id := by
  cases given with
  | pair =>
    cases holds with
    | pair id => cases id with | mk spelled => exact spelled
  | members there =>
    cases holds with
    | @members i f _ _ others id fields known unknown =>
      have mem := known.subset there
      simp only [List.mem_cons, Prod.mk.injEq, Option.some.injEq] at mem
      rcases mem with ⟨-, rfl⟩ | ⟨other, -⟩ | mem
      · cases id with | mk spelled => exact spelled
      · exact absurd other (by decide)
      · obtain ⟨name, key, noId, -⟩ := unknown _ mem
        exact absurd (Option.some.inj key).symm noId

/-- **Entries and their JSON.** An entry is read back from what is written of it, in any order of its fields.
A text is read as an entry exactly if it denotes a value that holds it; what is written of that entry is
read as the same, and gives the identifier in its canonical spelling. A text that gives an identifier which
is no spelling of one is not read. -/
theorem json_exact :
    (∀ e : Entry, parseJson? e.toJson = some e) ∧
    (∀ (e : Entry) pairs, pairs.Perm e.fields.pairs → parseJson? (textOf e.id pairs) = some e) ∧
    (∀ text e, parseJson? text = some e ↔ ∃ j, Denotes text.toList j ∧ Holds j e) ∧
    (∀ text e, parseJson? text = some e → parseJson? e.toJson = some e ∧
      Denotes e.toJson.toList (written e.id e.fields.pairs)) ∧
    (∀ text j s, Denotes text.toList j → GivesId j s → (∀ id, ¬ StreamId.Spells s.toList id) →
      parseJson? text = none) := by
  have back (e : Entry) : parseJson? e.toJson = some e := by
    rw [toJson_eq]
    exact parseJson?_textOf (.refl _)
  refine ⟨back, fun e pairs => parseJson?_textOf, fun text e => parseJson?_eq_some_iff,
    fun text e read => ⟨back e, denotes_textOf e.id e.fields.pairs⟩, ?refused⟩
  case refused =>
    intro text j s denotes given unspelled
    rw [Option.eq_none_iff_forall_ne_some]
    intro e read
    obtain ⟨other, same, holds⟩ := parseJson?_eq_some_iff.1 read
    obtain rfl := denotes.unique same
    exact unspelled e.id (holds.spells given)

end Entry
end StreamQueue
