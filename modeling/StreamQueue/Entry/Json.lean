import StreamQueue.Entry
import StreamQueue.Json

/-!
# Entries as JSON

An identifier is the string of its text. An entry is an object with the members
`id` and `fields`, the fields being an object of strings.

The reader is more lenient than the writer. It takes the members in any order and
passes over others, though `id` and `fields` may stand only once; it takes an array
of the two values instead of the object; it takes any text that names an
identifier; and of a field that is repeated it keeps the last value.
-/

namespace StreamQueue

/-- An identifier as JSON text. -/
def StreamId.toJson (id : StreamId) : String := Json.quote id.text

/-- The identifier that a value names. -/
def StreamId.ofJson? : Json → Option StreamId
  | .string (some s) => StreamId.ofText? s
  | _ => none

/-- The identifier in a JSON text. -/
def StreamId.parseJson? (text : String) : Option StreamId := do
  StreamId.ofJson? (← Json.parse? text)

namespace Entry

/-- The fields in the members of an object. -/
def fieldPairs? : List (Option String × Json) → Option (List (String × String))
  | [] => some []
  | (some name, .string (some value)) :: rest => (fieldPairs? rest).map ((name, value) :: ·)
  | _ => none

/-- The fields that a value holds. -/
def fieldsOfJson? : Json → Option Fields
  | .object members => (fieldPairs? members).map Table.ofList
  | _ => none

/-- The values of the members with a name. -/
def membersNamed (name : String) (members : List (Option String × Json)) : List Json :=
  (members.filter fun m => m.1 == some name).map (·.2)

/-- The entry that a value holds. -/
def ofJson? : Json → Option Entry
  | .array [id, fields] => return ⟨← StreamId.ofJson? id, ← fieldsOfJson? fields⟩
  | .object members =>
    if members.all fun m => m.1.isSome then
      match membersNamed "id" members, membersNamed "fields" members with
      | [id], [fields] => return ⟨← StreamId.ofJson? id, ← fieldsOfJson? fields⟩
      | _, _ => none
    else none
  | _ => none

/-- The entry in a JSON text. -/
def parseJson? (text : String) : Option Entry := do ofJson? (← Json.parse? text)

/-- An entry as JSON text. -/
def toJson (e : Entry) : String :=
  Json.objectText [("id", e.id.toJson),
    ("fields", Json.objectText (e.fields.pairs.map fun p => (p.1, Json.quote p.2)))]

end Entry

end StreamQueue
