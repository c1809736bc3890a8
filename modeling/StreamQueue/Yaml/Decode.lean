import StreamQueue.Text.Decimal
import StreamQueue.Text.Quoted
import StreamQueue.Yaml.Document
import StreamQueue.Yaml.Number

/-!
# Reading values from YAML documents

A decoder reads one node of a document as a value: a text, a number, or a record
with named fields. An alias is read as the node that it stands for. Fields that a
record does not know are passed over, and all fields may be missing.

A decoder says where in the record it was when something did not fit; what did not
fit comes before any damage behind it in the text.

## What is defined

* `Decoder.text`, `Decoder.word64`, `Decoder.int64` and `Decoder.record`.
* `Decoder.ofText` reads the only document of a text.
-/

namespace StreamQueue.Yaml

/-- What stands where something else was expected. -/
inductive Found
  | unit
  | bool (b : Bool)
  | integer (n : Int)
  /-- A whole number that needs more than 64 bits. -/
  | wideInteger (n : Int)
  /-- A fraction, as it is shown. -/
  | fraction (shown : String)
  | string (s : String)
  | sequence
  | mapping
  deriving DecidableEq, Repr

/-- How a person is told of what stands somewhere. -/
def Found.message : Found → String
  | unit => "unit value"
  | bool b => s!"boolean \x60{b}\x60"
  | integer n => s!"integer \x60{n}\x60"
  | wideInteger n => s!"integer \x60{n}\x60 as " ++ (if n < 0 then "i128" else "u128")
  | fraction shown => s!"floating point \x60{shown}\x60"
  | string s => "string " ++ Text.quoted s
  | sequence => "sequence"
  | mapping => "map"

/-- What does not fit. -/
inductive Misfit
  /-- A node of another kind than was expected. -/
  | kind (found : Found) (expected : String)
  /-- A text that its tag says to be something else. -/
  | content (text : String) (expected : String)
  /-- A field that a record has twice. -/
  | duplicate (field : String)
  deriving DecidableEq, Repr

def Misfit.message : Misfit → String
  | kind found expected => s!"invalid type: {found.message}, expected {expected}"
  | content text expected => s!"invalid value: {(Found.string text).message}, expected {expected}"
  | duplicate field => s!"duplicate field \x60{field}\x60"

/-- Why a text could not be read as a value. -/
inductive DecodeError
  | damaged (damage : Damage)
  /-- There is no node where one is needed. -/
  | endOfDocument
  /-- Another document follows. -/
  | notAlone
  /-- Something does not fit, in a field that is named by its path, at a place. -/
  | misfit (misfit : Misfit) (path : String) (place : Mark)
  deriving DecidableEq, Repr

/-- The place of an error, unless it is the beginning of the text. -/
def atPlace (m : Mark) : String := if m.isOrigin then "" else " at " ++ m.message

/-- How a person is told why a text could not be read. -/
def DecodeError.message : DecodeError → String
  | damaged (.fault fault) => fault.message
  | damaged (.unknownAnchor place) => "unknown anchor" ++ atPlace place
  | endOfDocument => "EOF while parsing a value"
  | notAlone => "deserializing from YAML containing more than one document is not supported"
  | misfit m path place =>
    (if path.isEmpty then "" else path ++ ": ") ++ m.message ++ atPlace place

/-! ### What stands in a document -/

/-- What a whole number that fits in no 64 bits is taken for. -/
def wideFound? (cs : List Char) : Option Found :=
  match Number.unsigned? (Nat.pow 2 128 - 1) cs, Number.signed? (Nat.pow 2 127 - 1) cs with
  | some n, _ => some (.wideInteger n)
  | none, some n => some (.wideInteger n)
  | none, none => none

/-- What a whole number is taken for. -/
def integerFound? (s : String) : Option Found :=
  match Number.unsigned? Text.Decimal.maxWord64 s.toList,
      Number.signed? Text.Decimal.maxInt64 s.toList with
  | some n, _ => some (.integer n)
  | none, some n => some (.integer n)
  | none, none => wideFound? s.toList

def nullFound? (s : String) : Option Found :=
  if ["null", "Null", "NULL", "~"].contains s then some .unit else none

def boolFound? (s : String) : Option Found :=
  if ["true", "True", "TRUE"].contains s then some (.bool true)
  else if ["false", "False", "FALSE"].contains s then some (.bool false)
  else none

def fractionFound? (s : String) : Option Found := (Number.fractionText? s).map .fraction

/-- What a plain scalar is taken for. -/
def plainFound (s : String) : Found :=
  if s.isEmpty then .unit
  else (nullFound? s <|> boolFound? s <|> integerFound? s <|> fractionFound? s).getD (.string s)

/-- The tags of the kinds of scalars. -/
def scalarTag (name : String) : String := "tag:yaml.org,2002:" ++ name

/-- What a tagged scalar comes to where something else was expected. -/
def misfitOfTagged (found? : String → Option Found) (s kind expected : String) : Misfit :=
  match found? s with
  | some found => .kind found expected
  | none => .content s kind

/-- What a scalar comes to where something else was expected. -/
def misfitOfScalar (tag : Option String) (s : String) (style : Style) (expected : String) : Misfit :=
  let untagged := if style == .plain then plainFound s else .string s
  match tag with
  | none => .kind untagged expected
  | some t =>
    if t == scalarTag "bool" then misfitOfTagged boolFound? s "a boolean" expected
    else if t == scalarTag "int" then misfitOfTagged integerFound? s "an integer" expected
    else if t == scalarTag "float" then misfitOfTagged fractionFound? s "a float" expected
    else if t == scalarTag "null" then misfitOfTagged nullFound? s "null" expected
    else if t.startsWith "!" then .kind untagged expected
    else .kind (.string s) expected

/-- The error of a node where something else was expected. -/
def misplaced (n : Node) (expected path : String) (place : Mark) : DecodeError :=
  match n with
  | .scalar tag s style => .misfit (misfitOfScalar tag s style expected) path place
  | .sequenceStart => .misfit (.kind .sequence expected) path place
  | .mappingStart => .misfit (.kind .mapping expected) path place
  | .absent | .aliasOf _ | .sequenceEnd | .mappingEnd => .endOfDocument

namespace Document

/-- Why there is no node at a position. -/
def lack (d : Document) : DecodeError := (d.damage.map .damaged).getD .endOfDocument

/-- The node at a position. -/
def nodeAt (d : Document) (position : Nat) : Except DecodeError (Node × Mark) :=
  match d.nodes[position]? with
  | some n => .ok n
  | none => .error d.lack

/-- The node at a position or, if it is an alias, the node that it stands for, together
with its position. -/
def follow (d : Document) (position : Nat) : Except DecodeError (Nat × Node × Mark) := do
  match ← d.nodeAt position with
  | (.aliasOf number, _) =>
    match d.positionOf? number with
    | some target => return (target, ← d.nodeAt target)
    | none => .error .endOfDocument
  | found => return (position, found)

/-- The position behind what begins at a position inside `depth` collections. -/
def skipFrom (d : Document) : Nat → (depth : Nat) → (position : Nat) → Except DecodeError Nat
  | 0, _, _ => .error d.lack
  | fuel + 1, depth, position => do
    let (n, _) ← d.nodeAt position
    let depth := match n with
      | .sequenceStart | .mappingStart => depth + 1
      | .sequenceEnd | .mappingEnd => depth - 1
      | _ => depth
    if depth == 0 then return position + 1
    d.skipFrom fuel depth (position + 1)

/-- The position behind the node at a position. -/
def skip (d : Document) (position : Nat) : Except DecodeError Nat :=
  d.skipFrom (d.nodes.size + 1) 0 position

end Document

/-! ### Decoders -/

/-- A way to read a value: in a document, in a field with a path, at a position. It
yields the value and the position behind its node. -/
abbrev Decoder (α : Type) := Document → (path : String) → (position : Nat) → Except DecodeError (α × Nat)

namespace Decoder

/-- Read a scalar of a kind. -/
def scalar {α : Type} (expected : String) (read : Option String → String → Style → Option α) :
    Decoder α := fun d path position => do
  let (_, n, m) ← d.follow position
  let value := match n with
    | .scalar tag s style => read tag s style
    | _ => none
  match value with
  | some a => return (a, position + 1)
  | none => .error (misplaced n expected path m)

/-- Read any scalar as its text. -/
def text : Decoder String := scalar "a string" fun _ s _ => some s

/-- Whether a scalar may be a number: it is plain, or literal and tagged as one. -/
def mayBeInteger (tag : Option String) (style : Style) : Bool :=
  style == .plain || (style == .literal && tag == some (scalarTag "int"))

/-- Read a number of 64 bits. -/
def word64 : Decoder Nat := scalar "usize" fun tag s style =>
  if mayBeInteger tag style then Number.unsigned? Text.Decimal.maxWord64 s.toList else none

/-- Read a signed number of 64 bits. -/
def int64 : Decoder Int := scalar "i64" fun tag s style =>
  if mayBeInteger tag style then Number.signed? Text.Decimal.maxInt64 s.toList else none

/-- How a field of a record is read, given the record so far. -/
abbrev Field (α : Type) := String × (α → Decoder α)

/-- A field that is read with a decoder and put into the record. -/
def field {α β : Type} (name : String) (read : Decoder β) (put : β → α → α) : Field α :=
  (name, fun a d path position => do
    let (b, next) ← read d path position
    return (put b a, next))

/-- The path of a field in a record. A field that is named by an alias has no path of
its own. -/
def innerPath (path : String) (key : Node) : String :=
  let outer := if path.isEmpty then "" else path ++ "."
  match key with
  | .scalar _ s _ => outer ++ s
  | _ => outer ++ "?"

/-- Read the fields of a record that begins at `began`, from a position on. -/
def fieldsFrom {α : Type} (fields : List (Field α)) (began : Mark) (d : Document) (path : String) :
    Nat → (seen : List String) → α → (position : Nat) → Except DecodeError (α × Nat)
  | 0, _, _, _ => .error d.lack
  | fuel + 1, seen, a, position => do
    match ← d.nodeAt position with
    | (.mappingEnd, _) => return (a, position + 1)
    | (written, _) =>
      let (_, key, place) ← d.follow position
      let .scalar _ name _ := key | .error (misplaced key "field identifier" path place)
      match fields.lookup name with
      | none => fieldsFrom fields began d path fuel seen a (← d.skip (position + 1))
      | some read =>
        if seen.contains name then .error (.misfit (.duplicate name) path began)
        else
          let (a, next) ← read a d (innerPath path written) (position + 1)
          fieldsFrom fields began d path fuel (name :: seen) a next

/-- Read a record, with the fields it has when they are missing. An absent node is a
record without fields. -/
def record {α : Type} (expected : String) (fields : List (Field α)) (empty : α) : Decoder α :=
  fun d path position => do
    let (start, n, m) ← d.follow position
    match n with
    | .absent | .scalar _ "" .plain => return (empty, position + 1)
    | .mappingStart =>
      let (a, next) ← fieldsFrom fields m d path (d.nodes.size + 1) [] empty (start + 1)
      return (a, if start == position then next else position + 1)
    | n => .error (misplaced n expected path m)

/-- Read the only document of a text. -/
def ofText {α : Type} (read : Decoder α) (s : String) : Except DecodeError α := do
  let d := Document.ofText s
  let (a, _) ← read d "" 0
  match d.damage with
  | some damage => .error (.damaged damage)
  | none => if d.isLast then return a else .error .notAlone

end Decoder

end StreamQueue.Yaml
