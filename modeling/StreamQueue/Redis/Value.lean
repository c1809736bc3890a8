import StreamQueue.Redis.Error
import StreamQueue.Text.Decimal
import StreamQueue.Text.Quoted
import StreamQueue.Text.Utf8

/-!
# Replies of a Redis server

A reply is a value of the protocol, and most operations read it in a form of their
own: a text, a number, a list, a map, a tuple. A reader takes what a server may
reasonably send for the form, so a number may come as a number or as its digits,
and a map as the list of its keys and values in turn. A reply of another form is an
error of the client.

An error anywhere within a reply is the reply's error; the one that comes first wins.
-/

namespace StreamQueue.Redis

/-- A reply. -/
inductive Value
  /-- Nothing, as a text or as a list. -/
  | nil
  | int (n : Int)
  /-- Bytes that are mostly a text. -/
  | bulk (bytes : List UInt8)
  /-- A status line. -/
  | simple (text : String)
  | array (items : List Value)
  /-- The line with which the server refuses. -/
  | error (line : String)
  deriving Repr, Inhabited

/-- What a reader makes of a reply. -/
abbrev Decoded (α : Type) := Except Error α

namespace Value

mutual

/-- The first error in a reply. -/
def firstError? : Value → Option String
  | error line => some line
  | array items => firstErrorIn? items
  | _ => none

/-- The first error in the items of a reply. -/
def firstErrorIn? : List Value → Option String
  | [] => none
  | v :: vs => v.firstError? <|> firstErrorIn? vs

end

mutual

/-- A reply as it is shown in an error. -/
def describe : Value → String
  | nil => "nil"
  | int n => "int(" ++ toString n ++ ")"
  | bulk bytes =>
    match Text.Utf8.decode? bytes with
    | some s => "bulk-string('" ++ Text.quoted s ++ "')"
    | none => "binary-data([" ++ ", ".intercalate (bytes.map fun b => toString b.toNat) ++ "])"
  | simple text => if text == "OK" then "ok" else "simple-string(" ++ Text.quoted text ++ ")"
  | array items => "array([" ++ ", ".intercalate (describeAll items) ++ "])"
  | error line => "error(" ++ Text.quoted line ++ ")"

/-- The items of a reply as they are shown in an error. -/
def describeAll : List Value → List String
  | [] => []
  | v :: vs => v.describe :: describeAll vs

end

/-- What describes a reply of another form than was asked for. -/
def wrongForm : String := "Response was of incompatible type"

/-- A reply of another form than was asked for. -/
def unexpected {α : Type} (v : Value) (expected : String) : Decoded α :=
  .error (.described .type wrongForm
    (some (Text.quoted expected ++ " (response was " ++ v.describe ++ ")")))

/-- The text of bytes. -/
def textOf (bytes : List UInt8) : Decoded String :=
  match Text.Utf8.decode? bytes with
  | some s => .ok s
  | none => .error (.wrongType "Invalid UTF-8")

/-- A text. -/
def text : Value → Decoded String
  | bulk bytes => textOf bytes
  | simple s => .ok s
  | int n => .ok (toString n)
  | v => v.unexpected "Response type not string compatible."

/-- A word of 64 bits. A number below zero is read as the word with the same bits. -/
def word : Value → Decoded Nat
  | int n => .ok (n % UInt64.size).toNat
  | simple s =>
    match Text.Decimal.word64? s with
    | some n => .ok n
    | none => (simple s).unexpected "Could not convert from string."
  | bulk bytes => do
    match Text.Decimal.word64? (← textOf bytes) with
    | some n => return n
    | none => (bulk bytes).unexpected "Could not convert from string."
  | v => v.unexpected "Response type not convertible to numeric."

/-- Something or nothing. -/
def optional {α : Type} (read : Value → Decoded α) : Value → Decoded (Option α)
  | nil => .ok none
  | v => some <$> read v

/-- A list. Nothing is the empty list, and bytes are a list of one item. -/
def list {α : Type} (read : Value → Decoded α) : Value → Decoded (List α)
  | array items => items.mapM read
  | nil => .ok []
  | bulk bytes =>
    match read (bulk bytes) with
    | .ok a => .ok [a]
    | .error _ => (bulk bytes).unexpected "Conversion failed."
  | v => v.unexpected "Response type not vector compatible"

/-- The items of a list by twos. -/
def inPairs : List Value → Option (List (Value × Value))
  | [] => some []
  | k :: v :: rest => (inPairs rest).map ((k, v) :: ·)
  | [_] => none

/-- Set the value of a key, at the place where the key stands if it does. -/
def assign {α : Type} (key : String) (value : α) : List (String × α) → List (String × α)
  | [] => [(key, value)]
  | (k, v) :: rest => if k = key then (k, value) :: rest else (k, v) :: assign key value rest

/-- The pairs of a map with text keys, each key once and with its last value. -/
def map {α : Type} (read : Value → Decoded α) : Value → Decoded (List (String × α))
  | nil => .ok []
  | array items =>
    match inPairs items with
    | some pairs => do
      let pairs ← pairs.mapM fun p => return (← p.1.text, ← read p.2)
      return pairs.foldl (fun acc p => assign p.1 p.2 acc) []
    | none => (array items).unexpected "Response type not hashmap compatible"
  | v => v.unexpected "Response type not hashmap compatible"

/-- A value as it is. -/
def raw (v : Value) : Decoded Value := .ok v

/-- The items of a tuple of `n`. -/
def tuple (n : Nat) : Value → Decoded (List Value)
  | array items =>
    if items.length = n then .ok items
    else (array items).unexpected "Array response of wrong dimension"
  | v => v.unexpected "Not a Array response"

end Value

end StreamQueue.Redis
