/-!
# JSON text

Reading and writing the JSON texts that the queue exchanges: entries, identifiers
and the bodies of answers. The reader accepts the standard grammar. Numbers are
checked but their value is not kept, as nothing here is a number; a string that
has half of a surrogate pair is accepted but has no content, so that it may stand
where nobody looks at it.

## What is defined

* `Json.parse?` reads a text.
* `Json.quote` writes a string: only quotes, backslashes and control characters
  are escaped.
-/

namespace StreamQueue

/-- A JSON value. -/
inductive Json
  | null
  | bool (b : Bool)
  | number
  /-- A string, with its content if it is well formed. -/
  | string (content : Option String)
  | array (items : List Json)
  /-- The members in the order of the text; a key may be repeated. -/
  | object (members : List (Option String × Json))
  deriving Repr, Inhabited

namespace Json

/-! ### Strings -/

/-- A part of a string: a character, or half of a surrogate pair. -/
inductive Piece
  | char (c : Char)
  | half (unit : Nat)
  deriving DecidableEq, Repr

/-- The value of a hexadecimal digit of either case. -/
def hexValue? (c : Char) : Option Nat :=
  if c.isDigit then some (c.toNat - '0'.toNat)
  else if 'a' ≤ c ∧ c ≤ 'f' then some (c.toNat - 'a'.toNat + 10)
  else if 'A' ≤ c ∧ c ≤ 'F' then some (c.toNat - 'A'.toNat + 10)
  else none

/-- What four hexadecimal digits of an escape stand for. -/
def unitPiece? (a b c d : Char) : Option Piece := do
  let n := (← hexValue? a) * 4096 + (← hexValue? b) * 256 + (← hexValue? c) * 16 + (← hexValue? d)
  return if 0xD800 ≤ n ∧ n < 0xE000 then .half n else .char (Char.ofNat n)

/-- What a letter behind a backslash stands for. -/
def escape? : Char → Option Char
  | '"' => some '"'
  | '\\' => some '\\'
  | '/' => some '/'
  | 'b' => some '\x08'
  | 'f' => some '\x0c'
  | 'n' => some '\n'
  | 'r' => some '\r'
  | 't' => some '\t'
  | _ => none

/-- The parts of a string up to its closing quote, and what follows. -/
def scanString : List Char → Option (List Piece × List Char)
  | '"' :: rest => some ([], rest)
  | '\\' :: 'u' :: a :: b :: c :: d :: rest => do
    let piece ← unitPiece? a b c d
    let (pieces, rest) ← scanString rest
    return (piece :: pieces, rest)
  | '\\' :: c :: rest => do
    let e ← escape? c
    let (pieces, rest) ← scanString rest
    return (.char e :: pieces, rest)
  | c :: rest =>
    if c.toNat < 0x20 then none
    else do
      let (pieces, rest) ← scanString rest
      return (.char c :: pieces, rest)
  | [] => none

/-- The characters of a string whose halves all stand in pairs. -/
def joinPieces : List Piece → Option (List Char)
  | [] => some []
  | .char c :: rest => (joinPieces rest).map (c :: ·)
  | .half h :: .half l :: rest =>
    if h < 0xDC00 ∧ 0xDC00 ≤ l then
      (joinPieces rest).map (Char.ofNat (0x10000 + (h - 0xD800) * 0x400 + (l - 0xDC00)) :: ·)
    else none
  | .half _ :: _ => none

/-- A string behind its opening quote, and what follows. -/
def readString (cs : List Char) : Option (Option String × List Char) :=
  (scanString cs).map fun (pieces, rest) => ((joinPieces pieces).map String.ofList, rest)

/-! ### Values -/

/-- The blanks between the parts of a text. -/
def isSpace (c : Char) : Bool := c == ' ' || c == '\n' || c == '\t' || c == '\r'

def skipSpace (cs : List Char) : List Char := cs.dropWhile isSpace

/-- One or more digits, and what follows. -/
def readDigits (cs : List Char) : Option (List Char) :=
  match cs with
  | c :: rest => if c.isDigit then some (rest.dropWhile Char.isDigit) else none
  | [] => none

/-- What follows the sign of a number, which may be missing. -/
def skipSign : List Char → List Char
  | '-' :: rest => rest
  | cs => cs

/-- What follows the part of a number in front of the point. No digit stands behind a zero there. -/
def readWhole : List Char → Option (List Char)
  | '0' :: rest => some rest
  | cs => readDigits cs

/-- What follows the part of a number behind the point, which may be missing. -/
def readFraction : List Char → Option (List Char)
  | '.' :: rest => readDigits rest
  | cs => some cs

/-- What follows the power of ten of a number, which may be missing. -/
def readExponent : List Char → Option (List Char)
  | 'e' :: '+' :: rest | 'e' :: '-' :: rest | 'E' :: '+' :: rest | 'E' :: '-' :: rest
  | 'e' :: rest | 'E' :: rest => readDigits rest
  | cs => some cs

/-- What follows a number. -/
def readNumber (cs : List Char) : Option (List Char) := do
  readExponent (← readFraction (← readWhole (skipSign cs)))

mutual

/-- A value, and what follows. Values may be nested `depth` deep. -/
def readValue (depth : Nat) (cs : List Char) : Option (Json × List Char) :=
  match depth with
  | 0 => none
  | depth + 1 =>
    match skipSpace cs with
    | 'n' :: 'u' :: 'l' :: 'l' :: rest => some (.null, rest)
    | 't' :: 'r' :: 'u' :: 'e' :: rest => some (.bool true, rest)
    | 'f' :: 'a' :: 'l' :: 's' :: 'e' :: rest => some (.bool false, rest)
    | '"' :: rest => (readString rest).map fun (content, rest) => (.string content, rest)
    | '[' :: rest =>
      match skipSpace rest with
      | ']' :: rest => some (.array [], rest)
      | rest => (readItems depth rest).map fun (items, rest) => (.array items, rest)
    | '\x7b' :: rest =>
      match skipSpace rest with
      | '\x7d' :: rest => some (.object [], rest)
      | rest => (readMembers depth rest).map fun (members, rest) => (.object members, rest)
    | rest => (readNumber rest).map fun rest => (.number, rest)

/-- The items of an array up to its end, and what follows. -/
def readItems (depth : Nat) (cs : List Char) : Option (List Json × List Char) :=
  match depth with
  | 0 => none
  | depth + 1 => do
    let (item, rest) ← readValue depth cs
    match skipSpace rest with
    | ',' :: rest =>
      let (items, rest) ← readItems depth rest
      return (item :: items, rest)
    | ']' :: rest => return ([item], rest)
    | _ => none

/-- The members of an object up to its end, and what follows. -/
def readMembers (depth : Nat) (cs : List Char) :
    Option (List (Option String × Json) × List Char) :=
  match depth with
  | 0 => none
  | depth + 1 =>
    match skipSpace cs with
    | '"' :: rest => do
      let (key, rest) ← readString rest
      match skipSpace rest with
      | ':' :: rest =>
        let (value, rest) ← readValue depth rest
        match skipSpace rest with
        | ',' :: rest =>
          let (members, rest) ← readMembers depth rest
          return ((key, value) :: members, rest)
        | '\x7d' :: rest => return ([(key, value)], rest)
        | _ => none
      | _ => none
    | _ => none

end

/-- The value that a text is. Every level of nesting and every item takes at least
one character, so the length of the text bounds them. -/
def parse? (text : String) : Option Json :=
  match readValue (2 * text.length + 2) text.toList with
  | some (value, rest) => if (skipSpace rest).isEmpty then some value else none
  | none => none

/-! ### Writing -/

/-- The escape of a control character by its number. -/
def numberEscape (c : Char) : List Char :=
  let n := c.toNat
  let digit (d : Nat) : Char := "0123456789abcdef".toList.getD d '0'
  ['\\', 'u', '0', '0', digit (n / 16), digit (n % 16)]

/-- How one character is written in a string. -/
def quoteChar (c : Char) : List Char :=
  if c = '"' then ['\\', '"']
  else if c = '\\' then ['\\', '\\']
  else if c = '\n' then ['\\', 'n']
  else if c = '\r' then ['\\', 'r']
  else if c = '\t' then ['\\', 't']
  else if c = '\x08' then ['\\', 'b']
  else if c = '\x0c' then ['\\', 'f']
  else if c.toNat < 0x20 then numberEscape c
  else [c]

/-- A string as text. -/
def quote (s : String) : String := String.ofList ('"' :: s.toList.flatMap quoteChar ++ ['"'])

/-- An object as text, its members given as text. -/
def objectText (members : List (String × String)) : String :=
  "\x7b" ++ ",".intercalate (members.map fun m => quote m.1 ++ ":" ++ m.2) ++ "\x7d"

end Json

end StreamQueue
