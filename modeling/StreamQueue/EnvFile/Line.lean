import StreamQueue.Text.Blank

/-!
# Lines of a file of variables

A file of variables is read line by line, but a line goes on behind a line break that
stands in quotes. A `#` behind a blank, outside quotes, begins a comment that reaches
to the break; a line whose first character is a `#` says nothing.

Inside a line every character puts what follows it in some `Reading`. A line is over
at the first break that leaves it `plain`. A text that ends in any other reading ends
in the middle of a line.
-/

namespace StreamQueue.EnvFile

/-- Why a file of variables cannot be read on: the text at fault, and where in it. -/
structure Fault where
  text : String
  index : Nat
  deriving DecidableEq, Repr

/-- The wording of a fault. -/
def Fault.message (f : Fault) : String :=
  "Error parsing line: '" ++ f.text ++ "', error at line index: " ++ toString f.index

/-- How the next character of a line is read. -/
inductive Reading
  | plain
  /-- Behind a blank. -/
  | blank
  /-- Behind a backslash outside quotes. -/
  | escaped
  | single
  | singleEscaped
  | double
  | doubleEscaped
  deriving DecidableEq, Repr

/-- How the character behind a character is read that is neither quoted nor escaped. -/
def Reading.behindBare : Char → Reading
  | '\\' => escaped
  | '"' => double
  | '\'' => single
  | _ => plain

/-- How the character behind a character is read. -/
def Reading.next : Reading → Char → Reading
  | plain, c => if Text.isBlank c && c != '\n' && c != '\r' then blank else behindBare c
  | blank, c => behindBare c
  | escaped, _ => plain
  | single, '\\' => singleEscaped
  | single, '\'' => plain
  | single, _ => single
  | singleEscaped, _ => single
  | double, '\\' => doubleEscaped
  | double, '"' => plain
  | double, _ => double
  | doubleEscaped, _ => double

/-- The characters in front of a comment, and how the next is read if there is no
comment. -/
def Reading.follow : Reading → List Char → List Char × Option Reading
  | r, [] => ([], some r)
  | blank, '#' :: _ => ([], none)
  | r, c :: cs =>
    let (kept, last) := (r.next c).follow cs
    (c :: kept, last)

/-- The parts of a text up to each line break, and with it. -/
def brokenLines : List Char → List (List Char)
  | [] => []
  | '\n' :: cs => ['\n'] :: brokenLines cs
  | c :: cs =>
    match brokenLines cs with
    | [] => [[c]]
    | line :: lines => (c :: line) :: lines

/-- A line without the break at its end. -/
def dropBreak (cs : List Char) : List Char :=
  match cs.reverse with
  | '\n' :: '\r' :: rest => rest.reverse
  | '\n' :: rest => rest.reverse
  | _ => cs

/-- Whether a line says nothing because of its first character. -/
def isRemark (cs : List Char) : Bool := (cs.dropWhile Text.isBlank).head? == some '#'

/-- Join what a line goes on with to what is there of it. -/
def joinLines (r : Reading) (before : List Char) : List (List Char) → List (Except Fault String)
  | [] =>
    if r = .plain then []
    else
      let text := String.ofList before
      [.error ⟨text, text.utf8ByteSize⟩]
  | part :: parts =>
    if isRemark (before ++ part) then .ok "" :: joinLines .plain [] parts
    else
      match r.follow part with
      | (kept, none) => .ok (String.ofList (before ++ kept)) :: joinLines .plain [] parts
      | (kept, some .plain) =>
        .ok (String.ofList (dropBreak (before ++ kept))) :: joinLines .plain [] parts
      | (kept, some r) => joinLines r (before ++ kept) parts

/-- The lines of a text; the last may be one that does not end. A byte order mark in
front of them is passed over. -/
def lines (text : String) : List (Except Fault String) :=
  match text.toList with
  | '\uFEFF' :: cs => joinLines .plain [] (brokenLines cs)
  | cs => joinLines .plain [] (brokenLines cs)

end StreamQueue.EnvFile
