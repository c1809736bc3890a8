import StreamQueue.EnvFile.Line
import StreamQueue.EnvFile.Value
import StreamQueue.File

/-!
# Files of variables

A file beside the configuration may set variables of the environment, one on each
line: `NAME=value`, with `export` in front if one likes. A variable that is set
already keeps its value, and the value of a line may refer to all that is set by then.

The lines in front of one that cannot be read count.
-/

namespace StreamQueue.EnvFile

/-- The name of such a file. -/
def fileName : String := ".env"

/-! ### Statements -/

/-- What is left of a line, and the number of bytes in front of it. -/
structure Place where
  rest : List Char
  passed : Nat
  deriving Repr

namespace Place

/-- The characters of a kind that are next, and the place behind them. -/
def span (p : Place) (kind : Char → Bool) : List Char × Place :=
  let taken := p.rest.takeWhile kind
  (taken, ⟨p.rest.dropWhile kind, p.passed + (String.ofList taken).utf8ByteSize⟩)

/-- The place behind the blanks that are next. -/
def skipBlank (p : Place) : Place := (p.span Text.isBlank).2

/-- Whether nothing is left but perhaps a comment. -/
def saysNothing (p : Place) : Bool := p.rest.head?.all (· == '#')

/-- A name that is next, or how many bytes are in front of what is none. -/
def readName (p : Place) : Except Nat (String × Place) :=
  if p.rest.head?.any fun c => c.isAlpha || c == '_' then
    let (name, p) := p.span fun c => c.isAlphanum || c == '_' || c == '.'
    .ok (String.ofList name, p)
  else .error p.passed

/-- The place behind the equals sign that is next. -/
def readEquals (p : Place) : Except Nat Place :=
  match p.rest with
  | '=' :: cs => .ok ⟨cs, p.passed + 1⟩
  | _ => .error p.passed

/-- The name that a line sets, and the place behind the equals sign. A variable may be
called `export`. -/
def readHead (p : Place) : Except Nat (String × Place) := do
  let (name, p) ← p.readName
  let p := p.skipBlank
  if name == "export" && p.rest.head? != some '=' then
    let (name, p) ← p.readName
    return (name, ← p.skipBlank.readEquals)
  else return (name, ← p.readEquals)

end Place

/-- The text without the blanks at its end. -/
def dropEndBlank (cs : List Char) : List Char := (cs.reverse.dropWhile Text.isBlank).reverse

/-- The variable that a line sets, and its value. -/
def readLine (env : Environment) (line : String) : Except Fault (Option (String × String)) :=
  let start := Place.skipBlank ⟨dropEndBlank line.toList, 0⟩
  if start.saysNothing then .ok none
  else
    match start.readHead with
    | .error index => .error ⟨line, index⟩
    | .ok (name, p) =>
      let p := p.skipBlank
      if p.saysNothing then .ok (some (name, ""))
      else
        let text := String.ofList p.rest
        match readValue env p.rest with
        | .ok value => .ok (some (name, value))
        | .error (.stray index) => .error ⟨text, index⟩
        | .error .unclosed => .error ⟨text, text.utf8ByteSize - 1⟩

/-! ### Loading -/

/-- Set the variables of lines up to the first that cannot be read. -/
def loadLines (env : Environment) : List (Except Fault String) → Environment × Except Fault Unit
  | [] => (env, .ok ())
  | .error fault :: _ => (env, .error fault)
  | .ok line :: rest =>
    match readLine env line with
    | .error fault => (env, .error fault)
    | .ok none => loadLines env rest
    | .ok (some (name, value)) => loadLines (env.withDefault name value) rest

/-- What became of the file. -/
inductive Loaded
  /-- There is none. -/
  | absent
  | whole
  /-- It could not be read to its end, and why. -/
  | broken (reason : String)
  deriving DecidableEq, Repr

/-- Set the variables of what was found at the path of the file. -/
def load (env : Environment) (f : File) : Environment × Loaded :=
  match f, f.read with
  | .absent, _ => (env, .absent)
  | _, .error reason => (env, .broken reason)
  | _, .ok text =>
    match loadLines env (lines text) with
    | (env, .ok ()) => (env, .whole)
    | (env, .error fault) => (env, .broken fault.message)

end StreamQueue.EnvFile
