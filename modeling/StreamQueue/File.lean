import StreamQueue.Text.Utf8

/-!
# Files and their paths

What is found at a path, and how the paths of neighbouring files are made.

A path is read as its parts between slashes; a slash at its end and a part that is a
single dot add nothing, unless the path begins with the dot.
-/

namespace StreamQueue

/-- What is found at the path of a file. -/
inductive File
  | absent
  /-- The path goes through a file as if it were a folder. -/
  | obstructed
  /-- Something that cannot be read, and why. -/
  | unreadable (reason : String)
  | text (content : String)
  deriving DecidableEq, Repr

namespace File

/-- What the bytes of a file say. -/
def ofBytes (bytes : List UInt8) : File :=
  match Text.Utf8.decode? bytes with
  | some s => text s
  | none => unreadable "stream did not contain valid UTF-8"

/-- What a folder at the path of a file says. -/
def directory : File := unreadable "Is a directory (os error 21)"

/-- The text of a file, or why there is none. -/
def read : File → Except String String
  | absent => .error "No such file or directory (os error 2)"
  | obstructed => .error "Not a directory (os error 20)"
  | unreadable reason => .error reason
  | text content => .ok content

end File

/-! ### Paths -/

namespace Path

/-- A path, last character first, without what adds nothing at its end. -/
def trimEnd : List Char → List Char
  | '/' :: cs => trimEnd cs
  | '.' :: '/' :: cs => trimEnd cs
  | cs => cs

/-- The folder that a path lies in. The root and the empty path lie in none. -/
def parent? (path : String) : Option String :=
  match trimEnd path.toList.reverse with
  | [] => none
  | cs =>
    let above := cs.dropWhile (· != '/')
    match above, trimEnd above with
    | [], _ => some ""
    | _, [] => some "/"
    | _, folder => some (String.ofList folder.reverse)

/-- The path of a file in a folder. -/
def join (folder name : String) : String :=
  if folder.isEmpty || folder.endsWith "/" then folder ++ name else folder ++ "/" ++ name

/-- The parts of a path that lead anywhere. -/
def parts (path : String) : List String :=
  (path.splitOn "/").filter fun p => !(p.isEmpty || p == ".")

end Path

end StreamQueue
