import StreamQueue.Environment
import StreamQueue.Text.Alphanumeric

/-!
# Values in a file of variables

A value may be quoted in part or as a whole. Single quotes keep everything as it is;
in double quotes and outside quotes a backslash makes the next character a plain one
(and `\n` a line break), and `$name` and `${name}` stand for the value of a variable. A
blank outside quotes ends the value, and only a comment may follow it.

A name behind a `$` is letters and digits. The character that ends it is taken as it
is, even if it is a blank or a quote; only another `$` begins a name again.
-/

namespace StreamQueue.EnvFile

/-- How the next character of a value is read. The flag says whether it stands in
double quotes. -/
inductive Spot
  | text (quoted : Bool)
  | single
  | escaped (quoted : Bool)
  /-- In a name behind a `$`. -/
  | name (quoted : Bool) (name : List Char)
  /-- In a name in braces. -/
  | braced (quoted : Bool) (name : List Char)
  /-- Behind the value. -/
  | ended
  deriving DecidableEq, Repr

/-- What is wrong with a value. -/
inductive ValueFault
  /-- The character at an index cannot stand there. -/
  | stray (index : Nat)
  /-- A quote or a brace is never closed. -/
  | unclosed
  deriving DecidableEq, Repr

/-- What a character behind a backslash stands for. -/
def unescape? : Char → Option Char
  | 'n' => some '\n'
  | '\\' => some '\\'
  | '\'' => some '\''
  | '"' => some '"'
  | '$' => some '$'
  | ' ' => some ' '
  | _ => none

/-- The value of a variable, which is empty if it is not set. -/
def valueOf (env : Environment) (name : List Char) : List Char :=
  ((env (String.ofList name)).getD "").toList

/-- What the end of a value comes to. -/
def Spot.finish (env : Environment) : Spot → Except ValueFault (List Char)
  | text true | single | escaped true | name true _ | braced _ _ => .error .unclosed
  | name false n => .ok (valueOf env n)
  | text false | escaped false | ended => .ok []

/-- Read a value from the character at an index on. -/
def Spot.read (env : Environment) (index : Nat) : Spot → List Char → Except ValueFault (List Char)
  | s, [] => s.finish env
  | ended, c :: cs =>
    if c == ' ' || c == '\t' then ended.read env (index + 1) cs
    else if c == '#' then .ok []
    else .error (.stray index)
  | escaped q, c :: cs =>
    match unescape? c with
    | some c => (c :: ·) <$> (text q).read env (index + 1) cs
    | none => .error (.stray index)
  | single, c :: cs =>
    if c == '\'' then (text false).read env (index + 1) cs
    else (c :: ·) <$> single.read env (index + 1) cs
  | name q n, c :: cs =>
    if Text.isAlphanumeric c then (name q (n ++ [c])).read env (index + 1) cs
    else if c == '\x7b' && n.isEmpty then (braced q []).read env (index + 1) cs
    else if c == '$' then (valueOf env n ++ ·) <$> (name q []).read env (index + 1) cs
    else (valueOf env n ++ c :: ·) <$> (text q).read env (index + 1) cs
  | braced q n, c :: cs =>
    if c == '\x7d' then (valueOf env n ++ ·) <$> (text q).read env (index + 1) cs
    else (braced q (n ++ [c])).read env (index + 1) cs
  | text q, c :: cs =>
    if c == '$' then (name q []).read env (index + 1) cs
    else if c == '"' then (text !q).read env (index + 1) cs
    else if c == '\\' then (escaped q).read env (index + 1) cs
    else if !q && c == '\'' then single.read env (index + 1) cs
    else if !q && (c == ' ' || c == '\t') then ended.read env (index + 1) cs
    else (c :: ·) <$> (text q).read env (index + 1) cs

/-- Read a value that is not empty. -/
def readValue (env : Environment) (cs : List Char) : Except ValueFault String :=
  String.ofList <$> (Spot.text false).read env 0 cs

end StreamQueue.EnvFile
