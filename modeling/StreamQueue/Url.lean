import StreamQueue.Url.Host

/-!
# Addresses

The addresses that settings give for a server, in the living standard's reading of
URLs, and without an address to be relative to. Blanks and controls around an address
do not count, nor do tabs and line ends anywhere in it.

An address either has an authority (a user with a password, a host and a port) or it
has none, and then perhaps not even a path that begins with a slash.
-/

namespace StreamQueue

/-- An address. -/
structure Url where
  scheme : String
  username : String
  password : Option String
  host : Option Url.Host
  port : Option Nat
  /-- The path, with steps to the same and to the outer directory taken. -/
  path : String
  query : Option String
  deriving Repr

namespace Url

/-- How a scheme reads the authority. -/
inductive SchemeKind
  | file
  | special
  | other
  deriving DecidableEq, Repr

def SchemeKind.of : String → SchemeKind
  | "file" => file
  | "http" | "https" | "ws" | "wss" | "ftp" => special
  | _ => other

/-- The port that is meant when none is given. -/
def defaultPort? : String → Option Nat
  | "http" | "ws" => some 80
  | "https" | "wss" => some 443
  | "ftp" => some 21
  | _ => none

/-- Whether a character does not count at either end. -/
def isOuter (c : Char) : Bool := c.toNat ≤ 0x20

/-- Whether a character does not count anywhere. -/
def isIgnored (c : Char) : Bool := c == '\t' || c == '\n' || c == '\r'

/-- The characters that count. -/
def significant (s : String) : List Char :=
  (((s.toList.dropWhile isOuter).reverse.dropWhile isOuter).reverse).filter (!isIgnored ·)

def isSchemeChar (c : Char) : Bool := c.isAlphanum || c == '+' || c == '-' || c == '.'

/-- The scheme in lower case, and what is behind its colon. -/
def splitScheme? (cs : List Char) : Option (String × List Char) :=
  match cs.dropWhile isSchemeChar with
  | ':' :: rest =>
    let scheme := cs.takeWhile isSchemeChar
    if (scheme.head?.any Char.isAlpha) then
      some (String.ofList (scheme.map Char.toLower), rest) else none
  | _ => none

/-- Whether a character ends the authority. -/
def endsAuthority (kind : SchemeKind) (c : Char) : Bool :=
  c == '/' || c == '?' || c == '#' || (c == '\\' && kind != .other)

/-! ### Path and query -/

/-- Whether a part of a path stands for the same directory. -/
def isSame (cs : List Char) : Bool :=
  let s := String.ofList (cs.map Char.toLower)
  s == "." || s == "%2e"

/-- Whether a part of a path stands for the outer directory. -/
def isOuterDirectory (cs : List Char) : Bool :=
  let s := String.ofList (cs.map Char.toLower)
  s == ".." || s == ".%2e" || s == "%2e." || s == "%2e%2e"

/-- Take the steps of a path, given the parts so far, latest first. -/
def takeSteps (done : List (List Char)) : List (List Char) → List (List Char)
  | [] => done.reverse
  | [part] =>
    if isOuterDirectory part then ([] :: done.drop 1).reverse
    else if isSame part then ([] :: done).reverse
    else (part :: done).reverse
  | part :: parts =>
    if isOuterDirectory part then takeSteps (done.drop 1) parts
    else if isSame part then takeSteps done parts
    else takeSteps (part :: done) parts

/-- A path behind its first slash. -/
def pathText (kind : SchemeKind) (cs : List Char) : String :=
  let slashed := if kind == .other then cs else cs.map fun c => if c == '\\' then '/' else c
  String.ofList ((takeSteps [] (Host.splitOn '/' slashed)).flatMap fun part => '/' :: part)

/-- The characters of the path and of the query. -/
def splitQuery (cs : List Char) : List Char × Option String :=
  let cs := cs.takeWhile (· != '#')
  match cs.dropWhile (· != '?') with
  | [] => (cs, none)
  | _ :: query => (cs.takeWhile (· != '?'), some (String.ofList query))

/-- The path behind an authority. -/
def pathAfterAuthority (kind : SchemeKind) (cs : List Char) : String :=
  match cs with
  | [] => if kind == .other then "" else "/"
  | '/' :: rest => pathText kind rest
  | '\\' :: rest => if kind == .other then pathText kind ('\\' :: rest) else pathText kind rest
  | rest => pathText kind rest

/-! ### Authority -/

/-- The characters up to the last at sign, if there is one, and those after it. -/
def splitLastAt (cs : List Char) : Option (List Char × List Char) :=
  let tail := (cs.reverse.takeWhile (· != '@')).reverse
  if tail.length < cs.length then some (cs.take (cs.length - tail.length - 1), tail) else none

/-- The characters of the host up to a colon outside brackets, and the rest. -/
def splitHost (inBrackets : Bool) : List Char → List Char × List Char
  | [] => ([], [])
  | c :: cs =>
    if c == ':' && !inBrackets then ([], c :: cs)
    else
      let (host, rest) := splitHost (if c == '[' then true else if c == ']' then false
        else inBrackets) cs
      (c :: host, rest)

/-- The port behind the host, which may be left out behind its colon too. A backslash
ends it under every scheme; the rest is then the beginning of the path. -/
def readPort? (scheme : String) (cs : List Char) : Option (Option Nat × List Char) :=
  match cs with
  | [] => some (none, [])
  | ':' :: rest =>
    let digits := rest.takeWhile Char.isDigit
    match rest.drop digits.length with
    | [] | '\\' :: _ =>
      match Host.numberIn 10 digits with
      | some n =>
        if 65535 < n then none
        else some (if digits.isEmpty || defaultPort? scheme == some n then none else some n,
          rest.drop digits.length)
      | none => none
    | _ => none
  | _ => none

/-- An address with an authority, given what is behind the slashes. -/
def withAuthority? (scheme : String) (kind : SchemeKind) (cs : List Char) : Option Url := do
  let authority := cs.takeWhile (!endsAuthority kind ·)
  let after := cs.drop authority.length
  let (user, place) := match splitLastAt authority with
    | some (user, place) => (some user, place)
    | none => (none, authority)
  if user == some [] && place.isEmpty && !after.isEmpty then none
  let username := (user.getD []).takeWhile (· != ':')
  let password := ((user.getD []).dropWhile (· != ':')).drop 1
  let (hostText, portText) := splitHost false place
  if hostText.isEmpty && (kind != .other || !portText.isEmpty) then none
  let host ← if kind == .other then Host.ofOpaque? hostText else Host.ofDomain? hostText
  let host := if hostText.isEmpty then none else some host
  let (port, left) ← readPort? scheme portText
  if host.isNone && !(username.isEmpty && password.isEmpty) then none
  let (path, query) := splitQuery (left ++ after)
  return { scheme, username := String.ofList username
           password := if password.isEmpty then none else some (String.ofList password)
           host, port, path := pathAfterAuthority kind path, query }

/-! ### Other addresses -/

/-- An address without an authority. -/
def withoutAuthority (scheme : String) (kind : SchemeKind) (cs : List Char) : Url :=
  let (path, query) := splitQuery cs
  let path := match path with
    | '/' :: rest => pathText kind rest
    | path => String.ofList path
  { scheme, username := "", password := none, host := none, port := none, path, query }

/-- Whether a host is a drive letter of a file's path. -/
def isDriveLetter : List Char → Bool
  | [c, d] => c.isAlpha && (d == ':' || d == '|')
  | _ => false

def isSlash (c : Char) : Bool := c == '/' || c == '\\'

/-- The address of a file. -/
def ofFile? (cs : List Char) : Option Url :=
  match cs with
  | a :: b :: rest =>
    if isSlash a && isSlash b then
      let hostText := rest.takeWhile (!endsAuthority .file ·)
      if hostText.isEmpty || isDriveLetter hostText then
        some (withoutAuthority "file" .file ('/' :: rest))
      else do
        let host ← Host.ofDomain? hostText
        let (path, query) := splitQuery (rest.drop hostText.length)
        return { scheme := "file", username := "", password := none
                 host := if host = .name "localhost" then none else some host
                 port := none, path := pathAfterAuthority .file path, query }
    else some (withoutAuthority "file" .file cs)
  | _ => some (withoutAuthority "file" .file cs)

/-- Read an address. -/
def ofText? (s : String) : Option Url := do
  let (scheme, rest) ← splitScheme? (significant s)
  match SchemeKind.of scheme with
  | .file => ofFile? rest
  | .special => withAuthority? scheme .special (rest.dropWhile isSlash)
  | .other =>
    match rest with
    | '/' :: '/' :: rest => withAuthority? scheme .other rest
    | rest => return withoutAuthority scheme .other rest

/-- Whether a text is an address. -/
def isValid (s : String) : Bool := (ofText? s).isSome

end Url

end StreamQueue
