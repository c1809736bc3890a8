/-!
# Request targets

What a request asks for: a path with perhaps a query, by itself or behind a scheme
and an authority; an authority alone; or a star. A fragment is dropped. A target
with a character that has no place in it cannot be sent at all.

A character above ASCII may stand in a path and in a query.
-/

namespace StreamQueue.Http

/-- A request target. -/
structure Target where
  /-- The path; empty if the target has none. -/
  path : String
  query : Option String
  deriving DecidableEq, Repr

namespace Target

/-- The longest target that is accepted, in bytes. -/
def maxLength : Nat := 65534

/-- Whether a character may stand in a path. -/
def isPathChar (c : Char) : Bool :=
  let n := c.toNat
  n == 0x21 || n == 0x22 || (0x24 ≤ n && n ≤ 0x3B) || n == 0x3D || (0x40 ≤ n && n ≤ 0x5F) ||
    0x61 ≤ n

/-- Whether a character may stand in a query. -/
def isQueryChar (c : Char) : Bool :=
  let n := c.toNat
  n == 0x21 || (0x24 ≤ n && n ≤ 0x3B) || n == 0x3D || 0x3F ≤ n

/-- Whether a character may stand in an authority. -/
def isAuthorityChar (c : Char) : Bool :=
  c.isAlphanum || "!$&'()*+,-.:;=@[]_~".toList.contains c

/-- A path and a query, in what stands behind the authority. -/
def ofPath? (cs : List Char) : Option Target :=
  let cs := cs.takeWhile (· != '#')
  let path := cs.takeWhile (· != '?')
  if path.all isPathChar then
    match cs.dropWhile (· != '?') with
    | [] => some ⟨String.ofList path, none⟩
    | _ :: query => if query.all isQueryChar then
        some ⟨String.ofList path, some (String.ofList query)⟩ else none
  else none

/-- What is remembered while an authority is read. -/
structure Authority where
  /-- The colons since the user part or the bracketed part. -/
  colons : Nat
  opened : Bool
  closed : Bool
  percent : Bool
  /-- Whether the last character was the sign behind the user part. -/
  atSign : Bool

/-- The next character of an authority. -/
def Authority.read (a : Authority) (c : Char) : Option Authority :=
  let a := { a with atSign := false }
  if c = ':' then if 8 ≤ a.colons then none else some { a with colons := a.colons + 1 }
  else if c = '[' then if a.percent || a.opened then none else some { a with opened := true }
  else if c = ']' then
    if !a.opened || a.closed then none
    else some { a with closed := true, colons := 0, percent := false }
  else if c = '@' then some { a with colons := 0, percent := false, atSign := true }
  else if c = '%' then some { a with percent := true }
  else if isAuthorityChar c then some a
  else none

/-- Whether characters are an authority. -/
def isAuthority (cs : List Char) : Bool :=
  match cs.foldlM Authority.read ⟨0, false, false, false, false⟩ with
  | some a => a.opened == a.closed && a.colons ≤ 1 && !a.atSign && !a.percent
  | none => false

/-- Whether a character may stand in a scheme. -/
def isSchemeChar (c : Char) : Bool := c.isAlphanum || c == '+' || c == '-' || c == '.'

/-- What stands behind a scheme of at most sixty-four characters, if the target has one.
A scheme longer than that is refused. -/
def afterScheme? (cs : List Char) : Option (Option (List Char)) :=
  let scheme := cs.takeWhile isSchemeChar
  match cs.drop scheme.length with
  | ':' :: '/' :: '/' :: rest => if scheme.length ≤ 64 then some (some rest) else none
  | _ => some none

def isAuthorityEnd (c : Char) : Bool := c == '/' || c == '?' || c == '#'

/-- Read a target. -/
def ofText? (s : String) : Option Target :=
  if maxLength < s.utf8ByteSize then none
  else match s.toList with
    | [] => none
    | ['*'] => some ⟨"*", none⟩
    | '/' :: cs => ofPath? ('/' :: cs)
    | cs =>
      match afterScheme? cs with
      | none => none
      | some none => if isAuthority cs then some ⟨"", none⟩ else none
      | some (some rest) =>
        let authority := rest.takeWhile (!isAuthorityEnd ·)
        if authority.isEmpty || !isAuthority authority then none
        else (ofPath? (rest.dropWhile (!isAuthorityEnd ·))).map fun t =>
          { t with path := if t.path.isEmpty then "/" else t.path }

end Target

end StreamQueue.Http
