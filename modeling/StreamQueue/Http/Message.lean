import StreamQueue.Http.Target

/-!
# Requests and answers
-/

namespace StreamQueue.Http

/-- A request. Its header fields have no influence on the answer and are not kept. -/
structure Request where
  method : String
  target : Target
  deriving DecidableEq, Repr

/-- The characters of names in the protocol. -/
def isTokenChar (c : Char) : Bool := c.isAlphanum || "!#$%&'*+-.^_\x60|~".toList.contains c

/-- Whether a text is a name in the protocol. -/
def isToken (s : String) : Bool := !s.isEmpty && s.all isTokenChar

/-- Whether a text can be the value of a header field. -/
def isFieldValue (s : String) : Bool :=
  s.all fun c => c == '\t' || (0x20 ≤ c.toNat && c.toNat != 0x7F)

/-- A request, if it can be sent at all. -/
def Request.ofParts? (method target : String) (headers : List (String × String)) :
    Option Request := do
  let target ← Target.ofText? target
  if isToken method && headers.all fun h => isToken h.1 && isFieldValue h.2 then
    return ⟨method, target⟩
  else none

/-- An answer. -/
structure Response where
  status : Nat
  headers : List (String × String)
  body : String
  deriving DecidableEq, Repr

namespace Response

/-- An answer with nothing in it. -/
def bare (status : Nat) : Response := ⟨status, [], ""⟩

/-- An answer in plain text. -/
def plain (status : Nat) (body : String) : Response :=
  ⟨status, [("content-type", "text/plain; charset=utf-8")], body⟩

/-- An answer in JSON. -/
def json (body : String) : Response := ⟨200, [("content-type", "application/json")], body⟩

def withHeader (r : Response) (name value : String) : Response :=
  { r with headers := r.headers ++ [(name, value)] }

/-- The answer without its body. -/
def withoutBody (r : Response) : Response := { r with body := "" }

end Response

end StreamQueue.Http
