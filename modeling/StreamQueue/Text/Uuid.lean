/-!
# Random identities

A consumer without an identity of its own draws one, a UUID of version four.
-/

namespace StreamQueue.Text.Uuid

/-- Whether a character is a hexadecimal digit in lower case. -/
def isHex (c : Char) : Bool := c.isDigit || ('a' ≤ c && c ≤ 'f')

/-- Whether each character fits the one at its place in a pattern: `x` stands for a
digit, `y` for one of the variant digits, anything else for itself. -/
def fits : List Char → List Char → Bool
  | [], [] => true
  | p :: ps, c :: cs =>
    (if p == 'x' then isHex c
      else if p == 'y' then ['8', '9', 'a', 'b'].contains c
      else p == c) && fits ps cs
  | _, _ => false

/-- Whether a text is a UUID of version four. -/
def isVersion4 (s : String) : Bool :=
  fits "xxxxxxxx-xxxx-4xxx-yxxx-xxxxxxxxxxxx".toList s.toList

/-- The `n`-th of a sequence of distinct identities. -/
def ofNat (n : Nat) : String :=
  let digits := Nat.toDigits 16 n
  "00000000-0000-4000-8000-" ++ String.ofList (List.replicate (12 - digits.length) '0' ++ digits)

end StreamQueue.Text.Uuid
