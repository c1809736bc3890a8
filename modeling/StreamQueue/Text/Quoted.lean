import StreamQueue.Text.Printable

/-!
# Quoted text

A text between double quotes, in which everything that a reader could not see or
could mistake is written as an escape: the quote and the backslash behind a
backslash, five control characters by a letter, and any other character that is
invisible or combines with the one before it by its code point. Error texts quote
what a person gave in this way.
-/

namespace StreamQueue.Text

/-- The digits of a number in base sixteen, in lower case. -/
def hexDigits (n : Nat) : List Char := Nat.toDigits 16 n

/-- The escape by code point, `u` and the hexadecimal number in braces. -/
def codePointEscape (c : Char) : List Char :=
  '\\' :: 'u' :: '\x7b' :: hexDigits c.toNat ++ ['\x7d']

/-- How one character is written inside the quotes. -/
def quotedChar (c : Char) : List Char :=
  if c = '"' then ['\\', '"']
  else if c = '\\' then ['\\', '\\']
  else if c = '\n' then ['\\', 'n']
  else if c = '\r' then ['\\', 'r']
  else if c = '\t' then ['\\', 't']
  else if c.toNat = 0 then ['\\', '0']
  else if isCombining c || !isPrintable c then codePointEscape c
  else [c]

/-- The text between double quotes, with escapes. -/
def quoted (s : String) : String :=
  String.ofList ('"' :: s.toList.flatMap quotedChar ++ ['"'])

end StreamQueue.Text
