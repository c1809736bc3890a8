import StreamQueue.Text.Utf8

/-!
# Percent encoding

A percent sign and two hexadecimal digits stand for a byte; any other percent sign
stands for itself. In forms a plus sign stands for a blank.
-/

namespace StreamQueue.Text.Percent

/-- The value of a byte that is a hexadecimal digit. -/
def hexValue? (b : UInt8) : Option UInt8 :=
  if 0x30 ≤ b && b ≤ 0x39 then some (b - 0x30)
  else if 0x41 ≤ b && b ≤ 0x46 then some (b - 0x41 + 10)
  else if 0x61 ≤ b && b ≤ 0x66 then some (b - 0x61 + 10)
  else none

/-- The bytes that encoded bytes stand for. -/
def decode : List UInt8 → List UInt8
  | 0x25 :: h :: l :: rest =>
    match hexValue? h, hexValue? l with
    | some h, some l => (h * 16 + l) :: decode rest
    | _, _ => 0x25 :: decode (h :: l :: rest)
  | b :: rest => b :: decode rest
  | [] => []
termination_by bs => bs.length

/-- The text that a part of a form stands for. -/
def formText (bytes : List UInt8) : String :=
  Utf8.decodeLossy (decode (bytes.map fun b => if b == 0x2B then 0x20 else b))

/-- Split at every occurrence of a byte. -/
def splitAt (sep : UInt8) : List UInt8 → List (List UInt8)
  | [] => [[]]
  | b :: bs =>
    if b == sep then [] :: splitAt sep bs
    else match splitAt sep bs with
      | part :: parts => (b :: part) :: parts
      | [] => [[b]]

/-- The name and the value of a field of a form, the value empty if there is none. -/
def formField (bytes : List UInt8) : String × String :=
  (formText (bytes.takeWhile (· != 0x3D)), formText ((bytes.dropWhile (· != 0x3D)).drop 1))

/-- The fields of a form. -/
def formFields (s : String) : List (String × String) :=
  ((splitAt 0x26 (Utf8.encode s)).filter fun part => !part.isEmpty).map formField

end StreamQueue.Text.Percent
