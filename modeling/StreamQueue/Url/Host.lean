import StreamQueue.Text.Blank
import StreamQueue.Text.Percent

/-!
# Hosts of addresses

The host of an address is a name, four numbers of eight bits, or eight numbers of
sixteen bits in brackets. Schemes that are special read a name as the name of a
domain, in which some characters are forbidden and which is taken for numbers when
its last part is one; in other schemes a name is opaque.
-/

namespace StreamQueue.Url

/-- A host. -/
inductive Host
  | name (s : String)
  | ipv4
  | ipv6
  deriving DecidableEq, Repr

namespace Host

/-- Whether a character cannot stand in an opaque name. -/
def isForbidden (c : Char) : Bool :=
  c.toNat == 0 || "\t\n\r #/:<>?@[\\]^|".toList.contains c

/-- Whether a character cannot stand in the name of a domain, in which every blank is
taken for a space. -/
def isForbiddenInDomain (c : Char) : Bool :=
  isForbidden c || c.toNat < 0x20 || c == '%' || c.toNat == 0x7F || Text.isBlank c

/-! ### Four numbers -/

/-- Split at every occurrence of a character. -/
def splitOn (sep : Char) : List Char → List (List Char)
  | [] => [[]]
  | c :: cs =>
    if c == sep then [] :: splitOn sep cs
    else match splitOn sep cs with
      | part :: parts => (c :: part) :: parts
      | [] => [[c]]

/-- The value of a digit in any base up to sixteen. -/
def digitValue? (c : Char) : Option Nat :=
  if c.isDigit then some (c.toNat - '0'.toNat)
  else if 'a' ≤ c ∧ c ≤ 'f' then some (c.toNat - 'a'.toNat + 10)
  else if 'A' ≤ c ∧ c ≤ 'F' then some (c.toNat - 'A'.toNat + 10)
  else none

/-- A number in a base. -/
def numberIn (base : Nat) (cs : List Char) : Option Nat :=
  cs.foldlM (fun n c => do
    let d ← digitValue? c
    if d < base then some (n * base + d) else none) 0

/-- A part of an address of four numbers: base sixteen behind `0x`, eight behind `0`. -/
def ipv4Number : List Char → Option Nat
  | [] => none
  | '0' :: 'x' :: cs | '0' :: 'X' :: cs => numberIn 16 cs
  | '0' :: c :: cs => numberIn 8 (c :: cs)
  | cs => numberIn 10 cs

/-- The parts of a domain, an empty one at the end left out if there are others. -/
def labels (cs : List Char) : List (List Char) :=
  let parts := splitOn '.' cs
  if 1 < parts.length && parts.getLast? == some [] then parts.dropLast else parts

/-- Whether the last part of a domain is a number. -/
def endsInNumber (cs : List Char) : Bool :=
  match (labels cs).getLast? with
  | some part => (!part.isEmpty && part.all Char.isDigit) || (ipv4Number part).isSome
  | none => false

/-- Whether a domain is an address of four numbers: all but the last below 256, and the
last within the bytes that are left. -/
def isIpv4 (cs : List Char) : Bool :=
  let parts := labels cs
  match parts.mapM ipv4Number with
  | some numbers =>
    parts.length ≤ 4 && (numbers.dropLast.all fun n => n < 256) &&
      (numbers.getLast?.all fun n => n < Nat.pow 256 (5 - numbers.length))
  | none => false

/-! ### Eight numbers -/

/-- Whether text is one to four digits of base sixteen. -/
def isHextet (cs : List Char) : Bool :=
  1 ≤ cs.length && cs.length ≤ 4 && cs.all fun c => (digitValue? c).isSome

/-- Whether text is a number below 256 without a zero before it. -/
def isOctet (cs : List Char) : Bool :=
  match cs with
  | ['0'] => true
  | '0' :: _ => false
  | _ => 1 ≤ cs.length && cs.length ≤ 3 && ((numberIn 10 cs).any fun n => n < 256)

/-- How many of the eight numbers a run of parts between colons stands for; the last may
be an address of four numbers, which counts for two. -/
def hextetCount (mayEndInIpv4 : Bool) : List (List Char) → Option Nat
  | [] => some 0
  | [part] =>
    if isHextet part then some 1
    else
      let octets := splitOn '.' part
      if mayEndInIpv4 && octets.length == 4 && octets.all isOctet then some 2 else none
  | part :: parts => if isHextet part then (hextetCount mayEndInIpv4 parts).map (· + 1) else none

/-- The characters before the first pair of colons and those after it. -/
def splitGap : List Char → Option (List Char × List Char)
  | ':' :: ':' :: rest => some ([], rest)
  | c :: rest => (splitGap rest).map fun (before, after) => (c :: before, after)
  | [] => none

/-- The parts between colons; none in empty text. -/
def colonParts (cs : List Char) : List (List Char) := if cs.isEmpty then [] else splitOn ':' cs

/-- Whether text is an address of eight numbers, of which one run of zeros may be left out. -/
def isIpv6 (cs : List Char) : Bool :=
  match splitGap cs with
  | none => hextetCount true (colonParts cs) == some 8
  | some (before, after) =>
    match hextetCount false (colonParts before), hextetCount true (colonParts after) with
    | some m, some n => m + n ≤ 7
    | _, _ => false

/-! ### Reading -/

/-- A host in brackets. -/
def ofBracketed? (cs : List Char) : Option Host :=
  if cs.getLast? == some ']' && isIpv6 (cs.drop 1).dropLast then some .ipv6 else none

/-- The host of an address whose scheme is not special. -/
def ofOpaque? (cs : List Char) : Option Host :=
  if cs.head? == some '[' then ofBracketed? cs
  else if cs.any isForbidden then none
  else some (.name (String.ofList cs))

/-- The host of an address whose scheme is special. -/
def ofDomain? (cs : List Char) : Option Host :=
  if cs.head? == some '[' then ofBracketed? cs
  else
    let domain := (Text.Percent.decode (Text.Utf8.encode (String.ofList cs)))
    let name := (Text.Utf8.decodeLossy domain).toList.map Char.toLower
    if name.isEmpty || name.any isForbiddenInDomain || name.contains '\uFFFD' then none
    else if endsInNumber name then if isIpv4 name then some .ipv4 else none
    else some (.name (String.ofList name))

end Host

end StreamQueue.Url
