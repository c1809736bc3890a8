/-!
# Numbers in YAML text

What counts as a number among plain scalars: whole numbers in four bases with an
optional sign, and decimal fractions with an optional exponent. Digits behind a
needless zero are text.

A fraction is only ever shown to a person, in the fewest digits that are read back as
the same binary number.
-/

namespace StreamQueue.Yaml.Number

/-! ### Whole numbers -/

/-- The value of a digit in a base. -/
def digit? (base : Nat) (c : Char) : Option Nat :=
  let n :=
    if c.isDigit then c.toNat - '0'.toNat
    else if 'a' ≤ c && c ≤ 'z' then c.toNat - 'a'.toNat + 10
    else if 'A' ≤ c && c ≤ 'Z' then c.toNat - 'A'.toNat + 10
    else base
  if n < base then some n else none

/-- One or more digits that say a number up to `limit`. -/
def magnitude? (base limit : Nat) (cs : List Char) : Option Nat :=
  if cs.isEmpty then none
  else do
    let n ← cs.foldlM (fun n c => (digit? base c).map (n * base + ·)) 0
    if n ≤ limit then some n else none

def isSign (c : Char) : Bool := c == '+' || c == '-'

/-- Digits and the base that is announced in front of them. -/
def based : List Char → Option (Nat × List Char)
  | '0' :: 'x' :: cs => some (16, cs)
  | '0' :: 'o' :: cs => some (8, cs)
  | '0' :: 'b' :: cs => some (2, cs)
  | _ => none

/-- Whether these are digits behind a needless zero. -/
def hasNeedlessZero (cs : List Char) : Bool :=
  match if cs.head?.any isSign then cs.drop 1 else cs with
  | '0' :: c :: cs => (c :: cs).all Char.isDigit
  | _ => false

/-- The number, from zero to `limit`, that follows a plus sign or none. -/
def unsigned? (limit : Nat) (cs : List Char) : Option Nat :=
  if hasNeedlessZero cs then none
  else
    let cs := if cs.head? == some '+' then cs.drop 1 else cs
    match based cs with
    | some (base, ds) => magnitude? base limit ds
    | none => magnitude? 10 limit cs

/-- The number, from `-limit - 1` to `limit`. -/
def signed? (limit : Nat) (cs : List Char) : Option Int :=
  if hasNeedlessZero cs then none
  else match cs with
    | '-' :: ds =>
      let n := match based ds with
        | some (base, ds) => magnitude? base (limit + 1) ds
        | none => magnitude? 10 (limit + 1) ds
      n.map fun n => -(n : Int)
    | _ => (unsigned? limit cs).map Int.ofNat

/-! ### Fractions -/

/-- A decimal fraction: a sign, digits as one number, and a power of ten. -/
structure Decimal where
  negative : Bool
  digits : Nat
  exponent : Int
  deriving DecidableEq, Repr

/-- The exponent behind a fraction. -/
def exponent? : List Char → Option Int
  | [] => some 0
  | e :: cs =>
    if e == 'e' || e == 'E' then
      match cs with
      | '-' :: ds => (magnitude? 10 (Nat.pow 10 6) ds).map fun n => -(n : Int)
      | '+' :: ds => (magnitude? 10 (Nat.pow 10 6) ds).map Int.ofNat
      | ds => (magnitude? 10 (Nat.pow 10 6) ds).map Int.ofNat
    else none

/-- A decimal fraction, digits on one side of the point at least. -/
def decimal? (cs : List Char) : Option Decimal := do
  let negative := cs.head? == some '-'
  let cs := if cs.head?.any isSign then cs.drop 1 else cs
  let whole := cs.takeWhile Char.isDigit
  let cs := cs.dropWhile Char.isDigit
  let (part, cs) := match cs with
    | '.' :: cs => (cs.takeWhile Char.isDigit, cs.dropWhile Char.isDigit)
    | cs => ([], cs)
  let exponent ← exponent? cs
  let digits ← magnitude? 10 (Nat.pow 10 (whole.length + part.length)) (whole ++ part)
  return ⟨negative, digits, exponent - part.length⟩

/-- The binary number next to a decimal one without its sign. -/
def binary (digits : Nat) (exponent : Int) : Float :=
  Float.ofScientific digits (exponent < 0) exponent.natAbs

/-- The number of `places` digits next to a positive binary number `n / d`, when the
number has its first digit `lead` places left of the point. -/
def rounded (n d : Nat) (lead : Int) (places : Nat) : Nat × Int :=
  let exponent := lead - places
  let (n, d) := if exponent < 0 then (n * Nat.pow 10 exponent.natAbs, d) else (n, d * Nat.pow 10 exponent.natAbs)
  ((2 * n + d) / (2 * d), exponent)

/-- A positive binary number as a fraction of whole numbers. -/
def fraction (f : Float) : Nat × Nat :=
  let bits : Nat := f.toBits.toNat
  let mantissa : Nat := bits % Nat.pow 2 52
  let power : Nat := bits / Nat.pow 2 52
  if power = 0 then (mantissa, Nat.pow 2 1074)
  else if power < 1075 then (mantissa + Nat.pow 2 52, Nat.pow 2 (1075 - power))
  else ((mantissa + Nat.pow 2 52) * Nat.pow 2 (power - 1075), 1)

/-- The fewest digits that are read back as a positive number. -/
def shortest (f : Float) : Nat × Int :=
  let (n, d) := fraction f
  -- One more than the place of the first digit, or two more.
  let lead : Int := (Nat.toDigits 10 n).length - (Nat.toDigits 10 d).length + 1
  let tries := (List.range 19).map fun places => rounded n d lead places
  (tries.find? fun (digits, exponent) => binary digits exponent == f).getD (0, 0)

/-- A number with a point, all its digits written out. -/
def positional (digits : Nat) (exponent : Int) : String :=
  let ds := Nat.toDigits 10 digits
  if exponent < 0 then
    let places := exponent.natAbs
    let ds := List.replicate (places + 1 - ds.length) '0' ++ ds
    String.ofList (ds.take (ds.length - places) ++ '.' :: ds.drop (ds.length - places))
  else String.ofList (ds ++ List.replicate exponent.natAbs '0') ++ ".0"

/-- Digits without zeros at their end. -/
def withoutZeros : Nat → Nat → Int → Nat × Int
  | 0, digits, exponent => (digits, exponent)
  | fuel + 1, digits, exponent =>
    if digits != 0 && digits % 10 == 0 then withoutZeros fuel (digits / 10) (exponent + 1)
    else (digits, exponent)

/-- How a person is shown a fraction, if the text is one that can be told from infinity. -/
def fractionText? (s : String) : Option String :=
  if s == ".inf" || s == "+.inf" || s == ".Inf" || s == "+.Inf" || s == ".INF" || s == "+.INF" then
    some "inf"
  else if s == "-.inf" || s == "-.Inf" || s == "-.INF" then some "-inf"
  else if s == ".nan" || s == ".NaN" || s == ".NAN" then some "NaN"
  else if hasNeedlessZero s.toList then none
  else do
    let d ← decimal? s.toList
    let f := binary d.digits d.exponent
    if !f.isFinite then none
    else
      let (digits, exponent) := if f == 0 then (0, 0) else shortest f
      let (digits, exponent) := withoutZeros 20 digits exponent
      return (if d.negative then "-" else "") ++ positional digits exponent

end StreamQueue.Yaml.Number
