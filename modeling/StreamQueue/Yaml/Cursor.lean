/-!
# Positions in YAML text

Characters and lines are counted from zero. A carriage return followed by a line
feed is one break of a line, but two characters.

## What is defined

* `Mark` is a position, and `Mark.past` the position behind some text.
* `Cursor` is a position together with what follows it.
* `gapText` is what blanks and breaks between two words of a scalar stand for.
-/

namespace StreamQueue.Yaml

/-- A position in a text: characters before it, lines before it, and characters
before it in its line. -/
structure Mark where
  index : Nat
  line : Nat
  column : Nat
  deriving DecidableEq, Repr, Inhabited

namespace Mark

/-- The beginning of a text. -/
def start : Mark := ⟨0, 0, 0⟩

/-- Whether this is the beginning of the first line. -/
def isOrigin (m : Mark) : Bool := m.line == 0 && m.column == 0

/-- How a person is told of the position: from one. -/
def message (m : Mark) : String := s!"line {m.line + 1} column {m.column + 1}"

end Mark

/-! ### Classes of characters -/

/-- A character that ends a line. -/
def isBreak (c : Char) : Bool :=
  c == '\n' || c == '\r' || c == '\u0085' || c == '\u2028' || c == '\u2029'

/-- A space or a tab. -/
def isGap (c : Char) : Bool := c == ' ' || c == '\t'

/-- A space, a tab or the end of a line. -/
def isSeparator (c : Char) : Bool := isGap c || isBreak c

/-- Whether a word ends in front of this text. -/
def atSeparator : List Char → Bool
  | [] => true
  | c :: _ => isSeparator c

/-- Whether a line ends in front of this text. -/
def atBreak : List Char → Bool
  | [] => true
  | c :: _ => isBreak c

/-- The characters of names: of anchors, of handles, of directives. -/
def isNameChar (c : Char) : Bool := c.isAlphanum || c == '_' || c == '-'

/-- What may stand in a text at all. -/
def isAllowed (c : Char) : Bool :=
  let n := c.toNat
  n == 0x09 || n == 0x0A || n == 0x0D || (0x20 ≤ n && n ≤ 0x7E) || n == 0x85 ||
    (0xA0 ≤ n && n ≤ 0xD7FF) || (0xE000 ≤ n && n ≤ 0xFFFD) || 0x10000 ≤ n

/-! ### Breaks -/

/-- The breaks of lines among blanks, as they stand in a value. Two of them are
kept as they are, all others are line feeds. -/
def lineBreaks : List Char → List Char
  | '\r' :: '\n' :: cs => '\n' :: lineBreaks cs
  | c :: cs =>
    if c == '\u2028' || c == '\u2029' then c :: lineBreaks cs
    else if isBreak c then '\n' :: lineBreaks cs
    else lineBreaks cs
  | [] => []

/-- How many characters the break at the head of a text has, or zero. -/
def breakWidth : List Char → Nat
  | '\r' :: '\n' :: _ => 2
  | c :: _ => if isBreak c then 1 else 0
  | [] => 0

/-- What breaks stand for between two words: one is a space, and of several all but
the first are kept. A break of the kinds that are kept as they are stays in any
place. -/
def foldBreaks : List Char → List Char
  | ['\n'] => [' ']
  | '\n' :: bs => bs
  | bs => bs

/-- What the blanks and breaks between two words of a scalar stand for. -/
def gapText (gap : List Char) : List Char :=
  if gap.any isBreak then foldBreaks (lineBreaks gap) else gap

/-! ### Moving over text -/

namespace Mark

/-- The position behind some text. -/
def past (m : Mark) : List Char → Mark
  | '\r' :: '\n' :: cs => past ⟨m.index + 2, m.line + 1, 0⟩ cs
  | c :: cs =>
    if isBreak c then past ⟨m.index + 1, m.line + 1, 0⟩ cs
    else past ⟨m.index + 1, m.line, m.column + 1⟩ cs
  | [] => m

end Mark

/-- A position and the text that follows it. -/
structure Cursor where
  mark : Mark
  rest : List Char
  deriving DecidableEq, Repr

namespace Cursor

/-- The first position of a text. -/
def ofText (s : String) : Cursor := ⟨.start, s.toList⟩

/-- Go over `n` characters. -/
def skip (c : Cursor) (n : Nat) : Cursor := ⟨c.mark.past (c.rest.take n), c.rest.drop n⟩

/-- The characters at the head that all satisfy `p`, and the position behind them. -/
def takeWhile (c : Cursor) (p : Char → Bool) : List Char × Cursor :=
  let taken := c.rest.takeWhile p
  (taken, c.skip taken.length)

/-- Go over the characters at the head that satisfy `p`. -/
def skipWhile (c : Cursor) (p : Char → Bool) : Cursor := (c.takeWhile p).2

/-- Go over the break at the head, if there is one. -/
def skipBreak (c : Cursor) : Cursor := c.skip (breakWidth c.rest)

/-- Go over a comment, if there is one. -/
def skipComment (c : Cursor) : Cursor :=
  if c.rest.head? == some '#' then c.skipWhile (!isBreak ·) else c

/-- Whether three characters that part documents stand here, at the beginning of a
line and before a separator. -/
def atDivider (c : Cursor) (mark : Char) : Bool :=
  c.mark.column == 0 && c.rest.take 3 == [mark, mark, mark] && atSeparator (c.rest.drop 3)

/-- Whether a document begins or ends here by a line of its own. -/
def atDocumentEdge (c : Cursor) : Bool := c.atDivider '-' || c.atDivider '.'

end Cursor

end StreamQueue.Yaml
