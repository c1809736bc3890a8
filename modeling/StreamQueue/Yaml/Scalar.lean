import StreamQueue.Yaml.Token
import StreamQueue.Json

/-!
# Scalars in YAML text

The five ways to write a scalar, each read from a cursor at its first character.
A scalar over several lines is folded: `gapText` says what stands between its words.

`margin` is always the least column that text of the present block may have.
-/

namespace StreamQueue.Yaml

/-- A scalar, the position where it ends, and the cursor behind it. -/
structure ScalarText where
  text : List Char
  last : Mark
  next : Cursor
  /-- Whether a line was ended behind the last word, so that a key may begin here. -/
  brokeLine : Bool

/-! ### Plain scalars -/

/-- The characters that end a plain scalar inside brackets. -/
def isFlowMark (c : Char) : Bool :=
  c == ',' || c == '[' || c == ']' || c == '\x7b' || c == '\x7d'

/-- How many characters belong to the word of a plain scalar at the head of a text, and
whether a colon stands behind it that may not. -/
def plainWord (flow : Bool) : List Char → Nat × Bool
  | [] => (0, false)
  | c :: cs =>
    if isSeparator c then (0, false)
    else if flow && c == ':' && cs.head?.any (fun d => isFlowMark d || d == '?') then (0, true)
    else if c == ':' && atSeparator cs then (0, false)
    else if flow && isFlowMark c then (0, false)
    else
      let (n, bad) := plainWord flow cs
      (n + 1, bad)

/-- The position of a tab left of the margin among the blanks behind a break. -/
def tabBefore (margin : Nat) (broken : Bool) (m : Mark) : List Char → Option Mark
  | [] => none
  | '\r' :: '\n' :: cs => tabBefore margin true (m.past ['\r', '\n']) cs
  | c :: cs =>
    if broken && c == '\t' && m.column < margin then some m
    else tabBefore margin (broken || isBreak c) (m.past [c]) cs

/-- Words of a plain scalar behind the text read so far. -/
def plainWords (flow : Bool) (margin : Nat) (began : Mark) :
    Nat → ScalarText → List Char → Except Fault ScalarText
  | 0, s, _ => .ok s
  | fuel + 1, s, gap =>
    if s.next.atDocumentEdge || s.next.rest.head? == some '#' then .ok s
    else
      let (width, bad) := plainWord flow s.next.rest
      let behind := s.next.skip width
      if bad then stop .colonInFlow behind.mark .plainScalar began
      else if width == 0 then .ok s
      else
        let text := s.text ++ gapText gap ++ s.next.rest.take width
        let (blanks, next) := behind.takeWhile isSeparator
        let s := ⟨text, behind.mark, next, blanks.any isBreak⟩
        match tabBefore margin false behind.mark blanks with
        | some place => stop .tabInPlainIndentation place .plainScalar began
        | none =>
          if blanks.isEmpty || (!flow && next.mark.column < margin) then .ok s
          else plainWords flow margin began fuel s blanks

/-- A plain scalar. -/
def plainScalar (flow : Bool) (margin : Nat) (c : Cursor) : Except Fault ScalarText :=
  plainWords flow margin c.mark (c.rest.length + 1) ⟨[], c.mark, c, false⟩ []

/-! ### Quoted scalars -/

/-- What a letter behind a backslash stands for. -/
def escapedChar? : Char → Option Char
  | '0' => some '\x00'
  | 'a' => some '\x07'
  | 'b' => some '\x08'
  | 't' => some '\t'
  | '\t' => some '\t'
  | 'n' => some '\n'
  | 'v' => some '\x0b'
  | 'f' => some '\x0c'
  | 'r' => some '\r'
  | 'e' => some '\x1b'
  | ' ' => some ' '
  | '"' => some '"'
  | '/' => some '/'
  | '\\' => some '\\'
  | 'N' => some '\u0085'
  | '_' => some '\u00a0'
  | 'L' => some '\u2028'
  | 'P' => some '\u2029'
  | _ => none

/-- How many digits follow a letter that announces a code point. -/
def codePointDigits? : Char → Option Nat
  | 'x' => some 2
  | 'u' => some 4
  | 'U' => some 8
  | _ => none

/-- The value of hexadecimal digits, if all are such. -/
def hexNumber? (ds : List Char) : Option Nat :=
  ds.foldlM (fun n d => (Json.hexValue? d).map (n * 16 + ·)) 0

/-- The character of an escape, and the cursor behind it. The cursor stands at the
backslash. -/
def readEscape (began : Mark) (c : Cursor) : Except Fault (Char × Cursor) :=
  match c.rest.drop 1 with
  | [] => stop .unknownEscape c.mark .quotedEscape began
  | e :: ds =>
    match escapedChar? e, codePointDigits? e with
    | some ch, _ => .ok (ch, c.skip 2)
    | none, none => stop .unknownEscape c.mark .quotedEscape began
    | none, some width =>
      let digits := ds.take width
      match if digits.length == width then hexNumber? digits else none with
      | none => stop .badHexEscape (c.skip 2).mark .quotedEscape began
      | some n =>
        if n.isValidChar then .ok (Char.ofNat n, c.skip (2 + width))
        else stop .badCodePoint (c.skip 2).mark .quotedEscape began

/-- How a word in quotes ends. -/
inductive WordEnd
  /-- A blank, a break or the end of the text follows. -/
  | gap
  /-- The closing quote follows. -/
  | quote
  /-- A backslash stood before a break, which has been passed. -/
  | escapedBreak
  deriving DecidableEq

/-- A word in quotes, behind the characters read so far, and how it ends. -/
def quotedWord (double : Bool) (began : Mark) :
    Nat → List Char → Cursor → Except Fault (List Char × WordEnd × Cursor)
  | 0, text, c => .ok (text, .gap, c)
  | fuel + 1, text, c =>
    match c.rest with
    | [] => .ok (text, .gap, c)
    | ch :: cs =>
      if isSeparator ch then .ok (text, .gap, c)
      else if !double && ch == '\'' then
        if cs.head? == some '\'' then quotedWord double began fuel (text ++ [ch]) (c.skip 2)
        else .ok (text, .quote, c)
      else if double && ch == '"' then .ok (text, .quote, c)
      else if double && ch == '\\' then
        if cs.head?.any isBreak then .ok (text, .escapedBreak, (c.skip 1).skipBreak)
        else do
          let (e, next) ← readEscape began c
          quotedWord double began fuel (text ++ [e]) next
      else quotedWord double began fuel (text ++ [ch]) (c.skip 1)

/-- Words in quotes up to the closing quote, behind the text read so far. -/
def quotedWords (double : Bool) (began : Mark) : Nat → List Char → Cursor → Except Fault ScalarText
  | 0, _, c => stop .endInQuotes c.mark .quotedScalar began
  | fuel + 1, text, c =>
    if c.atDocumentEdge then stop .edgeInQuotes c.mark .quotedScalar began
    else if c.rest.isEmpty then stop .endInQuotes c.mark .quotedScalar began
    else do
      let (text, ending, c) ← quotedWord double began (c.rest.length + 1) text c
      match ending with
      | .quote =>
        let next := c.skip 1
        return ⟨text, next.mark, next, false⟩
      | .gap =>
        let (gap, c) := c.takeWhile isSeparator
        quotedWords double began fuel (text ++ gapText gap) c
      | .escapedBreak =>
        let (gap, c) := c.takeWhile isSeparator
        quotedWords double began fuel (text ++ lineBreaks gap) c

/-- A scalar in quotes. -/
def quotedScalar (double : Bool) (c : Cursor) : Except Fault ScalarText :=
  quotedWords double c.mark (c.rest.length + 2) [] (c.skip 1)

/-! ### Block scalars -/

/-- What becomes of the breaks at the end of a block scalar. -/
inductive Chomping
  /-- None stays. -/
  | strip
  /-- One stays. -/
  | clip
  /-- All stay. -/
  | keep
  deriving DecidableEq

/-- Chomping as it is announced. -/
def readChomping (c : Cursor) : Option Chomping × Cursor :=
  match c.rest.head? with
  | some '+' => (some .keep, c.skip 1)
  | some '-' => (some .strip, c.skip 1)
  | _ => (none, c)

/-- Indentation as it is announced. -/
def readIndentation (began : Mark) (c : Cursor) : Except Fault (Option Nat × Cursor) :=
  match c.rest.head? with
  | some d =>
    if d == '0' then stop .zeroIndentation c.mark .blockScalar began
    else if d.isDigit then .ok (some (d.toNat - '0'.toNat), c.skip 1)
    else .ok (none, c)
  | none => .ok (none, c)

/-- Chomping and indentation as they are announced, in either order. -/
def readBlockHeader (began : Mark) (c : Cursor) : Except Fault (Chomping × Option Nat × Cursor) :=
  match readChomping c with
  | (some chomping, c) => do
    let (indentation, c) ← readIndentation began c
    return (chomping, indentation, c)
  | (none, c) => do
    let (indentation, c) ← readIndentation began c
    if indentation.isNone then return (.clip, none, c)
    let (chomping, c) := readChomping c
    return (chomping.getD .clip, indentation, c)

/-- The empty lines in front of a line of a block scalar. -/
structure EmptyLines where
  /-- Their breaks. -/
  breaks : List Char
  /-- The greatest column that blanks reached. -/
  widest : Nat
  /-- Where the last of them ended. -/
  last : Mark
  next : Cursor

/-- Go over empty lines. Blanks belong to the text from column `indentation` on, if
that is known. -/
def emptyLines (began : Mark) (indentation : Option Nat) : Nat → EmptyLines → Except Fault EmptyLines
  | 0, e => .ok e
  | fuel + 1, e =>
    let spaces := (e.next.rest.takeWhile (· == ' ')).length
    let width := match indentation with
      | some n => min spaces (n - e.next.mark.column)
      | none => spaces
    let c := e.next.skip width
    let widest := max e.widest c.mark.column
    if c.rest.head? == some '\t' && indentation.all (c.mark.column < ·) then
      stop .tabInBlockIndentation c.mark .blockScalar began
    else if c.rest.head?.any isBreak then
      let next := c.skipBreak
      emptyLines began indentation fuel
        ⟨e.breaks ++ lineBreaks (c.rest.take (breakWidth c.rest)), widest, next.mark, next⟩
    else .ok ⟨e.breaks, widest, e.last, c⟩

/-- Go over the empty lines at a cursor. -/
def skipEmptyLines (began : Mark) (indentation : Option Nat) (c : Cursor) : Except Fault EmptyLines :=
  emptyLines began indentation (c.rest.length + 1) ⟨[], 0, c.mark, c⟩

/-- The lines of a block scalar at column `indentation`. `pending` is the break of the
line before, and `before` tells that the line before began with a blank. The answer
holds the text, the last break of a line with text, and the empty lines at the end. -/
def blockLines (folded : Bool) (began : Mark) (indentation : Nat) :
    Nat → List Char → List Char → Bool → EmptyLines →
    Except Fault (List Char × List Char × EmptyLines)
  | 0, text, pending, _, empty => .ok (text, pending, empty)
  | fuel + 1, text, pending, before, empty =>
    let c := empty.next
    if c.mark.column != indentation || c.rest.isEmpty then .ok (text, pending, empty)
    else do
      let blank := c.rest.head?.any isGap
      let joint :=
        if folded && pending == ['\n'] && !before && !blank then
          if empty.breaks.isEmpty then [' '] else empty.breaks
        else pending ++ empty.breaks
      let (line, c) := c.takeWhile (!isBreak ·)
      let ending := lineBreaks (c.rest.take (breakWidth c.rest))
      let rest ← skipEmptyLines began (some indentation) c.skipBreak
      blockLines folded began indentation fuel (text ++ joint ++ line) ending blank rest

/-- A block scalar. -/
def blockScalar (folded : Bool) (margin : Nat) (c : Cursor) : Except Fault ScalarText := do
  let began := c.mark
  let (chomping, announced, c) ← readBlockHeader began (c.skip 1)
  let c := (c.skipWhile isGap).skipComment
  if !atBreak c.rest then
    stop .textAfterBlockHeader c.mark .blockScalar began
  let given := announced.map fun n => (margin - 1) + n
  let empty ← skipEmptyLines began given c.skipBreak
  let indentation := given.getD (max 1 (max margin empty.widest))
  let (text, pending, empty) ←
    blockLines folded began indentation (c.rest.length + 1) [] [] false empty
  let text := match chomping with
    | .strip => text
    | .clip => text ++ pending
    | .keep => text ++ pending ++ empty.breaks
  return ⟨text, empty.last, empty.next, true⟩

end StreamQueue.Yaml
