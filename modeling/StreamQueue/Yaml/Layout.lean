import StreamQueue.Yaml.Scalar
import StreamQueue.Yaml.Property

/-!
# The tokens of a text

Reading a text from its beginning to its end. Indentation opens and closes blocks,
and a scalar turns out to be a key only when the colon behind it is met: its token
then gets a mark in front, and a block may open there.

A token is at hand only when no token before it can still turn out to be a key.
So a fault hides the tokens from such a one on, and `Tokens` says which are at hand.

## What is defined

* `Margin` and `Key` are the open blocks and the tokens that may still become keys.
* `Layout.step` reads one token, with those that indentation brings.
* `Tokens.ofText` reads a whole text.
-/

namespace StreamQueue.Yaml

/-- A token that may turn out to be a key. -/
structure Key where
  /-- How many tokens come before it. -/
  position : Nat
  /-- Whether it can be nothing else. -/
  required : Bool
  mark : Mark
  deriving DecidableEq, Repr

/-- How far a text has been read. -/
structure Layout where
  cursor : Cursor
  /-- The tokens so far. -/
  tokens : Array Token
  /-- The columns of the open blocks, counted from one, innermost first. -/
  margins : List Nat
  /-- What may turn out to be a key between the innermost brackets. -/
  key : Option Key
  /-- The same between the brackets around them, innermost first. -/
  outerKeys : List (Option Key)
  /-- Whether a key may begin here. -/
  keyAllowed : Bool

namespace Layout

/-- The beginning of a text. -/
def ofText (s : String) : Layout := ⟨.ofText s, #[], [], none, [], true⟩

/-- The column of the innermost open block, counted from one, or zero. -/
def margin (l : Layout) : Nat := l.margins.headD 0

/-- Whether some bracket is open. -/
def inFlow (l : Layout) : Bool := !l.outerKeys.isEmpty

def mark (l : Layout) : Mark := l.cursor.mark

/-- Say whether a key may begin behind the next token. -/
def allowKey (l : Layout) (allowed : Bool) : Layout := { l with keyAllowed := allowed }

/-- Add a token. -/
def push (l : Layout) (t : Token) : Layout := { l with tokens := l.tokens.push t }

/-- How many tokens are certain to keep their place. -/
def settled (l : Layout) : Nat :=
  (l.key :: l.outerKeys).foldl (fun n k => k.elim n fun k => min n k.position) l.tokens.size

/-! ### Keys -/

/-- Whether a key could begin at a place and end at another: in one line, and not too far. -/
def Key.reaches (k : Key) (m : Mark) : Bool := k.mark.line == m.line && m.index ≤ k.mark.index + 1024

/-- Give up a key that is out of reach. -/
def dropStale (m : Mark) : Option Key → Except Fault (Option Key)
  | none => .ok none
  | some k =>
    if Key.reaches k m then .ok (some k)
    else if k.required then stop .keyWithoutColon m .simpleKey k.mark
    else .ok none

/-- Give up the keys that are out of reach. -/
def expireKeys (l : Layout) : Except Fault Layout := do
  let outerKeys ← l.outerKeys.reverse.mapM (dropStale l.mark)
  let key ← dropStale l.mark l.key
  return { l with key := key, outerKeys := outerKeys.reverse }

/-- Give up the innermost key. -/
def removeKey (l : Layout) : Except Fault Layout :=
  match l.key with
  | some k =>
    if k.required then stop .keyWithoutColon l.mark .simpleKey k.mark
    else .ok { l with key := none }
  | none => .ok l

/-- Note that the next token may turn out to be a key. -/
def saveKey (l : Layout) : Except Fault Layout := do
  if !l.keyAllowed then return l
  let required := !l.inFlow && l.margin == l.mark.column + 1
  let l ← l.removeKey
  return { l with key := some ⟨l.tokens.size, required, l.mark⟩ }

/-! ### Blocks -/

/-- Open a block at a column, if none is open there. Its token comes behind `position`
others, and stands at `m`. -/
def openBlock (l : Layout) (lexeme : Lexeme) (position : Nat) (m : Mark) : Layout :=
  if !l.inFlow && l.margin < m.column + 1 then
    { l with
      margins := (m.column + 1) :: l.margins
      tokens := l.tokens.insertIdxIfInBounds position ⟨lexeme, m, m⟩ }
  else l

/-- Close the blocks that begin right of a column, counted from one. -/
def closeBlocks (l : Layout) (column : Nat) : Layout :=
  if l.inFlow then l
  else
    let closed := l.margins.takeWhile (column < ·)
    { l with
      margins := l.margins.drop closed.length
      tokens := closed.foldl (fun ts _ => ts.push ⟨.blockEnd, l.mark, l.mark⟩) l.tokens }

/-! ### Single tokens -/

/-- A token of `n` characters. -/
def pushMark (l : Layout) (lexeme : Lexeme) (n : Nat) : Layout :=
  let next := l.cursor.skip n
  { l.push ⟨lexeme, l.mark, next.mark⟩ with cursor := next }

/-- The end of the text, at the beginning of a line. -/
def pushStreamEnd (l : Layout) : Except Fault Layout := do
  let m := l.mark
  let m := if m.column == 0 then m else ⟨m.index, m.line + 1, 0⟩
  let l := { l with cursor := ⟨m, l.cursor.rest⟩ }
  let l ← (l.closeBlocks 0).removeKey
  return (l.allowKey false).push ⟨.streamEnd, m, m⟩

/-- A line that parts documents. -/
def pushDivider (l : Layout) (lexeme : Lexeme) : Except Fault Layout := do
  let l ← (l.closeBlocks 0).removeKey
  return (l.allowKey false).pushMark lexeme 3

def pushDirective (l : Layout) : Except Fault Layout := do
  let l ← (l.closeBlocks 0).removeKey
  let (token, next) ← readDirective l.cursor
  return { (l.push token).allowKey false with cursor := next }

/-- An opening bracket. -/
def pushOpening (l : Layout) (lexeme : Lexeme) : Except Fault Layout := do
  let l ← l.saveKey
  let l := { l with key := none, outerKeys := l.key :: l.outerKeys }
  return (l.allowKey true).pushMark lexeme 1

/-- A closing bracket. -/
def pushClosing (l : Layout) (lexeme : Lexeme) : Except Fault Layout := do
  let l ← l.removeKey
  let l := match l.outerKeys with
    | key :: outer => { l with key := key, outerKeys := outer }
    | [] => l
  return (l.allowKey false).pushMark lexeme 1

/-- A comma between brackets. -/
def pushFlowEntry (l : Layout) : Except Fault Layout := do
  let l ← l.removeKey
  return (l.allowKey true).pushMark .flowEntry 1

/-- The mark of an entry of a block. -/
def pushBlockEntry (l : Layout) : Except Fault Layout := do
  if !l.inFlow && !l.keyAllowed then
    .error (.found .misplacedBlockEntry l.mark none)
  let l ← (l.openBlock .blockSequenceStart l.tokens.size l.mark).removeKey
  return (l.allowKey true).pushMark .blockEntry 1

/-- The mark in front of a key. -/
def pushKey (l : Layout) : Except Fault Layout := do
  if !l.inFlow && !l.keyAllowed then
    .error (.found .misplacedKey l.mark none)
  let l ← (l.openBlock .blockMappingStart l.tokens.size l.mark).removeKey
  return (l.allowKey !l.inFlow).pushMark .key 1

/-- The colon behind a key. -/
def pushValue (l : Layout) : Except Fault Layout :=
  match l.key with
  | some k =>
    let l := { l with
      key := none
      keyAllowed := false
      tokens := l.tokens.insertIdxIfInBounds k.position ⟨.key, k.mark, k.mark⟩ }
    .ok ((l.openBlock .blockMappingStart k.position k.mark).pushMark .value 1)
  | none =>
    if !l.inFlow && !l.keyAllowed then .error (.found .misplacedValue l.mark none)
    else
      let l := l.openBlock .blockMappingStart l.tokens.size l.mark
      .ok ((l.allowKey !l.inFlow).pushMark .value 1)

/-- A token that may turn out to be a key. -/
def pushProperty (l : Layout) (read : Cursor → Except Fault (Token × Cursor)) :
    Except Fault Layout := do
  let l ← l.saveKey
  let (token, next) ← read l.cursor
  return { (l.push token).allowKey false with cursor := next }

/-- A scalar that may turn out to be a key. -/
def pushScalar (l : Layout) (style : Style) (read : Cursor → Except Fault ScalarText) :
    Except Fault Layout := do
  let l ← l.saveKey
  let s ← read l.cursor
  return { l.push ⟨.scalar (String.ofList s.text) style, l.mark, s.last⟩ with
    cursor := s.next, keyAllowed := s.brokeLine }

/-- A block scalar, which is never a key. -/
def pushBlockScalar (l : Layout) (folded : Bool) : Except Fault Layout := do
  let l ← l.removeKey
  let s ← blockScalar folded l.margin l.cursor
  let style := if folded then .folded else .literal
  return { l.push ⟨.scalar (String.ofList s.text) style, l.mark, s.last⟩ with
    cursor := s.next, keyAllowed := true }

/-! ### Reading on -/

/-- Go over blanks, comments and empty lines. A tab counts as a blank only where no key
may begin. A mark of the byte order may stand in front of everything. -/
def skipToToken : Nat → Layout → Layout
  | 0, l => l
  | fuel + 1, l =>
    let c := l.cursor
    let c := if c.mark.index == 0 && c.rest.head? == some '\uFEFF' then c.skip 1 else c
    let tabs := l.inFlow || !l.keyAllowed
    let c := (c.skipWhile fun ch => ch == ' ' || (tabs && ch == '\t')).skipComment
    if c.rest.head?.any isBreak then
      skipToToken fuel { l with cursor := c.skipBreak, keyAllowed := l.keyAllowed || !l.inFlow }
    else { l with cursor := c }

/-- The characters that begin no plain scalar. -/
def isIndicator (c : Char) : Bool :=
  ['-', '?', ':', ',', '[', ']', '\x7b', '\x7d', '#', '&', '*', '!', '|', '>', '\'', '"', '%',
    '@', '\x60'].contains c

/-- Whether a plain scalar begins with a character in front of a text. -/
def beginsPlain (flow : Bool) (c : Char) (cs : List Char) : Bool :=
  (!isSeparator c && !isIndicator c) || (c == '-' && !cs.head?.any isGap) ||
    (!flow && (c == '?' || c == ':') && !atSeparator cs)

/-- Read the token at the cursor. -/
def pushNext (l : Layout) : Except Fault Layout :=
  let c := l.cursor
  let flow := l.inFlow
  match c.rest with
  | [] => l.pushStreamEnd
  | ch :: cs =>
    if c.mark.column == 0 && ch == '%' then l.pushDirective
    else if c.atDivider '-' then l.pushDivider .documentStart
    else if c.atDivider '.' then l.pushDivider .documentEnd
    else if ch == '[' then l.pushOpening .flowSequenceStart
    else if ch == '\x7b' then l.pushOpening .flowMappingStart
    else if ch == ']' then l.pushClosing .flowSequenceEnd
    else if ch == '\x7d' then l.pushClosing .flowMappingEnd
    else if ch == ',' then l.pushFlowEntry
    else if ch == '-' && atSeparator cs then l.pushBlockEntry
    else if ch == '?' && (flow || atSeparator cs) then l.pushKey
    else if ch == ':' && (flow || atSeparator cs) then l.pushValue
    else if ch == '*' then l.pushProperty (readAnchor true)
    else if ch == '&' then l.pushProperty (readAnchor false)
    else if ch == '!' then l.pushProperty (readTag flow)
    else if ch == '|' && !flow then l.pushBlockScalar false
    else if ch == '>' && !flow then l.pushBlockScalar true
    else if ch == '\'' then l.pushScalar .singleQuoted (quotedScalar false)
    else if ch == '"' then l.pushScalar .doubleQuoted (quotedScalar true)
    else if beginsPlain flow ch cs then l.pushScalar .plain (plainScalar flow l.margin)
    else stop .noToken c.mark .nextToken c.mark

/-- Read the next token, with the ends of blocks in front of it. -/
def step (l : Layout) : Except Fault Layout := do
  let l := skipToToken (l.cursor.rest.length + 1) l
  let l ← l.expireKeys
  let l := l.closeBlocks (l.mark.column + 1)
  let l ← l.pushNext
  l.expireKeys

end Layout

/-- The tokens of a text that are at hand, and the fault that hides the others. -/
structure Tokens where
  atHand : List Token
  fault : Option Fault
  deriving DecidableEq, Repr

namespace Tokens

/-- Read on to the end of the text or to a fault. -/
def read : Nat → Layout → Tokens
  | 0, l => ⟨l.tokens.toList, none⟩
  | fuel + 1, l =>
    match l.step with
    | .error fault => ⟨l.tokens.toList.take l.settled, some fault⟩
    | .ok l =>
      if l.tokens.back?.any (·.lexeme == .streamEnd) then ⟨l.tokens.toList, none⟩
      else read fuel l

/-- The tokens of a text. Every step but the last goes over a character. -/
def ofText (s : String) : Tokens :=
  match characterFault? 0 s.toList with
  | some fault => ⟨[], some fault⟩
  | none => read (s.length + 1) (.ofText s)

end Tokens

end StreamQueue.Yaml
