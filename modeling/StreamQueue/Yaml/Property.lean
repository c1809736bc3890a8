import StreamQueue.Yaml.Token
import StreamQueue.Json

/-!
# Anchors, tags and directives

The parts of a text that do not carry content: names of nodes, their types, and the
lines in front of a document. Each is read from a cursor at its first character and
yields a token and the cursor behind it.
-/

namespace StreamQueue.Yaml

/-- A token from one cursor to another. -/
def Token.between (lexeme : Lexeme) (first last : Cursor) : Token := ⟨lexeme, first.mark, last.mark⟩

/-! ### Anchors -/

/-- Whether this may stand behind a name of an anchor. -/
def endsAnchor : List Char → Bool
  | [] => true
  | c :: _ =>
    isSeparator c || ['?', ':', ',', ']', '\x7d', '%', '@', '\x60'].contains c

/-- An anchor or an alias. -/
def readAnchor (isAlias : Bool) (c : Cursor) : Except Fault (Token × Cursor) :=
  let (name, next) := (c.skip 1).takeWhile isNameChar
  if name.isEmpty || !endsAnchor next.rest then
    stop .badAnchor next.mark (if isAlias then .aliasName else .anchor) c.mark
  else
    let name := String.ofList name
    .ok (Token.between (if isAlias then .aliasName name else .anchor name) c next, next)

/-! ### Tags -/

/-- The characters of tags, the percent sign apart. -/
def isUriChar (verbatim : Bool) (c : Char) : Bool :=
  isNameChar c ||
    [';', '/', '?', ':', '@', '&', '=', '+', '$', '.', '!', '~', '*', '\'', '(', ')'].contains c ||
    (verbatim && [',', '[', ']'].contains c)

/-- The byte that an escape at the head of a text stands for. -/
def escapedByte? : List Char → Option Nat
  | '%' :: a :: b :: _ => do return (← Json.hexValue? a) * 16 + (← Json.hexValue? b)
  | _ => none

/-- How many bytes a character has, by the first of them. -/
def widthOfLead? (n : Nat) : Option Nat :=
  if n < 0x80 then some 1
  else if 0xC0 ≤ n && n < 0xE0 then some 2
  else if 0xE0 ≤ n && n < 0xF0 then some 3
  else if 0xF0 ≤ n && n < 0xF8 then some 4
  else none

/-- Escapes of `n` more bytes of a character. -/
def readEscapedTails (activity : Activity) (began : Mark) : Nat → Cursor → Except Fault Cursor
  | 0, c => .ok c
  | n + 1, c =>
    match escapedByte? c.rest with
    | none => stop .badUriEscape c.mark activity began
    | some b =>
      if 0x80 ≤ b && b < 0xC0 then readEscapedTails activity began n (c.skip 3)
      else stop .badUriTail c.mark activity began

/-- The escapes of one character. A character beyond ASCII stays as it is written, as
no tag with a meaning here has one. -/
def readEscapedChar (activity : Activity) (began : Mark) (c : Cursor) :
    Except Fault (List Char × Cursor) :=
  match escapedByte? c.rest with
  | none => stop .badUriEscape c.mark activity began
  | some b =>
    match widthOfLead? b with
    | none => stop .badUriLead c.mark activity began
    | some 1 => .ok ([Char.ofNat b], c.skip 3)
    | some width => do
      let next ← readEscapedTails activity began (width - 1) (c.skip 3)
      return (c.rest.take (3 * width), next)

/-- The characters of a tag behind those read so far. -/
def readUriChars (verbatim : Bool) (activity : Activity) (began : Mark) :
    Nat → List Char → Cursor → Except Fault (List Char × Cursor)
  | 0, text, c => .ok (text, c)
  | fuel + 1, text, c =>
    match c.rest with
    | [] => .ok (text, c)
    | ch :: _ =>
      if ch == '%' then do
        let (chars, next) ← readEscapedChar activity began c
        readUriChars verbatim activity began fuel (text ++ chars) next
      else if isUriChar verbatim ch then
        readUriChars verbatim activity began fuel (text ++ [ch]) (c.skip 1)
      else .ok (text, c)

/-- The rest of a tag behind a beginning. It may be empty only behind one. -/
def readUri (verbatim : Bool) (activity : Activity) (head : List Char) (began : Mark) (c : Cursor) :
    Except Fault (String × Cursor) := do
  let (text, next) ← readUriChars verbatim activity began (c.rest.length + 1) [] c
  if head.isEmpty && text.isEmpty then
    stop .noTagUri next.mark activity began
  return (String.ofList (head.drop 1 ++ text), next)

/-- An exclamation mark with a name and perhaps another mark behind it. -/
def readHandle (began : Mark) (c : Cursor) : Except Fault (List Char × Cursor) :=
  if c.rest.head? != some '!' then stop .noTagHandle c.mark .tag began
  else
    let (name, next) := (c.skip 1).takeWhile isNameChar
    if next.rest.head? == some '!' then .ok ('!' :: name ++ ['!'], next.skip 1)
    else .ok ('!' :: name, next)

/-- The handle and the suffix of a tag. -/
def readTagParts (c : Cursor) : Except Fault (String × String × Cursor) := do
  let began := c.mark
  if (c.rest.drop 1).head? == some '<' then
    let (suffix, next) ← readUri true .tagUri [] began (c.skip 2)
    if next.rest.head? != some '>' then
      stop .unclosedTag next.mark .tag began
    return ("", suffix, next.skip 1)
  let (handle, next) ← readHandle began c
  if handle.length > 1 && handle.getLast? == some '!' then
    let (suffix, next) ← readUri false .tagUri [] began next
    return (String.ofList handle, suffix, next)
  let (suffix, next) ← readUri false .tagUri handle began next
  return if suffix.isEmpty then ("", "!", next) else ("!", suffix, next)

/-- A tag. -/
def readTag (flow : Bool) (c : Cursor) : Except Fault (Token × Cursor) := do
  let (handle, suffix, next) ← readTagParts c
  if !(flow && next.rest.head? == some ',') && !atSeparator next.rest then
    stop .noSpaceAfterTag next.mark .tag c.mark
  return (Token.between (.tag handle suffix) c next, next)

/-! ### Directives -/

/-- A part of a version number. -/
def readVersionNumber (began : Mark) (c : Cursor) : Except Fault (Nat × Cursor) :=
  let digits := c.rest.takeWhile Char.isDigit
  if digits.length > 9 then stop .longVersionNumber (c.skip 9).mark .versionDirective began
  else if digits.isEmpty then stop .noVersionNumber c.mark .versionDirective began
  else .ok (digits.foldl (fun n d => n * 10 + (d.toNat - '0'.toNat)) 0, c.skip digits.length)

/-- The version that a directive names. -/
def readVersion (began : Mark) (c : Cursor) : Except Fault (Lexeme × Cursor) := do
  let (major, c) ← readVersionNumber began (c.skipWhile isGap)
  if c.rest.head? != some '.' then
    stop .badVersionNumber c.mark .versionDirective began
  let (minor, c) ← readVersionNumber began (c.skip 1)
  return (.version major minor, c)

/-- The handle of tags that a directive declares. -/
def readDeclaredHandle (began : Mark) (c : Cursor) : Except Fault (String × Cursor) :=
  if c.rest.head? != some '!' then stop .noTagHandle c.mark .tagDirectiveHandle began
  else
    let (name, next) := (c.skip 1).takeWhile isNameChar
    if next.rest.head? == some '!' then .ok (String.ofList ('!' :: name ++ ['!']), next.skip 1)
    else if name.isEmpty then .ok ("!", next)
    else stop .noTagHandle next.mark .tagDirectiveMark began

/-- The handle of tags that a directive declares, and what it stands for. -/
def readTagDirective (began : Mark) (c : Cursor) : Except Fault (Lexeme × Cursor) := do
  let (handle, c) ← readDeclaredHandle began (c.skipWhile isGap)
  if !c.rest.head?.any isGap then
    stop .noSpaceInTagDirective c.mark .tagDirective began
  let (lead, c) ← readUri true .tagDirectiveUri [] began (c.skipWhile isGap)
  if !atSeparator c.rest then
    stop .noSpaceAfterTag c.mark .tagDirective began
  return (.tagHandle handle lead, c)

/-- A directive with the end of its line. -/
def readDirective (c : Cursor) : Except Fault (Token × Cursor) := do
  let began := c.mark
  let (name, next) := (c.skip 1).takeWhile isNameChar
  if name.isEmpty then
    stop .noDirectiveName next.mark .directive began
  if !atSeparator next.rest then
    stop .badDirectiveName next.mark .directive began
  let (lexeme, next) ←
    if name == "YAML".toList then readVersion began next
    else if name == "TAG".toList then readTagDirective began next
    else stop .unknownDirective next.mark .directive began
  let rest := (next.skipWhile isGap).skipComment
  if !atBreak rest.rest then
    stop .textAfterDirective rest.mark .directive began
  return (Token.between lexeme c next, rest.skipBreak)

end StreamQueue.Yaml
