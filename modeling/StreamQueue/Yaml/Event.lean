import StreamQueue.Yaml.Layout

/-!
# Events of YAML text

What a text says, in the order in which it says it: nodes, and the beginnings and
ends of collections and of documents. An absent node is an empty plain scalar.

## What is defined

* `Place` is what may come next, and `Grammar.step` reads one event there.
* `Events.ofTokens` reads all events that the tokens at hand yield.
-/

namespace StreamQueue.Yaml

/-- The name and the type that stand in front of a node. -/
structure Properties where
  anchor : Option String
  tag : Option String
  deriving DecidableEq, Repr

/-- What a text says at a place. -/
inductive Event
  | streamEnd
  | documentStart
  | documentEnd
  | aliasName (name : String)
  | scalar (properties : Properties) (text : String) (style : Style)
  | sequenceStart (properties : Properties)
  | sequenceEnd
  | mappingStart (properties : Properties)
  | mappingEnd
  deriving DecidableEq, Repr

/-- Where in its structure a text has been read up to: what may come next. -/
inductive Place
  /-- A document; the first needs no mark in front. -/
  | document (first : Bool)
  /-- What a document with a mark in front holds. -/
  | documentContent
  | documentEnd
  /-- What a document without a mark holds. -/
  | blockNode
  | blockSequenceEntry (first : Bool)
  /-- An entry of a sequence that is not indented under its key. -/
  | indentlessEntry
  | blockMappingKey (first : Bool)
  | blockMappingValue
  | flowSequenceEntry (first : Bool)
  /-- The key of a pair in a sequence. -/
  | flowPairKey
  | flowPairValue
  | flowPairEnd
  | flowMappingKey (first : Bool)
  | flowMappingValue
  /-- The value of an entry without a mark in front of its key. -/
  | flowMappingNoValue
  /-- Behind the end of the text. -/
  | nothing
  deriving DecidableEq, Repr

/-- How far the structure of a text has been read. -/
structure Grammar where
  tokens : List Token
  /-- The fault behind the last token, if it is not the end of the text. -/
  fault : Option Fault
  place : Place
  /-- What may come behind the open nodes, innermost first. -/
  after : List Place
  /-- Where the open collections begin, innermost first. -/
  opened : List Mark
  /-- What handles of tags stand for. -/
  handles : List (String × String)

namespace Grammar

/-- An event and the place where it stands. -/
abbrev Found := Event × Mark

/-- An event together with what is left to read. -/
abbrev Outcome := Except Fault (Found × Grammar)

/-- The next token. Behind the last there is nothing but the end of the text. -/
def peek (g : Grammar) : Except Fault Token :=
  match g.tokens, g.fault with
  | t :: _, _ => .ok t
  | [], some fault => .error fault
  | [], none => .ok ⟨.streamEnd, .start, .start⟩

/-- Go over a token. -/
def advance (g : Grammar) : Grammar := { g with tokens := g.tokens.drop 1 }

/-- Go on at a place. -/
def goto (g : Grammar) (p : Place) : Grammar := { g with place := p }

/-- Go on behind the present node. -/
def pop (g : Grammar) : Grammar :=
  match g.after with
  | p :: after => { g with place := p, after := after }
  | [] => { g with place := .nothing }

/-- Note what comes behind the next node. -/
def push (g : Grammar) (p : Place) : Grammar := { g with after := p :: g.after }

/-- Begin a collection. -/
def enter (g : Grammar) (m : Mark) : Grammar := { g.advance with opened := m :: g.opened }

/-- End a collection. -/
def leave (g : Grammar) : Grammar := { g.pop with opened := g.opened.drop 1 }

/-- A fault in a collection. -/
def stray {α : Type} (g : Grammar) (problem : Problem) (t : Token) (activity : Activity) :
    Except Fault α :=
  stop problem t.first activity (g.opened.headD .start)

/-- An absent node. -/
def absent (m : Mark) : Found := (.scalar ⟨none, none⟩ "" .plain, m)

/-! ### Nodes -/

/-- The type of a node: what its handle stands for, and its suffix. -/
def resolveTag (g : Grammar) (handle suffix : String) (began place : Mark) :
    Except Fault String :=
  if handle.isEmpty then .ok suffix
  else match g.handles.lookup handle with
    | some lead => .ok (lead ++ suffix)
    | none => stop .undefinedTagHandle place .node began

/-- The name and the type in front of a node, in either order. -/
def readProperties (g : Grammar) :
    Except Fault (Option String × Option (String × String × Mark) × Grammar) := do
  let t ← g.peek
  match t.lexeme with
  | .anchor name =>
    let g := g.advance
    let u ← g.peek
    match u.lexeme with
    | .tag handle suffix =>
      let _ ← g.advance.peek
      return (some name, some (handle, suffix, u.first), g.advance)
    | _ => return (some name, none, g)
  | .tag handle suffix =>
    let g := g.advance
    let u ← g.peek
    match u.lexeme with
    | .anchor name =>
      let _ ← g.advance.peek
      return (some name, some (handle, suffix, t.first), g.advance)
    | _ => return (none, some (handle, suffix, t.first), g)
  | _ => return (none, none, g)

/-- A node that is no alias. Blocks may begin only where `block` says so, and a sequence
without indentation only where `indentless` does. -/
def readContent (g : Grammar) (block indentless : Bool) (properties : Properties) (began : Mark) :
    Outcome := do
  let t ← g.peek
  let isBlockEntry := t.lexeme == .blockEntry
  if indentless && isBlockEntry then
    return ((.sequenceStart properties, began), g.goto .indentlessEntry)
  match t.lexeme, block with
  | .scalar text style, _ => return ((.scalar properties text style, began), g.advance.pop)
  | .flowSequenceStart, _ =>
    return ((.sequenceStart properties, began), g.goto (.flowSequenceEntry true))
  | .flowMappingStart, _ =>
    return ((.mappingStart properties, began), g.goto (.flowMappingKey true))
  | .blockSequenceStart, true =>
    return ((.sequenceStart properties, began), g.goto (.blockSequenceEntry true))
  | .blockMappingStart, true =>
    return ((.mappingStart properties, began), g.goto (.blockMappingKey true))
  | _, _ =>
    if properties.anchor.isSome || properties.tag.isSome then
      return ((.scalar properties "" .plain, began), g.pop)
    else stop .noNodeContent t.first (if block then .blockNode else .flowNode) began

/-- A node. -/
def readNode (g : Grammar) (block indentless : Bool) : Outcome := do
  let t ← g.peek
  match t.lexeme with
  | .aliasName name => return ((.aliasName name, t.first), g.advance.pop)
  | _ =>
    let (anchor, tag, g) ← g.readProperties
    let tag ← tag.mapM fun (handle, suffix, place) => g.resolveTag handle suffix t.first place
    g.readContent block indentless ⟨anchor, tag⟩ t.first

/-- A node, unless what follows shows that there is none. -/
def readNodeUnless (g : Grammar) (ends : List Lexeme) (next : Place) (block indentless : Bool)
    (m : Mark) : Outcome := do
  let t ← g.peek
  if ends.contains t.lexeme then return (absent m, g.goto next)
  else (g.push next).readNode block indentless

/-! ### Documents -/

/-- What handles of tags stand for unless a directive says otherwise. -/
def usualHandles : List (String × String) := [("!", "!"), ("!!", "tag:yaml.org,2002:")]

/-- The directives in front of a document. -/
def readDirectives : List Token → (versioned : Bool) → (handles : List (String × String)) →
    Except Fault (List Token × List (String × String))
  | [], _, handles => .ok ([], handles)
  | t :: ts, versioned, handles =>
    match t.lexeme with
    | .version major minor =>
      if versioned then .error (.found .duplicateVersion t.first none)
      else if major != 1 || (minor != 1 && minor != 2) then
        .error (.found .unsupportedVersion t.first none)
      else readDirectives ts true handles
    | .tagHandle handle lead =>
      if (handles.lookup handle).isSome then .error (.found .duplicateTagHandle t.first none)
      else readDirectives ts versioned (handles ++ [(handle, lead)])
    | _ => .ok (t :: ts, handles)

/-- A document, or the end of the text. -/
def readDocument (g : Grammar) (first : Bool) : Outcome := do
  let g := if first then g else
    { g with tokens := g.tokens.dropWhile (·.lexeme == .documentEnd) }
  let t ← g.peek
  match t.lexeme with
  | .streamEnd => return ((.streamEnd, t.first), g.advance.goto .nothing)
  | .version .. | .tagHandle .. | .documentStart =>
    let (tokens, handles) ← readDirectives g.tokens false []
    let g := { g with tokens := tokens, handles := handles ++ usualHandles }
    let u ← g.peek
    if u.lexeme != .documentStart then
      .error (.found .noDocumentStart u.first none)
    return ((.documentStart, t.first), (g.advance.push .documentEnd).goto .documentContent)
  | _ =>
    if !first then
      .error (.found .noDocumentStart t.first none)
    let g := { g with handles := usualHandles }
    return ((.documentStart, t.first), (g.push .documentEnd).goto .blockNode)

/-- What a document with a mark in front holds. -/
def readDocumentContent (g : Grammar) : Outcome := do
  let t ← g.peek
  match t.lexeme with
  | .version .. | .tagHandle .. | .documentStart | .documentEnd | .streamEnd =>
    return (absent t.first, g.pop)
  | _ => g.readNode true false

/-- The end of a document, perhaps with a mark. -/
def readDocumentEnd (g : Grammar) : Outcome := do
  let t ← g.peek
  let g := if t.lexeme == .documentEnd then g.advance else g
  return ((.documentEnd, t.first), g.goto (.document false))

/-! ### Blocks -/

def readBlockSequenceEntry (g : Grammar) (first : Bool) : Outcome := do
  let g ← if first then do let t ← g.peek; pure (g.enter t.first) else pure g
  let t ← g.peek
  match t.lexeme with
  | .blockEntry =>
    g.advance.readNodeUnless [.blockEntry, .blockEnd] (.blockSequenceEntry false) true false t.last
  | .blockEnd => return ((.sequenceEnd, t.first), g.advance.leave)
  | _ => g.stray .noBlockEntry t .blockSequence

def readIndentlessEntry (g : Grammar) : Outcome := do
  let t ← g.peek
  match t.lexeme with
  | .blockEntry =>
    g.advance.readNodeUnless [.blockEntry, .key, .value, .blockEnd] .indentlessEntry true false t.last
  | _ => return ((.sequenceEnd, t.first), g.pop)

def readBlockMappingKey (g : Grammar) (first : Bool) : Outcome := do
  let g ← if first then do let t ← g.peek; pure (g.enter t.first) else pure g
  let t ← g.peek
  match t.lexeme with
  | .key => g.advance.readNodeUnless [.key, .value, .blockEnd] .blockMappingValue true true t.last
  | .blockEnd => return ((.mappingEnd, t.first), g.advance.leave)
  | _ => g.stray .noBlockKey t .blockMapping

def readBlockMappingValue (g : Grammar) : Outcome := do
  let t ← g.peek
  match t.lexeme with
  | .value =>
    g.advance.readNodeUnless [.key, .value, .blockEnd] (.blockMappingKey false) true true t.last
  | _ => return (absent t.first, g.goto (.blockMappingKey false))

/-! ### Collections in brackets -/

/-- Go over the comma in front of an entry that is not the first. -/
def skipComma (g : Grammar) (first : Bool) (problem : Problem) (activity : Activity) :
    Except Fault Grammar := do
  if first then return g
  let t ← g.peek
  if t.lexeme == .flowEntry then return g.advance
  g.stray problem t activity

def readFlowSequenceEntry (g : Grammar) (first : Bool) : Outcome := do
  let g ← if first then do let t ← g.peek; pure (g.enter t.first) else pure g
  let t ← g.peek
  if t.lexeme == .flowSequenceEnd then return ((.sequenceEnd, t.first), g.advance.leave)
  let g ← g.skipComma first .noFlowSequenceEntry .flowSequence
  let t ← g.peek
  match t.lexeme with
  | .key => return ((.mappingStart ⟨none, none⟩, t.first), g.advance.goto .flowPairKey)
  | .flowSequenceEnd => return ((.sequenceEnd, t.first), g.advance.leave)
  | _ => (g.push (.flowSequenceEntry false)).readNode false false

/-- The key of a pair in a sequence. The token that shows that there is none is passed. -/
def readFlowPairKey (g : Grammar) : Outcome := do
  let t ← g.peek
  match t.lexeme with
  | .value | .flowEntry | .flowSequenceEnd =>
    return (absent t.last, g.advance.goto .flowPairValue)
  | _ => (g.push .flowPairValue).readNode false false

def readFlowPairValue (g : Grammar) : Outcome := do
  let t ← g.peek
  match t.lexeme with
  | .value =>
    let g := g.advance
    let u ← g.peek
    g.readNodeUnless [.flowEntry, .flowSequenceEnd] .flowPairEnd false false u.first
  | _ => return (absent t.first, g.goto .flowPairEnd)

def readFlowPairEnd (g : Grammar) : Outcome := do
  let t ← g.peek
  return ((.mappingEnd, t.first), g.goto (.flowSequenceEntry false))

def readFlowMappingKey (g : Grammar) (first : Bool) : Outcome := do
  let g ← if first then do let t ← g.peek; pure (g.enter t.first) else pure g
  let t ← g.peek
  if t.lexeme == .flowMappingEnd then return ((.mappingEnd, t.first), g.advance.leave)
  let g ← g.skipComma first .noFlowMappingEntry .flowMapping
  let t ← g.peek
  match t.lexeme with
  | .key =>
    let g := g.advance
    let u ← g.peek
    g.readNodeUnless [.value, .flowEntry, .flowMappingEnd] .flowMappingValue false false u.first
  | .flowMappingEnd => return ((.mappingEnd, t.first), g.advance.leave)
  | _ => (g.push .flowMappingNoValue).readNode false false

def readFlowMappingValue (g : Grammar) : Outcome := do
  let t ← g.peek
  match t.lexeme with
  | .value =>
    let g := g.advance
    let u ← g.peek
    g.readNodeUnless [.flowEntry, .flowMappingEnd] (.flowMappingKey false) false false u.first
  | _ => return (absent t.first, g.goto (.flowMappingKey false))

/-- Read the event that comes next. -/
def step (g : Grammar) : Outcome :=
  match g.place with
  | .document first => g.readDocument first
  | .documentContent => g.readDocumentContent
  | .documentEnd => g.readDocumentEnd
  | .blockNode => g.readNode true false
  | .blockSequenceEntry first => g.readBlockSequenceEntry first
  | .indentlessEntry => g.readIndentlessEntry
  | .blockMappingKey first => g.readBlockMappingKey first
  | .blockMappingValue => g.readBlockMappingValue
  | .flowSequenceEntry first => g.readFlowSequenceEntry first
  | .flowPairKey => g.readFlowPairKey
  | .flowPairValue => g.readFlowPairValue
  | .flowPairEnd => g.readFlowPairEnd
  | .flowMappingKey first => g.readFlowMappingKey first
  | .flowMappingValue => g.readFlowMappingValue
  | .flowMappingNoValue => do
    let t ← g.peek
    return (absent t.first, g.goto (.flowMappingKey false))
  | .nothing => .ok ((.streamEnd, .start), g)

end Grammar

/-- The events of a text, and the fault behind them. -/
structure Events where
  events : List (Event × Mark)
  fault : Option Fault
  deriving DecidableEq, Repr

namespace Events

/-- Read on to the end of the text or to a fault. -/
def read : Nat → Grammar → Events
  | 0, _ => ⟨[], none⟩
  | fuel + 1, g =>
    match g.step with
    | .error fault => ⟨[], some fault⟩
    | .ok (found, g) =>
      if found.1 == .streamEnd then ⟨[found], none⟩
      else
        let rest := read fuel g
        ⟨found :: rest.events, rest.fault⟩

/-- The events that tokens yield. Between two tokens there are at most three. -/
def ofTokens (ts : Tokens) : Events :=
  read (4 * ts.atHand.length + 4)
    ⟨ts.atHand, ts.fault, .document true, [], [], []⟩

/-- The events of a text. -/
def ofText (s : String) : Events := ofTokens (Tokens.ofText s)

end Events

end StreamQueue.Yaml
