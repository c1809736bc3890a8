import StreamQueue.Yaml.Event

/-!
# Documents in YAML text

The first document of a text: its nodes in the order of the text, as far as they
could be read, and where the nodes stand that have a name. A name may be given
again, so an alias is bound when it is met.

Each name gets a number, one more than there were different names before it. So a
name that is given again may share the number of another, which then stands for
the later of the two nodes.
-/

namespace StreamQueue.Yaml

/-- A node, or the end of a collection. -/
inductive Node
  /-- A document that a text without any has. -/
  | absent
  /-- The node with a number. -/
  | aliasOf (number : Nat)
  | scalar (tag : Option String) (text : String) (style : Style)
  | sequenceStart
  | sequenceEnd
  | mappingStart
  | mappingEnd
  deriving DecidableEq, Repr

/-- Why a document is not complete. -/
inductive Damage
  | fault (fault : Fault)
  /-- An alias for which there is no node. -/
  | unknownAnchor (place : Mark)
  deriving DecidableEq, Repr

/-- The first document of a text. -/
structure Document where
  nodes : Array (Node × Mark)
  /-- Where the numbered nodes stand, the latest first. -/
  anchors : List (Nat × Nat)
  damage : Option Damage
  /-- Whether nothing follows it in the text. -/
  isLast : Bool
  deriving Repr

namespace Document

/-- What is known while a document is being gathered. -/
structure Gathering where
  nodes : Array (Node × Mark)
  /-- The names so far, each once, with their present numbers. -/
  names : List (String × Nat)
  anchors : List (Nat × Nat)

namespace Gathering

/-- Add a node. -/
def push (g : Gathering) (n : Node) (m : Mark) : Gathering := { g with nodes := g.nodes.push (n, m) }

/-- Give the next node a name. -/
def name (g : Gathering) : Option String → Gathering
  | none => g
  | some a =>
    let number := g.names.length
    { g with
      names := (a, number) :: g.names.filter (·.1 != a)
      anchors := (number, g.nodes.size) :: g.anchors }

/-- The document gathered so far. -/
def close (g : Gathering) (damage : Option Damage) (isLast : Bool) : Document :=
  ⟨g.nodes, g.anchors, damage, isLast⟩

end Gathering

/-- Gather nodes up to the end of the document. `fault` is behind the last event. -/
def gather (fault : Option Fault) : List (Event × Mark) → Gathering → Document
  | [], g => g.close (fault.map .fault) false
  | (e, m) :: es, g =>
    match e with
    | .documentStart => gather fault es g
    | .documentEnd => g.close none (es.head?.any fun (e, _) => e == .streamEnd)
    | .streamEnd => (if g.nodes.isEmpty then g.push .absent m else g).close none true
    | .aliasName a =>
      match g.names.lookup a with
      | some number => gather fault es (g.push (.aliasOf number) m)
      | none => g.close (some (.unknownAnchor m)) false
    | .scalar p text style => gather fault es ((g.name p.anchor).push (.scalar p.tag text style) m)
    | .sequenceStart p => gather fault es ((g.name p.anchor).push .sequenceStart m)
    | .sequenceEnd => gather fault es (g.push .sequenceEnd m)
    | .mappingStart p => gather fault es ((g.name p.anchor).push .mappingStart m)
    | .mappingEnd => gather fault es (g.push .mappingEnd m)

/-- The first document of a text. -/
def ofText (s : String) : Document :=
  let es := Events.ofText s
  gather es.fault es.events ⟨#[], [], []⟩

/-- Where a numbered node stands. -/
def positionOf? (d : Document) (number : Nat) : Option Nat := d.anchors.lookup number

end Document

end StreamQueue.Yaml
