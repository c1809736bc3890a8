import StreamQueue.Yaml.Fault

/-!
# Tokens of YAML text

The marks, words and scalars of a text, and where each stands. Indentation has
become tokens that open and close blocks, so that nothing behind this level needs
to know of columns.
-/

namespace StreamQueue.Yaml

/-- How a scalar is written. -/
inductive Style
  | plain
  | singleQuoted
  | doubleQuoted
  | literal
  | folded
  deriving DecidableEq, Repr

/-- What a token is. -/
inductive Lexeme
  | streamEnd
  | version (major minor : Nat)
  | tagHandle (handle lead : String)
  | documentStart
  | documentEnd
  | blockSequenceStart
  | blockMappingStart
  | blockEnd
  | flowSequenceStart
  | flowSequenceEnd
  | flowMappingStart
  | flowMappingEnd
  | blockEntry
  | flowEntry
  | key
  | value
  | aliasName (name : String)
  | anchor (name : String)
  | tag (handle suffix : String)
  | scalar (text : String) (style : Style)
  deriving DecidableEq, Repr

/-- A token and the place it takes in the text. -/
structure Token where
  lexeme : Lexeme
  first : Mark
  last : Mark
  deriving DecidableEq, Repr

end StreamQueue.Yaml
