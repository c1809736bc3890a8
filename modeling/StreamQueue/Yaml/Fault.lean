import StreamQueue.Yaml.Cursor

/-!
# Faults of YAML text

What can be wrong with a text, where, and what was being read at the time. The
wording names the problem first, then its place, then the activity and the place
where that began unless it is the same.
-/

namespace StreamQueue.Yaml

/-- What was being read when a problem was met. -/
inductive Activity
  | simpleKey
  | nextToken
  | anchor
  | aliasName
  | tag
  | tagUri
  | directive
  | versionDirective
  | tagDirective
  | tagDirectiveHandle
  | tagDirectiveMark
  | tagDirectiveUri
  | blockScalar
  | plainScalar
  | quotedScalar
  | quotedEscape
  | node
  | blockNode
  | flowNode
  | blockSequence
  | blockMapping
  | flowSequence
  | flowMapping
  deriving DecidableEq, Repr

/-- How a person is told what was being read. -/
def Activity.message : Activity → String
  | simpleKey => "while scanning a simple key"
  | nextToken => "while scanning for the next token"
  | anchor => "while scanning an anchor"
  | aliasName => "while scanning an alias"
  | tag => "while scanning a tag"
  | tagUri => "while parsing a tag"
  | directive => "while scanning a directive"
  | versionDirective => "while scanning a %YAML directive"
  | tagDirective => "while scanning a %TAG directive"
  | tagDirectiveHandle => "while scanning a tag directive"
  | tagDirectiveMark => "while parsing a tag directive"
  | tagDirectiveUri => "while parsing a %TAG directive"
  | blockScalar => "while scanning a block scalar"
  | plainScalar => "while scanning a plain scalar"
  | quotedScalar => "while scanning a quoted scalar"
  | quotedEscape => "while parsing a quoted scalar"
  | node => "while parsing a node"
  | blockNode => "while parsing a block node"
  | flowNode => "while parsing a flow node"
  | blockSequence => "while parsing a block collection"
  | blockMapping => "while parsing a block mapping"
  | flowSequence => "while parsing a flow sequence"
  | flowMapping => "while parsing a flow mapping"

/-- What can be wrong with a text. -/
inductive Problem
  /-- A key that has to be one is not followed by a colon in its line. -/
  | keyWithoutColon
  | misplacedBlockEntry
  | misplacedKey
  | misplacedValue
  /-- A character that begins nothing. -/
  | noToken
  /-- A name of an anchor is empty, or something follows that may not. -/
  | badAnchor
  | unclosedTag
  | noSpaceAfterTag
  | noTagHandle
  | noTagUri
  | badUriEscape
  | badUriLead
  | badUriTail
  | noDirectiveName
  | badDirectiveName
  | unknownDirective
  | textAfterDirective
  | noVersionNumber
  | longVersionNumber
  | badVersionNumber
  | noSpaceInTagDirective
  | zeroIndentation
  | textAfterBlockHeader
  | tabInBlockIndentation
  | tabInPlainIndentation
  | colonInFlow
  | edgeInQuotes
  | endInQuotes
  | unknownEscape
  | badHexEscape
  | badCodePoint
  | duplicateVersion
  | unsupportedVersion
  | duplicateTagHandle
  | noDocumentStart
  | undefinedTagHandle
  | noNodeContent
  | noBlockEntry
  | noBlockKey
  | noFlowSequenceEntry
  | noFlowMappingEntry
  deriving DecidableEq, Repr

/-- How a person is told of a problem. -/
def Problem.message : Problem → String
  | keyWithoutColon => "could not find expected ':'"
  | misplacedBlockEntry => "block sequence entries are not allowed in this context"
  | misplacedKey => "mapping keys are not allowed in this context"
  | misplacedValue => "mapping values are not allowed in this context"
  | noToken => "found character that cannot start any token"
  | badAnchor => "did not find expected alphabetic or numeric character"
  | unclosedTag => "did not find the expected '>'"
  | noSpaceAfterTag => "did not find expected whitespace or line break"
  | noTagHandle => "did not find expected '!'"
  | noTagUri => "did not find expected tag URI"
  | badUriEscape => "did not find URI escaped octet"
  | badUriLead => "found an incorrect leading UTF-8 octet"
  | badUriTail => "found an incorrect trailing UTF-8 octet"
  | noDirectiveName => "could not find expected directive name"
  | badDirectiveName => "found unexpected non-alphabetical character"
  | unknownDirective => "found unknown directive name"
  | textAfterDirective => "did not find expected comment or line break"
  | noVersionNumber => "did not find expected version number"
  | longVersionNumber => "found extremely long version number"
  | badVersionNumber => "did not find expected digit or '.' character"
  | noSpaceInTagDirective => "did not find expected whitespace"
  | zeroIndentation => "found an indentation indicator equal to 0"
  | textAfterBlockHeader => "did not find expected comment or line break"
  | tabInBlockIndentation => "found a tab character where an indentation space is expected"
  | tabInPlainIndentation => "found a tab character that violates indentation"
  | colonInFlow => "found unexpected ':'"
  | edgeInQuotes => "found unexpected document indicator"
  | endInQuotes => "found unexpected end of stream"
  | unknownEscape => "found unknown escape character"
  | badHexEscape => "did not find expected hexdecimal number"
  | badCodePoint => "found invalid Unicode character escape code"
  | duplicateVersion => "found duplicate %YAML directive"
  | unsupportedVersion => "found incompatible YAML document"
  | duplicateTagHandle => "found duplicate %TAG directive"
  | noDocumentStart => "did not find expected <document start>"
  | undefinedTagHandle => "found undefined tag handle"
  | noNodeContent => "did not find expected node content"
  | noBlockEntry => "did not find expected '-' indicator"
  | noBlockKey => "did not find expected key"
  | noFlowSequenceEntry => "did not find expected ',' or ']'"
  | noFlowMappingEntry => "did not find expected ',' or '\x7d'"

/-- What is wrong with a text and where. -/
inductive Fault
  /-- A character that may not occur, after so many bytes. -/
  | character (offset : Nat)
  /-- A problem at a place, with what was being read and where that began. -/
  | found (problem : Problem) (place : Mark) (context : Option (Activity × Mark))
  deriving DecidableEq, Repr

/-- How a person is told of a fault. -/
def Fault.message : Fault → String
  | character offset =>
    "control characters are not allowed" ++
      (if offset == 0 then "" else s!" at position {offset}")
  | found problem place context =>
    problem.message ++ (if place.isOrigin then "" else s!" at {place.message}") ++
      match context with
      | none => ""
      | some (activity, began) =>
        ", " ++ activity.message ++
          if began.isOrigin || (began.line == place.line && began.column == place.column) then ""
          else s!" at {began.message}"

/-- The fault of a text that holds a character that may not occur. -/
def characterFault? (offset : Nat) : List Char → Option Fault
  | [] => none
  | c :: cs => if isAllowed c then characterFault? (offset + c.utf8Size) cs else some (.character offset)

/-- Stop at a problem met while doing something that began at `began`. -/
def stop {α : Type} (problem : Problem) (place : Mark) (activity : Activity) (began : Mark) :
    Except Fault α :=
  .error (.found problem place (some (activity, began)))

end StreamQueue.Yaml
