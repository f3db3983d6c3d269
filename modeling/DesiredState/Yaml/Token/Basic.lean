import DesiredState.Yaml.Chars
/-!
Tokens of YAML text, and what can be wrong with a text.
-/

set_option autoImplicit false
set_option relaxedAutoImplicit false

namespace DesiredState.Yaml

inductive Form where
  | plain
  | quoted
  | literal
  | folded
deriving DecidableEq

inductive Token where
  | version (major minor : Nat)
  /-- A directive that lets a handle stand for the start of a tag. -/
  | handle (name start : String)
  | documentStart
  | documentEnd
  | blockSequence
  | blockMapping
  | blockEnd
  | flowSequence
  | flowSequenceEnd
  | flowMapping
  | flowMappingEnd
  | flowEntry
  | blockEntry
  | key
  | value
  | alias (name : String)
  | anchor (name : String)
  | tag (handle rest : String)
  | scalar (text : String) (form : Form)
deriving DecidableEq

inductive Flaw where
  | forbiddenCharacter
  | noToken
  | entryOutOfPlace
  | keyOutOfPlace
  | valueOutOfPlace
  | keyWithoutValue
  | tabIndentation
  | badDirective
  | badTag
  | badAnchor
  | badBlockHeader
  | badEscape
  | colonInFlow
  | boundaryInQuotes
  | endInQuotes
  | duplicateDirective
  | unsupportedVersion
  | unknownHandle
  | unknownAnchor
  | wantsDocument
  | wantsContent
  | wantsEntry
  | wantsKey
  | wantsCommaOrEnd
  | severalDocuments
deriving DecidableEq

def Flaw.message : Flaw → String
  | .forbiddenCharacter => "control characters are not allowed"
  | .noToken => "found character that cannot start any token"
  | .entryOutOfPlace => "block sequence entries are not allowed in this context"
  | .keyOutOfPlace => "mapping keys are not allowed in this context"
  | .valueOutOfPlace => "mapping values are not allowed in this context"
  | .keyWithoutValue => "could not find expected ':'"
  | .tabIndentation => "found a tab character that violates indentation"
  | .badDirective => "found a malformed or unknown directive"
  | .badTag => "found a malformed tag"
  | .badAnchor => "did not find expected alphabetic or numeric character"
  | .badBlockHeader => "found a malformed block scalar header"
  | .badEscape => "found unknown escape character"
  | .colonInFlow => "found unexpected ':'"
  | .boundaryInQuotes => "found unexpected document indicator"
  | .endInQuotes => "found unexpected end of stream"
  | .duplicateDirective => "found duplicate directive"
  | .unsupportedVersion => "found incompatible YAML document"
  | .unknownHandle => "found undefined tag handle"
  | .unknownAnchor => "unknown anchor"
  | .wantsDocument => "did not find expected <document start>"
  | .wantsContent => "did not find expected node content"
  | .wantsEntry => "did not find expected '-' indicator"
  | .wantsKey => "did not find expected key"
  | .wantsCommaOrEnd => "did not find expected ',' or the end of a flow collection"
  | .severalDocuments =>
    "deserializing from YAML containing more than one document is not supported"

/-- What was read, and the text that follows it. -/
abbrev Scan (α : Type) := Except Flaw (α × List Char)

end DesiredState.Yaml
