/-!
# Faults of YAML texts

Why a YAML text is not loaded.  Faults of syntax are found while the text is cut into
tokens, while the tokens are put together, while names are resolved, or where a value
does not fit its tag.  The other faults concern versions and scalars that have the form
that is asked for and still no value, values that cannot be held, and texts that are nested
deeper than the machine has room for.
-/

namespace ActorManifest
namespace Yaml

/-- Why a YAML text is not loaded. -/
inductive Fault where
  /-- A code point may not stand in the text. -/
  | unprintable
  /-- No token begins with this code point. -/
  | noToken
  /-- A key is not followed by a colon. -/
  | missingColon
  /-- An entry of a sequence, a key or a value may not begin here. -/
  | misplaced
  /-- A directive is not well formed. -/
  | directive
  /-- A tag is not well formed. -/
  | tag
  /-- The name of an anchor is not well formed. -/
  | anchorName
  /-- The header of a block of text is not well formed. -/
  | blockHeader
  /-- An escape is not well formed. -/
  | escape
  /-- A quoted text does not end. -/
  | openQuote
  /-- A document ends inside a quoted text. -/
  | cutQuote
  /-- A token may not stand here. -/
  | unexpected
  /-- A directive is repeated or of an unknown version. -/
  | badDirective
  /-- The handle of a tag is not declared. -/
  | undefinedHandle
  /-- A reference has no anchor. -/
  | undefinedAlias
  /-- Two nodes have the same anchor. -/
  | repeatedAnchor
  /-- A second document follows. -/
  | secondDocument
  /-- A tag has no meaning. -/
  | unknownTag
  /-- A node is not of the shape that its tag asks for. -/
  | wrongShape
  /-- A mapping merges something else than mappings. -/
  | badMerge
  /-- A collection is used as a key. -/
  | collectionKey
  /-- A text is no base-64 form. -/
  | badOctets
  /-- A number or a timestamp is none. -/
  | badValue
  /-- A number is empty. -/
  | emptyNumber
  /-- A truth value is none. -/
  | badTruth
  /-- A timestamp has not the form of one. -/
  | timestampForm
  /-- A timestamp is taken from the default value of a mapping. -/
  | timestampShape
  /-- The number of a code point has too many bits. -/
  | hugeEscape
  /-- The number of a code point is beyond the last. -/
  | badEscapeNumber
  /-- A number in base sixty has too many places. -/
  | manyPlaces
  /-- A version number has too many digits. -/
  | longVersion
  /-- Nodes are nested too deeply, or mappings are merged too deeply into one another. -/
  | deepNesting
  /-- The default values of mappings lead from one mapping to the next without an end that is
  near enough, as where a mapping is its own default value. -/
  | selfReference
deriving DecidableEq

/-- The step of loading that finds a fault of syntax. -/
inductive Stage where
  | reader
  | tokens
  | assembly
  | references
  | values
deriving DecidableEq

/-- The step that finds a fault, if it is one of syntax. -/
def Fault.stage? : Fault → Option Stage
  | .unprintable => some .reader
  | .noToken | .missingColon | .misplaced | .directive | .tag | .anchorName | .blockHeader
  | .escape | .openQuote | .cutQuote => some .tokens
  | .unexpected | .badDirective | .undefinedHandle => some .assembly
  | .undefinedAlias | .repeatedAnchor | .secondDocument => some .references
  | .unknownTag | .wrongShape | .badMerge | .collectionKey | .badOctets => some .values
  | _ => none

/-- Whether a fault is one of syntax. -/
def Fault.isSyntax (f : Fault) : Bool :=
  f.stage?.isSome

/-- A fault in words. -/
def Fault.phrase : Fault → String
  | .unprintable => "a character that may not stand in the text"
  | .noToken => "a character that begins no token"
  | .missingColon => "a key without a colon"
  | .misplaced => "an entry that may not begin here"
  | .directive => "a directive that is not well formed"
  | .tag => "a tag that is not well formed"
  | .anchorName => "the name of an anchor that is not well formed"
  | .blockHeader => "the header of a block that is not well formed"
  | .escape => "an escape that is not well formed"
  | .openQuote => "a quoted text that does not end"
  | .cutQuote => "the end of a document inside a quoted text"
  | .unexpected => "a token that may not stand here"
  | .badDirective => "a directive that is repeated or unknown"
  | .undefinedHandle => "a tag whose handle is not declared"
  | .undefinedAlias => "a reference without an anchor"
  | .repeatedAnchor => "two nodes with one anchor"
  | .secondDocument => "a second document"
  | .unknownTag => "a tag without a meaning"
  | .wrongShape => "a node that does not have the shape of its tag"
  | .badMerge => "a merge of something else than mappings"
  | .collectionKey => "a collection as a key"
  | .badOctets => "a text that is no base-64 form"
  | .badValue => "a number or a timestamp that is none"
  | .emptyNumber => "a number without digits"
  | .badTruth => "a truth value that is none"
  | .timestampForm => "a timestamp without the form of one"
  | .timestampShape => "a timestamp in the default value of a mapping"
  | .hugeEscape => "a code point whose number has too many bits"
  | .badEscapeNumber => "a code point beyond the last"
  | .manyPlaces => "a number in base sixty with too many places"
  | .longVersion => "a version number with too many digits"
  | .deepNesting => "nodes that are nested too deeply"
  | .selfReference => "default values that lead too far"

end Yaml
end ActorManifest
