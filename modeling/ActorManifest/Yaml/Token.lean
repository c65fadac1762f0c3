import ActorManifest.Text.Basic

/-!
# Tokens

The tokens of a YAML text.  The starts and ends of block collections are tokens although
no code point marks them; they follow from indentation.
-/

namespace ActorManifest
namespace Yaml

/-- A token of a YAML text. -/
inductive Token where
  | versionDirective (major : Nat)
  | tagDirective (handle stem : Text)
  | otherDirective
  | documentStart
  | documentEnd
  | blockSequenceStart
  | blockMappingStart
  | blockEnd
  | flowSequenceStart
  | flowSequenceEnd
  | flowMappingStart
  | flowMappingEnd
  | blockEntry
  | flowEntry
  | key
  | value
  | alias (name : Text)
  | anchor (name : Text)
  | tag (handle : Option Text) (suffix : Text)
  | scalar (plain : Bool) (content : Text)
deriving DecidableEq

end Yaml
end ActorManifest
