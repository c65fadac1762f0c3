import ActorManifest.Unicode.Case
import ActorManifest.Unicode.CaseMap

/-!
# Case of whole texts

Each code point is replaced by its counterpart.  One letter looks at its
neighbours: a capital sigma becomes the final small sigma where a cased letter
comes before it and none after it, signs without case of their own being passed
over on both sides.
-/

namespace ActorManifest
namespace Text

/-- The capital sigma. -/
def capitalSigma : CodePoint := .char 'Σ'

/-- Whether the nearest code point that is not passed over has case. -/
def nextIsCased : Text → Bool
  | [] => false
  | c :: rest => if Unicode.isCaseIgnorable c then nextIsCased rest else Unicode.isCased c

/-- The lower-case counterparts of `t`, where `before` is the text in front of it in reverse. -/
def lowerAfter (before : Text) : Text → Text
  | [] => []
  | c :: rest =>
    let small :=
      if c = capitalSigma then
        if nextIsCased before && !nextIsCased rest then [.char 'ς'] else [.char 'σ']
      else Unicode.toLower c
    small ++ lowerAfter (c :: before) rest

/-- The text in lower case. -/
def lower (t : Text) : Text :=
  lowerAfter [] t

/-- The text in upper case. -/
def upper (t : Text) : Text :=
  t.flatMap Unicode.toUpper

/-- The text with its first letter in title case and all others in lower case. -/
def capitalize : Text → Text
  | [] => []
  | c :: rest => Unicode.toTitle c ++ lowerAfter [c] rest

end Text
end ActorManifest
