import ActorManifest.Text.Case
import ActorManifest.Unicode.Digit
import ActorManifest.Unicode.Letter

/-!
# Reasons

A reason is a name for machines, written as words with their first letters in capitals
and nothing between them.  Words end at signs that are no letters or digits, where a
capital follows a small letter, where digits begin or end, and before the last capital
of an abbreviation that a word follows.
-/

namespace ActorManifest
namespace Reason

/-- Whether a code point stands between words. -/
def isSeparator (c : CodePoint) : Bool :=
  !Unicode.isWordSign c || c == .char '_'

/-- The runs of a text that hold no separator. -/
def chunks : Text → List Text
  | [] => []
  | c :: rest =>
    if isSeparator c then chunks rest
    else
      match rest with
      | [] => [[c]]
      | d :: _ =>
        if isSeparator d then [c] :: chunks rest
        else
          match chunks rest with
          | [] => [[c]]
          | chunk :: more => (c :: chunk) :: more

/-- Whether a word begins at `c` within a chunk, where `before` precedes it and `after?`
follows. -/
def isBoundary (before c : CodePoint) (after? : Option CodePoint) : Bool :=
  (Unicode.isLower before && Unicode.isUpper c) ||
    Unicode.isDigit before != Unicode.isDigit c ||
    (Unicode.isUpper before && Unicode.isUpper c && after?.any Unicode.isLower)

/-- The words of a chunk. -/
def splitWords : Text → List Text
  | [] => []
  | [c] => [[c]]
  | c :: d :: rest =>
    match splitWords (d :: rest) with
    | [] => [[c]]
    | word :: words =>
      if isBoundary c d rest.head? then [c] :: word :: words else (c :: word) :: words

/-- The words of a text. -/
def words (t : Text) : List Text :=
  (chunks t).flatMap splitWords

/-- The canonical form of a reason. -/
def canonical (t : Text) : Text :=
  (words t).flatMap Text.capitalize

end Reason
end ActorManifest
