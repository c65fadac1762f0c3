import ActorManifest.Text.Basic
import ActorManifest.Unicode.Printable

/-!
# Quoted text

Messages show a text between quotes.  The quotes are single unless the text
holds a single quote and no double one.  A backslash, the quote itself and every
code point that is not printable are written as escapes, so the quoted form is
one line and shows every code point.
-/

namespace ActorManifest
namespace Text

/-- The quote that encloses a text. -/
def quoteFor (t : Text) : CodePoint :=
  if t.contains (.char '\x27') && !t.contains (.char '\x22') then .char '\x22' else .char '\x27'

/-- The escape of a code point that is not printable, as short as its number allows. -/
def numericEscape (c : CodePoint) : Text :=
  let n := c.toNat
  if n < 0x100 then ofString "\\x" ++ ofNatHex 2 n
  else if n < 0x10000 then ofString "\\u" ++ ofNatHex 4 n
  else ofString "\\U" ++ ofNatHex 8 n

/-- A code point as it is written between two quotes. -/
def quotedPoint (quote c : CodePoint) : Text :=
  if c = quote ∨ c = .char '\\' then [.char '\\', c]
  else if c = .char '\t' then ofString "\\t"
  else if c = .char '\n' then ofString "\\n"
  else if c = .char '\r' then ofString "\\r"
  else if Unicode.isPrintable c then [c]
  else numericEscape c

/-- The text between quotes. -/
def quoted (t : Text) : Text :=
  let quote := quoteFor t
  [quote] ++ t.flatMap (quotedPoint quote) ++ [quote]

/-- An octet as it is written between two quotes. -/
def quotedOctet (quote : CodePoint) (octet : UInt8) : Text :=
  let c : CodePoint := .char (Char.ofNat octet.toNat)
  if c = quote ∨ c = .char '\\' then [.char '\\', c]
  else if c = .char '\t' then ofString "\\t"
  else if c = .char '\n' then ofString "\\n"
  else if c = .char '\r' then ofString "\\r"
  else if 0x20 ≤ octet.toNat ∧ octet.toNat < 0x7F then [c]
  else ofString "\\x" ++ ofNatHex 2 octet.toNat

/-- Octets between quotes, marked by a `b` in front. -/
def quotedOctets (octets : List UInt8) : Text :=
  let quote := quoteFor (octets.map fun octet => .char (Char.ofNat octet.toNat))
  [.char 'b', quote] ++ octets.flatMap (quotedOctet quote) ++ [quote]

end Text
end ActorManifest
