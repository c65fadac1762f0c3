import ActorManifest.Text.CodePoint

/-!
# Base 64

Octets written with sixty-four signs, four signs for three octets.  All other signs are
passed over.  Padding ends the input once it completes a group of four.
-/

namespace ActorManifest
namespace Base64

/-- The value of a sign. -/
def value? (c : Char) : Option Nat :=
  if c.isUpper then some (c.toNat - 0x41)
  else if c.isLower then some (c.toNat - 0x61 + 26)
  else if c.isDigit then some (c.toNat - 0x30 + 52)
  else if c = '+' then some 62
  else if c = '/' then some 63
  else none

/-- The octets of the rest of an input, where `place` signs of the current group were read,
`held` are the bits left over from the last of them, and `pads` counts the padding. -/
def decodeFrom (place held pads : Nat) : List Char → Option (List UInt8)
  | [] => if place = 0 then some [] else none
  | c :: rest =>
    if c = '=' then
      if 2 ≤ place then
        if 4 ≤ place + pads + 1 then some [] else decodeFrom place held (pads + 1) rest
      else decodeFrom place held pads rest
    else
      match value? c with
      | none => decodeFrom place held pads rest
      | some v =>
        match place with
        | 0 => decodeFrom 1 v 0 rest
        | 1 => (decodeFrom 2 (v % 16) 0 rest).map (UInt8.ofNat (held * 4 + v / 16) :: ·)
        | 2 => (decodeFrom 3 (v % 4) 0 rest).map (UInt8.ofNat (held * 16 + v / 4) :: ·)
        | _ => (decodeFrom 0 0 0 rest).map (UInt8.ofNat (held * 64 + v) :: ·)

/-- The octets of an input, unless its last group is not complete. -/
def decode? (input : List Char) : Option (List UInt8) :=
  decodeFrom 0 0 0 input

end Base64
end ActorManifest
