import ActorManifest.Text.Basic

/-!
# UTF-8

Files hold octets.  Reading them as UTF-8 yields text without lone surrogates,
or the place and the kind of the first fault.  A fault covers the octets that
began a character and could not be continued; a sequence cut off by the end of
the input is a fault of its own kind.
-/

namespace ActorManifest
namespace Utf8

/-- Why a sequence of octets is no character. -/
inductive Flaw where
  /-- The first octet begins no character. -/
  | start
  /-- An octet after the first does not continue the character. -/
  | continuation
  /-- The input ends inside the character. -/
  | cut
deriving DecidableEq

/-- The flaw in words. -/
def Flaw.phrase : Flaw → String
  | .start => "invalid start byte"
  | .continuation => "invalid continuation byte"
  | .cut => "unexpected end of data"

/-- The first fault of an input: its position, its octets, and the flaw. -/
structure Fault where
  position : Nat
  octets : List UInt8
  flaw : Flaw
deriving DecidableEq

/-- The fault in words. -/
def Fault.message (f : Fault) : Text :=
  let place : Text :=
    match f.octets with
    | [octet] =>
      "byte 0x" ++ Text.ofNatHex 2 octet.toNat ++ " in position " ++ Text.ofNat f.position
    | octets =>
      "bytes in position " ++ Text.ofNat f.position ++ "-" ++
        Text.ofNat (f.position + octets.length - 1)
  "'utf-8' codec can't decode " ++ place ++ ": " ++ f.flaw.phrase

/-- Whether an octet continues a character. -/
def isContinuation (octet : UInt8) : Bool :=
  octet.toNat / 64 == 2

/-- The payload of an octet that continues a character. -/
def payload (octet : UInt8) : Nat :=
  octet.toNat % 64

/-- Whether `second` may follow `first`: it continues a character, and the character is
neither written longer than needed, nor a surrogate, nor beyond the last code point. -/
def mayFollow (first second : UInt8) : Bool :=
  isContinuation second &&
    !(first == 0xE0 && second < 0xA0) && !(first == 0xED && second ≥ 0xA0) &&
    !(first == 0xF0 && second < 0x90) && !(first == 0xF4 && second ≥ 0x90)

/-- One step of reading: a character and the octets it takes, or the number of octets at
fault and their flaw. -/
def step (first : UInt8) (rest : List UInt8) : Except (Nat × Flaw) (Char × Nat) :=
  if first < 0x80 then
    .ok (Char.ofNat first.toNat, 1)
  else if first < 0xC2 ∨ 0xF5 ≤ first then
    .error (1, .start)
  else if first < 0xE0 then
    match rest with
    | [] => .error (1, .cut)
    | b :: _ =>
      if isContinuation b then .ok (Char.ofNat (first.toNat % 32 * 64 + payload b), 2)
      else .error (1, .continuation)
  else if first < 0xF0 then
    match rest with
    | [] => .error (1, .cut)
    | b :: more =>
      if !mayFollow first b then .error (1, .continuation)
      else
        match more with
        | [] => .error (2, .cut)
        | c :: _ =>
          if isContinuation c then
            .ok (Char.ofNat ((first.toNat % 16 * 64 + payload b) * 64 + payload c), 3)
          else .error (2, .continuation)
  else
    match rest with
    | [] => .error (1, .cut)
    | b :: more =>
      if !mayFollow first b then .error (1, .continuation)
      else
        match more with
        | [] => .error (2, .cut)
        | c :: last =>
          if !isContinuation c then .error (2, .continuation)
          else
            match last with
            | [] => .error (3, .cut)
            | d :: _ =>
              if isContinuation d then
                .ok (Char.ofNat
                  (((first.toNat % 8 * 64 + payload b) * 64 + payload c) * 64 + payload d), 4)
              else .error (3, .continuation)

/-- The characters of `octets`, where `position` is the place of the first of them and
`skip` counts those that belong to the character before. -/
def decodeFrom (position skip : Nat) (done : List Char) :
    List UInt8 → Except Fault (List Char)
  | [] => .ok done.reverse
  | octet :: rest =>
    if skip > 0 then
      decodeFrom (position + 1) (skip - 1) done rest
    else
      match step octet rest with
      | .ok (c, length) => decodeFrom (position + 1) (length - 1) (c :: done) rest
      | .error (length, flaw) => .error ⟨position, (octet :: rest).take length, flaw⟩

/-- The text of an input, or its first fault. -/
def decode (octets : List UInt8) : Except Fault Text :=
  (decodeFrom 0 0 [] octets).map Text.ofChars

/-- The octets of a character. -/
def encodeChar (c : Char) : List UInt8 :=
  String.utf8EncodeChar c

/-- The octets of a text, if it holds no lone surrogate. -/
def encode? (t : Text) : Option (List UInt8) :=
  t.toChars?.map fun cs => cs.flatMap encodeChar

end Utf8
end ActorManifest
