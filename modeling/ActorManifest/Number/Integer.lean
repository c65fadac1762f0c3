import ActorManifest.Text.Basic
import ActorManifest.Unicode.Blank
import ActorManifest.Unicode.Digit

/-!
# Reading integers

A numeral may stand between blanks, have a sign, and use the decimal digits of
any script.  In base 2, 8 and 16 it may begin with the usual mark of its base.
One underscore may stand between two digits, or between the mark and the first
digit.  Numerals in a base that is no power of two are limited in length.
-/

namespace ActorManifest
namespace Integer

/-- The greatest number of digits of a numeral whose base is no power of two. -/
def maxDigits : Nat := 4300

/-- The text with the decimal digits of every script replaced by `0` to `9`. -/
def westernDigits (t : Text) : Text :=
  t.map fun c =>
    match Unicode.decimalValue? c with
    | some v => .char (Char.ofNat (0x30 + v))
    | none => c

/-- The value of a digit in bases up to 36. -/
def digitValue? : CodePoint → Option Nat
  | .surrogate _ => none
  | .char c =>
    if c.isDigit then some (c.toNat - 0x30)
    else if 'a' ≤ c ∧ c ≤ 'z' then some (c.toNat - 0x61 + 10)
    else if 'A' ≤ c ∧ c ≤ 'Z' then some (c.toNat - 0x41 + 10)
    else none

/-- The digits of a numeral; an underscore must be followed by a digit. -/
def digits? (base : Nat) : Text → Option (List Nat)
  | [] => some []
  | [.char '_'] => none
  | .char '_' :: .char '_' :: _ => none
  | .char '_' :: rest => digits? base rest
  | c :: rest =>
    match digitValue? c with
    | some v => if v < base then (digits? base rest).map (v :: ·) else none
    | none => none

/-- The number of a list of digits, the most significant first. -/
def ofDigits (base : Nat) (ds : List Nat) : Nat :=
  ds.foldl (fun n d => n * base + d) 0

/-- The letter that marks a base. -/
def baseMark? : Nat → Option Char
  | 2 => some 'b'
  | 8 => some 'o'
  | 16 => some 'x'
  | _ => none

/-- The numeral without the mark of its base and without one underscore after the mark. -/
def dropMark (base : Nat) (t : Text) : Text :=
  match t, baseMark? base with
  | .char '0' :: .char c :: rest, some mark =>
    if c = mark ∨ c = mark.toUpper then
      match rest with
      | .char '_' :: more => more
      | _ => rest
    else t
  | _, _ => t

/-- The number of a numeral without sign. -/
def readMagnitude? (base : Nat) (t : Text) : Option Nat :=
  match dropMark base t with
  | [] => none
  | .char '_' :: _ => none
  | t =>
    match digits? base t with
    | none => none
    | some ds =>
      if (baseMark? base).isNone && ds.length > maxDigits then none
      else some (ofDigits base ds)

/-- The integer of a numeral in a base, if the text is one. -/
def read? (base : Nat) (t : Text) : Option Int :=
  match westernDigits (Text.trimWhile Unicode.isBlank t) with
  | .char '-' :: rest => (readMagnitude? base rest).map fun n => -(n : Int)
  | .char '+' :: rest => (readMagnitude? base rest).map Int.ofNat
  | t => (readMagnitude? base t).map Int.ofNat

end Integer
end ActorManifest
