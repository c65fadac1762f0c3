import ActorManifest.Number.Binary64
import ActorManifest.Number.Integer
import ActorManifest.Text.Case

/-!
# Decimal numbers

Between text and binary numbers stand decimal fractions: a natural number times
a power of ten.  Reading rounds the fraction once.  Writing takes the fewest
digits that read back as the same number and, among those, the nearest.
-/

namespace ActorManifest

/-- The decimal fraction `digits * 10 ^ exponent`. -/
structure Decimal where
  digits : Nat
  exponent : Int
deriving DecidableEq

namespace Decimal

/-- How many decimal digits a number has. -/
def digitCount (n : Nat) : Nat :=
  (Nat.toDigits 10 n).length

/-- The fraction `numerator / denominator` times a power of ten. -/
def shift (numerator denominator : Nat) : Int → Nat × Nat
  | .ofNat k => (numerator * Nat.pow 10 k, denominator)
  | .negSucc k => (numerator, denominator * Nat.pow 10 (k + 1))

/-- The binary number nearest to a decimal fraction with a sign.  Fractions far outside the
range of the format are decided by their magnitude alone. -/
def toBinary64 (negative : Bool) (d : Decimal) : Binary64 :=
  let magnitude : Int := digitCount d.digits + d.exponent
  if d.digits = 0 ∨ magnitude < -330 then Binary64.zeroOf negative
  else if 330 < magnitude then .infinite negative
  else
    let (n, m) := shift d.digits 1 d.exponent
    Binary64.ofRatio negative n m

/-- The least power of ten above a positive fraction. -/
def magnitudeOf (numerator denominator : Nat) : Int :=
  let guess : Int := (digitCount numerator : Int) - digitCount denominator
  let (n, d) := shift numerator denominator (-guess)
  if n < d then guess else guess + 1

/-- The two neighbours of a fraction among the natural numbers, the nearer one first and the
even one first in a tie. -/
def neighbours (numerator denominator : Nat) : List Nat :=
  let q := numerator / denominator
  let r := numerator % denominator
  if 2 * r < denominator then [q, q + 1]
  else if denominator < 2 * r then [q + 1, q]
  else if q % 2 = 0 then [q, q + 1] else [q + 1, q]

/-- A decimal fraction of `count` digits that reads back as the given magnitude, if there is
one; of two, the nearer. -/
def ofCount? (mantissa : Nat) (exponent : Int) (count : Nat) : Option Decimal :=
  let (n, d) := Binary64.ratio mantissa exponent
  let places : Int := magnitudeOf n d - count
  let (a, b) := shift n d (-places)
  ((neighbours a b).map fun c => Decimal.mk c places).find? fun x =>
    x.toBinary64 false == .finite false mantissa exponent

/-- The decimal fraction with the fewest digits that reads back as a positive magnitude. -/
def shortest (mantissa : Nat) (exponent : Int) : Decimal :=
  ((List.range' 1 17).findSome? (ofCount? mantissa exponent)).getD ⟨mantissa, exponent⟩

/-- The digits without zeros at their end, and the place of the decimal point relative to
the first digit. -/
def significant (d : Decimal) : List Char × Int :=
  let all := Nat.toDigits 10 d.digits
  ((all.reverse.dropWhile (· == '0')).reverse, all.length + d.exponent)

end Decimal

namespace Binary64

/-- The digits of a positive number as text: positional while the point stands less than four
places before the first digit and at most sixteen after it, and otherwise with an exponent of
at least two digits. -/
def magnitudeText (mantissa : Nat) (exponent : Int) : Text :=
  let (ds, point) := (Decimal.shortest mantissa exponent).significant
  let digits := Text.ofChars ds
  if point ≤ -4 ∨ 16 < point then
    let fraction := match digits with
      | first :: [] => [first]
      | first :: rest => first :: .char '.' :: rest
      | [] => []
    let e := point - 1
    Text.concat [fraction, if e < 0 then "e-" else "e+", Text.ofNatPadded 2 e.natAbs]
  else if point ≤ 0 then
    Text.concat ["0.", Text.zeros point.natAbs, digits]
  else
    let n := point.toNat
    if digits.length ≤ n then Text.concat [digits, Text.zeros (n - digits.length), ".0"]
    else Text.concat [digits.take n, ".", digits.drop n]

/-- The text of a number; it reads back as the same number. -/
def text : Binary64 → Text
  | .nan => "nan"
  | .infinite false => "inf"
  | .infinite true => "-inf"
  | .finite s m e =>
    let sign : Text := if s then "-" else ""
    Text.concat [sign, if m = 0 then "0.0" else magnitudeText m e]

/-- The decimal digits at the start of a text and what follows them. -/
def spanDigits (t : Text) : Text × Text :=
  t.span CodePoint.isAsciiDigit

/-- The exponent after a mark `e` or `E`, if the whole text is one. -/
def exponent? : Text → Option Int
  | [] => some 0
  | .char c :: rest =>
    if c = 'e' ∨ c = 'E' then
      let (negative, ds) : Bool × Text := match rest with
        | .char '-' :: ds => (true, ds)
        | .char '+' :: ds => (false, ds)
        | ds => (false, ds)
      if ds.isEmpty || !ds.all CodePoint.isAsciiDigit then none
      else some (signed negative (Integer.ofDigits 10 (ds.filterMap CodePoint.hexValue?)))
    else none
  | .surrogate _ :: _ => none

/-- The number of an unsigned numeral with an optional point and an optional exponent. -/
def readMagnitude? (negative : Bool) (t : Text) : Option Binary64 :=
  let name := Text.lower t
  if name = ("inf" : Text) ∨ name = ("infinity" : Text) then some (.infinite negative)
  else if name = ("nan" : Text) then some .nan
  else
    let (whole, rest) := spanDigits t
    let (fraction, rest) : Text × Text := match rest with
      | .char '.' :: more => spanDigits more
      | _ => ([], rest)
    if whole.isEmpty && fraction.isEmpty then none
    else
      (exponent? rest).map fun e =>
        let digits := Integer.ofDigits 10 ((whole ++ fraction).filterMap CodePoint.hexValue?)
        Decimal.toBinary64 negative ⟨digits, e - fraction.length⟩

/-- The number of a numeral: blanks around it, a sign, and the digits of any script are
allowed. -/
def read? (t : Text) : Option Binary64 :=
  match Integer.westernDigits (Text.trimWhile Unicode.isBlank t) with
  | .char '-' :: rest => readMagnitude? true rest
  | .char '+' :: rest => readMagnitude? false rest
  | t => readMagnitude? false t

end Binary64
end ActorManifest
