import ActorManifest.Text.CodePoint

/-!
# Text

Text is a list of code points.  A string literal stands for the text of its
characters.  The module holds the cuts and joins that the rest of the library
needs: splitting at the first separator, joining, trimming, and the order by
code point.
-/

namespace ActorManifest

/-- Text is a list of code points. -/
abbrev Text := List CodePoint

namespace Text

/-- The text of a string. -/
def ofString (s : String) : Text :=
  s.toList.map CodePoint.char

instance : Coe String Text := ⟨ofString⟩

/-- The text of a list of characters. -/
def ofChars (cs : List Char) : Text :=
  cs.map CodePoint.char

/-- The characters of a text without lone surrogates. -/
def toChars? (t : Text) : Option (List Char) :=
  t.mapM CodePoint.toChar?

/-- The text as a string, with each lone surrogate replaced by `U+FFFD`. -/
def toStringLossy (t : Text) : String :=
  String.ofList (t.map fun c => c.toChar?.getD '\uFFFD')

/-- The texts one after another. -/
def concat (pieces : List Text) : Text :=
  pieces.flatten

/-- The text before the first separator and the text after it, if the separator occurs. -/
def cutAt? (separator : CodePoint) : Text → Option (Text × Text)
  | [] => none
  | c :: rest =>
    if c = separator then some ([], rest)
    else (cutAt? separator rest).map fun (before, after) => (c :: before, after)

/-- The pieces between separators; there is always one piece more than separators. -/
def splitAll (separator : CodePoint) : Text → List Text
  | [] => [[]]
  | c :: rest =>
    match splitAll separator rest with
    | [] => [[c]]
    | piece :: pieces =>
      if c = separator then [] :: piece :: pieces else (c :: piece) :: pieces

/-- The pieces with a separator text between each two. -/
def join (separator : Text) : List Text → Text
  | [] => []
  | [piece] => piece
  | piece :: pieces => piece ++ separator ++ join separator pieces

/-- The text without the code points at its end that satisfy `p`. -/
def dropEndWhile (p : CodePoint → Bool) (t : Text) : Text :=
  (t.reverse.dropWhile p).reverse

/-- The text without the code points at either end that satisfy `p`. -/
def trimWhile (p : CodePoint → Bool) (t : Text) : Text :=
  dropEndWhile p (t.dropWhile p)

/-- The text with spaces added at its end up to a width. -/
def padEnd (width : Nat) (t : Text) : Text :=
  t ++ List.replicate (width - t.length) (.char ' ')

/-- The text after a given beginning, if it begins so. -/
def after? : (beginning : Text) → Text → Option Text
  | [], t => some t
  | _ :: _, [] => none
  | b :: beginning, c :: t => if b = c then after? beginning t else none

/-- Whether a part occurs in a text. -/
def mentions (part : Text) : Text → Bool
  | [] => part.isEmpty
  | c :: rest => (after? part (c :: rest)).isSome || mentions part rest

/-- Whether one text comes before another or equals it, code point by code point. -/
def le : Text → Text → Bool
  | [], _ => true
  | _ :: _, [] => false
  | a :: s, b :: t =>
    if a.toNat < b.toNat then true
    else if b.toNat < a.toNat then false
    else le s t

/-- Whether a text holds a lone surrogate. -/
def hasSurrogate (t : Text) : Bool :=
  t.any fun c => c.toChar?.isNone

/-- The decimal digits of a natural number. -/
def ofNat (n : Nat) : Text :=
  ofChars (Nat.toDigits 10 n)

/-- The decimal digits of an integer, with a sign if it is negative. -/
def ofInt : Int → Text
  | .ofNat n => ofNat n
  | .negSucc n => .char '-' :: ofNat (n + 1)

/-- A number of zeros. -/
def zeros (count : Nat) : Text :=
  List.replicate count (.char '0')

/-- The decimal digits of a number, with zeros in front up to a width. -/
def ofNatPadded (width n : Nat) : Text :=
  let digits := ofNat n
  zeros (width - digits.length) ++ digits

/-- The hexadecimal digits of a number, with zeros in front up to a width. -/
def ofNatHex (width n : Nat) : Text :=
  let digits := ofChars (Nat.toDigits 16 n)
  zeros (width - digits.length) ++ digits

/-- The text with every line break written as a single line feed. -/
def unifyLineBreaks : Text → Text
  | [] => []
  | .char '\r' :: .char '\n' :: rest => .char '\n' :: unifyLineBreaks rest
  | .char '\r' :: rest => .char '\n' :: unifyLineBreaks rest
  | c :: rest => c :: unifyLineBreaks rest

end Text

end ActorManifest
