/-!
# Code points

A code point is a character or one half of a surrogate pair that stands alone.
Lone halves are no characters, so they appear in no file, but an escape inside
quoted text can name one, and such text has to be kept apart from all other
text until something tries to write it out.
-/

namespace ActorManifest

/-- A Unicode code point: a character, or a lone surrogate given by its
distance from `U+D800`. -/
inductive CodePoint where
  | char (c : Char)
  | surrogate (offset : Fin 2048)
deriving DecidableEq, Inhabited

namespace CodePoint

instance : Coe Char CodePoint := ⟨.char⟩

/-- The number of the code point. -/
def toNat : CodePoint → Nat
  | .char c => c.toNat
  | .surrogate offset => 0xD800 + offset.val

/-- The code point of a number, if there is one. -/
def ofNat? (n : Nat) : Option CodePoint :=
  if hvalid : n.isValidChar then
    some (.char (Char.ofNatAux n hvalid))
  else if hhalf : n - 0xD800 < 2048 then
    some (.surrogate ⟨n - 0xD800, hhalf⟩)
  else
    none

/-- The character, unless the code point is a lone surrogate. -/
def toChar? : CodePoint → Option Char
  | .char c => some c
  | .surrogate _ => none

/-- Whether the code point is the second half of a pair. -/
def isLowSurrogate : CodePoint → Bool
  | .char _ => false
  | .surrogate offset => 0x400 ≤ offset.val

/-- Whether the code point is one of the decimal digits `0` to `9`. -/
def isAsciiDigit : CodePoint → Bool
  | .char c => c.isDigit
  | .surrogate _ => false

/-- The value of a hexadecimal digit of either case. -/
def hexValue? : CodePoint → Option Nat
  | .surrogate _ => none
  | .char c =>
    if c.isDigit then some (c.toNat - 0x30)
    else if 'a' ≤ c ∧ c ≤ 'f' then some (c.toNat - 0x61 + 10)
    else if 'A' ≤ c ∧ c ≤ 'F' then some (c.toNat - 0x41 + 10)
    else none

@[simp] theorem toNat_char (c : Char) : toNat (.char c) = c.toNat := rfl

@[simp] theorem toChar?_char (c : Char) : toChar? (.char c) = some c := rfl

end CodePoint

end ActorManifest
