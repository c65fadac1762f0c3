import ActorManifest.Unicode.Run

/-!
# Blanks

The code points that count as white space in text of any script, as of Unicode 14.
-/

namespace ActorManifest
namespace Unicode

/-- The white space. -/
def blankRuns : List Run :=
  [⟨0x9, 0xD, 1⟩, ⟨0x1C, 0x20, 1⟩, ⟨0x85, 0x85, 1⟩, ⟨0xA0, 0xA0, 1⟩, ⟨0x1680, 0x1680, 1⟩,
   ⟨0x2000, 0x200A, 1⟩, ⟨0x2028, 0x2029, 1⟩, ⟨0x202F, 0x202F, 1⟩, ⟨0x205F, 0x205F, 1⟩,
   ⟨0x3000, 0x3000, 1⟩]

/-- Whether a code point is white space. -/
def isBlank (c : CodePoint) : Bool :=
  Run.covers c.toNat blankRuns

end Unicode
end ActorManifest
