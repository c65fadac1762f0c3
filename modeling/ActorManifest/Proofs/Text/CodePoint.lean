import ActorManifest.Text.CodePoint

/-!
# Code points and their numbers

A code point is found again by its number, so different code points have different numbers.
-/

namespace ActorManifest
namespace CodePoint

theorem ofNat?_toNat (c : CodePoint) : ofNat? c.toNat = some c := by
  cases c with
  | char c =>
      have hvalid : c.toNat.isValidChar := c.valid
      rw [toNat_char, ofNat?, dif_pos hvalid]
      rfl
  | surrogate offset =>
      have hoffset := offset.isLt
      have hvalid : ¬(surrogate offset).toNat.isValidChar := by
        simp only [toNat, Nat.isValidChar]
        omega
      have hhalf : (surrogate offset).toNat - 0xD800 = offset.val := by
        simp only [toNat]
        omega
      rw [ofNat?, dif_neg hvalid, dif_pos (by omega)]
      simp only [hhalf]

theorem ofNat?_toNat_char (c : Char) : ofNat? c.toNat = some (.char c) :=
  ofNat?_toNat (.char c)

theorem toNat_inj {a b : CodePoint} (heq : a.toNat = b.toNat) : a = b := by
  have ha := ofNat?_toNat a
  rw [heq, ofNat?_toNat] at ha
  exact (Option.some.inj ha).symm

theorem toNat_of_ofNat? {n : Nat} {c : CodePoint} (hc : ofNat? n = some c) : c.toNat = n := by
  unfold ofNat? at hc
  by_cases hvalid : n.isValidChar
  · rw [dif_pos hvalid] at hc
    obtain rfl := Option.some.inj hc
    rfl
  · rw [dif_neg hvalid] at hc
    by_cases hhalf : n - 0xD800 < 2048
    · rw [dif_pos hhalf] at hc
      obtain rfl := Option.some.inj hc
      simp only [Nat.isValidChar] at hvalid
      simp only [toNat]
      omega
    · rw [dif_neg hhalf] at hc
      cases hc

end CodePoint
end ActorManifest
