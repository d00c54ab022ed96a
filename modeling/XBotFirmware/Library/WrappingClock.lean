import Mathlib.Data.Nat.ModEq

/-!
Readings of a free-running clock in a fixed-width register.

True time is an unbounded tick count.  The register holds `scale * time`
modulo `2 ^ width`, and elapsed time is the wrapping difference of two readings.
-/

namespace XBotFirmware.Library

/-- The register at a true time, counting `scale` units a tick. -/
def reading (width scale time : Nat) : BitVec width := BitVec.ofNat width (scale * time)

theorem reading_zero (width scale : Nat) : reading width scale 0 = 0 := by
  simp [reading]

theorem toNat_reading_sub_reading {width scale since now : Nat} (ordered : since ≤ now) :
    (reading width scale now - reading width scale since).toNat =
      scale * (now - since) % 2 ^ width := by
  obtain ⟨elapsed, rfl⟩ := Nat.exists_eq_add_of_le ordered
  have split : scale * (since + elapsed) = scale * since + scale * elapsed := Nat.mul_add ..
  have bound : scale * since % 2 ^ width < 2 ^ width := Nat.mod_lt _ (Nat.two_pow_pos width)
  rw [reading, reading, BitVec.toNat_sub, BitVec.toNat_ofNat, BitVec.toNat_ofNat, split,
    Nat.add_sub_cancel_left, Nat.add_mod_mod]
  have cancelled : 2 ^ width - scale * since % 2 ^ width + (scale * since + scale * elapsed) =
      scale * elapsed + 2 ^ width * (1 + scale * since / 2 ^ width) := by
    have division := Nat.div_add_mod (scale * since) (2 ^ width)
    rw [Nat.mul_add, Nat.mul_one]
    omega
  rw [cancelled, Nat.add_mul_mod_self_left]

/-- Below one full period the difference is exact. -/
theorem toNat_reading_sub_reading_of_lt {width scale since now : Nat} (ordered : since ≤ now)
    (short : scale * (now - since) < 2 ^ width) :
    (reading width scale now - reading width scale since).toNat = scale * (now - since) := by
  rw [toNat_reading_sub_reading ordered, Nat.mod_eq_of_lt short]

end XBotFirmware.Library
