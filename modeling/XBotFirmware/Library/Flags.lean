import Mathlib.Data.List.Basic

/-!
Words used as sets of flags.

`revise` is the read-modify-write with which several writers share one word:
each names the bits it clears and the bits it adds.
-/

namespace XBotFirmware.Library

/-- Clear the bits of `clear`, then set the bits of `add`. -/
def revise {width : Nat} (word add clear : BitVec width) : BitVec width :=
  (word &&& ~~~clear) ||| add

@[simp]
theorem getLsbD_revise {width : Nat} (word add clear : BitVec width) (bit : Nat) :
    (revise word add clear).getLsbD bit =
      (word.getLsbD bit && !clear.getLsbD bit || add.getLsbD bit) := by
  by_cases inside : bit < width
  · simp [revise, inside]
  · simp [revise, BitVec.getLsbD_of_ge _ _ (Nat.le_of_not_lt inside)]

theorem revise_revise_again {width : Nat} (word add clear otherAdd otherClear : BitVec width) :
    revise (revise (revise (revise word add clear) otherAdd otherClear) add clear)
      otherAdd otherClear = revise (revise word add clear) otherAdd otherClear := by
  apply BitVec.eq_of_getLsbD_eq
  intro bit _
  simp only [getLsbD_revise]
  cases add.getLsbD bit <;> cases clear.getLsbD bit <;> cases otherAdd.getLsbD bit <;>
    cases otherClear.getLsbD bit <;> simp

theorem ne_zero_of_getLsbD {width : Nat} {word : BitVec width} {bit : Nat}
    (set : word.getLsbD bit = true) : word ≠ 0 := by
  rintro rfl
  simp at set

theorem and_twoPow_ne_zero_iff {width : Nat} (word : BitVec width) (bit : Nat) :
    word &&& BitVec.twoPow width bit ≠ 0 ↔ word.getLsbD bit = true := by
  constructor
  · intro nonzero
    by_contra absent
    apply nonzero
    rw [BitVec.and_twoPow]
    exact if_neg absent
  · intro present
    have inside : bit < width := BitVec.lt_of_getLsbD present
    have kept : (word &&& BitVec.twoPow width bit).getLsbD bit = true := by
      simp [present, inside]
    exact ne_zero_of_getLsbD kept

end XBotFirmware.Library
