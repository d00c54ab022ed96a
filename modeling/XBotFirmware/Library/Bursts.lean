import Mathlib.Data.List.GetD
import Mathlib.Tactic.ByContra
import Mathlib.Tactic.Push

set_option autoImplicit false

/-!
Checksums that fold bytes into the lanes of a word, and the bursts they detect.

The bits of a byte sequence are numbered from its first byte on, in either order within a
byte.  A burst is a change of bits that are all within a window of consecutive numbers.
-/

namespace XBotFirmware.Library

section Fold

variable {width bit count : Nat} {words others : Nat → BitVec width}

def xorUpTo (words : Nat → BitVec width) : Nat → BitVec width
  | 0 => 0
  | count + 1 => xorUpTo words count ^^^ words count

theorem getLsbD_xorUpTo_congr
    (agree : ∀ index < count, (words index).getLsbD bit = (others index).getLsbD bit) :
    (xorUpTo words count).getLsbD bit = (xorUpTo others count).getLsbD bit := by
  induction count with
  | zero => rfl
  | succ count inductionHypothesis =>
      rw [xorUpTo, xorUpTo, BitVec.getLsbD_xor, BitVec.getLsbD_xor,
        inductionHypothesis fun index below => agree index (Nat.lt_succ_of_lt below),
        agree count (Nat.lt_succ_self count)]

theorem getLsbD_xorUpTo_ne {index : Nat} (inside : index < count)
    (differ : (words index).getLsbD bit ≠ (others index).getLsbD bit)
    (agree : ∀ other < count, other ≠ index →
      (words other).getLsbD bit = (others other).getLsbD bit) :
    (xorUpTo words count).getLsbD bit ≠ (xorUpTo others count).getLsbD bit := by
  induction count with
  | zero => exact absurd inside (Nat.not_lt_zero index)
  | succ count inductionHypothesis =>
      rw [xorUpTo, xorUpTo, BitVec.getLsbD_xor, BitVec.getLsbD_xor]
      rcases Nat.lt_or_eq_of_le (Nat.le_of_lt_succ inside) with below | rfl
      · have before := inductionHypothesis below fun other small =>
          agree other (Nat.lt_succ_of_lt small)
        rw [agree count (Nat.lt_succ_self count) (Nat.ne_of_gt below)]
        exact fun same => before (Bool.xor_left_inj.mp same)
      · rw [getLsbD_xorUpTo_congr fun other small =>
          agree other (Nat.lt_succ_of_lt small) (Nat.ne_of_lt small)]
        exact fun same => differ (Bool.xor_right_inj.mp same)

def placed (width lane : Nat) (byte : BitVec 8) : BitVec width := byte.setWidth width <<< (8 * lane)

theorem getLsbD_placed {lane other : Nat} (byte : BitVec 8) (small : bit < 8)
    (fits : 8 * other + 8 ≤ width) :
    (placed width lane byte).getLsbD (8 * other + bit) =
      (decide (lane = other) && byte.getLsbD bit) := by
  rw [placed, BitVec.getLsbD_shiftLeft, BitVec.getLsbD_setWidth]
  rcases Nat.lt_trichotomy lane other with lower | rfl | higher
  · have outside : byte.getLsbD (8 * other + bit - 8 * lane) = false :=
      BitVec.getLsbD_of_ge byte _ (by omega)
    rw [outside, decide_eq_false (Nat.ne_of_lt lower), Bool.and_false, Bool.and_false,
      Bool.false_and]
  · rw [Nat.add_sub_cancel_left, decide_eq_true (by omega : 8 * lane + bit < width),
      decide_eq_false (by omega : ¬8 * lane + bit < 8 * lane),
      decide_eq_true (by omega : bit < width), decide_eq_true rfl]
    simp
  · have below : 8 * other + bit < 8 * lane := by omega
    rw [decide_eq_true below, decide_eq_false (Nat.ne_of_gt higher)]
    simp

end Fold

/-- Which bit of a byte comes first. -/
inductive BitOrder where
  | lsbFirst
  | msbFirst
  deriving DecidableEq, Repr

def BitOrder.place : BitOrder → Nat → Nat
  | .lsbFirst, offset => offset
  | .msbFirst, offset => 7 - offset

theorem BitOrder.place_lt (order : BitOrder) {offset : Nat} (small : offset < 8) :
    order.place offset < 8 := by
  cases order with
  | lsbFirst => exact small
  | msbFirst =>
      change 7 - offset < 8
      omega

theorem BitOrder.place_place (order : BitOrder) {offset : Nat} (small : offset < 8) :
    order.place (order.place offset) = offset := by
  cases order with
  | lsbFirst => rfl
  | msbFirst =>
      change 7 - (7 - offset) = offset
      omega

def bitAt (order : BitOrder) (bytes : List (BitVec 8)) (position : Nat) : Bool :=
  (bytes.getD (position / 8) 0).getLsbD (order.place (position % 8))

/-- The sequences differ in a window of so many bits only. -/
def DifferWithin (order : BitOrder) (start length : Nat) (first second : List (BitVec 8)) : Prop :=
  ∀ position, bitAt order first position ≠ bitAt order second position →
    start ≤ position ∧ position < start + length

section Detection

variable {order : BitOrder} {first second : List (BitVec 8)} {start length : Nat}

theorem bitAt_byte (order : BitOrder) (bytes : List (BitVec 8)) (index : Nat) {offset : Nat}
    (small : offset < 8) :
    bitAt order bytes (8 * index + offset) =
      (bytes.getD index 0).getLsbD (order.place offset) := by
  have quotient : (8 * index + offset) / 8 = index := by omega
  have remainder : (8 * index + offset) % 8 = offset := by omega
  rw [bitAt, quotient, remainder]

theorem exists_bitAt_ne (order : BitOrder) (sameLength : first.length = second.length)
    (different : first ≠ second) :
    ∃ index offset, index < first.length ∧ offset < 8 ∧
      bitAt order first (8 * index + offset) ≠ bitAt order second (8 * index + offset) := by
  by_contra none
  push Not at none
  apply different
  apply List.ext_getElem sameLength
  intro index inFirst inSecond
  apply BitVec.eq_of_getLsbD_eq
  intro bit small
  have same := none index (order.place bit) inFirst (order.place_lt small)
  rw [bitAt_byte order first index (order.place_lt small),
    bitAt_byte order second index (order.place_lt small), order.place_place small] at same
  rwa [List.getD_eq_getElem first 0 inFirst, List.getD_eq_getElem second 0 inSecond] at same

theorem DifferWithin.agree (confined : DifferWithin order start length first second)
    {position other : Nat} (differ : bitAt order first position ≠ bitAt order second position)
    (far : position + length ≤ other ∨ other + length ≤ position) :
    bitAt order first other = bitAt order second other := by
  by_contra alsoDiffer
  have here := confined position differ
  have there := confined other alsoDiffer
  omega

/-- A fold detects every burst that is no longer than two bytes of one lane are apart. -/
theorem DifferWithin.xorUpTo_ne (confined : DifferWithin order start length first second)
    (sameLength : first.length = second.length) (different : first ≠ second)
    {width : Nat} {lane : Nat → Nat} (fits : ∀ index < first.length, 8 * lane index + 8 ≤ width)
    (apart : ∀ index other, index < other → other < first.length → lane index = lane other →
      length ≤ 8 * (other - index)) :
    xorUpTo (fun index => placed width (lane index) (first.getD index 0)) first.length ≠
      xorUpTo (fun index => placed width (lane index) (second.getD index 0)) first.length := by
  obtain ⟨index, offset, inside, small, differ⟩ := exists_bitAt_ne order sameLength different
  have place := order.place_lt small
  have room := fits index inside
  intro same
  -- Only this byte of the lane has changed in the place of the differing bit.
  have changed : (xorUpTo (fun index => placed width (lane index) (first.getD index 0))
      first.length).getLsbD (8 * lane index + order.place offset) ≠
      (xorUpTo (fun index => placed width (lane index) (second.getD index 0))
        first.length).getLsbD (8 * lane index + order.place offset) := by
    apply getLsbD_xorUpTo_ne inside
    · rw [bitAt_byte order first index small, bitAt_byte order second index small] at differ
      rw [getLsbD_placed _ place room, getLsbD_placed _ place room]
      simpa using differ
    · intro other below distinct
      rw [getLsbD_placed _ place room, getLsbD_placed _ place room]
      by_cases sameLane : lane other = lane index
      · have far : 8 * index + offset + length ≤ 8 * other + offset ∨
            8 * other + offset + length ≤ 8 * index + offset := by
          rcases Nat.lt_or_gt_of_ne distinct with earlier | later
          · have distance := apart other index earlier inside sameLane
            omega
          · have distance := apart index other later below sameLane.symm
            omega
        have agree := confined.agree differ far
        rw [bitAt_byte order first other small, bitAt_byte order second other small] at agree
        rw [agree]
      · rw [decide_eq_false sameLane, Bool.false_and, Bool.false_and]
  exact changed (by rw [same])

end Detection

end XBotFirmware.Library
