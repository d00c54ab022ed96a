import Mathlib.Algebra.BigOperators.Group.List.Basic
import Mathlib.Data.List.Induction
import Mathlib.Tactic.Ring

set_option autoImplicit false

/-!
Counters that wrap, and the steps between their samples.

A sample keeps a count modulo a power of two.  The signed difference of two samples
is the step between the counts as long as the step fits, so the steps still add up.
-/

namespace XBotFirmware.Library

def differences : List Int → List Int
  | first :: second :: rest => (second - first) :: differences (second :: rest)
  | _ => []

theorem differences_concat (front : List Int) (last new : Int) :
    differences (front ++ [last] ++ [new]) = differences (front ++ [last]) ++ [new - last] := by
  induction front with
  | nil => simp [differences]
  | cons first rest inductionHypothesis =>
      cases rest with
      | nil => simp [differences]
      | cons second rest =>
          simp only [List.cons_append, differences] at inductionHypothesis ⊢
          rw [inductionHypothesis]

theorem sum_differences {values : List Int} {first last : Int} (head : values.head? = some first)
    (ends : values.getLast? = some last) : (differences values).sum = last - first := by
  induction values using List.reverseRecOn generalizing last with
  | nil => cases head
  | append_singleton front new inductionHypothesis =>
      rw [List.getLast?_append, List.getLast?_singleton, Option.some_or] at ends
      obtain rfl := Option.some.inj ends
      rcases List.eq_nil_or_concat front with rfl | ⟨before, previous, rfl⟩
      · cases head
        simp [differences]
      · rw [List.concat_eq_append] at *
        rw [differences_concat, List.sum_append, List.sum_singleton,
          @inductionHypothesis previous (by simpa using head) (by simp)]
        ring

/-- A step as the signed difference of two samples sees it. -/
def wrapped (width : Nat) (step : Int) : Int := (BitVec.ofInt width step).toInt

theorem toInt_ofInt_sub (width : Nat) (first second : Int) :
    (BitVec.ofInt width second - BitVec.ofInt width first).toInt =
      wrapped width (second - first) := by
  rw [wrapped, Int.sub_eq_add_neg, BitVec.ofInt_add, BitVec.ofInt_neg, BitVec.sub_eq_add_neg]

theorem wrapped_of_fits {width : Nat} {step : Int} (lower : -2 ^ width ≤ step)
    (upper : step < 2 ^ width) : wrapped (width + 1) step = step := by
  rw [wrapped, BitVec.toInt_ofInt]
  apply Int.bmod_eq_of_le_mul_two
  · push_cast
    rw [pow_succ]
    omega
  · push_cast
    rw [pow_succ]
    omega

/-- Steps that fit add up although the counter wraps. -/
theorem sum_wrapped_differences {width : Nat} {values : List Int} {first last : Int}
    (fits : ∀ step ∈ differences values, -2 ^ width ≤ step ∧ step < 2 ^ width)
    (head : values.head? = some first) (ends : values.getLast? = some last) :
    ((differences values).map (wrapped (width + 1))).sum = last - first := by
  have same : ∀ step ∈ differences values, wrapped (width + 1) step = id step :=
    fun step member => wrapped_of_fits (fits step member).1 (fits step member).2
  rw [List.map_congr_left same, List.map_id, sum_differences head ends]

end XBotFirmware.Library
