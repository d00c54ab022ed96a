import Mathlib.Data.List.TakeWhile

set_option autoImplicit false

/-!
Strings of C, as the bytes a `const char*` points to.

A string counts up to its first NUL.  Where the bytes end without one, the next is taken
to be the NUL.
-/

namespace XBotFirmware.Platform

abbrev Byte := BitVec 8

/-- The bytes of a string that `strlen` counts. -/
def cString (bytes : List Byte) : List Byte := bytes.takeWhile (· ≠ 0)

def bytesOf (text : String) : List Byte := text.toUTF8.data.toList.map UInt8.toBitVec

/-- `strncmp`, with the difference of the first bytes that differ. -/
def strncmp : List Byte → List Byte → Nat → Int
  | _, _, 0 => 0
  | first, second, count + 1 =>
      let left := first.headD 0
      let right := second.headD 0
      if left ≠ right then (left.toNat : Int) - right.toNat
      else if left = 0 then 0
      else strncmp first.tail second.tail count

/-- What `strncpy` writes to an array of so many bytes, padded with NULs. -/
def strncpy (source : List Byte) (count : Nat) : List Byte :=
  ((cString source).take count).rightpad count 0

theorem cString_cString (bytes : List Byte) : cString (cString bytes) = cString bytes :=
  List.takeWhile_idem

theorem cString_eq (bytes : List Byte) :
    cString bytes = if bytes.headD 0 = 0 then [] else bytes.headD 0 :: cString bytes.tail := by
  cases bytes with
  | nil => rfl
  | cons byte rest =>
      rw [List.headD_cons, List.tail_cons, cString, cString, List.takeWhile_cons]
      by_cases zero : byte = 0
      · simp [zero]
      · rw [if_neg zero, if_pos (decide_eq_true zero)]

theorem cString_append {text : List Byte} (noNul : 0 ∉ text) (rest : List Byte) :
    cString (text ++ rest) = text ++ cString rest := by
  apply List.takeWhile_append_of_pos
  intro byte membership
  exact decide_eq_true fun nul => noNul (nul ▸ membership)

theorem cString_of_noNul {text : List Byte} (noNul : 0 ∉ text) : cString text = text := by
  have whole := cString_append noNul []
  rwa [List.append_nil, show cString [] = [] from rfl, List.append_nil] at whole

theorem cString_append_nul (bytes rest : List Byte) :
    cString (bytes ++ 0 :: rest) = cString bytes := by
  induction bytes with
  | nil => rfl
  | cons byte bytes inductionHypothesis =>
      rw [List.cons_append, cString_eq, cString_eq (byte :: bytes), List.headD_cons,
        List.headD_cons, List.tail_cons, List.tail_cons, inductionHypothesis]

/-- `strncmp` finds no difference exactly when the strings start with the same bytes. -/
theorem strncmp_eq_zero_iff (first second : List Byte) (count : Nat) :
    strncmp first second count = 0 ↔ (cString first).take count = (cString second).take count := by
  induction count generalizing first second with
  | zero => simp [strncmp]
  | succ count inductionHypothesis =>
      simp only [strncmp]
      rw [cString_eq first, cString_eq second]
      by_cases same : first.headD 0 = second.headD 0
      · rw [if_neg (not_not_intro same), same]
        by_cases ended : second.headD 0 = 0
        · simp only [if_pos ended]
        · rw [if_neg ended, if_neg ended, if_neg ended, inductionHypothesis, List.take_succ_cons,
            List.take_succ_cons, List.cons.injEq]
          exact (and_iff_right rfl).symm
      · have different : ((first.headD 0).toNat : Int) - (second.headD 0).toNat ≠ 0 := by
          intro equal
          exact same (BitVec.eq_of_toNat_eq (by omega))
        rw [if_pos same]
        refine iff_of_false different ?_
        intro taken
        -- Strings that start with different bytes have different prefixes, also at an end.
        split at taken <;> split at taken <;> simp_all

end XBotFirmware.Platform
