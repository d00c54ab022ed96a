import Mathlib.Logic.Basic
import Mathlib.Tactic.Common

set_option autoImplicit false

/-!
Overlaying a list on a memory.

The cells of a memory have places, and a list is combined into the cells from one
place on.  Overlaying in pieces is the same as overlaying at once.
-/

namespace XBotFirmware.Library

section Overlay

variable {Index Other Cell : Type} (combine : Cell → Cell → Cell) (place : Index → Nat)

def overlay (start : Nat) (items : List Cell) (memory : Index → Cell) : Index → Cell :=
  fun index =>
    if start ≤ place index then
      match items[place index - start]? with
      | some item => combine (memory index) item
      | none => memory index
    else memory index

variable {combine place}

theorem overlay_of_lt {start : Nat} {items : List Cell} {memory : Index → Cell} {index : Index}
    (before : place index < start) :
    overlay combine place start items memory index = memory index :=
  if_neg (Nat.not_le.mpr before)

theorem overlay_of_ge {start : Nat} {items : List Cell} {memory : Index → Cell} {index : Index}
    (after : start + items.length ≤ place index) :
    overlay combine place start items memory index = memory index := by
  unfold overlay
  rw [if_pos (by omega), List.getElem?_eq_none (by omega)]

theorem overlay_of_mem {start : Nat} {items : List Cell} {memory : Index → Cell} {index : Index}
    (begun : start ≤ place index) (inside : place index - start < items.length) :
    overlay combine place start items memory index =
      combine (memory index) items[place index - start] := by
  unfold overlay
  rw [if_pos begun, List.getElem?_eq_getElem inside]

@[simp]
theorem overlay_nil (start : Nat) (memory : Index → Cell) :
    overlay combine place start [] memory = memory := by
  funext index
  simp [overlay]

theorem overlay_append (start : Nat) (first second : List Cell) (memory : Index → Cell) :
    overlay combine place start (first ++ second) memory =
      overlay combine place (start + first.length) second
        (overlay combine place start first memory) := by
  funext index
  rcases Nat.lt_or_ge (place index) start with before | begun
  · rw [overlay_of_lt before, overlay_of_lt (by omega), overlay_of_lt before]
  · rcases Nat.lt_or_ge (place index - start) first.length with early | late
    · rw [overlay_of_mem begun (by rw [List.length_append]; omega), overlay_of_lt (by omega),
        overlay_of_mem begun early, List.getElem_append_left early]
    · have kept : overlay combine place start first memory index = memory index :=
        overlay_of_ge (by omega)
      have shifted : place index - start - first.length = place index - (start + first.length) := by
        omega
      unfold overlay at kept ⊢
      rw [if_pos begun, if_pos (by omega), kept, List.getElem?_append_right late, shifted]

theorem overlay_cons (start : Nat) (item : Cell) (rest : List Cell) (memory : Index → Cell) :
    overlay combine place start (item :: rest) memory =
      overlay combine place (start + 1) rest
        (fun index =>
          if place index = start then combine (memory index) item else memory index) := by
  have first : overlay combine place start [item] memory =
      fun index => if place index = start then combine (memory index) item else memory index := by
    funext index
    rcases Nat.lt_trichotomy (place index) start with before | here | after
    · rw [overlay_of_lt before, if_neg (Nat.ne_of_lt before)]
    · rw [overlay_of_mem (Nat.le_of_eq here.symm) (by simp [here]), if_pos here]
      simp [here]
    · rw [overlay_of_ge after, if_neg (Nat.ne_of_gt after)]
  rw [← first]
  exact overlay_append start [item] rest memory

/-- Seen through cells that lie at a fixed distance, the overlay starts earlier. -/
theorem overlay_comp {otherPlace : Other → Nat} (embed : Other → Index) {base : Nat}
    (distance : ∀ other, place (embed other) = base + otherPlace other) (start : Nat)
    (items : List Cell) (memory : Index → Cell) :
    (fun other => overlay combine place (base + start) items memory (embed other)) =
      overlay combine otherPlace start items fun other => memory (embed other) := by
  funext other
  have same : place (embed other) - (base + start) = otherPlace other - start := by
    rw [distance, Nat.add_sub_add_left]
  unfold overlay
  rw [same, distance]
  simp only [Nat.add_le_add_iff_left]

end Overlay

end XBotFirmware.Library
