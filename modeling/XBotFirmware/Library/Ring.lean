import Mathlib.Data.Int.ModEq
import Mathlib.Data.List.Rotate

set_option autoImplicit false

/-!
The contents of a ring: so many of its cells, from a first one on and around the end.
-/

namespace XBotFirmware.Library

variable {Item : Type}

def ringContents (cells : List Item) (first count : Nat) : List Item :=
  (cells.rotate first).take count

theorem length_ringContents {cells : List Item} {first count : Nat}
    (fits : count ≤ cells.length) : (ringContents cells first count).length = count := by
  rw [ringContents, List.length_take, List.length_rotate]
  exact Nat.min_eq_left fits

theorem getElem?_ringContents {cells : List Item} {first count index : Nat}
    (fits : count ≤ cells.length) (inside : index < count) :
    (ringContents cells first count)[index]? = cells[(index + first) % cells.length]? := by
  rw [ringContents, List.getElem?_take_of_lt inside]
  exact List.getElem?_rotate (Nat.lt_of_lt_of_le inside fits)

theorem ring_position_ne {size first count index : Nat} (less : index < count)
    (fits : count < size) : (first + count) % size ≠ (index + first) % size := by
  intro same
  have congruent : Nat.ModEq size count index := by
    apply Nat.ModEq.add_left_cancel' first
    rw [Nat.add_comm first index]
    exact same
  have equal := congruent.eq_of_lt_of_lt fits (Nat.lt_trans less fits)
  exact absurd equal.symm (Nat.ne_of_lt less)

theorem ringContents_set {cells : List Item} {first count : Nat} (room : count < cells.length)
    (item : Item) :
    ringContents (cells.set ((first + count) % cells.length) item) first (count + 1) =
      ringContents cells first count ++ [item] := by
  have same : (cells.set ((first + count) % cells.length) item).length = cells.length :=
    List.length_set
  apply List.ext_getElem?
  intro index
  rcases Nat.lt_trichotomy index count with less | rfl | more
  · rw [List.getElem?_append_left (by rwa [length_ringContents (Nat.le_of_lt room)]),
      getElem?_ringContents (by rw [same]; exact room) (Nat.lt_succ_of_lt less), same,
      List.getElem?_set_ne (ring_position_ne less room),
      getElem?_ringContents (Nat.le_of_lt room) less]
  · have inside : (first + index) % cells.length < cells.length :=
      Nat.mod_lt _ (Nat.zero_lt_of_lt room)
    rw [getElem?_ringContents (by rw [same]; exact room) (Nat.lt_succ_self index), same,
      Nat.add_comm index first, List.getElem?_set_self inside,
      List.getElem?_append_right (by rw [length_ringContents (Nat.le_of_lt room)]),
      length_ringContents (Nat.le_of_lt room), Nat.sub_self, List.getElem?_cons_zero]
  · have beyond : ∀ items : List Item, items.length = count + 1 → items[index]? = none := by
      intro items length
      rw [List.getElem?_eq_none_iff, length]
      exact more
    rw [beyond _ (length_ringContents (by rw [same]; exact room)), beyond]
    rw [List.length_append, length_ringContents (Nat.le_of_lt room), List.length_singleton]

theorem ringContents_succ {cells : List Item} {first count : Nat} (inside : first < cells.length)
    (fits : count < cells.length) :
    ringContents cells first (count + 1) =
      cells[first] :: ringContents cells ((first + 1) % cells.length) count := by
  have head : (cells.rotate first).head? = some cells[first] := by
    rw [List.head?_rotate inside]
    exact List.getElem?_eq_getElem inside
  obtain ⟨rest, split⟩ := List.head?_eq_some_iff.mp head
  have length : rest.length + 1 = cells.length := by
    rw [← List.length_rotate cells first, split, List.length_cons]
  have next : cells.rotate ((first + 1) % cells.length) = rest ++ [cells[first]] := by
    rw [List.rotate_mod, ← List.rotate_rotate, split, List.rotate_cons_succ, List.rotate_zero]
  rw [ringContents, split, List.take_succ_cons, ringContents, next,
    List.take_append_of_le_length (by omega)]

end XBotFirmware.Library
