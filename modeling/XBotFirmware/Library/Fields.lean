import Mathlib.Data.List.Basic

set_option autoImplicit false

/-!
Fields of a record that is laid out in a list of cells.

A field is a range of cells.  Storing into one field leaves every field apart from it as it
was, so a record that is changed field by field holds in each field what its own change
made of it.
-/

namespace XBotFirmware.Library

universe u

variable {Cell : Type u}

def field (offset width : Nat) (record : List Cell) : List Cell := (record.drop offset).take width

/-- The record with the cells from an offset on replaced. -/
def setField (offset : Nat) (cells record : List Cell) : List Cell :=
  record.take offset ++ (cells ++ record.drop (offset + cells.length))

variable {offset width : Nat} {cells record : List Cell}

theorem length_setField (fits : offset + cells.length ≤ record.length) :
    (setField offset cells record).length = record.length := by
  simp only [setField, List.length_append, List.length_take, List.length_drop]
  omega

theorem getElem?_setField (fits : offset + cells.length ≤ record.length) (index : Nat) :
    (setField offset cells record)[index]? =
      if offset ≤ index ∧ index < offset + cells.length then cells[index - offset]?
      else record[index]? := by
  have front : (record.take offset).length = offset := by
    rw [List.length_take]
    omega
  unfold setField
  by_cases before : index < offset
  · rw [List.getElem?_append_left (by rw [front]; exact before), List.getElem?_take,
      if_pos before, if_neg (fun both => absurd before (Nat.not_lt.mpr both.1))]
  · rw [List.getElem?_append_right (by rw [front]; omega), front]
    by_cases inside : index < offset + cells.length
    · rw [List.getElem?_append_left (by omega), if_pos ⟨by omega, inside⟩]
    · rw [List.getElem?_append_right (by omega), List.getElem?_drop,
        if_neg (fun both => inside both.2)]
      congr 1
      omega

theorem getElem?_field (index : Nat) :
    (field offset width record)[index]? =
      if index < width then record[offset + index]? else none := by
  rw [field, List.getElem?_take, List.getElem?_drop]

theorem length_field_le (offset width : Nat) (record : List Cell) :
    (field offset width record).length ≤ width := List.length_take_le _ _

theorem field_setField_apart {offset' : Nat} (fits : offset + cells.length ≤ record.length)
    (apart : offset' + width ≤ offset ∨ offset + cells.length ≤ offset') :
    field offset' width (setField offset cells record) = field offset' width record := by
  apply List.ext_getElem?
  intro index
  rw [getElem?_field, getElem?_field]
  split
  next inside =>
    rw [getElem?_setField fits, if_neg]
    omega
  next => rfl

theorem field_setField_same (fits : offset + cells.length ≤ record.length)
    (within : cells.length ≤ width) :
    field offset width (setField offset cells record) =
      cells ++ (field offset width record).drop cells.length := by
  apply List.ext_getElem?
  intro index
  rw [getElem?_field]
  by_cases stored : index < cells.length
  · rw [if_pos (Nat.lt_of_lt_of_le stored within), getElem?_setField fits,
      if_pos ⟨Nat.le_add_right _ _, Nat.add_lt_add_left stored _⟩, Nat.add_sub_cancel_left,
      List.getElem?_append_left stored]
  · rw [List.getElem?_append_right (Nat.not_lt.mp stored), List.getElem?_drop, getElem?_field,
      Nat.add_sub_cancel' (Nat.not_lt.mp stored)]
    split
    next inside =>
      rw [getElem?_setField fits, if_neg]
      omega
    next => rfl

section Changes

variable {Label : Type u} (place : Label → Nat) (extent : Label → Nat)
  (stored : Label → Option (List Cell))

/-- The record after one change, which may store nothing. -/
def change (record : List Cell) (label : Label) : List Cell :=
  (stored label).elim record fun cells => setField (place label) cells record

def Apart (first second : Label) : Prop :=
  place first + extent first ≤ place second ∨ place second + extent second ≤ place first

def changed (label : Label) (cells : List Cell) : List Cell :=
  (stored label).elim cells fun new => new ++ cells.drop new.length

variable {place extent stored}

theorem length_change {label : Label} {record : List Cell}
    (within : ∀ cells ∈ stored label, cells.length ≤ extent label)
    (fits : place label + extent label ≤ record.length) :
    (change place stored record label).length = record.length := by
  unfold change
  cases new : stored label with
  | none => rfl
  | some cells =>
      have short := within cells new
      exact length_setField (by omega)

theorem length_changes {labels : List Label} {record : List Cell}
    (within : ∀ label ∈ labels, ∀ cells ∈ stored label, cells.length ≤ extent label)
    (fits : ∀ label ∈ labels, place label + extent label ≤ record.length) :
    (labels.foldl (change place stored) record).length = record.length := by
  induction labels generalizing record with
  | nil => rfl
  | cons label others inductionHypothesis =>
      have same := length_change (within label List.mem_cons_self) (fits label List.mem_cons_self)
      rw [List.foldl_cons, inductionHypothesis
        (fun other membership => within other (List.mem_cons_of_mem _ membership))
        (fun other membership => same ▸ fits other (List.mem_cons_of_mem _ membership)), same]

theorem field_change_apart {label other : Label} {record : List Cell}
    (within : ∀ cells ∈ stored other, cells.length ≤ extent other)
    (fits : place other + extent other ≤ record.length) (apart : Apart place extent label other) :
    field (place label) (extent label) (change place stored record other) =
      field (place label) (extent label) record := by
  unfold change
  cases new : stored other with
  | none => rfl
  | some cells =>
      have short := within cells new
      unfold Apart at apart
      exact field_setField_apart (by omega) (by omega)

theorem field_change_same {label : Label} {record : List Cell}
    (within : ∀ cells ∈ stored label, cells.length ≤ extent label)
    (fits : place label + extent label ≤ record.length) :
    field (place label) (extent label) (change place stored record label) =
      changed stored label (field (place label) (extent label) record) := by
  unfold change changed
  cases new : stored label with
  | none => rfl
  | some cells =>
      have short := within cells new
      exact field_setField_same (by omega) short

theorem field_changes_apart {label : Label} {labels : List Label} {record : List Cell}
    (within : ∀ other ∈ labels, ∀ cells ∈ stored other, cells.length ≤ extent other)
    (fits : ∀ other ∈ labels, place other + extent other ≤ record.length)
    (apart : ∀ other ∈ labels, Apart place extent label other) :
    field (place label) (extent label) (labels.foldl (change place stored) record) =
      field (place label) (extent label) record := by
  induction labels generalizing record with
  | nil => rfl
  | cons first others inductionHypothesis =>
      have same := length_change (within first List.mem_cons_self) (fits first List.mem_cons_self)
      rw [List.foldl_cons, inductionHypothesis
        (fun other membership => within other (List.mem_cons_of_mem _ membership))
        (fun other membership => same ▸ fits other (List.mem_cons_of_mem _ membership))
        (fun other membership => apart other (List.mem_cons_of_mem _ membership))]
      exact field_change_apart (within first List.mem_cons_self) (fits first List.mem_cons_self)
        (apart first List.mem_cons_self)

/-- After changes to fields that are apart, each field holds what its own change made of it. -/
theorem field_changes {labels : List Label} {record : List Cell}
    (within : ∀ label ∈ labels, ∀ cells ∈ stored label, cells.length ≤ extent label)
    (fits : ∀ label ∈ labels, place label + extent label ≤ record.length)
    (apart : labels.Pairwise (Apart place extent)) {label : Label} (membership : label ∈ labels) :
    field (place label) (extent label) (labels.foldl (change place stored) record) =
      changed stored label (field (place label) (extent label) record) := by
  induction labels generalizing record with
  | nil => cases membership
  | cons first others inductionHypothesis =>
      obtain ⟨firstApart, othersApart⟩ := List.pairwise_cons.mp apart
      have firstWithin := within first List.mem_cons_self
      have firstFits := fits first List.mem_cons_self
      have othersWithin := fun other member => within other (List.mem_cons_of_mem first member)
      have othersFit : ∀ other ∈ others, place other + extent other ≤
          (change place stored record first).length :=
        fun other member =>
          length_change firstWithin firstFits ▸ fits other (List.mem_cons_of_mem first member)
      rw [List.foldl_cons]
      rcases List.mem_cons.mp membership with rfl | later
      · rw [field_changes_apart othersWithin othersFit firstApart]
        exact field_change_same firstWithin firstFits
      · have apartFirst : Apart place extent label first := (firstApart label later).symm
        rw [inductionHypothesis othersWithin othersFit othersApart later,
          field_change_apart firstWithin firstFits apartFirst]

end Changes

end XBotFirmware.Library
