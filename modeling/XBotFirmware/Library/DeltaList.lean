import Mathlib.Data.List.Sort

set_option autoImplicit false

/-!
Delta lists: the entries stand in the order of their deadlines, each with its distance
from the one before it, and the first one with its distance from a base.
-/

namespace XBotFirmware.Library

universe u

variable {Key : Type u}

def deadlinesFrom (base : Nat) : List (Key × Nat) → List (Key × Nat)
  | [] => []
  | (key, delta) :: rest => (key, base + delta) :: deadlinesFrom (base + delta) rest

/-- The entry comes before the first one that is not earlier. -/
def insertDelta (key : Key) (delta : Nat) : List (Key × Nat) → List (Key × Nat)
  | [] => [(key, delta)]
  | (first, distance) :: rest =>
      if distance < delta then (first, distance) :: insertDelta key (delta - distance) rest
      else (key, delta) :: (first, distance - delta) :: rest

def delayFirst (delta : Nat) : List (Key × Nat) → List (Key × Nat)
  | [] => []
  | (first, distance) :: rest => (first, distance + delta) :: rest

/-- What follows the entry takes its distance over. -/
def removeDelta [DecidableEq Key] (key : Key) : List (Key × Nat) → List (Key × Nat)
  | [] => []
  | (first, distance) :: rest =>
      if first = key then delayFirst distance rest
      else (first, distance) :: removeDelta key rest

@[simp]
theorem map_fst_deadlinesFrom (base : Nat) (entries : List (Key × Nat)) :
    (deadlinesFrom base entries).map Prod.fst = entries.map Prod.fst := by
  induction entries generalizing base with
  | nil => rfl
  | cons entry rest inductionHypothesis =>
      simp only [deadlinesFrom, List.map_cons, inductionHypothesis]

theorem base_le_of_mem_deadlinesFrom {base : Nat} {entries : List (Key × Nat)}
    {entry : Key × Nat} (inside : entry ∈ deadlinesFrom base entries) : base ≤ entry.2 := by
  induction entries generalizing base with
  | nil => simp [deadlinesFrom] at inside
  | cons first rest inductionHypothesis =>
      obtain rfl | later := List.mem_cons.mp inside
      · exact Nat.le_add_right base first.2
      · exact (Nat.le_add_right base first.2).trans (inductionHypothesis later)

theorem deadlinesFrom_insertDelta (base : Nat) (key : Key) (delta : Nat)
    (entries : List (Key × Nat)) :
    deadlinesFrom base (insertDelta key delta entries) =
      (deadlinesFrom base entries).orderedInsert (fun first second => first.2 ≤ second.2)
        (key, base + delta) := by
  induction entries generalizing base delta with
  | nil => rfl
  | cons first rest inductionHypothesis =>
      obtain ⟨first, distance⟩ := first
      by_cases earlier : distance < delta
      · have behind : ¬base + delta ≤ base + distance := by omega
        have same : base + distance + (delta - distance) = base + delta := by omega
        simp only [insertDelta, if_pos earlier, deadlinesFrom, inductionHypothesis, same,
          List.orderedInsert_cons, if_neg behind]
      · have before : base + delta ≤ base + distance := by omega
        have same : base + delta + (distance - delta) = base + distance := by omega
        simp only [insertDelta, if_neg earlier, deadlinesFrom, same, List.orderedInsert_cons,
          if_pos before]

theorem deadlinesFrom_delayFirst (base delta : Nat) (entries : List (Key × Nat)) :
    deadlinesFrom base (delayFirst delta entries) = deadlinesFrom (base + delta) entries := by
  cases entries with
  | nil => rfl
  | cons first rest =>
      have same : base + (first.2 + delta) = base + delta + first.2 := by omega
      simp only [delayFirst, deadlinesFrom, same]

theorem deadlinesFrom_removeDelta [DecidableEq Key] (base : Nat) (key : Key)
    (entries : List (Key × Nat)) :
    deadlinesFrom base (removeDelta key entries) =
      (deadlinesFrom base entries).eraseP (fun entry => entry.1 = key) := by
  induction entries generalizing base with
  | nil => rfl
  | cons first rest inductionHypothesis =>
      obtain ⟨first, distance⟩ := first
      by_cases removed : first = key
      · simp [removeDelta, removed, deadlinesFrom, deadlinesFrom_delayFirst]
      · simp [removeDelta, removed, deadlinesFrom, inductionHypothesis]

theorem deadlinesFrom_advance {base passed distance : Nat} (within : passed ≤ distance) (key : Key)
    (rest : List (Key × Nat)) :
    deadlinesFrom (base + passed) ((key, distance - passed) :: rest) =
      deadlinesFrom base ((key, distance) :: rest) := by
  have same : base + passed + (distance - passed) = base + distance := by omega
  simp only [deadlinesFrom, same]

end XBotFirmware.Library
