import Mathlib.Data.List.Count

set_option autoImplicit false

/-!
Deadlines that a sleeper waits for.

A block time is the longest time in which no deadline passes that is still open.  It
is given by what is below it, so that it can be put together one deadline at a time.
-/

namespace XBotFirmware.Library

structure Deadline where
  delay : Nat
  elapsed : Nat
  deriving DecidableEq, Repr

namespace Deadline

def Reached (deadline : Deadline) : Prop := deadline.delay ≤ deadline.elapsed

instance (deadline : Deadline) : Decidable deadline.Reached :=
  inferInstanceAs (Decidable (_ ≤ _))

def later (time : Nat) (deadline : Deadline) : Deadline :=
  { deadline with elapsed := deadline.elapsed + time }

theorem Reached.later {deadline : Deadline} (reached : deadline.Reached) (time : Nat) :
    (deadline.later time).Reached :=
  Nat.le_trans reached (Nat.le_add_right _ _)

theorem Reached.mono {deadline : Deadline} {time longer : Nat}
    (reached : (deadline.later time).Reached) (shorter : time ≤ longer) :
    (deadline.later longer).Reached :=
  Nat.le_trans reached (Nat.add_le_add_left shorter _)

@[simp]
theorem later_later (deadline : Deadline) (time more : Nat) :
    (deadline.later time).later more = deadline.later (time + more) := by
  simp only [later, Nat.add_assoc]

end Deadline

/-- The longest time below `limit` in which no open deadline is reached. -/
def IsBlockTime (limit : Nat) (deadlines : List Deadline) (block : Nat) : Prop :=
  ∀ time, time < block ↔
    time < limit ∧ ∀ deadline ∈ deadlines, ¬deadline.Reached → ¬(deadline.later time).Reached

namespace IsBlockTime

variable {limit block other : Nat} {deadlines more : List Deadline}

theorem nil (limit : Nat) : IsBlockTime limit [] limit :=
  fun _ => ⟨fun below => ⟨below, fun _ membership => absurd membership List.not_mem_nil⟩, And.left⟩

theorem append (first : IsBlockTime limit deadlines block) (second : IsBlockTime limit more other) :
    IsBlockTime limit (deadlines ++ more) (min block other) := by
  intro time
  rw [Nat.lt_min, first, second, List.forall_mem_append]
  constructor
  · rintro ⟨⟨below, early⟩, _, late⟩
    exact ⟨below, early, late⟩
  · rintro ⟨below, early, late⟩
    exact ⟨⟨below, early⟩, below, late⟩

theorem reached {deadline : Deadline} (reached : deadline.Reached) :
    IsBlockTime limit [deadline] limit := by
  intro time
  simp [reached]

theorem pending {deadline : Deadline} (pending : ¬deadline.Reached)
    (small : deadline.delay - deadline.elapsed ≤ limit) :
    IsBlockTime limit [deadline] (deadline.delay - deadline.elapsed) := by
  intro time
  simp only [List.mem_singleton, forall_eq, Deadline.Reached, Deadline.later] at pending ⊢
  omega

theorem unique (first : IsBlockTime limit deadlines block)
    (second : IsBlockTime limit deadlines other) : block = other := by
  have same : ∀ time, time < block ↔ time < other := by
    intro time
    rw [first, second]
  have below := same block
  have above := same other
  omega

theorem pos (isBlockTime : IsBlockTime limit deadlines block) (positive : 0 < limit) : 0 < block :=
  (isBlockTime 0).mpr ⟨positive, fun _ _ pending => pending⟩

theorem reached_iff (isBlockTime : IsBlockTime limit deadlines block) {time : Nat}
    (early : time < block) {deadline : Deadline} (membership : deadline ∈ deadlines) :
    (deadline.later time).Reached ↔ deadline.Reached := by
  constructor
  · intro reached
    by_contra pending
    exact ((isBlockTime time).mp early).2 deadline membership pending reached
  · exact fun reached => reached.later time

theorem exists_reached (isBlockTime : IsBlockTime limit deadlines block) (short : block < limit) :
    ∃ deadline ∈ deadlines, ¬deadline.Reached ∧ (deadline.later block).Reached := by
  by_contra none
  push Not at none
  exact Nat.lt_irrefl block ((isBlockTime block).mpr ⟨short, none⟩)

/-- A sleeper with an open deadline does not sleep in vain, not even for the whole limit. -/
theorem exists_reached_of_pending (isBlockTime : IsBlockTime limit deadlines block)
    {deadline : Deadline} (membership : deadline ∈ deadlines) (pending : ¬deadline.Reached)
    (small : deadline.delay ≤ limit) :
    ∃ deadline ∈ deadlines, ¬deadline.Reached ∧ (deadline.later block).Reached := by
  rcases Nat.lt_or_ge block limit with short | whole
  · exact isBlockTime.exists_reached short
  · refine ⟨deadline, membership, pending, ?_⟩
    exact Nat.le_trans small (Nat.le_trans whole (Nat.le_add_left _ _))

theorem later (isBlockTime : IsBlockTime limit deadlines block) (short : block < limit) {time : Nat}
    (early : time < block) :
    IsBlockTime limit (deadlines.map (Deadline.later time)) (block - time) := by
  intro wait
  rw [List.forall_mem_map]
  have inTotal := isBlockTime (time + wait)
  constructor
  · intro below
    obtain ⟨small, quiet⟩ := inTotal.mp (by omega)
    refine ⟨by omega, fun deadline membership pending => ?_⟩
    rw [isBlockTime.reached_iff early membership] at pending
    rw [Deadline.later_later]
    exact quiet deadline membership pending
  · rintro ⟨_, quiet⟩
    by_contra above
    obtain ⟨deadline, membership, pending, reached⟩ := isBlockTime.exists_reached short
    apply quiet deadline membership
    · rwa [isBlockTime.reached_iff early membership]
    · rw [Deadline.later_later]
      exact reached.mono (by omega)

theorem later_limit (isBlockTime : IsBlockTime limit deadlines limit) (time : Nat)
    (bounded : ∀ deadline ∈ deadlines, deadline.delay < limit) :
    IsBlockTime limit (deadlines.map (Deadline.later time)) limit := by
  -- An open deadline would be reached after its delay, which is below the limit.
  have allReached : ∀ deadline ∈ deadlines, deadline.Reached := by
    intro deadline membership
    rw [← isBlockTime.reached_iff (bounded deadline membership) membership]
    exact Nat.le_add_left _ _
  intro wait
  rw [List.forall_mem_map]
  constructor
  · intro below
    exact ⟨below, fun deadline membership pending =>
      absurd ((allReached deadline membership).later time) pending⟩
  · exact And.left

/-- When the block time is over more deadlines are reached than before. -/
theorem countP_lt (isBlockTime : IsBlockTime limit deadlines block) (short : block < limit) :
    deadlines.countP (·.Reached) < (deadlines.map (Deadline.later block)).countP (·.Reached) := by
  obtain ⟨deadline, membership, pending, reached⟩ := isBlockTime.exists_reached short
  rw [List.countP_map]
  obtain ⟨before, after, rfl⟩ := List.append_of_mem membership
  have kept : ∀ some : List Deadline, some.countP (·.Reached) ≤
      some.countP ((fun deadline => decide deadline.Reached) ∘ Deadline.later block) := by
    intro some
    apply List.countP_mono_left
    intro each _ eachReached
    simpa using Deadline.Reached.later (of_decide_eq_true eachReached) block
  have keptBefore := kept before
  have keptAfter := kept after
  simp only [List.countP_append, List.countP_cons, Function.comp_apply, pending, reached,
    decide_true, decide_false, if_true, if_false, Bool.false_eq_true]
  omega

end IsBlockTime

end XBotFirmware.Library
