import Mathlib.Logic.Basic

set_option autoImplicit false

/-!
Calls with results, and refinement between two machines that take the same calls.
-/

namespace XBotFirmware.Library

variable {State Abstract Op Result : Type}

def execAll (exec : State → Op → Result × State) : State → List Op → List Result × State
  | state, [] => ([], state)
  | state, op :: rest =>
      let (result, next) := exec state op
      let (results, final) := execAll exec next rest
      (result :: results, final)

/-- One call returns the same on both machines, and keeps the invariant and the
abstraction. -/
structure Refines (exec : State → Op → Result × State) (spec : Abstract → Op → Result × Abstract)
    (invariant : State → Prop) (abstraction : State → Abstract) (state : State) (op : Op) :
    Prop where
  invariant : invariant (exec state op).2
  result : (exec state op).1 = (spec (abstraction state) op).1
  next : abstraction (exec state op).2 = (spec (abstraction state) op).2

/-- What every call keeps, a sequence of calls keeps. -/
theorem execAll_refines {exec : State → Op → Result × State}
    {spec : Abstract → Op → Result × Abstract} {invariant : State → Prop}
    {abstraction : State → Abstract} {allowed : Op → Prop}
    (step : ∀ state op, invariant state → allowed op →
      Refines exec spec invariant abstraction state op)
    {state : State} {ops : List Op} (holds : invariant state) (all : ∀ op ∈ ops, allowed op) :
    Refines (execAll exec) (execAll spec) invariant abstraction state ops := by
  induction ops generalizing state with
  | nil => exact ⟨holds, rfl, rfl⟩
  | cons op rest inductionHypothesis =>
      obtain ⟨here, later⟩ := List.forall_mem_cons.mp all
      have first := step state op holds here
      have others := inductionHypothesis first.invariant later
      refine ⟨others.invariant, ?_, ?_⟩
      · simp only [execAll]
        rw [first.result, others.result, first.next]
      · simp only [execAll]
        rw [others.next, first.next]

end XBotFirmware.Library
