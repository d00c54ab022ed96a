import XBotFirmware.Inputs.LiftCount

set_option autoImplicit false

/-!
What `GetEmergencyReasons` returns: the union of the reasons of the inputs that
are due, none of which is a reason of the other emergency sources.
-/

namespace XBotFirmware.Inputs

open XBotFirmware.Platform XBotFirmware.Service XBotFirmware.Emergency

/-- The iteration of `GetEmergencyReasons` for an input adds its reason. -/
def Input.Included (input : Input) (now : Micros) : Prop :=
  ¬ (input.emergencyReason = 0 ∨ input.active = false) ∧
    (timeoutReached (input.activeDuration now) input.emergencyDelay uint32Max).1 = true

instance (input : Input) (now : Micros) : Decidable (input.Included now) :=
  inferInstanceAs (Decidable (_ ∧ _))

theorem InputService.emergencyStep_fst (now : Micros) (collected : Reasons × Micros)
    (input : Input) :
    (emergencyStep now collected input).1 =
      if input.Included now then collected.1 ||| input.emergencyReason else collected.1 := by
  by_cases included : input.Included now
  · obtain ⟨considered, reached⟩ := included
    have reachedAlways : (timeoutReached (input.activeDuration now) input.emergencyDelay
        collected.2).1 = true := by simpa using reached
    rw [if_pos ⟨considered, reached⟩, emergencyStep, if_neg considered]
    exact if_pos reachedAlways
  · rw [if_neg included, emergencyStep]
    split
    next => rfl
    next considered =>
      refine if_neg fun reached => included ⟨considered, ?_⟩
      simpa using reached

theorem Input.included_iff (input : Input) (now : Micros) :
    input.Included now ↔ input.emergencyReason ≠ 0 ∧ input.Due now := by
  simp only [Input.Included, timeoutReached_fst, Input.toNat_emergencyDelay, Input.activeDuration,
    decide_eq_true_eq, Input.Due, not_or, Bool.not_eq_false, and_assoc, ne_eq]

namespace InputService

theorem emergencyStep_getLsbD (now : Micros) (collected : Reasons × Micros) (input : Input)
    (bit : Nat) :
    (emergencyStep now collected input).1.getLsbD bit = true ↔
      collected.1.getLsbD bit = true ∨
        (input.Due now ∧ input.emergencyReason.getLsbD bit = true) := by
  rw [emergencyStep_fst]
  by_cases included : input.Included now
  · have due := ((input.included_iff now).mp included).2
    simp [included, due]
  · rw [if_neg included]
    constructor
    · exact Or.inl
    · rintro (carried | ⟨due, carried⟩)
      · exact carried
      · have reason : input.emergencyReason ≠ 0 := Library.ne_zero_of_getLsbD carried
        exact absurd ((input.included_iff now).mpr ⟨reason, due⟩) included

theorem foldl_emergencyStep_getLsbD (now : Micros) (inputs : List Input)
    (collected : Reasons × Micros) (bit : Nat) :
    (inputs.foldl (emergencyStep now) collected).1.getLsbD bit = true ↔
      collected.1.getLsbD bit = true ∨
        ∃ input ∈ inputs, input.Due now ∧ input.emergencyReason.getLsbD bit = true := by
  induction inputs generalizing collected with
  | nil => simp
  | cons input rest inductionHypothesis =>
      rw [List.foldl_cons, inductionHypothesis, emergencyStep_getLsbD]
      simp [or_assoc]

theorem getEmergencyReasons_getLsbD (service : InputService) (now : Micros) (bit : Nat) :
    (service.getEmergencyReasons now).1.getLsbD bit = true ↔
      ∃ input ∈ service.allInputs, input.Due now ∧ input.emergencyReason.getLsbD bit = true := by
  rw [getEmergencyReasons, foldl_emergencyStep_getLsbD]
  simp

/-- Some due input carries the reason. -/
def Reports (service : InputService) (now : Micros) (reason : EmergencyReason) : Prop :=
  ∃ input ∈ service.allInputs, input.Due now ∧ Carries input.emergencyReason reason

theorem carries_getEmergencyReasons (service : InputService) (now : Micros)
    (reason : EmergencyReason) :
    Carries (service.getEmergencyReasons now).1 reason ↔ service.Reports now reason :=
  getEmergencyReasons_getLsbD service now reason.bit

theorem Invariant.reports {service : InputService} (invariant : service.Invariant)
    {now : Micros} {reason : EmergencyReason} (reported : service.Reports now reason) :
    reason ≠ .timeoutInputs ∧ reason ≠ .timeoutHighLevel ∧ reason ≠ .highLevel := by
  obtain ⟨input, membership, _, carried⟩ := reported
  rcases invariant with unconfigured | ⟨wellFormed, _⟩
  · simp [unconfigured.inputs] at membership
  · obtain ⟨position, found⟩ := List.mem_iff_getElem?.mp membership
    have good := wellFormed.placed position input found
    unfold Placed at good
    split at good
    next =>
      rw [good.reason, carries_or, carries_mask, carries_mask] at carried
      rcases carried with rfl | rfl <;> decide
    next =>
      rcases good.reasons reason carried with rfl | rfl | rfl | rfl <;> decide

end InputService

end XBotFirmware.Inputs
