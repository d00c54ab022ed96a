import XBotFirmware.Inputs.Reasons

set_option autoImplicit false

/-!
The emergency service (`src/services/emergency_service/emergency_service.cpp`).

Four writers share `reasons_` through `UpdateEmergency`: the inputs, the
timeouts, the high level and `OnStop`.  The lemmas say, for each of them, which
reasons the word carries afterwards.
-/

namespace XBotFirmware.Emergency

open XBotFirmware.Library XBotFirmware.Platform XBotFirmware.Service XBotFirmware.Inputs

inductive EmergencyOutput where
  /-- `chEvtBroadcastFlags(&mower_events, MowerEvents::EMERGENCY_CHANGED)`. -/
  | emergencyChanged
  | emergencyReason (reasons : Reasons)
  deriving DecidableEq, Repr

structure EmergencyService where
  reasons : Reasons
  lastHighLevelEmergencyMessage : Micros
  outbox : List EmergencyOutput
  deriving DecidableEq, Repr

/-- The bits that `CheckInputs` decides. -/
def inputReasons : Reasons :=
  EmergencyReason.stop.mask ||| EmergencyReason.lift.mask |||
    EmergencyReason.liftMultiple.mask ||| EmergencyReason.collision.mask

/-- The bits that `CheckTimeouts` decides. -/
def timeoutReasons : Reasons :=
  EmergencyReason.timeoutHighLevel.mask ||| EmergencyReason.timeoutInputs.mask

/-- C++ leaves the order of the two arguments of `etl::min` in `OnLoop` open. -/
inductive ArgumentOrder where
  | inputsFirst
  | timeoutsFirst
  deriving DecidableEq, Repr

namespace EmergencyService

def initial : EmergencyService where
  reasons := EmergencyReason.timeoutInputs.mask ||| EmergencyReason.timeoutHighLevel.mask
  lastHighLevelEmergencyMessage := 0
  outbox := []

def getEmergency (service : EmergencyService) : Bool := service.reasons ≠ 0

def sendStatus (service : EmergencyService) : EmergencyService :=
  { service with outbox := service.outbox ++ [.emergencyReason service.reasons] }

/-- `UpdateEmergency`: the locked change, then the broadcast and `SendStatus` if
the word changed. -/
def updateEmergency (service : EmergencyService) (add clear : Reasons) : EmergencyService :=
  let reasons := revise service.reasons add clear
  if reasons = service.reasons then
    service
  else
    sendStatus { service with
      reasons := reasons
      outbox := service.outbox ++ [.emergencyChanged] }

/-- `CheckInputs`, with its block time. -/
def checkInputs (service : EmergencyService) (input : InputService) (now : Micros) :
    EmergencyService × Micros :=
  let collected := input.getEmergencyReasons now
  (service.updateEmergency collected.1 inputReasons, collected.2)

/-- `CheckTimeouts`, with its block time. -/
def checkTimeouts (service : EmergencyService) (now : Micros) : EmergencyService × Micros :=
  let reached := timeoutReached (now - service.lastHighLevelEmergencyMessage) 1000000 uint32Max
  (service.updateEmergency
    (if reached.1 then EmergencyReason.timeoutHighLevel.mask else 0) timeoutReasons, reached.2)

def onLoop (service : EmergencyService) (input : InputService) (order : ArgumentOrder)
    (now : Micros) : EmergencyService × Micros :=
  match order with
  | .inputsFirst =>
      let inputs := service.checkInputs input now
      let timeouts := inputs.1.checkTimeouts now
      (timeouts.1, etlMin inputs.2 timeouts.2)
  | .timeoutsFirst =>
      let timeouts := service.checkTimeouts now
      let inputs := timeouts.1.checkInputs input now
      (inputs.1, etlMin inputs.2 timeouts.2)

def onStop (service : EmergencyService) : EmergencyService :=
  service.updateEmergency EmergencyReason.timeoutHighLevel.mask 0

/-- `OnHighLevelEmergencyChanged`; `newValue` is the memory behind the pointer,
of which the first two words are read whatever the length. -/
def onHighLevelEmergencyChanged (service : EmergencyService) (now : Micros)
    (newValue : Nat → Reasons) (_length : Nat) : EmergencyService :=
  { service with lastHighLevelEmergencyMessage := now }.updateEmergency
    (newValue 0) (newValue 1)

@[simp]
theorem updateEmergency_reasons (service : EmergencyService) (add clear : Reasons) :
    (service.updateEmergency add clear).reasons = revise service.reasons add clear := by
  simp only [updateEmergency]
  split
  next same => exact same.symm
  next => rfl

@[simp]
theorem updateEmergency_last (service : EmergencyService) (add clear : Reasons) :
    (service.updateEmergency add clear).lastHighLevelEmergencyMessage =
      service.lastHighLevelEmergencyMessage := by
  simp only [updateEmergency]
  split <;> rfl

theorem carries_inputReasons (reason : EmergencyReason) :
    Carries inputReasons reason ↔
      reason = .stop ∨ reason = .lift ∨ reason = .liftMultiple ∨ reason = .collision := by
  cases reason <;> simp [inputReasons]

theorem carries_timeoutReasons (reason : EmergencyReason) :
    Carries timeoutReasons reason ↔ reason = .timeoutHighLevel ∨ reason = .timeoutInputs := by
  cases reason <;> simp [timeoutReasons]

@[simp]
theorem checkInputs_last (service : EmergencyService) (input : InputService) (now : Micros) :
    (service.checkInputs input now).1.lastHighLevelEmergencyMessage =
      service.lastHighLevelEmergencyMessage := by
  simp [checkInputs]

@[simp]
theorem checkTimeouts_last (service : EmergencyService) (now : Micros) :
    (service.checkTimeouts now).1.lastHighLevelEmergencyMessage =
      service.lastHighLevelEmergencyMessage := by
  simp [checkTimeouts]

theorem carries_checkInputs (service : EmergencyService) (input : InputService) (now : Micros)
    (reason : EmergencyReason) :
    Carries (service.checkInputs input now).1.reasons reason ↔
      (Carries service.reasons reason ∧ ¬ Carries inputReasons reason) ∨
        input.Reports now reason := by
  rw [checkInputs, updateEmergency_reasons, carries_revise,
    InputService.carries_getEmergencyReasons]

/-- The high level has been silent for a second, by the 32-bit clock. -/
def HighLevelSilent (service : EmergencyService) (now : Micros) : Prop :=
  1000000 ≤ (now - service.lastHighLevelEmergencyMessage).toNat

theorem carries_checkTimeouts (service : EmergencyService) (now : Micros)
    (reason : EmergencyReason) :
    Carries (service.checkTimeouts now).1.reasons reason ↔
      (Carries service.reasons reason ∧ ¬ Carries timeoutReasons reason) ∨
        (reason = .timeoutHighLevel ∧ service.HighLevelSilent now) := by
  have second : (1000000 : Micros).toNat = 1000000 := rfl
  rw [checkTimeouts, updateEmergency_reasons, carries_revise]
  simp only [timeoutReached_fst, second, decide_eq_true_eq, HighLevelSilent]
  split
  next reached => simp only [reached, and_true, carries_mask, eq_comm]
  next pending => simp only [pending, and_false, BitVec.ofNat_eq_ofNat, carries_zero]

/-- Both orders of `OnLoop` leave the same reasons, as no input carries a timeout. -/
theorem carries_onLoop (service : EmergencyService) {input : InputService}
    (invariant : input.Invariant) (order : ArgumentOrder) (now : Micros)
    (reason : EmergencyReason) :
    Carries (service.onLoop input order now).1.reasons reason ↔
      (Carries service.reasons reason ∧ ¬ Carries inputReasons reason ∧
        ¬ Carries timeoutReasons reason) ∨
      input.Reports now reason ∨
      (reason = .timeoutHighLevel ∧ service.HighLevelSilent now) := by
  have disjoint : input.Reports now reason → ¬ Carries timeoutReasons reason := by
    intro reported
    obtain ⟨notInputs, notHighLevel, _⟩ := invariant.reports reported
    rw [carries_timeoutReasons]
    exact not_or.mpr ⟨notHighLevel, notInputs⟩
  have notInput : reason = .timeoutHighLevel → ¬ Carries inputReasons reason := by
    rintro rfl
    rw [carries_inputReasons]
    decide
  cases order with
  | inputsFirst =>
      have silent : (service.checkInputs input now).1.HighLevelSilent now ↔
          service.HighLevelSilent now := by simp [HighLevelSilent]
      simp only [onLoop, carries_checkTimeouts, carries_checkInputs, silent]
      constructor
      · rintro (⟨⟨held, kept⟩ | reported, notTimeout⟩ | timeout)
        · exact .inl ⟨held, kept, notTimeout⟩
        · exact .inr (.inl reported)
        · exact .inr (.inr timeout)
      · rintro (⟨held, kept, notTimeout⟩ | reported | timeout)
        · exact .inl ⟨.inl ⟨held, kept⟩, notTimeout⟩
        · exact .inl ⟨.inr reported, disjoint reported⟩
        · exact .inr timeout
  | timeoutsFirst =>
      simp only [onLoop, carries_checkTimeouts, carries_checkInputs]
      constructor
      · rintro (⟨⟨held, notTimeout⟩ | timeout, kept⟩ | reported)
        · exact .inl ⟨held, kept, notTimeout⟩
        · exact .inr (.inr timeout)
        · exact .inr (.inl reported)
      · rintro (⟨held, kept, notTimeout⟩ | reported | timeout)
        · exact .inl ⟨.inl ⟨held, notTimeout⟩, kept⟩
        · exact .inr reported
        · exact .inl ⟨.inr timeout, notInput timeout.1⟩

theorem carries_onStop (service : EmergencyService) (reason : EmergencyReason) :
    Carries service.onStop.reasons reason ↔
      Carries service.reasons reason ∨ reason = .timeoutHighLevel := by
  simp [onStop, eq_comm]

theorem carries_onHighLevelEmergencyChanged (service : EmergencyService) (now : Micros)
    (newValue : Nat → Reasons) (length : Nat) (reason : EmergencyReason) :
    Carries (service.onHighLevelEmergencyChanged now newValue length).reasons reason ↔
      (Carries service.reasons reason ∧ ¬ Carries (newValue 1) reason) ∨
        Carries (newValue 0) reason := by
  simp [onHighLevelEmergencyChanged]

end EmergencyService

end XBotFirmware.Emergency
