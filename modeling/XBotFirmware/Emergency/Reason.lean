import XBotFirmware.Library.Flags

/-!
The bits of the emergency word (`services/emergency_service.json`).

`EmergencyReason` is a bitmask over `uint16_t`: the enumeration gives bit
positions and the generated constants are the corresponding masks.
-/

namespace XBotFirmware.Emergency

/-- `uint16_t`, the type of `reasons_` and of every mask on it. -/
abbrev Reasons := BitVec 16

inductive EmergencyReason where
  | latch
  | timeoutInputs
  | stop
  | lift
  | liftMultiple
  | collision
  | timeoutHighLevel
  | highLevel
  deriving DecidableEq, Repr

namespace EmergencyReason

def bit : EmergencyReason → Nat
  | .latch => 0
  | .timeoutInputs => 1
  | .stop => 2
  | .lift => 3
  | .liftMultiple => 4
  | .collision => 5
  | .timeoutHighLevel => 6
  | .highLevel => 7

def mask (reason : EmergencyReason) : Reasons := BitVec.twoPow 16 reason.bit

theorem bit_lt (reason : EmergencyReason) : reason.bit < 16 := by
  cases reason <;> decide

theorem bit_injective : Function.Injective bit := by
  intro first second equal
  cases first <;> cases second <;> first | rfl | exact absurd equal (by decide)

end EmergencyReason

def Carries (word : Reasons) (reason : EmergencyReason) : Prop :=
  word.getLsbD reason.bit = true

instance (word : Reasons) (reason : EmergencyReason) : Decidable (Carries word reason) :=
  inferInstanceAs (Decidable (word.getLsbD reason.bit = true))

@[simp]
theorem carries_zero (reason : EmergencyReason) : ¬ Carries 0#16 reason := by
  simp [Carries]

@[simp]
theorem carries_mask (held reason : EmergencyReason) :
    Carries held.mask reason ↔ held = reason := by
  constructor
  · intro carried
    have equal : held.bit = reason.bit := by
      simpa [Carries, EmergencyReason.mask, BitVec.getLsbD_twoPow, held.bit_lt] using carried
    exact EmergencyReason.bit_injective equal
  · rintro rfl
    simp [Carries, EmergencyReason.mask, held.bit_lt]

@[simp]
theorem carries_or (first second : Reasons) (reason : EmergencyReason) :
    Carries (first ||| second) reason ↔ Carries first reason ∨ Carries second reason := by
  simp [Carries]

@[simp]
theorem carries_and (first second : Reasons) (reason : EmergencyReason) :
    Carries (first &&& second) reason ↔ Carries first reason ∧ Carries second reason := by
  simp [Carries]

@[simp]
theorem carries_revise (word add clear : Reasons) (reason : EmergencyReason) :
    Carries (Library.revise word add clear) reason ↔
      (Carries word reason ∧ ¬ Carries clear reason) ∨ Carries add reason := by
  simp [Carries]

theorem Carries.ne_zero {word : Reasons} {reason : EmergencyReason}
    (carried : Carries word reason) : word ≠ 0 :=
  Library.ne_zero_of_getLsbD carried

theorem and_mask_ne_zero_iff (word : Reasons) (reason : EmergencyReason) :
    word &&& reason.mask ≠ 0 ↔ Carries word reason :=
  Library.and_twoPow_ne_zero_iff word reason.bit

end XBotFirmware.Emergency
