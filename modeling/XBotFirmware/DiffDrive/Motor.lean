import Mathlib.Data.Rat.Floor
import XBotFirmware.Platform.Time

set_option autoImplicit false

/-!
Motor drivers (`src/drivers/motor/motor_driver.hpp`,
`src/drivers/motor/pwm/pwm_motor_driver.cpp`).

Speeds and duty cycles are exact rationals.  A driver also remembers the last
duty it was commanded, which the source turns into two channel widths at once.
-/

namespace XBotFirmware.DiffDrive

open XBotFirmware.Platform

/-- The fields of `MotorDriver::ESCState` that the drive reads. -/
structure EscState where
  temperaturePcb : ℚ
  currentInput : ℚ
  tacho : BitVec 32
  tachoAbsolute : BitVec 32
  /-- The code of an `ESCStatus`; a fresh state holds zero, which names none. -/
  status : BitVec 8
  deriving DecidableEq, Repr

def escStatusDisconnected : BitVec 8 := 99

/-- `ESCState{}`. -/
def EscState.zero : EscState := ⟨0, 0, 0, 0, 0⟩

/-- The pulse width of a duty; its conversion to `pwmcnt_t` drops the fraction. -/
def pwmWidth (duty : ℚ) : Nat := (0xFFF * 4 * duty).floor.toNat

theorem pwmWidth_of_nonpos {duty : ℚ} (nonpos : duty ≤ 0) : pwmWidth duty = 0 := by
  have product : 0xFFF * 4 * duty ≤ 0 := mul_nonpos_of_nonneg_of_nonpos (by norm_num) nonpos
  have floored : (0xFFF * 4 * duty).floor ≤ 0 := by
    have cast := (Rat.floor_le (0xFFF * 4 * duty)).trans product
    exact_mod_cast cast
  exact Int.toNat_of_nonpos floored

structure PwmMotorDriver where
  channel1 : Nat
  channel2 : Nat
  /-- The argument of the last `SetDuty`. -/
  duty : ℚ
  tacho : BitVec 32
  tachoAbs : BitVec 32
  latestState : EscState
  forwards : channel1 = pwmWidth duty
  backwards : channel2 = pwmWidth (-duty)
  deriving DecidableEq, Repr

namespace PwmMotorDriver

def initial : PwmMotorDriver where
  channel1 := 0
  channel2 := 0
  duty := 0
  tacho := 0
  tachoAbs := 0
  latestState := EscState.zero
  forwards := (pwmWidth_of_nonpos le_rfl).symm
  backwards := (pwmWidth_of_nonpos neg_zero.le).symm

def setDuty (driver : PwmMotorDriver) (duty : ℚ) : PwmMotorDriver :=
  if positive : 0 < duty then
    { driver with
      duty := duty
      channel1 := pwmWidth duty
      channel2 := 0
      forwards := rfl
      backwards := (pwmWidth_of_nonpos (neg_nonpos.mpr positive.le)).symm }
  else
    { driver with
      duty := duty
      channel2 := pwmWidth (-duty)
      channel1 := 0
      forwards := (pwmWidth_of_nonpos (not_lt.mp positive)).symm
      backwards := rfl }

/-- `RequestStatus`; the callback is called with the state it leaves. -/
def requestStatus (driver : PwmMotorDriver) : PwmMotorDriver :=
  { driver with latestState :=
    { driver.latestState with tacho := driver.tacho, tachoAbsolute := driver.tachoAbs } }

/-- `HandleEncoderTick`, on the level of the second encoder line. -/
def handleEncoderTick (driver : PwmMotorDriver) (encoderB : Bool) : PwmMotorDriver :=
  { driver with
    tachoAbs := driver.tachoAbs + 1
    tacho := if encoderB then driver.tacho + 1 else driver.tacho - 1 }

@[simp]
theorem setDuty_duty (driver : PwmMotorDriver) (duty : ℚ) : (driver.setDuty duty).duty = duty := by
  unfold setDuty
  split <;> rfl

theorem channels_of_duty_zero {driver : PwmMotorDriver} (zero : driver.duty = 0) :
    driver.channel1 = 0 ∧ driver.channel2 = 0 := by
  have forwards := driver.forwards
  have backwards := driver.backwards
  rw [zero] at forwards backwards
  rw [neg_zero] at backwards
  exact ⟨forwards.trans (pwmWidth_of_nonpos le_rfl),
    backwards.trans (pwmWidth_of_nonpos le_rfl)⟩

end PwmMotorDriver

end XBotFirmware.DiffDrive
