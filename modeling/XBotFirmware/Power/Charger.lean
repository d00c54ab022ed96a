import Mathlib.Logic.Basic

set_option autoImplicit false

/-!
The charger (`ChargerDriver`) and its driver for the BQ2579.

Currents and voltages are exact numbers of milliamperes and millivolts.  Each call
of the driver makes its own transfers on the I2C bus, any of which may fail.
-/

namespace XBotFirmware.Power

inductive ChargerStatus where
  | notCharging
  | trickle
  | preCharge
  | cc
  | cv
  | topOff
  | done
  | fault
  | commsError
  | unknown
  deriving DecidableEq, Repr

/-- What the calls of the charger return during one `charger_tick`.  A read that fails
leaves its result alone. -/
structure ChargerReplies where
  init : Bool
  setPreChargeCurrent : Bool
  setTerminationCurrent : Bool
  setChargingCurrent : Bool
  setTsEnabled : Bool
  resetWatchdog : Bool
  readChargeCurrent : Option Int
  readBatteryVoltage : Option Int
  readAdapterVoltage : Option Int
  readAdapterCurrent : Option Int
  getChargerStatus : ChargerStatus
  deriving DecidableEq, Repr

namespace ChargerReplies

def configured (replies : ChargerReplies) : Bool :=
  replies.init && replies.setPreChargeCurrent && replies.setTerminationCurrent &&
    replies.setChargingCurrent && replies.setTsEnabled

def monitored (replies : ChargerReplies) : Bool :=
  replies.resetWatchdog && replies.readChargeCurrent.isSome && replies.readBatteryVoltage.isSome &&
    replies.readAdapterVoltage.isSome && replies.readAdapterCurrent.isSome

/-- The monitoring finds the charger in order. -/
def Good (replies : ChargerReplies) : Prop :=
  replies.monitored = true ∧ replies.getChargerStatus ≠ .commsError

instance (replies : ChargerReplies) : Decidable replies.Good :=
  inferInstanceAs (Decidable (_ ∧ _))

theorem not_good_of_failed {replies : ChargerReplies}
    (failed : replies.monitored = false ∨ replies.getChargerStatus = .commsError) :
    ¬replies.Good := by
  rintro ⟨success, status⟩
  rcases failed with failure | comms
  · exact absurd (failure.symm.trans success) Bool.false_ne_true
  · exact status comms

end ChargerReplies

/-- How the transfers of one call end: what a register reads as, or whether a write
arrives. -/
structure I2cBus where
  readRegister8 : BitVec 8 → Option (BitVec 8)
  readRegister16 : BitVec 8 → Option (BitVec 16)
  writeRegister8 : BitVec 8 → BitVec 8 → Bool
  writeRegister16 : BitVec 8 → BitVec 16 → Bool

namespace Bq2579

variable (bus : I2cBus)

def regChargeCurrentLimit : BitVec 8 := 0x03
def regTerminationControl : BitVec 8 := 0x09
def regChargerControl1 : BitVec 8 := 0x10
def regChargerControl5 : BitVec 8 := 0x14
def regNtcControl1 : BitVec 8 := 0x18
def regChargerStatus1 : BitVec 8 := 0x1C
def regFaultStatus0 : BitVec 8 := 0x20
def regFaultStatus1 : BitVec 8 := 0x21
def regAdcControl : BitVec 8 := 0x2E
def regIbusAdc : BitVec 8 := 0x31
def regIbatAdc : BitVec 8 := 0x33
def regVbusAdc : BitVec 8 := 0x35
def regVbatAdc : BitVec 8 := 0x3B

def setChargingCurrent (current : Nat) : Bool :=
  bus.writeRegister16 regChargeCurrentLimit (BitVec.ofNat 16 (min current 5000 / 10))

def setPreChargeCurrent (_current : Nat) : Bool := true

def setTerminationCurrent (current : Nat) : Bool :=
  bus.writeRegister8 regTerminationControl (BitVec.ofNat 8 (max 40 (min current 1000) / 40))

def getChargerStatus : ChargerStatus :=
  match bus.readRegister8 regFaultStatus0 with
  | none => .commsError
  | some fault0 =>
      match bus.readRegister8 regFaultStatus1 with
      | none => .commsError
      | some fault1 =>
          if fault0 ≠ 0 ∨ fault1 ≠ 0 then .fault
          else
            match bus.readRegister8 regChargerStatus1 with
            | none => .commsError
            | some status =>
                match (status >>> 5).toNat with
                | 0x00 => .notCharging
                | 0x01 => .trickle
                | 0x02 => .preCharge
                | 0x03 => .cc
                | 0x04 => .cv
                | 0x07 => .done
                | _ => .unknown

def init : Bool :=
  bus.writeRegister8 regTerminationControl 0b01000101 &&
    bus.writeRegister8 regAdcControl 0b10000000 &&
    bus.writeRegister8 regChargerControl5 0b00110110

def resetWatchdog : Bool :=
  match bus.readRegister8 regChargerControl1 with
  | none => false
  | some value => bus.writeRegister8 regChargerControl1 (value ||| 0b00001000)

def setTsEnabled (enabled : Bool) : Bool :=
  match bus.readRegister8 regNtcControl1 with
  | none => false
  | some value =>
      bus.writeRegister8 regNtcControl1 (if enabled then value &&& 0b11111110 else value ||| 0b1)

/-- The battery current is signed. -/
def readChargeCurrent : Option Int := (bus.readRegister16 regIbatAdc).map BitVec.toInt

def readAdc (register : BitVec 8) : Option Int :=
  (bus.readRegister16 register).map fun raw => (raw.toNat : Int)

def readAdapterVoltage : Option Int := readAdc bus regVbusAdc

def readAdapterCurrent : Option Int := readAdc bus regIbusAdc

def readBatteryVoltage : Option Int := readAdc bus regVbatAdc

/-- The calls of `charger_tick`. -/
inductive Call where
  | init
  | setTerminationCurrent
  | setChargingCurrent
  | setTsEnabled
  | resetWatchdog
  | readChargeCurrent
  | readBatteryVoltage
  | readAdapterVoltage
  | readAdapterCurrent
  | getChargerStatus
  deriving DecidableEq, Repr

/-- The replies to the calls that `charger_tick` makes, with its arguments. -/
def replies (bus : Call → I2cBus) (chargeCurrent : Nat) : ChargerReplies where
  init := Bq2579.init (bus .init)
  setPreChargeCurrent := setPreChargeCurrent 250
  setTerminationCurrent := setTerminationCurrent (bus .setTerminationCurrent) 250
  setChargingCurrent := setChargingCurrent (bus .setChargingCurrent) chargeCurrent
  setTsEnabled := setTsEnabled (bus .setTsEnabled) false
  resetWatchdog := resetWatchdog (bus .resetWatchdog)
  readChargeCurrent := readChargeCurrent (bus .readChargeCurrent)
  readBatteryVoltage := readBatteryVoltage (bus .readBatteryVoltage)
  readAdapterVoltage := readAdapterVoltage (bus .readAdapterVoltage)
  readAdapterCurrent := readAdapterCurrent (bus .readAdapterCurrent)
  getChargerStatus := getChargerStatus (bus .getChargerStatus)

/-- A communication error is a read that failed; the status is not read when there is
a fault. -/
theorem getChargerStatus_eq_commsError_iff :
    getChargerStatus bus = .commsError ↔
      bus.readRegister8 regFaultStatus0 = none ∨ bus.readRegister8 regFaultStatus1 = none ∨
        bus.readRegister8 regFaultStatus0 = some 0 ∧ bus.readRegister8 regFaultStatus1 = some 0 ∧
          bus.readRegister8 regChargerStatus1 = none := by
  unfold getChargerStatus
  cases first : bus.readRegister8 regFaultStatus0 with
  | none => simp
  | some fault0 =>
      cases second : bus.readRegister8 regFaultStatus1 with
      | none => simp
      | some fault1 =>
          simp only [reduceCtorEq, false_or, Option.some.injEq]
          by_cases faulty : fault0 ≠ 0 ∨ fault1 ≠ 0
          · rw [if_pos faulty]
            have none : ¬(fault0 = 0 ∧ fault1 = 0) := by
              rintro ⟨zero0, zero1⟩
              exact faulty.elim (fun other => other zero0) fun other => other zero1
            simp only [reduceCtorEq, false_iff]
            rintro ⟨zero0, zero1, _⟩
            exact none ⟨zero0, zero1⟩
          · rw [if_neg faulty]
            simp only [not_or, not_not] at faulty
            cases bus.readRegister8 regChargerStatus1 with
            | none => simp [faulty]
            | some status =>
                simp only [reduceCtorEq, and_false, iff_false]
                split <;> simp

end Bq2579

end XBotFirmware.Power
