import Mathlib.Data.Rat.Defs
import Mathlib.Algebra.Order.Ring.Unbundled.Rat
import XBotFirmware.Library.Run
import XBotFirmware.Power.Charger

set_option autoImplicit false

/-!
The power service (`power_service.cpp`).

`critical_count` is an `int`; counting beyond its range has no result.
-/

namespace XBotFirmware.Power

open XBotFirmware.Library

/-- What the robot tells the power service, in millivolts and milliamperes. -/
structure Robot where
  defaultBatteryFullVoltage : Int
  defaultBatteryEmptyVoltage : Int
  defaultChargeCurrent : Nat
  absoluteMinVoltage : Int

/-- The transaction that `tick` sends. -/
structure PowerReport where
  chargingStatus : String
  batteryVoltage : Int
  chargeVoltage : Int
  chargeCurrent : Int
  chargerEnabled : Bool
  batteryPercentage : ℚ
  deriving DecidableEq

structure PowerService where
  /-- `charger_` is not null. -/
  charger : Bool
  chargerConfigured : Bool
  chargeCurrent : Int
  adapterVolts : Int
  adapterCurrent : Int
  batteryVolts : Int
  batteryPercent : ℚ
  criticalCount : Int
  chargerStatus : ChargerStatus
  /-- `LINE_HIGH_LEVEL_GLOBAL_EN` is set. -/
  highLevelEnabled : Bool
  sent : List PowerReport

def intMax : Int := 2 ^ 31 - 1

namespace PowerService

def initial (charger : Bool) : PowerService where
  charger := charger
  chargerConfigured := false
  chargeCurrent := 0
  adapterVolts := 0
  adapterCurrent := 0
  batteryVolts := 0
  batteryPercent := 0
  criticalCount := 0
  chargerStatus := .commsError
  highLevelEnabled := true
  sent := []

def onStart (service : PowerService) : PowerService :=
  { service with chargerConfigured := false }

def getChargerStatus (service : PowerService) : String :=
  if service.chargerConfigured then
    match service.chargerStatus with
    | .notCharging => "Not Charging"
    | .trickle => "Trickle Charge"
    | .preCharge => "Pre Charge"
    | .cc => "Fast Charge (CC)"
    | .cv => "Taper Charge (CV)"
    | .topOff => "Top Off"
    | .done => "Done"
    | .fault => "Error (Fault)"
    | .commsError | .unknown => "Unknown State"
  else "Charger Not Found"

def tick (service : PowerService) : PowerService :=
  { service with
    sent := service.sent ++ [{
      chargingStatus := service.getChargerStatus
      batteryVoltage := service.batteryVolts
      chargeVoltage := service.adapterVolts
      chargeCurrent := service.chargeCurrent
      chargerEnabled := true
      batteryPercentage := max 0 (min 1 service.batteryPercent) }] }

/-- The first branch of `charger_tick`. -/
def configure (replies : ChargerReplies) (service : PowerService) : PowerService :=
  if replies.init then
    { service with
      chargerConfigured := replies.setPreChargeCurrent && replies.setTerminationCurrent &&
        replies.setChargingCurrent && replies.setTsEnabled }
  else service

def takeReadings (replies : ChargerReplies) (service : PowerService) : PowerService :=
  { service with
    chargeCurrent := replies.readChargeCurrent.getD service.chargeCurrent
    batteryVolts := replies.readBatteryVoltage.getD service.batteryVolts
    adapterVolts := replies.readAdapterVoltage.getD service.adapterVolts
    adapterCurrent := replies.readAdapterCurrent.getD service.adapterCurrent }

def percent (robot : Robot) (volts : Int) : ℚ :=
  max 0 (min 1 ((volts - robot.defaultBatteryEmptyVoltage : ℚ) /
    (robot.defaultBatteryFullVoltage - robot.defaultBatteryEmptyVoltage : ℚ)))

def checkBattery (robot : Robot) (service : PowerService) : Option PowerService :=
  if service.batteryVolts < robot.absoluteMinVoltage then
    if service.criticalCount = intMax then none
    else
      let service := { service with criticalCount := service.criticalCount + 1 }
      if service.criticalCount > 10 then some { service with highLevelEnabled := false }
      else some service
  else
    some { service with
      criticalCount := 0
      highLevelEnabled := true }

/-- The second branch of `charger_tick`. -/
def monitor (robot : Robot) (replies : ChargerReplies) (service : PowerService) :
    Option PowerService :=
  let success := replies.monitored
  let service := service.takeReadings replies
  let service :=
    if success then { service with batteryPercent := percent robot service.batteryVolts }
    else service
  let service := { service with chargerStatus := replies.getChargerStatus }
  if success = false ∨ service.chargerStatus = .commsError then
    some { service with chargerConfigured := false }
  else service.checkBattery robot

def chargerTick (robot : Robot) (replies : ChargerReplies) (service : PowerService) :
    Option PowerService :=
  if service.charger = false then some service
  else if service.chargerConfigured = false then some (service.configure replies)
  else service.monitor robot replies

end PowerService

inductive PowerOp where
  | chargerTick (replies : ChargerReplies)
  | tick
  | onStart
  deriving DecidableEq, Repr

namespace PowerService

def step (robot : Robot) (service : PowerService) : PowerOp → Option PowerService
  | .chargerTick replies => service.chargerTick robot replies
  | .tick => some service.tick
  | .onStart => some service.onStart

end PowerService

end XBotFirmware.Power
