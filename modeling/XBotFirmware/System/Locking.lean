import XBotFirmware.Platform.Mutex

set_option autoImplicit false

/-!
The mutexes of the firmware and the order in which its operations take them.

An operation stands for its calls of `chMtxLock` and `chMtxUnlock`, in `xbot::service::Lock`
or around an I2C transfer too; its arguments are what decides which of them it makes.
The mutexes that the service framework takes for itself are not among them, nor are that of
the SPI bus, which `OnCreate` of the IMU service acquires for good, and that of `I2CD2`.
One `debuggable` and one `socket` mutex stand for those of all drivers.
-/

namespace XBotFirmware.System

open XBotFirmware.Library XBotFirmware.Platform

inductive FirmwareMutex where
  /-- `state_mutex_` of the drive. -/
  | drive
  /-- `mtx_` of the emergency service. -/
  | emergency
  /-- `mutex_` of the input service. -/
  | input
  /-- `mtx_` of the power service. -/
  | power
  /-- `mtx_` of the IMU service. -/
  | imu
  | i2c1
  | i2c4
  /-- `ulog_mutex_`. -/
  | ulog
  | statusLed
  /-- `mutex_` of a driver that can be debugged. -/
  | debuggable
  /-- `socket_mutex_` of the debug interface it is attached to. -/
  | socket
  /-- `flash_mutex_`. -/
  | flash
  deriving DecidableEq, Repr

def FirmwareMutex.rank : FirmwareMutex → Nat
  | .emergency | .i2c1 | .socket => 1
  | .ulog => 2
  | _ => 0

abbrev Actions := List (LockAction FirmwareMutex)

/-- A message to the log, between `ulog_lock_mutex` and `ulog_unlock_mutex`. -/
def ulogMessage : Actions := locked .ulog []

namespace EmergencyActions

def getEmergency : Actions := locked .emergency []

def sendStatus : Actions := locked .emergency []

/-- `changed` says whether the reasons are others than before. -/
def updateEmergency (changed : Bool) : Actions :=
  locked .emergency [] ++ if changed then sendStatus else []

def getEmergencyReasons : Actions := locked .input []

def checkInputs (changed : Bool) : Actions := getEmergencyReasons ++ updateEmergency changed

def checkTimeouts (changed : Bool) : Actions := locked .emergency [] ++ updateEmergency changed

def onHighLevelEmergencyChanged (changed : Bool) : Actions :=
  locked .emergency [] ++ updateEmergency changed

def onLoop (inputsChanged timeoutsChanged : Bool) : Actions :=
  checkInputs inputsChanged ++ checkTimeouts timeoutsChanged

end EmergencyActions

namespace DriveActions

open EmergencyActions

def setDuty : Actions := getEmergency

def onEmergencyChangedEvent (emergency : Bool) : Actions :=
  getEmergency ++ if emergency then locked .drive setDuty else []

/-- `LeftESCCallback` and `RightESCCallback`. -/
def escCallback : Actions := locked .drive []

/-- `RequestStatus` of a motor driver calls the callback in the thread of its caller. -/
def requestStatus : Actions := escCallback

def tick (dutySent : Bool) : Actions :=
  locked .drive ((if dutySent then [] else setDuty) ++ requestStatus ++ requestStatus)

def onControlTwistChanged (wellFormed dutySent : Bool) : Actions :=
  if wellFormed then locked .drive (if dutySent then [] else setDuty) else []

end DriveActions

namespace PowerActions

/-- What `charger_tick` does between its locks: transfers to the charger and messages. -/
inductive ChargerCall where
  | transfer
  | message
  deriving DecidableEq, Repr

def ChargerCall.actions : ChargerCall → Actions
  | .transfer => locked .i2c1 []
  | .message => ulogMessage

/-- `PowerService::tick` and the getters of the service. -/
def readStatus : Actions := locked .power []

def chargerTick (configured : Bool) (calls : List ChargerCall) : Actions :=
  if configured then locked .power (calls.flatMap ChargerCall.actions)
  else calls.flatMap ChargerCall.actions

end PowerActions

namespace DebugActions

/-- `SetRawAccessMode`, `IsRawMode` and `SetRawDataCallback`. -/
def rawMode : Actions := locked .debuggable []

def onRawDriverData : Actions := locked .socket []

/-- `attached` says whether a callback is set. -/
def rawDataOutput (attached : Bool) : Actions :=
  locked .debuggable (if attached then onRawDriverData else [])

def setClient : Actions := locked .socket []

end DebugActions

inductive Operation where
  | emergencyLoop (inputsChanged timeoutsChanged : Bool)
  | highLevelEmergency (changed : Bool)
  | emergencyStopped (changed : Bool)
  | sendStatus
  | emergencyEvent (emergency : Bool)
  | inputsEvent (changed : Bool)
  | driveTick (dutySent : Bool)
  | controlTwist (wellFormed dutySent : Bool)
  | readPower
  | chargerTick (configured : Bool) (calls : List PowerActions.ChargerCall)
  /-- `ImuService::tick` and `GetAxes`. -/
  | readImu
  | registerInputConfigs (errors : Nat)
  | readEeprom
  | setStatusLed
  | logMessage
  | rawMode
  | rawDataOutput (attached : Bool)
  | setClient
  /-- A call of littlefs, between `lock_flash` and `unlock_flash`. -/
  | accessFlash
  deriving DecidableEq, Repr

def Operation.actions : Operation → Actions
  | .emergencyLoop inputsChanged timeoutsChanged =>
      EmergencyActions.onLoop inputsChanged timeoutsChanged
  | .highLevelEmergency changed => EmergencyActions.onHighLevelEmergencyChanged changed
  | .emergencyStopped changed => EmergencyActions.updateEmergency changed
  | .sendStatus => EmergencyActions.sendStatus
  | .emergencyEvent emergency => DriveActions.onEmergencyChangedEvent emergency
  | .inputsEvent changed => EmergencyActions.checkInputs changed
  | .driveTick dutySent => DriveActions.tick dutySent
  | .controlTwist wellFormed dutySent => DriveActions.onControlTwistChanged wellFormed dutySent
  | .readPower => PowerActions.readStatus
  | .chargerTick configured calls => PowerActions.chargerTick configured calls
  | .readImu => locked .imu []
  | .registerInputConfigs errors =>
      locked .input ((List.replicate errors ()).flatMap fun _ => ulogMessage)
  | .readEeprom => locked .i2c4 []
  | .setStatusLed => locked .statusLed []
  | .logMessage => ulogMessage
  | .rawMode => DebugActions.rawMode
  | .rawDataOutput attached => DebugActions.rawDataOutput attached
  | .setClient => DebugActions.setClient
  | .accessFlash => locked .flash []

section Order

variable {held : List FirmwareMutex}

theorem nests_section (mutex : FirmwareMutex)
    (admitted : mutex ∈ held ∨ ∀ other ∈ held, other.rank < mutex.rank) :
    Nests FirmwareMutex.rank held (locked mutex []) := .locked admitted .nil

theorem nests_updateEmergency (changed : Bool) :
    Nests FirmwareMutex.rank [] (EmergencyActions.updateEmergency changed) :=
  (nests_section .emergency (by simp)).append
    (.ite changed (nests_section .emergency (by simp)) .nil)

theorem nests_checkInputs (changed : Bool) :
    Nests FirmwareMutex.rank [] (EmergencyActions.checkInputs changed) :=
  (nests_section .input (by simp)).append (nests_updateEmergency changed)

theorem nests_checkTimeouts (changed : Bool) :
    Nests FirmwareMutex.rank [] (EmergencyActions.checkTimeouts changed) :=
  (nests_section .emergency (by simp)).append (nests_updateEmergency changed)

theorem nests_setDuty : Nests FirmwareMutex.rank [.drive] DriveActions.setDuty :=
  nests_section .emergency (by decide)

/-- The callbacks of the motor drivers take the mutex that `tick` holds again. -/
theorem nests_requestStatus : Nests FirmwareMutex.rank [.drive] DriveActions.requestStatus :=
  nests_section .drive (by decide)

theorem nests_driveTick (dutySent : Bool) :
    Nests FirmwareMutex.rank [] (DriveActions.tick dutySent) :=
  .locked (by simp)
    (((Nests.ite dutySent .nil nests_setDuty).append nests_requestStatus).append
      nests_requestStatus)

theorem nests_controlTwist (wellFormed dutySent : Bool) :
    Nests FirmwareMutex.rank [] (DriveActions.onControlTwistChanged wellFormed dutySent) :=
  .ite wellFormed (.locked (by simp) (.ite dutySent .nil nests_setDuty)) .nil

theorem nests_emergencyEvent (emergency : Bool) :
    Nests FirmwareMutex.rank [] (DriveActions.onEmergencyChangedEvent emergency) :=
  (nests_section .emergency (by simp)).append
    (.ite emergency (.locked (by simp) nests_setDuty) .nil)

theorem nests_chargerCalls (calls : List PowerActions.ChargerCall)
    (admitted : ∀ other ∈ held, other.rank = 0) :
    Nests FirmwareMutex.rank held (calls.flatMap PowerActions.ChargerCall.actions) := by
  apply Nests.flatMap
  intro call
  cases call with
  | transfer =>
      apply nests_section
      exact .inr fun other inside => (admitted other inside).trans_lt (by decide)
  | message =>
      apply nests_section
      exact .inr fun other inside => (admitted other inside).trans_lt (by decide)

theorem nests_chargerTick (configured : Bool) (calls : List PowerActions.ChargerCall) :
    Nests FirmwareMutex.rank [] (PowerActions.chargerTick configured calls) :=
  .ite configured (.locked (by simp) (nests_chargerCalls calls (by simp [FirmwareMutex.rank])))
    (nests_chargerCalls calls (by simp))

theorem nests_rawDataOutput (attached : Bool) :
    Nests FirmwareMutex.rank [] (DebugActions.rawDataOutput attached) :=
  .locked (by simp) (.ite attached (nests_section .socket (by decide)) .nil)

theorem nests_registerInputConfigs (errors : Nat) :
    Nests FirmwareMutex.rank [] (Operation.registerInputConfigs errors).actions :=
  .locked (by simp) (.flatMap fun _ => nests_section .ulog (by decide))

/-- Every operation takes the mutexes in the order of their ranks. -/
theorem Operation.disciplined (operation : Operation) :
    Disciplined FirmwareMutex.rank [] operation.actions := by
  apply Nests.disciplined
  cases operation with
  | emergencyLoop inputsChanged timeoutsChanged =>
      exact (nests_checkInputs inputsChanged).append (nests_checkTimeouts timeoutsChanged)
  | highLevelEmergency changed => exact nests_checkTimeouts changed
  | emergencyStopped changed => exact nests_updateEmergency changed
  | sendStatus => exact nests_section .emergency (by simp)
  | emergencyEvent emergency => exact nests_emergencyEvent emergency
  | inputsEvent changed => exact nests_checkInputs changed
  | driveTick dutySent => exact nests_driveTick dutySent
  | controlTwist wellFormed dutySent => exact nests_controlTwist wellFormed dutySent
  | readPower => exact nests_section .power (by simp)
  | chargerTick configured calls => exact nests_chargerTick configured calls
  | readImu => exact nests_section .imu (by simp)
  | registerInputConfigs errors => exact nests_registerInputConfigs errors
  | readEeprom => exact nests_section .i2c4 (by simp)
  | setStatusLed => exact nests_section .statusLed (by simp)
  | logMessage => exact nests_section .ulog (by simp)
  | rawMode => exact nests_section .debuggable (by simp)
  | rawDataOutput attached => exact nests_rawDataOutput attached
  | setClient => exact nests_section .socket (by simp)
  | accessFlash => exact nests_section .flash (by simp)

theorem FirmwareMutex.rank_le (mutex : FirmwareMutex) : mutex.rank ≤ 2 := by
  cases mutex <;> decide

end Order

variable {Thread : Type} [DecidableEq Thread]
variable {threads : LockingThreads Thread FirmwareMutex}
variable {labels : List (LockingStep Thread Operation)}

/-- In every interleaving of the operations, the assertions of `chMtxLock` and `chMtxUnlock`
hold for every thread that does not sleep on a mutex. -/
theorem mutex_assertions_hold
    (executed : run (LockingThreads.step Operation.actions) .boot labels = some threads)
    {thread : Thread} (inside : threads.todo thread ≠ [])
    (awake : ∀ mp, threads.kernel.state thread ≠ .wtmtx mp) (chosen : Nat) :
    ∃ next, threads.act thread chosen = some next := by
  obtain ⟨held, sound⟩ := LockingThreads.run_sound Operation.disciplined executed
  obtain ⟨next, -, acted, -⟩ := LockingThreads.act_sound sound inside awake chosen
  exact ⟨next, acted⟩

/-- The main thread stops the drive while the drive is in `tick`, and has to wait. -/
def contended : List (LockingStep (Fin 2) Operation) :=
  [.enter 0 (.driveTick false), .enter 1 (.emergencyEvent true),
    .act 1 0, .act 0 0, .act 1 0, .act 1 0, .act 0 0, .act 0 0]

theorem contended_reached :
    ∃ threads, run (LockingThreads.step Operation.actions) .boot contended = some threads ∧
      (threads.todo 0).length = 5 ∧ threads.kernel.state 0 = .current ∧
      threads.kernel.state 1 = .wtmtx .drive := by
  have reached : (run (LockingThreads.step Operation.actions) .boot contended).map (fun threads =>
      ((threads.todo 0).length, threads.kernel.state 0, threads.kernel.state 1)) =
      some (5, .current, .wtmtx .drive) := by decide
  obtain ⟨threads, executed, facts⟩ := Option.map_eq_some_iff.mp reached
  simp only [Prod.mk.injEq] at facts
  exact ⟨threads, executed, facts⟩

theorem mutex_assertions_hold_contended :
    ∃ threads, run (LockingThreads.step Operation.actions) .boot contended = some threads ∧
      threads.kernel.state 1 = .wtmtx .drive ∧ ∃ next, threads.act 0 0 = some next := by
  obtain ⟨threads, executed, left, current, waiting⟩ := contended_reached
  have inside : threads.todo 0 ≠ [] := by
    intro finished
    rw [finished] at left
    exact absurd left (by decide)
  exact ⟨threads, executed, waiting,
    mutex_assertions_hold executed inside (by simp [current]) 0⟩

/-- Operations never block each other for good: without new operations the threads take a
bounded number of steps, in any order, and they stop only when all operations are
complete and all mutexes are free. -/
theorem pending_operations_complete [Fintype Thread]
    (executed : run (LockingThreads.step Operation.actions) .boot labels = some threads)
    {acts : List (Thread × Nat)} {final : LockingThreads Thread FirmwareMutex}
    (continued : threads.actAll acts = some final) :
    acts.length ≤ threads.remaining ∧
      ((∀ thread chosen, final.act thread chosen = none) →
        (∀ thread, final.todo thread = []) ∧
          ∀ mp, final.kernel.mutexes mp = chMtxObjectInit) := by
  obtain ⟨held, sound⟩ := LockingThreads.run_sound Operation.disciplined executed
  obtain ⟨counted, after, finished⟩ := LockingThreads.actAll_remaining sound continued
  exact ⟨by omega, finished.idle_of_stuck FirmwareMutex.rank_le⟩

/-- The drive goes on to the end of `tick`, then the main thread stops it. -/
theorem pending_operations_complete_contended :
    ∃ threads, run (LockingThreads.step Operation.actions) .boot contended = some threads ∧
      ∃ final, threads.actAll
          ((List.replicate 5 (0, 0)) ++ (List.replicate 4 (1, 0))) = some final ∧
        9 ≤ threads.remaining ∧ ∀ mp, final.kernel.mutexes mp = chMtxObjectInit := by
  have reached : ((run (LockingThreads.step Operation.actions) .boot contended).bind
      fun threads => threads.actAll ((List.replicate 5 (0, 0)) ++ (List.replicate 4 (1, 0)))).map
        (fun final => (final.todo 0, final.todo 1, final.kernel.state 0, final.kernel.state 1)) =
      some ([], [], .current, .current) := by decide
  obtain ⟨final, continued, facts⟩ := Option.map_eq_some_iff.mp reached
  obtain ⟨threads, executed, continued⟩ := Option.bind_eq_some_iff.mp continued
  simp only [Prod.mk.injEq] at facts
  obtain ⟨leftDrive, leftMain, stateDrive, stateMain⟩ := facts
  obtain ⟨counted, finished⟩ := pending_operations_complete executed continued
  refine ⟨threads, executed, final, continued, counted, (finished ?_).2⟩
  intro thread chosen
  obtain rfl | rfl : thread = 0 ∨ thread = 1 := by omega
  · simp [LockingThreads.act, leftDrive, stateDrive]
  · simp [LockingThreads.act, leftMain, stateMain]

end XBotFirmware.System
