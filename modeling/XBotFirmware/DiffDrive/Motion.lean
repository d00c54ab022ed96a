import XBotFirmware.DiffDrive.Service

set_option autoImplicit false

/-!
What moves the robot: the wanted speeds, the commanded duties and the two
variables that decide when the former become the latter.

Every operation of the service acts on this part as an operation of its own, so
the status messages of the controllers play no role in it.
-/

namespace XBotFirmware.DiffDrive

open XBotFirmware.Platform

structure Motion where
  speedL : ℚ
  speedR : ℚ
  dutyL : ℚ
  dutyR : ℚ
  dutySent : Bool
  lastDutyReceivedMicros : Micros
  deriving DecidableEq, Repr

namespace Motion

def Still (motion : Motion) : Prop := motion.speedL = 0 ∧ motion.speedR = 0

/-- Both motors are commanded zero. -/
def Off (motion : Motion) : Prop := motion.dutyL = 0 ∧ motion.dutyR = 0

/-- No speed is wanted, and a command sent since the last tick was zero. -/
def Expired (motion : Motion) : Prop := motion.Still ∧ (motion.dutySent = true → motion.Off)

instance (motion : Motion) : Decidable motion.Still := inferInstanceAs (Decidable (_ ∧ _))

instance (motion : Motion) : Decidable motion.Off := inferInstanceAs (Decidable (_ ∧ _))

def setDuty (motion : Motion) (emergency : Bool) : Motion :=
  { motion with
    dutyL := if emergency then 0 else motion.speedL
    dutyR := if emergency then 0 else motion.speedR
    dutySent := true }

def setDutyOnce (motion : Motion) (emergency : Bool) : Motion :=
  if motion.dutySent then motion else motion.setDuty emergency

def clearSpeeds (motion : Motion) : Motion := { motion with speedL := 0, speedR := 0 }

def expireSpeeds (motion : Motion) (now : Micros) : Motion :=
  if 1000000 < now - motion.lastDutyReceivedMicros then motion.clearSpeeds else motion

def tick (motion : Motion) (now : Micros) (emergency : Bool) : Motion :=
  { (motion.expireSpeeds now).setDutyOnce emergency with dutySent := false }

theorem setDuty_off_of_still {motion : Motion} (still : motion.Still) (emergency : Bool) :
    (motion.setDuty emergency).Off := by
  simp [Off, setDuty, still.1, still.2]

theorem clearSpeeds_still (motion : Motion) : motion.clearSpeeds.Still := ⟨rfl, rfl⟩

theorem expireSpeeds_still {motion : Motion} (still : motion.Still) (now : Micros) :
    (motion.expireSpeeds now).Still := by
  unfold expireSpeeds
  split
  · exact motion.clearSpeeds_still
  · exact still

@[simp]
theorem expireSpeeds_dutySent (motion : Motion) (now : Micros) :
    (motion.expireSpeeds now).dutySent = motion.dutySent := by
  unfold expireSpeeds
  split <;> rfl

@[simp]
theorem expireSpeeds_dutyL (motion : Motion) (now : Micros) :
    (motion.expireSpeeds now).dutyL = motion.dutyL := by
  unfold expireSpeeds
  split <;> rfl

@[simp]
theorem expireSpeeds_dutyR (motion : Motion) (now : Micros) :
    (motion.expireSpeeds now).dutyR = motion.dutyR := by
  unfold expireSpeeds
  split <;> rfl

theorem expireSpeeds_off_iff (motion : Motion) (now : Micros) :
    (motion.expireSpeeds now).Off ↔ motion.Off := by
  simp [Off]

@[simp]
theorem setDutyOnce_still_iff (motion : Motion) (emergency : Bool) :
    (motion.setDutyOnce emergency).Still ↔ motion.Still := by
  unfold setDutyOnce
  split <;> rfl

theorem setDutyOnce_lastDutyReceivedMicros (motion : Motion) (emergency : Bool) :
    (motion.setDutyOnce emergency).lastDutyReceivedMicros = motion.lastDutyReceivedMicros := by
  unfold setDutyOnce
  split <;> rfl

theorem tick_lastDutyReceivedMicros (motion : Motion) (now : Micros) (emergency : Bool) :
    (motion.tick now emergency).lastDutyReceivedMicros = motion.lastDutyReceivedMicros := by
  refine (setDutyOnce_lastDutyReceivedMicros (motion.expireSpeeds now) emergency).trans ?_
  unfold expireSpeeds
  split <;> rfl

@[simp]
theorem tick_dutySent (motion : Motion) (now : Micros) (emergency : Bool) :
    (motion.tick now emergency).dutySent = false := rfl

theorem tick_still_iff (motion : Motion) (now : Micros) (emergency : Bool) :
    (motion.tick now emergency).Still ↔ (motion.expireSpeeds now).Still :=
  setDutyOnce_still_iff (motion.expireSpeeds now) emergency

/-- A tick without speeds switches the motors off unless a command was already sent
since the last one. -/
theorem tick_off_of_still {motion : Motion} (still : motion.Still)
    (sent : motion.dutySent = true → motion.Off) (now : Micros) (emergency : Bool) :
    (motion.tick now emergency).Off := by
  have expired := expireSpeeds_still still now
  show ((motion.expireSpeeds now).setDutyOnce emergency).Off
  unfold setDutyOnce
  rw [expireSpeeds_dutySent]
  split
  next already => exact (expireSpeeds_off_iff motion now).mpr (sent already)
  next => exact setDuty_off_of_still expired emergency

/-- A tick that follows another one sends the speeds it leaves, or zero. -/
theorem tick_sends {motion : Motion} (notSent : motion.dutySent = false) (now : Micros)
    (emergency : Bool) :
    (motion.tick now emergency).dutyL =
        (if emergency then 0 else (motion.tick now emergency).speedL) ∧
      (motion.tick now emergency).dutyR =
        (if emergency then 0 else (motion.tick now emergency).speedR) := by
  simp [tick, setDutyOnce, notSent, setDuty]

end Motion

namespace DiffDriveService

def motion (service : DiffDriveService) : Motion where
  speedL := service.speedL
  speedR := service.speedR
  dutyL := service.leftEscDriver.duty
  dutyR := service.rightEscDriver.duty
  dutySent := service.dutySent
  lastDutyReceivedMicros := service.lastDutyReceivedMicros

theorem channels_of_off {service : DiffDriveService} (off : service.motion.Off) :
    (service.leftEscDriver.channel1 = 0 ∧ service.leftEscDriver.channel2 = 0) ∧
      (service.rightEscDriver.channel1 = 0 ∧ service.rightEscDriver.channel2 = 0) :=
  ⟨PwmMotorDriver.channels_of_duty_zero off.1, PwmMotorDriver.channels_of_duty_zero off.2⟩

@[simp]
theorem motion_setDuty (service : DiffDriveService) (emergency : Bool) :
    (service.setDuty emergency).motion = service.motion.setDuty emergency := by
  simp [motion, setDuty, commandLeft, commandRight, markSent, Motion.setDuty]

@[simp]
theorem motion_setDutyOnce (service : DiffDriveService) (emergency : Bool) :
    (service.setDutyOnce emergency).motion = service.motion.setDutyOnce emergency := by
  unfold setDutyOnce Motion.setDutyOnce
  by_cases sent : service.dutySent = true
  · rw [if_pos sent, if_pos (show service.motion.dutySent = true from sent)]
  · rw [if_neg sent, if_neg (show ¬ service.motion.dutySent = true from sent), motion_setDuty]

@[simp]
theorem motion_clearSpeeds (service : DiffDriveService) :
    service.clearSpeeds.motion = service.motion.clearSpeeds := rfl

@[simp]
theorem motion_expireSpeeds (service : DiffDriveService) (now : Micros) :
    (service.expireSpeeds now).motion = service.motion.expireSpeeds now := by
  unfold expireSpeeds Motion.expireSpeeds
  by_cases expired : 1000000 < now - service.lastDutyReceivedMicros
  · rw [if_pos expired, if_pos (show 1000000 < now - service.motion.lastDutyReceivedMicros
      from expired), motion_clearSpeeds]
  · rw [if_neg expired, if_neg (show ¬ 1000000 < now - service.motion.lastDutyReceivedMicros
      from expired)]

theorem expireSpeeds_dutySent (service : DiffDriveService) (now : Micros) :
    (service.expireSpeeds now).dutySent = service.dutySent := by
  unfold expireSpeeds
  split <;> rfl

@[simp]
theorem motion_leftEscCallback (registers : Registers) (service : DiffDriveService)
    (state : EscState) (micros : Micros) :
    (service.leftEscCallback registers state micros).motion = service.motion := by
  simp only [leftEscCallback]
  split <;> rfl

@[simp]
theorem motion_rightEscCallback (registers : Registers) (service : DiffDriveService)
    (state : EscState) (micros : Micros) :
    (service.rightEscCallback registers state micros).motion = service.motion := by
  simp only [rightEscCallback]
  split <;> rfl

@[simp]
theorem motion_requestLeftStatus (registers : Registers) (service : DiffDriveService)
    (micros : Micros) : (service.requestLeftStatus registers micros).motion = service.motion := by
  rw [requestLeftStatus, motion_leftEscCallback]
  rfl

@[simp]
theorem motion_requestRightStatus (registers : Registers) (service : DiffDriveService)
    (micros : Micros) : (service.requestRightStatus registers micros).motion = service.motion := by
  rw [requestRightStatus, motion_rightEscCallback]
  rfl

@[simp]
theorem motion_reportDisconnected (service : DiffDriveService) (now : Micros) :
    (service.reportDisconnected now).motion = service.motion := by
  unfold reportDisconnected
  split <;> rfl

@[simp]
theorem motion_finishTick (registers : Registers) (service : DiffDriveService)
    (times : TickTimes) :
    (service.finishTick registers times).motion = { service.motion with dutySent := false } := by
  have kept := motion_reportDisconnected ((service.requestLeftStatus registers
    times.left).requestRightStatus registers times.right) times.status
  rw [motion_requestRightStatus, motion_requestLeftStatus] at kept
  rw [← kept]
  rfl

@[simp]
theorem motion_tick (registers : Registers) (service : DiffDriveService) (times : TickTimes)
    (emergency : Bool) :
    (service.tick registers times emergency).motion =
      service.motion.tick times.duty emergency := by
  rw [tick, motion_finishTick, motion_setDutyOnce, motion_expireSpeeds]
  rfl

@[simp]
theorem motion_onStart (service : DiffDriveService) :
    service.onStart.motion = service.motion.clearSpeeds := rfl

@[simp]
theorem motion_onStop (service : DiffDriveService) :
    service.onStop.motion = service.motion.clearSpeeds := rfl

@[simp]
theorem motion_onEmergencyChangedEvent (service : DiffDriveService) (emergency sending : Bool) :
    (service.onEmergencyChangedEvent emergency sending).motion =
      if emergency then service.motion.clearSpeeds.setDuty sending else service.motion := by
  unfold onEmergencyChangedEvent
  split
  · rw [motion_setDuty, motion_clearSpeeds]
  · rfl

end DiffDriveService

end XBotFirmware.DiffDrive
