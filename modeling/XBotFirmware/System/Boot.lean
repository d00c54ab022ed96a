import XBotFirmware.Eeprom.CarrierBoard
import XBotFirmware.Library.Run

set_option autoImplicit false

/-!
The start of the firmware (`main` in `src/main.cpp`, `InitFS` in
`src/filesystem/filesystem.cpp`) and the status LED (`src/status_led.c`).

The main thread and the timer of the LED interleave.  A step of the main thread is a
statement of `main` or a part of `InitFS`; what the hardware and littlefs answer is part
of the step.  The lines of the LED are active low.
-/

namespace XBotFirmware.System

open XBotFirmware.Library XBotFirmware.Platform XBotFirmware.Eeprom

inductive LedMode where
  | off
  | on
  | blinkFast
  | blinkSlow
  deriving DecidableEq, Repr

inductive LedColor where
  | red
  | green
  deriving DecidableEq, Repr

structure StatusLed where
  currentMode : LedMode
  currentColor : LedColor
  blinkState : BitVec 8
  /-- The levels of the two lines; `true` is high. -/
  red : Bool
  green : Bool
  deriving DecidableEq, Repr

namespace StatusLed

/-- As the board sets the lines up. -/
def initial : StatusLed where
  currentMode := .off
  currentColor := .red
  blinkState := 0
  red := true
  green := true

def toggle (led : StatusLed) : StatusLed :=
  match led.currentColor with
  | .red => { led with red := !led.red, green := true }
  | .green => { led with green := !led.green, red := true }

def timerCb (led : StatusLed) : StatusLed :=
  match led.currentMode with
  | .off => { led with red := true, green := true }
  | .on => { led with red := led.currentColor ≠ .red, green := led.currentColor ≠ .green }
  | .blinkFast => led.toggle
  | .blinkSlow =>
      let counted := { led with blinkState := led.blinkState + 1 }
      if led.blinkState.toNat % 10 = 0 then counted.toggle else counted

end StatusLed

inductive BootEvent where
  | carrier (image : CarrierBoardInfo) (transfer : Transfer)
  | mac (success : Bool)
  | mounted (err : Int)
  | formatted
  | restApi
  | platform
  | io
  | services
  deriving DecidableEq

inductive BootPosition where
  | initGlobals
  | initStatusLed
  | setModeOn
  | setColorRed
  | getMacAddress
  /-- The loop after a failed read of the MAC address. -/
  | macFailed
  /-- `lwipInit`, `InitBootloaderServiceDiscovery`, `initSystem` and `startRemoteLogging`. -/
  | initNetwork
  | mount
  | format
  | mountAgain
  | setBlinkSlow
  | setBlinkSlowRed
  | mountFailed
  | initRestApi
  | isHardwareSupported
  | setBlinkFast
  | setBlinkFastRed
  | unsupported
  | initPlatform
  | startIo
  | startServices
  | setColorGreen
  | dispatchEvents
  deriving DecidableEq, Repr

structure Boot where
  position : BootPosition
  carrierBoardInfo : CarrierBoardInfo
  led : StatusLed
  trace : List BootEvent
  deriving DecidableEq

inductive BootStep where
  /-- The timer of the status LED. -/
  | timer
  | readCarrier (image : CarrierBoardInfo) (transfer : Transfer)
  | readMac (success : Bool)
  /-- `lfs_mount`, with the error it returns. -/
  | mountFs (err : Int)
  | next
  deriving DecidableEq

namespace Boot

def reset : Boot where
  position := .initGlobals
  carrierBoardInfo := ⟨List.replicate 39 0, List.length_replicate⟩
  led := .initial
  trace := []

def setStatusLedMode (boot : Boot) (mode : LedMode) : Boot :=
  { boot with led := { boot.led with currentMode := mode } }

def setStatusLedColor (boot : Boot) (color : LedColor) : Boot :=
  { boot with led := { boot.led with currentColor := color } }

def goOn (boot : Boot) (position : BootPosition) : Boot := { boot with position := position }

def note (boot : Boot) (event : BootEvent) : Boot := { boot with trace := boot.trace ++ [event] }

/-- The timer runs from `InitStatusLed` on. -/
def timerRuns (boot : Boot) : Bool :=
  boot.position ≠ .initGlobals && boot.position ≠ .initStatusLed

/-- The statements of `main` that ask nothing of the hardware; the loops in which it ends
change nothing here. -/
def next (boot : Boot) : Option Boot :=
  match boot.position with
  | .initStatusLed =>
      some (((boot.setStatusLedMode .off).setStatusLedColor .red).goOn .setModeOn)
  | .setModeOn => some ((boot.setStatusLedMode .on).goOn .setColorRed)
  | .setColorRed => some ((boot.setStatusLedColor .red).goOn .getMacAddress)
  | .initNetwork => some (boot.goOn .mount)
  | .format => some ((boot.note .formatted).goOn .mountAgain)
  | .setBlinkSlow => some ((boot.setStatusLedMode .blinkSlow).goOn .setBlinkSlowRed)
  | .setBlinkSlowRed => some ((boot.setStatusLedColor .red).goOn .mountFailed)
  | .initRestApi => some ((boot.note .restApi).goOn .isHardwareSupported)
  | .isHardwareSupported =>
      some (boot.goOn
        (if Eeprom.isHardwareSupported boot.carrierBoardInfo then .initPlatform
          else .setBlinkFast))
  | .setBlinkFast => some ((boot.setStatusLedMode .blinkFast).goOn .setBlinkFastRed)
  | .setBlinkFastRed => some ((boot.setStatusLedColor .red).goOn .unsupported)
  | .initPlatform => some ((boot.note .platform).goOn .startIo)
  | .startIo => some ((boot.note .io).goOn .startServices)
  | .startServices => some ((boot.note .services).goOn .setColorGreen)
  | .setColorGreen => some ((boot.setStatusLedColor .green).goOn .dispatchEvents)
  | .macFailed | .mountFailed | .unsupported | .dispatchEvents => some boot
  | .initGlobals | .getMacAddress | .mount | .mountAgain => none

def step (boot : Boot) : BootStep → Option Boot
  | .timer => if boot.timerRuns then some { boot with led := boot.led.timerCb } else none
  | .readCarrier image transfer =>
      if boot.position = .initGlobals then
        some (({ boot with
          carrierBoardInfo := (idEepromGetCarrierBoardInfo image transfer).2 }.note
            (.carrier image transfer)).goOn .initStatusLed)
      else none
  | .readMac success =>
      if boot.position = .getMacAddress then
        some ((boot.note (.mac success)).goOn (if success then .initNetwork else .macFailed))
      else none
  | .mountFs err =>
      if boot.position = .mount then
        some ((boot.note (.mounted err)).goOn (if err = 0 then .initRestApi else .format))
      else if boot.position = .mountAgain then
        some ((boot.note (.mounted err)).goOn (if err = 0 then .initRestApi else .setBlinkSlow))
      else none
  | .next => boot.next

/-- How `InitFS` can succeed: at once, or after it has formatted the flash. -/
def Mounting (events : List BootEvent) : Prop :=
  events = [.mounted 0] ∨ ∃ err, err ≠ 0 ∧ events = [.mounted err, .formatted, .mounted 0]

def Identified (info : CarrierBoardInfo) (events : List BootEvent) : Prop :=
  ∃ image transfer, events = [.carrier image transfer, .mac true] ∧
    info = (idEepromGetCarrierBoardInfo image transfer).2

def Mounted (info : CarrierBoardInfo) (events : List BootEvent) : Prop :=
  ∃ identified mounting, events = identified ++ mounting ∧ Identified info identified ∧
    Mounting mounting

/-- What has happened before a statement of `main`. -/
def History (info : CarrierBoardInfo) (trace : List BootEvent) : BootPosition → Prop
  | .initGlobals => trace = []
  | .initStatusLed | .setModeOn | .setColorRed | .getMacAddress =>
      ∃ image transfer, trace = [.carrier image transfer] ∧
        info = (idEepromGetCarrierBoardInfo image transfer).2
  | .macFailed => ∃ image transfer, trace = [.carrier image transfer, .mac false]
  | .initNetwork | .mount => Identified info trace
  | .format => ∃ identified err, trace = identified ++ [.mounted err] ∧
      Identified info identified ∧ err ≠ 0
  | .mountAgain => ∃ identified err, trace = identified ++ [.mounted err, .formatted] ∧
      Identified info identified ∧ err ≠ 0
  | .setBlinkSlow | .setBlinkSlowRed | .mountFailed => ∃ identified err again,
      trace = identified ++ [.mounted err, .formatted, .mounted again] ∧
      Identified info identified ∧ err ≠ 0 ∧ again ≠ 0
  | .initRestApi => Mounted info trace
  | .isHardwareSupported | .setBlinkFast | .setBlinkFastRed | .unsupported =>
      ∃ mounted, trace = mounted ++ [.restApi] ∧ Mounted info mounted
  | .initPlatform => ∃ mounted, trace = mounted ++ [.restApi] ∧ Mounted info mounted ∧
      Eeprom.isHardwareSupported info = true
  | .startIo => ∃ mounted, trace = mounted ++ [.restApi, .platform] ∧ Mounted info mounted ∧
      Eeprom.isHardwareSupported info = true
  | .startServices => ∃ mounted, trace = mounted ++ [.restApi, .platform, .io] ∧
      Mounted info mounted ∧ Eeprom.isHardwareSupported info = true
  | .setColorGreen | .dispatchEvents => ∃ mounted,
      trace = mounted ++ [.restApi, .platform, .io, .services] ∧ Mounted info mounted ∧
      Eeprom.isHardwareSupported info = true

def modeAt : BootPosition → LedMode
  | .initGlobals | .initStatusLed | .setModeOn => .off
  | .setBlinkSlowRed | .mountFailed => .blinkSlow
  | .setBlinkFastRed | .unsupported => .blinkFast
  | _ => .on

def colorAt : BootPosition → LedColor
  | .dispatchEvents => .green
  | _ => .red

/-- The green line is low only where the last color is green, and the lines are never
low together. -/
structure Shows (boot : Boot) : Prop where
  mode : boot.led.currentMode = modeAt boot.position
  color : boot.led.currentColor = colorAt boot.position
  dark : boot.position ≠ .dispatchEvents → boot.led.green = true
  single : boot.led.red = true ∨ boot.led.green = true

theorem timerCb_single {led : StatusLed} (single : led.red = true ∨ led.green = true) :
    led.timerCb.red = true ∨ led.timerCb.green = true := by
  unfold StatusLed.timerCb StatusLed.toggle
  grind

theorem timerCb_dark {led : StatusLed} (red : led.currentColor = .red)
    (dark : led.green = true) : led.timerCb.green = true := by
  unfold StatusLed.timerCb StatusLed.toggle
  grind

theorem timerCb_settings (led : StatusLed) :
    led.timerCb.currentMode = led.currentMode ∧ led.timerCb.currentColor = led.currentColor := by
  unfold StatusLed.timerCb StatusLed.toggle
  grind

theorem next_history {boot after : Boot}
    (history : History boot.carrierBoardInfo boot.trace boot.position)
    (executed : boot.next = some after) :
    History after.carrierBoardInfo after.trace after.position := by
  obtain ⟨position, info, led, trace⟩ := boot
  cases position with
  | isHardwareSupported =>
      rw [← Option.some.inj executed]
      cases supported : Eeprom.isHardwareSupported info with
      | false => simpa [goOn, supported, History] using history
      | true =>
          obtain ⟨mounted, traced, mounting⟩ := history
          simpa [goOn, supported, History] using ⟨mounted, traced, mounting⟩
  | format =>
      rw [← Option.some.inj executed]
      obtain ⟨identified, err, traced, known, failed⟩ := history
      exact ⟨identified, err, by simp [note, goOn, show trace = _ from traced], known, failed⟩
  | initRestApi =>
      rw [← Option.some.inj executed]
      exact ⟨trace, rfl, history⟩
  | initPlatform | startIo | startServices =>
      rw [← Option.some.inj executed]
      obtain ⟨mounted, traced, known⟩ := history
      exact ⟨mounted, by simp [note, goOn, show trace = _ from traced], known⟩
  | initGlobals | getMacAddress | mount | mountAgain => exact absurd executed (by simp [next])
  | initStatusLed | setModeOn | setColorRed | initNetwork | setBlinkSlow | setBlinkSlowRed
  | setBlinkFast | setBlinkFastRed | setColorGreen | macFailed | mountFailed | unsupported
  | dispatchEvents =>
      rw [← Option.some.inj executed]
      exact history

theorem mount_history {boot : Boot} {err : Int}
    (history : History boot.carrierBoardInfo boot.trace .mount) :
    History boot.carrierBoardInfo (boot.note (.mounted err)).trace
      (if err = 0 then .initRestApi else .format) := by
  by_cases failed : err = 0
  · rw [if_pos failed]
    exact ⟨boot.trace, [.mounted 0], by simp [note, failed], history, .inl rfl⟩
  · rw [if_neg failed]
    exact ⟨boot.trace, err, rfl, history, failed⟩

theorem mountAgain_history {boot : Boot} {err : Int}
    (history : History boot.carrierBoardInfo boot.trace .mountAgain) :
    History boot.carrierBoardInfo (boot.note (.mounted err)).trace
      (if err = 0 then .initRestApi else .setBlinkSlow) := by
  obtain ⟨identified, first, traced, known, failedFirst⟩ := history
  by_cases failed : err = 0
  · rw [if_pos failed]
    exact ⟨identified, [.mounted first, .formatted, .mounted 0], by simp [note, traced, failed],
      known, .inr ⟨first, failedFirst, rfl⟩⟩
  · rw [if_neg failed]
    exact ⟨identified, first, err, by simp [note, traced], known, failedFirst, failed⟩

theorem step_history {boot after : Boot} {label : BootStep}
    (history : History boot.carrierBoardInfo boot.trace boot.position)
    (executed : boot.step label = some after) :
    History after.carrierBoardInfo after.trace after.position := by
  cases label with
  | next => exact next_history history executed
  | timer =>
      simp only [step, Option.ite_none_right_eq_some, Option.some.injEq] at executed
      obtain ⟨-, rfl⟩ := executed
      exact history
  | readCarrier image transfer =>
      simp only [step, Option.ite_none_right_eq_some, Option.some.injEq] at executed
      obtain ⟨here, rfl⟩ := executed
      rw [here] at history
      exact ⟨image, transfer, by simp [note, goOn, show boot.trace = [] from history], rfl⟩
  | readMac success =>
      simp only [step, Option.ite_none_right_eq_some, Option.some.injEq] at executed
      obtain ⟨here, rfl⟩ := executed
      rw [here] at history
      obtain ⟨image, transfer, traced, info⟩ := history
      cases success with
      | false => exact ⟨image, transfer, by simp [note, goOn, traced]⟩
      | true => exact ⟨image, transfer, by simp [note, goOn, traced], info⟩
  | mountFs err =>
      simp only [step] at executed
      by_cases first : boot.position = .mount
      · rw [if_pos first, Option.some.injEq] at executed
        rw [first] at history
        exact executed ▸ mount_history history
      · simp only [if_neg first, Option.ite_none_right_eq_some, Option.some.injEq] at executed
        obtain ⟨second, rfl⟩ := executed
        rw [second] at history
        exact mountAgain_history history

theorem next_shows {boot after : Boot} (shown : Shows boot) (executed : boot.next = some after) :
    Shows after := by
  obtain ⟨mode, color, dark, single⟩ := shown
  obtain ⟨position, info, led, trace⟩ := boot
  cases position with
  | initGlobals | getMacAddress | mount | mountAgain => exact absurd executed (by simp [next])
  | isHardwareSupported =>
      rw [← Option.some.inj executed]
      cases supported : Eeprom.isHardwareSupported info with
      | false => exact ⟨mode, color, fun _ => dark (by simp), single⟩
      | true => exact ⟨mode, color, fun _ => dark (by simp), single⟩
  | initStatusLed =>
      rw [← Option.some.inj executed]
      exact ⟨rfl, rfl, fun _ => dark (by simp), single⟩
  | setModeOn | setBlinkSlow | setBlinkFast =>
      rw [← Option.some.inj executed]
      exact ⟨rfl, color, fun _ => dark (by simp), single⟩
  | setColorRed | setBlinkSlowRed | setBlinkFastRed =>
      rw [← Option.some.inj executed]
      exact ⟨mode, rfl, fun _ => dark (by simp), single⟩
  | setColorGreen =>
      rw [← Option.some.inj executed]
      exact ⟨mode, rfl, fun elsewhere => absurd rfl elsewhere, single⟩
  | initNetwork | format | initRestApi | initPlatform | startIo | startServices | macFailed
  | mountFailed | unsupported =>
      rw [← Option.some.inj executed]
      exact ⟨mode, color, fun _ => dark (by simp), single⟩
  | dispatchEvents =>
      rw [← Option.some.inj executed]
      exact ⟨mode, color, dark, single⟩

theorem answer_shows {boot after : Boot} (shown : Shows boot) (sameLed : after.led = boot.led)
    (sameMode : modeAt after.position = modeAt boot.position)
    (starting : boot.position ≠ .dispatchEvents) (red : colorAt after.position = .red) :
    Shows after := by
  obtain ⟨mode, color, dark, single⟩ := shown
  have wasRed : colorAt boot.position = .red := by
    revert starting
    cases boot.position <;> simp [colorAt]
  refine ⟨?_, ?_, ?_, ?_⟩
  · rw [sameLed, sameMode, mode]
  · rw [sameLed, color, wasRed, red]
  · rw [sameLed]
    exact fun _ => dark starting
  · rwa [sameLed]

theorem timer_shows {boot : Boot} (shown : Shows boot) :
    Shows { boot with led := boot.led.timerCb } := by
  obtain ⟨mode, color, dark, single⟩ := shown
  obtain ⟨sameMode, sameColor⟩ := timerCb_settings boot.led
  refine ⟨sameMode.trans mode, sameColor.trans color, ?_, timerCb_single single⟩
  intro starting
  apply timerCb_dark _ (dark starting)
  rw [color]
  revert starting
  cases boot.position <;> simp [colorAt]

theorem step_shows {boot after : Boot} {label : BootStep} (shown : Shows boot)
    (executed : boot.step label = some after) : Shows after := by
  cases label with
  | next => exact next_shows shown executed
  | timer =>
      simp only [step, Option.ite_none_right_eq_some, Option.some.injEq] at executed
      obtain ⟨-, rfl⟩ := executed
      exact timer_shows shown
  | readCarrier image transfer =>
      simp only [step, Option.ite_none_right_eq_some, Option.some.injEq] at executed
      obtain ⟨here, rfl⟩ := executed
      exact answer_shows shown rfl (by rw [here]; rfl) (by simp [here]) rfl
  | readMac success =>
      simp only [step, Option.ite_none_right_eq_some, Option.some.injEq] at executed
      obtain ⟨here, rfl⟩ := executed
      cases success with
      | false => exact answer_shows shown rfl (by rw [here]; rfl) (by simp [here]) rfl
      | true => exact answer_shows shown rfl (by rw [here]; rfl) (by simp [here]) rfl
  | mountFs err =>
      simp only [step] at executed
      by_cases first : boot.position = .mount
      · rw [if_pos first, Option.some.injEq] at executed
        subst executed
        by_cases failed : err = 0
        · exact answer_shows shown rfl (by simp [goOn, first, failed, modeAt]) (by simp [first])
            (by simp [goOn, failed, colorAt])
        · exact answer_shows shown rfl (by simp [goOn, first, failed, modeAt]) (by simp [first])
            (by simp [goOn, failed, colorAt])
      · simp only [if_neg first, Option.ite_none_right_eq_some, Option.some.injEq] at executed
        obtain ⟨second, rfl⟩ := executed
        by_cases failed : err = 0
        · exact answer_shows shown rfl (by simp [goOn, second, failed, modeAt]) (by simp [second])
            (by simp [goOn, failed, colorAt])
        · exact answer_shows shown rfl (by simp [goOn, second, failed, modeAt]) (by simp [second])
            (by simp [goOn, failed, colorAt])

theorem reset_shows : Shows reset := ⟨rfl, rfl, fun _ => rfl, .inl rfl⟩

theorem run_history {labels : List BootStep} {boot : Boot}
    (executed : run step reset labels = some boot) :
    History boot.carrierBoardInfo boot.trace boot.position := by
  apply run_invariant _ _ executed
  · intro state label after history stepped
    exact step_history history stepped
  · rfl

theorem run_shows {labels : List BootStep} {boot : Boot}
    (executed : run step reset labels = some boot) : Shows boot := by
  apply run_invariant _ reset_shows executed
  intro state label after shown stepped
  exact step_shows shown stepped

/-- A record that names supported hardware has been read whole. -/
theorem supported_identity {image : CarrierBoardInfo} {transfer : Transfer}
    (supported : Eeprom.isHardwareSupported (idEepromGetCarrierBoardInfo image transfer).2 = true) :
    transfer = .ok ∧ image.Valid ∧ cString image.boardId = bytesOf "hw-xbot-mainboard" ∧
      image.versionMajor = 0 := by
  rw [idEepromGetCarrierBoardInfo_eq] at supported
  split at supported
  next read =>
    exact ⟨read.1, read.2, (isHardwareSupported_iff image).mp supported⟩
  next unread =>
    rw [notAvailable_not_supported] at supported
    exact absurd supported Bool.false_ne_true

theorem Identified.unstarted {info : CarrierBoardInfo} {events : List BootEvent}
    (identified : Identified info events) : BootEvent.platform ∉ events := by
  obtain ⟨image, transfer, rfl, -⟩ := identified
  simp

theorem Mounted.unstarted {info : CarrierBoardInfo} {events : List BootEvent}
    (mounted : Mounted info events) : BootEvent.platform ∉ events := by
  obtain ⟨identified, mounting, rfl, known, mountingNow⟩ := mounted
  have before := known.unstarted
  obtain rfl | ⟨err, -, rfl⟩ := mountingNow
  · simpa using before
  · simpa using before

/-- Where the platform has been initialised, the start has come past the checks of `main`. -/
theorem History.passed {info : CarrierBoardInfo} {trace : List BootEvent}
    {position : BootPosition} (history : History info trace position)
    (initialised : BootEvent.platform ∈ trace) :
    ∃ mounted, Mounted info mounted ∧ Eeprom.isHardwareSupported info = true ∧
      mounted ++ [.restApi, .platform] <+: trace := by
  cases position with
  | initGlobals =>
      rw [show trace = [] from history] at initialised
      exact absurd initialised List.not_mem_nil
  | initStatusLed | setModeOn | setColorRed | getMacAddress =>
      obtain ⟨image, transfer, rfl, -⟩ := history
      simp at initialised
  | macFailed =>
      obtain ⟨image, transfer, rfl⟩ := history
      simp at initialised
  | initNetwork | mount => exact absurd initialised (Identified.unstarted history)
  | format | mountAgain =>
      obtain ⟨identified, err, rfl, known, -⟩ := history
      have before := known.unstarted
      simp [before] at initialised
  | setBlinkSlow | setBlinkSlowRed | mountFailed =>
      obtain ⟨identified, err, again, rfl, known, -⟩ := history
      have before := known.unstarted
      simp [before] at initialised
  | initRestApi => exact absurd initialised (Mounted.unstarted history)
  | isHardwareSupported | setBlinkFast | setBlinkFastRed | unsupported =>
      obtain ⟨mounted, rfl, mounting⟩ := history
      have before := mounting.unstarted
      simp [before] at initialised
  | initPlatform =>
      obtain ⟨mounted, rfl, mounting, -⟩ := history
      have before := mounting.unstarted
      simp [before] at initialised
  | startIo | startServices | setColorGreen | dispatchEvents =>
      obtain ⟨mounted, rfl, mounting, supported⟩ := history
      exact ⟨mounted, mounting, supported, by simp⟩

/-- The flash is formatted once, right after a mount that failed.  Then it is mounted again,
and only if that succeeds does anything else happen. -/
def FormattedOnce (trace : List BootEvent) : Prop :=
  ∃ image transfer err after,
    trace = [.carrier image transfer, .mac true, .mounted err, .formatted] ++ after ∧
      err ≠ 0 ∧ BootEvent.formatted ∉ after ∧
      (after = [] ∨ ∃ again rest, after = .mounted again :: rest ∧ (rest ≠ [] → again = 0))

theorem Identified.formattedOnce {info : CarrierBoardInfo} {identified after : List BootEvent}
    {err : Int} (known : Identified info identified) (failed : err ≠ 0)
    (once : BootEvent.formatted ∉ after)
    (again : after = [] ∨ ∃ again rest, after = .mounted again :: rest ∧ (rest ≠ [] → again = 0)) :
    FormattedOnce (identified ++ [.mounted err, .formatted] ++ after) := by
  obtain ⟨image, transfer, rfl, -⟩ := known
  exact ⟨image, transfer, err, after, by simp, failed, once, again⟩

theorem Mounted.formattedOnce {info : CarrierBoardInfo} {mounted later : List BootEvent}
    (mounting : Mounted info mounted) (once : BootEvent.formatted ∉ later)
    (formatted : BootEvent.formatted ∈ mounted ++ later) : FormattedOnce (mounted ++ later) := by
  obtain ⟨identified, events, rfl, known, rfl | ⟨err, failed, rfl⟩⟩ := mounting
  · obtain ⟨image, transfer, rfl, -⟩ := known
    simp [once] at formatted
  · have whole : FormattedOnce (identified ++ [.mounted err, .formatted] ++ .mounted 0 :: later) :=
      known.formattedOnce failed (by simp [once]) (.inr ⟨0, later, rfl, fun _ => rfl⟩)
    simpa using whole

theorem History.formattedOnce {info : CarrierBoardInfo} {trace : List BootEvent}
    {position : BootPosition} (history : History info trace position)
    (formatted : BootEvent.formatted ∈ trace) : FormattedOnce trace := by
  cases position with
  | initGlobals =>
      rw [show trace = [] from history] at formatted
      exact absurd formatted List.not_mem_nil
  | initStatusLed | setModeOn | setColorRed | getMacAddress =>
      obtain ⟨image, transfer, rfl, -⟩ := history
      simp at formatted
  | macFailed =>
      obtain ⟨image, transfer, rfl⟩ := history
      simp at formatted
  | initNetwork | mount =>
      obtain ⟨image, transfer, rfl, -⟩ := history
      simp at formatted
  | format =>
      obtain ⟨identified, err, rfl, ⟨image, transfer, rfl, -⟩, -⟩ := history
      simp at formatted
  | mountAgain =>
      obtain ⟨identified, err, rfl, known, failed⟩ := history
      simpa using known.formattedOnce failed List.not_mem_nil (.inl rfl)
  | setBlinkSlow | setBlinkSlowRed | mountFailed =>
      obtain ⟨identified, err, again, rfl, known, failed, -⟩ := history
      have whole : FormattedOnce (identified ++ [.mounted err, .formatted] ++ [.mounted again]) :=
        known.formattedOnce failed (by simp) (.inr ⟨again, [], rfl, fun more => absurd rfl more⟩)
      simpa using whole
  | initRestApi =>
      have whole : FormattedOnce (trace ++ []) :=
        Mounted.formattedOnce history List.not_mem_nil (by simpa)
      simpa using whole
  | isHardwareSupported | setBlinkFast | setBlinkFastRed | unsupported =>
      obtain ⟨mounted, rfl, mounting⟩ := history
      exact mounting.formattedOnce (by simp) formatted
  | initPlatform | startIo | startServices | setColorGreen | dispatchEvents =>
      obtain ⟨mounted, rfl, mounting, -⟩ := history
      exact mounting.formattedOnce (by simp) formatted

/-- The platform, and with it the motor drivers, is initialised only after the MAC address
and an intact record of a supported board have been read and the file system has been
mounted; and whatever a start comes to, it formats the flash only after a failed attempt. -/
theorem platform_needs_supported_board {labels : List BootStep} {boot : Boot}
    (executed : run step reset labels = some boot) :
    (BootEvent.platform ∈ boot.trace → ∃ image mounting, image.Valid ∧
      cString image.boardId = bytesOf "hw-xbot-mainboard" ∧ image.versionMajor = 0 ∧
      Mounting mounting ∧
      [.carrier image .ok, .mac true] ++ mounting ++ [.restApi, .platform] <+: boot.trace) ∧
    (BootEvent.formatted ∈ boot.trace → FormattedOnce boot.trace) := by
  refine ⟨?_, (run_history executed).formattedOnce⟩
  intro initialised
  obtain ⟨mounted, ⟨identified, mounting, split, ⟨image, transfer, known, read⟩, mountingNow⟩,
    supported, begins⟩ := (run_history executed).passed initialised
  rw [read] at supported
  obtain ⟨rfl, valid, identity⟩ := supported_identity supported
  rw [split, known] at begins
  exact ⟨image, mounting, valid, identity.1, identity.2, mountingNow, begins⟩

/-- A start that formats the flash, with the LED running along. -/
def formattingBoot : List BootStep :=
  [.readCarrier mainboard .ok, .next, .timer, .next, .next, .timer, .readMac true, .next,
    .mountFs (-5), .next, .timer, .mountFs 0, .next, .next, .next, .next, .timer, .next, .next,
    .timer]

theorem platform_needs_supported_board_formatting :
    ∃ boot, run step reset formattingBoot = some boot ∧ FormattedOnce boot.trace ∧
      ∃ image mounting, image.Valid ∧ cString image.boardId = bytesOf "hw-xbot-mainboard" ∧
        image.versionMajor = 0 ∧ Mounting mounting ∧
        [.carrier image .ok, .mac true] ++ mounting ++ [.restApi, .platform] <+: boot.trace := by
  have reached : (run step reset formattingBoot).map (fun boot =>
      (decide (BootEvent.platform ∈ boot.trace), decide (BootEvent.formatted ∈ boot.trace))) =
      some (true, true) := by decide +kernel
  obtain ⟨boot, executed, values⟩ := Option.map_eq_some_iff.mp reached
  obtain ⟨initialised, formatted⟩ := Prod.mk.inj values
  obtain ⟨needs, once⟩ := platform_needs_supported_board executed
  exact ⟨boot, executed, once (of_decide_eq_true formatted), needs (of_decide_eq_true initialised)⟩

/-- The status LED tells how far the start has come.  Green is lit only when the services
run, never together with red; and from one call of the timer to the next it is red for a
missing MAC address, blinks slowly for a file system that does not mount, fast for an
unsupported board, and is green in a firmware that runs. -/
theorem status_led_tells_boot {labels : List BootStep} {boot : Boot}
    (executed : run step reset labels = some boot) :
    (boot.led.green = false → BootEvent.services ∈ boot.trace ∧ boot.led.red = true) ∧
    ∀ after, boot.step .timer = some after →
      (boot.position = .macFailed → after.led.red = false ∧ after.led.green = true) ∧
      (boot.position = .mountFailed → after.led.green = true ∧
        (after.led.red ≠ boot.led.red ↔ boot.led.blinkState.toNat % 10 = 0)) ∧
      (boot.position = .unsupported →
        after.led.green = true ∧ after.led.red = !boot.led.red) ∧
      (boot.position = .dispatchEvents → after.led.red = true ∧ after.led.green = false) := by
  have history := run_history executed
  obtain ⟨mode, color, dark, single⟩ := run_shows executed
  constructor
  · intro lit
    have running : boot.position = .dispatchEvents := by
      by_contra starting
      rw [dark starting] at lit
      exact Bool.noConfusion lit
    rw [running] at history
    obtain ⟨mounted, traced, -⟩ := history
    exact ⟨by simp [traced], single.resolve_right (by simp [lit])⟩
  · intro after ticked
    simp only [step, Option.ite_none_right_eq_some, Option.some.injEq] at ticked
    obtain ⟨-, rfl⟩ := ticked
    refine ⟨?_, ?_, ?_, ?_⟩
    · intro here
      rw [here] at mode color
      simp [StatusLed.timerCb, modeAt, colorAt, mode, color]
    · intro here
      have unlit := dark (by simp [here])
      rw [here] at mode color
      by_cases turn : boot.led.blinkState.toNat % 10 = 0
      · simp [StatusLed.timerCb, StatusLed.toggle, modeAt, colorAt, mode, color, turn]
      · simp [StatusLed.timerCb, modeAt, mode, turn, unlit]
    · intro here
      rw [here] at mode color
      simp [StatusLed.timerCb, StatusLed.toggle, modeAt, colorAt, mode, color]
    · intro here
      rw [here] at mode color
      simp [StatusLed.timerCb, modeAt, colorAt, mode, color]

theorem status_led_tells_boot_formatting :
    ∃ boot, run step reset formattingBoot = some boot ∧ boot.led.green = false ∧
      BootEvent.services ∈ boot.trace := by
  have reached : (run step reset formattingBoot).map (fun boot => boot.led.green) = some false := by
    decide +kernel
  obtain ⟨boot, executed, lit⟩ := Option.map_eq_some_iff.mp reached
  exact ⟨boot, executed, lit, ((status_led_tells_boot executed).1 lit).1⟩

end Boot

end XBotFirmware.System
