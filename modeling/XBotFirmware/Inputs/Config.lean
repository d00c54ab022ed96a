import XBotFirmware.Inputs.Service
import XBotFirmware.Json.Stream

/-!
Configuring the inputs (`InputService::OnRegisterInputConfigsChanged` and
`InputConfigsJsonCallback`, `GpioInputDriver::OnInputConfigValue`,
`SimulatedInputDriver::OnInputConfigValue`).

A dereference of a null `driver` or `current_input`, and a walk of `AddInput`
that does not end, have no result.
-/

namespace XBotFirmware.Inputs

open XBotFirmware.Emergency XBotFirmware.Json

def palNoline : IoLine := 0

/-- The functions outside the service that the configuration calls:
`GetIoLineByName` of the board and `etl::to_arithmetic<uint16_t>`. -/
structure Externals where
  getIoLineByName : String → IoLine
  toArithmetic : String → Option (BitVec 16)

/-- What one attribute does to `*current_input`, and the reply. -/
structure Edit where
  change : Option (Input → Input)
  reply : Reply

namespace Edit

def assign (change : Input → Input) : Edit := ⟨some change, .accept⟩

def reject (message : String) : Edit := ⟨none, .reject message⟩

def keep : Edit := ⟨none, .accept⟩

end Edit

/-- `GpioInputDriver::OnInputConfigValue`. -/
def gpioOnInputConfigValue (externals : Externals) (jsp : ParserView) (key : String)
    (type : StreamType) : Edit :=
  if key = "line" then
    match jsonExpectType .string "STRING" type with
    | .error message => .reject message
    | .ok () =>
        let line := externals.getIoLineByName jsp.str
        ⟨some fun input => { input with gpioLine := some line },
          if line = palNoline then .reject s!"Unknown GPIO line \"{jsp.str}\"" else .accept⟩
  else if key = "active" then
    match jsonExpectType .string "STRING" type with
    | .error message => .reject message
    | .ok () =>
        if jsp.str = "high" then
          .assign fun input => { input with invert := false }
        else if jsp.str = "low" then
          .assign fun input => { input with invert := true }
        else
          .reject "Valid values for \"active\" are \"high\" and \"low\""
  else
    .reject s!"Unknown attribute \"{key}\""

/-- `InputDriver::OnInputConfigValue`, dispatched on the driver. -/
def onInputConfigValue (externals : Externals) (kind : DriverKind) (jsp : ParserView)
    (key : String) (type : StreamType) : Edit :=
  match kind with
  | .gpio => gpioOnInputConfigValue externals jsp key type
  | .simulated => .reject s!"Unknown attribute \"{key}\""

def addReason (reason : EmergencyReason) (input : Input) : Input :=
  { input with emergencyReason := input.emergencyReason ||| reason.mask }

/-- A value inside the "emergency" object, at stack position 7. -/
def emergencyConfigValue (externals : Externals) (jsp : ParserView) (type : StreamType) : Edit :=
  let parentKey := jsp.name 4
  let key := jsp.name 6
  if parentKey = "emergency" ∧ key = "reason" then
    match jsonExpectType .string "STRING" type with
    | .error message => .reject message
    | .ok () =>
        if jsp.str = "stop" then
          .assign (addReason .stop)
        else if jsp.str = "lift" then
          .assign (addReason .lift)
        else if jsp.str = "collision" then
          .assign (addReason .collision)
        else
          .reject s!"Unknown emergency reason \"{jsp.str}\""
  else if parentKey = "emergency" ∧ key = "delay" then
    match jsonGetNumber externals.toArithmetic jsp type with
    | .error message => .reject message
    | .ok delay => .assign fun input => { input with emergencyDelayMs := delay }
  else if parentKey = "emergency" ∧ key = "latch" then
    match type with
    | .boolFalse => .assign fun input =>
        { input with emergencyReason := input.emergencyReason &&& ~~~EmergencyReason.latch.mask }
    | .boolTrue => .keep
    | _ => .reject "Expected boolean"
  else
    .reject s!"Unknown attribute \"{parentKey}.{key}\""

/-- `input_config_json_data_t`. -/
structure ConfigData where
  driver : Option Nat
  currentInput : Option Nat
  nextIdx : BitVec 8

structure ConfigState where
  service : InputService
  data : ConfigData

namespace ConfigState

/-- Apply an edit to `*current_input`. -/
def edit (state : ConfigState) (edit : Edit) : Option (ConfigState × Reply) :=
  match edit.change with
  | none => some (state, edit.reply)
  | some change =>
      match state.data.currentInput with
      | none => none
      | some position =>
          match state.service.allInputs[position]? with
          | none => none
          | some input =>
              some ({ state with
                service := state.service.setInput position (change input) }, edit.reply)

/-- The driver key, at stack position 1. -/
def selectDriver (state : ConfigState) (name : String) : ConfigState × Reply :=
  if name.utf8ByteSize ≤ 10 then
    match state.service.drivers.findIdx? fun entry => entry.1 = name with
    | none => (state, .reject s!"Unknown input driver \"{name}\"")
    | some found => ({ state with data := { state.data with driver := some found } }, .accept)
  else
    (state, .reject s!"Unknown input driver \"{name}\"")

/-- The start of one input, at stack position 3. -/
def beginInput (state : ConfigState) : Option (ConfigState × Reply) :=
  if state.service.allInputs.length = 31 then
    some (state, .reject "Too many inputs (max. 30)")
  else
    let position := state.service.allInputs.length
    let inputs := state.service.allInputs ++ [Input.create state.data.nextIdx]
    match state.data.driver with
    | none => none
    | some index =>
        match state.service.drivers[index]? with
        | none => none
        | some (name, driver) =>
            match driver.addInput inputs position with
            | none => none
            | some (driver, inputs) =>
                some ({ service := { state.service with
                          allInputs := inputs
                          drivers := state.service.drivers.set index (name, driver) }
                        data := { state.data with
                          currentInput := some position
                          nextIdx := state.data.nextIdx + 1 } }, .accept)

/-- The attributes of one input, at stack position 5. -/
def inputValue (externals : Externals) (state : ConfigState) (event : Event) :
    Option (ConfigState × Reply) :=
  let key := event.jsp.name 4
  if key = "invert" then
    match jsonGetBool event.type with
    | .error message => some (state, .reject message)
    | .ok value => state.edit (.assign fun input => { input with invert := value })
  else if key = "emergency" then
    match jsonExpectTypeOrEnd .object .objectEnd "OBJECT" event.type with
    | .error message => some (state, .reject message)
    | .ok () =>
        if event.type = .object then
          state.edit (.assign fun input =>
            { input with emergencyReason := EmergencyReason.latch.mask })
        else
          some (state, .accept)
  else
    match state.data.driver with
    | none => none
    | some index =>
        match state.service.drivers[index]? with
        | none => none
        | some (_, driver) =>
            state.edit (onInputConfigValue externals driver.kind event.jsp key event.type)

end ConfigState

def inputConfigsJsonCallback (externals : Externals) (event : Event) (state : ConfigState) :
    Option (ConfigState × Reply) :=
  match event.jsp.stackPos with
  | 0 => some (state, .ofExcept (jsonExpectTypeOrEnd .object .objectEnd "OBJECT" event.type))
  | 1 => some (state.selectDriver event.jsp.str)
  | 2 => some (state, .ofExcept (jsonExpectTypeOrEnd .array .arrayEnd "ARRAY" event.type))
  | 3 =>
      match jsonExpectTypeOrEnd .object .objectEnd "OBJECT" event.type with
      | .error message => some (state, .reject message)
      | .ok () =>
          if event.type = .object then
            state.beginInput
          else
            some ({ state with data := { state.data with currentInput := none } }, .accept)
  | 5 => state.inputValue externals event
  | 7 => state.edit (emergencyConfigValue externals event.jsp event.type)
  | _ => some (state, .accept)

/-- The virtual input that `OnRegisterInputConfigsChanged` puts first. -/
def liftMultiple : Input :=
  { Input.create virtualIdx with
    emergencyReason := EmergencyReason.liftMultiple.mask ||| EmergencyReason.latch.mask
    emergencyDelayMs := 10 }

namespace InputService

/-- The state in which `OnRegisterInputConfigsChanged` starts the parser. -/
def resetInputs (service : InputService) : InputService :=
  { service with
    allInputs := [liftMultiple]
    drivers := service.drivers.map fun entry => (entry.1, entry.2.clearInputs)
    numActiveLift := 0
    liftMultipleInput := some 0 }

/-- `OnRegisterInputConfigsChanged`, on the characters that the compressed
register decodes to. -/
def onRegisterInputConfigsChanged {ParserState : Type} (externals : Externals)
    (parser : StreamParser ParserState) (source : List Char) (service : InputService) :
    Option (ProcessResult ConfigState) :=
  processJson parser (inputConfigsJsonCallback externals) source
    ⟨service.resetInputs, ⟨none, none, 0⟩⟩

end InputService

end XBotFirmware.Inputs
