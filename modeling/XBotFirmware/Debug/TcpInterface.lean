import XBotFirmware.Library.Run

set_option autoImplicit false

/-!
The debug interface over TCP (`src/debug/debug_tcp_interface.cpp`,
`src/debug/debuggable_driver.cpp`).

The thread accepts one client after another and hands what it reads to the driver.  The
driver answers from a thread of its own, at any time, through the callback that writes to
the current client.
-/

namespace XBotFirmware.Debug

open XBotFirmware.Library

abbrev Byte := BitVec 8

/-- `size_t` and the return type of `read` have the same width. -/
abbrev Size := BitVec 32

/-- `sizeof(input_buffer_)`. -/
def inputBufferSize : Nat := 1024

/-- What one `read` stores at the start of the buffer. -/
structure Chunk where
  bytes : List Byte
  nonempty : 0 < bytes.length
  fits : bytes.length ≤ inputBufferSize

inductive ReadResult where
  | received (chunk : Chunk)
  | closed
  | error

namespace ReadResult

/-- The value that `read` returns. -/
def returned : ReadResult → Int
  | received chunk => chunk.bytes.length
  | closed => 0
  | error => -1

end ReadResult

/-- A call of `RawDataInput` with the part of the buffer that its size covers. -/
structure RawInput where
  data : List Byte
  size : Size
  deriving DecidableEq, Repr

structure DebuggableDriver where
  isRawMode : Bool
  /-- A raw data callback has been set. -/
  rawDataCallback : Bool
  rawDataInputs : List RawInput
  deriving DecidableEq, Repr

namespace DebuggableDriver

def setRawAccessMode (driver : DebuggableDriver) (enabled : Bool) : DebuggableDriver :=
  { driver with isRawMode := enabled }

def rawDataInput (driver : DebuggableDriver) (call : RawInput) : DebuggableDriver :=
  { driver with rawDataInputs := driver.rawDataInputs ++ [call] }

end DebuggableDriver

/-- Where `ThreadFunc` waits. -/
inductive ThreadPosition where
  | opening
  | accepting
  | reading (incoming : Int)
  | returned
  deriving DecidableEq, Repr

inductive SocketOutput where
  | write (socket : Int) (data : List Byte)
  | close (socket : Int)
  deriving DecidableEq, Repr

structure DebugTcpInterface where
  position : ThreadPosition
  currentClientSocket : Int
  inputBuffer : List Byte
  driver : DebuggableDriver
  outbox : List SocketOutput
  deriving DecidableEq, Repr

inductive DebugOp where
  | listen (sockfd bind listen : Int)
  | accept (incoming setsockopt : Int)
  | read (result : ReadResult)
  | rawDataOutput (data : List Byte)

namespace DebugTcpInterface

/-- After `Start`. -/
def start (driver : DebuggableDriver) : DebugTcpInterface where
  position := .opening
  currentClientSocket := -1
  inputBuffer := List.replicate inputBufferSize 0
  driver := { driver with rawDataCallback := true }
  outbox := []

def close (interface : DebugTcpInterface) (socket : Int) : DebugTcpInterface :=
  { interface with outbox := interface.outbox ++ [.close socket] }

def listen (interface : DebugTcpInterface) (sockfd bind listen : Int) : DebugTcpInterface :=
  if sockfd < 0 then
    { interface with position := .returned }
  else if bind < 0 then
    { interface.close sockfd with position := .returned }
  else if listen < 0 then
    { interface.close sockfd with position := .returned }
  else
    { interface with position := .accepting }

def accept (interface : DebugTcpInterface) (incoming setsockopt : Int) : DebugTcpInterface :=
  if incoming < 0 then
    interface
  else if setsockopt < 0 then
    interface.close incoming
  else
    { interface with
      position := .reading incoming
      currentClientSocket := incoming
      driver := interface.driver.setRawAccessMode true }

/-- `read` fills the start of the buffer. -/
def store (interface : DebugTcpInterface) : ReadResult → DebugTcpInterface
  | .received chunk =>
      { interface with
        inputBuffer := chunk.bytes ++ interface.inputBuffer.drop chunk.bytes.length }
  | _ => interface

def rawDataInput (interface : DebugTcpInterface) (size : Size) : DebugTcpInterface :=
  let call := { data := interface.inputBuffer.take size.toNat, size := size }
  { interface with driver := interface.driver.rawDataInput call }

def endSession (interface : DebugTcpInterface) (incoming : Int) : DebugTcpInterface :=
  { interface with
    position := .accepting
    currentClientSocket := -1
    driver := interface.driver.setRawAccessMode false
    outbox := interface.outbox ++ [.close incoming] }

/-- One iteration of the read loop.  The result is converted to `size_t` before it is
compared with zero. -/
def read (interface : DebugTcpInterface) (incoming : Int) (result : ReadResult) :
    DebugTcpInterface :=
  let bytesReceived : Size := BitVec.ofInt 32 result.returned
  if 0 < bytesReceived then
    (interface.store result).rawDataInput bytesReceived
  else
    (interface.store result).endSession incoming

def onRawDriverData (interface : DebugTcpInterface) (data : List Byte) : DebugTcpInterface :=
  if 0 ≤ interface.currentClientSocket then
    { interface with outbox := interface.outbox ++ [.write interface.currentClientSocket data] }
  else
    interface

/-- `RawDataOutput` of the driver. -/
def rawDataOutput (interface : DebugTcpInterface) (data : List Byte) : DebugTcpInterface :=
  if interface.driver.rawDataCallback then interface.onRawDriverData data else interface

def step (interface : DebugTcpInterface) : DebugOp → Option DebugTcpInterface
  | .listen sockfd bind listen =>
      match interface.position with
      | .opening => some (interface.listen sockfd bind listen)
      | _ => none
  | .accept incoming setsockopt =>
      match interface.position with
      | .accepting => some (interface.accept incoming setsockopt)
      | _ => none
  | .read result =>
      match interface.position with
      | .reading incoming => some (interface.read incoming result)
      | _ => none
  | .rawDataOutput data => some (interface.rawDataOutput data)

@[simp]
theorem store_driver (interface : DebugTcpInterface) (result : ReadResult) :
    (interface.store result).driver = interface.driver := by
  cases result <;> rfl

@[simp]
theorem rawDataOutput_position (interface : DebugTcpInterface) (data : List Byte) :
    (interface.rawDataOutput data).position = interface.position := by
  unfold rawDataOutput onRawDriverData
  split_ifs <;> rfl

@[simp]
theorem rawDataOutput_driver (interface : DebugTcpInterface) (data : List Byte) :
    (interface.rawDataOutput data).driver = interface.driver := by
  unfold rawDataOutput onRawDriverData
  split_ifs <;> rfl

end DebugTcpInterface

end XBotFirmware.Debug
