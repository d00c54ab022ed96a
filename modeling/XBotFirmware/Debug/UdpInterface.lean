import XBotFirmware.Debug.TcpInterface

set_option autoImplicit false

/-!
The debug interface over UDP (`src/debug/debug_udp_interface.cpp`).

The thread of the interface and a call of `RawDataOutput` interleave at every access to the
target, which `socket_mutex_` protects.  Calls of `RawDataOutput` exclude each other
through the mutex of the driver, so that one of them at a time is in `OnRawDriverData`.
-/

namespace XBotFirmware.Debug

open XBotFirmware.Library

/-- `sin_addr` and `sin_port` of a client. -/
structure Endpoint where
  ip : BitVec 32
  port : BitVec 16
  deriving DecidableEq, Repr

def Endpoint.unset : Endpoint := ⟨0, 0⟩

/-- What `ThreadFunc` does next; a datagram of some size is in the buffer. -/
inductive Receiver where
  | opening
  | receiving
  | setRawMode (sender : Endpoint) (received : Nat)
  | lock (sender : Endpoint) (received : Nat)
  | writeIp (sender : Endpoint) (received : Nat)
  | writePort (sender : Endpoint) (received : Nat)
  | unlock (sender : Endpoint) (received : Nat)
  | input (received : Nat)
  | returned
  deriving DecidableEq, Repr

/-- What `OnRawDriverData` does next. -/
inductive Output where
  | idle
  | lock (data : List Byte)
  | readIp (data : List Byte)
  | readPort (data : List Byte) (ip : BitVec 32)
  | send (data : List Byte) (target : Endpoint)
  | unlock
  deriving DecidableEq, Repr

def Receiver.inSection : Receiver → Bool
  | .writeIp .. | .writePort .. | .unlock .. => true
  | _ => false

def Receiver.outside : Receiver → Bool
  | .opening | .returned => true
  | _ => false

def Output.inSection : Output → Bool
  | .readIp .. | .readPort .. | .send .. | .unlock => true
  | _ => false

inductive Side where
  | receiver
  | output
  deriving DecidableEq, Repr

structure Sent where
  socket : Int
  target : Endpoint
  data : List Byte
  deriving DecidableEq, Repr

/-- What takes effect in a run: a new target, or an output. -/
inductive UdpEvent where
  | target (sender : Endpoint)
  | output (data : List Byte)
  deriving DecidableEq, Repr

structure DebugUdpInterface where
  receiver : Receiver
  output : Output
  socketMutex : Option Side
  currentClientSocket : Int
  targetIp : BitVec 32
  targetPort : BitVec 16
  inputBuffer : List Byte
  driver : DebuggableDriver
  sent : List Sent
  events : List UdpEvent
  deriving DecidableEq, Repr

inductive UdpStep where
  | openSocket (sockfd bind : Int)
  /-- `recvfrom`, with the datagram that has arrived; without one it has failed. -/
  | receive (arrived : Option (Endpoint × List Byte))
  | receiver
  | rawDataOutput (data : List Byte)
  | output
  deriving DecidableEq, Repr

/-- The sender whose datagram has not taken effect yet. -/
@[simp]
def Receiver.pending : Receiver → List Endpoint
  | .setRawMode sender _ | .lock sender _ | .writeIp sender _ | .writePort sender _
  | .unlock sender _ => [sender]
  | _ => []

/-- The size of the datagram that the driver has not been given yet. -/
@[simp]
def Receiver.stored : Receiver → List Nat
  | .setRawMode _ received | .lock _ received | .writeIp _ received | .writePort _ received
  | .unlock _ received | .input received => [received]
  | _ => []

@[simp]
def Output.pending : Output → List (List Byte)
  | .lock data | .readIp data | .readPort data _ | .send data _ => [data]
  | _ => []

@[simp]
def UdpEvent.data? : UdpEvent → Option (List Byte)
  | .target _ => none
  | .output data => some data

@[simp]
def UdpStep.data? : UdpStep → Option (List Byte)
  | .rawDataOutput data => some data
  | _ => none

namespace DebugUdpInterface

/-- After `Start`. -/
def start (driver : DebuggableDriver) : DebugUdpInterface where
  receiver := .opening
  output := .idle
  socketMutex := none
  currentClientSocket := -1
  targetIp := 0
  targetPort := 0
  inputBuffer := List.replicate inputBufferSize 0
  driver := { driver with rawDataCallback := true }
  sent := []
  events := []

def openSocket (interface : DebugUdpInterface) (sockfd bind : Int) : DebugUdpInterface :=
  if sockfd < 0 then { interface with receiver := .returned }
  else if bind < 0 then { interface with receiver := .returned }
  else { interface with receiver := .receiving, currentClientSocket := sockfd }

/-- The buffer takes what fits but for one byte; an empty datagram is skipped. -/
def receive (interface : DebugUdpInterface) :
    Option (Endpoint × List Byte) → DebugUdpInterface
  | none => interface
  | some (sender, datagram) =>
      let stored := datagram.take (inputBufferSize - 1)
      let filled := { interface with
        inputBuffer := stored ++ interface.inputBuffer.drop stored.length }
      if 0 < stored.length then { filled with receiver := .setRawMode sender stored.length }
      else filled

def stepReceiver (interface : DebugUdpInterface) : Option DebugUdpInterface :=
  match interface.receiver with
  | .opening | .receiving | .returned => none
  | .setRawMode sender received =>
      some { interface with
        receiver := .lock sender received, driver := interface.driver.setRawAccessMode true }
  | .lock sender received =>
      if interface.socketMutex = none then
        some { interface with
          receiver := .writeIp sender received, socketMutex := some .receiver }
      else none
  | .writeIp sender received =>
      some { interface with receiver := .writePort sender received, targetIp := sender.ip }
  | .writePort sender received =>
      some { interface with receiver := .unlock sender received, targetPort := sender.port }
  | .unlock sender received =>
      some { interface with
        receiver := .input received
        socketMutex := none
        events := interface.events ++ [.target sender] }
  | .input received =>
      let call := { data := interface.inputBuffer.take received, size := BitVec.ofNat 32 received }
      some { interface with receiver := .receiving, driver := interface.driver.rawDataInput call }

/-- The test of `OnRawDriverData`. -/
def hasTarget (interface : DebugUdpInterface) : Bool :=
  0 ≤ interface.currentClientSocket && 0 < interface.targetIp && 0 < interface.targetPort

def stepOutput (interface : DebugUdpInterface) : Option DebugUdpInterface :=
  match interface.output with
  | .idle => none
  | .lock data =>
      if interface.socketMutex = none then
        some { interface with output := .readIp data, socketMutex := some .output }
      else none
  | .readIp data => some { interface with output := .readPort data interface.targetIp }
  | .readPort data ip =>
      some { interface with output := .send data ⟨ip, interface.targetPort⟩ }
  | .send data target =>
      some { interface with
        output := .unlock
        sent := if interface.hasTarget
          then interface.sent ++ [⟨interface.currentClientSocket, target, data⟩]
          else interface.sent
        events := interface.events ++ [.output data] }
  | .unlock => some { interface with output := .idle, socketMutex := none }

def step (interface : DebugUdpInterface) : UdpStep → Option DebugUdpInterface
  | .openSocket sockfd bind =>
      if interface.receiver = .opening then some (interface.openSocket sockfd bind) else none
  | .receive arrived =>
      if interface.receiver = .receiving then some (interface.receive arrived) else none
  | .receiver => interface.stepReceiver
  | .rawDataOutput data =>
      if interface.output = .idle ∧ interface.driver.rawDataCallback = true then
        some { interface with output := .lock data }
      else none
  | .output => interface.stepOutput

def outputs (interface : DebugUdpInterface) : List (List Byte) :=
  interface.events.filterMap UdpEvent.data? ++ interface.output.pending

def inputs (interface : DebugUdpInterface) : List RawInput :=
  interface.driver.rawDataInputs ++ interface.receiver.stored.map fun received =>
    ⟨interface.inputBuffer.take received, BitVec.ofNat 32 received⟩

end DebugUdpInterface

end XBotFirmware.Debug
