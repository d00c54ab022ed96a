import Mathlib.Data.Nat.Digits.Defs
import XBotFirmware.Library.Fields
import XBotFirmware.Api.MgJsonLookup

set_option autoImplicit false

/-!
The handlers of the REST API (`mongoose/mongoose_impl.c`, `src/api.cpp`).

A request either asks for an object or merges the members of its body into one.  A C
structure is the list of its bytes; its attributes say where each member stands.
-/

namespace XBotFirmware.Api

open XBotFirmware.Platform XBotFirmware.Library Ascii

/-- The arithmetic of doubles, which are words of 64 bits here. -/
structure Doubles where
  mgAtod : List Byte → BitVec 64
  mgDtoa : BitVec 64 → List Byte
  toInt : BitVec 64 → BitVec 32

section Readers

variable (doubles : Doubles) (json path : List Byte)

def mgJsonGetTok : List Byte :=
  match mgJsonGet json path with
  | .ok (offset, length) => (json.drop offset).take length
  | .error _ => []

def mgJsonGetNum : Option (BitVec 64) :=
  match mgJsonGet json path with
  | .ok (offset, length) =>
      let first := json.getD offset 0
      if first = minus ∨ isDigit first = true then
        some (doubles.mgAtod ((json.drop offset).take length))
      else none
  | .error _ => none

def mgJsonGetBool : Option Bool :=
  match mgJsonGet json path with
  | .ok (offset, _) =>
      let first := json.getD offset 0
      if first = 0x74 ∨ first = 0x66 then some (first = 0x74) else none
  | .error _ => none

def hexDigit (c : Byte) : Option Nat :=
  if zero ≤ c ∧ c ≤ nine then some (c - zero).toNat
  else if 0x41 ≤ c ∧ c ≤ 0x46 then some (c - 0x37).toNat
  else if 0x61 ≤ c ∧ c ≤ 0x66 then some (c - 0x57).toNat
  else none

/-- `mg_str_to_num` to the base 16 and into one byte, from the second digit on. -/
def mgStrToNumFrom : Nat → List Byte → Option Byte
  | result, [] => some (BitVec.ofNat 8 result)
  | result, c :: rest =>
      match hexDigit c with
      | none => none
      | some digit =>
          if 0xFF / 16 < result then none
          else if 0xFF - digit < result * 16 then none
          else mgStrToNumFrom (result * 16 + digit) rest

def mgStrToNum (str : List Byte) : Option Byte :=
  if str = [] then none else mgStrToNumFrom 0 str

/-- What `mg_json_unescape` writes to a buffer of `n` bytes, and its result. -/
def mgJsonUnescape : List Byte → Nat → List Byte × Bool
  | _, 0 => ([], false)
  | [], _ + 1 => ([0], true)
  | c :: rest, n + 1 =>
      if c = backslash ∧ 5 ≤ rest.length ∧ rest.headD 0 = 0x75 then
        match mgStrToNum ((rest.drop 1).take 4) with
        | none => ([], false)
        | some byte => ((mgJsonUnescape (rest.drop 5) n).map (byte :: ·) id)
      else if c = backslash ∧ 1 ≤ rest.length then
        if jsonEsc (rest.headD 0) false = 0 then ([], false)
        else ((mgJsonUnescape rest.tail n).map (jsonEsc (rest.headD 0) false :: ·) id)
      else ((mgJsonUnescape rest n).map (c :: ·) id)

/-- `mg_json_get_str2`, with what it writes to the buffer. -/
def mgJsonGetStr2 (len : Nat) : Option (List Byte) :=
  let s := mgJsonGetTok json path
  if 1 < s.length ∧ s.headD 0 = quote then
    some (mgJsonUnescape (s.tail.take (s.length - 2)) len).1
  else none

end Readers

inductive AttributeType where
  | int
  | bool
  | double
  | string
  | other
  deriving DecidableEq, Repr

/-- `struct attribute`.  No attribute has a format of its own. -/
structure Attribute where
  name : List Byte
  type : AttributeType
  offset : Nat
  size : Nat := 0
  deriving DecidableEq, Repr

def Attribute.width (a : Attribute) : Nat :=
  match a.type with
  | .int => 4
  | .bool => 1
  | .double => 8
  | .string => a.size
  | .other => 0

def leBytes (count value : Nat) : List Byte :=
  (List.range count).map fun index => BitVec.ofNat 8 (value >>> (8 * index))

def leNat (bytes : List Byte) : Nat := bytes.foldr (fun byte value => byte.toNat + 256 * value) 0

/-- The path that `mg_snprintf` writes to `jpath`. -/
def jpath (a : Attribute) : List Byte := (memberPath a.name).take 99

section Objects

variable (doubles : Doubles)

/-- What the body makes `handle_object` write at an attribute. -/
def attributeBytes (body : List Byte) (a : Attribute) : Option (List Byte) :=
  match a.type with
  | .int => (mgJsonGetNum doubles body (jpath a)).map fun d => leBytes 4 (doubles.toInt d).toNat
  | .bool => (mgJsonGetBool body (jpath a)).map fun value => [if value then 1 else 0]
  | .double => (mgJsonGetNum doubles body (jpath a)).map fun d => leBytes 8 d.toNat
  | .string => mgJsonGetStr2 body (jpath a) a.size
  | .other => none

/-- The loop of `handle_object` over the attributes. -/
def merge (body : List Byte) (attributes : List Attribute) (data : List Byte) : List Byte :=
  attributes.foldl (change Attribute.offset (attributeBytes doubles body)) data

def mgEscape (c : Byte) : Byte := jsonEsc c true

/-- `qcpy` of a string. -/
def qcpy (s : List Byte) : List Byte :=
  (cString s).flatMap fun c => if mgEscape c ≠ 0 then [backslash, mgEscape c] else [c]

/-- `mg_lld` of an `int`. -/
def mgLld (val : Int) : List Byte :=
  (if val < 0 then [minus] else []) ++
    (((Nat.digits 10 val.natAbs).map fun digit => zero + BitVec.ofNat 8 digit).reverse ++
      if val = 0 then [zero] else [])

/-- The value of an attribute as `print_struct` prints it. -/
def printAttribute (data : List Byte) (a : Attribute) : List Byte :=
  match a.type with
  | .int => mgLld (BitVec.ofNat 32 (leNat (field a.offset 4 data))).toInt
  | .double => doubles.mgDtoa (BitVec.ofNat 64 (leNat (field a.offset 8 data)))
  | .bool => if data.getD a.offset 0 ≠ 0 then wordTrue else wordFalse
  | .string => quote :: (qcpy (data.drop a.offset) ++ [quote])
  | .other => wordNull

/-- `print_struct`; the first argument says whether an attribute is the first one. -/
def printStruct (data : List Byte) : Bool → List Attribute → List Byte
  | _, [] => []
  | first, a :: rest =>
      (if first then [] else [comma]) ++ (quote :: (qcpy a.name ++ (quote :: (colon ::
        (printAttribute doubles data a ++ printStruct data false rest)))))

/-- The body of the reply of `handle_object`. -/
def printObject (attributes : List Attribute) (data : List Byte) : List Byte :=
  openBrace :: (printStruct doubles data true attributes ++ [closeBrace, newline])

end Objects

/-- The handlers in `s_apihandlers`, in their order.  They are all of type `data`. -/
inductive ApiHandler where
  | imu
  | powerServiceSettings
  | state
  deriving DecidableEq, Repr

def doubleAttribute (name : String) (offset : Nat) : Attribute := ⟨bytesOf name, .double, offset, 0⟩

def imuAttributes : List Attribute :=
  [doubleAttribute "gz" 0, doubleAttribute "gy" 8, doubleAttribute "gx" 16,
    doubleAttribute "az" 24, doubleAttribute "ay" 32, doubleAttribute "ax" 40]

def powerServiceSettingsAttributes : List Attribute :=
  [doubleAttribute "critical_volts" 0, doubleAttribute "empty_volts" 8,
    doubleAttribute "full_volts" 16]

def stateAttributes : List Attribute :=
  [⟨bytesOf "ros_online", .bool, 0, 0⟩, doubleAttribute "adapter_current" 8,
    ⟨bytesOf "charger_state", .string, 16, 20⟩, doubleAttribute "adapter_volts" 40,
    doubleAttribute "battery_current" 48, doubleAttribute "battery_volts" 56,
    ⟨bytesOf "battery_level", .int, 64, 0⟩]

namespace ApiHandler

def all : List ApiHandler := [.imu, .powerServiceSettings, .state]

def name : ApiHandler → List Byte
  | .imu => bytesOf "imu"
  | .powerServiceSettings => bytesOf "power_service_settings"
  | .state => bytesOf "state"

def attributes : ApiHandler → List Attribute
  | .imu => imuAttributes
  | .powerServiceSettings => powerServiceSettingsAttributes
  | .state => stateAttributes

/-- The `sizeof` of the structure. -/
def dataSize : ApiHandler → Nat
  | .imu => 48
  | .powerServiceSettings => 24
  | .state => 72

def hasSetter : ApiHandler → Bool
  | .powerServiceSettings => true
  | .imu | .state => false

end ApiHandler

/-- `s_power_service_settings` and `s_device_change_version`. -/
structure Device where
  powerServiceSettings : List Byte
  deviceChangeVersion : BitVec 32
  deriving DecidableEq, Repr

/-- The defaults 12, 12.5 and 16 volts. -/
def Device.initial : Device where
  powerServiceSettings :=
    leBytes 8 0x4028000000000000 ++ (leBytes 8 0x4029000000000000 ++ leBytes 8 0x4030000000000000)
  deviceChangeVersion := 0

/-- What `glue_get_imu` and `glue_get_state` would deliver at a time. -/
structure Samples where
  imu : List Byte
  state : List Byte
  deriving DecidableEq, Repr

def ApiHandler.getter (device : Device) (samples : Samples) : ApiHandler → List Byte
  | .imu => samples.imu
  | .powerServiceSettings => device.powerServiceSettings
  | .state => samples.state

def ApiHandler.setter (device : Device) (data : List Byte) : ApiHandler → Device
  | .powerServiceSettings => { device with powerServiceSettings := data }
  | .imu | .state => device

def getApiHandler (name : List Byte) : Option ApiHandler :=
  if name.length = 0 then none
  else
    ApiHandler.all.find? fun h =>
      h.name.length ≤ name.length && strncmp name h.name h.name.length = 0 &&
        (name.length ≤ h.name.length || name.getD h.name.length 0 = slash)

def findHandler (uri : List Byte) : Option ApiHandler :=
  if uri.length < 6 ∨ strncmp uri (bytesOf "/api/") 5 ≠ 0 then none
  else getApiHandler (uri.drop 5)

/-- The variables of `mg_match`, which is called without captures. -/
structure Matching where
  i : Nat := 0
  j : Nat := 0
  ni : Nat := 0
  nj : Nat := 0

/-- The loop of `mg_match`, for so many rounds at most. -/
def mgMatchLoop (s p : List Byte) : Nat → Matching → Bool
  | 0, _ => false
  | fuel + 1, m =>
      let pi := p.getD m.i 0
      let sj := s.getD m.j 0
      if m.i < p.length ∨ m.j < s.length then
        if m.i < p.length ∧ m.j < s.length ∧ (pi = 0x3F ∨ (pi ≠ 0x2A ∧ pi ≠ 0x23 ∧ sj = pi)) then
          mgMatchLoop s p fuel { m with i := m.i + 1, j := m.j + 1 }
        else if m.i < p.length ∧ (pi = 0x2A ∨ pi = 0x23) then
          mgMatchLoop s p fuel { m with ni := m.i, i := m.i + 1, nj := m.j + 1 }
        else if 0 < m.nj ∧ m.nj ≤ s.length ∧ (p.getD m.ni 0 = 0x23 ∨ sj ≠ slash) then
          mgMatchLoop s p fuel { m with i := m.ni, j := m.nj }
        else false
      else true

/-- `mg_match`.  Each round but those that take a character of both starts later in the text. -/
def mgMatch (s p : List Byte) : Bool := mgMatchLoop s p ((s.length + 2) * (p.length + 2)) {}

inductive Reply where
  | json (body : List Byte)
  | websocket
  | serveDir
  deriving DecidableEq, Repr

section Requests

variable (doubles : Doubles)

/-- `handle_object`.  The samples are those of the two calls of the getter. -/
def handleObject (h : ApiHandler) (body : List Byte) (before after : Samples) (device : Device) :
    Device × Reply :=
  let data := h.getter device before
  if 0 < body.length ∧ 0 < h.dataSize then
    let tmp := merge doubles body h.attributes data
    let device :=
      if data ≠ tmp then { device with deviceChangeVersion := device.deviceChangeVersion + 1 }
      else device
    let device := if h.hasSetter then h.setter device tmp else device
    (device, .json (printObject doubles h.attributes (h.getter device after)))
  else (device, .json (printObject doubles h.attributes data))

structure Request where
  uri : List Byte
  body : List Byte
  before : Samples
  after : Samples
  deriving DecidableEq, Repr

/-- The reply to `/api/heartbeat`. -/
def printVersion (version : BitVec 32) : List Byte :=
  openBrace :: (quote :: (qcpy (bytesOf "version") ++ (quote :: (colon ::
    (mgLld version.toNat ++ [closeBrace, newline])))))

/-- The case `MG_EV_HTTP_MSG` of `http_ev_handler`. -/
def httpEvHandler (request : Request) (device : Device) : Device × Reply :=
  if mgMatch request.uri (bytesOf "/api/ok") then (device, .json (wordTrue ++ [newline]))
  else if mgMatch request.uri (bytesOf "/websocket") then (device, .websocket)
  else if mgMatch request.uri (bytesOf "/api/heartbeat") then
    (device, .json (printVersion device.deviceChangeVersion))
  else
    match findHandler request.uri with
    | some h => handleObject doubles h request.body request.before request.after device
    | none => (device, .serveDir)

end Requests

end XBotFirmware.Api
