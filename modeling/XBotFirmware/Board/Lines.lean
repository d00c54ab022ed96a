import XBotFirmware.Platform.CString
import XBotFirmware.Inputs.Config

set_option autoImplicit false

/-!
The lines of the board by name (`boards/XCORE/board_utils.cpp`).

The table of the firmware holds no names, only their checksums.
-/

namespace XBotFirmware.Board

open XBotFirmware.Platform XBotFirmware.Inputs XBotFirmware.Json

/-- Shift one bit out of the register of the CRC with polynomial `0x1021`. -/
def crcShift (register : BitVec 16) : BitVec 16 :=
  if register.msb then (register <<< 1) ^^^ 0x1021 else register <<< 1

def crcShifts : Nat → BitVec 16 → BitVec 16
  | 0, register => register
  | count + 1, register => crcShifts count (crcShift register)

def crcByte (register : BitVec 16) (byte : Byte) : BitVec 16 :=
  crcShifts 8 (register ^^^ (byte.setWidth 16 <<< 8))

/-- `etl::crc16_genibus`: bits in transmission order, initial value and final xor `0xFFFF`. -/
def crc16Genibus (bytes : List Byte) : BitVec 16 := bytes.foldl crcByte 0xFFFF ^^^ 0xFFFF

-- The check value of the parameter set.
example : crc16Genibus [0x31, 0x32, 0x33, 0x34, 0x35, 0x36, 0x37, 0x38, 0x39] = 0xD64E := by
  decide +kernel

def crc16 (str : List Byte) : BitVec 16 := crc16Genibus (cString str)

structure LineParams where
  crc : BitVec 16
  port : BitVec 4
  pad : BitVec 4
  deriving DecidableEq, Repr

/-- `GPIOA_BASE` to `GPIOH_BASE`. -/
def ports : List (BitVec 32) :=
  [0x58020000, 0x58020400, 0x58020800, 0x58020C00, 0x58021000, 0x58021400, 0x58021800, 0x58021C00]

def portIdx (gpio : Char) : BitVec 4 := BitVec.ofNat 4 (gpio.toNat - 'A'.toNat)

def palLine (port : BitVec 32) (pad : BitVec 4) : IoLine := port ||| pad.setWidth 32

/-- An entry of `lines` as the source writes it. -/
structure LineEntry where
  name : String
  gpio : Char
  pad : BitVec 4
  deriving DecidableEq, Repr

namespace LineEntry

def params (entry : LineEntry) : LineParams :=
  ⟨crc16 (bytesOf entry.name), portIdx entry.gpio, entry.pad⟩

def line (entry : LineEntry) : IoLine :=
  palLine (ports.getD (portIdx entry.gpio).toNat 0) entry.pad

end LineEntry

@[irreducible]
def lineEntries : List LineEntry :=
  [⟨"AGPIO0", 'A', 0⟩, ⟨"RMII_REF_CLK", 'A', 1⟩, ⟨"RMII_MDIO", 'A', 2⟩, ⟨"AGPIO1", 'A', 3⟩,
    ⟨"AGPIO2", 'A', 4⟩, ⟨"SPI1_SCK", 'A', 5⟩, ⟨"AGPIO3", 'A', 6⟩, ⟨"RMII_CRS_DV", 'A', 7⟩,
    ⟨"UART7_RX", 'A', 8⟩, ⟨"UART1_TX", 'A', 9⟩, ⟨"UART1_RX", 'A', 10⟩, ⟨"UART4_RX", 'A', 11⟩,
    ⟨"UART4_TX", 'A', 12⟩, ⟨"SWDIO", 'A', 13⟩, ⟨"SWCLK", 'A', 14⟩, ⟨"I2S6_WS", 'A', 15⟩,
    ⟨"AGPIO4", 'B', 0⟩, ⟨"AGPIO5", 'B', 1⟩, ⟨"SPI3_MOSI", 'B', 2⟩, ⟨"SPI3_SCK", 'B', 3⟩,
    ⟨"SPI3_MISO", 'B', 4⟩, ⟨"I2S6_SDO", 'B', 5⟩, ⟨"I2C1_SCL", 'B', 6⟩, ⟨"I2C1_SDA", 'B', 7⟩,
    ⟨"FDCAN1_RX", 'B', 8⟩, ⟨"FDCAN1_TX", 'B', 9⟩, ⟨"I2C2_SCL", 'B', 10⟩, ⟨"I2C2_SDA", 'B', 11⟩,
    ⟨"RMII_TXD0", 'B', 12⟩, ⟨"OCTOSPI_IO2", 'B', 13⟩, ⟨"SPI2_MISO", 'B', 14⟩,
    ⟨"SPI2_MOSI", 'B', 15⟩, ⟨"RMII_MDC", 'C', 1⟩, ⟨"RMII_RXD0", 'C', 4⟩, ⟨"RMII_RXD1", 'C', 5⟩,
    ⟨"UART6_TX", 'C', 6⟩, ⟨"UART6_RX", 'C', 7⟩, ⟨"HIGH_LEVEL_RUN_PG", 'C', 13⟩,
    ⟨"HIGH_LEVEL_GLOBAL_EN", 'C', 14⟩, ⟨"IMU_CS", 'C', 15⟩, ⟨"SPI2_SCK", 'D', 3⟩,
    ⟨"GPIO0", 'D', 4⟩, ⟨"UART2_TX", 'D', 5⟩, ⟨"UART2_RX", 'D', 6⟩, ⟨"SPI1_MOSI", 'D', 7⟩,
    ⟨"GPIO8", 'D', 8⟩, ⟨"GPIO15", 'D', 9⟩, ⟨"GPIO10", 'D', 10⟩, ⟨"GPIO1", 'D', 11⟩,
    ⟨"I2C4_SCL", 'D', 12⟩, ⟨"I2C4_SDA", 'D', 13⟩, ⟨"IMU_INTERRUPT", 'D', 15⟩,
    ⟨"UART8_RX", 'E', 0⟩, ⟨"UART8_TX", 'E', 1⟩, ⟨"UART10_RX", 'E', 2⟩, ⟨"UART10_TX", 'E', 3⟩,
    ⟨"GPIO2", 'E', 4⟩, ⟨"GPIO3", 'E', 5⟩, ⟨"GPIO4", 'E', 6⟩, ⟨"GPIO21", 'E', 7⟩,
    ⟨"GPIO22", 'E', 8⟩, ⟨"GPIO23", 'E', 9⟩, ⟨"GPIO9", 'E', 10⟩, ⟨"GPIO20", 'E', 11⟩,
    ⟨"GPIO19", 'E', 12⟩, ⟨"GPIO18", 'E', 13⟩, ⟨"GPIO17", 'E', 14⟩, ⟨"GPIO16", 'E', 15⟩,
    ⟨"HEARTBEAT_LED_RED", 'F', 0⟩, ⟨"HEARTBEAT_LED_GREEN", 'F', 1⟩,
    ⟨"HEARTBEAT_LED_BLUE", 'F', 2⟩, ⟨"RESET_PHY", 'F', 3⟩, ⟨"OCTOSPI_IO3", 'F', 6⟩,
    ⟨"UART7_TX", 'F', 7⟩, ⟨"OCTOSPI_IO0", 'F', 8⟩, ⟨"OCTOSPI_IO1", 'F', 9⟩,
    ⟨"OCTOSPI_CLK", 'F', 10⟩, ⟨"STATUS_LED_RED", 'F', 11⟩, ⟨"STATUS_LED_GREEN", 'F', 12⟩,
    ⟨"STATUS_LED", 'F', 12⟩, ⟨"STATUS_LED_BLUE", 'F', 13⟩, ⟨"GPIO14", 'G', 2⟩, ⟨"GPIO5", 'G', 3⟩,
    ⟨"GPIO13", 'G', 4⟩, ⟨"GPIO12", 'G', 5⟩, ⟨"OCTOSPI_NCS", 'G', 6⟩, ⟨"GPIO6", 'G', 7⟩,
    ⟨"GPIO11", 'G', 8⟩, ⟨"SPI1_MISO", 'G', 9⟩, ⟨"GPIO7", 'G', 10⟩, ⟨"RMII_TX_EN", 'G', 11⟩,
    ⟨"I2S6_SDI", 'G', 12⟩, ⟨"I2S6_CK", 'G', 13⟩, ⟨"RMII_TXD1", 'G', 14⟩, ⟨"OSC_IN", 'H', 0⟩,
    ⟨"OSC_OUT", 'H', 1⟩]

def lines : List LineParams := lineEntries.map LineEntry.params

def getIoLineByName (name : List Byte) : IoLine :=
  match lines.find? (·.crc = crc16 name) with
  | some line => palLine (ports.getD line.port.toNat 0) line.pad
  | none => palNoline

/-- The functions the configuration calls, with the lookup of this board. -/
def boardExternals (toArithmetic : String → Option (BitVec 16)) : Externals where
  getIoLineByName name := getIoLineByName (bytesOf name)
  toArithmetic := toArithmetic

/-- The assertion behind the table: the checksums of its names are different. -/
theorem lines_crc_nodup : (lines.map LineParams.crc).Nodup := by
  decide +kernel

theorem find?_of_nodup {Item Key : Type} [DecidableEq Key] {key : Item → Key} {items : List Item}
    (distinct : (items.map key).Nodup) {item : Item} (membership : item ∈ items) :
    items.find? (key · = key item) = some item := by
  induction items with
  | nil => cases membership
  | cons head rest inductionHypothesis =>
      obtain ⟨fresh, distinct⟩ := List.nodup_cons.mp distinct
      rcases List.mem_cons.mp membership with rfl | later
      · simp
      · have other : key head ≠ key item := fun same =>
          fresh (same ▸ List.mem_map_of_mem later)
        rw [List.find?_cons_of_neg (by simpa using other)]
        exact inductionHypothesis distinct later

theorem getIoLineByName_of_entry {name : List Byte} {entry : LineEntry}
    (membership : entry ∈ lineEntries) (same : crc16 name = crc16 (bytesOf entry.name)) :
    getIoLineByName name = entry.line := by
  have found : lines.find? (·.crc = crc16 name) = some entry.params := by
    rw [same]
    exact find?_of_nodup lines_crc_nodup (List.mem_map_of_mem membership)
  rw [getIoLineByName, found]
  rfl

theorem getIoLineByName_of_none {name : List Byte}
    (different : ∀ entry ∈ lineEntries, crc16 name ≠ crc16 (bytesOf entry.name)) :
    getIoLineByName name = palNoline := by
  have found : lines.find? (·.crc = crc16 name) = none := by
    rw [List.find?_eq_none]
    intro line membership
    obtain ⟨entry, listed, rfl⟩ := List.mem_map.mp membership
    intro matched
    exact different entry listed (of_decide_eq_true matched).symm
  rw [getIoLineByName, found]

theorem line_ne_palNoline : ∀ entry ∈ lineEntries, entry.line ≠ palNoline := by
  decide +kernel

def Known (name : List Byte) : Prop :=
  ∃ entry ∈ lineEntries, cString name = bytesOf entry.name

theorem crc16_of_cString_eq {name other : List Byte} (same : cString name = cString other) :
    crc16 name = crc16 other := by
  rw [crc16, crc16, same]

theorem crc16_of_named {name : List Byte} {entry : LineEntry}
    (named : cString name = bytesOf entry.name) :
    crc16 name = crc16 (bytesOf entry.name) := by
  apply crc16_of_cString_eq
  rw [← named, cString_cString]

/-- A name resolves exactly when it is in the table, then to the line of its entry, and as
a `line` of the configuration it is refused otherwise. -/
structure OnlyKnownResolves (name : List Byte) : Prop where
  resolved : getIoLineByName name ≠ palNoline ↔ Known name
  line : ∀ entry ∈ lineEntries, cString name = bytesOf entry.name →
    getIoLineByName name = entry.line
  refused : ¬Known name → ∀ toArithmetic type, ∀ jsp : ParserView,
    cString (bytesOf jsp.str) = cString name →
    ∃ message, (gpioOnInputConfigValue (boardExternals toArithmetic) jsp "line" type).reply =
      .reject message

/-- An attribute `line` that does not resolve is refused, whatever its type. -/
theorem gpioOnInputConfigValue_refuses {externals : Externals} {jsp : ParserView}
    (unresolved : externals.getIoLineByName jsp.str = palNoline) (type : StreamType) :
    ∃ message, (gpioOnInputConfigValue externals jsp "line" type).reply = .reject message := by
  rw [gpioOnInputConfigValue, if_pos rfl]
  cases jsonExpectType .string "STRING" type with
  | error message => exact ⟨message, rfl⟩
  | ok => exact ⟨_, if_pos unresolved⟩

/-- Unknown names are refused as long as their checksum is that of no name in the table. -/
theorem only_known_resolves_iff (name : List Byte) :
    OnlyKnownResolves name ↔
      Known name ∨ ∀ entry ∈ lineEntries, crc16 name ≠ crc16 (bytesOf entry.name) := by
  constructor
  · intro only
    by_cases known : Known name
    · exact .inl known
    · right
      intro entry membership same
      apply known
      rw [← only.resolved, getIoLineByName_of_entry membership same]
      exact line_ne_palNoline entry membership
  · intro condition
    have line : ∀ entry ∈ lineEntries, cString name = bytesOf entry.name →
        getIoLineByName name = entry.line :=
      fun entry membership named => getIoLineByName_of_entry membership (crc16_of_named named)
    have unknown : ¬Known name → getIoLineByName name = palNoline :=
      fun unknown => getIoLineByName_of_none (condition.resolve_left unknown)
    refine ⟨⟨fun resolved => not_imp_comm.mp unknown resolved, ?_⟩, line, ?_⟩
    · rintro ⟨entry, membership, named⟩
      rw [line entry membership named]
      exact line_ne_palNoline entry membership
    · intro notKnown toArithmetic type jsp same
      apply gpioOnInputConfigValue_refuses
      have lookup : getIoLineByName (bytesOf jsp.str) = getIoLineByName name := by
        rw [getIoLineByName, getIoLineByName, crc16_of_cString_eq same]
      exact lookup.trans (unknown notKnown)

/-- `GPIOA2` is no line of the board, but has the checksum of `UART4_TX`. -/
theorem gpioA2_resolves :
    ¬Known (bytesOf "GPIOA2") ∧
      getIoLineByName (bytesOf "GPIOA2") = LineEntry.line ⟨"UART4_TX", 'A', 12⟩ ∧
      (gpioOnInputConfigValue (boardExternals fun _ => none) ⟨0, "GPIOA2", "", fun _ => ""⟩
        "line" .string).reply = .accept ∧
      ¬OnlyKnownResolves (bytesOf "GPIOA2") := by
  have unknown : ¬Known (bytesOf "GPIOA2") := by
    unfold Known
    decide +kernel
  have line : getIoLineByName (bytesOf "GPIOA2") = LineEntry.line ⟨"UART4_TX", 'A', 12⟩ :=
    getIoLineByName_of_entry (by decide +kernel) (by decide +kernel)
  have found : getIoLineByName (bytesOf "GPIOA2") ≠ palNoline := by
    rw [line]
    decide
  exact ⟨unknown, line, if_neg found, fun only => unknown (only.resolved.mp found)⟩

end XBotFirmware.Board
