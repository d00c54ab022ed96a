import Mathlib.Algebra.Group.Nat.Defs
import XBotFirmware.Library.Overlay

set_option autoImplicit false

/-!
The W25Q flash chip behind the WSPI bus.

The bus sends 24 address bits.  A page program clears bits and stays inside the
page of its address; both it and a sector erase need the write enable latch, and
keep the chip busy for some reads of the status register.  A busy chip ignores
everything but these.
-/

namespace XBotFirmware.Flash

open XBotFirmware.Library

abbrev Byte := BitVec 8

abbrev Address := BitVec 24

structure Chip where
  memory : Address → Byte
  writeEnabled : Bool
  /-- The number of status reads that will still find the chip busy. -/
  busy : Nat

namespace Chip

/-- The address that the bus sends. -/
def busAddress (addr : BitVec 32) : Address := addr.setWidth 24

def pageCell (address : Address) (number : Nat) : Address :=
  BitVec.ofNat 24 (address.toNat / 256 * 256 + (address.toNat + number) % 256)

/-- The bytes from a number on clear bits in their cells. -/
def programFrom (address : Address) : Nat → List Byte → (Address → Byte) → Address → Byte
  | _, [], memory => memory
  | number, byte :: rest, memory =>
      programFrom address (number + 1) rest fun cell =>
        if cell = pageCell address number then memory cell &&& byte else memory cell

/-- `W25Q_CMD_WRITE_ENABLE`. -/
def writeEnable (chip : Chip) : Chip :=
  if chip.busy = 0 then { chip with writeEnabled := true } else chip

/-- `W25_QUAD_INPUT_PAGE_PROGRAM`, after which the chip is busy for some status reads. -/
def quadInputPageProgram (busy : Nat) (addr : BitVec 32) (data : List Byte) (chip : Chip) : Chip :=
  if chip.busy = 0 ∧ chip.writeEnabled = true then
    ⟨programFrom (busAddress addr) 0 data chip.memory, false, busy⟩
  else chip

/-- `W25Q_CMD_SECTOR_ERASE`. -/
def sectorErase (busy : Nat) (addr : BitVec 32) (chip : Chip) : Chip :=
  if chip.busy = 0 ∧ chip.writeEnabled = true then
    ⟨fun cell =>
      if cell.toNat / 4096 = (busAddress addr).toNat / 4096 then 0xFF else chip.memory cell,
      false, busy⟩
  else chip

/-- `W25Q_CMD_READ_STATUS_REGISTER`: the busy flag and the write enable latch. -/
def readStatusRegister (chip : Chip) : Byte × Chip :=
  ((if chip.busy = 0 then 0 else 0x01) ||| (if chip.writeEnabled then 0x02 else 0),
    { chip with busy := chip.busy - 1 })

/-- `W25Q_CMD_FAST_READ_QUAD_IO`. -/
def fastReadQuadIo (addr : BitVec 32) (n : Nat) (chip : Chip) : List Byte :=
  (List.range n).map fun number => chip.memory (busAddress addr + BitVec.ofNat 24 number)

def Idle (chip : Chip) : Prop := chip.busy = 0

theorem busyFlag_eq_zero_iff (chip : Chip) :
    chip.readStatusRegister.1 &&& 0x01 = 0 ↔ chip.busy = 0 := by
  unfold readStatusRegister
  by_cases idle : chip.busy = 0
  · cases enabled : chip.writeEnabled <;> simp [idle]
  · cases enabled : chip.writeEnabled <;> simp [idle]

theorem pageCell_toNat {address : Address} {number : Nat}
    (inside : address.toNat % 256 + number < 256) :
    (pageCell address number).toNat = address.toNat + number := by
  have bound := address.isLt
  rw [pageCell, BitVec.toNat_ofNat]
  omega

/-- Bytes that do not reach the end of the page are laid over the memory. -/
theorem programFrom_eq_overlay (address : Address) {number : Nat} {data : List Byte}
    (memory : Address → Byte) (inside : address.toNat % 256 + number + data.length ≤ 256) :
    programFrom address number data memory =
      overlay (· &&& ·) BitVec.toNat (address.toNat + number) data memory := by
  induction data generalizing number memory with
  | nil => rw [programFrom, overlay_nil]
  | cons byte rest inductionHypothesis =>
      rw [List.length_cons] at inside
      have here := @pageCell_toNat address number (by omega)
      have same : ∀ cell, cell = pageCell address number ↔ cell.toNat = address.toNat + number := by
        intro cell
        rw [← here, BitVec.toNat_inj]
      rw [programFrom, overlay_cons, inductionHypothesis _ (by omega)]
      simp only [same, Nat.add_assoc]

theorem quadInputPageProgram_eq {chip : Chip} (idle : chip.Idle) (busy : Nat) {addr : BitVec 32}
    {data : List Byte} (low : addr.toNat < 2 ^ 24)
    (inside : addr.toNat % 256 + data.length ≤ 256) :
    chip.writeEnable.quadInputPageProgram busy addr data =
      ⟨overlay (· &&& ·) BitVec.toNat addr.toNat data chip.memory, false, busy⟩ := by
  have address : (busAddress addr).toNat = addr.toNat := by
    rw [busAddress, BitVec.toNat_setWidth, Nat.mod_eq_of_lt low]
  unfold Idle at idle
  rw [writeEnable, if_pos idle, quadInputPageProgram, if_pos ⟨idle, rfl⟩,
    programFrom_eq_overlay _ _ (by rw [address]; omega), address, Nat.add_zero]

theorem sectorErase_eq {chip : Chip} (idle : chip.Idle) (busy : Nat) (addr : BitVec 32) :
    chip.writeEnable.sectorErase busy addr =
      ⟨fun cell =>
        if cell.toNat / 4096 = (busAddress addr).toNat / 4096 then 0xFF else chip.memory cell,
        false, busy⟩ := by
  unfold Idle at idle
  rw [writeEnable, if_pos idle, sectorErase, if_pos ⟨idle, rfl⟩]

end Chip

end XBotFirmware.Flash
