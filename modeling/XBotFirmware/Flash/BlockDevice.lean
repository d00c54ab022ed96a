import XBotFirmware.Library.Refinement
import XBotFirmware.Flash.Device

set_option autoImplicit false

/-!
The flash as a block device.

`Blocks` is what the filesystem is promised: 4096 blocks of 4096 bytes that share
nothing.  The functions of the filesystem over the driver and the chip do the same,
as long as no page program takes more than a hundred polls.
-/

namespace XBotFirmware.Flash

open XBotFirmware.Library

abbrev Blocks := Fin 4096 → Fin 4096 → Byte

/-- A call of the filesystem that stays inside a block, with the time that the chip
takes for each of its page programs or for its erase. -/
inductive FlashOp where
  | erase (block : Fin 4096) (busy : Nat)
  | write (block : Fin 4096) (off : Nat) (data : List Byte) (some : 1 ≤ data.length)
      (inside : off + data.length ≤ 4096) (busy : Nat → Nat)
  | read (block : Fin 4096) (off size : Nat) (some : 1 ≤ size) (inside : off + size ≤ 4096)

structure FlashResult where
  error : LfsError
  data : List Byte
  deriving DecidableEq, Repr

namespace Blocks

def erase (block : Fin 4096) (blocks : Blocks) : Blocks :=
  fun other => if other = block then fun _ => 0xFF else blocks other

/-- Writing can only clear bits. -/
def write (block : Fin 4096) (off : Nat) (data : List Byte) (blocks : Blocks) : Blocks :=
  fun other =>
    if other = block then overlay (· &&& ·) Fin.val off data (blocks other) else blocks other

def read (block : Fin 4096) (off size : Nat) (inside : off + size ≤ 4096) (blocks : Blocks) :
    List Byte :=
  List.ofFn fun number : Fin size => blocks block ⟨off + number, by omega⟩

def exec (blocks : Blocks) : FlashOp → FlashResult × Blocks
  | .erase block _ => (⟨.ok, []⟩, blocks.erase block)
  | .write block off data _ _ _ => (⟨.ok, []⟩, blocks.write block off data)
  | .read block off size _ inside => (⟨.ok, blocks.read block off size inside⟩, blocks)

end Blocks

namespace FlashOp

/-- Every page program becomes ready within 100 polls. -/
def InTime : FlashOp → Prop
  | .erase _ _ => True
  | .write _ off data _ _ busy =>
      ∀ number, StartsPage off data.length number → busy number < 100
  | .read _ _ _ _ _ => True

end FlashOp

namespace Chip

def exec (chip : Chip) : FlashOp → FlashResult × Chip
  | .erase block busy =>
      let (error, chip) := eraseFlash busy (BitVec.ofNat 32 block) chip
      (⟨error, []⟩, chip)
  | .write block off data _ _ busy =>
      let (error, chip) := writeFlash busy (BitVec.ofNat 32 block) (BitVec.ofNat 32 off) data
        (BitVec.ofNat 32 data.length) chip
      (⟨error, []⟩, chip)
  | .read block off size _ _ =>
      let (error, data) := readFlash (BitVec.ofNat 32 block) (BitVec.ofNat 32 off)
        (BitVec.ofNat 32 size) chip
      (⟨error, data⟩, chip)

def cell (block off : Fin 4096) : Address := BitVec.ofNat 24 (block * 4096 + off)

def blocks (chip : Chip) : Blocks := fun block off => chip.memory (cell block off)

theorem cell_toNat (block off : Fin 4096) : (cell block off).toNat = block * 4096 + off := by
  rw [cell, BitVec.toNat_ofNat]
  omega

theorem flashOffset_toNat (block : Fin 4096) {off : Nat} (inside : off ≤ 4096) :
    (BitVec.ofNat 32 block * blockSize + BitVec.ofNat 32 off).toNat = block * 4096 + off := by
  have size : blockSize.toNat = 4096 := rfl
  rw [BitVec.toNat_add, BitVec.toNat_mul, BitVec.toNat_ofNat, BitVec.toNat_ofNat, size]
  omega

/-- Laying data over the memory from inside a block on changes that block. -/
theorem overlay_blocks {chip final : Chip} {block : Fin 4096} {off : Nat} {data : List Byte}
    (inside : off + data.length ≤ 4096)
    (memory : final.memory =
      overlay (· &&& ·) BitVec.toNat (block * 4096 + off) data chip.memory) :
    final.blocks = chip.blocks.write block off data := by
  funext other place
  unfold blocks Blocks.write
  rw [memory]
  by_cases here : other = block
  · subst here
    rw [if_pos rfl]
    have within := @overlay_comp _ _ _ (· &&& ·) BitVec.toNat Fin.val (cell other)
      (other * 4096) (cell_toNat other) off data chip.memory
    exact congrFun within place
  · rw [if_neg here]
    have apart : other.val ≠ block.val := fun same => here (Fin.ext same)
    rcases Nat.lt_or_gt_of_ne apart with before | after
    · apply overlay_of_lt
      rw [cell_toNat]
      omega
    · apply overlay_of_ge
      rw [cell_toNat]
      omega

theorem startsPage_block (block : Fin 4096) (off n number : Nat) :
    StartsPage (block * 4096 + off) n number ↔ StartsPage off n number := by
  unfold StartsPage
  omega

section Calls

variable {chip : Chip} {block : Fin 4096} {off : Nat} {data : List Byte}

theorem erase_refines (idle : chip.Idle) (busy : Nat) :
    Refines exec Blocks.exec Idle blocks chip (.erase block busy) := by
  have address : (busAddress (BitVec.ofNat 32 block * sectorSize)).toNat = block * 4096 := by
    have size : sectorSize.toNat = 4096 := rfl
    rw [busAddress, BitVec.toNat_setWidth, BitVec.toNat_mul, BitVec.toNat_ofNat, size]
    omega
  have erased : eraseFlash busy (BitVec.ofNat 32 block) chip =
      (.ok, ⟨fun cell => if cell.toNat / 4096 = block then 0xFF else chip.memory cell,
        false, 0⟩) := by
    unfold eraseFlash snorDeviceStartEraseSector
    simp only [sectorErase_eq idle, address, awaitErase_eq,
      Nat.mul_div_cancel _ (by decide : 0 < 4096)]
  refine ⟨?_, ?_, ?_⟩
  · simp only [exec, erased]
    rfl
  · simp only [exec, erased]
    rfl
  · funext other place
    simp only [exec, erased, blocks, Blocks.exec, Blocks.erase, cell_toNat]
    have quotient : (other.val * 4096 + place.val) / 4096 = other.val := by omega
    rw [quotient]
    by_cases here : other = block
    · rw [if_pos here, if_pos (congrArg Fin.val here)]
    · rw [if_neg here, if_neg fun same => here (Fin.ext same)]
      rfl

theorem write_refines (idle : chip.Idle) {busy : Nat → Nat} {some : 1 ≤ data.length}
    {inside : off + data.length ≤ 4096}
    (inTime : ∀ number, StartsPage off data.length number → busy number < 100) :
    Refines exec Blocks.exec Idle blocks chip (.write block off data some inside busy) := by
  have size : (BitVec.ofNat 32 data.length).toNat = data.length := by
    rw [BitVec.toNat_ofNat]
    omega
  have offset := flashOffset_toNat block (by omega : off ≤ 4096)
  obtain ⟨final, programmed, finalIdle, memory⟩ := @snorDeviceProgram_inTime busy
    (BitVec.ofNat 32 block * blockSize + BitVec.ofNat 32 off) (BitVec.ofNat 32 data.length) data
    chip idle size (by omega) (by
      rw [offset, size]
      intro number starts
      exact inTime number ((startsPage_block block off _ number).mp starts))
  rw [offset] at memory
  refine ⟨?_, ?_, ?_⟩
  · simp only [exec, writeFlash, programmed]
    exact finalIdle
  · simp only [exec, writeFlash, programmed]
    rfl
  · simp only [exec, writeFlash, programmed]
    exact overlay_blocks inside memory

theorem read_refines (idle : chip.Idle) {size : Nat} {some : 1 ≤ size}
    {inside : off + size ≤ 4096} :
    Refines exec Blocks.exec Idle blocks chip (.read block off size some inside) := by
  have offset := flashOffset_toNat block (by omega : off ≤ 4096)
  refine ⟨idle, ?_, rfl⟩
  have length : (BitVec.ofNat 32 size).toNat = size := by
    rw [BitVec.toNat_ofNat]
    omega
  simp only [exec, readFlash, snorDeviceRead, length, Blocks.exec, Blocks.read, fastReadQuadIo,
    FlashResult.mk.injEq, true_and]
  apply List.ext_getElem
  · simp
  · intro number bound _
    rw [List.length_map, List.length_range] at bound
    rw [List.getElem_map, List.getElem_range, List.getElem_ofFn, blocks]
    apply congrArg chip.memory
    apply BitVec.eq_of_toNat_eq
    rw [cell_toNat, BitVec.toNat_add, busAddress, BitVec.toNat_setWidth, offset,
      BitVec.toNat_ofNat]
    simp only
    omega

/-- Each call refines the one on blocks. -/
theorem exec_refines (chip : Chip) (op : FlashOp) (idle : chip.Idle) (inTime : op.InTime) :
    Refines exec Blocks.exec Idle blocks chip op := by
  cases op with
  | erase block busy => exact erase_refines idle busy
  | write block off data some inside busy => exact write_refines idle inTime
  | read block off size some inside => exact read_refines idle

/-- A page program that stays busy ends the write, and nothing behind it is written. -/
theorem write_late (idle : chip.Idle) {busy : Nat → Nat} {number : Nat} (some : 1 ≤ data.length)
    (inside : off + data.length ≤ 4096) (starts : StartsPage off data.length number)
    (inTime : ∀ earlier < number, busy earlier < 100) (late : 100 ≤ busy number) :
    (chip.exec (.write block off data some inside busy)).1.error = .io ∧
      (chip.exec (.write block off data some inside busy)).2.blocks =
        chip.blocks.write block off (data.take (256 * (off / 256 + number + 1) - off)) := by
  have size : (BitVec.ofNat 32 data.length).toNat = data.length := by
    rw [BitVec.toNat_ofNat]
    omega
  have offset := flashOffset_toNat block (by omega : off ≤ 4096)
  obtain ⟨failed, programmed, memory⟩ := @snorDeviceProgram_late busy
    (BitVec.ofNat 32 block * blockSize + BitVec.ofNat 32 off) (BitVec.ofNat 32 data.length) data
    chip number idle size (by omega)
    (by rw [offset, size]; exact (startsPage_block block off _ number).mpr starts) inTime late
  rw [offset] at memory
  have written : 256 * ((block * 4096 + off) / 256 + number + 1) - (block * 4096 + off) =
      256 * (off / 256 + number + 1) - off := by omega
  rw [written] at memory
  refine ⟨?_, ?_⟩
  · simp only [exec, writeFlash, programmed]
  · simp only [exec, writeFlash, programmed]
    exact overlay_blocks (by rw [List.length_take]; omega) memory

end Calls

/-- Calls whose page programs are in time do on the chip what they do on the blocks, and
a write with a page program that stays busy fails without touching what follows it. -/
theorem filesystem_refines_blocks {chip : Chip} {ops : List FlashOp} (idle : chip.Idle)
    (inTime : ∀ op ∈ ops, op.InTime) :
    (execAll exec chip ops).2.Idle ∧
      (execAll exec chip ops).1 = (execAll Blocks.exec chip.blocks ops).1 ∧
      (execAll exec chip ops).2.blocks = (execAll Blocks.exec chip.blocks ops).2 ∧
      ∀ block off data some inside busy number, StartsPage off data.length number →
        (∀ earlier < number, busy earlier < 100) → 100 ≤ busy number →
        ((execAll exec chip ops).2.exec (.write block off data some inside busy)).1.error = .io ∧
          ∀ other (place : Fin 4096),
            other ≠ block ∨ place < off ∨ 256 * (off / 256 + number + 1) ≤ place.val →
            ((execAll exec chip ops).2.exec (.write block off data some inside busy)).2.blocks
                other place =
              (execAll Blocks.exec chip.blocks ops).2 other place := by
  have refines := execAll_refines exec_refines idle inTime
  refine ⟨refines.invariant, refines.result, refines.next, ?_⟩
  intro block off data some inside busy number starts earlier late
  obtain ⟨failed, written⟩ :=
    @write_late _ block off data refines.invariant busy number some inside starts earlier late
  refine ⟨failed, ?_⟩
  intro other place outside
  rw [written, refines.next, Blocks.write]
  by_cases here : other = block
  · rw [if_pos here]
    rcases outside with apart | before | behind
    · exact absurd here apart
    · exact overlay_of_lt before
    · apply overlay_of_ge
      rw [List.length_take]
      unfold StartsPage at starts
      omega
  · rw [if_neg here]

def acrossPages (busy : Nat → Nat) : FlashOp :=
  .write 3 250 [1, 2, 3, 4, 5, 6, 7, 8, 9, 10] (by decide) (by decide) busy

theorem filesystem_refines_blocks_acrossPages :
    (execAll exec ⟨fun _ => 0xA5, false, 0⟩
        [.erase 3 500, acrossPages fun _ => 99, .read 3 254 4 (by decide) (by decide)]).1 =
          [⟨.ok, []⟩, ⟨.ok, []⟩, ⟨.ok, [5, 6, 7, 8]⟩] ∧
      ((execAll exec ⟨fun _ => 0xA5, false, 0⟩ [.erase 3 500]).2.exec
        (acrossPages fun _ => 100)).1.error = .io ∧
      ((execAll exec ⟨fun _ => 0xA5, false, 0⟩ [.erase 3 500]).2.exec
        (acrossPages fun _ => 100)).2.blocks 3 256 = 0xFF := by
  obtain ⟨_, results, _⟩ := @filesystem_refines_blocks ⟨fun _ => 0xA5, false, 0⟩
    [.erase 3 500, acrossPages fun _ => 99, .read 3 254 4 (by decide) (by decide)] rfl
    (by simp [FlashOp.InTime, acrossPages])
  obtain ⟨_, _, _, late⟩ := @filesystem_refines_blocks ⟨fun _ => 0xA5, false, 0⟩
    [.erase 3 500] rfl (by simp [FlashOp.InTime])
  obtain ⟨failed, kept⟩ := late 3 250 [1, 2, 3, 4, 5, 6, 7, 8, 9, 10] (by decide) (by decide)
    (fun _ => 100) 0 ⟨by decide, by decide⟩ (by simp) (by decide)
  refine ⟨results.trans (by decide +kernel), failed, ?_⟩
  exact (kept 3 256 (.inr (.inr (by decide)))).trans (by decide +kernel)

end Chip

end XBotFirmware.Flash
