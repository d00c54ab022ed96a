import XBotFirmware.Flash.Chip

set_option autoImplicit false

/-!
The flash driver of the board (`hal_flash_device.c`) and the block device
functions of the filesystem over it (`filesystem.cpp`).

How long each page program and each erase keeps the chip busy is given with the
call.
-/

namespace XBotFirmware.Flash

open XBotFirmware.Library

/-- `flash_error_t`. -/
inductive FlashError where
  | noError
  | busyErasing
  | errorProgram
  deriving DecidableEq, Repr

inductive LfsError where
  | ok
  | io
  deriving DecidableEq, Repr

def pageMask : BitVec 32 := 256 - 1

/-- With `W25Q_USE_SUB_SECTORS`. -/
def sectorSize : BitVec 32 := 0x00001000

def w25qFlagsBusy : Byte := 0x01

/-- The loop of `w25q_poll_status` with some rounds left. -/
def pollStatus : Nat → Chip → FlashError × Chip
  | 0, chip => (.errorProgram, chip)
  | timeout + 1, chip =>
      let (status, chip) := chip.readStatusRegister
      if status &&& w25qFlagsBusy = 0 then (.noError, chip) else pollStatus timeout chip

def w25qPollStatus (chip : Chip) : FlashError × Chip := pollStatus 100 chip

def snorDeviceRead (offset n : BitVec 32) (chip : Chip) : FlashError × List Byte :=
  (.noError, chip.fastReadQuadIo offset n.toNat)

/-- The size of the next page program: up to the end of the page, and no more than is
left. -/
def programChunk (offset n : BitVec 32) : BitVec 32 :=
  let chunk := ((offset ||| pageMask) + 1) - offset
  if n < chunk then n else chunk

theorem or_pageMask (offset : Nat) : offset ||| 255 = offset / 256 * 256 + 255 := by
  have low : ∀ rest < 256, rest ||| 255 = 255 := by decide +kernel
  have split : offset = 2 ^ 8 * (offset / 256) ||| offset % 256 := by
    rw [← Nat.two_pow_add_eq_or_of_lt (Nat.mod_lt _ (by decide))]
    exact (Nat.div_add_mod offset 256).symm
  calc offset ||| 255
      = 2 ^ 8 * (offset / 256) ||| (offset % 256 ||| 255) := by
        rw [← Nat.or_assoc, ← split]
    _ = 2 ^ 8 * (offset / 256) ||| 255 := by rw [low _ (Nat.mod_lt _ (by decide))]
    _ = 2 ^ 8 * (offset / 256) + 255 := by
        rw [Nat.two_pow_add_eq_or_of_lt (by decide)]
    _ = offset / 256 * 256 + 255 := by omega

theorem programChunk_toNat (offset n : BitVec 32) :
    (programChunk offset n).toNat = min (256 - offset.toNat % 256) n.toNat := by
  have bound := offset.isLt
  have rest : (((offset ||| pageMask) + 1) - offset).toNat = 256 - offset.toNat % 256 := by
    have mask : (offset ||| pageMask).toNat = offset.toNat / 256 * 256 + 255 :=
      or_pageMask offset.toNat
    rw [BitVec.toNat_sub, BitVec.toNat_add, mask, show (1 : BitVec 32).toNat = 1 from rfl]
    omega
  unfold programChunk
  simp only [BitVec.lt_def, rest]
  split
  next less => omega
  next notLess =>
    rw [rest]
    omega

theorem programChunk_pos {offset n : BitVec 32} (positive : n > 0) :
    0 < (programChunk offset n).toNat := by
  have left : 0 < n.toNat := positive
  rw [programChunk_toNat]
  omega

/-- `n` bytes are written from `offset` on; the page program with a number keeps the
chip busy for `busy` of that number. -/
def snorDeviceProgram (busy : Nat → Nat) (offset n : BitVec 32) (pp : List Byte) (chip : Chip) :
    FlashError × Chip :=
  if _ : n > 0 then
    let chunk := programChunk offset n
    let chip := chip.writeEnable
    let chip := chip.quadInputPageProgram (busy 0) offset (pp.take chunk.toNat)
    match w25qPollStatus chip with
    | (.noError, chip) =>
        snorDeviceProgram (fun number => busy (number + 1)) (offset + chunk) (n - chunk)
          (pp.drop chunk.toNat) chip
    | (err, chip) => (err, chip)
  else (.noError, chip)
termination_by n.toNat
decreasing_by
  have some := @programChunk_pos offset n (by assumption)
  have chunk := programChunk_toNat offset n
  rw [BitVec.toNat_sub_of_le (BitVec.le_def.mpr (by omega))]
  omega

def snorDeviceStartEraseSector (busy : Nat) (sector : BitVec 32) (chip : Chip) :
    FlashError × Chip :=
  let offset := sector * sectorSize
  let chip := chip.writeEnable
  let chip := chip.sectorErase busy offset
  (.noError, chip)

def snorDeviceQueryErase (chip : Chip) : FlashError × Chip :=
  let (status, chip) := chip.readStatusRegister
  if status &&& w25qFlagsBusy ≠ 0 then (.busyErasing, chip) else (.noError, chip)

theorem snorDeviceQueryErase_eq (chip : Chip) :
    snorDeviceQueryErase chip =
      (if chip.busy = 0 then .noError else .busyErasing, { chip with busy := chip.busy - 1 }) := by
  unfold snorDeviceQueryErase w25qFlagsBusy
  have flag := chip.busyFlag_eq_zero_iff
  by_cases idle : chip.busy = 0
  · rw [if_pos idle]
    simp only [flag.mpr idle, ne_eq, not_true_eq_false, if_false]
    rfl
  · rw [if_neg idle]
    simp only [ne_eq, mt flag.mp idle, not_false_eq_true, if_true]
    rfl

/-- `cfg.block_size`. -/
def blockSize : BitVec 32 := 4096

def readFlash (block off size : BitVec 32) (chip : Chip) : LfsError × List Byte :=
  match snorDeviceRead (block * blockSize + off) size chip with
  | (.noError, data) => (.ok, data)
  | (_, data) => (.io, data)

def writeFlash (busy : Nat → Nat) (block off : BitVec 32) (buffer : List Byte) (size : BitVec 32)
    (chip : Chip) : LfsError × Chip :=
  match snorDeviceProgram busy (block * blockSize + off) size buffer chip with
  | (.noError, chip) => (.ok, chip)
  | (_, chip) => (.io, chip)

/-- The loop of `erase_flash`: ask until the erase has ended. -/
def awaitErase (chip : Chip) : Chip :=
  let asked := snorDeviceQueryErase chip
  if _ : asked.1 = .noError then asked.2 else awaitErase asked.2
termination_by chip.busy
decreasing_by
  have ended : ¬asked.1 = .noError := by assumption
  rw [show asked = _ from snorDeviceQueryErase_eq chip] at ended
  rw [snorDeviceQueryErase_eq]
  have active : chip.busy ≠ 0 := fun idle => ended (if_pos idle)
  exact Nat.sub_lt (Nat.pos_of_ne_zero active) Nat.one_pos

def eraseFlash (busy : Nat) (block : BitVec 32) (chip : Chip) : LfsError × Chip :=
  match snorDeviceStartEraseSector busy block chip with
  | (.noError, chip) => (.ok, awaitErase chip)
  | (_, chip) => (.io, chip)

/-- The poll ends with the chip ready if it is in time, else with an error. -/
theorem pollStatus_eq (timeout : Nat) (chip : Chip) :
    pollStatus timeout chip =
      (if chip.busy < timeout then .noError else .errorProgram,
        { chip with busy := chip.busy - timeout }) := by
  induction timeout generalizing chip with
  | zero => rfl
  | succ timeout inductionHypothesis =>
      have flag := chip.busyFlag_eq_zero_iff
      unfold pollStatus w25qFlagsBusy
      by_cases idle : chip.busy = 0
      · simp only [flag.mpr idle, if_true]
        simp [Chip.readStatusRegister, idle]
      · simp only [mt flag.mp idle, if_false, inductionHypothesis]
        have rounds : chip.busy - 1 < timeout ↔ chip.busy < timeout + 1 := by omega
        simp only [Chip.readStatusRegister, rounds, Nat.sub_sub, Nat.add_comm 1]

theorem awaitErase_eq (chip : Chip) : awaitErase chip = { chip with busy := 0 } := by
  induction remaining : chip.busy generalizing chip with
  | zero =>
      unfold awaitErase
      simp [snorDeviceQueryErase_eq, remaining]
  | succ busy inductionHypothesis =>
      unfold awaitErase
      simp only [snorDeviceQueryErase_eq, remaining]
      rw [inductionHypothesis _ rfl]
      rfl

def StartsPage (offset n number : Nat) : Prop :=
  0 < n ∧ 256 * (offset / 256 + number) < offset + n

section Program

variable {busy : Nat → Nat} {offset n : BitVec 32} {pp : List Byte} {chip : Chip}

theorem snorDeviceProgram_step (idle : chip.Idle) (positive : n > 0)
    (low : offset.toNat + n.toNat ≤ 2 ^ 24) :
    snorDeviceProgram busy offset n pp chip =
      let chunk := programChunk offset n
      let memory := overlay (· &&& ·) BitVec.toNat offset.toNat (pp.take chunk.toNat) chip.memory
      if busy 0 < 100 then
        snorDeviceProgram (fun number => busy (number + 1)) (offset + chunk) (n - chunk)
          (pp.drop chunk.toNat) ⟨memory, false, 0⟩
      else (.errorProgram, ⟨memory, false, busy 0 - 100⟩) := by
  have left : 0 < n.toNat := positive
  have chunk := programChunk_toNat offset n
  rw [snorDeviceProgram, dif_pos positive]
  simp only
  rw [Chip.quadInputPageProgram_eq idle (busy 0) (by omega)
    (by rw [List.length_take]; omega), w25qPollStatus, pollStatus_eq]
  by_cases inTime : busy 0 < 100
  · rw [if_pos inTime, if_pos inTime, Nat.sub_eq_zero_of_le (Nat.le_of_lt inTime)]
  · rw [if_neg inTime, if_neg inTime]

theorem programChunk_rest (low : offset.toNat + n.toNat ≤ 2 ^ 24) :
    (offset + programChunk offset n).toNat = offset.toNat + (programChunk offset n).toNat ∧
      (n - programChunk offset n).toNat = n.toNat - (programChunk offset n).toNat := by
  have chunk := programChunk_toNat offset n
  constructor
  · rw [BitVec.toNat_add, Nat.mod_eq_of_lt (by omega)]
  · exact BitVec.toNat_sub_of_le (BitVec.le_def.mpr (by omega))

theorem programChunk_lengths (length : n.toNat = pp.length) :
    (pp.take (programChunk offset n).toNat).length = (programChunk offset n).toNat ∧
      (n - programChunk offset n).toNat = (pp.drop (programChunk offset n).toNat).length := by
  have chunk := programChunk_toNat offset n
  constructor
  · rw [List.length_take]
    omega
  · rw [List.length_drop, BitVec.toNat_sub_of_le (BitVec.le_def.mpr (by omega)), length]

theorem startsPage_rest (low : offset.toNat + n.toNat ≤ 2 ^ 24) (number : Nat) :
    StartsPage (offset + programChunk offset n).toNat (n - programChunk offset n).toNat number ↔
      StartsPage offset.toNat n.toNat (number + 1) := by
  have chunk := programChunk_toNat offset n
  obtain ⟨nextOffset, nextN⟩ := programChunk_rest low
  unfold StartsPage
  rw [nextOffset, nextN]
  rcases Nat.le_total n.toNat (256 - offset.toNat % 256) with last | more
  · omega
  · have whole : (offset.toNat + (programChunk offset n).toNat) / 256 =
        offset.toNat / 256 + 1 := by omega
    rw [whole]
    omega

/-- If no page program takes too long, the whole buffer is laid over the memory. -/
theorem snorDeviceProgram_inTime (idle : chip.Idle) (length : n.toNat = pp.length)
    (low : offset.toNat + n.toNat ≤ 2 ^ 24)
    (inTime : ∀ number, StartsPage offset.toNat n.toNat number → busy number < 100) :
    ∃ final, snorDeviceProgram busy offset n pp chip = (.noError, final) ∧ final.Idle ∧
      final.memory = overlay (· &&& ·) BitVec.toNat offset.toNat pp chip.memory := by
  induction size : n.toNat using Nat.strongRecOn generalizing busy offset n pp chip with
  | ind size inductionHypothesis =>
      subst size
      have chunk := programChunk_toNat offset n
      by_cases positive : n > 0
      · have left : 0 < n.toNat := positive
        obtain ⟨nextOffset, nextN⟩ := programChunk_rest low
        have first : busy 0 < 100 := inTime 0 ⟨left, by omega⟩
        rw [snorDeviceProgram_step idle positive low]
        simp only [if_pos first]
        obtain ⟨taken, dropped⟩ := @programChunk_lengths offset _ _ length
        have nextIdle : Chip.Idle ⟨overlay (· &&& ·) BitVec.toNat offset.toNat
            (pp.take (programChunk offset n).toNat) chip.memory, false, 0⟩ := rfl
        obtain ⟨final, programmed, finalIdle, memory⟩ := inductionHypothesis _ (by omega) nextIdle
          dropped (by omega)
          (fun number starts => inTime _ ((startsPage_rest low number).mp starts)) rfl
        refine ⟨final, programmed, finalIdle, ?_⟩
        have pieces := @overlay_append Address _ (· &&& ·) BitVec.toNat offset.toNat
          (pp.take (programChunk offset n).toNat) (pp.drop (programChunk offset n).toNat)
          chip.memory
        rw [List.take_append_drop, taken, ← nextOffset] at pieces
        exact memory.trans pieces.symm
      · have none : pp = [] := by
          apply List.eq_nil_of_length_eq_zero
          rw [← length]
          exact Nat.eq_zero_of_not_pos positive
        rw [snorDeviceProgram, dif_neg positive, none, overlay_nil]
        exact ⟨chip, rfl, idle, rfl⟩

/-- If a page program takes too long, it is the last one. -/
theorem snorDeviceProgram_late {number : Nat} (idle : chip.Idle) (length : n.toNat = pp.length)
    (low : offset.toNat + n.toNat ≤ 2 ^ 24) (starts : StartsPage offset.toNat n.toNat number)
    (inTime : ∀ earlier < number, busy earlier < 100) (late : 100 ≤ busy number) :
    ∃ failed, snorDeviceProgram busy offset n pp chip = (.errorProgram, failed) ∧
      failed.memory = overlay (· &&& ·) BitVec.toNat offset.toNat
        (pp.take (256 * (offset.toNat / 256 + number + 1) - offset.toNat)) chip.memory := by
  induction number generalizing busy offset n pp chip with
  | zero =>
      have chunk := programChunk_toNat offset n
      rw [snorDeviceProgram_step idle starts.1 low]
      simp only [if_neg (Nat.not_lt.mpr late)]
      refine ⟨_, rfl, ?_⟩
      have same : pp.take (programChunk offset n).toNat =
          pp.take (256 * (offset.toNat / 256 + 0 + 1) - offset.toNat) := by
        rw [List.take_eq_take_iff]
        omega
      rw [same]
  | succ number inductionHypothesis =>
      have chunk := programChunk_toNat offset n
      obtain ⟨nextOffset, nextN⟩ := programChunk_rest low
      obtain ⟨positive, reached⟩ := starts
      rw [snorDeviceProgram_step idle positive low]
      simp only [if_pos (inTime 0 (Nat.succ_pos number))]
      obtain ⟨taken, dropped⟩ := @programChunk_lengths offset _ _ length
      have nextIdle : Chip.Idle ⟨overlay (· &&& ·) BitVec.toNat offset.toNat
          (pp.take (programChunk offset n).toNat) chip.memory, false, 0⟩ := rfl
      obtain ⟨failed, programmed, memory⟩ := inductionHypothesis nextIdle dropped (by omega)
        ((startsPage_rest low number).mpr ⟨positive, reached⟩)
        (fun earlier before => inTime _ (Nat.succ_lt_succ before)) late
      refine ⟨failed, programmed, ?_⟩
      have whole : (programChunk offset n).toNat = 256 - offset.toNat % 256 := by omega
      have split : 256 * (offset.toNat / 256 + (number + 1) + 1) - offset.toNat =
          (programChunk offset n).toNat +
            (256 * ((offset + programChunk offset n).toNat / 256 + number + 1) -
              (offset + programChunk offset n).toNat) := by omega
      rw [memory, split, List.take_add, overlay_append, taken, nextOffset]

end Program

end XBotFirmware.Flash
