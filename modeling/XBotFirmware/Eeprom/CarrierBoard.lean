import XBotFirmware.Library.Bursts
import XBotFirmware.Platform.CString

set_option autoImplicit false

/-!
The identity of the carrier board (`src/id_eeprom.c`, `robots/src/xbot_robot.cpp`).

`carrier_board_info` is a packed record, which the driver fills with the bytes of the
EEPROM: the version of the record, 32 bytes of board id, the three parts of the board's
version and the checksum, little-endian.
-/

namespace XBotFirmware.Eeprom

open XBotFirmware.Library XBotFirmware.Platform

def checksum (data : List Byte) (length : Nat) : BitVec 16 :=
  (List.range length).foldl (fun sum i =>
    if i % 2 = 0 then sum ^^^ (data.getD i 0).setWidth 16
    else sum ^^^ ((data.getD i 0).setWidth 16 <<< 8)) 0

/-- `struct carrier_board_info`. -/
structure CarrierBoardInfo where
  bytes : List Byte
  size : bytes.length = 39
  deriving DecidableEq

namespace CarrierBoardInfo

def boardId (info : CarrierBoardInfo) : List Byte := (info.bytes.drop 1).take 32

def versionMajor (info : CarrierBoardInfo) : Byte := info.bytes.getD 33 0

def storedChecksum (info : CarrierBoardInfo) : BitVec 16 :=
  (info.bytes.getD 38 0 ++ info.bytes.getD 37 0 : BitVec (8 + 8))

/-- All zero but for the board id. -/
def notAvailable : CarrierBoardInfo where
  bytes := 0 :: strncpy (bytesOf "N/A") 32 ++ List.replicate 6 0
  size := by decide +kernel

def Valid (info : CarrierBoardInfo) : Prop := checksum info.bytes (39 - 2) = info.storedChecksum

instance (info : CarrierBoardInfo) : Decidable info.Valid := inferInstanceAs (Decidable (_ = _))

end CarrierBoardInfo

/-- How `i2cMasterTransmit` ends: well, or with an error and anything in the buffer. -/
inductive Transfer where
  | ok
  | failed (buffer : CarrierBoardInfo)
  deriving DecidableEq

def i2cMasterTransmit (image : CarrierBoardInfo) : Transfer → Bool × CarrierBoardInfo
  | .ok => (true, image)
  | .failed buffer => (false, buffer)

def idEepromGetCarrierBoardInfo (image : CarrierBoardInfo) (transfer : Transfer) :
    Bool × CarrierBoardInfo :=
  let (success, buffer) := i2cMasterTransmit image transfer
  if !success ∨ checksum buffer.bytes (39 - 2) ≠ buffer.storedChecksum then
    (success, .notAvailable)
  else
    (success, buffer)

def isHardwareSupported (info : CarrierBoardInfo) : Bool :=
  strncmp (bytesOf "hw-xbot-mainboard") info.boardId 32 = 0 && info.versionMajor = 0

/-- Even bytes go to the low lane of the sum, odd ones to the high lane. -/
theorem checksum_eq_xorUpTo (data : List Byte) (length : Nat) :
    checksum data length =
      xorUpTo (fun index => placed 16 (index % 2) (data.getD index 0)) length := by
  induction length with
  | zero => rfl
  | succ length inductionHypothesis =>
      rw [xorUpTo, ← inductionHypothesis, checksum, checksum, List.range_succ,
        List.foldl_append, List.foldl_cons, List.foldl_nil]
      rcases Nat.mod_two_eq_zero_or_one length with even | odd
      · rw [if_pos even, even]
        simp [placed]
      · rw [if_neg (by omega), odd]
        rfl

theorem checksum_ne_of_burst {order : BitOrder} {start : Nat} {first second : List Byte}
    (sameLength : first.length = second.length) (different : first ≠ second)
    (confined : DifferWithin order start 16 first second) :
    checksum first first.length ≠ checksum second second.length := by
  rw [← sameLength, checksum_eq_xorUpTo, checksum_eq_xorUpTo]
  apply confined.xorUpTo_ne sameLength different
  · intro index _
    omega
  · intro index other later _ sameLane
    omega

namespace CarrierBoardInfo

variable {image corrupted : CarrierBoardInfo}

/-- The lane of a byte of the record: the stored checksum starts anew in the low lane. -/
def lane (index : Nat) : Nat := if index < 37 then index % 2 else index - 37

theorem xorUpTo_lane (info : CarrierBoardInfo) :
    xorUpTo (fun index => placed 16 (lane index) (info.bytes.getD index 0)) 39 =
      checksum info.bytes 37 ^^^ info.storedChecksum := by
  have payload : xorUpTo (fun index => placed 16 (lane index) (info.bytes.getD index 0)) 37 =
      checksum info.bytes 37 := by
    rw [checksum_eq_xorUpTo]
    apply BitVec.eq_of_getLsbD_eq
    intro bit _
    apply getLsbD_xorUpTo_congr
    intro index below
    rw [lane, if_pos below]
  have stored : placed 16 0 (info.bytes.getD 37 0) ^^^ placed 16 1 (info.bytes.getD 38 0) =
      info.storedChecksum := by
    apply BitVec.eq_of_getLsbD_eq
    intro bit inside
    rw [storedChecksum, BitVec.getLsbD_xor, BitVec.getLsbD_append]
    rcases Nat.lt_or_ge bit 8 with low | high
    · obtain ⟨offset, rfl⟩ : ∃ offset, bit = 8 * 0 + offset := ⟨bit, by omega⟩
      rw [if_pos low, getLsbD_placed _ (by omega) (by omega),
        getLsbD_placed _ (by omega) (by omega)]
      simp
    · obtain ⟨offset, rfl⟩ : ∃ offset, bit = 8 * 1 + offset := ⟨bit - 8, by omega⟩
      rw [if_neg (Nat.not_lt_of_le high), getLsbD_placed _ (by omega) (by omega),
        getLsbD_placed _ (by omega) (by omega), Nat.add_sub_cancel_left]
      simp
  rw [xorUpTo, xorUpTo, payload, BitVec.xor_assoc, ← stored]
  rfl

theorem valid_iff (info : CarrierBoardInfo) :
    info.Valid ↔
      xorUpTo (fun index => placed 16 (lane index) (info.bytes.getD index 0)) 39 = 0 := by
  rw [xorUpTo_lane]
  exact BitVec.xor_eq_zero_iff.symm

/-- Within eight bits no two bytes change in the same place, in whichever lane they are. -/
theorem not_valid_of_burst {order : BitOrder} {start : Nat} (valid : image.Valid)
    (different : image ≠ corrupted)
    (confined : DifferWithin order start 8 image.bytes corrupted.bytes) : ¬corrupted.Valid := by
  have sameLength : image.bytes.length = corrupted.bytes.length :=
    image.size.trans corrupted.size.symm
  have differentBytes : image.bytes ≠ corrupted.bytes := by
    intro same
    apply different
    cases image
    cases corrupted
    cases same
    rfl
  have fits : ∀ index < image.bytes.length, 8 * lane index + 8 ≤ 16 := by
    intro index below
    rw [image.size] at below
    unfold lane
    split <;> omega
  have apart : ∀ index other, index < other → other < image.bytes.length →
      lane index = lane other → 8 ≤ 8 * (other - index) := by
    intro index other later _ _
    omega
  have changed := confined.xorUpTo_ne sameLength differentBytes fits apart
  rw [image.size, (valid_iff image).mp valid] at changed
  intro alsoValid
  exact changed ((valid_iff corrupted).mp alsoValid).symm

end CarrierBoardInfo

open CarrierBoardInfo

theorem idEepromGetCarrierBoardInfo_eq (image : CarrierBoardInfo) (transfer : Transfer) :
    (idEepromGetCarrierBoardInfo image transfer).2 =
      if transfer = .ok ∧ image.Valid then image else notAvailable := by
  cases transfer with
  | ok =>
      by_cases valid : image.Valid
      · rw [if_pos ⟨rfl, valid⟩]
        exact congrArg Prod.snd (if_neg (by simpa [i2cMasterTransmit, Valid] using valid))
      · rw [if_neg fun both => valid both.2]
        exact congrArg Prod.snd (if_pos (.inr valid))
  | failed buffer =>
      rw [if_neg fun both => nomatch both.1]
      exact congrArg Prod.snd (if_pos (.inl rfl))

theorem isHardwareSupported_iff (info : CarrierBoardInfo) :
    isHardwareSupported info = true ↔
      cString info.boardId = bytesOf "hw-xbot-mainboard" ∧ info.versionMajor = 0 := by
  have literal : (cString (bytesOf "hw-xbot-mainboard")).take 32 = bytesOf "hw-xbot-mainboard" := by
    decide +kernel
  have short : (cString info.boardId).length ≤ 32 :=
    Nat.le_trans (List.takeWhile_sublist _).length_le (List.length_take_le ..)
  rw [isHardwareSupported, Bool.and_eq_true, decide_eq_true_eq, decide_eq_true_eq,
    strncmp_eq_zero_iff, literal, List.take_of_length_le short]
  exact and_congr_left fun _ => eq_comm

theorem notAvailable_not_supported : isHardwareSupported notAvailable = false := by
  decide +kernel

/-- The record is the image that was read with a right checksum or the default one, and
only the former can be supported hardware.  The checksum changes with every burst of
sixteen bits, and no burst of eight bits in a record goes unnoticed. -/
theorem corrupted_identity_not_accepted :
    (∀ image transfer,
      ((transfer = .ok ∧ image.Valid ∧ (idEepromGetCarrierBoardInfo image transfer).2 = image) ∨
        (idEepromGetCarrierBoardInfo image transfer).2 = notAvailable) ∧
      (isHardwareSupported (idEepromGetCarrierBoardInfo image transfer).2 = true ↔
        transfer = .ok ∧ image.Valid ∧ cString image.boardId = bytesOf "hw-xbot-mainboard" ∧
          image.versionMajor = 0)) ∧
    (∀ order start, ∀ first second : List Byte, first.length = second.length → first ≠ second →
      DifferWithin order start 16 first second →
      checksum first first.length ≠ checksum second second.length) ∧
    ∀ order start, ∀ image corrupted : CarrierBoardInfo, image.Valid → image ≠ corrupted →
      DifferWithin order start 8 image.bytes corrupted.bytes →
      ¬corrupted.Valid ∧ ∀ transfer,
        (idEepromGetCarrierBoardInfo corrupted transfer).2 = notAvailable := by
  refine ⟨?_, ?_, ?_⟩
  · intro image transfer
    rw [idEepromGetCarrierBoardInfo_eq]
    by_cases read : transfer = .ok ∧ image.Valid
    · rw [if_pos read]
      refine ⟨.inl ⟨read.1, read.2, rfl⟩, ?_⟩
      rw [isHardwareSupported_iff, ← and_assoc (a := transfer = .ok)]
      exact (and_iff_right read).symm
    · rw [if_neg read]
      refine ⟨.inr rfl, ?_⟩
      rw [notAvailable_not_supported]
      exact iff_of_false Bool.false_ne_true fun all => read ⟨all.1, all.2.1⟩
  · intro order start first second sameLength different confined
    exact checksum_ne_of_burst sameLength different confined
  · intro order start image corrupted valid different confined
    have invalid := not_valid_of_burst valid different confined
    refine ⟨invalid, fun transfer => ?_⟩
    rw [idEepromGetCarrierBoardInfo_eq, if_neg fun read => invalid read.2]

theorem differWithin_of_bits {order : BitOrder} {start length : Nat} {first second : List Byte}
    (sameLength : first.length = second.length)
    (bits : ∀ position < 8 * first.length,
      bitAt order first position ≠ bitAt order second position →
        start ≤ position ∧ position < start + length) :
    DifferWithin order start length first second := by
  intro position differ
  apply bits position _ differ
  by_contra beyond
  apply differ
  rw [bitAt, bitAt, List.getD_eq_default first 0 (by omega),
    List.getD_eq_default second 0 (by omega)]

def mainboard : CarrierBoardInfo where
  bytes := 1 :: strncpy (bytesOf "hw-xbot-mainboard") 32 ++ [0, 2, 1, 0, 0x5c, 0x31]
  size := by decide +kernel

/-- The same with three bits flipped, from the end of the patch number into the checksum. -/
def damagedMainboard : CarrierBoardInfo where
  bytes := 1 :: strncpy (bytesOf "hw-xbot-mainboard") 32 ++ [0, 2, 1, 0xC0, 0x5d, 0x31]
  size := by decide +kernel

theorem damagedMainboard_not_accepted :
    isHardwareSupported (idEepromGetCarrierBoardInfo mainboard .ok).2 = true ∧
      checksum [1, 2] 2 ≠ checksum [1, 3] 2 ∧ ¬damagedMainboard.Valid := by
  obtain ⟨read, burst, record⟩ := corrupted_identity_not_accepted
  refine ⟨(read mainboard .ok).2.mpr (by decide +kernel), ?_, ?_⟩
  · exact burst .lsbFirst 8 [1, 2] [1, 3] rfl (by decide)
      (differWithin_of_bits rfl (by decide +kernel))
  · exact (record .lsbFirst 294 mainboard damagedMainboard (by decide +kernel) (by decide +kernel)
      (differWithin_of_bits (by decide +kernel) (by decide +kernel))).1

end XBotFirmware.Eeprom
