import Mathlib.Algebra.Group.Nat.Defs
import XBotFirmware.Library.Overlay
import XBotFirmware.Packets.Io

set_option autoImplicit false

/-!
Filling a packet (`packetAppendData` in `portable/xbot/packet.cpp`).

`size_t` has 32 bits, so the sum that is compared with the size of the buffer may
wrap.  A copy that leaves the buffer has no result.
-/

namespace XBotFirmware.Packets

open XBotFirmware.Library

/-- The arguments of `packetAppendData` beside the packet: the memory behind the
pointer and a size. -/
structure Append where
  source : Buffer
  size : BitVec 32

namespace Append

def data (call : Append) : List Byte := (List.range call.size.toNat).map call.source

@[simp]
theorem length_data (call : Append) : call.data.length = call.size.toNat := by
  rw [data, List.length_map, List.length_range]

end Append

namespace Packet

def contents (packet : Packet) : List Byte := (List.range packet.usedData).map packet.buffer

/-- `memcpy(packet->buffer + packet->used_data, buffer, size)` and the new size. -/
def append (packet : Packet) (call : Append) : Packet where
  usedData := (BitVec.ofNat 32 packet.usedData + call.size).toNat
  buffer := overlay (fun _ byte => byte) id packet.usedData call.data packet.buffer

end Packet

/-- `packetAppendData`, with the packet that it leaves. -/
def packetAppendData (maxPacketSize : Nat) (packet : Option Packet) (call : Append) :
    Option (Bool × Option Packet) :=
  match packet with
  | none => some (false, none)
  | some packet =>
      if maxPacketSize < (call.size + BitVec.ofNat 32 packet.usedData).toNat then
        some (false, some packet)
      else if maxPacketSize < packet.usedData + call.size.toNat then
        -- The sum has wrapped, and the copy runs over the end of the buffer.
        none
      else
        some (true, some (packet.append call))

structure Filling where
  packet : Packet
  /-- The data of the calls that returned true, in order. -/
  accepted : List Byte

namespace Filling

def step (maxPacketSize : Nat) (filling : Filling) (call : Append) : Option Filling :=
  match packetAppendData maxPacketSize (some filling.packet) call with
  | none => none
  | some (_, none) => none
  | some (true, some packet) => some ⟨packet, filling.accepted ++ call.data⟩
  | some (false, some packet) => some ⟨packet, filling.accepted⟩

structure WellFormed (maxPacketSize : Nat) (filling : Filling) : Prop where
  fits : filling.packet.usedData ≤ maxPacketSize
  holds : filling.packet.contents = filling.accepted

/-- The call is accepted exactly when its data fits, and changes nothing otherwise. -/
def Answers (maxPacketSize : Nat) (packet : Packet) (call : Append) : Prop :=
  packetAppendData maxPacketSize (some packet) call =
    some (if packet.usedData + call.size.toNat ≤ maxPacketSize then
        (true, some (packet.append call))
      else
        (false, some packet))

end Filling

namespace Packet

variable {packet : Packet} {call : Append}

theorem append_usedData (small : packet.usedData + call.size.toNat < 2 ^ 32) :
    (packet.append call).usedData = packet.usedData + call.size.toNat := by
  have used : packet.usedData < 2 ^ 32 := by omega
  rw [append, BitVec.toNat_add, BitVec.toNat_ofNat, Nat.mod_eq_of_lt used, Nat.mod_eq_of_lt small]

theorem append_contents (small : packet.usedData + call.size.toNat < 2 ^ 32) :
    (packet.append call).contents = packet.contents ++ call.data := by
  rw [contents, append_usedData small, contents]
  apply List.ext_getElem
  · simp
  · intro index inside _
    have bound : index < packet.usedData + call.size.toNat := by
      rwa [List.length_map, List.length_range] at inside
    have cell : (packet.append call).buffer index =
        overlay (fun _ byte => byte) id packet.usedData call.data packet.buffer index := rfl
    rw [List.getElem_map, List.getElem_range, cell]
    rcases Nat.lt_or_ge index packet.usedData with early | late
    · rw [@overlay_of_lt _ _ _ id _ _ _ index early,
        List.getElem_append_left (by simpa using early)]
      simp
    · have length : index - packet.usedData < call.data.length := by
        rw [Append.length_data]
        omega
      rw [@overlay_of_mem _ _ _ id _ _ _ index late length,
        List.getElem_append_right (by simpa using late)]
      simp

end Packet

namespace Filling

variable {maxPacketSize : Nat} {packet : Packet} {call : Append} {filling next : Filling}

/-- While the sum does not wrap the check is exact. -/
theorem answers_of_small (small : packet.usedData + call.size.toNat < 2 ^ 32) :
    Answers maxPacketSize packet call := by
  have sum : (call.size + BitVec.ofNat 32 packet.usedData).toNat =
      packet.usedData + call.size.toNat := by
    rw [BitVec.toNat_add, BitVec.toNat_ofNat]
    omega
  unfold Answers packetAppendData
  simp only [sum]
  by_cases fits : packet.usedData + call.size.toNat ≤ maxPacketSize
  · rw [if_neg (Nat.not_lt.mpr fits), if_neg (Nat.not_lt.mpr fits), if_pos fits]
  · rw [if_pos (Nat.lt_of_not_ge fits), if_neg fits]

/-- A sum that wraps is below the size of the packet, so the data is copied. -/
theorem packetAppendData_of_wrapped (bounded : maxPacketSize < 2 ^ 32)
    (fits : packet.usedData ≤ maxPacketSize)
    (wrapped : 2 ^ 32 ≤ packet.usedData + call.size.toNat) :
    packetAppendData maxPacketSize (some packet) call = none := by
  have size := call.size.isLt
  have sum : (call.size + BitVec.ofNat 32 packet.usedData).toNat =
      packet.usedData + call.size.toNat - 2 ^ 32 := by
    rw [BitVec.toNat_add, BitVec.toNat_ofNat]
    omega
  simp only [packetAppendData, sum]
  rw [if_neg (by omega), if_pos (by omega)]

theorem answers_iff (bounded : maxPacketSize < 2 ^ 32) (fits : packet.usedData ≤ maxPacketSize) :
    Answers maxPacketSize packet call ↔ packet.usedData + call.size.toNat < 2 ^ 32 := by
  constructor
  · intro answers
    by_contra wrapped
    unfold Answers at answers
    rw [packetAppendData_of_wrapped bounded fits (Nat.le_of_not_lt wrapped)] at answers
    cases answers
  · exact answers_of_small

theorem step_of_answers (answers : Answers maxPacketSize filling.packet call) :
    filling.step maxPacketSize call =
      some (if filling.packet.usedData + call.size.toNat ≤ maxPacketSize then
        ⟨filling.packet.append call, filling.accepted ++ call.data⟩ else filling) := by
  unfold Answers at answers
  unfold step
  rw [answers]
  split
  next impossible => cases impossible
  next impossible =>
    split at impossible <;> cases impossible
  next taken =>
    split at taken
    next fits =>
      cases taken
      rw [if_pos fits]
    next => cases taken
  next refused =>
    split at refused
    next => cases refused
    next full =>
      cases refused
      rw [if_neg full]

theorem WellFormed.step (bounded : maxPacketSize < 2 ^ 32)
    (wellFormed : filling.WellFormed maxPacketSize)
    (stepped : filling.step maxPacketSize call = some next) : next.WellFormed maxPacketSize := by
  rcases Nat.lt_or_ge (filling.packet.usedData + call.size.toNat) (2 ^ 32) with small | wrapped
  · rw [step_of_answers (answers_of_small small), Option.some.injEq] at stepped
    subst stepped
    split
    next fits =>
      refine ⟨?_, ?_⟩
      · rw [Packet.append_usedData small]
        exact fits
      · rw [Packet.append_contents small, wellFormed.holds]
    next => exact wellFormed
  · unfold Filling.step at stepped
    rw [packetAppendData_of_wrapped bounded wellFormed.fits wrapped] at stepped
    cases stepped

end Filling

/-- The packet that `allocatePacket` returns. -/
def Io.allocated (io : Io) : Option Filling :=
  io.allocatePacket.map fun allocated => ⟨allocated.2.packets allocated.1, []⟩

theorem Io.allocated_wellFormed {io : Io} {start : Filling} (maxPacketSize : Nat)
    (allocated : io.allocated = some start) : start.WellFormed maxPacketSize := by
  obtain ⟨⟨packet, next⟩, taken, rfl⟩ := Option.map_eq_some_iff.mp allocated
  unfold Io.allocatePacket at taken
  split at taken
  next => cases taken
  next =>
    cases taken
    have empty : (Function.update io.packets packet
        { io.packets packet with usedData := 0 } packet).usedData = 0 := by
      rw [Function.update_self]
    refine ⟨?_, ?_⟩
    · exact Nat.le_trans (Nat.le_of_eq empty) (Nat.zero_le maxPacketSize)
    · rw [Packet.contents, empty]
      rfl

namespace Filling

variable {maxPacketSize : Nat} {start : Filling}

/-- After each of the calls the packet is well formed, and the next one is answered as
the natural sum says. -/
def FilledRight (maxPacketSize : Nat) (start : Filling) (calls : List Append) : Prop :=
  ∀ before after, calls = before ++ after →
    ∃ filling, run (step maxPacketSize) start before = some filling ∧
      filling.WellFormed maxPacketSize ∧
      ∀ call rest, after = call :: rest → Answers maxPacketSize filling.packet call

/-- No call passes a size that wraps when it is added to what the packet holds. -/
def Unwrapped (maxPacketSize : Nat) (start : Filling) (calls : List Append) : Prop :=
  ∀ before call after filling, calls = before ++ call :: after →
    run (step maxPacketSize) start before = some filling →
    filling.packet.usedData + call.size.toNat < 2 ^ 32

theorem Unwrapped.run {calls before after : List Append}
    (unwrapped : Unwrapped maxPacketSize start calls) (split : calls = before ++ after) :
    ∃ filling, Library.run (step maxPacketSize) start before = some filling := by
  induction before using List.reverseRecOn generalizing after with
  | nil => exact ⟨start, rfl⟩
  | append_singleton before call inductionHypothesis =>
      rw [List.append_assoc, List.singleton_append] at split
      obtain ⟨filling, reached⟩ := inductionHypothesis split
      have small := unwrapped before call after filling split reached
      have stepped := step_of_answers (@answers_of_small maxPacketSize _ _ small)
      exact ⟨_, run_concat_eq_some.mpr ⟨filling, reached, stepped⟩⟩

/-- A packet from `allocatePacket` is filled as it should be, exactly by the calls that
do not wrap. -/
theorem filledRight_iff {io : Io} (bounded : maxPacketSize < 2 ^ 32)
    (allocated : io.allocated = some start) (calls : List Append) :
    FilledRight maxPacketSize start calls ↔ Unwrapped maxPacketSize start calls := by
  have wellFormed : ∀ {before filling},
      Library.run (step maxPacketSize) start before = some filling →
      filling.WellFormed maxPacketSize := fun reached =>
    run_invariant (fun _ _ _ => WellFormed.step bounded)
      (Io.allocated_wellFormed maxPacketSize allocated) reached
  constructor
  · intro filled before call after filling split reached
    obtain ⟨other, same, _, answers⟩ := filled before (call :: after) split
    obtain rfl := Option.some.inj (reached.symm.trans same)
    exact (answers_iff bounded (wellFormed reached).fits).mp (answers call after rfl)
  · intro unwrapped before after split
    obtain ⟨filling, reached⟩ := unwrapped.run split
    refine ⟨filling, reached, wellFormed reached, ?_⟩
    rintro call rest rfl
    exact answers_of_small (unwrapped before call rest filling split reached)

end Filling

def oneByte : Append := ⟨fun _ => 7, 1⟩

/-- A size that wraps to zero behind one byte. -/
def wrapping : Append := ⟨fun _ => 0, BitVec.allOnes 32⟩

def freshFilling : Filling := ⟨⟨0, fun _ => 0⟩, []⟩

theorem allocated_freshFilling : (Io.start []).allocated = some freshFilling := rfl

namespace Filling

/-- The packet has a byte, and the next four gigabytes are copied behind it. -/
theorem wrapping_not_filledRight :
    (Io.start []).allocated = some freshFilling ∧
      ¬FilledRight 1500 freshFilling [oneByte, wrapping] := by
  refine ⟨allocated_freshFilling, ?_⟩
  intro filled
  obtain ⟨filling, reached, _, answers⟩ := filled [oneByte] [wrapping] rfl
  have first : freshFilling.step 1500 oneByte =
      some ⟨freshFilling.packet.append oneByte, freshFilling.accepted ++ oneByte.data⟩ := by
    rw [step_of_answers (answers_of_small (by decide)), if_pos (by decide)]
  rw [run_cons, first] at reached
  obtain rfl := Option.some.inj reached
  have overrun : packetAppendData 1500 (some (freshFilling.packet.append oneByte)) wrapping =
      none := packetAppendData_of_wrapped (by decide) (by decide) (by decide)
  have impossible := overrun.symm.trans (answers wrapping [] rfl)
  cases impossible

theorem filledRight_iff_full :
    FilledRight 1500 freshFilling [oneByte, ⟨fun _ => 0, 1500⟩] := by
  refine (filledRight_iff (by decide) allocated_freshFilling _).mpr ?_
  intro before call after filling split reached
  have wellFormed : filling.WellFormed 1500 :=
    run_invariant (fun _ _ _ => WellFormed.step (by decide))
      (Io.allocated_wellFormed 1500 allocated_freshFilling) reached
  have member : call ∈ [oneByte, ⟨fun _ => 0, 1500⟩] := by
    rw [split]
    exact List.mem_append_right before List.mem_cons_self
  have size : call.size.toNat ≤ 1500 := by
    rcases List.mem_pair.mp member with rfl | rfl <;> decide
  have fits := wellFormed.fits
  omega

end Filling

end XBotFirmware.Packets
