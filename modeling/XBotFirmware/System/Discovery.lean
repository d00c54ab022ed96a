import XBotFirmware.Library.Run
import XBotFirmware.Platform.CString

set_option autoImplicit false

/-!
The discovery of the board by the update tool (`src/boot_service_discovery.cpp`).

One buffer takes every request.  The loop of the thread is a step for each return of
`recvfrom`, with the whole datagram that has arrived, or without one after a timeout.
-/

namespace XBotFirmware.System

open XBotFirmware.Library XBotFirmware.Platform

def advertisement : List Byte := bytesOf "BOARD_ADVERTISEMENT:xcore-boot;application-mode"

def resetCommand : List Byte := bytesOf "RESET"

def discoverCommand : List Byte := bytesOf "DISCOVER_REQUEST"

structure Discovery where
  boardAdvertisementBuffer : List Byte
  boardAdvertisementRequestBuffer : List Byte
  /-- `SYSCFG->UR2`, with the boot address in its upper half. -/
  ur2 : BitVec 32
  sent : List (List Byte)
  /-- `NVIC_SystemReset` has been called. -/
  isReset : Bool
  deriving DecidableEq, Repr

namespace Discovery

/-- `InitBootloaderServiceDiscovery`. -/
def init (ur2 : BitVec 32) : Discovery where
  boardAdvertisementBuffer := advertisement.rightpad 100 0
  boardAdvertisementRequestBuffer := List.replicate 100 0
  ur2 := ur2
  sent := []
  isReset := false

/-- `recvfrom` with a buffer of `size` bytes; what does not fit is dropped. -/
def recvfrom (buffer : List Byte) (size : Nat) (datagram : List Byte) : Nat × List Byte :=
  let received := min datagram.length size
  (received, datagram.take size ++ buffer.drop received)

/-- `MODIFY_REG(SYSCFG->UR2, SYSCFG_UR2_BOOT_ADD0, (0x8000000 >> 16) << 16)`. -/
def bootFromLoader (ur2 : BitVec 32) : BitVec 32 :=
  (ur2 &&& ~~~((0xFFFF : BitVec 32) <<< 16)) ||| (((0x8000000 : BitVec 32) >>> 16) <<< 16)

theorem bootFromLoader_low (ur2 : BitVec 32) :
    (bootFromLoader ur2).setWidth 16 = ur2.setWidth 16 := by
  have kept : ∀ index < 16, (~~~((0xFFFF : BitVec 32) <<< 16)).getLsbD index = true := by decide
  have clear : ∀ index < 16,
      (((0x8000000 : BitVec 32) >>> 16) <<< 16).getLsbD index = false := by decide
  apply BitVec.eq_of_getLsbD_eq
  intro index inside
  rw [BitVec.getLsbD_setWidth, BitVec.getLsbD_setWidth, bootFromLoader, BitVec.getLsbD_or,
    BitVec.getLsbD_and, kept index inside, clear index inside, Bool.and_true, Bool.or_false]

theorem bootFromLoader_high (ur2 : BitVec 32) : bootFromLoader ur2 >>> 16 = 0x0800 := by
  have cleared : ∀ index < 32, 16 ≤ index →
      (~~~((0xFFFF : BitVec 32) <<< 16)).getLsbD index = false := by decide
  have address : ∀ index < 32, (((0x8000000 : BitVec 32) >>> 16) <<< 16).getLsbD (16 + index) =
      (0x0800 : BitVec 32).getLsbD index := by decide
  apply BitVec.eq_of_getLsbD_eq
  intro index inside
  rw [BitVec.getLsbD_ushiftRight, bootFromLoader, BitVec.getLsbD_or, BitVec.getLsbD_and,
    address index inside]
  by_cases upper : 16 + index < 32
  · rw [cleared (16 + index) upper (by omega), Bool.and_false, Bool.false_or]
  · rw [BitVec.getLsbD_of_ge ur2 _ (by omega), Bool.false_and, Bool.false_or]

/-- The commands, once a request stands in the buffer. -/
def handle (discovery : Discovery) : Discovery :=
  let request := discovery.boardAdvertisementRequestBuffer
  if strncmp request resetCommand 100 = 0 then
    { discovery with ur2 := bootFromLoader discovery.ur2, isReset := true }
  else if strncmp request discoverCommand 100 = 0 then
    { discovery with sent := discovery.sent ++ [cString discovery.boardAdvertisementBuffer] }
  else
    discovery

/-- A datagram has been stored, with a terminator behind it. -/
def request (discovery : Discovery) (datagram : List Byte) : Discovery :=
  let (received, buffer) := recvfrom discovery.boardAdvertisementRequestBuffer (100 - 1) datagram
  { discovery with boardAdvertisementRequestBuffer := buffer.set received 0 }

/-- One iteration of the loop; an empty datagram is not looked at. -/
def iterate (discovery : Discovery) (arrived : Option (List Byte)) : Option Discovery :=
  if discovery.isReset then none
  else
    match arrived with
    | none => some discovery
    | some datagram =>
        if 0 < (recvfrom discovery.boardAdvertisementRequestBuffer (100 - 1) datagram).1 then
          some (discovery.request datagram).handle
        else
          some discovery

def asks (command : List Byte) (arrived : Option (List Byte)) : Bool :=
  arrived.any fun datagram => cString datagram = command

/-- What a request leaves in the buffer is the request, whatever was there before. -/
theorem cString_request (buffer datagram : List Byte) (size : Nat) (room : size < buffer.length) :
    cString ((recvfrom buffer size datagram).2.set (recvfrom buffer size datagram).1 0) =
      (cString datagram).take size := by
  have front : (datagram.take size).length = min datagram.length size := by
    rw [List.length_take, Nat.min_comm]
  have behind : min datagram.length size < buffer.length := by omega
  rw [recvfrom, List.set_append_right _ _ front.le, front, Nat.sub_self,
    List.drop_eq_getElem_cons behind, List.set_cons_zero, cString_append_nul]
  exact List.take_takeWhile.symm

theorem strncmp_request {command : List Byte} (noNul : 0 ∉ command) (short : command.length < 99)
    {buffer datagram : List Byte} (sized : buffer.length = 100) :
    strncmp ((recvfrom buffer 99 datagram).2.set (recvfrom buffer 99 datagram).1 0) command 100 =
      0 ↔ cString datagram = command := by
  rw [strncmp_eq_zero_iff, cString_request buffer datagram 99 (by omega), cString_of_noNul noNul,
    List.take_take, List.take_of_length_le (by omega : command.length ≤ 100)]
  constructor
  · intro taken
    have length := congrArg List.length taken
    rw [List.length_take] at length
    rwa [List.take_of_length_le (by omega)] at taken
  · rintro rfl
    exact List.take_of_length_le (by omega)

structure Ready (discovery : Discovery) : Prop where
  running : discovery.isReset = false
  sized : discovery.boardAdvertisementRequestBuffer.length = 100
  advertises : cString discovery.boardAdvertisementBuffer = advertisement

theorem init_ready (ur2 : BitVec 32) : Ready (init ur2) where
  running := rfl
  sized := List.length_replicate
  advertises := by
    change cString (advertisement.rightpad 100 0) = advertisement
    decide +kernel

theorem recvfrom_length {buffer : List Byte} {size : Nat} (room : size ≤ buffer.length)
    (datagram : List Byte) : (recvfrom buffer size datagram).2.length = buffer.length := by
  rw [recvfrom, List.length_append, List.length_take, List.length_drop]
  omega

theorem handle_request {discovery : Discovery} (ready : Ready discovery) (datagram : List Byte) :
    (discovery.request datagram).handle =
      if cString datagram = resetCommand then
        { discovery.request datagram with ur2 := bootFromLoader discovery.ur2, isReset := true }
      else if cString datagram = discoverCommand then
        { discovery.request datagram with sent := discovery.sent ++ [advertisement] }
      else
        discovery.request datagram := by
  have reset := @strncmp_request resetCommand (by decide) (by decide) _ datagram ready.sized
  have discover := @strncmp_request discoverCommand (by decide) (by decide) _ datagram ready.sized
  rw [handle]
  simp only [request, reset, discover, ready.advertises]

/-- An iteration asks for nothing but the string in the datagram. -/
theorem iterate_eq {discovery : Discovery} (ready : Ready discovery) (datagram : List Byte) :
    discovery.iterate (some datagram) =
      some (if datagram = [] then discovery else (discovery.request datagram).handle) := by
  rw [iterate, if_neg (by simp [ready.running])]
  cases datagram with
  | nil => rfl
  | cons byte rest =>
      have received : 0 < min (byte :: rest).length 99 := by
        rw [List.length_cons]
        omega
      rw [if_neg (List.cons_ne_nil byte rest)]
      exact if_pos received

theorem request_ready {discovery : Discovery} (ready : Ready discovery) (datagram : List Byte) :
    Ready (discovery.request datagram) where
  running := ready.running
  sized := by
    have room : 99 ≤ discovery.boardAdvertisementRequestBuffer.length := by
      rw [ready.sized]
      decide
    rw [request, List.length_set, recvfrom_length room, ready.sized]
  advertises := ready.advertises

theorem iterate_reset {discovery after : Discovery} (ready : Ready discovery)
    {arrived : Option (List Byte)} (asked : asks resetCommand arrived = true)
    (iterated : discovery.iterate arrived = some after) :
    after.isReset = true ∧ after.ur2 = bootFromLoader discovery.ur2 ∧
      after.sent = discovery.sent := by
  cases arrived with
  | none => exact absurd asked Bool.false_ne_true
  | some datagram =>
      have command : cString datagram = resetCommand := of_decide_eq_true asked
      have nonempty : datagram ≠ [] := by
        rintro rfl
        exact absurd command (by decide)
      rw [iterate_eq ready, if_neg nonempty, handle_request ready, if_pos command,
        Option.some.injEq] at iterated
      subst iterated
      exact ⟨rfl, rfl, rfl⟩

theorem iterate_ready {discovery after : Discovery} (ready : Ready discovery)
    {arrived : Option (List Byte)} (other : asks resetCommand arrived = false)
    (iterated : discovery.iterate arrived = some after) :
    Ready after ∧ after.ur2 = discovery.ur2 ∧
      after.sent = discovery.sent ++
        if asks discoverCommand arrived then [advertisement] else [] := by
  cases arrived with
  | none =>
      obtain rfl : discovery = after := by simpa [iterate, ready.running] using iterated
      exact ⟨ready, rfl, (List.append_nil _).symm⟩
  | some datagram =>
      have noReset : ¬cString datagram = resetCommand := of_decide_eq_false other
      rw [iterate_eq ready, Option.some.injEq] at iterated
      subst iterated
      by_cases empty : datagram = []
      · subst empty
        exact ⟨ready, rfl, (List.append_nil _).symm⟩
      · rw [if_neg empty, handle_request ready, if_neg noReset]
        have stored := request_ready ready datagram
        by_cases asked : cString datagram = discoverCommand
        · rw [if_pos asked]
          exact ⟨⟨stored.running, stored.sized, stored.advertises⟩, rfl, by simp [asks, asked]⟩
        · rw [if_neg asked]
          exact ⟨stored, rfl, by simp [asks, asked, request]⟩

theorem asks_discover_of_reset {arrived : Option (List Byte)}
    (asked : asks resetCommand arrived = true) : asks discoverCommand arrived = false := by
  cases arrived with
  | none => rfl
  | some datagram =>
      have command : cString datagram = resetCommand := of_decide_eq_true asked
      simp only [asks, Option.any_some, command]
      decide

theorem run_iterate {discovery final : Discovery} {arrivals : List (Option (List Byte))}
    (ready : Ready discovery) (executed : run iterate discovery arrivals = some final) :
    final.sent =
        discovery.sent ++ List.replicate (arrivals.countP (asks discoverCommand)) advertisement ∧
      final.isReset = arrivals.any (asks resetCommand) ∧
      (∀ arrived ∈ arrivals.dropLast, asks resetCommand arrived = false) ∧
      final.ur2 = if final.isReset then bootFromLoader discovery.ur2 else discovery.ur2 := by
  induction arrivals generalizing discovery with
  | nil =>
      obtain rfl : discovery = final := Option.some.inj executed
      simp [ready.running]
  | cons arrived rest inductionHypothesis =>
      obtain ⟨after, iterated, continued⟩ := run_cons_eq_some.mp executed
      by_cases asked : asks resetCommand arrived = true
      · obtain ⟨ended, address, sent⟩ := iterate_reset ready asked iterated
        -- Nothing follows a reset.
        cases rest with
        | nil =>
            obtain rfl : after = final := Option.some.inj continued
            have noAnswer := asks_discover_of_reset asked
            simp [ended, address, sent, asked, noAnswer]
        | cons next rest => simp [iterate, ended] at continued
      · have other : asks resetCommand arrived = false := by simpa using asked
        obtain ⟨readyAfter, address, sent⟩ := iterate_ready ready other iterated
        obtain ⟨answers, ended, earlier, register⟩ := inductionHypothesis readyAfter continued
        refine ⟨?_, ?_, ?_, ?_⟩
        · rw [answers, sent, List.append_assoc, List.countP_cons]
          cases asks discoverCommand arrived with
          | false => simp
          | true => simp [List.replicate_succ]
        · rw [ended, List.any_cons, other, Bool.false_or]
        · cases rest with
          | nil => simp
          | cons next rest =>
              rw [List.dropLast_cons_of_ne_nil (List.cons_ne_nil next rest)]
              exact List.forall_mem_cons.mpr ⟨other, earlier⟩
        · rw [register, address]

/-- The thread answers every datagram that reads DISCOVER_REQUEST with the advertisement, and
no other.  It resets the board into the boot loader for a datagram that reads RESET, and
goes on after every other one; the other half of the register is kept.  Neither depends
on what earlier datagrams left in the buffer. -/
theorem discovery_follows_requests {ur2 : BitVec 32} {arrivals : List (Option (List Byte))}
    {final : Discovery} (executed : run iterate (init ur2) arrivals = some final) :
    final.sent = List.replicate (arrivals.countP (asks discoverCommand)) advertisement ∧
      final.isReset = arrivals.any (asks resetCommand) ∧
      (∀ arrived ∈ arrivals.dropLast, asks resetCommand arrived = false) ∧
      final.ur2.setWidth 16 = ur2.setWidth 16 ∧
      (if final.isReset then final.ur2 >>> 16 = 0x0800 else final.ur2 = ur2) := by
  obtain ⟨answers, ended, earlier, register⟩ := run_iterate (init_ready ur2) executed
  refine ⟨answers, ended, earlier, ?_, ?_⟩
  · rw [register]
    split
    · exact bootFromLoader_low ur2
    · rfl
  · rw [register]
    cases final.isReset with
    | false => rfl
    | true => exact bootFromLoader_high ur2

/-- A request that ends in a NUL finds the board behind a longer one; then it is reset. -/
theorem discovery_follows_requests_twice :
    ∃ final, run iterate (init 0x00000004) [some (bytesOf "DISCOVER_REQUEST_V2"), none,
        some (discoverCommand ++ [0, 1]), some resetCommand] = some final ∧
      final.sent = [advertisement] ∧ final.isReset = true ∧ final.ur2 >>> 16 = 0x0800 := by
  have reached : ((run iterate (init 0x00000004) [some (bytesOf "DISCOVER_REQUEST_V2"), none,
      some (discoverCommand ++ [0, 1]), some resetCommand]).map isReset) = some true := by
    decide +kernel
  obtain ⟨final, executed, ended⟩ := Option.map_eq_some_iff.mp reached
  obtain ⟨answers, -, -, -, register⟩ := discovery_follows_requests executed
  rw [if_pos ended] at register
  exact ⟨final, executed, answers.trans (by decide +kernel), ended, register⟩

end Discovery

end XBotFirmware.System
