import XBotFirmware.Library.Deadlines
import XBotFirmware.Platform.Time

/-!
Helpers shared by the services (`src/services/service_ext.hpp`).

A service calls `TimeoutReached` for each of its deadlines and passes the block time on
from one call to the next.
-/

namespace XBotFirmware.Service

open XBotFirmware.Library XBotFirmware.Platform

/-- `UINT32_MAX`, the block time of a service that waits for nothing. -/
def uint32Max : Micros := BitVec.allOnes 32

/-- `etl::min`. -/
def etlMin (first second : Micros) : Micros := if second < first then second else first

/-- `TimeoutReached`: whether the delay has passed, and the caller's block time
lowered to the rest of the delay when it has not. -/
def timeoutReached (duration delay blockTime : Micros) : Bool × Micros :=
  if delay ≤ duration then
    (true, blockTime)
  else
    (false, etlMin blockTime (delay - duration))

@[simp]
theorem timeoutReached_fst (duration delay blockTime : Micros) :
    (timeoutReached duration delay blockTime).1 = decide (delay.toNat ≤ duration.toNat) := by
  unfold timeoutReached
  split <;> simp_all [BitVec.le_def]

theorem toNat_uint32Max : uint32Max.toNat = 2 ^ 32 - 1 := rfl

theorem lt_uint32Max {block : Micros} (limited : block ≠ uint32Max) :
    block.toNat < uint32Max.toNat := by
  have bound := block.isLt
  have different : block.toNat ≠ uint32Max.toNat :=
    fun equal => limited (BitVec.eq_of_toNat_eq equal)
  rw [toNat_uint32Max] at different ⊢
  omega

theorem toNat_etlMin (first second : Micros) :
    (etlMin first second).toNat = min first.toNat second.toNat := by
  unfold etlMin
  split
  next smaller => exact (Nat.min_eq_right (Nat.le_of_lt smaller)).symm
  next notSmaller => exact (Nat.min_eq_left (Nat.le_of_not_lt notSmaller)).symm

/-- What a call of `TimeoutReached` waits for. -/
def waitingFor (duration delay : Micros) : Deadline where
  delay := delay.toNat
  elapsed := duration.toNat

/-- `TimeoutReached` adds one deadline to those the block time already counts. -/
theorem isBlockTime_timeoutReached (duration delay : Micros) {blockTime : Micros}
    {deadlines : List Deadline}
    (counted : IsBlockTime uint32Max.toNat deadlines blockTime.toNat) :
    IsBlockTime uint32Max.toNat (deadlines ++ [waitingFor duration delay])
      (timeoutReached duration delay blockTime).2.toNat := by
  have limit : blockTime.toNat ≤ uint32Max.toNat := Nat.le_sub_one_of_lt blockTime.isLt
  unfold timeoutReached
  split
  next reached =>
    have alone : IsBlockTime uint32Max.toNat [waitingFor duration delay] uint32Max.toNat :=
      .reached reached
    have both := counted.append alone
    rwa [Nat.min_eq_left limit] at both
  next pending =>
    have longer : duration.toNat < delay.toNat := Nat.lt_of_not_le pending
    have rest : (delay - duration).toNat = delay.toNat - duration.toNat :=
      BitVec.toNat_sub_of_le (Nat.le_of_lt longer)
    have small : delay.toNat - duration.toNat ≤ uint32Max.toNat := by
      rw [← rest]
      exact Nat.le_sub_one_of_lt (delay - duration).isLt
    have alone : IsBlockTime uint32Max.toNat [waitingFor duration delay]
        (delay.toNat - duration.toNat) := .pending (Nat.not_le_of_lt longer) small
    have both := counted.append alone
    rwa [← rest, ← toNat_etlMin] at both

theorem waitingFor_add {now since delay : Micros} {time : Nat}
    (unwrapped : (now - since).toNat + time < 2 ^ 32) :
    waitingFor (now + BitVec.ofNat 32 time - since) delay =
      (waitingFor (now - since) delay).later time := by
  have elapsed : (now + BitVec.ofNat 32 time - since).toNat = (now - since).toNat + time := by
    have nowBound := now.isLt
    have sinceBound := since.isLt
    simp only [BitVec.toNat_sub, BitVec.toNat_add, BitVec.toNat_ofNat] at unwrapped ⊢
    omega
  simp only [waitingFor, Deadline.later, elapsed]

end XBotFirmware.Service
