import XBotFirmware.Library.WrappingClock

/-!
System time (`portable/xbot/system.cpp`, `chtime.h`, `chconf.h`).

True time is the unbounded number of system ticks since boot.  The kernel
keeps it in a 32-bit counter at 10 kHz; `getTimeMicros` converts that counter
to microseconds in 64 bits and truncates the result to 32.
-/

namespace XBotFirmware.Platform

open XBotFirmware.Library

/-- `time_usecs_t`, the type of every timestamp in the services. -/
abbrev Micros := BitVec 32

def chCfgStFrequency : BitVec 64 := 10000

/-- `systime_t` after the given number of ticks (`CH_CFG_ST_RESOLUTION` is 32). -/
def chVTGetSystemTimeX (time : Nat) : BitVec 32 := BitVec.ofNat 32 time

/-- `TIME_I2US`: the product, the rounding and the division are in `time_conv_t`. -/
def timeI2US (interval : BitVec 32) : Micros :=
  ((interval.setWidth 64 * 1000000 + chCfgStFrequency - 1) / chCfgStFrequency).setWidth 32

def getTimeMicros (time : Nat) : Micros := timeI2US (chVTGetSystemTimeX time)

theorem toNat_timeI2US (interval : BitVec 32) :
    (timeI2US interval).toNat = 100 * interval.toNat % 2 ^ 32 := by
  have bound := interval.isLt
  have widened : (interval.setWidth 64).toNat = interval.toNat := by
    simp only [BitVec.toNat_setWidth]
    omega
  have product : (interval.setWidth 64 * 1000000).toNat = interval.toNat * 1000000 := by
    rw [BitVec.toNat_mul, widened]
    simp only [BitVec.ofNat_eq_ofNat, BitVec.toNat_ofNat]
    omega
  have sum : (interval.setWidth 64 * 1000000 + chCfgStFrequency).toNat =
      interval.toNat * 1000000 + 10000 := by
    rw [BitVec.toNat_add, product]
    simp only [chCfgStFrequency, BitVec.ofNat_eq_ofNat, BitVec.toNat_ofNat]
    omega
  have numerator : (interval.setWidth 64 * 1000000 + chCfgStFrequency - 1).toNat =
      10000 * (100 * interval.toNat) + 9999 := by
    rw [BitVec.toNat_sub, sum]
    simp only [BitVec.ofNat_eq_ofNat, BitVec.toNat_ofNat]
    omega
  have frequency : chCfgStFrequency.toNat = 10000 := rfl
  have quotient : (10000 * (100 * interval.toNat) + 9999) / 10000 = 100 * interval.toNat := by
    omega
  rw [timeI2US, BitVec.toNat_setWidth, BitVec.toNat_udiv, numerator, frequency, quotient]

/-- One tick is exactly 100 microseconds, so the two wraps agree and the
microsecond value is itself a free-running register. -/
theorem getTimeMicros_eq_reading (time : Nat) : getTimeMicros time = reading 32 100 time := by
  apply BitVec.eq_of_toNat_eq
  rw [getTimeMicros, toNat_timeI2US, chVTGetSystemTimeX, reading, BitVec.toNat_ofNat,
    BitVec.toNat_ofNat]
  omega

theorem toNat_getTimeMicros_sub {since now : Nat} (ordered : since ≤ now) :
    (getTimeMicros now - getTimeMicros since).toNat = 100 * (now - since) % 2 ^ 32 := by
  rw [getTimeMicros_eq_reading, getTimeMicros_eq_reading, toNat_reading_sub_reading ordered]

theorem toNat_getTimeMicros_sub_of_short {since now : Nat} (ordered : since ≤ now)
    (short : 100 * (now - since) < 2 ^ 32) :
    (getTimeMicros now - getTimeMicros since).toNat = 100 * (now - since) := by
  rw [getTimeMicros_eq_reading, getTimeMicros_eq_reading,
    toNat_reading_sub_reading_of_lt ordered short]

/-- A sample taken before the other one wraps to the far end of the range. -/
theorem toNat_getTimeMicros_sub_of_lt {since now : Nat} (reversed : now < since) :
    (getTimeMicros now - getTimeMicros since).toNat =
      (2 ^ 32 - 100 * (since - now) % 2 ^ 32) % 2 ^ 32 := by
  have forwards := toNat_getTimeMicros_sub (Nat.le_of_lt reversed)
  have nowBound := (getTimeMicros now).isLt
  have sinceBound := (getTimeMicros since).isLt
  rw [BitVec.toNat_sub] at forwards ⊢
  omega

theorem getTimeMicros_zero : getTimeMicros 0 = 0 := by
  rw [getTimeMicros_eq_reading, reading_zero]

/-- `sysinterval_t` (`CH_CFG_INTERVALS_SIZE` is 32). -/
abbrev SysInterval := BitVec 32

def timeImmediate : SysInterval := 0

def timeInfinite : SysInterval := -1

/-- `TIME_US2I`: the product, the rounding and the division are in `time_conv_t`. -/
def timeUS2I (usecs : Micros) : SysInterval :=
  ((usecs.setWidth 64 * chCfgStFrequency + 999999) / 1000000).setWidth 32

theorem toNat_timeUS2I (usecs : Micros) :
    (timeUS2I usecs).toNat = (usecs.toNat * 10000 + 999999) / 1000000 := by
  have bound := usecs.isLt
  have widened : (usecs.setWidth 64).toNat = usecs.toNat := by
    simp only [BitVec.toNat_setWidth]
    omega
  have product : (usecs.setWidth 64 * chCfgStFrequency).toNat = usecs.toNat * 10000 := by
    rw [BitVec.toNat_mul, widened]
    simp only [chCfgStFrequency, BitVec.ofNat_eq_ofNat, BitVec.toNat_ofNat]
    omega
  have numerator : (usecs.setWidth 64 * chCfgStFrequency + 999999).toNat =
      usecs.toNat * 10000 + 999999 := by
    rw [BitVec.toNat_add, product]
    simp only [BitVec.ofNat_eq_ofNat, BitVec.toNat_ofNat]
    omega
  have million : (1000000 : BitVec 64).toNat = 1000000 := rfl
  rw [timeUS2I, BitVec.toNat_setWidth, BitVec.toNat_udiv, numerator, million]
  apply Nat.mod_eq_of_lt
  omega

def timeMS2I (msecs : BitVec 64) : SysInterval :=
  ((msecs * chCfgStFrequency + 999) / 1000).setWidth 32

def timeS2I (secs : BitVec 64) : SysInterval := (secs * chCfgStFrequency).setWidth 32

def chTimeDiffX (start stop : BitVec 32) : SysInterval := stop - start

/-- `chVTTimeElapsedSinceX` at the given true tick. -/
def chVTTimeElapsedSinceX (start : BitVec 32) (time : Nat) : SysInterval :=
  chTimeDiffX start (chVTGetSystemTimeX time)

end XBotFirmware.Platform
