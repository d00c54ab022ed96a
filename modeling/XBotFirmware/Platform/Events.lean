import XBotFirmware.Library.Flags

set_option autoImplicit false

/-!
Kernel events (`os/rt/src/chevents.c`), for the one listener that `mower_events`
has, and the flags of that source (`src/globals.hpp`).
-/

namespace XBotFirmware.Platform

open XBotFirmware.Library

/-- `eventflags_t`. -/
abbrev EventFlags := BitVec 32

def emergencyChanged : EventFlags := BitVec.twoPow 32 0

def inputsChanged : EventFlags := BitVec.twoPow 32 1

/-- A listener registered with `chEvtRegister`, so for all flags, and whether its
event is in the `epending` mask of its thread. -/
structure EventListener where
  flags : EventFlags
  pending : Bool
  deriving DecidableEq, Repr

namespace EventListener

def initial : EventListener := ⟨0, false⟩

/-- `chEvtBroadcastFlags`. -/
def broadcastFlags (listener : EventListener) (flags : EventFlags) : EventListener where
  flags := listener.flags ||| flags
  pending := true

/-- `chEvtWaitAnyTimeout` without a timeout, which returns only for a pending event. -/
def waitAny (listener : EventListener) : Option EventListener :=
  if listener.pending then some { listener with pending := false } else none

/-- `chEvtGetAndClearFlags`. -/
def getAndClearFlags (listener : EventListener) : EventListener × EventFlags :=
  ({ listener with flags := 0 }, listener.flags)

def EmergencyPending (listener : EventListener) : Prop :=
  listener.flags &&& emergencyChanged ≠ 0

instance (listener : EventListener) : Decidable listener.EmergencyPending :=
  inferInstanceAs (Decidable (_ ≠ _))

theorem emergencyPending_iff (listener : EventListener) :
    listener.EmergencyPending ↔ listener.flags.getLsbD 0 = true :=
  and_twoPow_ne_zero_iff listener.flags 0

theorem emergencyPending_broadcast (listener : EventListener) :
    (listener.broadcastFlags emergencyChanged).EmergencyPending := by
  rw [emergencyPending_iff, broadcastFlags, BitVec.getLsbD_or]
  simp [emergencyChanged]

theorem EmergencyPending.broadcastFlags {listener : EventListener}
    (held : listener.EmergencyPending) (flags : EventFlags) :
    (listener.broadcastFlags flags).EmergencyPending := by
  rw [emergencyPending_iff] at held ⊢
  simp [EventListener.broadcastFlags, held]

theorem waitAny_flags {listener next : EventListener} (woken : listener.waitAny = some next) :
    next.flags = listener.flags := by
  unfold waitAny at woken
  split at woken
  · cases woken
    rfl
  · cases woken

end EventListener

end XBotFirmware.Platform
