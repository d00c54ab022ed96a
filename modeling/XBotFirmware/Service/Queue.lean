import Mathlib.Algebra.Group.Nat.Defs
import XBotFirmware.Service.ServiceExt

set_option autoImplicit false

/-!
The queue a service sleeps on (`portable/xbot/queue.cpp`).

A service adds up its block time with `TimeoutReached` and hands it to `queuePopItem`,
which converts it to system ticks and fetches from a mailbox of the kernel.
-/

namespace XBotFirmware.Platform

/-- `MSG_OK`, `MSG_TIMEOUT` and `MSG_RESET`. -/
inductive Msg where
  | ok
  | timeout
  | reset
  deriving DecidableEq, Repr

/-- How `chMBFetchTimeout` comes back: its message, the item it stored and the true tick. -/
structure Fetched where
  message : Msg
  item : BitVec 32
  woken : Nat
  deriving DecidableEq, Repr

/-- What the kernel promises of a timeout.  An immediate one does not wait, an infinite
one never comes, and any other comes when its ticks are over. -/
def WaitsOut (called : Nat) (chMBFetchTimeout : SysInterval → Fetched) : Prop :=
  ∀ timeout, called ≤ (chMBFetchTimeout timeout).woken ∧
    ((chMBFetchTimeout timeout).message = .timeout → timeout ≠ timeInfinite ∧
      (timeout ≠ timeImmediate → called + timeout.toNat ≤ (chMBFetchTimeout timeout).woken))

end XBotFirmware.Platform

namespace XBotFirmware.Service

open XBotFirmware.Library XBotFirmware.Platform

def popTimeout (timeoutMicros : Micros) : SysInterval :=
  if 0 < timeoutMicros then timeUS2I timeoutMicros else timeImmediate

def queuePopItem (chMBFetchTimeout : SysInterval → Fetched) (timeoutMicros : Micros) :
    Bool × Fetched :=
  let fetched := chMBFetchTimeout (popTimeout timeoutMicros)
  (fetched.message = .ok && fetched.item ≠ 0, fetched)

/-- The timeout is the block time rounded up to the next tick. -/
theorem popTimeout_ticks {block : Micros} (positive : 0 < block) :
    (popTimeout block).toNat = (block.toNat + 99) / 100 := by
  rw [popTimeout, if_pos positive, toNat_timeUS2I]
  omega

theorem popTimeout_rounded {block : Micros} (positive : 0 < block) :
    block.toNat ≤ 100 * (popTimeout block).toNat ∧
      100 * (popTimeout block).toNat < block.toNat + 100 := by
  rw [popTimeout_ticks positive]
  omega

theorem popTimeout_ne_immediate {block : Micros} (positive : 0 < block) :
    popTimeout block ≠ timeImmediate := by
  intro immediate
  have ticks := popTimeout_ticks positive
  have nonzero : 0 < block.toNat := positive
  rw [immediate] at ticks
  change 0 = _ at ticks
  omega

theorem popTimeout_ne_infinite {block : Micros} (positive : 0 < block) :
    popTimeout block ≠ timeInfinite := by
  intro infinite
  have ticks := popTimeout_ticks positive
  have bound := block.isLt
  rw [infinite] at ticks
  change 4294967295 = _ at ticks
  omega

/-- A service that times out on its queue has slept until a deadline that was pending. -/
theorem exists_reached_of_timeout {chMBFetchTimeout : SysInterval → Fetched} {now called : Nat}
    {deadlines : List Deadline} {block : Micros}
    (counted : IsBlockTime uint32Max.toNat deadlines block.toNat)
    (kernel : WaitsOut called chMBFetchTimeout) (ordered : now ≤ called)
    (timeout : (queuePopItem chMBFetchTimeout block).2.message = .timeout)
    {pending : Deadline} (membership : pending ∈ deadlines) (still : ¬pending.Reached)
    (small : pending.delay ≤ uint32Max.toNat) :
    ∃ deadline ∈ deadlines, ¬deadline.Reached ∧
      (deadline.later (100 * ((queuePopItem chMBFetchTimeout block).2.woken - now))).Reached := by
  have positive : 0 < block := counted.pos (by decide)
  obtain ⟨deadline, listed, unreached, reached⟩ :=
    counted.exists_reached_of_pending membership still small
  obtain ⟨_, slept⟩ := (kernel (popTimeout block)).2 timeout
  have ticks : called + (popTimeout block).toNat ≤ (queuePopItem chMBFetchTimeout block).2.woken :=
    slept (popTimeout_ne_immediate positive)
  have enough := (popTimeout_rounded positive).1
  exact ⟨deadline, listed, unreached, reached.mono (by omega)⟩

/-- A timestamp that a service compares with a delay, and the tick it was taken at. -/
structure Wait where
  since : Nat
  delay : Micros
  deriving DecidableEq, Repr

namespace Wait

def duration (wait : Wait) (now : Nat) : Micros := getTimeMicros now - getTimeMicros wait.since

def deadline (wait : Wait) (now : Nat) : Deadline := waitingFor (wait.duration now) wait.delay

def Over (wait : Wait) (now : Nat) : Prop := wait.delay.toNat ≤ 100 * (now - wait.since)

instance (wait : Wait) (now : Nat) : Decidable (wait.Over now) :=
  inferInstanceAs (Decidable (_ ≤ _))

end Wait

/-- A service calls `TimeoutReached` for one wait after the other. -/
def blockTime (now : Nat) (waits : List Wait) (limit : Micros) : Micros :=
  waits.foldl (fun block wait => (timeoutReached (wait.duration now) wait.delay block).2) limit

theorem isBlockTime_foldl (now : Nat) (waits : List Wait) {block : Micros}
    {deadlines : List Deadline}
    (counted : IsBlockTime uint32Max.toNat deadlines block.toNat) :
    IsBlockTime uint32Max.toNat (deadlines ++ waits.map (·.deadline now))
      (blockTime now waits block).toNat := by
  induction waits generalizing block deadlines with
  | nil => simpa [blockTime] using counted
  | cons wait rest inductionHypothesis =>
      have next := inductionHypothesis
        (isBlockTime_timeoutReached (wait.duration now) wait.delay counted)
      rwa [List.append_assoc] at next

theorem isBlockTime_blockTime (now : Nat) (waits : List Wait) :
    IsBlockTime uint32Max.toNat (waits.map (·.deadline now))
      (blockTime now waits uint32Max).toNat :=
  isBlockTime_foldl now waits (.nil _)

theorem Wait.over_of_reached {wait : Wait} {now woken : Nat} (since : wait.since ≤ now)
    (later : now ≤ woken)
    (reached : ((wait.deadline now).later (100 * (woken - now))).Reached) : wait.Over woken := by
  have elapsed : (wait.duration now).toNat ≤ 100 * (now - wait.since) := by
    rw [Wait.duration, toNat_getTimeMicros_sub since]
    exact Nat.mod_le _ _
  simp only [Wait.deadline, waitingFor, Deadline.Reached, Deadline.later] at reached
  unfold Wait.Over
  omega

theorem timeoutReached_of_over {wait : Wait} {now : Nat} (ended : wait.Over now)
    (ordered : wait.since ≤ now) (short : 100 * (now - wait.since) < 2 ^ 32) (block : Micros) :
    (timeoutReached (wait.duration now) wait.delay block).1 = true := by
  rw [timeoutReached_fst, Wait.duration, toNat_getTimeMicros_sub_of_short ordered short]
  exact decide_eq_true ended

/-- Differences of timestamps are exact across both wraps, the queue timeout covers the
block time by less than a tick, and no service times out ahead of all its deadlines. -/
theorem elapsed_time_survives_wraps :
    (∀ time elapsed : Nat, 100 * elapsed < 2 ^ 32 →
      (getTimeMicros (time + elapsed) - getTimeMicros time).toNat = 100 * elapsed) ∧
    (∀ block : Micros, 0 < block → ∃ timeout : SysInterval,
      (∀ chMBFetchTimeout, (queuePopItem chMBFetchTimeout block).2 = chMBFetchTimeout timeout) ∧
      timeout.toNat = (block.toNat * 10000 + 999999) / 1000000 ∧
      block.toNat ≤ 100 * timeout.toNat ∧ 100 * timeout.toNat < block.toNat + 100 ∧
      timeout ≠ timeImmediate ∧ timeout ≠ timeInfinite) ∧
    ∀ (chMBFetchTimeout : SysInterval → Fetched) (now called : Nat) (waits : List Wait),
      WaitsOut called chMBFetchTimeout → now ≤ called → (∀ wait ∈ waits, wait.since ≤ now) →
      (∃ wait ∈ waits, ¬(wait.deadline now).Reached) →
      let popped := (queuePopItem chMBFetchTimeout (blockTime now waits uint32Max)).2
      popped.message = .timeout →
        ∃ wait ∈ waits, ¬(wait.deadline now).Reached ∧ wait.Over popped.woken ∧
          (100 * (popped.woken - wait.since) < 2 ^ 32 → ∀ block,
            (timeoutReached (wait.duration popped.woken) wait.delay block).1 = true) := by
  refine ⟨?_, ?_, ?_⟩
  · intro time elapsed short
    have difference : time + elapsed - time = elapsed := Nat.add_sub_cancel_left ..
    rw [← difference] at short
    rw [toNat_getTimeMicros_sub_of_short (Nat.le_add_right time elapsed) short, difference]
  · intro block positive
    obtain ⟨enough, close⟩ := popTimeout_rounded positive
    refine ⟨popTimeout block, fun _ => rfl, ?_, enough, close, popTimeout_ne_immediate positive,
      popTimeout_ne_infinite positive⟩
    rw [popTimeout, if_pos positive, toNat_timeUS2I]
  · rintro chMBFetchTimeout now called waits kernel ordered sampled ⟨pending, membership, still⟩
      popped timeout
    have small : (pending.deadline now).delay ≤ uint32Max.toNat :=
      Nat.le_sub_one_of_lt pending.delay.isLt
    obtain ⟨deadline, listed, unreached, reached⟩ :=
      exists_reached_of_timeout (isBlockTime_blockTime now waits) kernel ordered timeout
        (List.mem_map_of_mem membership) still small
    obtain ⟨wait, waiting, rfl⟩ := List.mem_map.mp listed
    have since := sampled wait waiting
    have later : now ≤ popped.woken :=
      Nat.le_trans ordered (kernel (popTimeout (blockTime now waits uint32Max))).1
    have ended : wait.Over popped.woken := Wait.over_of_reached since later reached
    exact ⟨wait, waiting, unreached, ended, fun short block =>
      timeoutReached_of_over ended (Nat.le_trans since later) short block⟩

/-- A kernel that comes back in time on an empty queue. -/
def emptyFetch (called : Nat) (timeout : SysInterval) : Fetched :=
  if timeout = timeInfinite then ⟨.reset, 0, called⟩ else ⟨.timeout, 0, called + timeout.toNat⟩

theorem waitsOut_emptyFetch (called : Nat) : WaitsOut called (emptyFetch called) := by
  intro timeout
  unfold emptyFetch
  split
  next infinite => exact ⟨Nat.le_refl called, fun impossible => nomatch impossible⟩
  next finite =>
    exact ⟨Nat.le_add_right _ _, fun _ => ⟨finite, fun _ => Nat.le_refl _⟩⟩

/-- The tick counter wraps while the service waits a second from a quarter of a second
before the wrap on. -/
theorem elapsed_time_survives_tick_wrap :
    (getTimeMicros (4294964796 + 10000) - getTimeMicros 4294964796).toNat = 1000000 ∧
      (∃ timeout, queuePopItem (emptyFetch 0) uint32Max = (false, emptyFetch 0 timeout) ∧
        timeout ≠ timeInfinite) ∧
      ∃ wait ∈ [Wait.mk 4294964796 1000000], ¬(wait.deadline 4294964800).Reached ∧
        wait.Over (queuePopItem (emptyFetch 4294964801)
          (blockTime 4294964800 [Wait.mk 4294964796 1000000] uint32Max)).2.woken := by
  obtain ⟨difference, ticks, slept⟩ := elapsed_time_survives_wraps
  obtain ⟨timeout, asked, _, _, _, _, finite⟩ := ticks uint32Max (by decide)
  have empty : (queuePopItem (emptyFetch 0) uint32Max).1 = false := by decide
  have popped : queuePopItem (emptyFetch 0) uint32Max = (false, emptyFetch 0 timeout) :=
    Prod.ext empty (asked (emptyFetch 0))
  refine ⟨difference 4294964796 10000 (by decide), ⟨timeout, popped, finite⟩, ?_⟩
  obtain ⟨wait, waiting, unreached, ended, _⟩ :=
    slept (emptyFetch 4294964801) 4294964800 4294964801 [⟨4294964796, 1000000⟩]
      (waitsOut_emptyFetch 4294964801) (by decide) (by decide) (by decide) (by decide)
  exact ⟨wait, waiting, unreached, ended⟩

end XBotFirmware.Service
