import Mathlib.Data.List.Basic

set_option autoImplicit false

/-!
Counting semaphores with a queue of waiting threads.

The counter of a semaphore on which threads wait is negative and says how many
they are; a signal then releases the first of them and makes no token available.
-/

namespace XBotFirmware.Library

universe u

structure Semaphore (Thread : Type u) where
  cnt : Int
  queue : List Thread
  consistent : (queue.length : Int) = max (-cnt) 0

namespace Semaphore

variable {Thread : Type u}

def init (tokens : Nat) : Semaphore Thread where
  cnt := tokens
  queue := []
  consistent := by
    rw [List.length_nil]
    omega

/-- Take a token, or join the queue; the flag says whether the caller goes on. -/
def wait (semaphore : Semaphore Thread) (caller : Thread) : Semaphore Thread × Bool :=
  if below : semaphore.cnt - 1 < 0 then
    (⟨semaphore.cnt - 1, semaphore.queue ++ [caller], by
      have consistent := semaphore.consistent
      rw [List.length_append, List.length_singleton]
      omega⟩, false)
  else
    (⟨semaphore.cnt - 1, semaphore.queue, by
      have consistent := semaphore.consistent
      omega⟩, true)

/-- Give a token back and release the first thread of the queue, if one waits. -/
def signal (semaphore : Semaphore Thread) : Semaphore Thread × Option Thread :=
  if waiting : semaphore.cnt + 1 ≤ 0 then
    (⟨semaphore.cnt + 1, semaphore.queue.tail, by
      have consistent := semaphore.consistent
      rw [List.length_tail]
      omega⟩, semaphore.queue.head?)
  else
    (⟨semaphore.cnt + 1, semaphore.queue, by
      have consistent := semaphore.consistent
      omega⟩, none)

def available (semaphore : Semaphore Thread) : Nat := semaphore.cnt.toNat

@[simp]
theorem available_init (tokens : Nat) : (init tokens : Semaphore Thread).available = tokens :=
  Int.toNat_natCast tokens

theorem available_wait (semaphore : Semaphore Thread) (caller : Thread) :
    (semaphore.wait caller).1.available + (if (semaphore.wait caller).2 then 1 else 0) =
      semaphore.available := by
  unfold wait
  split
  next below =>
    simp only [available, Bool.false_eq_true, if_false]
    omega
  next enough =>
    simp only [available, if_true]
    omega

theorem available_signal (semaphore : Semaphore Thread) :
    semaphore.signal.1.available + semaphore.signal.2.toList.length =
      semaphore.available + 1 := by
  unfold signal
  split
  next waiting =>
    have consistent := semaphore.consistent
    have someone : semaphore.queue ≠ [] := by
      intro empty
      rw [empty, List.length_nil] at consistent
      omega
    simp only [available, List.head?_eq_some_head someone, Option.toList_some,
      List.length_singleton]
    omega
  next nobody =>
    simp only [available, Option.toList_none, List.length_nil]
    omega

end Semaphore

end XBotFirmware.Library
