import Mathlib.Data.List.Basic

set_option autoImplicit false

/-!
Mutexes that are taken in the order of a rank and given back in reverse.

A program is seen through its calls of lock and unlock.  `Disciplined` follows
the stack of the mutexes that a thread holds; a mutex that it holds already may be
taken again.
-/

namespace XBotFirmware.Library

universe u v

inductive LockAction (Mutex : Type u) where
  | lock (mutex : Mutex)
  | unlock (mutex : Mutex)
  deriving DecidableEq, Repr

variable {Mutex : Type u}

def locked (mutex : Mutex) (body : List (LockAction Mutex)) : List (LockAction Mutex) :=
  .lock mutex :: body ++ [.unlock mutex]

/-- From a stack of held mutexes on, each mutex is new and above all that are held or
held already, each unlock gives back the last one, and nothing is held at the end. -/
def Disciplined (rank : Mutex → Nat) : List Mutex → List (LockAction Mutex) → Prop
  | held, [] => held = []
  | held, .lock mutex :: rest =>
      (mutex ∈ held ∨ ∀ other ∈ held, rank other < rank mutex) ∧
        Disciplined rank (mutex :: held) rest
  | held, .unlock mutex :: rest => ∃ below, held = mutex :: below ∧ Disciplined rank below rest

theorem Disciplined.actions_ne_nil {rank : Mutex → Nat} {held : List Mutex}
    {actions : List (LockAction Mutex)} (disciplined : Disciplined rank held actions)
    (holding : held ≠ []) : actions ≠ [] := by
  rintro rfl
  exact holding disciplined

/-- A part of a program that can stand wherever these mutexes are held, and leaves them. -/
def Nests (rank : Mutex → Nat) (held : List Mutex) (actions : List (LockAction Mutex)) : Prop :=
  ∀ rest, Disciplined rank held rest → Disciplined rank held (actions ++ rest)

section Nests

variable {rank : Mutex → Nat} {held : List Mutex}

theorem Nests.nil : Nests rank held [] := fun _ disciplined => disciplined

theorem Nests.append {first second : List (LockAction Mutex)} (nestsFirst : Nests rank held first)
    (nestsSecond : Nests rank held second) : Nests rank held (first ++ second) := by
  intro rest disciplined
  rw [List.append_assoc]
  exact nestsFirst _ (nestsSecond rest disciplined)

theorem Nests.ite {first second : List (LockAction Mutex)} (condition : Bool)
    (nestsFirst : Nests rank held first) (nestsSecond : Nests rank held second) :
    Nests rank held (if condition then first else second) := by
  cases condition with
  | false => exact nestsSecond
  | true => exact nestsFirst

theorem Nests.flatMap {Call : Type v} {calls : List Call}
    {actions : Call → List (LockAction Mutex)} (nests : ∀ call, Nests rank held (actions call)) :
    Nests rank held (calls.flatMap actions) := by
  induction calls with
  | nil => exact .nil
  | cons call calls inductionHypothesis =>
      rw [List.flatMap_cons]
      exact (nests call).append inductionHypothesis

theorem Nests.locked {mutex : Mutex} {body : List (LockAction Mutex)}
    (admitted : mutex ∈ held ∨ ∀ other ∈ held, rank other < rank mutex)
    (nests : Nests rank (mutex :: held) body) : Nests rank held (locked mutex body) := by
  intro rest disciplined
  have inside : Disciplined rank (mutex :: held) (body ++ .unlock mutex :: rest) :=
    nests _ ⟨held, rfl, disciplined⟩
  rw [Library.locked, List.cons_append, List.cons_append, List.append_assoc,
    List.singleton_append]
  exact ⟨admitted, inside⟩

theorem Nests.disciplined {actions : List (LockAction Mutex)} (nests : Nests rank [] actions) :
    Disciplined rank [] actions := by
  have whole := nests [] rfl
  rwa [List.append_nil] at whole

end Nests

/-- Where the holder of a mutex waits only for mutexes above it, the threads cannot all
wait: following the holders from any thread leads to one that goes on. -/
theorem exists_not_waiting {Thread : Type v} {rank : Mutex → Nat} {bound : Nat}
    {active : Thread → Prop} {waits holds : Thread → Mutex → Prop}
    (bounded : ∀ mutex, rank mutex ≤ bound)
    (held : ∀ thread mutex, waits thread mutex → ∃ holder, active holder ∧ holds holder mutex)
    (upward : ∀ thread mutex other, holds thread mutex → waits thread other →
      rank mutex < rank other)
    {thread : Thread} (inside : active thread) :
    ∃ other, active other ∧ ∀ mutex, ¬ waits other mutex := by
  by_contra! stuck
  -- The rank of the awaited mutex grows along the holders, and it is bounded.
  have climbs : ∀ gap other mutex, active other → waits other mutex →
      bound - rank mutex = gap → False := by
    intro gap
    induction gap using Nat.strongRecOn with
    | ind gap inductionHypothesis =>
        intro other mutex _ waiting distance
        obtain ⟨holder, activeHolder, holding⟩ := held other mutex waiting
        obtain ⟨next, waitingNext⟩ := stuck holder activeHolder
        have above := upward holder mutex next holding waitingNext
        have below := bounded next
        exact inductionHypothesis (bound - rank next) (by omega) holder next activeHolder
          waitingNext rfl
  obtain ⟨mutex, waiting⟩ := stuck thread inside
  exact climbs _ thread mutex inside waiting rfl

end XBotFirmware.Library
