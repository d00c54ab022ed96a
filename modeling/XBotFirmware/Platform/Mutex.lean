import XBotFirmware.Library.LockOrder
import XBotFirmware.Library.Run
import Mathlib.Algebra.BigOperators.Group.Finset.Basic
import Mathlib.Algebra.Order.BigOperators.Group.Finset
import Mathlib.Data.List.Dedup

set_option autoImplicit false

/-!
The mutexes of the kernel (`os/rt/src/chmtx.c`, with `CH_CFG_USE_MUTEXES_RECURSIVE`)
and threads that run programs of `chMtxLock` and `chMtxUnlock`.

A failed `chDbgAssert` yields `none`.  Priorities decide which waiting thread gets a
mutex that is given back; here the step says which one, so that every order of the
priorities is covered.
-/

namespace XBotFirmware.Platform

open XBotFirmware.Library

universe u v w

/-- `mutex_t`. -/
structure MutexObject (Thread : Type u) where
  owner : Option Thread
  cnt : Nat
  queue : List Thread
  deriving DecidableEq, Repr

def chMtxObjectInit {Thread : Type u} : MutexObject Thread where
  owner := none
  cnt := 0
  queue := []

inductive ThreadState (Mutex : Type v) where
  | current
  /-- `CH_STATE_WTMTX`: asleep in `chMtxLockS`. -/
  | wtmtx (mp : Mutex)
  /-- `CH_STATE_READY`: given the mutex, and still in `chMtxLockS`. -/
  | ready (mp : Mutex)
  deriving DecidableEq, Repr

structure MutexKernel (Thread : Type u) (Mutex : Type v) where
  mutexes : Mutex → MutexObject Thread
  mtxlist : Thread → List Mutex
  state : Thread → ThreadState Mutex

namespace MutexKernel

variable {Thread : Type u} {Mutex : Type v} [DecidableEq Thread] [DecidableEq Mutex]

def chSysInit : MutexKernel Thread Mutex where
  mutexes := fun _ => chMtxObjectInit
  mtxlist := fun _ => []
  state := fun _ => .current

def chMtxLock (kernel : MutexKernel Thread Mutex) (currtp : Thread) (mp : Mutex) :
    Option (MutexKernel Thread Mutex) :=
  let object := kernel.mutexes mp
  match object.owner with
  | some owner =>
      if 1 ≤ object.cnt then
        if owner = currtp then
          some { kernel with
            mutexes := Function.update kernel.mutexes mp { object with cnt := object.cnt + 1 } }
        else
          some { kernel with
            mutexes := Function.update kernel.mutexes mp
              { object with queue := object.queue ++ [currtp] }
            state := Function.update kernel.state currtp (.wtmtx mp) }
      else none
  | none =>
      if object.cnt = 0 then
        some { kernel with
          mutexes := Function.update kernel.mutexes mp
            { object with owner := some currtp, cnt := object.cnt + 1 }
          mtxlist := Function.update kernel.mtxlist currtp (mp :: kernel.mtxlist currtp) }
      else none

/-- The end of `chMtxLockS` for a thread that slept in it. -/
def resume (kernel : MutexKernel Thread Mutex) (currtp : Thread) (mp : Mutex) :
    Option (MutexKernel Thread Mutex) :=
  if (kernel.mutexes mp).owner = some currtp ∧ (kernel.mtxlist currtp).head? = some mp ∧
      (kernel.mutexes mp).cnt = 1 then
    some { kernel with state := Function.update kernel.state currtp .current }
  else none

/-- The part of `chMtxUnlock` that hands the mutex on, to the waiting thread at `chosen`
modulo the length of the queue. -/
def handOn (kernel : MutexKernel Thread Mutex) (mp : Mutex) (chosen : Nat) :
    MutexKernel Thread Mutex :=
  let object := kernel.mutexes mp
  match object.queue[chosen % object.queue.length]? with
  | none =>
      { kernel with
        mutexes := Function.update kernel.mutexes mp { object with owner := none, cnt := 0 } }
  | some tp =>
      { mutexes := Function.update kernel.mutexes mp
          { owner := some tp, cnt := 1, queue := object.queue.erase tp }
        mtxlist := Function.update kernel.mtxlist tp (mp :: kernel.mtxlist tp)
        state := Function.update kernel.state tp (.ready mp) }

def chMtxUnlock (kernel : MutexKernel Thread Mutex) (currtp : Thread) (mp : Mutex)
    (chosen : Nat) : Option (MutexKernel Thread Mutex) :=
  let object := kernel.mutexes mp
  match kernel.mtxlist currtp with
  | [] => none
  | first :: others =>
      if (kernel.mutexes first).owner = some currtp ∧ 1 ≤ object.cnt then
        if object.cnt - 1 = 0 then
          if first = mp then
            some (handOn
              { kernel with mtxlist := Function.update kernel.mtxlist currtp others } mp chosen)
          else none
        else
          some { kernel with
            mutexes := Function.update kernel.mutexes mp { object with cnt := object.cnt - 1 } }
      else none

section Branches

variable {kernel : MutexKernel Thread Mutex} {currtp : Thread} {mp : Mutex}

theorem chMtxLock_free (unowned : (kernel.mutexes mp).owner = none)
    (zero : (kernel.mutexes mp).cnt = 0) :
    kernel.chMtxLock currtp mp = some { kernel with
      mutexes := Function.update kernel.mutexes mp
        { owner := some currtp, cnt := 1, queue := (kernel.mutexes mp).queue }
      mtxlist := Function.update kernel.mtxlist currtp (mp :: kernel.mtxlist currtp) } := by
  simp [chMtxLock, unowned, zero]

theorem chMtxLock_again (own : (kernel.mutexes mp).owner = some currtp)
    (counted : 1 ≤ (kernel.mutexes mp).cnt) :
    kernel.chMtxLock currtp mp = some { kernel with
      mutexes := Function.update kernel.mutexes mp
        { owner := some currtp, cnt := (kernel.mutexes mp).cnt + 1,
          queue := (kernel.mutexes mp).queue } } := by
  simp [chMtxLock, own, counted]

theorem chMtxLock_waits {owner : Thread} (owned : (kernel.mutexes mp).owner = some owner)
    (counted : 1 ≤ (kernel.mutexes mp).cnt) (foreign : owner ≠ currtp) :
    kernel.chMtxLock currtp mp = some { kernel with
      mutexes := Function.update kernel.mutexes mp
        { owner := some owner, cnt := (kernel.mutexes mp).cnt,
          queue := (kernel.mutexes mp).queue ++ [currtp] }
      state := Function.update kernel.state currtp (.wtmtx mp) } := by
  simp [chMtxLock, owned, counted, foreign]

theorem chMtxUnlock_inner {first : Mutex} {others : List Mutex} {chosen : Nat}
    (list : kernel.mtxlist currtp = first :: others)
    (own : (kernel.mutexes first).owner = some currtp) (nested : 2 ≤ (kernel.mutexes mp).cnt) :
    kernel.chMtxUnlock currtp mp chosen = some { kernel with
      mutexes := Function.update kernel.mutexes mp
        { owner := (kernel.mutexes mp).owner, cnt := (kernel.mutexes mp).cnt - 1,
          queue := (kernel.mutexes mp).queue } } := by
  have counted : 1 ≤ (kernel.mutexes mp).cnt := by omega
  have remains : (kernel.mutexes mp).cnt - 1 ≠ 0 := by omega
  simp [chMtxUnlock, list, own, counted, remains]

theorem chMtxUnlock_free {others : List Mutex} {chosen : Nat}
    (list : kernel.mtxlist currtp = mp :: others)
    (own : (kernel.mutexes mp).owner = some currtp) (once : (kernel.mutexes mp).cnt = 1)
    (nobody : (kernel.mutexes mp).queue = []) :
    kernel.chMtxUnlock currtp mp chosen = some { kernel with
      mutexes := Function.update kernel.mutexes mp chMtxObjectInit
      mtxlist := Function.update kernel.mtxlist currtp others } := by
  simp [chMtxUnlock, handOn, chMtxObjectInit, list, own, once, nobody]

theorem chMtxUnlock_handOn {others : List Mutex} {chosen : Nat} {tp : Thread}
    (list : kernel.mtxlist currtp = mp :: others)
    (own : (kernel.mutexes mp).owner = some currtp) (once : (kernel.mutexes mp).cnt = 1)
    (waiting : (kernel.mutexes mp).queue[chosen % (kernel.mutexes mp).queue.length]? = some tp)
    (foreign : tp ≠ currtp) :
    kernel.chMtxUnlock currtp mp chosen = some {
      mutexes := Function.update kernel.mutexes mp
        { owner := some tp, cnt := 1, queue := (kernel.mutexes mp).queue.erase tp }
      mtxlist := Function.update (Function.update kernel.mtxlist currtp others) tp
        (mp :: kernel.mtxlist tp)
      state := Function.update kernel.state tp (.ready mp) } := by
  simp [chMtxUnlock, handOn, list, own, once, waiting, Function.update_of_ne foreign]

theorem chMtxLock_state {after : MutexKernel Thread Mutex}
    (executed : kernel.chMtxLock currtp mp = some after) :
    after.state = kernel.state ∨
      after.state = Function.update kernel.state currtp (.wtmtx mp) := by
  unfold chMtxLock at executed
  grind

theorem resume_state {after : MutexKernel Thread Mutex}
    (executed : kernel.resume currtp mp = some after) :
    after.state = Function.update kernel.state currtp .current := by
  unfold resume at executed
  grind

theorem chMtxUnlock_state {chosen : Nat} {after : MutexKernel Thread Mutex}
    (executed : kernel.chMtxUnlock currtp mp chosen = some after) :
    after.state = kernel.state ∨ ∃ tp ∈ (kernel.mutexes mp).queue,
      after.state = Function.update kernel.state tp (.ready mp) := by
  unfold chMtxUnlock handOn at executed
  grind [List.mem_of_getElem?]

end Branches

end MutexKernel

structure LockingThreads (Thread : Type u) (Mutex : Type v) where
  kernel : MutexKernel Thread Mutex
  todo : Thread → List (LockAction Mutex)

inductive LockingStep (Thread : Type u) (Operation : Type w) where
  | enter (thread : Thread) (operation : Operation)
  /-- The thread goes on; `chosen` is the waiting thread that an unlock hands on to. -/
  | act (thread : Thread) (chosen : Nat)
  deriving DecidableEq, Repr

namespace LockingThreads

variable {Thread : Type u} {Mutex : Type v} {Operation : Type w}

def boot : LockingThreads Thread Mutex where
  kernel := .chSysInit
  todo := fun _ => []

section Step

variable [DecidableEq Thread] [DecidableEq Mutex]

def act (threads : LockingThreads Thread Mutex) (thread : Thread) (chosen : Nat) :
    Option (LockingThreads Thread Mutex) :=
  match threads.kernel.state thread with
  | .wtmtx _ => none
  | .ready mp =>
      (threads.kernel.resume thread mp).map fun kernel => { threads with kernel := kernel }
  | .current =>
      match threads.todo thread with
      | [] => none
      | .lock mp :: rest =>
          (threads.kernel.chMtxLock thread mp).map fun kernel =>
            ⟨kernel, Function.update threads.todo thread rest⟩
      | .unlock mp :: rest =>
          (threads.kernel.chMtxUnlock thread mp chosen).map fun kernel =>
            ⟨kernel, Function.update threads.todo thread rest⟩

def step (program : Operation → List (LockAction Mutex)) (threads : LockingThreads Thread Mutex) :
    LockingStep Thread Operation → Option (LockingThreads Thread Mutex)
  | .enter thread operation =>
      if threads.todo thread = [] then
        some { threads with todo := Function.update threads.todo thread (program operation) }
      else none
  | .act thread chosen => threads.act thread chosen

end Step

variable [DecidableEq Mutex]

/-- What the state of a thread says about the mutexes it holds and its remaining actions. -/
def Follows (rank : Mutex → Nat) (held : List Mutex) (todo : List (LockAction Mutex)) :
    ThreadState Mutex → Prop
  | .current => Disciplined rank held todo
  | .wtmtx mp => (∀ other ∈ held, rank other < rank mp) ∧ Disciplined rank (mp :: held) todo
  | .ready mp => ∃ below, held = mp :: below ∧ mp ∉ below ∧ Disciplined rank held todo

/-- A mutex object is free, or it has the one thread that holds it and those that wait. -/
inductive Agrees (held : Thread → List Mutex) (state : Thread → ThreadState Mutex) (mp : Mutex) :
    MutexObject Thread → Prop where
  | free (unheld : ∀ thread, mp ∉ held thread) (nobody : ∀ thread, state thread ≠ .wtmtx mp) :
      Agrees held state mp chMtxObjectInit
  | owned {holder : Thread} {queue : List Thread} (holding : mp ∈ held holder)
      (only : ∀ thread, mp ∈ held thread → thread = holder)
      (waiting : ∀ thread, thread ∈ queue ↔ state thread = .wtmtx mp) (nodup : queue.Nodup) :
      Agrees held state mp ⟨some holder, (held holder).count mp, queue⟩

structure Sound (rank : Mutex → Nat) (threads : LockingThreads Thread Mutex)
    (held : Thread → List Mutex) : Prop where
  follows : ∀ thread,
    Follows rank (held thread) (threads.todo thread) (threads.kernel.state thread)
  mtxlist : ∀ thread, threads.kernel.mtxlist thread = (held thread).dedup
  agrees : ∀ mp, Agrees held threads.kernel.state mp (threads.kernel.mutexes mp)

variable {rank : Mutex → Nat} {threads : LockingThreads Thread Mutex}
variable {held : Thread → List Mutex}

theorem boot_sound (rank : Mutex → Nat) :
    Sound rank (boot : LockingThreads Thread Mutex) fun _ => [] where
  follows := fun _ => rfl
  mtxlist := fun _ => rfl
  agrees := by
    intro mp
    exact .free (fun _ => List.not_mem_nil) (fun _ => by simp [boot, MutexKernel.chSysInit])

theorem Agrees.of_holder {held : Thread → List Mutex} {state : Thread → ThreadState Mutex}
    {mp : Mutex} {holder : Thread} {cnt : Nat} {queue : List Thread}
    (counted : cnt = (held holder).count mp) (holding : mp ∈ held holder)
    (only : ∀ thread, mp ∈ held thread → thread = holder)
    (waiting : ∀ thread, thread ∈ queue ↔ state thread = .wtmtx mp) (nodup : queue.Nodup) :
    Agrees held state mp ⟨some holder, cnt, queue⟩ := by
  rw [counted]
  exact .owned holding only waiting nodup

theorem Agrees.frame {held after : Thread → List Mutex} {state next : Thread → ThreadState Mutex}
    {mp : Mutex} {object : MutexObject Thread} (agrees : Agrees held state mp object)
    (counts : ∀ thread, (after thread).count mp = (held thread).count mp)
    (waits : ∀ thread, next thread = .wtmtx mp ↔ state thread = .wtmtx mp) :
    Agrees after next mp object := by
  have members : ∀ thread, mp ∈ after thread ↔ mp ∈ held thread := by
    intro thread
    rw [← List.count_pos_iff, ← List.count_pos_iff, counts thread]
  cases agrees with
  | free unheld nobody =>
      exact .free (fun thread => (members thread).not.mpr (unheld thread))
        (fun thread => (waits thread).not.mpr (nobody thread))
  | owned holding only waiting nodup =>
      rw [← counts]
      exact .owned ((members _).mpr holding)
        (fun thread holds => only thread ((members thread).mp holds))
        (fun thread => (waiting thread).trans (waits thread).symm) nodup

variable [DecidableEq Thread]

theorem enter_sound {program : List (LockAction Mutex)} {thread : Thread}
    (sound : Sound rank threads held) (disciplined : Disciplined rank [] program)
    (idle : threads.todo thread = []) :
    Sound rank { threads with todo := Function.update threads.todo thread program } held where
  follows := by
    intro other
    have follows := sound.follows other
    by_cases same : other = thread
    · subst same
      rw [idle] at follows
      -- Nothing is left to do, so nothing is held and the thread does not sleep.
      cases stateEq : threads.kernel.state other with
      | current =>
          rw [stateEq] at follows
          have none : held other = [] := follows
          simpa [Follows, none] using disciplined
      | wtmtx mp =>
          rw [stateEq] at follows
          exact absurd follows.2 (by simp [Disciplined])
      | ready mp =>
          rw [stateEq] at follows
          obtain ⟨below, heldEq, -, finished⟩ := follows
          rw [heldEq] at finished
          exact absurd finished (by simp [Disciplined])
    · simpa [Function.update_of_ne same] using follows
  mtxlist := sound.mtxlist
  agrees := sound.agrees

section Act

variable {currtp : Thread} {mp : Mutex} {rest : List (LockAction Mutex)}

theorem Sound.change {object : MutexObject Thread} {list stack : List Mutex}
    {status : ThreadState Mutex} (sound : Sound rank threads held)
    (follows : Follows rank stack rest status) (listed : list = stack.dedup)
    (counts : ∀ other, other ≠ mp → stack.count other = (held currtp).count other)
    (waits : ∀ other, other ≠ mp →
      (status = .wtmtx other ↔ threads.kernel.state currtp = .wtmtx other))
    (agrees : Agrees (Function.update held currtp stack)
      (Function.update threads.kernel.state currtp status) mp object) :
    Sound rank
      ⟨⟨Function.update threads.kernel.mutexes mp object,
        Function.update threads.kernel.mtxlist currtp list,
        Function.update threads.kernel.state currtp status⟩,
        Function.update threads.todo currtp rest⟩
      (Function.update held currtp stack) where
  follows := by
    intro thread
    have others := sound.follows thread
    grind
  mtxlist := by
    intro thread
    have others := sound.mtxlist thread
    grind
  agrees := by
    intro other
    by_cases same : other = mp
    · subst same
      simpa using agrees
    · simp only [Function.update_of_ne same]
      apply (sound.agrees other).frame
      · intro thread
        have same := counts other same
        grind
      · intro thread
        have same := waits other same
        grind

omit [DecidableEq Thread] in
theorem Sound.owner_of_mem (sound : Sound rank threads held) (holds : mp ∈ held currtp) :
    (threads.kernel.mutexes mp).owner = some currtp := by
  have agrees := sound.agrees mp
  generalize threads.kernel.mutexes mp = object at agrees
  cases agrees with
  | free unheld nobody => exact absurd holds (unheld currtp)
  | owned holding only waiting nodup => rw [only currtp holds]

omit [DecidableEq Thread] in
theorem Sound.asleep_of_queue {thread : Thread} (sound : Sound rank threads held)
    (queued : thread ∈ (threads.kernel.mutexes mp).queue) :
    threads.kernel.state thread = .wtmtx mp := by
  have agrees := sound.agrees mp
  generalize threads.kernel.mutexes mp = object at agrees queued
  cases agrees with
  | free unheld nobody => exact absurd queued List.not_mem_nil
  | owned holding only waiting nodup => exact (waiting thread).mp queued

theorem lock_sound (sound : Sound rank threads held)
    (current : threads.kernel.state currtp = .current)
    (next : threads.todo currtp = .lock mp :: rest) :
    ∃ kernel after, threads.kernel.chMtxLock currtp mp = some kernel ∧
      Sound rank ⟨kernel, Function.update threads.todo currtp rest⟩ after := by
  have follows := sound.follows currtp
  rw [current, next] at follows
  obtain ⟨admitted, disciplined⟩ := follows
  have listed := sound.mtxlist currtp
  have others : ∀ other, other ≠ mp → (mp :: held currtp).count other = (held currtp).count other :=
    fun other different => List.count_cons_of_ne different.symm
  have agrees := sound.agrees mp
  generalize objectEq : threads.kernel.mutexes mp = object at agrees
  cases agrees with
  | free unheld nobody =>
      refine ⟨_, Function.update held currtp (mp :: held currtp),
        MutexKernel.chMtxLock_free (by rw [objectEq]; rfl) (by rw [objectEq]; rfl), ?_⟩
      rw [← Function.update_eq_self currtp threads.kernel.state, current, objectEq]
      refine sound.change disciplined ?_ others (by simp [current]) (.of_holder ?_ ?_ ?_ ?_ ?_)
      · rw [listed, List.dedup_cons_of_notMem (unheld currtp)]
      · simp [List.count_eq_zero_of_not_mem (unheld currtp)]
      · simp
      · grind
      · grind [chMtxObjectInit]
      · exact List.nodup_nil
  | @owned holder queue holding only waiting nodup =>
      have counted := List.count_pos_iff.mpr holding
      by_cases own : holder = currtp
      · subst own
        refine ⟨_, Function.update held holder (mp :: held holder),
          MutexKernel.chMtxLock_again (by rw [objectEq]) (by rw [objectEq]; exact counted), ?_⟩
        rw [← Function.update_eq_self holder threads.kernel.state, current,
          ← Function.update_eq_self holder threads.kernel.mtxlist, objectEq]
        refine sound.change disciplined ?_ others (by simp [current]) (.of_holder ?_ ?_ ?_ ?_ nodup)
        · rw [listed, List.dedup_cons_of_mem holding]
        · simp
        · simp
        · grind
        · grind
      · have unheld : mp ∉ held currtp := fun holds => own (only currtp holds).symm
        have awake : currtp ∉ queue := by
          rw [waiting, current]
          simp
        refine ⟨_, Function.update held currtp (held currtp),
          MutexKernel.chMtxLock_waits (by rw [objectEq]) (by rw [objectEq]; exact counted) own, ?_⟩
        rw [← Function.update_eq_self currtp threads.kernel.mtxlist, objectEq]
        refine sound.change ⟨admitted.resolve_left unheld, disciplined⟩ listed (fun _ _ => rfl)
          ?_ (.of_holder ?_ ?_ ?_ ?_ ?_)
        · grind
        · rw [Function.update_eq_self]
        · rwa [Function.update_eq_self]
        · rwa [Function.update_eq_self]
        · grind
        · grind

/-- The mutex goes from the thread that gives it back to one that sleeps. -/
theorem handOn_sound {tp : Thread} {below : List Mutex} {queue : List Thread}
    (sound : Sound rank threads held) (current : threads.kernel.state currtp = .current)
    (stack : held currtp = mp :: below) (once : mp ∉ below)
    (disciplined : Disciplined rank below rest)
    (only : ∀ thread, mp ∈ held thread → thread = currtp)
    (waiting : ∀ thread, thread ∈ queue ↔ threads.kernel.state thread = .wtmtx mp)
    (nodup : queue.Nodup) (queued : tp ∈ queue) :
    Sound rank
      ⟨⟨Function.update threads.kernel.mutexes mp ⟨some tp, 1, queue.erase tp⟩,
        Function.update (Function.update threads.kernel.mtxlist currtp below.dedup) tp
          (mp :: threads.kernel.mtxlist tp),
        Function.update threads.kernel.state tp (.ready mp)⟩,
        Function.update threads.todo currtp rest⟩
      (Function.update (Function.update held currtp below) tp (mp :: held tp)) := by
  have asleep := (waiting tp).mp queued
  have foreign : tp ≠ currtp := by
    rintro rfl
    rw [current] at asleep
    simp at asleep
  have unheld : mp ∉ held tp := fun holds => foreign (only tp holds)
  have follows := sound.follows tp
  rw [asleep] at follows
  obtain ⟨-, resumes⟩ := follows
  constructor
  case follows =>
    intro thread
    have others := sound.follows thread
    grind [Follows]
  case mtxlist =>
    intro thread
    have lists := sound.mtxlist thread
    grind [List.dedup_cons_of_notMem]
  case agrees =>
    intro other
    by_cases same : other = mp
    · subst same
      simp only [Function.update_self]
      refine .of_holder ?_ ?_ ?_ ?_ (nodup.erase tp)
      · simp [List.count_eq_zero_of_not_mem unheld]
      · simp
      · grind
      · intro thread
        rw [nodup.mem_erase_iff, waiting]
        grind
    · simp only [Function.update_of_ne same]
      apply (sound.agrees other).frame
      · intro thread
        grind
      · intro thread
        grind

theorem unlock_sound {chosen : Nat} (sound : Sound rank threads held)
    (current : threads.kernel.state currtp = .current)
    (next : threads.todo currtp = .unlock mp :: rest) :
    ∃ kernel after, threads.kernel.chMtxUnlock currtp mp chosen = some kernel ∧
      Sound rank ⟨kernel, Function.update threads.todo currtp rest⟩ after := by
  have follows := sound.follows currtp
  rw [current, next] at follows
  obtain ⟨below, stack, disciplined⟩ := follows
  have listed := sound.mtxlist currtp
  have others : ∀ other, other ≠ mp → below.count other = (held currtp).count other := by
    intro other different
    rw [stack, List.count_cons_of_ne different.symm]
  have agrees := sound.agrees mp
  generalize objectEq : threads.kernel.mutexes mp = object at agrees
  cases agrees with
  | free unheld nobody => exact absurd (stack ▸ List.mem_cons_self) (unheld currtp)
  | @owned holder queue holding only waiting nodup =>
      obtain rfl : currtp = holder := only currtp (stack ▸ List.mem_cons_self)
      rw [stack, List.count_cons_self] at objectEq
      by_cases again : mp ∈ below
      · have positive := List.count_pos_iff.mpr again
        rw [stack, List.dedup_cons_of_mem again] at listed
        obtain ⟨first, rests, split⟩ : ∃ first rests, below.dedup = first :: rests :=
          List.exists_cons_of_ne_nil (List.ne_nil_of_mem (List.mem_dedup.mpr again))
        have inside : first ∈ below := List.mem_dedup.mp (split ▸ List.mem_cons_self)
        have ownFirst := sound.owner_of_mem (stack ▸ List.mem_cons_of_mem mp inside)
        refine ⟨_, Function.update held currtp below,
          MutexKernel.chMtxUnlock_inner (listed.trans split) ownFirst
            (by rw [objectEq]; dsimp only; omega), ?_⟩
        rw [← Function.update_eq_self currtp threads.kernel.state, current,
          ← Function.update_eq_self currtp threads.kernel.mtxlist, objectEq]
        refine sound.change disciplined listed others (by simp [current])
          (.of_holder ?_ ?_ ?_ ?_ nodup)
        · simp
        · simpa using again
        · grind
        · grind
      · rw [List.count_eq_zero_of_not_mem again] at objectEq
        rw [stack, List.dedup_cons_of_notMem again] at listed
        cases queueEq : queue with
        | nil =>
            subst queueEq
            refine ⟨_, Function.update held currtp below,
              MutexKernel.chMtxUnlock_free listed (by rw [objectEq]) (by rw [objectEq])
                (by rw [objectEq]), ?_⟩
            rw [← Function.update_eq_self currtp threads.kernel.state, current]
            refine sound.change disciplined rfl others (by simp [current]) (.free ?_ ?_)
            · grind
            · grind
        | cons head tail =>
            have positive : 0 < queue.length := by simp [queueEq]
            obtain ⟨tp, chosenEq⟩ : ∃ tp, queue[chosen % queue.length]? = some tp :=
              ⟨_, List.getElem?_eq_getElem (Nat.mod_lt chosen positive)⟩
            have queued := List.mem_of_getElem? chosenEq
            have foreign : tp ≠ currtp := by
              rintro rfl
              rw [waiting, current] at queued
              simp at queued
            refine ⟨_, Function.update (Function.update held currtp below) tp (mp :: held tp),
              MutexKernel.chMtxUnlock_handOn listed (by rw [objectEq]) (by rw [objectEq])
                (by rw [objectEq]; exact chosenEq) foreign, ?_⟩
            rw [objectEq]
            exact handOn_sound sound current stack again disciplined only waiting nodup queued

theorem resume_sound (sound : Sound rank threads held)
    (woken : threads.kernel.state currtp = .ready mp) :
    ∃ kernel, threads.kernel.resume currtp mp = some kernel ∧
      Sound rank { threads with kernel := kernel } held := by
  have follows := sound.follows currtp
  rw [woken] at follows
  obtain ⟨below, stack, once, disciplined⟩ := follows
  have listed := sound.mtxlist currtp
  rw [stack, List.dedup_cons_of_notMem once] at listed
  have holds : mp ∈ held currtp := stack ▸ List.mem_cons_self
  have counted : (threads.kernel.mutexes mp).cnt = 1 := by
    have agrees := sound.agrees mp
    generalize threads.kernel.mutexes mp = object at agrees
    cases agrees with
    | free unheld nobody => exact absurd holds (unheld currtp)
    | owned holding only waiting nodup =>
        rw [← only currtp holds, stack, List.count_cons_self,
          List.count_eq_zero_of_not_mem once]
  refine ⟨_, if_pos ⟨sound.owner_of_mem holds, by rw [listed, List.head?_cons], counted⟩, ?_⟩
  constructor
  case follows =>
    intro thread
    have others := sound.follows thread
    grind [Follows]
  case mtxlist => exact sound.mtxlist
  case agrees =>
    intro other
    apply (sound.agrees other).frame (fun _ => rfl)
    intro thread
    grind

/-- No assertion fails: a thread that is in an operation and does not sleep goes on. -/
theorem act_sound {thread : Thread} (sound : Sound rank threads held)
    (inside : threads.todo thread ≠ [])
    (awake : ∀ mp, threads.kernel.state thread ≠ .wtmtx mp) (chosen : Nat) :
    ∃ next after, threads.act thread chosen = some next ∧ Sound rank next after := by
  cases stateEq : threads.kernel.state thread with
  | wtmtx mp => exact absurd stateEq (awake mp)
  | ready mp =>
      obtain ⟨kernel, resumed, sound⟩ := resume_sound sound stateEq
      exact ⟨_, held, by simp [act, stateEq, resumed], sound⟩
  | current =>
      cases todoEq : threads.todo thread with
      | nil => exact absurd todoEq inside
      | cons action rest =>
          cases action with
          | lock mp =>
              obtain ⟨kernel, after, taken, sound⟩ := lock_sound sound stateEq todoEq
              exact ⟨_, after, by simp [act, stateEq, todoEq, taken], sound⟩
          | unlock mp =>
              obtain ⟨kernel, after, given, sound⟩ :=
                @unlock_sound _ _ _ _ _ _ _ _ _ _ chosen sound stateEq todoEq
              exact ⟨_, after, by simp [act, stateEq, todoEq, given], sound⟩

omit [DecidableEq Thread] in
theorem Sound.inside {thread : Thread} (sound : Sound rank threads held)
    (engaged : held thread ≠ [] ∨ threads.kernel.state thread ≠ .current) :
    threads.todo thread ≠ [] := by
  have follows := sound.follows thread
  cases stateEq : threads.kernel.state thread with
  | current =>
      rw [stateEq] at follows engaged
      exact Disciplined.actions_ne_nil follows (engaged.resolve_right (by simp))
  | wtmtx mp =>
      rw [stateEq] at follows
      exact follows.2.actions_ne_nil (List.cons_ne_nil mp _)
  | ready mp =>
      rw [stateEq] at follows
      obtain ⟨below, stack, -, disciplined⟩ := follows
      exact disciplined.actions_ne_nil (by simp [stack])

theorem act_reaches {thread : Thread} {chosen : Nat} {next : LockingThreads Thread Mutex}
    (sound : Sound rank threads held) (executed : threads.act thread chosen = some next) :
    ∃ after, Sound rank next after := by
  have awake : ∀ mp, threads.kernel.state thread ≠ .wtmtx mp := by
    intro mp asleep
    simp [act, asleep] at executed
  have inside : threads.todo thread ≠ [] := by
    intro finished
    cases stateEq : threads.kernel.state thread with
    | current => simp [act, stateEq, finished] at executed
    | wtmtx mp => exact awake mp stateEq
    | ready mp => exact sound.inside (.inr (by simp [stateEq])) finished
  obtain ⟨reached, after, acted, sound⟩ := act_sound sound inside awake chosen
  rw [acted, Option.some.injEq] at executed
  exact ⟨after, executed ▸ sound⟩

theorem step_sound {program : Operation → List (LockAction Mutex)}
    (disciplined : ∀ operation, Disciplined rank [] (program operation))
    {label : LockingStep Thread Operation} {next : LockingThreads Thread Mutex}
    (sound : Sound rank threads held) (stepped : threads.step program label = some next) :
    ∃ after, Sound rank next after := by
  cases label with
  | enter thread operation =>
      simp only [step] at stepped
      split at stepped
      next idle =>
        rw [← Option.some.inj stepped]
        exact ⟨held, enter_sound sound (disciplined operation) idle⟩
      next busy => exact absurd stepped (by simp)
  | act thread chosen => exact act_reaches sound stepped

theorem run_sound {program : Operation → List (LockAction Mutex)}
    (disciplined : ∀ operation, Disciplined rank [] (program operation))
    {labels : List (LockingStep Thread Operation)}
    (executed : run (step program) boot labels = some threads) :
    ∃ held, Sound rank threads held := by
  apply run_invariant _ ⟨_, boot_sound rank⟩ executed
  rintro state label next ⟨held, sound⟩ stepped
  exact step_sound disciplined sound stepped

omit [DecidableEq Thread] in
/-- While a thread is in an operation, some thread in an operation does not sleep. -/
theorem Sound.exists_awake {bound : Nat} (bounded : ∀ mp, rank mp ≤ bound)
    (sound : Sound rank threads held) {thread : Thread} (inside : threads.todo thread ≠ []) :
    ∃ other, threads.todo other ≠ [] ∧ ∀ mp, threads.kernel.state other ≠ .wtmtx mp := by
  refine @exists_not_waiting _ _ rank bound (fun other => threads.todo other ≠ [])
    (fun other mp => threads.kernel.state other = .wtmtx mp) (fun other mp => mp ∈ held other)
    bounded ?_ ?_ thread inside
  · intro sleeper mp asleep
    have agrees := sound.agrees mp
    generalize threads.kernel.mutexes mp = object at agrees
    cases agrees with
    | free unheld nobody => exact absurd asleep (nobody sleeper)
    | @owned holder _ holding only waiting nodup =>
        exact ⟨holder, sound.inside (.inl (List.ne_nil_of_mem holding)), holding⟩
  · intro sleeper mp other holds asleep
    have follows := sound.follows sleeper
    rw [asleep] at follows
    exact follows.1 mp holds

end Act

section Completion

/-- How many steps a thread can still take before it begins another operation: a lock
is one step, or two if the thread sleeps in it. -/
def pending (threads : LockingThreads Thread Mutex) (thread : Thread) : Nat :=
  2 * (threads.todo thread).length + if threads.kernel.state thread = .current then 0 else 1

theorem act_pending {thread : Thread} {chosen : Nat} {next : LockingThreads Thread Mutex}
    (sound : Sound rank threads held) (executed : threads.act thread chosen = some next) :
    next.pending thread < threads.pending thread ∧
      ∀ other, next.pending other ≤ threads.pending other := by
  cases stateEq : threads.kernel.state thread with
  | wtmtx mp => simp [act, stateEq] at executed
  | ready mp =>
      simp only [act, stateEq, Option.map_eq_some_iff] at executed
      obtain ⟨kernel, resumed, rfl⟩ := executed
      have woken := congrFun (MutexKernel.resume_state resumed)
      grind [pending]
  | current =>
      cases todoEq : threads.todo thread with
      | nil => simp [act, stateEq, todoEq] at executed
      | cons action rest =>
          cases action with
          | lock mp =>
              simp only [act, stateEq, todoEq, Option.map_eq_some_iff] at executed
              obtain ⟨kernel, taken, rfl⟩ := executed
              obtain same | slept := MutexKernel.chMtxLock_state taken
              · grind [pending]
              · have asleep := congrFun slept
                grind [pending]
          | unlock mp =>
              simp only [act, stateEq, todoEq, Option.map_eq_some_iff] at executed
              obtain ⟨kernel, given, rfl⟩ := executed
              obtain same | ⟨tp, queued, woken⟩ := MutexKernel.chMtxUnlock_state given
              · grind [pending]
              · have asleep := sound.asleep_of_queue queued
                have awake := congrFun woken
                grind [pending]

variable [Fintype Thread]

def remaining (threads : LockingThreads Thread Mutex) : Nat := ∑ thread, threads.pending thread

theorem act_remaining {thread : Thread} {chosen : Nat} {next : LockingThreads Thread Mutex}
    (sound : Sound rank threads held) (executed : threads.act thread chosen = some next) :
    next.remaining < threads.remaining := by
  obtain ⟨less, others⟩ := act_pending sound executed
  exact Finset.sum_lt_sum (fun other _ => others other) ⟨thread, Finset.mem_univ thread, less⟩

def actAll (threads : LockingThreads Thread Mutex) (acts : List (Thread × Nat)) :
    Option (LockingThreads Thread Mutex) :=
  run (fun threads act => threads.act act.1 act.2) threads acts

theorem actAll_remaining {acts : List (Thread × Nat)} {final : LockingThreads Thread Mutex}
    (sound : Sound rank threads held) (executed : threads.actAll acts = some final) :
    acts.length + final.remaining ≤ threads.remaining ∧ ∃ after, Sound rank final after := by
  induction acts generalizing threads held with
  | nil =>
      obtain rfl : threads = final := Option.some.inj executed
      exact ⟨by simp, held, sound⟩
  | cons act acts inductionHypothesis =>
      obtain ⟨next, acted, continued⟩ := run_cons_eq_some.mp executed
      have fewer := act_remaining sound acted
      obtain ⟨after, soundNext⟩ := act_reaches sound acted
      obtain ⟨bounded, reached⟩ := inductionHypothesis soundNext continued
      refine ⟨?_, reached⟩
      rw [List.length_cons]
      omega

omit [Fintype Thread] in
/-- Where no thread can go on, no thread is in an operation and every mutex is free. -/
theorem Sound.idle_of_stuck {bound : Nat} (bounded : ∀ mp, rank mp ≤ bound)
    (sound : Sound rank threads held)
    (stuck : ∀ thread chosen, threads.act thread chosen = none) :
    (∀ thread, threads.todo thread = []) ∧
      ∀ mp, threads.kernel.mutexes mp = chMtxObjectInit := by
  have idle : ∀ thread, threads.todo thread = [] := by
    intro thread
    by_contra inside
    obtain ⟨other, insideOther, awake⟩ := sound.exists_awake bounded inside
    obtain ⟨next, after, acted, -⟩ := act_sound sound insideOther awake 0
    rw [stuck other 0] at acted
    exact Option.some_ne_none next acted.symm
  refine ⟨idle, ?_⟩
  intro mp
  have agrees := sound.agrees mp
  generalize threads.kernel.mutexes mp = object at agrees
  cases agrees with
  | free unheld nobody => rfl
  | @owned holder _ holding only waiting nodup =>
      exact absurd (idle holder) (sound.inside (.inl (List.ne_nil_of_mem holding)))

end Completion

end LockingThreads

end XBotFirmware.Platform
