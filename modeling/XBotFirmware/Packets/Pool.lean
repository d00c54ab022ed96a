import Mathlib.Data.List.Nodup
import XBotFirmware.Library.Run
import XBotFirmware.Library.Semaphore

set_option autoImplicit false

/-!
The packets of the xbot framework (`portable/xbot/packet.cpp`).

`allocatePacket` waits on a semaphore and then allocates from a pool of lwIP;
`freePacket` frees into the pool and then signals the semaphore.  The two are
not updated together, so a thread may be caught between them.
-/

namespace XBotFirmware.Packets

open XBotFirmware.Library

def xbotPacketPoolSize : Nat := 25

/-- A pointer to one of the elements of `xbot_packet_pool`. -/
abbrev PacketPtr := Nat

structure Mempool where
  tab : List PacketPtr
  deriving DecidableEq, Repr

namespace Mempool

/-- `LWIP_MEMPOOL_INIT`, which pushes the elements one after the other. -/
def init : Mempool := ⟨(List.range xbotPacketPoolSize).reverse⟩

/-- `LWIP_MEMPOOL_ALLOC`; the result is null if the pool is empty. -/
def alloc (pool : Mempool) : Option PacketPtr × Mempool :=
  (pool.tab.head?, ⟨pool.tab.tail⟩)

/-- `LWIP_MEMPOOL_FREE`. -/
def free (pool : Mempool) (packet : PacketPtr) : Mempool := ⟨packet :: pool.tab⟩

end Mempool

/-- The semaphore, the pool and the threads that use them.  A thread that is in none
of the lists is outside `allocatePacket` and `freePacket`. -/
structure PacketSystem (Thread : Type) where
  sema : Semaphore Thread
  pool : Mempool
  /-- Threads whose `chSemWait` has returned, before the allocation. -/
  granted : List Thread
  /-- Threads in the endless loop on a null buffer. -/
  looping : List Thread
  /-- Threads that have freed into the pool, before their `chSemSignal`. -/
  signalling : List Thread
  owned : List (Thread × PacketPtr)

inductive PacketStep (Thread : Type) where
  | semWait (caller : Thread)
  | poolAlloc (caller : Thread)
  | poolFree (caller : Thread) (packet : PacketPtr)
  | semSignal (caller : Thread)
  | handOver (owner receiver : Thread) (packet : PacketPtr)

namespace PacketSystem

variable {Thread : Type}

def boot : PacketSystem Thread where
  sema := .init xbotPacketPoolSize
  pool := .init
  granted := []
  looping := []
  signalling := []
  owned := []

/-- The thread is outside `allocatePacket` and `freePacket`. -/
def Idle (system : PacketSystem Thread) (caller : Thread) : Prop :=
  caller ∉ system.sema.queue ∧ caller ∉ system.granted ∧ caller ∉ system.looping ∧
    caller ∉ system.signalling

/-- Every packet is free or owned by one thread, and the pool covers the tokens
together with the threads that are caught between the semaphore and the pool. -/
structure Invariant (system : PacketSystem Thread) : Prop where
  packets : (system.pool.tab ++ system.owned.map Prod.snd).Perm (List.range xbotPacketPoolSize)
  tokens : system.sema.available + system.granted.length + system.signalling.length =
    system.pool.tab.length
  looping : system.looping = []

theorem boot_invariant : (boot : PacketSystem Thread).Invariant where
  packets := by
    rw [boot, List.map_nil, List.append_nil]
    exact List.reverse_perm _
  tokens := by simp [boot, Mempool.init]
  looping := rfl

/-- The threads between the wait and the allocation never outnumber the packets in
the pool. -/
theorem Invariant.pool_ne_nil {system : PacketSystem Thread} {caller : Thread}
    (invariant : system.Invariant)
    (granted : caller ∈ system.granted) : system.pool.tab ≠ [] := by
  intro empty
  have tokens := invariant.tokens
  have positive := List.length_pos_of_mem granted
  rw [empty, List.length_nil] at tokens
  omega

theorem Invariant.owned_nodup {system : PacketSystem Thread} (invariant : system.Invariant) :
    (system.owned.map Prod.snd).Nodup := by
  have distinct := invariant.packets.nodup_iff.mpr List.nodup_range
  exact (List.nodup_append.mp distinct).2.1

variable [DecidableEq Thread]

instance (system : PacketSystem Thread) (caller : Thread) : Decidable (system.Idle caller) :=
  inferInstanceAs (Decidable (_ ∧ _ ∧ _ ∧ _))

def step (system : PacketSystem Thread) : PacketStep Thread → Option (PacketSystem Thread)
  | .semWait caller =>
      if system.Idle caller then
        let waited := system.sema.wait caller
        some { system with
          sema := waited.1
          granted := if waited.2 then caller :: system.granted else system.granted }
      else none
  | .poolAlloc caller =>
      if caller ∈ system.granted then
        let allocated := system.pool.alloc
        match allocated.1 with
        | none => some { system with
            granted := system.granted.erase caller
            looping := caller :: system.looping }
        | some packet => some { system with
            pool := allocated.2
            granted := system.granted.erase caller
            owned := (caller, packet) :: system.owned }
      else none
  | .poolFree caller packet =>
      -- A packet is freed by its owner only, and is owned no longer.
      if system.Idle caller ∧ (caller, packet) ∈ system.owned then
        some { system with
          pool := system.pool.free packet
          signalling := caller :: system.signalling
          owned := system.owned.erase (caller, packet) }
      else none
  | .semSignal caller =>
      if caller ∈ system.signalling then
        let signalled := system.sema.signal
        some { system with
          sema := signalled.1
          granted := signalled.2.toList ++ system.granted
          signalling := system.signalling.erase caller }
      else none
  | .handOver owner receiver packet =>
      if system.Idle owner ∧ (owner, packet) ∈ system.owned then
        some { system with
          owned := (receiver, packet) :: system.owned.erase (owner, packet) }
      else none

theorem map_snd_perm_erase {owned : List (Thread × PacketPtr)} {owner : Thread}
    {packet : PacketPtr} (owns : (owner, packet) ∈ owned) :
    (owned.map Prod.snd).Perm (packet :: (owned.erase (owner, packet)).map Prod.snd) :=
  (List.perm_cons_erase owns).map Prod.snd

variable {system next : PacketSystem Thread}

theorem Invariant.semWait {caller : Thread} (invariant : system.Invariant)
    (stepped : system.step (.semWait caller) = some next) : next.Invariant := by
  simp only [step] at stepped
  split at stepped
  next =>
    cases stepped
    have taken := system.sema.available_wait caller
    have tokens := invariant.tokens
    refine ⟨invariant.packets, ?_, invariant.looping⟩
    cases passed : (system.sema.wait caller).2 with
    | true =>
        simp only [passed, if_true, List.length_cons] at taken ⊢
        omega
    | false =>
        simp only [passed, Bool.false_eq_true, if_false] at taken ⊢
        omega
  next => cases stepped

theorem Invariant.poolAlloc {caller : Thread} (invariant : system.Invariant)
    (stepped : system.step (.poolAlloc caller) = some next) : next.Invariant := by
  simp only [step] at stepped
  split at stepped
  next granted =>
    have erased := List.length_erase_of_mem granted
    have positive := List.length_pos_of_mem granted
    have tokens := invariant.tokens
    have packets := invariant.packets
    cases free : system.pool.tab with
    | nil => exact absurd free (invariant.pool_ne_nil granted)
    | cons packet rest =>
        simp only [Mempool.alloc, free, List.head?_cons, List.tail_cons,
          Option.some.injEq] at stepped
        subst stepped
        rw [free] at packets tokens
        refine ⟨?_, ?_, invariant.looping⟩
        · apply List.Perm.trans _ packets
          exact List.perm_middle
        · simp only [List.length_cons] at tokens ⊢
          omega
  next => cases stepped

theorem Invariant.poolFree {caller : Thread} {packet : PacketPtr} (invariant : system.Invariant)
    (stepped : system.step (.poolFree caller packet) = some next) : next.Invariant := by
  simp only [step] at stepped
  split at stepped
  next permitted =>
    cases stepped
    refine ⟨?_, ?_, invariant.looping⟩
    · apply List.Perm.trans _ invariant.packets
      apply List.Perm.trans List.perm_middle.symm
      exact (map_snd_perm_erase permitted.2).symm.append_left _
    · have tokens := invariant.tokens
      simp only [Mempool.free, List.length_cons]
      omega
  next => cases stepped

theorem Invariant.semSignal {caller : Thread} (invariant : system.Invariant)
    (stepped : system.step (.semSignal caller) = some next) : next.Invariant := by
  simp only [step] at stepped
  split at stepped
  next signalling =>
    cases stepped
    have released := system.sema.available_signal
    have erased := List.length_erase_of_mem signalling
    have positive := List.length_pos_of_mem signalling
    have tokens := invariant.tokens
    refine ⟨invariant.packets, ?_, invariant.looping⟩
    simp only [List.length_append]
    omega
  next => cases stepped

theorem Invariant.handOver {owner receiver : Thread} {packet : PacketPtr}
    (invariant : system.Invariant)
    (stepped : system.step (.handOver owner receiver packet) = some next) :
    next.Invariant := by
  simp only [step] at stepped
  split at stepped
  next permitted =>
    cases stepped
    refine ⟨?_, invariant.tokens, invariant.looping⟩
    apply List.Perm.trans _ invariant.packets
    exact (map_snd_perm_erase permitted.2).symm.append_left _
  next => cases stepped

theorem step_invariant (system : PacketSystem Thread) (label : PacketStep Thread)
    (next : PacketSystem Thread) (invariant : system.Invariant)
    (stepped : system.step label = some next) : next.Invariant := by
  cases label with
  | semWait caller => exact invariant.semWait stepped
  | poolAlloc caller => exact invariant.poolAlloc stepped
  | poolFree caller packet => exact invariant.poolFree stepped
  | semSignal caller => exact invariant.semSignal stepped
  | handOver owner receiver packet => exact invariant.handOver stepped

/-- An allocation that follows a successful wait finds a packet, so nobody loops
on a null buffer, and no packet has two owners. -/
theorem allocation_finds_packet (reached : Reachable step boot system) :
    (∀ caller ∈ system.granted, ∃ packet, system.pool.alloc.1 = some packet) ∧
      system.looping = [] ∧
      ∀ first second packet, (first, packet) ∈ system.owned → (second, packet) ∈ system.owned →
        first = second := by
  have invariant := reached.invariant boot_invariant step_invariant
  refine ⟨?_, invariant.looping, ?_⟩
  · intro caller granted
    obtain ⟨packet, rest, free⟩ := List.exists_cons_of_ne_nil (invariant.pool_ne_nil granted)
    exact ⟨packet, by rw [Mempool.alloc, free, List.head?_cons]⟩
  · intro first second packet ownsFirst ownsSecond
    have same := List.inj_on_of_nodup_map invariant.owned_nodup ownsFirst ownsSecond rfl
    exact congrArg Prod.fst same

/-- Twenty-five threads take all packets, another one waits, and one gives its
packet back. -/
def contention : List (PacketStep Nat) :=
  (List.range 25).flatMap (fun caller => [.semWait caller, .poolAlloc caller]) ++
    [.semWait 25, .poolFree 3 21, .semSignal 3]

theorem allocation_finds_packet_contention :
    ∃ system : PacketSystem Nat, run step boot contention = some system ∧
      system.granted = [25] ∧ system.pool.alloc.1 = some 21 ∧ system.looping = [] := by
  have evaluated : (run step boot contention).map (fun system =>
      (system.granted, system.pool.tab)) = some ([25], [21]) := by decide +kernel
  obtain ⟨system, executed, values⟩ := Option.map_eq_some_iff.mp evaluated
  simp only [Prod.mk.injEq] at values
  obtain ⟨granted, free⟩ := values
  obtain ⟨finds, looping, _⟩ := allocation_finds_packet ⟨contention, executed⟩
  obtain ⟨packet, found⟩ := finds 25 (by simp [granted])
  have first : packet = 21 := by simpa [Mempool.alloc, free] using found.symm
  exact ⟨system, executed, granted, first ▸ found, looping⟩

end PacketSystem

end XBotFirmware.Packets
