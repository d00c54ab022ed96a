import XBotFirmware.Library.Run
import XBotFirmware.Platform.VirtualTimers

set_option autoImplicit false

/-!
Runs of the virtual timers, as threads, interrupts and the callbacks of the timers use them.

The interrupt of the port's timer comes at any time after its alarm, a callback takes any
time, and timers are set and reset at any time, in callbacks too.
-/

namespace XBotFirmware.System

open XBotFirmware.Library XBotFirmware.Platform

universe u

structure TimerCall (Timer : Type u) where
  timer : Timer
  due : Nat
  time : Nat
  deriving DecidableEq, Repr

structure TimerSystem (Timer : Type u) where
  vtlist : VirtualTimersList Timer
  /-- `chVTDoTickI` is running. -/
  serving : Bool
  calls : List (TimerCall Timer)
  /-- The time of the last `chVTDoSetI` of a timer, with its delay. -/
  due : Timer → Nat
  /-- The true time of `lasttime`. -/
  base : Nat
  /-- When `chVTDoTickI` has last found that no timer is due. -/
  served : Nat

inductive TimerStep (Timer : Type u) where
  | elapse (ticks : Nat)
  | set (vtp : Timer) (delay : SysInterval) (passes : List Nat)
  | reset (vtp : Timer) (passes : List Nat)
  /-- The interrupt of the port's timer. -/
  | interrupt
  /-- A round of `chVTDoTickI`, or its end. -/
  | round (passes : List Nat)
  deriving DecidableEq, Repr

namespace TimerSystem

variable {Timer : Type u}

def boot : TimerSystem Timer where
  vtlist := .init
  serving := false
  calls := []
  due := fun _ => 0
  base := 0
  served := 0

/-- The true time of `lasttime` when it has been advanced. -/
def advanced (system : TimerSystem Timer) (vtlist : VirtualTimersList Timer) : Nat :=
  system.base + (chTimeDiffX system.vtlist.lasttime vtlist.lasttime).toNat

def call (system : TimerSystem Timer) (vtlist : VirtualTimersList Timer) (vtp : Timer) :
    TimerSystem Timer :=
  { system with
    vtlist := vtlist
    calls := system.calls ++ [⟨vtp, system.due vtp, system.vtlist.time⟩]
    base := system.advanced vtlist }

/-- `chVTDoTickI` returns. -/
def finish (system : TimerSystem Timer) (vtlist : VirtualTimersList Timer) : TimerSystem Timer :=
  { system with
    vtlist := vtlist
    serving := false
    base := system.advanced vtlist
    served := system.vtlist.time }

def step [DecidableEq Timer] (system : TimerSystem Timer) :
    TimerStep Timer → Option (TimerSystem Timer)
  | .elapse ticks =>
      some { system with
        vtlist := { system.vtlist with time := system.vtlist.time + ticks } }
  | .set vtp delay passes =>
      (system.vtlist.chVTDoSetI vtp delay passes).map fun vtlist =>
        { system with
          vtlist := vtlist
          due := Function.update system.due vtp (system.vtlist.time + delay.toNat)
          base := if system.vtlist.dlist.isEmpty then system.vtlist.time else system.base }
  | .reset vtp passes =>
      (system.vtlist.chVTDoResetI vtp passes).map fun vtlist => { system with vtlist := vtlist }
  | .interrupt =>
      match system.vtlist.alarm with
      | some alarm =>
          if system.serving = false ∧ alarm.time ≤ system.vtlist.time then
            some { system with serving := true }
          else none
      | none => none
  | .round passes =>
      if system.serving then
        (system.vtlist.chVTDoTickI passes).map fun result =>
          match result.2 with
          | some vtp => system.call result.1 vtp
          | none => system.finish result.1
      else none

/-- The counter does not go round unnoticed: while timers are armed or served, `lasttime` and
the deadlines are less than a round apart, and a call of the kernel is shorter. -/
def Timely (system : TimerSystem Timer) : TimerStep Timer → Prop
  | .set _ delay passes =>
      (system.vtlist.dlist ≠ [] →
        system.vtlist.time + delay.toNat < system.base + 2 ^ 32) ∧ passes.sum < 2 ^ 31
  | .reset _ passes => system.vtlist.time < system.base + 2 ^ 32 ∧ passes.sum < 2 ^ 31
  | .round passes => system.vtlist.time + 1 < system.base + 2 ^ 32 ∧ passes.sum < 2 ^ 31
  | .elapse _ | .interrupt => True

/-- The armed timers with the deadlines that the delta list stands for. -/
def deadlines (system : TimerSystem Timer) : List (Timer × Nat) :=
  deadlinesFrom system.base (ticksOf system.vtlist.dlist)

/-- The alarm comes for every one of the deadlines, in a millisecond if they are over. -/
def Awaits (alarm : Option PortAlarm) (time : Nat) (deadlines : List (Timer × Nat)) : Prop :=
  ∀ entry ∈ deadlines, ∃ awaited, alarm = some awaited ∧ awaited.time ≤ max entry.2 (time + 10)

structure Keeps (system : TimerSystem Timer) : Prop where
  lasttime : system.vtlist.lasttime = chVTGetSystemTimeX system.base
  past : system.base ≤ system.vtlist.time
  due : ∀ entry ∈ system.deadlines, entry.2 = system.due entry.1
  range : ∀ entry ∈ system.deadlines, entry.2 < system.base + 2 ^ 32
  early : ∀ call ∈ system.calls, call.due ≤ call.time
  ordered : system.calls.Pairwise fun first second => first.due ≤ second.due
  behind : ∀ call ∈ system.calls, call.due ≤ system.base
  servedPast : system.served ≤ system.vtlist.time
  served : ∀ entry ∈ system.deadlines, system.served < entry.2
  stopped : system.vtlist.dlist = [] → system.vtlist.alarm = none
  awaits : system.serving = false → system.vtlist.insufficientDelta = false →
    Awaits system.vtlist.alarm system.vtlist.time system.deadlines

theorem boot_keeps : Keeps (boot : TimerSystem Timer) where
  lasttime := rfl
  past := le_rfl
  due := by simp [deadlines, boot, VirtualTimersList.init, ticksOf, deadlinesFrom]
  range := by simp [deadlines, boot, VirtualTimersList.init, ticksOf, deadlinesFrom]
  early := by simp [boot]
  ordered := by simp [boot]
  behind := by simp [boot]
  servedPast := le_rfl
  served := by simp [deadlines, boot, VirtualTimersList.init, ticksOf, deadlinesFrom]
  stopped := fun _ => rfl
  awaits := by simp [Awaits, deadlines, boot, VirtualTimersList.init, ticksOf, deadlinesFrom]

section Steps

variable {system next : TimerSystem Timer} {vtlist : VirtualTimersList Timer}

theorem Awaits.mono {alarm : Option PortAlarm} {time later : Nat}
    {deadlines fewer : List (Timer × Nat)} (awaits : Awaits alarm time deadlines)
    (ordered : time ≤ later)
    (inside : ∀ entry ∈ fewer, entry ∈ deadlines) : Awaits alarm later fewer := by
  intro entry among
  obtain ⟨awaited, set, inTime⟩ := awaits entry (inside entry among)
  exact ⟨awaited, set, inTime.trans (by omega)⟩

/-- An alarm that has been set for the first deadline comes for all of them. -/
theorem awaits_of_alarmed {vtlist next : VirtualTimersList Timer} {delay first : Nat}
    {deadlines : List (Timer × Nat)} (alarmed : VirtualTimersList.Alarmed delay vtlist next)
    (noFault : next.insufficientDelta = false) (delayed : vtlist.time + delay = first)
    (least : ∀ entry ∈ deadlines, first ≤ entry.2) : Awaits next.alarm next.time deadlines := by
  intro entry inside
  obtain ⟨-, alarm, set, time⟩ := alarmed.inTime noFault
  have behind := least entry inside
  have later := alarmed.later
  exact ⟨alarm, set, by omega⟩

theorem advanced_of_add {delta : SysInterval}
    (moved : vtlist.lasttime = system.vtlist.lasttime + delta) :
    system.advanced vtlist = system.base + delta.toNat := by
  rw [advanced, moved, chTimeDiffX, BitVec.add_comm, BitVec.add_sub_cancel]

theorem Keeps.toNat_nowdelta (keeps : system.Keeps)
    (recent : system.vtlist.time < system.base + 2 ^ 32) :
    system.vtlist.nowdelta.toNat = system.vtlist.time - system.base := by
  have past := keeps.past
  rw [VirtualTimersList.nowdelta, keeps.lasttime]
  exact toNat_chTimeDiffX past (by omega)

theorem first_deadline_le {base : Nat} {vtp : Timer} {delta : SysInterval}
    {rest : List (Timer × SysInterval)} {entry : Timer × Nat}
    (inside : entry ∈ deadlinesFrom base (ticksOf ((vtp, delta) :: rest))) :
    base + delta.toNat ≤ entry.2 := by
  obtain rfl | later := List.mem_cons.mp inside
  · exact le_rfl
  · exact base_le_of_mem_deadlinesFrom later

theorem Keeps.due_first (keeps : system.Keeps) {vtp : Timer} {delta : SysInterval}
    {rest : List (Timer × SysInterval)} (listed : system.vtlist.dlist = (vtp, delta) :: rest) :
    system.due vtp = system.base + delta.toNat := by
  have inside : (vtp, system.base + delta.toNat) ∈ system.deadlines := by
    simp [deadlines, listed, ticksOf, deadlinesFrom]
  exact (keeps.due _ inside).symm

theorem Keeps.of_fewer (keeps : system.Keeps) {serving : Bool}
    (same : vtlist.lasttime = system.vtlist.lasttime)
    (later : system.vtlist.time ≤ vtlist.time)
    (fewer : ∀ entry ∈ deadlinesFrom system.base (ticksOf vtlist.dlist), entry ∈ system.deadlines)
    (stopped : vtlist.dlist = [] → vtlist.alarm = none)
    (awaits : serving = false → vtlist.insufficientDelta = false →
      Awaits vtlist.alarm vtlist.time (deadlinesFrom system.base (ticksOf vtlist.dlist))) :
    Keeps { system with vtlist := vtlist, serving := serving } where
  lasttime := same.trans keeps.lasttime
  past := keeps.past.trans later
  due := fun entry inside => keeps.due entry (fewer entry inside)
  range := fun entry inside => keeps.range entry (fewer entry inside)
  early := keeps.early
  ordered := keeps.ordered
  behind := keeps.behind
  servedPast := keeps.servedPast.trans later
  served := fun entry inside => keeps.served entry (fewer entry inside)
  stopped := stopped
  awaits := awaits

theorem Keeps.elapse (keeps : system.Keeps) (ticks : Nat) :
    Keeps { system with
      vtlist := { system.vtlist with time := system.vtlist.time + ticks } } := by
  have later : system.vtlist.time ≤ system.vtlist.time + ticks := Nat.le_add_right _ _
  refine keeps.of_fewer rfl later ?_ ?_ ?_
  · exact fun entry inside => inside
  · exact keeps.stopped
  · intro idle noFault
    exact (keeps.awaits idle noFault).mono later (fun entry inside => inside)

theorem Keeps.setAlarm (keeps : system.Keeps) {vtp : Timer} {first delay : SysInterval}
    {rest : List (Timer × SysInterval)} (listed : system.vtlist.dlist = (vtp, first) :: rest)
    (delayed : system.vtlist.time + delay.toNat = system.base + first.toNat) {passes : List Nat}
    (short : passes.sum < 2 ^ 31) (returned : system.vtlist.vtSetAlarm delay passes = some vtlist)
    (serving : Bool) : Keeps { system with vtlist := vtlist, serving := serving } := by
  have alarmed := VirtualTimersList.vtSetAlarm_alarmed short returned
  have same : deadlinesFrom system.base (ticksOf vtlist.dlist) = system.deadlines := by
    rw [alarmed.dlist, deadlines]
  refine keeps.of_fewer alarmed.lasttime alarmed.later ?_ ?_ ?_
  · intro entry inside
    exact same ▸ inside
  · intro empty
    rw [alarmed.dlist, listed] at empty
    exact absurd empty (by simp)
  · intro _ noFault
    rw [same]
    apply awaits_of_alarmed alarmed noFault delayed
    intro entry inside
    rw [deadlines, listed] at inside
    exact first_deadline_le inside

section Reset

variable [DecidableEq Timer] {vtp : Timer} {passes : List Nat}

theorem Keeps.fewer_of_unlink (keeps : system.Keeps) (vtp : Timer) {entry : Timer × Nat}
    (inside : entry ∈ deadlinesFrom system.base (ticksOf (system.vtlist.unlink vtp).dlist)) :
    entry ∈ system.deadlines := by
  rw [VirtualTimersList.unlink, ticksOf_chDlistDequeue vtp le_rfl keeps.range,
    deadlinesFrom_removeDelta] at inside
  exact List.mem_of_mem_eraseP inside

theorem Keeps.unlink (keeps : system.Keeps) (vtp : Timer)
    (stopped : (system.vtlist.unlink vtp).dlist = [] → system.vtlist.alarm = none) :
    Keeps { system with vtlist := system.vtlist.unlink vtp } := by
  refine keeps.of_fewer rfl le_rfl (fun entry inside => keeps.fewer_of_unlink vtp inside) stopped ?_
  intro idle noFault
  apply (keeps.awaits idle noFault).mono le_rfl
  exact fun entry inside => keeps.fewer_of_unlink vtp inside

theorem Keeps.afterFirst (keeps : system.Keeps)
    (recent : system.vtlist.time < system.base + 2 ^ 32) (short : passes.sum < 2 ^ 31)
    (returned : (system.vtlist.unlink vtp).afterFirst passes = some vtlist) :
    Keeps { system with vtlist := vtlist } := by
  rw [VirtualTimersList.afterFirst] at returned
  split at returned
  next empty =>
    rw [← Option.some.inj returned]
    refine keeps.of_fewer rfl le_rfl (fun entry inside => keeps.fewer_of_unlink vtp inside)
      (fun _ => rfl) ?_
    intro _ _
    simp [empty, Awaits, ticksOf, deadlinesFrom]
  next next first rest listed =>
    have unlinked := keeps.unlink vtp (fun empty => by rw [listed] at empty; cases empty)
    split at returned
    next => exact Option.some.inj returned ▸ unlinked
    next ahead =>
      have elapsed := unlinked.toNat_nowdelta recent
      have less := BitVec.le_of_lt (BitVec.not_le.mp ahead)
      have lessNat : (system.vtlist.unlink vtp).nowdelta.toNat ≤ first.toNat := less
      have past := keeps.past
      refine unlinked.setAlarm listed ?_ short returned system.serving
      rw [BitVec.toNat_sub_of_le less]
      simp only [VirtualTimersList.unlink] at elapsed lessNat ⊢
      omega

theorem Keeps.reset (keeps : system.Keeps) (timely : system.Timely (.reset vtp passes))
    (returned : system.vtlist.chVTDoResetI vtp passes = some vtlist) :
    Keeps { system with vtlist := vtlist } := by
  obtain ⟨recent, short⟩ := timely
  rw [VirtualTimersList.chVTDoResetI, Option.ite_none_right_eq_some] at returned
  obtain ⟨-, returned⟩ := returned
  split at returned
  next => exact keeps.afterFirst recent short returned
  next other =>
    rw [← Option.some.inj returned]
    apply keeps.unlink
    intro empty
    apply keeps.stopped
    cases listed : system.vtlist.dlist with
    | nil => rfl
    | cons first rest =>
        rw [listed] at other
        have different : first.1 ≠ vtp := by simpa using other
        simp [VirtualTimersList.unlink, listed, chDlistDequeue, different] at empty

end Reset

section Set

variable {vtp : Timer} {delay : SysInterval} {passes : List Nat}

theorem mem_deadlinesFrom_insert {base : Nat} {delta : SysInterval}
    {dlist : List (Timer × SysInterval)} {entry : Timer × Nat} :
    entry ∈ deadlinesFrom base (ticksOf (chDlistInsert vtp delta dlist)) ↔
      entry = (vtp, base + delta.toNat) ∨ entry ∈ deadlinesFrom base (ticksOf dlist) := by
  rw [ticksOf_chDlistInsert, deadlinesFrom_insertDelta, List.mem_orderedInsert]

variable [DecidableEq Timer]

theorem Keeps.set_first (keeps : system.Keeps) (positive : 0 < delay.toNat)
    (short : passes.sum < 2 ^ 31)
    (returned : system.vtlist.vtInsertFirst vtp delay passes = some vtlist) :
    Keeps { system with
      vtlist := vtlist
      due := Function.update system.due vtp (system.vtlist.time + delay.toNat)
      base := system.vtlist.time } := by
  have alarmed := VirtualTimersList.vtInsertFirst_alarmed short returned
  have bound := delay.isLt
  have past := keeps.past
  have servedPast := keeps.servedPast
  have later : system.vtlist.time ≤ vtlist.time := alarmed.later
  have only : deadlinesFrom system.vtlist.time (ticksOf vtlist.dlist) =
      [(vtp, system.vtlist.time + delay.toNat)] := by
    rw [alarmed.dlist]
    rfl
  refine ⟨alarmed.lasttime, later, ?_, ?_, keeps.early, keeps.ordered, ?_, servedPast.trans later,
    ?_, ?_, ?_⟩
  · simp [deadlines, only]
  · simp [deadlines, only]
    omega
  · exact fun call called => (keeps.behind call called).trans past
  · simp only [deadlines, only, List.mem_singleton, forall_eq]
    omega
  · simp [alarmed.dlist]
  · intro _ noFault
    refine awaits_of_alarmed alarmed noFault rfl ?_
    simp [deadlines, only]

/-- A timer comes to a list that is not empty; the alarm is set first, if that has to be. -/
theorem Keeps.insert (keeps : system.Keeps) (unarmed : vtp ∉ system.vtlist.dlist.map Prod.fst)
    (positive : 0 < delay.toNat) {delta : SysInterval}
    (distance : system.base + delta.toNat = system.vtlist.time + delay.toNat)
    {vtlist : VirtualTimersList Timer} (sameList : vtlist.dlist = system.vtlist.dlist)
    (sameLast : vtlist.lasttime = system.vtlist.lasttime)
    (later : system.vtlist.time ≤ vtlist.time)
    (awaits : system.serving = false → vtlist.insufficientDelta = false →
      Awaits vtlist.alarm vtlist.time
        ((vtp, system.vtlist.time + delay.toNat) :: system.deadlines)) :
    Keeps { system with
      vtlist := { vtlist with dlist := chDlistInsert vtp delta vtlist.dlist }
      due := Function.update system.due vtp (system.vtlist.time + delay.toNat) } := by
  have among : ∀ entry, entry ∈ deadlinesFrom system.base
        (ticksOf (chDlistInsert vtp delta vtlist.dlist)) ↔
      entry = (vtp, system.vtlist.time + delay.toNat) ∨ entry ∈ system.deadlines := by
    intro entry
    rw [mem_deadlinesFrom_insert, distance, sameList, deadlines]
  have servedPast := keeps.servedPast
  have bound := delta.isLt
  refine ⟨sameLast.trans keeps.lasttime, keeps.past.trans later, ?_, ?_, keeps.early,
    keeps.ordered, keeps.behind, servedPast.trans later, ?_, ?_, ?_⟩
  · intro entry inside
    obtain rfl | old := (among entry).mp inside
    · simp
    · have other : entry.1 ≠ vtp := by
        rintro rfl
        have listed := List.mem_map_of_mem (f := Prod.fst) old
        rw [deadlines, map_fst_deadlinesFrom, map_fst_ticksOf] at listed
        exact unarmed listed
      simpa [other] using keeps.due entry old
  · intro entry inside
    obtain rfl | old := (among entry).mp inside
    · simp only
      omega
    · exact keeps.range entry old
  · intro entry inside
    obtain rfl | old := (among entry).mp inside
    · simp only
      omega
    · exact keeps.served entry old
  · intro empty
    have permuted := perm_chDlistInsert vtp delta vtlist.dlist
    simp only at empty
    rw [empty] at permuted
    exact absurd permuted.length_eq (by simp)
  · intro idle noFault
    apply (awaits idle noFault).mono le_rfl
    intro entry inside
    exact List.mem_cons.mpr ((among entry).mp inside)

theorem Keeps.set_later (keeps : system.Keeps) (unarmed : vtp ∉ system.vtlist.dlist.map Prod.fst)
    (positive : 0 < delay.toNat)
    (near : system.vtlist.time + delay.toNat < system.base + 2 ^ 32) (short : passes.sum < 2 ^ 31)
    {head : Timer × SysInterval} {rest : List (Timer × SysInterval)}
    (listed : system.vtlist.dlist = head :: rest)
    (returned : system.vtlist.vtEnqueue vtp delay passes = some vtlist) :
    Keeps { system with
      vtlist := vtlist
      due := Function.update system.due vtp (system.vtlist.time + delay.toNat) } := by
  obtain ⟨head, first⟩ := head
  have past := keeps.past
  have elapsed := keeps.toNat_nowdelta (by omega)
  have sum : (system.vtlist.nowdelta + delay).toNat =
      system.vtlist.nowdelta.toNat + delay.toNat := by
    rw [BitVec.toNat_add]
    exact Nat.mod_eq_of_lt (by omega)
  have fits : ¬system.vtlist.nowdelta + delay < system.vtlist.nowdelta := by
    rw [BitVec.lt_def, sum]
    omega
  have distance : system.base + (system.vtlist.nowdelta + delay).toNat =
      system.vtlist.time + delay.toNat := by omega
  simp only [VirtualTimersList.vtEnqueue, listed, VirtualTimersList.enqueueDelta,
    if_neg fits] at returned
  have least : ∀ entry ∈ system.deadlines, system.base + first.toNat ≤ entry.2 := by
    intro entry inside
    rw [deadlines, listed] at inside
    exact first_deadline_le inside
  obtain ⟨prepared, prepares, rfl⟩ := Option.map_eq_some_iff.mp returned
  split at prepares
  next earlier =>
    have alarmed := VirtualTimersList.vtSetAlarm_alarmed short prepares
    rw [BitVec.lt_def, sum] at earlier
    refine keeps.insert unarmed positive distance alarmed.dlist alarmed.lasttime alarmed.later ?_
    intro _ noFault
    apply awaits_of_alarmed alarmed noFault rfl
    intro entry inside
    obtain rfl | old := List.mem_cons.mp inside
    · exact le_rfl
    · have behind := least entry old
      omega
  next notEarlier =>
    obtain rfl := Option.some.inj prepares
    rw [BitVec.lt_def, sum] at notEarlier
    refine keeps.insert unarmed positive distance rfl rfl le_rfl ?_
    intro idle noFault entry inside
    obtain rfl | old := List.mem_cons.mp inside
    · have headDue : (head, system.base + first.toNat) ∈ system.deadlines := by
        simp [deadlines, listed, ticksOf, deadlinesFrom]
      obtain ⟨alarm, set, inTime⟩ := keeps.awaits idle noFault _ headDue
      exact ⟨alarm, set, inTime.trans (by simp only; omega)⟩
    · exact keeps.awaits idle noFault entry old

theorem Keeps.set (keeps : system.Keeps) (timely : system.Timely (.set vtp delay passes))
    (returned : system.vtlist.chVTDoSetI vtp delay passes = some vtlist) :
    Keeps { system with
      vtlist := vtlist
      due := Function.update system.due vtp (system.vtlist.time + delay.toNat)
      base := if system.vtlist.dlist.isEmpty then system.vtlist.time else system.base } := by
  obtain ⟨near, short⟩ := timely
  rw [VirtualTimersList.chVTDoSetI, Option.ite_none_left_eq_some] at returned
  obtain ⟨allowed, returned⟩ := returned
  rw [not_or] at allowed
  have positive : 0 < delay.toNat := by
    rw [Nat.pos_iff_ne_zero]
    intro zero
    exact allowed.1 (BitVec.eq_of_toNat_eq zero)
  have unarmed : vtp ∉ system.vtlist.dlist.map Prod.fst := by
    simpa [VirtualTimersList.chVTIsArmedI] using allowed.2
  cases listed : system.vtlist.dlist with
  | nil =>
      simp only [VirtualTimersList.vtEnqueue, listed] at returned
      exact keeps.set_first positive short returned
  | cons head rest =>
      exact keeps.set_later unarmed positive (near (by simp [listed])) short listed returned

end Set

section Tick

variable {vtp : Timer} {delta : SysInterval} {rest : List (Timer × SysInterval)}

theorem Keeps.call (keeps : system.Keeps) (serving : system.serving = true)
    (recent : system.vtlist.time + 1 < system.base + 2 ^ 32)
    (listed : system.vtlist.dlist = (vtp, delta) :: rest)
    (reached : ¬system.vtlist.nowdelta < delta) :
    Keeps (system.call { system.vtlist with
      lasttime := system.vtlist.lasttime + delta
      dlist := rest
      alarm := if rest.isEmpty then none else system.vtlist.alarm } vtp) := by
  have past := keeps.past
  have due := keeps.due_first listed
  have elapsed := keeps.toNat_nowdelta (by omega)
  rw [BitVec.lt_def, elapsed] at reached
  have advanced : system.advanced { system.vtlist with
      lasttime := system.vtlist.lasttime + delta
      dlist := rest
      alarm := if rest.isEmpty then none else system.vtlist.alarm } =
        system.base + delta.toNat := advanced_of_add rfl
  have remaining : ∀ entry ∈ deadlinesFrom (system.base + delta.toNat) (ticksOf rest),
      entry ∈ system.deadlines := by
    intro entry inside
    rw [deadlines, listed]
    exact List.mem_cons_of_mem _ inside
  unfold TimerSystem.call
  rw [advanced]
  refine ⟨?_, ?_, ?_, ?_, ?_, ?_, ?_, keeps.servedPast, ?_, ?_, ?_⟩
  · simp only [chVTGetSystemTimeX_add, keeps.lasttime]
  · simp only
    omega
  · exact fun entry inside => keeps.due entry (remaining entry inside)
  · intro entry inside
    have below := keeps.range entry (remaining entry inside)
    simp only
    omega
  · intro call called
    obtain old | rfl := List.mem_append.mp called |>.imp_right List.mem_singleton.mp
    · exact keeps.early call old
    · simp only
      omega
  · rw [List.pairwise_append]
    refine ⟨keeps.ordered, List.pairwise_singleton _ _, ?_⟩
    intro earlier before later last
    rw [List.mem_singleton.mp last]
    have behind := keeps.behind earlier before
    simp only
    omega
  · intro call called
    obtain old | rfl := List.mem_append.mp called |>.imp_right List.mem_singleton.mp
    · exact (keeps.behind call old).trans (Nat.le_add_right _ _)
    · exact due.le
  · exact fun entry inside => keeps.served entry (remaining entry inside)
  · intro empty
    have none : rest = [] := empty
    simp [none]
  · intro idle
    exact absurd (serving.symm.trans idle) (by simp)

theorem Keeps.finish_empty (keeps : system.Keeps) (empty : system.vtlist.dlist = []) :
    Keeps (system.finish system.vtlist) := by
  have advanced : system.advanced system.vtlist = system.base := by
    simp [TimerSystem.advanced, chTimeDiffX]
  have nothing : deadlinesFrom system.base (ticksOf system.vtlist.dlist) = [] := by
    rw [empty]
    rfl
  unfold TimerSystem.finish
  rw [advanced]
  refine ⟨keeps.lasttime, keeps.past, keeps.due, keeps.range, keeps.early, keeps.ordered,
    keeps.behind, le_rfl, ?_, keeps.stopped, ?_⟩
  · simp [deadlines, nothing]
  · simp [Awaits, deadlines, nothing]

theorem Keeps.finish_armed (keeps : system.Keeps) (serving : system.serving = true)
    (recent : system.vtlist.time + 1 < system.base + 2 ^ 32) {passes : List Nat}
    (short : passes.sum < 2 ^ 31) (listed : system.vtlist.dlist = (vtp, delta) :: rest)
    (ahead : system.vtlist.nowdelta < delta)
    (returned : ({ system.vtlist with
      lasttime := system.vtlist.lasttime + system.vtlist.nowdelta
      dlist := (vtp, delta - system.vtlist.nowdelta) :: rest } : VirtualTimersList Timer).vtSetAlarm
        (delta - system.vtlist.nowdelta) passes = some vtlist) :
    Keeps (system.finish vtlist) := by
  have past := keeps.past
  have elapsed := keeps.toNat_nowdelta (by omega)
  have less : system.vtlist.nowdelta.toNat < delta.toNat := ahead
  have moved : system.base + system.vtlist.nowdelta.toNat = system.vtlist.time := by omega
  have left : (delta - system.vtlist.nowdelta).toNat =
      delta.toNat - system.vtlist.nowdelta.toNat :=
    BitVec.toNat_sub_of_le (BitVec.le_of_lt ahead)
  have same : deadlinesFrom system.vtlist.time
      (ticksOf ((vtp, delta - system.vtlist.nowdelta) :: rest)) = system.deadlines := by
    rw [deadlines, listed, ← moved]
    simpa [ticksOf, left] using deadlinesFrom_advance less.le vtp (ticksOf rest)
  have least : ∀ entry ∈ system.deadlines, system.base + delta.toNat ≤ entry.2 := by
    intro entry inside
    rw [deadlines, listed] at inside
    exact first_deadline_le inside
  have advanced : Keeps { system with
      vtlist := { system.vtlist with
        lasttime := system.vtlist.lasttime + system.vtlist.nowdelta
        dlist := (vtp, delta - system.vtlist.nowdelta) :: rest }
      base := system.vtlist.time
      served := system.vtlist.time } := by
    refine ⟨?_, le_rfl, ?_, ?_, keeps.early, keeps.ordered, ?_, le_rfl, ?_, by simp, ?_⟩
    · simp only [keeps.lasttime, ← chVTGetSystemTimeX_add, moved]
    · intro entry inside
      exact keeps.due entry (same ▸ inside)
    · intro entry inside
      have below := keeps.range entry (same ▸ inside)
      simp only
      omega
    · exact fun call called => (keeps.behind call called).trans past
    · intro entry inside
      have behind := least entry (same ▸ inside)
      simp only
      omega
    · intro idle
      exact absurd (serving.symm.trans idle) (by simp)
  have alarmed := VirtualTimersList.vtSetAlarm_alarmed short returned
  have base : system.advanced vtlist = system.vtlist.time := by
    rw [advanced_of_add alarmed.lasttime, moved]
  have finished := advanced.setAlarm rfl rfl short returned false
  unfold TimerSystem.finish
  rw [base]
  exact finished

theorem Keeps.round [DecidableEq Timer] {passes : List Nat} (keeps : system.Keeps)
    (timely : system.Timely (.round passes)) (serving : system.serving = true)
    {result : VirtualTimersList Timer × Option Timer}
    (returned : system.vtlist.chVTDoTickI passes = some result) :
    Keeps (match result.2 with
      | some vtp => system.call result.1 vtp
      | none => system.finish result.1) := by
  obtain ⟨recent, short⟩ := timely
  rw [VirtualTimersList.chVTDoTickI] at returned
  split at returned
  next empty =>
    rw [Option.ite_none_right_eq_some, Option.some.injEq] at returned
    obtain ⟨-, rfl⟩ := returned
    exact keeps.finish_empty empty
  next vtp delta rest listed =>
    split at returned
    next ahead =>
      obtain ⟨vtlist, set, rfl⟩ := Option.map_eq_some_iff.mp returned
      exact keeps.finish_armed serving recent short listed ahead set
    next reached =>
      obtain rfl := Option.some.inj returned
      exact keeps.call serving recent listed reached

end Tick

theorem step_keeps [DecidableEq Timer] {label : TimerStep Timer} (keeps : system.Keeps)
    (timely : system.Timely label) (stepped : system.step label = some next) : next.Keeps := by
  cases label with
  | elapse ticks =>
      rw [← Option.some.inj stepped]
      exact keeps.elapse ticks
  | set vtp delay passes =>
      obtain ⟨vtlist, returned, rfl⟩ := Option.map_eq_some_iff.mp stepped
      exact keeps.set timely returned
  | reset vtp passes =>
      obtain ⟨vtlist, returned, rfl⟩ := Option.map_eq_some_iff.mp stepped
      exact keeps.reset timely returned
  | interrupt =>
      simp only [step] at stepped
      split at stepped
      next alarm set =>
        rw [Option.ite_none_right_eq_some, Option.some.injEq] at stepped
        obtain ⟨-, rfl⟩ := stepped
        exact ⟨keeps.lasttime, keeps.past, keeps.due, keeps.range, keeps.early, keeps.ordered,
          keeps.behind, keeps.servedPast, keeps.served, keeps.stopped, by simp⟩
      next => exact absurd stepped (by simp)
  | round passes =>
      simp only [step, Option.ite_none_right_eq_some] at stepped
      obtain ⟨serving, stepped⟩ := stepped
      obtain ⟨result, returned, rfl⟩ := Option.map_eq_some_iff.mp stepped
      exact keeps.round timely serving returned

end Steps

variable [DecidableEq Timer]

section Accounts

variable {system final : TimerSystem Timer}

/-- `chVTDoSetI` of this timer. -/
def sets (vtp : Timer) : TimerStep Timer → Bool
  | .set other _ _ => other = vtp
  | _ => false

/-- `chVTDoResetI` of this timer. -/
def resets (vtp : Timer) : TimerStep Timer → Bool
  | .reset other _ => other = vtp
  | _ => false

def armed (system : TimerSystem Timer) : List Timer := system.vtlist.dlist.map Prod.fst

def account (system : TimerSystem Timer) (vtp : Timer) : Nat :=
  system.calls.countP (fun call => call.timer = vtp) + system.armed.count vtp

/-- A timer gets onto the list by being set, and off it by a call or by being reset. -/
theorem step_accounts {next : TimerSystem Timer} {label : TimerStep Timer}
    (stepped : system.step label = some next) (vtp : Timer) :
    next.account vtp + (if resets vtp label then 1 else 0) =
      system.account vtp + if sets vtp label then 1 else 0 := by
  cases label with
  | elapse ticks =>
      rw [← Option.some.inj stepped]
      rfl
  | set other delay passes =>
      obtain ⟨vtlist, returned, rfl⟩ := Option.map_eq_some_iff.mp stepped
      have counted := (VirtualTimersList.chVTDoSetI_armed returned).2.count_eq vtp
      rw [List.count_cons] at counted
      simp only [account, armed, sets, resets, counted]
      by_cases same : other = vtp
      · simp [same]
        omega
      · simp [same]
  | reset other passes =>
      obtain ⟨vtlist, returned, rfl⟩ := Option.map_eq_some_iff.mp stepped
      obtain ⟨among, erased⟩ := VirtualTimersList.chVTDoResetI_armed returned
      simp only [account, armed, sets, resets, erased]
      by_cases same : other = vtp
      · have present := List.count_pos_iff.mpr among
        subst same
        simp only [List.count_erase_self, decide_true, if_true]
        simp
        omega
      · simp [same, List.count_erase_of_ne (Ne.symm same)]
  | interrupt =>
      simp only [step] at stepped
      split at stepped
      next =>
        rw [Option.ite_none_right_eq_some, Option.some.injEq] at stepped
        rw [← stepped.2]
        rfl
      next => exact absurd stepped (by simp)
  | round passes =>
      simp only [step, Option.ite_none_right_eq_some] at stepped
      obtain ⟨-, stepped⟩ := stepped
      obtain ⟨⟨vtlist, called⟩, returned, rfl⟩ := Option.map_eq_some_iff.mp stepped
      have listed := VirtualTimersList.chVTDoTickI_armed returned
      cases called with
      | none => simp_all [account, armed, finish, sets, resets]
      | some other =>
          simp only [account, armed, call, listed, List.countP_append, sets, resets]
          by_cases same : other = vtp
          · simp [same]
            omega
          · simp [same]

theorem run_accounts {labels : List (TimerStep Timer)}
    (executed : run step system labels = some final) (vtp : Timer) :
    final.account vtp + labels.countP (resets vtp) =
      system.account vtp + labels.countP (sets vtp) := by
  induction labels generalizing system with
  | nil =>
      obtain rfl : system = final := Option.some.inj executed
      rfl
  | cons label labels inductionHypothesis =>
      obtain ⟨next, stepped, continued⟩ := run_cons_eq_some.mp executed
      have later := inductionHypothesis continued
      have first := step_accounts stepped vtp
      rw [List.countP_cons, List.countP_cons]
      omega

end Accounts

theorem step_distinct {system next : TimerSystem Timer} {label : TimerStep Timer}
    (distinct : system.armed.Nodup) (stepped : system.step label = some next) :
    next.armed.Nodup := by
  cases label with
  | elapse ticks =>
      rw [← Option.some.inj stepped]
      exact distinct
  | set other delay passes =>
      obtain ⟨vtlist, returned, rfl⟩ := Option.map_eq_some_iff.mp stepped
      obtain ⟨unarmed, permuted⟩ := VirtualTimersList.chVTDoSetI_armed returned
      exact permuted.nodup_iff.mpr (List.nodup_cons.mpr ⟨unarmed, distinct⟩)
  | reset other passes =>
      obtain ⟨vtlist, returned, rfl⟩ := Option.map_eq_some_iff.mp stepped
      have erased := (VirtualTimersList.chVTDoResetI_armed returned).2
      simp only [armed, erased]
      exact distinct.erase other
  | interrupt =>
      simp only [step] at stepped
      split at stepped
      next =>
        rw [Option.ite_none_right_eq_some, Option.some.injEq] at stepped
        exact stepped.2 ▸ distinct
      next => exact absurd stepped (by simp)
  | round passes =>
      simp only [step, Option.ite_none_right_eq_some] at stepped
      obtain ⟨-, stepped⟩ := stepped
      obtain ⟨⟨vtlist, called⟩, returned, rfl⟩ := Option.map_eq_some_iff.mp stepped
      have listed := VirtualTimersList.chVTDoTickI_armed returned
      rw [armed, listed] at distinct
      have rest := distinct.of_append_right
      cases called with
      | none => exact rest
      | some other => exact rest

/-- Every step of the run is timely. -/
abbrev AlwaysTimely (labels : List (TimerStep Timer)) : Prop :=
  AtEveryStep step boot labels fun system label _ => system.Timely label

theorem run_keeps {labels : List (TimerStep Timer)} {final : TimerSystem Timer}
    (executed : run step boot labels = some final) (timely : AlwaysTimely labels) :
    final.Keeps := by
  apply throughout_of_atEveryStep _ boot_keeps timely labels [] final (by simp) executed
  intro system label next keeps inTime stepped
  exact step_keeps keeps inTime stepped

/-- Whenever timers are set, reset and served, their functions are called in the order of
their deadlines and none before its own; and each setting of a timer leads to one call,
unless the timer is reset, or still armed. -/
theorem timers_called_in_order {labels : List (TimerStep Timer)} {final : TimerSystem Timer}
    (executed : run step boot labels = some final) (timely : AlwaysTimely labels) :
    (∀ call ∈ final.calls, call.due ≤ call.time) ∧
      (final.calls.Pairwise fun first second => first.due ≤ second.due) ∧
      ∀ vtp, labels.countP (sets vtp) =
        final.calls.countP (fun call => call.timer = vtp) + labels.countP (resets vtp) +
          if vtp ∈ final.armed then 1 else 0 := by
  have keeps := run_keeps executed timely
  refine ⟨keeps.early, keeps.ordered, ?_⟩
  intro vtp
  have distinct : final.armed.Nodup := by
    apply run_invariant _ _ executed
    · intro system label next distinct stepped
      exact step_distinct distinct stepped
    · exact List.nodup_nil
  have accounts := run_accounts executed vtp
  rw [account, distinct.count] at accounts
  have nothing : (boot : TimerSystem Timer).account vtp = 0 := rfl
  omega

instance (system : TimerSystem Timer) :
    (label : TimerStep Timer) → Decidable (system.Timely label)
  | .set _ delay passes => inferInstanceAs (Decidable
      ((system.vtlist.dlist ≠ [] →
        system.vtlist.time + delay.toNat < system.base + 2 ^ 32) ∧ passes.sum < 2 ^ 31))
  | .reset _ passes => inferInstanceAs (Decidable
      (system.vtlist.time < system.base + 2 ^ 32 ∧ passes.sum < 2 ^ 31))
  | .round passes => inferInstanceAs (Decidable
      (system.vtlist.time + 1 < system.base + 2 ^ 32 ∧ passes.sum < 2 ^ 31))
  | .elapse _ | .interrupt => inferInstanceAs (Decidable True)

theorem alwaysTimely_of_checked {labels : List (TimerStep Timer)}
    (checked : checkedAtEveryStep step (fun system label _ => decide (system.Timely label)) boot
      labels = true) : AlwaysTimely labels := by
  intro before label after system next split executed stepped
  exact of_decide_eq_true (atEveryStep_of_checked checked before label after system next split
    executed stepped)

/-- A short timeout overtakes a long one, and the long one is reset in the callback. -/
def overtaking : List (TimerStep (Fin 3)) :=
  [.elapse 4294967290, .set 0 500 [1], .elapse 20, .set 1 30 [2], .set 2 100 [], .elapse 40,
    .interrupt, .round [], .reset 0 [3], .set 1 5 [0], .elapse 7, .round [], .round [1]]

theorem overtaking_timely : AlwaysTimely overtaking := by
  apply alwaysTimely_of_checked
  decide +kernel

theorem timers_called_in_order_overtaking :
    ∃ final, run step boot overtaking = some final ∧
      final.calls = [⟨1, 4294967341, 4294967353⟩, ⟨1, 4294967358, 4294967360⟩] ∧
      (final.calls.Pairwise fun first second => first.due ≤ second.due) ∧
      overtaking.countP (sets 0) =
        final.calls.countP (fun call => call.timer = 0) + overtaking.countP (resets 0) +
          if 0 ∈ final.armed then 1 else 0 := by
  have reached : (run step boot overtaking).map calls =
      some [⟨1, 4294967341, 4294967353⟩, ⟨1, 4294967358, 4294967360⟩] := by decide +kernel
  obtain ⟨final, executed, called⟩ := Option.map_eq_some_iff.mp reached
  obtain ⟨-, ordered, accounts⟩ := timers_called_in_order executed overtaking_timely
  exact ⟨final, executed, called, ordered, accounts 0⟩

/-- Outside the interrupt every armed timer is still to come, or has come due since the
interrupt was last served; and unless the kernel has registered a skipped deadline, the
alarm is set, for the deadline of the timer at the latest, or for a millisecond from now. -/
theorem alarm_awaits_timers {labels : List (TimerStep Timer)} {final : TimerSystem Timer}
    (executed : run step boot labels = some final) (timely : AlwaysTimely labels)
    (outside : final.serving = false) {vtp : Timer} (armed : vtp ∈ final.armed) :
    final.served < final.due vtp ∧
      (final.vtlist.insufficientDelta = false → ∃ alarm, final.vtlist.alarm = some alarm ∧
        alarm.time ≤ max (final.due vtp) (final.vtlist.time + 10)) := by
  have keeps := run_keeps executed timely
  have listed : vtp ∈ final.deadlines.map Prod.fst := by
    rwa [deadlines, map_fst_deadlinesFrom, map_fst_ticksOf]
  obtain ⟨entry, inside, rfl⟩ := List.mem_map.mp listed
  rw [← keeps.due entry inside]
  exact ⟨keeps.served entry inside, fun noFault => keeps.awaits outside noFault entry inside⟩

theorem alarm_awaits_timers_overtaking :
    ∃ final, run step boot overtaking = some final ∧ final.served < final.due 2 ∧
      ∃ alarm, final.vtlist.alarm = some alarm ∧
        alarm.time ≤ max (final.due 2) (final.vtlist.time + 10) := by
  have reached : (run step boot overtaking).map (fun final =>
      (final.serving, decide (2 ∈ final.armed), final.vtlist.insufficientDelta)) =
      some (false, true, false) := by decide +kernel
  obtain ⟨final, executed, facts⟩ := Option.map_eq_some_iff.mp reached
  simp only [Prod.mk.injEq, decide_eq_true_eq] at facts
  obtain ⟨outside, among, noFault⟩ := facts
  obtain ⟨ahead, awaited⟩ := alarm_awaits_timers executed overtaking_timely outside among
  exact ⟨final, executed, ahead, awaited noFault⟩

end TimerSystem

end XBotFirmware.System
