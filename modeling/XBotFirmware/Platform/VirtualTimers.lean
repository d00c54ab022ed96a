import XBotFirmware.Library.DeltaList
import XBotFirmware.Platform.Time

set_option autoImplicit false

/-!
The virtual timers of the kernel (`os/rt/src/chvt.c`, `ch_dlist_insert` in
`os/rt/include/chlists.h`), with `CH_CFG_ST_TIMEDELTA` above zero.

The counter runs on inside a call.  A call is given the ticks that pass before each of its
later readings; it yields `none` where it would need one more, or where a check of its
arguments fails.
-/

namespace XBotFirmware.Platform

open XBotFirmware.Library

universe u

def chCfgStTimedelta : SysInterval := 10

/-- The alarm of the port's timer: the count it waits for. -/
structure PortAlarm where
  compare : BitVec 32
  /-- When it was programmed. -/
  since : Nat
  deriving DecidableEq, Repr

def PortAlarm.time (alarm : PortAlarm) : Nat :=
  alarm.since + (alarm.compare - chVTGetSystemTimeX alarm.since).toNat

/-- The loop of `vt_set_alarm` and `vt_insert_first`: the alarm that it leaves, and the last
`currdelta`.  When the time has skipped past the alarm, the next one is counted from
`base` of the old and the new time. -/
def deadlineSkipLoop (base : BitVec 32 → BitVec 32 → BitVec 32) (alarm : BitVec 32)
    (currdelta : SysInterval) (time : Nat) (now : BitVec 32) (delay : SysInterval) :
    List Nat → Option (PortAlarm × SysInterval)
  | [] => none
  | passed :: rest =>
      let newnow := chVTGetSystemTimeX (time + passed)
      if chTimeDiffX now newnow < delay then
        some (⟨alarm, time + passed⟩, currdelta)
      else
        deadlineSkipLoop base (base now newnow + (currdelta + 1)) (currdelta + 1) (time + passed)
          newnow (currdelta + 1) rest

def safeDelay (delay : SysInterval) : SysInterval :=
  if delay < chCfgStTimedelta then chCfgStTimedelta else delay

/-- `ch_dlist_insert`; the header at the end has the greatest delta. -/
def chDlistInsert {Timer : Type u} (vtp : Timer) (delta : SysInterval) :
    List (Timer × SysInterval) → List (Timer × SysInterval)
  | [] => [(vtp, delta)]
  | (first, distance) :: rest =>
      if distance < delta then (first, distance) :: chDlistInsert vtp (delta - distance) rest
      else (vtp, delta) :: (first, distance - delta) :: rest

/-- The delta of a removed element goes to the next one. -/
def chDlistGive {Timer : Type u} (delta : SysInterval) :
    List (Timer × SysInterval) → List (Timer × SysInterval)
  | [] => []
  | (next, distance) :: rest => (next, distance + delta) :: rest

/-- `ch_dlist_dequeue` with that addition. -/
def chDlistDequeue {Timer : Type u} [DecidableEq Timer] (vtp : Timer) :
    List (Timer × SysInterval) → List (Timer × SysInterval)
  | [] => []
  | (first, distance) :: rest =>
      if first = vtp then chDlistGive distance rest
      else (first, distance) :: chDlistDequeue vtp rest

/-- `virtual_timers_list_t` and the port's timer. -/
structure VirtualTimersList (Timer : Type u) where
  dlist : List (Timer × SysInterval)
  lasttime : BitVec 32
  alarm : Option PortAlarm
  /-- `CH_RFCU_VT_INSUFFICIENT_DELTA` has been collected. -/
  insufficientDelta : Bool
  /-- The ticks since the start, of which the counter shows the last 32 bits. -/
  time : Nat
  deriving DecidableEq, Repr

namespace VirtualTimersList

variable {Timer : Type u} [DecidableEq Timer] (vtlp : VirtualTimersList Timer)

def init : VirtualTimersList Timer where
  dlist := []
  lasttime := 0
  alarm := none
  insufficientDelta := false
  time := 0

def now : BitVec 32 := chVTGetSystemTimeX vtlp.time

/-- The distance of the present time from `lasttime`. -/
def nowdelta : SysInterval := chTimeDiffX vtlp.lasttime vtlp.now

def chVTIsArmedI (vtp : Timer) : Bool := vtp ∈ vtlp.dlist.map Prod.fst

def alarmed (result : PortAlarm × SysInterval) : VirtualTimersList Timer :=
  { vtlp with
    alarm := some result.1
    insufficientDelta := vtlp.insufficientDelta || decide (chCfgStTimedelta < result.2)
    time := result.1.since }

def vtSetAlarm (delay : SysInterval) (passes : List Nat) : Option (VirtualTimersList Timer) :=
  (deadlineSkipLoop (fun _ newnow => newnow) (vtlp.now + safeDelay delay) chCfgStTimedelta
    vtlp.time vtlp.now (safeDelay delay) passes).map vtlp.alarmed

/-- The loop of this function counts from the old time. -/
def vtInsertFirst (vtp : Timer) (delay : SysInterval) (passes : List Nat) :
    Option (VirtualTimersList Timer) :=
  let inserted := { vtlp with lasttime := vtlp.now, dlist := [(vtp, delay)] }
  (deadlineSkipLoop (fun now _ => now) (vtlp.now + safeDelay delay) chCfgStTimedelta vtlp.time
    vtlp.now (safeDelay delay) passes).map inserted.alarmed

/-- The delay from `lasttime` on; one that does not fit is not prolonged. -/
def enqueueDelta (delay : SysInterval) : SysInterval :=
  if vtlp.nowdelta + delay < vtlp.nowdelta then delay else vtlp.nowdelta + delay

def vtEnqueue (vtp : Timer) (delay : SysInterval) (passes : List Nat) :
    Option (VirtualTimersList Timer) :=
  match vtlp.dlist with
  | [] => vtlp.vtInsertFirst vtp delay passes
  | (_, first) :: _ =>
      let delta := vtlp.enqueueDelta delay
      (if delta < first then vtlp.vtSetAlarm delay passes else some vtlp).map fun vtlp =>
        { vtlp with dlist := chDlistInsert vtp delta vtlp.dlist }

def chVTDoSetI (vtp : Timer) (delay : SysInterval) (passes : List Nat) :
    Option (VirtualTimersList Timer) :=
  if delay = timeImmediate ∨ vtlp.chVTIsArmedI vtp then none
  else vtlp.vtEnqueue vtp delay passes

def unlink (vtp : Timer) : VirtualTimersList Timer :=
  { vtlp with dlist := chDlistDequeue vtp vtlp.dlist }

def afterFirst (passes : List Nat) : Option (VirtualTimersList Timer) :=
  match vtlp.dlist with
  | [] => some { vtlp with alarm := none }
  | (_, first) :: _ =>
      if first ≤ vtlp.nowdelta then some vtlp
      else vtlp.vtSetAlarm (first - vtlp.nowdelta) passes

def chVTDoResetI (vtp : Timer) (passes : List Nat) : Option (VirtualTimersList Timer) :=
  if vtlp.chVTIsArmedI vtp then
    if vtlp.dlist.head?.map Prod.fst = some vtp then (vtlp.unlink vtp).afterFirst passes
    else some (vtlp.unlink vtp)
  else none

/-- A round of the loop of `chVTDoTickI` up to its callback, with the timer that is called, or
the end of the function.  The header of an empty list is no timer. -/
def chVTDoTickI (passes : List Nat) : Option (VirtualTimersList Timer × Option Timer) :=
  match vtlp.dlist with
  | [] => if vtlp.nowdelta < -1 then some (vtlp, none) else none
  | (vtp, delta) :: rest =>
      if vtlp.nowdelta < delta then
        let advanced := { vtlp with
          lasttime := vtlp.lasttime + vtlp.nowdelta
          dlist := (vtp, delta - vtlp.nowdelta) :: rest }
        (advanced.vtSetAlarm (delta - vtlp.nowdelta) passes).map fun vtlp => (vtlp, none)
      else
        some ({ vtlp with
          lasttime := vtlp.lasttime + delta
          dlist := rest
          alarm := if rest.isEmpty then none else vtlp.alarm }, some vtp)

end VirtualTimersList

section Clock

/-- A reading of the counter that is not a whole round old tells the true distance. -/
theorem toNat_chTimeDiffX {since time : Nat} (ordered : since ≤ time)
    (recent : time - since < 2 ^ 32) :
    (chTimeDiffX (chVTGetSystemTimeX since) (chVTGetSystemTimeX time)).toNat = time - since := by
  have exact := @toNat_reading_sub_reading_of_lt 32 1 since time ordered (by omega)
  simpa only [reading, Nat.one_mul, chTimeDiffX, chVTGetSystemTimeX] using exact

theorem chVTGetSystemTimeX_add (time : Nat) (interval : SysInterval) :
    chVTGetSystemTimeX (time + interval.toNat) = chVTGetSystemTimeX time + interval := by
  simp [chVTGetSystemTimeX, BitVec.ofNat_add]

theorem PortAlarm.time_eq {time passed : Nat} {delay : SysInterval} (early : passed < delay.toNat) :
    PortAlarm.time ⟨chVTGetSystemTimeX time + delay, time + passed⟩ = time + delay.toNat := by
  have bound := delay.isLt
  have distance := @toNat_chTimeDiffX (time + passed) (time + delay.toNat) (by omega) (by omega)
  rw [chVTGetSystemTimeX_add, chTimeDiffX] at distance
  rw [PortAlarm.time, distance]
  show time + passed + (time + delay.toNat - (time + passed)) = time + delay.toNat
  omega

end Clock

section Alarm

variable {currdelta delay : SysInterval} {time : Nat} {passes : List Nat}
variable {result : PortAlarm × SysInterval}

/-- The alarm of the first round stands, or the delta has grown. -/
theorem deadlineSkipLoop_result {base : BitVec 32 → BitVec 32 → BitVec 32} {alarm : BitVec 32}
    (positive : 0 < delay.toNat) (short : currdelta.toNat + passes.sum < 2 ^ 32)
    (returned : deadlineSkipLoop base alarm currdelta time (chVTGetSystemTimeX time) delay passes =
      some result) :
    time ≤ result.1.since ∧ currdelta.toNat ≤ result.2.toNat ∧
      (result.2.toNat = currdelta.toNat → ∃ passed < delay.toNat,
        result.1 = ⟨alarm, time + passed⟩) := by
  induction passes generalizing alarm currdelta time delay with
  | nil => simp [deadlineSkipLoop] at returned
  | cons passed rest inductionHypothesis =>
      rw [List.sum_cons] at short
      have elapsed := @toNat_chTimeDiffX time (time + passed) (by omega) (by omega)
      rw [deadlineSkipLoop] at returned
      by_cases early : chTimeDiffX (chVTGetSystemTimeX time)
          (chVTGetSystemTimeX (time + passed)) < delay
      · rw [if_pos early, Option.some.injEq] at returned
        rw [BitVec.lt_def, elapsed] at early
        rw [← returned]
        exact ⟨Nat.le_add_right time passed, le_rfl, fun _ => ⟨passed, by omega, rfl⟩⟩
      · rw [if_neg early] at returned
        rw [BitVec.lt_def, elapsed] at early
        have grown : (currdelta + 1).toNat = currdelta.toNat + 1 := by
          rw [BitVec.toNat_add, show (1 : SysInterval).toNat = 1 from rfl]
          exact Nat.mod_eq_of_lt (by omega)
        obtain ⟨later, larger, -⟩ := inductionHypothesis (by omega) (by omega) returned
        exact ⟨by omega, by omega, by omega⟩

theorem toNat_safeDelay (delay : SysInterval) : (safeDelay delay).toNat = max delay.toNat 10 := by
  unfold safeDelay
  split
  next less =>
    have below : delay.toNat < 10 := less
    exact (Nat.max_eq_right below.le).symm
  next notLess =>
    have above : 10 ≤ delay.toNat := Nat.not_lt.mp notLess
    exact (Nat.max_eq_left above).symm

end Alarm

section DeltaList

variable {Timer : Type u}

def ticksOf (dlist : List (Timer × SysInterval)) : List (Timer × Nat) :=
  dlist.map fun entry => (entry.1, entry.2.toNat)

@[simp]
theorem map_fst_ticksOf (dlist : List (Timer × SysInterval)) :
    (ticksOf dlist).map Prod.fst = dlist.map Prod.fst := by
  simp [ticksOf]

theorem ticksOf_chDlistInsert (vtp : Timer) (delta : SysInterval)
    (dlist : List (Timer × SysInterval)) :
    ticksOf (chDlistInsert vtp delta dlist) = insertDelta vtp delta.toNat (ticksOf dlist) := by
  induction dlist generalizing delta with
  | nil => rfl
  | cons first rest inductionHypothesis =>
      obtain ⟨first, distance⟩ := first
      by_cases earlier : distance < delta
      · have less : distance.toNat < delta.toNat := earlier
        have left : (delta - distance).toNat = delta.toNat - distance.toNat :=
          BitVec.toNat_sub_of_le (BitVec.le_of_lt earlier)
        simpa [chDlistInsert, earlier, ticksOf, insertDelta, less, left] using
          inductionHypothesis (delta - distance)
      · have notLess : ¬distance.toNat < delta.toNat := earlier
        have left : (distance - delta).toNat = distance.toNat - delta.toNat :=
          BitVec.toNat_sub_of_le (BitVec.not_lt.mp earlier)
        simp [chDlistInsert, earlier, ticksOf, insertDelta, notLess, left]

theorem perm_chDlistInsert (vtp : Timer) (delta : SysInterval)
    (dlist : List (Timer × SysInterval)) :
    ((chDlistInsert vtp delta dlist).map Prod.fst).Perm (vtp :: dlist.map Prod.fst) := by
  induction dlist generalizing delta with
  | nil => exact List.Perm.refl _
  | cons first rest inductionHypothesis =>
      unfold chDlistInsert
      split
      · exact ((inductionHypothesis _).cons first.1).trans (List.Perm.swap vtp first.1 _)
      · exact List.Perm.refl _

variable [DecidableEq Timer]

/-- No delta overflows when the deadlines of all elements are within a round of the counter. -/
theorem ticksOf_chDlistDequeue {base limit : Nat} (vtp : Timer) {dlist : List (Timer × SysInterval)}
    (near : limit ≤ base + 2 ^ 32)
    (range : ∀ entry ∈ deadlinesFrom base (ticksOf dlist), entry.2 < limit) :
    ticksOf (chDlistDequeue vtp dlist) = removeDelta vtp (ticksOf dlist) := by
  induction dlist generalizing base with
  | nil => rfl
  | cons first rest inductionHypothesis =>
      obtain ⟨first, distance⟩ := first
      by_cases removed : first = vtp
      · cases rest with
        | nil => simp [chDlistDequeue, chDlistGive, removed, ticksOf, removeDelta, delayFirst]
        | cons next rest =>
            have below := range (next.1, base + distance.toNat + next.2.toNat)
              (by simp [ticksOf, deadlinesFrom])
            have sum : (next.2 + distance).toNat = next.2.toNat + distance.toNat := by
              rw [BitVec.toNat_add]
              exact Nat.mod_eq_of_lt (by simp only at below; omega)
            simp [chDlistDequeue, chDlistGive, removed, ticksOf, removeDelta, delayFirst, sum]
      · have later := @inductionHypothesis (base + distance.toNat) (by omega)
          (fun entry inside => range entry (List.mem_cons_of_mem _ inside))
        simpa [chDlistDequeue, removed, ticksOf, removeDelta] using later

theorem map_fst_chDlistDequeue (vtp : Timer) (dlist : List (Timer × SysInterval)) :
    (chDlistDequeue vtp dlist).map Prod.fst = (dlist.map Prod.fst).erase vtp := by
  induction dlist with
  | nil => rfl
  | cons first rest inductionHypothesis =>
      by_cases removed : first.1 = vtp
      · cases rest with
        | nil => simp [chDlistDequeue, chDlistGive, removed]
        | cons next rest => simp [chDlistDequeue, chDlistGive, removed]
      · simp [chDlistDequeue, removed, inductionHypothesis]

end DeltaList

namespace VirtualTimersList

variable {Timer : Type u}

structure Alarmed (delay : Nat) (vtlp next : VirtualTimersList Timer) : Prop where
  dlist : next.dlist = vtlp.dlist
  lasttime : next.lasttime = vtlp.lasttime
  later : vtlp.time ≤ next.time
  /-- Unless the kernel registers a skipped deadline, the alarm comes after the delay. -/
  inTime : next.insufficientDelta = false → vtlp.insufficientDelta = false ∧
    ∃ alarm, next.alarm = some alarm ∧ alarm.time = vtlp.time + max delay 10

theorem alarmed_of_loop {vtlp next : VirtualTimersList Timer} {delay : SysInterval}
    {passes : List Nat} {base : BitVec 32 → BitVec 32 → BitVec 32} (short : passes.sum < 2 ^ 31)
    (returned : (deadlineSkipLoop base (vtlp.now + safeDelay delay) chCfgStTimedelta vtlp.time
      vtlp.now (safeDelay delay) passes).map vtlp.alarmed = some next) :
    Alarmed delay.toNat vtlp next := by
  obtain ⟨result, looped, rfl⟩ := Option.map_eq_some_iff.mp returned
  have safe := toNat_safeDelay delay
  have least : chCfgStTimedelta.toNat = 10 := rfl
  obtain ⟨later, grown, first⟩ :=
    deadlineSkipLoop_result (by omega) (by omega) looped
  refine ⟨rfl, rfl, later, ?_⟩
  intro noFault
  simp only [alarmed, Bool.or_eq_false_iff, decide_eq_false_iff_not, BitVec.lt_def] at noFault
  obtain ⟨passed, early, alarmEq⟩ := first (by omega)
  refine ⟨noFault.1, result.1, rfl, ?_⟩
  rw [alarmEq, ← safe]
  exact PortAlarm.time_eq early

theorem vtSetAlarm_alarmed {vtlp next : VirtualTimersList Timer} {delay : SysInterval}
    {passes : List Nat} (short : passes.sum < 2 ^ 31)
    (returned : vtlp.vtSetAlarm delay passes = some next) : Alarmed delay.toNat vtlp next :=
  alarmed_of_loop short returned

theorem vtInsertFirst_alarmed {vtlp next : VirtualTimersList Timer} {vtp : Timer}
    {delay : SysInterval} {passes : List Nat} (short : passes.sum < 2 ^ 31)
    (returned : vtlp.vtInsertFirst vtp delay passes = some next) :
    Alarmed delay.toNat { vtlp with lasttime := vtlp.now, dlist := [(vtp, delay)] } next :=
  alarmed_of_loop short returned

section Armed

variable {vtlp next : VirtualTimersList Timer} {vtp : Timer}
variable {delay : SysInterval} {passes : List Nat}

theorem vtSetAlarm_dlist (returned : vtlp.vtSetAlarm delay passes = some next) :
    next.dlist = vtlp.dlist := by
  obtain ⟨result, -, rfl⟩ := Option.map_eq_some_iff.mp returned
  rfl

theorem afterFirst_dlist (returned : vtlp.afterFirst passes = some next) :
    next.dlist = vtlp.dlist := by
  rw [afterFirst] at returned
  split at returned
  next empty =>
    rw [← Option.some.inj returned]
  next =>
    split at returned
    · rw [Option.some.inj returned]
    · exact vtSetAlarm_dlist returned

theorem chVTDoTickI_armed {result : VirtualTimersList Timer × Option Timer}
    (returned : vtlp.chVTDoTickI passes = some result) :
    vtlp.dlist.map Prod.fst = result.2.toList ++ result.1.dlist.map Prod.fst := by
  rw [chVTDoTickI] at returned
  split at returned
  next empty =>
    rw [Option.ite_none_right_eq_some, Option.some.injEq] at returned
    obtain ⟨-, rfl⟩ := returned
    rfl
  next vtp delta rest listed =>
    split at returned
    · obtain ⟨finished, set, rfl⟩ := Option.map_eq_some_iff.mp returned
      simp [vtSetAlarm_dlist set, listed]
    · rw [← Option.some.inj returned, listed]
      rfl

variable [DecidableEq Timer]

theorem chVTDoSetI_armed (returned : vtlp.chVTDoSetI vtp delay passes = some next) :
    vtp ∉ vtlp.dlist.map Prod.fst ∧
      (next.dlist.map Prod.fst).Perm (vtp :: vtlp.dlist.map Prod.fst) := by
  rw [chVTDoSetI, Option.ite_none_left_eq_some, not_or] at returned
  obtain ⟨⟨-, unarmed⟩, returned⟩ := returned
  refine ⟨by simpa [chVTIsArmedI] using unarmed, ?_⟩
  rw [vtEnqueue] at returned
  split at returned
  next empty =>
    obtain ⟨result, -, rfl⟩ := Option.map_eq_some_iff.mp returned
    rw [empty]
    exact List.Perm.refl [vtp]
  next =>
    obtain ⟨prepared, prepares, rfl⟩ := Option.map_eq_some_iff.mp returned
    have same : prepared.dlist = vtlp.dlist := by
      split at prepares
      · exact vtSetAlarm_dlist prepares
      · rw [Option.some.inj prepares]
    simp only [same]
    exact perm_chDlistInsert vtp _ vtlp.dlist

theorem chVTDoResetI_armed (returned : vtlp.chVTDoResetI vtp passes = some next) :
    vtp ∈ vtlp.dlist.map Prod.fst ∧
      next.dlist.map Prod.fst = (vtlp.dlist.map Prod.fst).erase vtp := by
  rw [chVTDoResetI, Option.ite_none_right_eq_some] at returned
  obtain ⟨armed, returned⟩ := returned
  have unlinked : ((vtlp.unlink vtp).dlist.map Prod.fst) = (vtlp.dlist.map Prod.fst).erase vtp :=
    map_fst_chDlistDequeue vtp vtlp.dlist
  refine ⟨by simpa [chVTIsArmedI] using armed, ?_⟩
  split at returned
  · rw [afterFirst_dlist returned, unlinked]
  · rw [← Option.some.inj returned, unlinked]

end Armed

end VirtualTimersList

end XBotFirmware.Platform
