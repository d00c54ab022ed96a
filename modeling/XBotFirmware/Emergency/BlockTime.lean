import XBotFirmware.Emergency.Service

set_option autoImplicit false

/-!
The block time that `OnLoop` returns.

The deadlines of the service are the delays of the active inputs with a reason and the
second of the high level.  The value returned is their block time, so the service thread
neither oversleeps one of them nor wakes up before the first.
-/

namespace XBotFirmware.Inputs

open XBotFirmware.Library XBotFirmware.Platform XBotFirmware.Service XBotFirmware.Emergency

namespace Input

/-- `GetEmergencyReasons` does not skip the input. -/
def Watched (input : Input) : Prop := ¬(input.emergencyReason = 0 ∨ input.active = false)

instance (input : Input) : Decidable input.Watched := inferInstanceAs (Decidable (¬_))

def deadline (now : Micros) (input : Input) : Deadline :=
  waitingFor (input.activeDuration now) input.emergencyDelay

end Input

namespace InputService

def deadlines (service : InputService) (now : Micros) : List Deadline :=
  (service.allInputs.filter (·.Watched)).map (Input.deadline now)

theorem isBlockTime_emergencyStep (now : Micros) (input : Input) {collected : Reasons × Micros}
    {deadlines : List Deadline}
    (counted : IsBlockTime uint32Max.toNat deadlines collected.2.toNat) :
    IsBlockTime uint32Max.toNat
      (deadlines ++ ([input].filter (·.Watched)).map (Input.deadline now))
      (emergencyStep now collected input).2.toNat := by
  unfold emergencyStep
  split
  next skipped =>
    have unwatched : ¬input.Watched := not_not_intro skipped
    simpa [unwatched] using counted
  next watched =>
    have isWatched : input.Watched := watched
    have kept : [input].filter (fun input => decide input.Watched) = [input] := by
      simp [isWatched]
    rw [kept]
    exact isBlockTime_timeoutReached _ _ counted

theorem isBlockTime_foldl_emergencyStep (now : Micros) (inputs : List Input)
    {collected : Reasons × Micros} {deadlines : List Deadline}
    (counted : IsBlockTime uint32Max.toNat deadlines collected.2.toNat) :
    IsBlockTime uint32Max.toNat
      (deadlines ++ (inputs.filter (·.Watched)).map (Input.deadline now))
      (inputs.foldl (emergencyStep now) collected).2.toNat := by
  induction inputs generalizing collected deadlines with
  | nil => simpa using counted
  | cons input rest inductionHypothesis =>
      have next := inductionHypothesis (isBlockTime_emergencyStep now input counted)
      rw [List.append_assoc, ← List.map_append, ← List.filter_append] at next
      exact next

theorem isBlockTime_getEmergencyReasons (service : InputService) (now : Micros) :
    IsBlockTime uint32Max.toNat (service.deadlines now)
      (service.getEmergencyReasons now).2.toNat := by
  have start : IsBlockTime uint32Max.toNat [] ((0 : Reasons), uint32Max).2.toNat :=
    .nil uint32Max.toNat
  exact isBlockTime_foldl_emergencyStep now service.allInputs start

theorem mem_deadlines {service : InputService} {input : Input}
    (membership : input ∈ service.allInputs) (watched : input.Watched) (now : Micros) :
    input.deadline now ∈ service.deadlines now :=
  List.mem_map_of_mem (List.mem_filter.mpr ⟨membership, decide_eq_true watched⟩)

theorem reached_deadline_iff {input : Input} (watched : input.Watched) (now : Micros) :
    (input.deadline now).Reached ↔ input.Due now := by
  have active : input.active = true := by
    simpa using (not_or.mp watched).2
  simp only [Input.deadline, waitingFor, Deadline.Reached, Input.toNat_emergencyDelay,
    Input.activeDuration, Input.Due, active, true_and]

/-- Inputs without a reason play no part, so the reasons are the same where the watched
inputs are due at the same time. -/
theorem getEmergencyReasons_fst_congr {service : InputService} {now later : Micros}
    (same : ∀ input ∈ service.allInputs, input.Watched → (input.Due later ↔ input.Due now)) :
    (service.getEmergencyReasons later).1 = (service.getEmergencyReasons now).1 := by
  apply BitVec.eq_of_getLsbD_eq
  intro bit _
  rw [Bool.eq_iff_iff, getEmergencyReasons_getLsbD, getEmergencyReasons_getLsbD]
  apply exists_congr
  intro input
  apply and_congr_right
  intro membership
  rw [and_comm, @and_comm (input.Due now)]
  apply and_congr_right
  intro carried
  have reason : input.emergencyReason ≠ 0 := ne_zero_of_getLsbD carried
  by_cases active : input.active = true
  · exact same input membership (not_or.mpr ⟨reason, by simp [active]⟩)
  · exact iff_of_false (fun due => active due.1) (fun due => active due.1)

end InputService

end XBotFirmware.Inputs

namespace XBotFirmware.Emergency

open XBotFirmware.Library XBotFirmware.Platform XBotFirmware.Service XBotFirmware.Inputs

namespace EmergencyService

def deadlines (service : EmergencyService) (input : InputService) (now : Micros) :
    List Deadline :=
  input.deadlines now ++ [waitingFor (now - service.lastHighLevelEmergencyMessage) 1000000]

/-- No elapsed time wraps in the given time after `now`. -/
def Unwrapped (service : EmergencyService) (input : InputService) (now : Micros) (time : Nat) :
    Prop :=
  ∀ deadline ∈ service.deadlines input now, deadline.elapsed + time < 2 ^ 32

instance (service : EmergencyService) (input : InputService) (now : Micros) (time : Nat) :
    Decidable (service.Unwrapped input now time) :=
  inferInstanceAs (Decidable (∀ _ ∈ _, _))

def reached (service : EmergencyService) (input : InputService) (now : Micros) : List Bool :=
  (service.deadlines input now).map (·.Reached)

theorem count_reached (service : EmergencyService) (input : InputService) (now : Micros) :
    (service.reached input now).count true = (service.deadlines input now).countP (·.Reached) := by
  rw [reached, List.count_eq_countP, List.countP_map]
  apply List.countP_congr
  intro deadline _
  simp

theorem deadlines_add {service : EmergencyService} {input : InputService} {now : Micros}
    {time : Nat} (unwrapped : service.Unwrapped input now time) :
    service.deadlines input (now + BitVec.ofNat 32 time) =
      (service.deadlines input now).map (Deadline.later time) := by
  obtain ⟨inputs, highLevel⟩ := List.forall_mem_append.mp unwrapped
  simp only [deadlines, InputService.deadlines, List.map_append, List.map_map]
  congr 1
  · apply List.map_congr_left
    intro each kept
    exact waitingFor_add (inputs _ (List.mem_map_of_mem kept))
  · exact congrArg (fun deadline => [deadline])
      (waitingFor_add (highLevel _ List.mem_cons_self))

theorem deadlines_onLoop (service : EmergencyService) (input : InputService)
    (order : ArgumentOrder) (now later : Micros) :
    (service.onLoop input order now).1.deadlines input later =
      service.deadlines input later := by
  cases order <;> simp [deadlines, onLoop]

theorem isBlockTime_onLoop (service : EmergencyService) (input : InputService)
    (order : ArgumentOrder) (now : Micros) :
    IsBlockTime uint32Max.toNat (service.deadlines input now)
      (service.onLoop input order now).2.toNat := by
  have highLevel := isBlockTime_timeoutReached (now - service.lastHighLevelEmergencyMessage) 1000000
    (IsBlockTime.nil uint32Max.toNat)
  have both := (input.isBlockTime_getEmergencyReasons now).append highLevel
  have returned : (service.onLoop input order now).2 = etlMin (input.getEmergencyReasons now).2
      (timeoutReached (now - service.lastHighLevelEmergencyMessage) 1000000 uint32Max).2 := by
    cases order <;> simp [onLoop, checkInputs, checkTimeouts]
  rwa [← toNat_etlMin, ← returned] at both

theorem delay_lt {service : EmergencyService} {input : InputService} {now : Micros}
    {deadline : Deadline} (membership : deadline ∈ service.deadlines input now) :
    deadline.delay < uint32Max.toNat := by
  rcases List.mem_append.mp membership with ofInput | ofHighLevel
  · obtain ⟨each, _, rfl⟩ := List.mem_map.mp ofInput
    have bound := each.emergencyDelayMs.isLt
    have delay : (each.deadline now).delay = each.emergencyDelayMs.toNat * 1000 :=
      each.toNat_emergencyDelay
    rw [toNat_uint32Max, delay]
    omega
  · obtain rfl := List.mem_singleton.mp ofHighLevel
    exact (by decide : (1000000 : Micros).toNat < uint32Max.toNat)

/-- A second `OnLoop` that finds the same inputs due and the high level as silent as the
first keeps the reasons. -/
theorem onLoop_reasons_again (service : EmergencyService) (input : InputService)
    (order : ArgumentOrder) {now later : Micros}
    (inputs : (input.getEmergencyReasons later).1 = (input.getEmergencyReasons now).1)
    (highLevel : service.HighLevelSilent later ↔ service.HighLevelSilent now) :
    ((service.onLoop input order now).1.onLoop input order later).1.reasons =
      (service.onLoop input order now).1.reasons := by
  have second : (1000000 : Micros).toNat = 1000000 := rfl
  simp only [HighLevelSilent] at highLevel
  cases order with
  | inputsFirst =>
      simp only [onLoop, checkInputs, checkTimeouts, updateEmergency_reasons,
        updateEmergency_last, timeoutReached_fst, second, inputs, highLevel]
      exact revise_revise_again _ _ _ _ _
  | timeoutsFirst =>
      simp only [onLoop, checkInputs, checkTimeouts, updateEmergency_reasons,
        updateEmergency_last, timeoutReached_fst, second, inputs, highLevel]
      exact revise_revise_again _ _ _ _ _

section Sleeping

variable {service : EmergencyService} {input : InputService} {now block : Micros} {time : Nat}

theorem reached_add (isBlockTime : IsBlockTime uint32Max.toNat (service.deadlines input now)
    block.toNat) (early : time < block.toNat) (unwrapped : service.Unwrapped input now time) :
    service.reached input (now + BitVec.ofNat 32 time) = service.reached input now := by
  rw [reached, deadlines_add unwrapped, List.map_map]
  apply List.map_congr_left
  intro deadline membership
  simp only [Function.comp_apply, isBlockTime.reached_iff early membership]

theorem due_add (isBlockTime : IsBlockTime uint32Max.toNat (service.deadlines input now)
    block.toNat) (early : time < block.toNat) (unwrapped : service.Unwrapped input now time)
    {each : Input} (membership : each ∈ input.allInputs) (watched : each.Watched) :
    each.Due (now + BitVec.ofNat 32 time) ↔ each.Due now := by
  have counted : each.deadline now ∈ service.deadlines input now :=
    List.mem_append_left _ (InputService.mem_deadlines membership watched now)
  rw [← InputService.reached_deadline_iff watched, ← InputService.reached_deadline_iff watched,
    ← isBlockTime.reached_iff early counted, Input.deadline, Input.activeDuration,
    waitingFor_add (unwrapped _ counted)]
  rfl

theorem highLevelSilent_add (isBlockTime : IsBlockTime uint32Max.toNat
    (service.deadlines input now) block.toNat) (early : time < block.toNat)
    (unwrapped : service.Unwrapped input now time) :
    service.HighLevelSilent (now + BitVec.ofNat 32 time) ↔ service.HighLevelSilent now := by
  have counted : waitingFor (now - service.lastHighLevelEmergencyMessage) 1000000 ∈
      service.deadlines input now := List.mem_append_right _ List.mem_cons_self
  have same := isBlockTime.reached_iff early counted
  rwa [← waitingFor_add (unwrapped _ counted)] at same

/-- The block time that is left after a part of it. -/
theorem isBlockTime_add (isBlockTime : IsBlockTime uint32Max.toNat
    (service.deadlines input now) block.toNat) (early : time < block.toNat)
    (unwrapped : service.Unwrapped input now time) :
    IsBlockTime uint32Max.toNat (service.deadlines input (now + BitVec.ofNat 32 time))
      (if block = uint32Max then uint32Max else block - BitVec.ofNat 32 time).toNat := by
  rw [deadlines_add unwrapped]
  split
  next endless =>
    rw [endless] at isBlockTime
    exact isBlockTime.later_limit time fun _ => delay_lt
  next limited =>
    have small : (BitVec.ofNat 32 time).toNat = time :=
      Nat.mod_eq_of_lt (Nat.lt_trans early block.isLt)
    have rest : (block - BitVec.ofNat 32 time).toNat = block.toNat - time := by
      rw [BitVec.toNat_sub_of_le (by rw [BitVec.le_def, small]; exact Nat.le_of_lt early), small]
    rw [rest]
    exact isBlockTime.later (lt_uint32Max limited) early

end Sleeping

/-- Until the block time is over nothing more is reached, `OnLoop` keeps the reasons and
returns what is left of it; when it is over something more is reached. -/
theorem onLoop_sleeps_exactly {service after : EmergencyService} {input : InputService}
    {order : ArgumentOrder} {now block : Micros}
    (looped : service.onLoop input order now = (after, block)) :
    1 ≤ block.toNat ∧
    (∀ time < block.toNat, service.Unwrapped input now time →
      (after.onLoop input order (now + BitVec.ofNat 32 time)).1.reasons = after.reasons ∧
      (after.onLoop input order (now + BitVec.ofNat 32 time)).2 =
        (if block = uint32Max then uint32Max else block - BitVec.ofNat 32 time) ∧
      after.reached input (now + BitVec.ofNat 32 time) = service.reached input now) ∧
    (block ≠ uint32Max → service.Unwrapped input now block.toNat →
      (service.reached input now).count true < (after.reached input (now + block)).count true) := by
  have isBlockTime := isBlockTime_onLoop service input order now
  have sameDeadlines := deadlines_onLoop service input order now
  rw [looped] at isBlockTime sameDeadlines
  refine ⟨isBlockTime.pos (by decide), fun time early unwrapped => ⟨?_, ?_, ?_⟩,
    fun limited unwrapped => ?_⟩
  · have inputs := InputService.getEmergencyReasons_fst_congr
      fun _ => due_add isBlockTime early unwrapped
    have again := onLoop_reasons_again service input order inputs
      (highLevelSilent_add isBlockTime early unwrapped)
    rwa [looped] at again
  · have next := isBlockTime_onLoop after input order (now + BitVec.ofNat 32 time)
    rw [sameDeadlines] at next
    exact BitVec.eq_of_toNat_eq (next.unique (isBlockTime_add isBlockTime early unwrapped))
  · rw [reached, sameDeadlines]
    exact reached_add isBlockTime early unwrapped
  · have more := isBlockTime.countP_lt (lt_uint32Max limited)
    rw [← deadlines_add unwrapped, BitVec.ofNat_toNat, BitVec.setWidth_eq] at more
    rw [count_reached, count_reached, sameDeadlines]
    exact more

def pendingInput : InputService where
  drivers := []
  allInputs := [{ Input.create 0 with
    emergencyReason := EmergencyReason.stop.mask
    emergencyDelayMs := 20
    active := true }]
  numActiveLift := 0
  liftMultipleInput := none
  outbox := []

theorem onLoop_sleeps_exactly_pending :
    ∃ after, initial.onLoop pendingInput .inputsFirst 5000 = (after, 15000) ∧
      (after.onLoop pendingInput .inputsFirst (5000 + BitVec.ofNat 32 14999)).1.reasons =
        after.reasons ∧
      (initial.reached pendingInput 5000).count true <
        (after.reached pendingInput (5000 + 15000)).count true := by
  have looped : initial.onLoop pendingInput .inputsFirst 5000 =
      ((initial.onLoop pendingInput .inputsFirst 5000).1, 15000) := by decide
  obtain ⟨_, before, afterwards⟩ := onLoop_sleeps_exactly looped
  exact ⟨_, looped, (before 14999 (by decide) (by decide)).1,
    afterwards (by decide) (by decide)⟩

end EmergencyService

end XBotFirmware.Emergency
