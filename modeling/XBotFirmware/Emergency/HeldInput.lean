import XBotFirmware.Emergency.Watchdog

set_option autoImplicit false

/-!
Held inputs: when `GetEmergencyReasons` reports them, by true time.

A check can be early, because it may sample the time before the input becomes
active and read the inputs after that.  It can also lapse, because the time an
input has been held is kept modulo `2 ^ 32` microseconds.
-/

namespace XBotFirmware.Emergency

open XBotFirmware.Library XBotFirmware.Platform XBotFirmware.Inputs XBotFirmware.Json

variable {ParserState : Type} {externals : Externals} {parser : StreamParser ParserState}
  {drivers : List (String × InputDriver)}

namespace Timed

def readWith (state : Timed) : TimedOp → Option Nat
  | .checkInputs caller => state.sampled caller
  | .onLoop _ => some state.clock
  | _ => none

/-- No input that the operation reports has been held for less than its delay. -/
def NeverEarly (state : Timed) (op : TimedOp) : Prop :=
  ∀ sample position input, state.readWith op = some sample →
    state.world.input.allInputs[position]? = some input →
    state.elapsed (state.heldSince position) < 2 ^ 32 →
    input.Included (getTimeMicros sample) →
    input.emergencyDelayMs.toNat * 1000 ≤ state.elapsed (state.heldSince position)

/-- Every input that the operation may report was already active when the time was
sampled, or has been held for its delay anyway, or became active almost a whole
period of the clock after the sample. -/
def SampledInTime (state : Timed) (op : TimedOp) : Prop :=
  ∀ sample position input, state.readWith op = some sample →
    state.world.input.allInputs[position]? = some input →
    input.active = true → input.emergencyReason ≠ 0 →
    state.elapsed (state.heldSince position) < 2 ^ 32 →
    state.heldSince position ≤ sample ∨
      input.emergencyDelayMs.toNat * 1000 ≤ state.elapsed (state.heldSince position) ∨
      (2 ^ 32 - 100 * (state.heldSince position - sample) % 2 ^ 32) % 2 ^ 32 <
        input.emergencyDelayMs.toNat * 1000

theorem Invariant.readWith_le {state : Timed} (invariant : state.Invariant) {op : TimedOp}
    {sample : Nat} (read : state.readWith op = some sample) : sample ≤ state.clock := by
  cases op with
  | checkInputs caller => exact invariant.sampledLe caller sample read
  | onLoop order => exact Nat.le_of_eq (Option.some.inj read).symm
  | _ => cases read

theorem Invariant.toNat_activeDuration {state : Timed} (invariant : state.Invariant)
    {position : Nat} {input : Input}
    (found : state.world.input.allInputs[position]? = some input) (active : input.active = true)
    (sample : Nat) :
    (getTimeMicros sample - input.activeSince).toNat =
      if state.heldSince position ≤ sample then 100 * (sample - state.heldSince position) % 2 ^ 32
      else (2 ^ 32 - 100 * (state.heldSince position - sample) % 2 ^ 32) % 2 ^ 32 := by
  rw [invariant.held position input found active]
  split
  next ordered => exact toNat_getTimeMicros_sub ordered
  next reversed => exact toNat_getTimeMicros_sub_of_lt (Nat.lt_of_not_le reversed)

theorem neverEarly_iff_sampledInTime {state : Timed} (invariant : state.Invariant)
    (op : TimedOp) : state.NeverEarly op ↔ state.SampledInTime op := by
  constructor
  · intro neverEarly sample position input read found active reason short
    by_cases ordered : state.heldSince position ≤ sample
    · exact .inl ordered
    by_cases below : (2 ^ 32 - 100 * (state.heldSince position - sample) % 2 ^ 32) % 2 ^ 32 <
        input.emergencyDelayMs.toNat * 1000
    · exact .inr (.inr below)
    have duration := invariant.toNat_activeDuration found active sample
    rw [if_neg ordered] at duration
    have due : input.Due (getTimeMicros sample) :=
      ⟨active, duration ▸ Nat.le_of_not_lt below⟩
    exact .inr (.inl (neverEarly sample position input read found short
      ((input.included_iff _).mpr ⟨reason, due⟩)))
  · intro inTime sample position input read found short included
    obtain ⟨reason, active, reached⟩ := (input.included_iff _).mp included
    rw [invariant.toNat_activeDuration found active sample] at reached
    have sampleLe := invariant.readWith_le read
    by_cases ordered : state.heldSince position ≤ sample
    · rw [if_pos ordered] at reached
      unfold elapsed
      exact reached.trans ((Nat.mod_le _ _).trans (Nat.mul_le_mul_left 100
        (Nat.sub_le_sub_right sampleLe _)))
    · rw [if_neg ordered] at reached
      rcases inTime sample position input read found active reason short with
        before | passed | below
      · exact absurd before ordered
      · exact passed
      · exact absurd reached (Nat.not_le_of_lt below)

variable (externals parser drivers) in
/-- No check of a run is early exactly if each has sampled the time in time. -/
theorem neverEarly_iff (ops : List TimedOp) :
    AtEveryStep (step externals parser) (boot drivers) ops (fun state op _ => state.NeverEarly op) ↔
      AtEveryStep (step externals parser) (boot drivers) ops
        (fun state op _ => state.SampledInTime op) := by
  apply atEveryStep_congr step_invariant (boot_invariant drivers)
  intro state op next invariant _
  exact neverEarly_iff_sampledInTime invariant op

/-- The events of `{"simulated":[{"emergency":{"reason":"stop","delay":100}}]}` by the
position of the character that raises them. -/
def delayedStopEvents (position : Nat) : List Event :=
  let event (stackPos : Nat) (str prim key : String) (type : StreamType) : Event :=
    ⟨⟨stackPos, str, prim, fun level => if level = 4 then "emergency" else key⟩, type⟩
  match position with
  | 0 => [event 0 "" "" "" .object]
  | 11 => [event 1 "simulated" "" "" .key]
  | 13 => [event 2 "" "" "" .array]
  | 14 => [event 3 "" "" "" .object]
  | 25 => [event 4 "emergency" "" "" .key]
  | 27 => [event 5 "" "" "" .object]
  | 35 => [event 6 "reason" "" "" .key]
  | 42 => [event 7 "stop" "" "reason" .string]
  | 50 => [event 6 "delay" "" "" .key]
  | 55 => [event 7 "" "100" "delay" .number, event 5 "" "" "" .objectEnd]
  | 56 => [event 3 "" "" "" .objectEnd]
  | 57 => [event 2 "" "" "" .arrayEnd]
  | 58 => [event 0 "" "" "" .objectEnd]
  | _ => []

def delayedStopParser : StreamParser Nat where
  init := 0
  parse position _ :=
    (position + 1, if position = 58 then .streamDone else .streamInProg,
      delayedStopEvents position)

def delayedStopDocument : List Char :=
  ("\x7b\"simulated\":[\x7b\"emergency\":\x7b" ++
    "\"reason\":\"stop\",\"delay\":100\x7d\x7d]\x7d").toList

def delayedStopExternals : Externals :=
  ⟨fun _ => palNoline, fun text => if text = "100" then some 100 else none⟩

def delayedStopBoot : Timed :=
  boot [("gpio", ⟨.gpio, none⟩), ("simulated", ⟨.simulated, none⟩)]

def delayedStop (activeSince : Micros) : Input where
  idx := 0
  invert := false
  emergencyReason := EmergencyReason.latch.mask ||| EmergencyReason.stop.mask
  emergencyDelayMs := 100
  gpioLine := none
  active := true
  activeSince := activeSince
  nextForDriver := none

/-- The main thread samples the time, the stop input becomes active 100 microseconds
later, and the check that follows at once reports it, 100 ms early. -/
theorem check_is_early :
    ∃ state : Timed,
      run (step delayedStopExternals delayedStopParser) delayedStopBoot
        [.configure delayedStopDocument, .sample .mainThread, .pass 1, .update 1 true] =
          some state ∧
      (state.world.input.getEmergencyReasons (getTimeMicros 0)).1 =
        (delayedStop 100).emergencyReason ∧
      ¬ AtEveryStep (step delayedStopExternals delayedStopParser) delayedStopBoot
        [.configure delayedStopDocument, .sample .mainThread, .pass 1, .update 1 true,
          .checkInputs .mainThread] (fun state op _ => state.NeverEarly op) := by
  have evaluated : (run (step delayedStopExternals delayedStopParser) delayedStopBoot
      [.configure delayedStopDocument, .sample .mainThread, .pass 1, .update 1 true]).map
      (fun state => (state.clock, state.sampled .mainThread, state.heldSince 1,
        state.world.input.allInputs[1]?,
        (state.world.input.getEmergencyReasons (getTimeMicros 0)).1)) =
      some (1, some 0, 1, some (delayedStop 100), (delayedStop 100).emergencyReason) := by
    decide +kernel
  obtain ⟨state, executed, values⟩ := Option.map_eq_some_iff.mp evaluated
  simp only [Prod.mk.injEq] at values
  obtain ⟨clock, sampled, since, found, word⟩ := values
  refine ⟨state, executed, word, ?_⟩
  intro neverEarly
  obtain ⟨next, stepped⟩ : ∃ next, state.step delayedStopExternals delayedStopParser
      (.checkInputs .mainThread) = some next := by
    simp [step, sampled, perform, World.step]
  have wrong := neverEarly _ (.checkInputs .mainThread) [] state next rfl executed stepped
    0 1 (delayedStop 100) sampled found (by simp [elapsed, clock, since])
    ⟨by decide, by decide +kernel⟩
  simp [elapsed, clock, since, delayedStop] at wrong

theorem step_heldSince {state next : Timed} {op : TimedOp}
    (stepped : state.step externals parser op = some next) :
    next.heldSince =
      observe state.world.input next.world.input state.clock state.heldSince := by
  have unchanged : observe state.world.input state.world.input state.clock state.heldSince =
      state.heldSince := by
    funext position
    simp [observe]
  cases op with
  | pass ticks =>
      cases stepped
      exact unchanged.symm
  | sample caller =>
      cases stepped
      exact unchanged.symm
  | checkInputs caller =>
      simp only [step] at stepped
      split at stepped
      next => cases stepped
      next time pending =>
        obtain ⟨world, _, rfl⟩ := Option.map_eq_some_iff.mp stepped
        rfl
  | _ =>
      simp only [step] at stepped
      obtain ⟨world, _, rfl⟩ := Option.map_eq_some_iff.mp stepped
      rfl

theorem step_heldSince_of_active {state next : Timed} {op : TimedOp} {position : Nat}
    (stepped : state.step externals parser op = some next)
    (active : activeAt state.world.input position = true) :
    next.heldSince position = state.heldSince position := by
  rw [step_heldSince stepped, observe]
  simp [active]

/-- Over a run in which the input stays active the record does not move. -/
theorem run_heldSince {state final : Timed} {ops : List TimedOp} {position : Nat}
    (held : Throughout (step externals parser) state ops
      fun state => activeAt state.world.input position = true)
    (executed : run (step externals parser) state ops = some final) :
    final.heldSince position = state.heldSince position := by
  induction ops generalizing state with
  | nil =>
      simp only [run_nil, Option.some.injEq] at executed
      rw [executed]
  | cons op rest inductionHypothesis =>
      obtain ⟨next, stepped, remaining⟩ := run_cons_eq_some.mp executed
      obtain ⟨active, heldRest⟩ := (throughout_cons_iff stepped).mp held
      rw [inductionHypothesis heldRest remaining, step_heldSince_of_active stepped active]

theorem step_raises {state next : Timed} {op : TimedOp} {position : Nat}
    (stepped : state.step externals parser op = some next)
    (released : activeAt state.world.input position = false)
    (raised : activeAt next.world.input position = true) :
    next.heldSince position = state.clock := by
  rw [step_heldSince stepped, observe, if_pos ⟨raised, released⟩]

/-- All reasons of the input are in the word that `GetEmergencyReasons` returns now,
and `CheckInputs` leaves those among them that it decides set. -/
def Reported (state : Timed) (input : Input) : Prop :=
  let now := getTimeMicros state.clock
  (∀ bit, input.emergencyReason.getLsbD bit = true →
      (state.world.input.getEmergencyReasons now).1.getLsbD bit = true) ∧
    ∀ reason, Carries inputReasons reason → Carries input.emergencyReason reason →
      Carries (state.world.emergency.checkInputs state.world.input now).1.reasons reason

/-- Some input at another position is due now and carries the bit. -/
def ReportedByOther (state : Timed) (position bit : Nat) : Prop :=
  ∃ other input, other ≠ position ∧ state.world.input.allInputs[other]? = some input ∧
    input.Due (getTimeMicros state.clock) ∧ input.emergencyReason.getLsbD bit = true

theorem reported_iff (state : Timed) (input : Input) :
    state.Reported input ↔ ∀ bit, input.emergencyReason.getLsbD bit = true →
      ∃ other ∈ state.world.input.allInputs, other.Due (getTimeMicros state.clock) ∧
        other.emergencyReason.getLsbD bit = true := by
  simp only [Reported, InputService.getEmergencyReasons_getLsbD,
    EmergencyService.carries_checkInputs]
  constructor
  · intro reported
    exact reported.1
  · intro reported
    exact ⟨reported, fun reason _ carried => .inr (reported reason.bit carried)⟩

theorem Invariant.due_iff {state : Timed} (invariant : state.Invariant) {position : Nat}
    {input : Input} (found : state.world.input.allInputs[position]? = some input)
    (active : input.active = true) :
    input.Due (getTimeMicros state.clock) ↔
      input.emergencyDelayMs.toNat * 1000 ≤ state.elapsed (state.heldSince position) % 2 ^ 32 := by
  rw [Input.Due, invariant.toNat_activeDuration found active,
    if_pos (invariant.heldLe position), elapsed]
  simp [active]

/-- An active input is reported exactly if it is due by the wrapping clock, or other
inputs stand in for it. -/
theorem reported_iff_due {state : Timed} {position : Nat} {input : Input}
    (found : state.world.input.allInputs[position]? = some input) :
    state.Reported input ↔
      input.Due (getTimeMicros state.clock) ∨
        ∀ bit, input.emergencyReason.getLsbD bit = true → state.ReportedByOther position bit := by
  rw [reported_iff]
  constructor
  · intro reported
    by_cases due : input.Due (getTimeMicros state.clock)
    · exact .inl due
    · refine .inr fun bit carried => ?_
      obtain ⟨other, membership, otherDue, otherCarries⟩ := reported bit carried
      obtain ⟨index, lookup⟩ := List.mem_iff_getElem?.mp membership
      refine ⟨index, other, ?_, lookup, otherDue, otherCarries⟩
      rintro rfl
      obtain rfl : input = other := Option.some.inj (found.symm.trans lookup)
      exact due otherDue
  · rintro (due | byOthers) bit carried
    · exact ⟨input, List.mem_of_getElem? found, due, carried⟩
    · obtain ⟨_, other, _, lookup, otherDue, otherCarries⟩ := byOthers bit carried
      exact ⟨other, List.mem_of_getElem? lookup, otherDue, otherCarries⟩

/-- An input that is raised and then held is reported from its delay on, exactly if
it has been held for less than a period of the clock, or the rest of the time still
covers the delay, or other inputs stand in for it. -/
theorem heldInput_reported_iff {history later : List TimedOp} {op : TimedOp}
    {start raised state : Timed} {position : Nat} {input : Input}
    (reached : run (step externals parser) (boot drivers) history = some start)
    (released : activeAt start.world.input position = false)
    (stepped : start.step externals parser op = some raised)
    (held : Throughout (step externals parser) raised later
      fun state => activeAt state.world.input position = true)
    (continued : run (step externals parser) raised later = some state)
    (found : state.world.input.allInputs[position]? = some input) :
    (input.emergencyDelayMs.toNat * 1000 ≤ state.elapsed start.clock → state.Reported input) ↔
      state.elapsed start.clock < 2 ^ 32 ∨
        input.emergencyDelayMs.toNat * 1000 ≤ state.elapsed start.clock % 2 ^ 32 ∨
        ∀ bit, input.emergencyReason.getLsbD bit = true → state.ReportedByOther position bit := by
  have invariant : state.Invariant := reachable_invariant
    ⟨history ++ op :: later, run_append_eq_some.mpr
      ⟨start, reached, run_cons_eq_some.mpr ⟨raised, stepped, continued⟩⟩⟩
  have raises := step_raises stepped released (held [] later raised rfl rfl)
  have since : state.heldSince position = start.clock :=
    (run_heldSince held continued).trans raises
  have active : input.active = true :=
    (activeAt_eq_true found).symm.trans (held later [] state (by simp) continued)
  have delayBound := input.emergencyDelayMs.isLt
  rw [reported_iff_due found, invariant.due_iff found active, since]
  constructor
  · intro reported
    by_cases short : state.elapsed start.clock < 2 ^ 32
    · exact .inl short
    · exact .inr (reported (by omega))
  · rintro (short | covered) passed
    · exact .inl ((Nat.mod_eq_of_lt short).symm ▸ passed)
    · exact covered

theorem delayedStop_raised :
    ∃ start raised : Timed,
      run (step delayedStopExternals delayedStopParser) delayedStopBoot
        [.configure delayedStopDocument] = some start ∧
      activeAt start.world.input 1 = false ∧ start.clock = 0 ∧
      start.step delayedStopExternals delayedStopParser (.update 1 true) = some raised ∧
      raised.clock = 0 ∧
      raised.world.input.allInputs = [liftMultiple, delayedStop 0] := by
  have evaluated : (run (step delayedStopExternals delayedStopParser) delayedStopBoot
      [.configure delayedStopDocument]).map (fun start =>
        (activeAt start.world.input 1, start.clock,
          (start.step delayedStopExternals delayedStopParser (.update 1 true)).map
            (fun raised => (raised.clock, raised.world.input.allInputs)))) =
      some (false, 0, some (0, [liftMultiple, delayedStop 0])) := by
    decide +kernel
  obtain ⟨start, configured, values⟩ := Option.map_eq_some_iff.mp evaluated
  simp only [Prod.mk.injEq] at values
  obtain ⟨released, startClock, raising⟩ := values
  obtain ⟨raised, stepped, values⟩ := Option.map_eq_some_iff.mp raising
  simp only [Prod.mk.injEq] at values
  exact ⟨start, raised, configured, released, startClock, stepped, values⟩

/-- After exactly 100 ms the stop input is reported. -/
theorem heldInput_reported_after_delay :
    ∃ raised state : Timed,
      run (step delayedStopExternals delayedStopParser) delayedStopBoot
        [.configure delayedStopDocument, .update 1 true] = some raised ∧
      run (step delayedStopExternals delayedStopParser) raised [.pass 1000] = some state ∧
      state.elapsed 0 = 100000 ∧ state.Reported (delayedStop 0) := by
  obtain ⟨start, raised, configured, released, startClock, stepped, clock, inputs⟩ :=
    delayedStop_raised
  have reached := run_cons_eq_some.mpr ⟨start, by simpa using configured,
    run_cons_eq_some.mpr ⟨raised, stepped, run_nil _ _⟩⟩
  refine ⟨raised, _, reached, rfl, by simp [elapsed, clock], ?_⟩
  have active : activeAt raised.world.input 1 = true := by simp [activeAt, inputs, delayedStop]
  have passes : raised.step delayedStopExternals delayedStopParser (.pass 1000) =
      some { raised with clock := raised.clock + 1000 } := rfl
  have held : Throughout (step delayedStopExternals delayedStopParser) raised [.pass 1000]
      fun state => activeAt state.world.input 1 = true :=
    (throughout_cons_iff passes).mpr ⟨active, throughout_nil_iff.mpr active⟩
  have exactly := heldInput_reported_iff configured released stepped held rfl
    (by simp [inputs] : raised.world.input.allInputs[1]? = some (delayedStop 0))
  apply exactly.mpr
  · exact .inl (by simp [elapsed, clock, startClock])
  · simp [elapsed, clock, startClock, delayedStop]

/-- After `2 ^ 32` microseconds the stop input is still held, and neither reported by
`GetEmergencyReasons` nor set by `CheckInputs`. -/
theorem heldInput_lapses :
    ∃ raised state : Timed,
      run (step delayedStopExternals delayedStopParser) delayedStopBoot
        [.configure delayedStopDocument, .update 1 true] = some raised ∧
      run (step delayedStopExternals delayedStopParser) raised [.pass 42949673] = some state ∧
      state.world.input.allInputs[1]? = some (delayedStop 0) ∧
      (delayedStop 0).emergencyDelayMs.toNat * 1000 ≤ state.elapsed 0 ∧
      (state.world.input.getEmergencyReasons (getTimeMicros state.clock)).1 = 0 ∧
      ¬ state.Reported (delayedStop 0) := by
  obtain ⟨start, raised, configured, released, startClock, stepped, clock, inputs⟩ :=
    delayedStop_raised
  have reached := run_cons_eq_some.mpr ⟨start, by simpa using configured,
    run_cons_eq_some.mpr ⟨raised, stepped, run_nil _ _⟩⟩
  have empty : (raised.world.input.getEmergencyReasons (getTimeMicros 42949673)).1 = 0 := by
    rw [InputService.getEmergencyReasons, inputs]
    decide +kernel
  refine ⟨raised, _, reached, rfl, by simp [inputs], ?_, ?_, ?_⟩
  · simp [elapsed, clock, delayedStop]
  · simpa [clock] using empty
  · intro reported
    have bit := reported.1 0 (by decide)
    simp [clock, empty] at bit

end Timed

end XBotFirmware.Emergency
