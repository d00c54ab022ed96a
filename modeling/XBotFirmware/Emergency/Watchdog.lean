import XBotFirmware.Emergency.Timed

set_option autoImplicit false

/-!
The watchdog on the high level.

`CheckTimeouts` compares a 32-bit difference with one second.  The difference
is taken against the last message, or against boot while there was none, and it
starts over every `2 ^ 32` microseconds.  `OnStop` sets the same bit without
touching the time of the last message, so the next check decides it again.
-/

namespace XBotFirmware.Emergency

open XBotFirmware.Library XBotFirmware.Platform XBotFirmware.Inputs XBotFirmware.Json

variable {ParserState : Type} {externals : Externals} {parser : StreamParser ParserState}
  {drivers : List (String × InputDriver)}

theorem EmergencyService.carries_timeoutHighLevel_onLoop (service : EmergencyService)
    {input : InputService} (invariant : input.Invariant) (order : ArgumentOrder) (now : Micros) :
    Carries (service.onLoop input order now).1.reasons .timeoutHighLevel ↔
      service.HighLevelSilent now := by
  have decided : Carries timeoutReasons .timeoutHighLevel := by decide
  have notReported : ¬ input.Reports now .timeoutHighLevel :=
    fun reported => (invariant.reports reported).2.1 rfl
  rw [carries_onLoop service invariant]
  simp [decided, notReported]

namespace Timed

def elapsed (state : Timed) (since : Nat) : Nat := 100 * (state.clock - since)

/-- The bit says whether the high level has been silent for a second of true time,
or since boot. -/
def WatchdogExact (state : Timed) : Prop :=
  state.world.Has .timeoutHighLevel ↔
    ∀ time, state.lastMessage = some time → 1000000 ≤ state.elapsed time

/-- The wrapping difference is on the side of one second that the watchdog wants:
before the first message it is not below a second, and after a message it is not
below a second again because the clock has come round. -/
def WatchdogInRange (state : Timed) : Prop :=
  match state.lastMessage with
  | none => 1000000 ≤ state.elapsed 0 % 2 ^ 32
  | some time => state.elapsed time < 2 ^ 32 ∨ 1000000 ≤ state.elapsed time % 2 ^ 32

def IsLoop : TimedOp → Prop
  | .onLoop _ => True
  | _ => False

theorem Invariant.highLevelSilent_iff {state : Timed} (invariant : state.Invariant) :
    state.world.emergency.HighLevelSilent (getTimeMicros state.clock) ↔
      1000000 ≤ state.elapsed (state.lastMessage.getD 0) % 2 ^ 32 := by
  rw [EmergencyService.HighLevelSilent, invariant.last, toNat_getTimeMicros_sub invariant.lastLe,
    elapsed]

theorem watchdogExact_onLoop_iff {state next : Timed} {op : TimedOp} (invariant : state.Invariant)
    (stepped : state.step externals parser op = some next) (loop : IsLoop op) :
    next.WatchdogExact ↔ state.WatchdogInRange := by
  cases op with
  | onLoop order =>
      simp only [step, perform, World.step, Option.map_some, Option.some.injEq] at stepped
      subst stepped
      have decided := EmergencyService.carries_timeoutHighLevel_onLoop state.world.emergency
        invariant.input order (getTimeMicros state.clock)
      rw [invariant.highLevelSilent_iff] at decided
      simp only [WatchdogExact, World.Has, decided, WatchdogInRange]
      cases state.lastMessage with
      | none => simp [elapsed]
      | some time =>
          simp only [Option.getD_some, Option.some.injEq, forall_eq', elapsed]
          constructor
          · intro exactly
            by_cases short : 100 * (state.clock - time) < 2 ^ 32
            · exact .inl short
            · exact .inr (exactly.mpr (by omega))
          · rintro (short | long)
            · rw [Nat.mod_eq_of_lt short]
            · exact ⟨fun _ => long.trans (Nat.mod_le _ _), fun _ => long⟩
  | _ => exact absurd loop id

variable (externals parser drivers) in
/-- The watchdog is exact after every `OnLoop` of a run exactly if every `OnLoop`
finds the wrapping difference in range. -/
theorem watchdogExact_iff_inRange (ops : List TimedOp) :
    AtEveryStep (step externals parser) (boot drivers) ops
        (fun _ op next => IsLoop op → next.WatchdogExact) ↔
      AtEveryStep (step externals parser) (boot drivers) ops
        (fun state op _ => IsLoop op → state.WatchdogInRange) := by
  apply atEveryStep_congr step_invariant (boot_invariant drivers)
  intro state op next invariant stepped
  constructor
  · intro exactly loop
    exact (watchdogExact_onLoop_iff invariant stepped loop).mp (exactly loop)
  · intro inRange loop
    exact (watchdogExact_onLoop_iff invariant stepped loop).mpr (inRange loop)

/-- Half a second after boot, before any message, `OnLoop` clears the bit, and a
message followed by `2 ^ 32` microseconds of silence is taken for a fresh one. -/
theorem watchdog_not_exact :
    ¬ AtEveryStep (step twoLiftExternals twoLiftParser) (boot [])
        [.pass 5000, .onLoop .inputsFirst] (fun _ op next => IsLoop op → next.WatchdogExact) ∧
      ¬ AtEveryStep (step twoLiftExternals twoLiftParser) (boot [])
        [.highLevelEmergency 0 0, .pass 42949673, .onLoop .inputsFirst]
        (fun _ op next => IsLoop op → next.WatchdogExact) := by
  constructor
  · intro exactly
    have wrong := exactly [.pass 5000] (.onLoop .inputsFirst) [] _ _ rfl rfl rfl trivial
    have cleared := wrong.mpr (fun time received => by cases received)
    revert cleared
    decide +kernel
  · intro exactly
    have wrong := exactly [.highLevelEmergency 0 0, .pass 42949673] (.onLoop .inputsFirst) [] _ _
      rfl rfl rfl trivial
    have cleared := wrong.mpr (by
      intro time received
      cases received
      decide +kernel)
    revert cleared
    decide +kernel

end Timed

def timeoutsCheckedAt : Op → Option Micros
  | .checkTimeouts now | .onLoop _ now => some now
  | _ => none

namespace World

/-- One operation other than a message keeps the bit exactly if it does not check
the timeouts within a second of the last message. -/
theorem step_timeoutHighLevel {world next : World} {op : Op} (invariant : world.input.Invariant)
    (notMessage : ¬ IsMessage op) (held : world.Has .timeoutHighLevel)
    (stepped : world.step externals parser op = some next) :
    next.Has .timeoutHighLevel ↔
      ∀ now, timeoutsCheckedAt op = some now → world.emergency.HighLevelSilent now := by
  have decided : Carries timeoutReasons .timeoutHighLevel := by decide
  have notInput : ¬ Carries inputReasons .timeoutHighLevel := by decide
  have notReported : ∀ now, ¬ world.input.Reports now .timeoutHighLevel :=
    fun now reported => (invariant.reports reported).2.1 rfl
  rw [step_has invariant stepped]
  cases op with
  | highLevelEmergency now add clear => exact absurd trivial notMessage
  | checkTimeouts now => simp [timeoutsCheckedAt, decided]
  | onLoop order now => simp [timeoutsCheckedAt, decided, notReported]
  | _ => simp [timeoutsCheckedAt, held, notInput]

theorem step_last_of_not_message {world next : World} {op : Op} (notMessage : ¬ IsMessage op)
    (stepped : world.step externals parser op = some next) :
    next.emergency.lastHighLevelEmergencyMessage =
      world.emergency.lastHighLevelEmergencyMessage := by
  have last := step_last stepped
  cases op with
  | highLevelEmergency now add clear => exact absurd trivial notMessage
  | _ => exact last

/-- The bit is set, and with it the emergency is on. -/
def Engaged (world : World) : Prop :=
  world.Has .timeoutHighLevel ∧ world.emergency.getEmergency = true

theorem engaged_iff (world : World) : world.Engaged ↔ world.Has .timeoutHighLevel :=
  ⟨fun engaged => engaged.1, fun held => ⟨held, getEmergency_of_has held⟩⟩

/-- From a state with the bit set, a run without messages keeps it on exactly if no
operation of the run checks the timeouts within a second of the last message. -/
theorem throughout_engaged_iff {world final : World} {ops : List Op}
    (invariant : world.input.Invariant) (held : world.Has .timeoutHighLevel)
    (quiet : ∀ op ∈ ops, ¬ IsMessage op)
    (executed : run (step externals parser) world ops = some final) :
    Throughout (step externals parser) world ops Engaged ↔
      ∀ op ∈ ops, ∀ now, timeoutsCheckedAt op = some now →
        world.emergency.HighLevelSilent now := by
  induction ops generalizing world with
  | nil => simp [throughout_nil_iff, engaged_iff, held]
  | cons op rest inductionHypothesis =>
      obtain ⟨next, stepped, remaining⟩ := run_cons_eq_some.mp executed
      obtain ⟨notMessage, quietRest⟩ := List.forall_mem_cons.mp quiet
      have nextInvariant := step_input_invariant externals parser world op next invariant stepped
      have kept := step_timeoutHighLevel invariant notMessage held stepped
      have last := step_last_of_not_message notMessage stepped
      rw [throughout_cons_iff stepped, List.forall_mem_cons, ← kept, engaged_iff]
      simp only [held, true_and]
      constructor
      · intro engaged
        have heldNext := (engaged_iff next).mp (engaged [] rest next rfl rfl)
        have silent := (inductionHypothesis nextInvariant heldNext quietRest remaining).mp engaged
        simp only [EmergencyService.HighLevelSilent, last] at silent
        exact ⟨heldNext, silent⟩
      · rintro ⟨heldNext, silent⟩
        refine (inductionHypothesis nextInvariant heldNext quietRest remaining).mpr ?_
        simpa only [EmergencyService.HighLevelSilent, last] using silent

/-- After `OnStop` the emergency stays engaged over a run without messages exactly
if every check of the timeouts in it comes a second after the last message. -/
theorem onStop_engaged_iff {history later : List Op} {world stopped final : World}
    (reached : run (step externals parser) (boot drivers) history = some world)
    (stop : world.step externals parser .onStop = some stopped)
    (quiet : ∀ op ∈ later, ¬ IsMessage op)
    (continued : run (step externals parser) stopped later = some final) :
    Throughout (step externals parser) stopped later Engaged ↔
      ∀ op ∈ later, ∀ now, timeoutsCheckedAt op = some now →
        world.emergency.HighLevelSilent now := by
  have invariant := reachable_input_invariant externals parser ⟨history, reached⟩
  have held : stopped.Has .timeoutHighLevel :=
    (step_has invariant stop .timeoutHighLevel).mpr (.inr rfl)
  have last := step_last_of_not_message id stop
  have stoppedInvariant :=
    step_input_invariant externals parser world .onStop stopped invariant stop
  rw [throughout_engaged_iff stoppedInvariant held quiet continued]
  simp only [EmergencyService.HighLevelSilent, last]

/-- Two seconds after the last message the checks leave the stop in place. -/
theorem onStop_engaged_two_seconds :
    ∃ world stopped final : World,
      run (step twoLiftExternals twoLiftParser) (boot [])
        [.highLevelEmergency 1000000 0 (BitVec.allOnes 16)] = some world ∧
      world.step twoLiftExternals twoLiftParser .onStop = some stopped ∧
      run (step twoLiftExternals twoLiftParser) stopped
        [.sendStatus, .onLoop .inputsFirst 3000000] = some final ∧
      Throughout (step twoLiftExternals twoLiftParser) stopped
        [.sendStatus, .onLoop .inputsFirst 3000000] Engaged := by
  refine ⟨_, _, _, rfl, rfl, rfl, ?_⟩
  have reached : run (step twoLiftExternals twoLiftParser) (boot [])
      [.highLevelEmergency 1000000 0 (BitVec.allOnes 16)] = some _ := rfl
  have quiet : ∀ op ∈ [Op.sendStatus, .onLoop .inputsFirst 3000000], ¬ IsMessage op := by
    simp [IsMessage]
  have exactly := onStop_engaged_iff reached rfl quiet rfl
  refine exactly.mpr ?_
  simp only [List.forall_mem_cons, timeoutsCheckedAt, Option.some.injEq, forall_eq',
    EmergencyService.HighLevelSilent]
  refine ⟨by simp, by decide +kernel, by simp⟩

/-- A message clears everything, the service stops, and the next `OnLoop`, 40 ms
after the message, takes the emergency back. -/
theorem onStop_not_engaged :
    ∃ world stopped : World,
      run (step twoLiftExternals twoLiftParser) (boot [])
        [.highLevelEmergency 1000000 0 (BitVec.allOnes 16)] = some world ∧
      world.step twoLiftExternals twoLiftParser .onStop = some stopped ∧
      ¬ Throughout (step twoLiftExternals twoLiftParser) stopped [.onLoop .inputsFirst 1040000]
        Engaged := by
  refine ⟨_, _, rfl, rfl, ?_⟩
  intro engaged
  have wrong := (engaged [.onLoop .inputsFirst 1040000] [] _ rfl rfl).2
  revert wrong
  decide +kernel

end World

end XBotFirmware.Emergency
