import XBotFirmware.Emergency.HeldInput

set_option autoImplicit false

/-!
Two calls of `CheckInputs` that run at the same time.

Each call reads the inputs under the mutex of the input service and updates the
reasons under the mutex of the emergency service.  Nothing holds the two steps
together, so the call that read the inputs first may be the one that updates the
reasons last.
-/

namespace XBotFirmware.Emergency

open XBotFirmware.Library XBotFirmware.Platform XBotFirmware.Inputs XBotFirmware.Json

/-- How far a call of `CheckInputs` has come. -/
inductive Call where
  | notStarted
  | collected (reasons : Reasons)
  | completed
  deriving DecidableEq, Repr

structure Race where
  world : World
  call : Caller → Call
  /-- The inputs and the time with which a caller has read them. -/
  seen : Caller → InputService × Micros
  lastReader : Option Caller
  lastWriter : Option Caller

inductive RaceOp where
  | getEmergencyReasons (caller : Caller) (now : Micros)
  | updateEmergency (caller : Caller)
  | inputs (op : InputOp)

namespace Race

variable {ParserState : Type} (externals : Externals) (parser : StreamParser ParserState)

def start (world : World) : Race where
  world := world
  call := fun _ => .notStarted
  seen := fun _ => (world.input, 0)
  lastReader := none
  lastWriter := none

def step (race : Race) : RaceOp → Option Race
  | .getEmergencyReasons caller now =>
      match race.call caller with
      | .notStarted =>
          some { race with
            call := Function.update race.call caller
              (.collected (race.world.input.getEmergencyReasons now).1)
            seen := Function.update race.seen caller (race.world.input, now)
            lastReader := some caller }
      | _ => none
  | .updateEmergency caller =>
      match race.call caller with
      | .collected reasons =>
          some { race with
            world := { race.world with
              emergency := race.world.emergency.updateEmergency reasons inputReasons }
            call := Function.update race.call caller .completed
            lastWriter := some caller }
      | _ => none
  | .inputs op => (race.world.input.step externals parser op).map fun input =>
      { race with world := { race.world with input := input } }

def reasonsOf (race : Race) (caller : Caller) : Reasons :=
  ((race.seen caller).1.getEmergencyReasons (race.seen caller).2).1

def Shows (race : Race) (caller : Caller) : Prop :=
  ∀ reason, Carries inputReasons reason →
    (race.world.Has reason ↔ Carries (race.reasonsOf caller) reason)

/-- Both callers saw due inputs with the same input bits. -/
def SameDue (race : Race) (first second : Caller) : Prop :=
  ∀ reason, Carries inputReasons reason →
    ((race.seen first).1.Reports (race.seen first).2 reason ↔
      (race.seen second).1.Reports (race.seen second).2 reason)

structure Invariant (race : Race) : Prop where
  collected : ∀ caller reasons, race.call caller = .collected reasons →
    reasons = race.reasonsOf caller
  reader : race.lastReader = none → ∀ caller, race.call caller = .notStarted
  writer : race.lastWriter = none → ∀ caller, race.call caller ≠ .completed
  written : ∀ caller, race.lastWriter = some caller →
    race.call caller = .completed ∧ race.Shows caller

theorem start_invariant (world : World) : (start world).Invariant := by
  refine ⟨?_, fun _ _ => rfl, ?_, ?_⟩
  · intro caller reasons pending
    cases pending
  · intro _ caller finished
    cases finished
  · intro caller wrote
    cases wrote

theorem carries_updateEmergency_inputReasons (service : EmergencyService) (reasons : Reasons)
    {reason : EmergencyReason} (isInput : Carries inputReasons reason) :
    Carries (service.updateEmergency reasons inputReasons).reasons reason ↔
      Carries reasons reason := by
  rw [EmergencyService.updateEmergency_reasons, carries_revise]
  simp [isInput]

variable {externals parser}

theorem step_invariant (race : Race) (op : RaceOp) (next : Race) (invariant : race.Invariant)
    (stepped : race.step externals parser op = some next) : next.Invariant := by
  cases op with
  | getEmergencyReasons caller now =>
      simp only [step] at stepped
      split at stepped
      next idle =>
        cases stepped
        refine ⟨?_, ?_, ?_, ?_⟩
        · intro other reasons pending
          by_cases same : other = caller
          · subst same
            simp only [Function.update_self, Call.collected.injEq] at pending
            simp only [reasonsOf, Function.update_self, pending]
          · simp only [Function.update_of_ne same] at pending
            simp only [reasonsOf, Function.update_of_ne same]
            exact invariant.collected other reasons pending
        · intro absent
          cases absent
        · intro unwritten other finished
          by_cases same : other = caller
          · subst same
            simp only [Function.update_self, reduceCtorEq] at finished
          · simp only [Function.update_of_ne same] at finished
            exact invariant.writer unwritten other finished
        · intro other wrote
          obtain ⟨finished, shows⟩ := invariant.written other wrote
          have different : other ≠ caller := by
            rintro rfl
            rw [idle] at finished
            cases finished
          simp only [Shows, reasonsOf, Function.update_of_ne different]
          exact ⟨finished, shows⟩
      next => cases stepped
  | updateEmergency caller =>
      simp only [step] at stepped
      split at stepped
      next reasons pending =>
        cases stepped
        refine ⟨?_, ?_, ?_, ?_⟩
        · intro other collected otherPending
          by_cases same : other = caller
          · subst same
            simp only [Function.update_self, reduceCtorEq] at otherPending
          · simp only [Function.update_of_ne same] at otherPending
            exact invariant.collected other collected otherPending
        · intro unread
          have idle := invariant.reader unread caller
          rw [pending] at idle
          cases idle
        · intro absent
          cases absent
        · intro other wrote
          obtain rfl : caller = other := Option.some.inj wrote
          refine ⟨by simp only [Function.update_self], fun reason isInput => ?_⟩
          exact (carries_updateEmergency_inputReasons race.world.emergency reasons isInput).trans
            (by rw [invariant.collected caller reasons pending]; rfl)
      next => cases stepped
  | inputs op =>
      simp only [step] at stepped
      obtain ⟨input, _, rfl⟩ := Option.map_eq_some_iff.mp stepped
      exact ⟨invariant.collected, invariant.reader, invariant.writer, invariant.written⟩

/-- When both calls have completed, the word shows what the last reader computed
exactly if the last reader also wrote last, or the two reads found the same. -/
theorem completed_shows_iff {world : World} {ops : List RaceOp} {final : Race}
    (executed : run (step externals parser) (start world) ops = some final)
    (completed : ∀ caller, final.call caller = .completed) :
    ∃ reader writer, final.lastReader = some reader ∧ final.lastWriter = some writer ∧
      (final.Shows reader ↔ reader = writer ∨ final.SameDue reader writer) := by
  have invariant : final.Invariant :=
    run_invariant step_invariant (start_invariant world) executed
  have hasReader : final.lastReader ≠ none := by
    intro unread
    have idle := invariant.reader unread .mainThread
    rw [completed] at idle
    cases idle
  have hasWriter : final.lastWriter ≠ none := fun unwritten =>
    invariant.writer unwritten .mainThread (completed .mainThread)
  obtain ⟨reader, readLast⟩ := Option.ne_none_iff_exists'.mp hasReader
  obtain ⟨writer, wroteLast⟩ := Option.ne_none_iff_exists'.mp hasWriter
  refine ⟨reader, writer, readLast, wroteLast, ?_⟩
  have shows := (invariant.written writer wroteLast).2
  simp only [Shows, reasonsOf, InputService.carries_getEmergencyReasons] at shows
  simp only [Shows, reasonsOf, InputService.carries_getEmergencyReasons, SameDue]
  constructor
  · intro fresh
    exact .inr fun reason isInput => (fresh reason isInput).symm.trans (shows reason isInput)
  · rintro (rfl | same) reason isInput
    · exact shows reason isInput
    · exact (shows reason isInput).trans (same reason isInput).symm

/-- The main thread reads the inputs, one of them is lifted, the emergency thread
reads the inputs, and both update the reasons in the given order. -/
def liftRace (first second : Caller) : List RaceOp :=
  [.getEmergencyReasons .mainThread 1000, .inputs (.update [1100] 1 true),
    .getEmergencyReasons .emergencyThread 1200, .updateEmergency first, .updateEmergency second]

def liftWorld : Option World :=
  (twoLiftInitial.step twoLiftExternals twoLiftParser (.configure twoLiftDocument)).map fun input =>
    ⟨EmergencyService.initial, input⟩

theorem completed_shows_in_order :
    ∃ (world : World) (final : Race), liftWorld = some world ∧
      run (step twoLiftExternals twoLiftParser) (start world)
        (liftRace .mainThread .emergencyThread) = some final ∧
      final.lastReader = some .emergencyThread ∧ final.Shows .emergencyThread := by
  have evaluated : liftWorld.map (fun world =>
      (run (step twoLiftExternals twoLiftParser) (start world)
        (liftRace .mainThread .emergencyThread)).map fun final =>
          (final.call .mainThread, final.call .emergencyThread, final.lastReader,
            final.lastWriter)) =
      some (some (.completed, .completed, some .emergencyThread, some .emergencyThread)) := by
    decide +kernel
  obtain ⟨world, configured, raced⟩ := Option.map_eq_some_iff.mp evaluated
  obtain ⟨final, executed, values⟩ := Option.map_eq_some_iff.mp raced
  simp only [Prod.mk.injEq] at values
  obtain ⟨mainDone, emergencyDone, readLast, wroteLast⟩ := values
  obtain ⟨reader, writer, isReader, isWriter, shows⟩ := completed_shows_iff executed
    (fun caller => by cases caller <;> assumption)
  obtain rfl : Caller.emergencyThread = reader := Option.some.inj (readLast.symm.trans isReader)
  obtain rfl : Caller.emergencyThread = writer := Option.some.inj (wroteLast.symm.trans isWriter)
  exact ⟨world, final, configured, executed, readLast, shows.mpr (.inl rfl)⟩

/-- The stale read of the main thread is written last and drops LIFT, while the input
is active and the last read has reported it. -/
theorem stale_check_drops_lift :
    ∃ (world : World) (final : Race), liftWorld = some world ∧
      run (step twoLiftExternals twoLiftParser) (start world)
        (liftRace .emergencyThread .mainThread) = some final ∧
      (∀ caller, final.call caller = .completed) ∧
      final.lastReader = some .emergencyThread ∧ ¬ final.Shows .emergencyThread := by
  have evaluated : liftWorld.map (fun world =>
      (run (step twoLiftExternals twoLiftParser) (start world)
        (liftRace .emergencyThread .mainThread)).map fun final =>
          (final.call .mainThread, final.call .emergencyThread, final.lastReader,
            decide (¬ final.world.Has .lift ∧
              Carries (final.reasonsOf .emergencyThread) .lift))) =
      some (some (.completed, .completed, some .emergencyThread, true)) := by
    decide +kernel
  obtain ⟨world, configured, raced⟩ := Option.map_eq_some_iff.mp evaluated
  obtain ⟨final, executed, values⟩ := Option.map_eq_some_iff.mp raced
  simp only [Prod.mk.injEq, decide_eq_true_eq] at values
  obtain ⟨mainDone, emergencyDone, readLast, dropped, reported⟩ := values
  refine ⟨world, final, configured, executed, ?_, readLast, ?_⟩
  · intro caller
    cases caller <;> assumption
  · intro shows
    exact dropped ((shows .lift (by decide)).mpr reported)

end Race

end XBotFirmware.Emergency
