import XBotFirmware.Emergency.Service

set_option autoImplicit false

/-!
The emergency service together with the inputs it reads, as one machine whose
operations run one after another.

Time arguments are arbitrary 32-bit samples here.  `Emergency.Timed` runs the
same machine against true time.
-/

namespace XBotFirmware.Emergency

open XBotFirmware.Library XBotFirmware.Platform XBotFirmware.Inputs XBotFirmware.Json

structure World where
  emergency : EmergencyService
  input : InputService
  deriving DecidableEq, Repr

/-- The operations of both services.  A high-level message has two elements, the
reasons to add and the reasons to clear. -/
inductive Op where
  | checkInputs (now : Micros)
  | checkTimeouts (now : Micros)
  | onLoop (order : ArgumentOrder) (now : Micros)
  | onStop
  | sendStatus
  | inputs (op : InputOp)
  | highLevelEmergency (now : Micros) (add clear : Reasons)

/-- A two-element message in memory; what follows it does not matter. -/
def twoElements (add clear : Reasons) : Nat → Reasons
  | 0 => add
  | _ => clear

namespace World

variable {ParserState : Type} (externals : Externals) (parser : StreamParser ParserState)

def boot (drivers : List (String × InputDriver)) : World :=
  ⟨EmergencyService.initial, InputService.initial drivers⟩

def step (world : World) : Op → Option World
  | .checkInputs now =>
      some { world with emergency := (world.emergency.checkInputs world.input now).1 }
  | .checkTimeouts now =>
      some { world with emergency := (world.emergency.checkTimeouts now).1 }
  | .onLoop order now =>
      some { world with emergency := (world.emergency.onLoop world.input order now).1 }
  | .onStop => some { world with emergency := world.emergency.onStop }
  | .sendStatus => some { world with emergency := world.emergency.sendStatus }
  | .inputs op => (world.input.step externals parser op).map fun input =>
      { world with input := input }
  | .highLevelEmergency now add clear =>
      some { world with emergency :=
        world.emergency.onHighLevelEmergencyChanged now (twoElements add clear) 2 }

def Has (world : World) (reason : EmergencyReason) : Prop :=
  Carries world.emergency.reasons reason

instance (world : World) (reason : EmergencyReason) : Decidable (world.Has reason) :=
  inferInstanceAs (Decidable (Carries _ _))

theorem step_input_invariant (world : World) (op : Op) (next : World)
    (invariant : world.input.Invariant)
    (stepped : world.step externals parser op = some next) : next.input.Invariant := by
  cases op with
  | inputs op =>
      obtain ⟨input, changed, rfl⟩ := Option.map_eq_some_iff.mp stepped
      exact InputService.step_invariant externals parser world.input op input invariant changed
  | _ =>
      cases stepped
      exact invariant

theorem reachable_input_invariant {drivers : List (String × InputDriver)} {world : World}
    (reached : Reachable (step externals parser) (boot drivers) world) :
    world.input.Invariant :=
  reached.invariant (InputService.initial_invariant drivers)
    (step_input_invariant externals parser)

variable {externals parser}

/-- The reasons after one operation, for every operation and every reason. -/
theorem step_has {world next : World} {op : Op} (invariant : world.input.Invariant)
    (stepped : world.step externals parser op = some next) (reason : EmergencyReason) :
    next.Has reason ↔
      match op with
      | .checkInputs now =>
          (world.Has reason ∧ ¬ Carries inputReasons reason) ∨ world.input.Reports now reason
      | .checkTimeouts now =>
          (world.Has reason ∧ ¬ Carries timeoutReasons reason) ∨
            (reason = .timeoutHighLevel ∧ world.emergency.HighLevelSilent now)
      | .onLoop _ now =>
          (world.Has reason ∧ ¬ Carries inputReasons reason ∧ ¬ Carries timeoutReasons reason) ∨
            world.input.Reports now reason ∨
            (reason = .timeoutHighLevel ∧ world.emergency.HighLevelSilent now)
      | .onStop => world.Has reason ∨ reason = .timeoutHighLevel
      | .sendStatus => world.Has reason
      | .inputs _ => world.Has reason
      | .highLevelEmergency _ add clear =>
          (world.Has reason ∧ ¬ Carries clear reason) ∨ Carries add reason := by
  cases op with
  | checkInputs now =>
      cases stepped
      exact world.emergency.carries_checkInputs world.input now reason
  | checkTimeouts now =>
      cases stepped
      exact world.emergency.carries_checkTimeouts now reason
  | onLoop order now =>
      cases stepped
      exact world.emergency.carries_onLoop invariant order now reason
  | onStop =>
      cases stepped
      exact world.emergency.carries_onStop reason
  | sendStatus =>
      cases stepped
      exact Iff.rfl
  | inputs op =>
      obtain ⟨input, _, rfl⟩ := Option.map_eq_some_iff.mp stepped
      exact Iff.rfl
  | highLevelEmergency now add clear =>
      cases stepped
      exact world.emergency.carries_onHighLevelEmergencyChanged now (twoElements add clear) 2 reason

theorem step_last {world next : World} {op : Op}
    (stepped : world.step externals parser op = some next) :
    next.emergency.lastHighLevelEmergencyMessage =
      match op with
      | .highLevelEmergency now _ _ => now
      | _ => world.emergency.lastHighLevelEmergencyMessage := by
  cases op with
  | onLoop order now =>
      cases stepped
      cases order <;> simp [EmergencyService.onLoop]
  | inputs op =>
      obtain ⟨input, _, rfl⟩ := Option.map_eq_some_iff.mp stepped
      rfl
  | _ =>
      cases stepped
      simp [EmergencyService.onStop, EmergencyService.sendStatus,
        EmergencyService.onHighLevelEmergencyChanged]

end World

end XBotFirmware.Emergency
