import XBotFirmware.Emergency.Word

set_option autoImplicit false

/-!
The emergency machine against true time.

Operations happen at the current tick, which only advances.  A check of the
inputs samples the clock first and reads the inputs later, in between which
other operations may run.  Two ghost variables record true times that the code
keeps as 32-bit samples: when the last message came, and since when each input
has been held.
-/

namespace XBotFirmware.Emergency

open XBotFirmware.Library XBotFirmware.Platform XBotFirmware.Inputs XBotFirmware.Json

/-- The two threads that run `CheckInputs`. -/
inductive Caller where
  | mainThread
  | emergencyThread
  deriving DecidableEq, Repr

structure Timed where
  clock : Nat
  world : World
  /-- The tick of the last high-level message. -/
  lastMessage : Option Nat
  /-- The tick at which the input at a position last became active. -/
  heldSince : Nat → Nat
  /-- The tick at which a caller sampled the time of its pending check. -/
  sampled : Caller → Option Nat

inductive TimedOp where
  | pass (ticks : Nat)
  | sample (caller : Caller)
  | checkInputs (caller : Caller)
  | onLoop (order : ArgumentOrder)
  | onStop
  | sendStatus
  | configure (source : List Char)
  | update (position : Nat) (newActive : Bool)
  | highLevelEmergency (add clear : Reasons)

namespace Timed

def activeAt (service : InputService) (position : Nat) : Bool :=
  match service.allInputs[position]? with
  | none => false
  | some input => input.active

/-- Record the tick for the inputs that have become active. -/
def observe (before after : InputService) (clock : Nat) (heldSince : Nat → Nat) : Nat → Nat :=
  fun position =>
    if activeAt after position = true ∧ activeAt before position = false then clock
    else heldSince position

variable {ParserState : Type} (externals : Externals) (parser : StreamParser ParserState)

def boot (drivers : List (String × InputDriver)) : Timed where
  clock := 0
  world := World.boot drivers
  lastMessage := none
  heldSince := fun _ => 0
  sampled := fun _ => none

def perform (state : Timed) (op : Op) : Option Timed :=
  (state.world.step externals parser op).map fun world =>
    { state with
      world := world
      heldSince := observe state.world.input world.input state.clock state.heldSince }

def step (state : Timed) : TimedOp → Option Timed
  | .pass ticks => some { state with clock := state.clock + ticks }
  | .sample caller =>
      some { state with sampled := Function.update state.sampled caller (some state.clock) }
  | .checkInputs caller =>
      match state.sampled caller with
      | none => none
      | some time =>
          { state with sampled := Function.update state.sampled caller none }.perform
            externals parser (.checkInputs (getTimeMicros time))
  | .onLoop order => state.perform externals parser (.onLoop order (getTimeMicros state.clock))
  | .onStop => state.perform externals parser .onStop
  | .sendStatus => state.perform externals parser .sendStatus
  | .configure source => state.perform externals parser (.inputs (.configure source))
  | .update position newActive =>
      let now := getTimeMicros state.clock
      state.perform externals parser (.inputs (.update [now, now] position newActive))
  | .highLevelEmergency add clear =>
      { state with lastMessage := some state.clock }.perform externals parser
        (.highLevelEmergency (getTimeMicros state.clock) add clear)

structure Invariant (state : Timed) : Prop where
  input : state.world.input.Invariant
  last : state.world.emergency.lastHighLevelEmergencyMessage =
    getTimeMicros (state.lastMessage.getD 0)
  lastLe : state.lastMessage.getD 0 ≤ state.clock
  held : ∀ (position : Nat) (input : Input), state.world.input.allInputs[position]? = some input →
    input.active = true → input.activeSince = getTimeMicros (state.heldSince position)
  heldLe : ∀ position, state.heldSince position ≤ state.clock
  sampledLe : ∀ caller time, state.sampled caller = some time → time ≤ state.clock

theorem boot_invariant (drivers : List (String × InputDriver)) : (boot drivers).Invariant where
  input := InputService.initial_invariant drivers
  last := getTimeMicros_zero.symm
  lastLe := Nat.le_refl 0
  held := by
    intro position input found
    simp [boot, World.boot, InputService.initial] at found
  heldLe := fun _ => Nat.le_refl 0
  sampledLe := by
    intro caller time sampled
    simp [boot] at sampled

def inputReadings : Op → List Micros
  | .inputs (.update readings _ _) => readings
  | _ => []

variable {externals parser}

theorem activeAt_eq_true {service : InputService} {position : Nat} {input : Input}
    (found : service.allInputs[position]? = some input) :
    activeAt service position = input.active := by
  rw [activeAt, found]

theorem step_activeSince {world next : World} {op : Op} (invariant : world.input.Invariant)
    (stepped : world.step externals parser op = some next) {position : Nat} {input' : Input}
    (found : next.input.allInputs[position]? = some input') (raised : input'.active = true) :
    (∃ input, world.input.allInputs[position]? = some input ∧ input.active = true ∧
        input'.activeSince = input.activeSince) ∨
      (activeAt world.input position = false ∧ input'.activeSince ∈ inputReadings op) := by
  cases op with
  | inputs op =>
      obtain ⟨after, changed, rfl⟩ := Option.map_eq_some_iff.mp stepped
      cases op with
      | configure source =>
          obtain ⟨result, configured, rfl⟩ := Option.map_eq_some_iff.mp changed
          have inactive := (onRegisterInputConfigsChanged_invariant configured).inactive input'
            (List.mem_of_getElem? found)
          exact absurd raised (by simp [inactive])
      | update readings updated newActive =>
          obtain ⟨input, _, foundUpdated, notVirtual, returned⟩ :=
            InputService.updateByDriver_eq_some changed
          rcases invariant with unconfigured | ⟨wellFormed, _⟩
          · simp [unconfigured.inputs] at foundUpdated
          · have evolved := InputService.update_evolved wellFormed foundUpdated notVirtual returned
            obtain ⟨old, level, foundOld, followed⟩ := evolved.inputs position input' found
            rcases followed.activeSince raised with ⟨active, kept⟩ | ⟨inactive, sampled⟩
            · exact .inl ⟨old, foundOld, active, kept⟩
            · exact .inr ⟨(activeAt_eq_true foundOld).trans inactive, sampled⟩
  | _ =>
      cases stepped
      exact .inl ⟨input', found, raised, rfl⟩

theorem observe_le (before after : InputService) {clock : Nat} {heldSince : Nat → Nat}
    (heldLe : ∀ position, heldSince position ≤ clock) (position : Nat) :
    observe before after clock heldSince position ≤ clock := by
  unfold observe
  split
  · exact Nat.le_refl clock
  · exact heldLe position

/-- An operation that samples the inputs at the current tick keeps the records. -/
theorem perform_invariant {state next : Timed} {op : Op} (invariant : state.Invariant)
    (notMessage : ¬ IsMessage op)
    (current : ∀ reading ∈ inputReadings op, reading = getTimeMicros state.clock)
    (performed : state.perform externals parser op = some next) : next.Invariant := by
  obtain ⟨world, stepped, rfl⟩ := Option.map_eq_some_iff.mp performed
  refine ⟨World.step_input_invariant externals parser _ op world invariant.input stepped, ?_,
    invariant.lastLe, ?_, observe_le _ _ invariant.heldLe, invariant.sampledLe⟩
  · have kept := World.step_last stepped
    cases op with
    | highLevelEmergency now add clear => exact absurd trivial notMessage
    | _ => exact kept.trans invariant.last
  · intro position input' found raised
    have active := (activeAt_eq_true found).trans raised
    rcases step_activeSince invariant.input stepped found raised with
      ⟨input, foundOld, wasActive, kept⟩ | ⟨wasInactive, sampled⟩
    · have before := (activeAt_eq_true foundOld).trans wasActive
      simp only [observe, before, Bool.true_eq_false, and_false, if_false]
      exact kept.trans (invariant.held position input foundOld wasActive)
    · simp only [observe, active, wasInactive, and_self, if_true]
      exact current _ sampled

theorem step_invariant (state : Timed) (op : TimedOp) (next : Timed)
    (invariant : state.Invariant)
    (stepped : state.step externals parser op = some next) : next.Invariant := by
  cases op with
  | pass ticks =>
      cases stepped
      exact ⟨invariant.input, invariant.last, Nat.le_add_right_of_le invariant.lastLe,
        invariant.held, fun position => Nat.le_add_right_of_le (invariant.heldLe position),
        fun caller time sampled => Nat.le_add_right_of_le (invariant.sampledLe caller time sampled)⟩
  | sample caller =>
      cases stepped
      refine ⟨invariant.input, invariant.last, invariant.lastLe, invariant.held,
        invariant.heldLe, ?_⟩
      intro other time sampled
      by_cases same : other = caller
      · subst same
        simp only [Function.update_self, Option.some.injEq] at sampled
        exact Nat.le_of_eq sampled.symm
      · simp only [Function.update_of_ne same] at sampled
        exact invariant.sampledLe other time sampled
  | checkInputs caller =>
      simp only [step] at stepped
      split at stepped
      next => cases stepped
      next time pending =>
        refine perform_invariant ?_ id ?_ stepped
        · refine ⟨invariant.input, invariant.last, invariant.lastLe, invariant.held,
            invariant.heldLe, ?_⟩
          intro other time sampled
          by_cases same : other = caller
          · subst same
            simp only [Function.update_self, reduceCtorEq] at sampled
          · simp only [Function.update_of_ne same] at sampled
            exact invariant.sampledLe other time sampled
        · simp [inputReadings]
  | update position newActive =>
      refine perform_invariant invariant id ?_ stepped
      simp [inputReadings]
  | highLevelEmergency add clear =>
      simp only [step] at stepped
      obtain ⟨world, worldStep, rfl⟩ := Option.map_eq_some_iff.mp stepped
      have last := World.step_last worldStep
      cases worldStep
      refine ⟨invariant.input, last, Nat.le_refl state.clock, ?_,
        observe_le _ _ invariant.heldLe, invariant.sampledLe⟩
      intro position input found raised
      have active := (activeAt_eq_true found).trans raised
      simp only [observe, active, Bool.true_eq_false, and_false, if_false]
      exact invariant.held position input found raised
  | _ =>
      refine perform_invariant invariant id ?_ stepped
      simp [inputReadings]

theorem reachable_invariant {drivers : List (String × InputDriver)} {state : Timed}
    (reached : Reachable (step externals parser) (boot drivers) state) : state.Invariant :=
  reached.invariant (boot_invariant drivers) step_invariant

end Timed

end XBotFirmware.Emergency
