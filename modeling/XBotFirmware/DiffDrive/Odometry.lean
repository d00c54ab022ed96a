import XBotFirmware.Library.Run
import XBotFirmware.Library.WrappingCounter
import XBotFirmware.DiffDrive.Wheels

set_option autoImplicit false

/-!
The odometry loses and invents no ticks.

Next to the service runs an ideal odometer: it counts edges without wrapping, and
remembers the counts in the states that were copied, reported and processed.
-/

namespace XBotFirmware.DiffDrive

open XBotFirmware.Library XBotFirmware.Platform

namespace DiffDriveService

/-- The `d_left` and `d_right` that `ProcessStatusUpdate` publishes a twist for. -/
def usedDeltas (service : DiffDriveService) : List (Side → Int) :=
  if service.lastTicksValid then
    [fun side => ((service.wheel side).escState.tacho - (service.wheel side).lastTicks).toInt]
  else []

/-- The messages of `ProcessStatusUpdate`. -/
def statusUpdate (registers : Registers) (service : DiffDriveService) (micros : Micros) :
    List DriveOutput :=
  let left := (service.wheel .left).escState
  let right := (service.wheel .right).escState
  let dt : ℚ := (micros - service.lastTicksMicros).toNat / 1000000
  [.leftEscTemperature left.temperaturePcb, .leftEscCurrent left.currentInput,
    .leftEscStatus left.status, .rightEscTemperature right.temperaturePcb,
    .rightEscCurrent right.currentInput, .rightEscStatus right.status] ++
    service.usedDeltas.flatMap fun delta =>
      [actualTwist registers dt (delta .left) (delta .right), .wheelTicks left.tacho right.tacho]

theorem processStatusUpdate_outbox (registers : Registers) (service : DiffDriveService)
    (micros : Micros) :
    (service.processStatusUpdate registers micros).outbox =
      service.outbox ++ service.statusUpdate registers micros := by
  unfold processStatusUpdate statusUpdate usedDeltas
  cases service.lastTicksValid <;> rfl

end DiffDriveService

structure Odometry where
  service : DiffDriveService
  /-- Forward minus backward edges of each encoder. -/
  edges : Side → Int
  /-- The edges at the last locked copy. -/
  copied : Side → Int
  /-- The state in the last callback of each side, and the edges at its copy. -/
  reported : Side → EscState × Int
  /-- The side that has reported since the last processed update. -/
  waiting : Option Side
  /-- The edges in the updates processed since `last_ticks_valid` was reset. -/
  updates : List (Side → Int)
  /-- The deltas that the service has published twists for since then. -/
  deltas : List (Side → Int)

inductive OdometryOp where
  | encoderEdge (side : Side) (encoderB : Bool)
  | copyStatus (side : Side)
  | notifyCallback (side : Side) (registers : Registers) (micros : Micros)
  | beginTick (now : Micros) (emergency : Bool)
  | endTick (now : Micros)
  | onStart
  | onStop
  | onControlTwistChanged (registers : Registers) (now : Micros) (newValue : Nat → ℚ)
      (length : Nat) (emergency : Bool)
  | onEmergencyChangedEvent (emergency sending : Bool)

namespace Odometry

def initial : Odometry where
  service := .initial
  edges := fun _ => 0
  copied := fun _ => 0
  reported := fun _ => (.zero, 0)
  waiting := none
  updates := []
  deltas := []

def report (system : Odometry) (side : Side) : Side → EscState × Int :=
  Function.update system.reported side
    ((system.service.wheel side).latestState, system.copied side)

/-- A callback.  The service processes an update when the other side is valid, which
should be when the other side has been waiting. -/
def notify (system : Odometry) (side : Side) (registers : Registers) (micros : Micros) :
    Odometry :=
  { system with
    service := system.service.notifyCallback registers micros side
    reported := system.report side
    waiting := if system.waiting = some side.other then none else some side
    updates :=
      if (system.service.wheel side.other).valid then
        system.updates ++ [fun place => (system.report side place).2]
      else system.updates
    deltas :=
      if (system.service.wheel side.other).valid then
        system.deltas ++ (system.service.receive side).usedDeltas
      else system.deltas }

/-- `last_ticks_valid` is reset. -/
def restart (system : Odometry) (service : DiffDriveService) : Odometry :=
  { system with service := service, updates := [], deltas := [] }

def step (system : Odometry) : OdometryOp → Option Odometry
  | .encoderEdge side encoderB =>
      some { system with
        service := system.service.encoderEdge encoderB side
        edges := Function.update system.edges side
          (if encoderB then system.edges side + 1 else system.edges side - 1) }
  | .copyStatus side =>
      some { system with
        service := system.service.copyStatus side
        copied := Function.update system.copied side (system.edges side) }
  | .notifyCallback side registers micros => some (system.notify side registers micros)
  | .beginTick now emergency =>
      some { system with service := system.service.beginTick now emergency }
  | .endTick now => some { system with service := system.service.endTick now }
  | .onStart => some (system.restart system.service.onStart)
  | .onStop => some (system.restart system.service.onStop)
  | .onControlTwistChanged registers now newValue length emergency =>
      some { system with
        service := system.service.onControlTwistChanged registers now newValue length emergency }
  | .onEmergencyChangedEvent emergency sending =>
      some { system with
        service := system.service.onEmergencyChangedEvent emergency sending }

/-- The counters of one side, as far as 32 bits can tell. -/
structure TracksSide (wheel : Wheel) (edges copied : Int) (reported : EscState × Int) : Prop where
  tacho : wheel.tacho = BitVec.ofInt 32 edges
  latest : wheel.latestState.tacho = BitVec.ofInt 32 copied
  state : wheel.escState = reported.1
  ticks : reported.1.tacho = BitVec.ofInt 32 reported.2

structure Tracks (system : Odometry) : Prop where
  side : ∀ side, TracksSide (system.service.wheel side) (system.edges side) (system.copied side)
    (system.reported side)
  valid : ∀ side, (system.service.wheel side).valid = decide (system.waiting = some side)
  ticksValid : system.service.lastTicksValid = decide (system.updates ≠ [])
  lastTicks : ∀ last, system.updates.getLast? = some last →
    ∀ side, (system.service.wheel side).lastTicks = BitVec.ofInt 32 (last side)
  deltas : ∀ side, system.deltas.map (· side) =
    (differences (system.updates.map (· side))).map (wrapped 32)

theorem initial_tracks : initial.Tracks := by
  refine ⟨?_, ?_, rfl, ?_, ?_⟩
  · intro side
    cases side <;> exact ⟨rfl, rfl, rfl, rfl⟩
  · intro side
    cases side <;> rfl
  · intro last ends
    cases ends
  · intro side
    rfl

variable {system next : Odometry} {side : Side}

theorem Tracks.turn {service : DiffDriveService} {wheel : Wheel} {edges copied : Int}
    (tracks : system.Tracks)
    (wheels : service.wheel = Function.update system.service.wheel side wheel)
    (ticksValid : service.lastTicksValid = system.service.lastTicksValid)
    (counts : TracksSide wheel edges copied (system.reported side))
    (valid : wheel.valid = (system.service.wheel side).valid)
    (lastTicks : wheel.lastTicks = (system.service.wheel side).lastTicks) :
    Tracks { system with
      service := service
      edges := Function.update system.edges side edges
      copied := Function.update system.copied side copied } := by
  refine ⟨?_, ?_, ticksValid.trans tracks.ticksValid, ?_, tracks.deltas⟩
  · intro place
    simp only [wheels]
    by_cases here : place = side
    · subst here
      simp only [Function.update_self]
      exact counts
    · simp only [Function.update_of_ne here]
      exact tracks.side place
  · intro place
    rw [← tracks.valid place, wheels]
    by_cases here : place = side
    · rw [here, Function.update_self, valid]
    · rw [Function.update_of_ne here]
  · intro last ends place
    rw [← tracks.lastTicks last ends place, wheels]
    by_cases here : place = side
    · rw [here, Function.update_self, lastTicks]
    · rw [Function.update_of_ne here]

theorem Tracks.encoderEdge (tracks : system.Tracks) (encoderB : Bool)
    (stepped : system.step (.encoderEdge side encoderB) = some next) : next.Tracks := by
  cases stepped
  have old := tracks.side side
  have counts : TracksSide ((system.service.wheel side).edge encoderB)
      (if encoderB then system.edges side + 1 else system.edges side - 1) (system.copied side)
      (system.reported side) := by
    refine ⟨?_, old.latest, old.state, old.ticks⟩
    simp only [Wheel.edge, old.tacho]
    cases encoderB with
    | true =>
        simp only [if_true, BitVec.ofInt_add]
        rfl
    | false =>
        simp only [Bool.false_eq_true, if_false, Int.sub_eq_add_neg, BitVec.ofInt_add,
          BitVec.ofInt_neg, BitVec.sub_eq_add_neg]
        rfl
  have turned := tracks.turn (DiffDriveService.encoderEdge_wheel encoderB side)
    (by cases side <;> rfl) counts rfl rfl
  rwa [Function.update_eq_self] at turned

theorem Tracks.copyStatus (tracks : system.Tracks)
    (stepped : system.step (.copyStatus side) = some next) : next.Tracks := by
  cases stepped
  have old := tracks.side side
  have counts : TracksSide ((system.service.wheel side).copy (system.service.tachoAbs side))
      (system.edges side) (system.edges side) (system.reported side) :=
    ⟨old.tacho, old.tacho, old.state, old.ticks⟩
  have turned := tracks.turn (DiffDriveService.copyStatus_wheel side)
    (by cases side <;> rfl) counts rfl rfl
  rwa [Function.update_eq_self] at turned

theorem Tracks.received (tracks : system.Tracks) (side place : Side) :
    TracksSide ((system.service.receive side).wheel place) (system.edges place)
      (system.copied place) (system.report side place) := by
  rw [DiffDriveService.receive_wheel, report]
  by_cases here : place = side
  · subst here
    rw [Function.update_self, Function.update_self]
    have old := tracks.side place
    exact ⟨old.tacho, old.latest, rfl, old.latest⟩
  · rw [Function.update_of_ne here, Function.update_of_ne here]
    exact tracks.side place

theorem Tracks.notify_waits (tracks : system.Tracks) (registers : Registers) (micros : Micros)
    (alone : system.waiting ≠ some side.other) :
    (system.notify side registers micros).Tracks := by
  have invalid : (system.service.wheel side.other).valid = false := by
    rw [tracks.valid, decide_eq_false alone]
  have service : system.service.notifyCallback registers micros side =
      system.service.receive side := by
    rw [DiffDriveService.notifyCallback_eq, invalid]
    rfl
  unfold notify
  simp only [if_neg alone, invalid, service, Bool.false_eq_true, if_false]
  refine ⟨tracks.received side, ?_, ?_, ?_, tracks.deltas⟩
  · intro place
    simp only [DiffDriveService.receive_wheel]
    by_cases here : place = side
    · subst here
      simp [Wheel.receive]
    · obtain rfl : place = side.other := (place.eq_or_eq_other side).resolve_left here
      simp [Function.update_of_ne here, invalid, Ne.symm here]
  · exact (DiffDriveService.receive_lastTicksValid side).trans tracks.ticksValid
  · intro last ends place
    exact (DiffDriveService.receive_lastTicks side place).trans (tracks.lastTicks last ends place)

theorem Tracks.deltas_concat (tracks : system.Tracks) (side place : Side) :
    (system.deltas ++ (system.service.receive side).usedDeltas).map (· place) =
      (differences ((system.updates ++ [fun other => (system.report side other).2]).map
        (· place))).map (wrapped 32) := by
  rw [List.map_append, tracks.deltas place, DiffDriveService.usedDeltas,
    DiffDriveService.receive_lastTicksValid, tracks.ticksValid]
  rcases List.eq_nil_or_concat system.updates with none | ⟨front, last, split⟩
  · simp [none, differences]
  · rw [List.concat_eq_append] at split
    have received := tracks.received side place
    have lastTicks := (DiffDriveService.receive_lastTicks side place).trans
      (tracks.lastTicks last (by rw [split]; simp) place)
    have nonempty : system.updates ≠ [] := by
      rw [split]
      simp
    rw [decide_eq_true nonempty, if_pos rfl, split]
    simp only [List.map_append, List.map_cons, List.map_nil, differences_concat]
    rw [received.state, received.ticks, lastTicks, toInt_ofInt_sub]

theorem Tracks.notify_processes (tracks : system.Tracks) (registers : Registers) (micros : Micros)
    (waiting : system.waiting = some side.other) :
    (system.notify side registers micros).Tracks := by
  have valid : (system.service.wheel side.other).valid = true := by
    rw [tracks.valid, decide_eq_true waiting]
  have service : system.service.notifyCallback registers micros side =
      (system.service.receive side).processStatusUpdate registers micros := by
    rw [DiffDriveService.notifyCallback_eq, valid]
    rfl
  unfold notify
  simp only [if_pos waiting, valid, service, if_true]
  refine ⟨?_, ?_, ?_, ?_, tracks.deltas_concat side⟩
  · intro place
    have received := tracks.received side place
    simp only [DiffDriveService.processStatusUpdate_wheel]
    exact ⟨received.tacho, received.latest, received.state, received.ticks⟩
  · intro place
    simp only [DiffDriveService.processStatusUpdate_wheel]
    simp [Wheel.consume]
  · simp [DiffDriveService.processStatusUpdate, DiffDriveService.send]
  · intro last ends place
    rw [List.getLast?_append, List.getLast?_singleton, Option.some_or] at ends
    obtain rfl := Option.some.inj ends
    have received := tracks.received side place
    simp only [DiffDriveService.processStatusUpdate_wheel]
    exact (congrArg EscState.tacho received.state).trans received.ticks

theorem Tracks.unmoved {service : DiffDriveService} (tracks : system.Tracks)
    (unmoved : DiffDriveService.Unmoved system.service service) :
    Tracks { system with service := service } := by
  refine ⟨?_, ?_, unmoved.lastTicksValid.trans tracks.ticksValid, ?_, tracks.deltas⟩
  · simp only [unmoved.wheel]
    exact tracks.side
  · simp only [unmoved.wheel]
    exact tracks.valid
  · simp only [unmoved.wheel]
    exact tracks.lastTicks

theorem Tracks.restart {service : DiffDriveService} (tracks : system.Tracks)
    (wheels : service.wheel = system.service.wheel) (reset : service.lastTicksValid = false) :
    (system.restart service).Tracks := by
  unfold Odometry.restart
  refine ⟨?_, ?_, reset, ?_, fun _ => rfl⟩
  · simp only [wheels]
    exact tracks.side
  · simp only [wheels]
    exact tracks.valid
  · intro last ends
    cases ends

theorem Tracks.step {op : OdometryOp} (tracks : system.Tracks)
    (stepped : system.step op = some next) : next.Tracks := by
  cases op with
  | encoderEdge side encoderB => exact tracks.encoderEdge encoderB stepped
  | copyStatus side => exact tracks.copyStatus stepped
  | notifyCallback side registers micros =>
      cases stepped
      by_cases waiting : system.waiting = some side.other
      · exact tracks.notify_processes registers micros waiting
      · exact tracks.notify_waits registers micros waiting
  | beginTick now emergency =>
      cases stepped
      exact tracks.unmoved (DiffDriveService.beginTick_unmoved now emergency)
  | endTick now =>
      cases stepped
      exact tracks.unmoved (DiffDriveService.endTick_unmoved now)
  | onStart =>
      cases stepped
      exact tracks.restart DiffDriveService.clearSpeeds_unmoved.wheel rfl
  | onStop =>
      cases stepped
      exact tracks.restart DiffDriveService.clearSpeeds_unmoved.wheel rfl
  | onControlTwistChanged registers now newValue length emergency =>
      cases stepped
      exact tracks.unmoved
        (DiffDriveService.onControlTwistChanged_unmoved now newValue length emergency)
  | onEmergencyChangedEvent emergency sending =>
      cases stepped
      exact tracks.unmoved (DiffDriveService.onEmergencyChangedEvent_unmoved emergency sending)

structure Pairs (system : Odometry) (side : Side) (registers : Registers) (micros : Micros) :
    Prop where
  /-- With the other side valid, the update is sent with the last reported state of
  each side, and both are consumed. -/
  processes : (system.service.wheel side.other).valid = true →
    (system.service.notifyCallback registers micros side).outbox = system.service.outbox ++
        (system.service.receive side).statusUpdate registers micros ∧
      ∀ place, ((system.service.receive side).wheel place).escState =
          (system.report side place).1 ∧
        ((system.service.notifyCallback registers micros side).wheel place).valid = false
  /-- Otherwise nothing is sent, and this side waits. -/
  waits : (system.service.wheel side.other).valid = false →
    (system.service.notifyCallback registers micros side).outbox = system.service.outbox ∧
      ∀ place, ((system.service.notifyCallback registers micros side).wheel place).valid =
        decide (place = side)

theorem Tracks.pairs (tracks : system.Tracks) (side : Side) (registers : Registers)
    (micros : Micros) : system.Pairs side registers micros := by
  constructor
  · intro valid
    rw [DiffDriveService.notifyCallback_eq, if_pos valid]
    refine ⟨?_, ?_⟩
    · rw [DiffDriveService.processStatusUpdate_outbox, DiffDriveService.receive_outbox]
    · intro place
      rw [DiffDriveService.processStatusUpdate_wheel]
      exact ⟨(tracks.received side place).state, rfl⟩
  · intro invalid
    rw [DiffDriveService.notifyCallback_eq, invalid]
    refine ⟨DiffDriveService.receive_outbox side, ?_⟩
    intro place
    simp only [Bool.false_eq_true, if_false, DiffDriveService.receive_wheel]
    by_cases here : place = side
    · subst here
      simp [Wheel.receive]
    · obtain rfl : place = side.other := (place.eq_or_eq_other side).resolve_left here
      simp [invalid, here]

/-- In every run the two sides are paired up, and between two resets the published
deltas of a wheel add up to its edges between the first and the last processed
state, whatever the counters have wrapped. -/
theorem odometry_counts_edges {ops : List OdometryOp}
    (executed : run step initial ops = some system) :
    ¬(system.service.leftEscStateValid = true ∧ system.service.rightEscStateValid = true) ∧
      (∀ side, (system.service.wheel side).valid = decide (system.waiting = some side)) ∧
      (∀ side registers micros, system.Pairs side registers micros) ∧
      ∀ side first last, system.updates.head? = some first → system.updates.getLast? = some last →
        (∀ delta ∈ differences (system.updates.map (· side)),
          -2 ^ 31 ≤ delta ∧ delta < 2 ^ 31) →
        (system.deltas.map (· side)).sum = last side - first side := by
  have tracks : system.Tracks :=
    run_invariant (fun _ _ _ held stepped => held.step stepped) initial_tracks executed
  refine ⟨?_, tracks.valid, tracks.pairs, ?_⟩
  · rintro ⟨left, right⟩
    have leftWaits := of_decide_eq_true ((tracks.valid .left).symm.trans left)
    have rightWaits := of_decide_eq_true ((tracks.valid .right).symm.trans right)
    cases leftWaits.symm.trans rightWaits
  · intro side first last head ends fits
    rw [tracks.deltas side]
    apply sum_wrapped_differences fits
    · rw [List.head?_map, head]
      rfl
    · rw [List.getLast?_map, ends]
      rfl

/-- Two backward edges of the left encoder wrap its counter, and a third one falls
between the copy and the callback. -/
def backwardRun : List OdometryOp :=
  let registers : Registers := ⟨1000, 1⟩
  [.onStart, .copyStatus .left, .notifyCallback .left registers 0, .copyStatus .right,
    .notifyCallback .right registers 0, .encoderEdge .left false, .encoderEdge .left false,
    .copyStatus .left, .encoderEdge .left false, .notifyCallback .left registers 40000,
    .encoderEdge .right true, .copyStatus .right, .notifyCallback .right registers 40000]

theorem odometry_counts_edges_backward :
    ∃ system, run step initial backwardRun = some system ∧
      (system.service.wheel .left).lastTicks = 0xFFFFFFFE ∧
      (system.deltas.map (· Side.left)).sum = -2 ∧ (system.deltas.map (· Side.right)).sum = 1 := by
  have evaluated : (run step initial backwardRun).map (fun system =>
      ((system.service.wheel .left).lastTicks,
        system.updates.map fun update => (update .left, update .right))) =
      some (0xFFFFFFFE, [(0, 0), (-2, 1)]) := by decide +kernel
  obtain ⟨system, executed, values⟩ := Option.map_eq_some_iff.mp evaluated
  simp only [Prod.mk.injEq] at values
  obtain ⟨ticks, counts⟩ := values
  obtain ⟨_, _, _, sums⟩ := odometry_counts_edges executed
  obtain ⟨first, last, updates⟩ : ∃ first last, system.updates = [first, last] :=
    List.length_eq_two.mp (by simpa using congrArg List.length counts)
  rw [updates] at counts sums
  simp only [List.map_cons, List.map_nil, List.cons.injEq, Prod.mk.injEq, and_true] at counts
  obtain ⟨⟨firstLeft, firstRight⟩, lastLeft, lastRight⟩ := counts
  have left := sums .left first last rfl rfl (by simp [differences, firstLeft, lastLeft])
  have right := sums .right first last rfl rfl (by simp [differences, firstRight, lastRight])
  refine ⟨system, executed, ticks, ?_, ?_⟩
  · rw [left, firstLeft, lastLeft]
    rfl
  · rw [right, firstRight, lastRight]
    rfl

end Odometry

end XBotFirmware.DiffDrive
