import XBotFirmware.Library.Run
import XBotFirmware.Inputs.Update

set_option autoImplicit false

/-!
The lift counter over whole runs of the input service.

Drivers update the inputs they own, in any order and with any values, between
configurations that may be accepted or rejected.  The virtual input belongs to
no driver and is updated by `OnInputChanged` only.
-/

namespace XBotFirmware.Inputs

open XBotFirmware.Library XBotFirmware.Platform XBotFirmware.Emergency XBotFirmware.Json

inductive InputOp where
  | configure (source : List Char)
  | update (readings : List Micros) (position : Nat) (newActive : Bool)

variable {ParserState : Type} (externals : Externals) (parser : StreamParser ParserState)

namespace InputService

/-- A driver updates an input it owns, so not the virtual one. -/
def updateByDriver (service : InputService) (readings : List Micros) (position : Nat)
    (newActive : Bool) : Option InputService :=
  match service.allInputs[position]? with
  | none => none
  | some input =>
      if input.idx = virtualIdx then
        none
      else
        (update readings service position newActive).map Prod.snd

def step (service : InputService) : InputOp → Option InputService
  | .configure source =>
      (service.onRegisterInputConfigsChanged externals parser source).map fun result =>
        result.data.service
  | .update readings position newActive =>
      service.updateByDriver readings position newActive

theorem updateByDriver_eq_some {service after : InputService} {readings : List Micros}
    {position : Nat} {newActive : Bool}
    (updated : service.updateByDriver readings position newActive = some after) :
    ∃ input changed, service.allInputs[position]? = some input ∧ input.idx ≠ virtualIdx ∧
      update readings service position newActive = some (changed, after) := by
  unfold updateByDriver at updated
  split at updated
  next => cases updated
  next input found =>
    split at updated
    next => cases updated
    next notVirtual =>
      obtain ⟨⟨changed, result⟩, returned, rfl⟩ := Option.map_eq_some_iff.mp updated
      exact ⟨input, changed, found, notVirtual, returned⟩

end InputService

def Input.Lifted (input : Input) : Prop :=
  input.idx ≠ virtualIdx ∧ input.active = true ∧ Carries input.emergencyReason .lift

instance (input : Input) : Decidable input.Lifted :=
  inferInstanceAs (Decidable (_ ∧ _ ∧ _))

/-- The number of configured non-virtual inputs that are active and carry LIFT. -/
def InputService.liftCount (service : InputService) : Nat :=
  service.allInputs.countP fun input => decide input.Lifted

def InputService.LiftMultipleActive (service : InputService) : Prop :=
  ∃ position virtual, service.liftMultipleInput = some position ∧
    service.allInputs[position]? = some virtual ∧ virtual.active = true

/-- The counter and the virtual input agree with the inputs. -/
structure InputService.LiftCounted (service : InputService) : Prop where
  count : service.numActiveLift.toNat = service.liftCount
  virtual : service.LiftMultipleActive ↔ 2 ≤ service.liftCount

structure InputService.Unconfigured (service : InputService) : Prop where
  inputs : service.allInputs = []
  lift : service.liftMultipleInput = none
  count : service.numActiveLift = 0

def InputService.Invariant (service : InputService) : Prop :=
  service.Unconfigured ∨ (service.WellFormed ∧ service.LiftCounted)

namespace InputService

theorem WellFormed.liftMultipleActive_iff {service : InputService}
    (wellFormed : service.WellFormed) {virtual : Input}
    (found : service.allInputs[0]? = some virtual) :
    service.LiftMultipleActive ↔ virtual.active = true := by
  constructor
  · rintro ⟨position, other, lift, lookup, active⟩
    obtain rfl : 0 = position := Option.some.inj (wellFormed.lift.symm.trans lift)
    obtain rfl : virtual = other := Option.some.inj (found.symm.trans lookup)
    exact active
  · intro active
    exact ⟨0, virtual, wellFormed.lift, found, active⟩

theorem liftCount_eq_zero {service : InputService}
    (inactive : ∀ input ∈ service.allInputs, input.active = false) : service.liftCount = 0 := by
  apply List.countP_eq_zero.mpr
  intro input membership
  simp [Input.Lifted, inactive input membership]

theorem countP_set_add {Element : Type} (predicate : Element → Bool) {list : List Element}
    {position : Nat} {old : Element} (new : Element) (found : list[position]? = some old) :
    (list.set position new).countP predicate + (if predicate old then 1 else 0) =
      list.countP predicate + (if predicate new then 1 else 0) := by
  obtain ⟨bound, value⟩ := List.getElem?_eq_some_iff.mp found
  have counted : (if predicate list[position] then 1 else 0) ≤ list.countP predicate :=
    List.boole_getElem_le_countP bound
  rw [List.countP_set bound]
  rw [value] at counted ⊢
  omega

theorem not_lifted_of_isVirtual {input : Input} (fixed : input.IsVirtual) : ¬ input.Lifted :=
  fun lifted => lifted.1 fixed.idx

/-- An effective update moves the count by one if the input carries LIFT, and
leaves it alone otherwise. -/
theorem Updated.liftCount {readings : List Micros} {service after : InputService}
    {position : Nat} {input : Input} {level : Bool} (wellFormed : service.WellFormed)
    (found : service.allInputs[position]? = some input) (notVirtual : input.idx ≠ virtualIdx)
    (different : input.active ≠ level)
    (updated : Updated readings service position input level after) :
    if Carries input.emergencyReason .lift then
      if level then after.liftCount = service.liftCount + 1
      else after.liftCount + 1 = service.liftCount
    else
      after.liftCount = service.liftCount := by
  obtain ⟨nonzero, _⟩ := wellFormed.configured found notVirtual
  obtain ⟨_, foundFixed, fixed⟩ := wellFormed.virtual
  obtain ⟨_, _, input', virtual, virtual', followed, foundVirtual, inputs, counted⟩ := updated
  obtain rfl := Option.some.inj (foundFixed.symm.trans foundVirtual)
  have fixed' : virtual'.IsVirtual := by
    split at counted
    next => exact fixed.of_sameConfiguration counted.2.sameConfiguration
    next => exact counted.2 ▸ fixed
  have virtualKept := countP_set_add (fun input => decide input.Lifted) virtual'
    ((List.getElem?_set_ne nonzero (a := input')).trans foundVirtual)
  have moved := countP_set_add (fun input => decide input.Lifted) input' found
  have same := followed.sameConfiguration
  have active := followed.active
  simp only [not_lifted_of_isVirtual fixed, not_lifted_of_isVirtual fixed', decide_false,
    Bool.false_eq_true, if_false, Nat.add_zero] at virtualKept
  have total : after.liftCount =
      (service.allInputs.set position input').countP fun input => decide input.Lifted := by
    rw [InputService.liftCount, inputs, virtualKept]
  rw [total]
  simp only [Input.Lifted, ← same.1, ← same.2.2.1, active, notVirtual, ne_eq, not_false_eq_true,
    true_and, decide_eq_true_eq] at moved
  unfold InputService.liftCount
  cases level with
  | true =>
      have wasInactive : input.active = false := by simpa using different
      split <;> simp_all [Input.Lifted]
  | false =>
      have wasActive : input.active = true := by simpa using different
      split <;> simp_all [Input.Lifted]

theorem liftCount_le (service : InputService) :
    service.liftCount ≤ service.allInputs.length := List.countP_le_length

theorem toNat_countedLift {service after : InputService} {level : Bool}
    (count : service.numActiveLift.toNat = service.liftCount)
    (bound : service.liftCount ≤ 31)
    (moved : if level then after.liftCount = service.liftCount + 1
      else after.liftCount + 1 = service.liftCount) :
    (service.countedLift level).toNat = after.liftCount := by
  have one : (1 : BitVec 8).toNat = 1 := rfl
  cases level with
  | true =>
      simp only [if_true] at moved
      rw [countedLift, if_pos rfl, BitVec.toNat_add, one]
      omega
  | false =>
      simp only [Bool.false_eq_true, if_false] at moved
      rw [countedLift, if_neg Bool.false_ne_true, BitVec.toNat_sub, one]
      omega

theorem Updated.liftCounted {readings : List Micros} {service after : InputService}
    {position : Nat} {input : Input} {level : Bool} (wellFormed : service.WellFormed)
    (counted : service.LiftCounted) (found : service.allInputs[position]? = some input)
    (notVirtual : input.idx ≠ virtualIdx) (different : input.active ≠ level)
    (updated : Updated readings service position input level after) : after.LiftCounted := by
  have moved := updated.liftCount wellFormed found notVirtual different
  have afterWellFormed := (updated.evolved found).wellFormed wellFormed
  have bound : service.liftCount ≤ 31 := service.liftCount_le.trans wellFormed.length
  obtain ⟨_, _, input', virtual, virtual', _, foundVirtual, inputs, outcome⟩ := updated
  have inside : 0 < service.allInputs.length :=
    (List.getElem?_eq_some_iff.mp foundVirtual).choose
  have foundAfter : after.allInputs[0]? = some virtual' := by
    rw [inputs, List.getElem?_set_self (by simpa using inside)]
  have virtualBefore := counted.virtual
  rw [wellFormed.liftMultipleActive_iff foundVirtual] at virtualBefore
  split at outcome
  next carriesLift =>
    rw [if_pos carriesLift] at moved
    obtain ⟨number, followed⟩ := outcome
    have counter := toNat_countedLift counted.count bound moved
    refine ⟨number ▸ counter, ?_⟩
    rw [afterWellFormed.liftMultipleActive_iff foundAfter, followed.active, decide_eq_true_eq,
      BitVec.le_def, counter]
    rfl
  next noLift =>
    rw [if_neg noLift] at moved
    obtain ⟨number, rfl⟩ := outcome
    refine ⟨by rw [number, moved, counted.count], ?_⟩
    rw [afterWellFormed.liftMultipleActive_iff foundAfter, moved]
    exact virtualBefore

theorem initial_invariant (drivers : List (String × InputDriver)) :
    (initial drivers).Invariant := .inl ⟨rfl, rfl, rfl⟩

theorem configure_invariant {service after : InputService} {source : List Char}
    (stepped : service.step externals parser (.configure source) = some after) :
    after.Invariant := by
  obtain ⟨result, configured, rfl⟩ := Option.map_eq_some_iff.mp stepped
  have invariant := onRegisterInputConfigsChanged_invariant configured
  have none := liftCount_eq_zero invariant.inactive
  obtain ⟨virtual, found, _⟩ := invariant.wellFormed.virtual
  refine .inr ⟨invariant.wellFormed, by simp [none, invariant.count], ?_⟩
  rw [invariant.wellFormed.liftMultipleActive_iff found,
    invariant.inactive virtual (List.mem_of_getElem? found), none]
  simp

theorem updateByDriver_invariant {service after : InputService} {readings : List Micros}
    {position : Nat} {newActive : Bool} (invariant : service.Invariant)
    (updated : service.updateByDriver readings position newActive = some after) :
    after.Invariant := by
  obtain ⟨input, changed, found, notVirtual, returned⟩ := updateByDriver_eq_some updated
  rcases invariant with unconfigured | ⟨wellFormed, counted⟩
  · simp [unconfigured.inputs] at found
  · rcases update_configured wellFormed found notVirtual returned with
      ⟨_, rfl⟩ | ⟨different, effect⟩
    · exact .inr ⟨wellFormed, counted⟩
    · exact .inr ⟨(effect.evolved found).wellFormed wellFormed,
        effect.liftCounted wellFormed counted found notVirtual different⟩

theorem step_invariant (service : InputService) (op : InputOp) (after : InputService)
    (invariant : service.Invariant)
    (stepped : service.step externals parser op = some after) : after.Invariant := by
  cases op with
  | configure source => exact configure_invariant externals parser stepped
  | update readings position newActive => exact updateByDriver_invariant invariant stepped

theorem Invariant.liftCounted {service : InputService} (invariant : service.Invariant) :
    service.LiftCounted := by
  rcases invariant with unconfigured | ⟨_, counted⟩
  · have none : service.liftCount = 0 := by simp [liftCount, unconfigured.inputs]
    refine ⟨by simp [none, unconfigured.count], ?_⟩
    simp [LiftMultipleActive, unconfigured.lift, none]
  · exact counted

/-- In every state between operations the counter is the number of lifted
inputs, and the virtual input is active exactly when there are two of them. -/
theorem numActiveLift_eq_liftCount {drivers : List (String × InputDriver)}
    {service : InputService}
    (reached : Reachable (step externals parser) (initial drivers) service) :
    service.numActiveLift.toNat = service.liftCount ∧
      (service.LiftMultipleActive ↔ 2 ≤ service.liftCount) := by
  have invariant : service.Invariant :=
    reached.invariant (initial_invariant drivers) (step_invariant externals parser)
  exact ⟨invariant.liftCounted.count, invariant.liftCounted.virtual⟩

end InputService

/-- The events of
`{"simulated":[{"emergency":{"reason":"lift"}},{"emergency":{"reason":"lift"}}]}`
by the position of the character that raises them. -/
def twoLiftEvents (position : Nat) : List Event :=
  let event (stackPos : Nat) (str : String) (type : StreamType) : List Event :=
    [⟨⟨stackPos, str, "", fun level => if level = 4 then "emergency" else "reason"⟩, type⟩]
  match position with
  | 0 => event 0 "" .object
  | 11 => event 1 "simulated" .key
  | 13 => event 2 "" .array
  | 14 | 46 => event 3 "" .object
  | 25 | 57 => event 4 "emergency" .key
  | 27 | 59 => event 5 "" .object
  | 35 | 67 => event 6 "reason" .key
  | 42 | 74 => event 7 "lift" .string
  | 43 | 75 => event 5 "" .objectEnd
  | 44 | 76 => event 3 "" .objectEnd
  | 77 => event 2 "" .arrayEnd
  | 78 => event 0 "" .objectEnd
  | _ => []

def twoLiftParser : StreamParser Nat where
  init := 0
  parse position _ :=
    (position + 1, if position = 78 then .streamDone else .streamInProg, twoLiftEvents position)

def twoLiftDocument : List Char :=
  ("\x7b\"simulated\":[\x7b\"emergency\":\x7b\"reason\":\"lift\"\x7d\x7d," ++
    "\x7b\"emergency\":\x7b\"reason\":\"lift\"\x7d\x7d]\x7d").toList

def twoLiftExternals : Externals := ⟨fun _ => palNoline, fun _ => none⟩

def twoLiftRun : List InputOp :=
  [.configure twoLiftDocument, .update [500] 1 true, .update [900, 900] 2 true]

def twoLiftInitial : InputService :=
  .initial [("gpio", ⟨.gpio, none⟩), ("simulated", ⟨.simulated, none⟩)]

theorem numActiveLift_eq_liftCount_two :
    ∃ service : InputService,
      Reachable (InputService.step twoLiftExternals twoLiftParser) twoLiftInitial service ∧
      service.liftCount = 2 ∧ service.numActiveLift.toNat = 2 ∧ service.LiftMultipleActive := by
  have counted : (run (InputService.step twoLiftExternals twoLiftParser) twoLiftInitial
      twoLiftRun).map InputService.liftCount = some 2 := by decide +kernel
  obtain ⟨service, executed, count⟩ := Option.map_eq_some_iff.mp counted
  have reached : Reachable (InputService.step twoLiftExternals twoLiftParser) twoLiftInitial
      service := ⟨twoLiftRun, executed⟩
  obtain ⟨number, virtual⟩ :=
    InputService.numActiveLift_eq_liftCount twoLiftExternals twoLiftParser reached
  exact ⟨service, reached, count, number.trans count, virtual.mpr (Nat.le_of_eq count.symm)⟩

end XBotFirmware.Inputs
