import XBotFirmware.Inputs.Config

/-!
What every configuration establishes and every update keeps.

The virtual input comes first and belongs to the service.  All other inputs
carry only the reasons that the configuration can name.  An update of a
configured input changes the state of that input and, when it carries LIFT, of
the virtual one.
-/

namespace XBotFirmware.Inputs

open XBotFirmware.Platform XBotFirmware.Service XBotFirmware.Emergency XBotFirmware.Json

structure Input.IsVirtual (input : Input) : Prop where
  idx : input.idx = virtualIdx
  invert : input.invert = false
  reason : input.emergencyReason =
    EmergencyReason.liftMultiple.mask ||| EmergencyReason.latch.mask

/-- What the parser can make of an input that a driver owns. -/
structure Input.IsConfigured (input : Input) : Prop where
  idx : input.idx.toNat < 30
  reasons : ∀ reason, Carries input.emergencyReason reason →
    reason = .latch ∨ reason = .stop ∨ reason = .lift ∨ reason = .collision

theorem Input.IsConfigured.of_sameConfiguration {before after : Input}
    (configured : before.IsConfigured) (same : before.SameConfiguration after) :
    after.IsConfigured :=
  ⟨same.1 ▸ configured.idx, same.2.2.1 ▸ configured.reasons⟩

theorem Input.IsVirtual.of_sameConfiguration {before after : Input}
    (fixed : before.IsVirtual) (same : before.SameConfiguration after) : after.IsVirtual :=
  ⟨same.1 ▸ fixed.idx, same.2.1 ▸ fixed.invert, same.2.2.1 ▸ fixed.reason⟩

def Placed (position : Nat) (input : Input) : Prop :=
  if position = 0 then input.IsVirtual else input.IsConfigured

def AllPlaced (inputs : List Input) : Prop :=
  ∀ position input, inputs[position]? = some input → Placed position input

theorem AllPlaced.set {inputs : List Input} (placed : AllPlaced inputs) {position : Nat}
    {input : Input} (good : Placed position input) : AllPlaced (inputs.set position input) := by
  intro other found lookup
  by_cases equal : position = other
  · subst equal
    rw [List.getElem?_set_self'] at lookup
    cases present : inputs[position]? with
    | none => simp [present] at lookup
    | some old =>
        simp only [present, Option.map_eq_map, Option.map_some, Option.some.injEq,
          Function.const_apply] at lookup
        exact lookup ▸ good
  · rw [List.getElem?_set_ne equal] at lookup
    exact placed other found lookup

theorem AllPlaced.concat {inputs : List Input} (placed : AllPlaced inputs) {input : Input}
    (good : Placed inputs.length input) : AllPlaced (inputs ++ [input]) := by
  intro position found lookup
  by_cases inside : position < inputs.length
  · rw [List.getElem?_append_left inside] at lookup
    exact placed position found lookup
  · rw [List.getElem?_append_right (Nat.le_of_not_lt inside)] at lookup
    obtain ⟨bound, value⟩ := List.getElem?_eq_some_iff.mp lookup
    have last : position = inputs.length := by
      simp only [List.length_singleton] at bound
      omega
    subst last
    simp only [List.getElem_singleton] at value
    exact value ▸ good

theorem AllPlaced.modify_next {inputs : List Input} (placed : AllPlaced inputs)
    (position next : Nat) :
    AllPlaced (inputs.modify position fun input => { input with nextForDriver := some next }) := by
  intro other found lookup
  rw [List.getElem?_modify] at lookup
  cases present : inputs[other]? with
  | none => simp [present] at lookup
  | some old =>
      have good := placed other old present
      simp only [present, Option.map_eq_map, Option.map_some, Option.some.injEq] at lookup
      subst lookup
      unfold Placed at good ⊢
      split at good
      next zero =>
        rw [if_pos zero]
        split <;> exact ⟨good.idx, good.invert, good.reason⟩
      next nonzero =>
        rw [if_neg nonzero]
        split <;> exact ⟨good.idx, good.reasons⟩

namespace InputService

/-- The shape of the service after the first configuration. -/
structure WellFormed (service : InputService) : Prop where
  lift : service.liftMultipleInput = some 0
  nonempty : service.allInputs ≠ []
  placed : AllPlaced service.allInputs
  length : service.allInputs.length ≤ 31

theorem WellFormed.virtual {service : InputService} (wellFormed : service.WellFormed) :
    ∃ virtual, service.allInputs[0]? = some virtual ∧ virtual.IsVirtual := by
  cases inputs : service.allInputs with
  | nil => exact absurd inputs wellFormed.nonempty
  | cons virtual rest =>
      refine ⟨virtual, rfl, ?_⟩
      have good := wellFormed.placed 0 virtual (by simp [inputs])
      simpa [Placed] using good

theorem WellFormed.configured {service : InputService} (wellFormed : service.WellFormed)
    {position : Nat} {input : Input} (found : service.allInputs[position]? = some input)
    (notVirtual : input.idx ≠ virtualIdx) : position ≠ 0 ∧ input.IsConfigured := by
  have good := wellFormed.placed position input found
  unfold Placed at good
  split at good
  next zero => exact absurd good.idx notVirtual
  next nonzero => exact ⟨nonzero, good⟩

theorem WellFormed.notVirtual {service : InputService} (wellFormed : service.WellFormed)
    {position : Nat} {input : Input} (found : service.allInputs[position]? = some input)
    (nonzero : position ≠ 0) : input.idx ≠ virtualIdx := by
  have placed := wellFormed.placed position input found
  rw [Placed, if_neg nonzero] at placed
  intro virtual
  have small := placed.idx
  rw [virtual] at small
  exact absurd small (by decide)

end InputService

/-- The parser leaves every input inactive, and edits only inputs of drivers. -/
structure ConfigState.Invariant (state : ConfigState) : Prop where
  wellFormed : state.service.WellFormed
  inactive : ∀ input ∈ state.service.allInputs, input.active = false
  count : state.service.numActiveLift = 0
  next : state.data.nextIdx.toNat + 1 = state.service.allInputs.length
  current : state.data.currentInput ≠ some 0

def Edit.Sound (edit : Edit) : Prop :=
  ∀ change, edit.change = some change → ∀ input : Input, input.IsConfigured →
    (change input).IsConfigured ∧ (change input).active = input.active

namespace Edit

theorem sound_reject (message : String) : (Edit.reject message).Sound := by
  intro change equal
  exact absurd equal (by simp [Edit.reject])

theorem sound_keep : Edit.keep.Sound := by
  intro change equal
  exact absurd equal (by simp [Edit.keep])

theorem sound_of_change {change : Input → Input} {reply : Reply}
    (kept : ∀ input : Input, input.IsConfigured →
      (change input).IsConfigured ∧ (change input).active = input.active) :
    (Edit.mk (some change) reply).Sound := by
  intro other equal
  cases equal
  exact kept

end Edit

theorem addReason_sound {reason : EmergencyReason}
    (nameable : reason = .stop ∨ reason = .lift ∨ reason = .collision) :
    (Edit.assign (addReason reason)).Sound := by
  apply Edit.sound_of_change
  intro input configured
  refine ⟨⟨configured.idx, ?_⟩, rfl⟩
  intro carried present
  simp only [addReason, carries_or, carries_mask] at present
  rcases present with old | new
  · exact configured.reasons carried old
  · subst new
    exact .inr nameable

theorem gpioOnInputConfigValue_sound (externals : Externals) (jsp : ParserView) (key : String)
    (type : StreamType) : (gpioOnInputConfigValue externals jsp key type).Sound := by
  unfold gpioOnInputConfigValue
  split
  next line =>
    split
    next message _ => exact Edit.sound_reject message
    next =>
      apply Edit.sound_of_change
      exact fun input configured => ⟨⟨configured.idx, configured.reasons⟩, rfl⟩
  next =>
    split
    next active =>
      split
      next message _ => exact Edit.sound_reject message
      next =>
        split
        · apply Edit.sound_of_change
          exact fun input configured => ⟨⟨configured.idx, configured.reasons⟩, rfl⟩
        · split
          · apply Edit.sound_of_change
            exact fun input configured => ⟨⟨configured.idx, configured.reasons⟩, rfl⟩
          · exact Edit.sound_reject _
    next => exact Edit.sound_reject _

theorem onInputConfigValue_sound (externals : Externals) (kind : DriverKind) (jsp : ParserView)
    (key : String) (type : StreamType) :
    (onInputConfigValue externals kind jsp key type).Sound := by
  cases kind with
  | gpio => exact gpioOnInputConfigValue_sound externals jsp key type
  | simulated => exact Edit.sound_reject _

theorem emergencyConfigValue_sound (externals : Externals) (jsp : ParserView)
    (type : StreamType) : (emergencyConfigValue externals jsp type).Sound := by
  simp only [emergencyConfigValue]
  split
  next reason =>
    split
    next message _ => exact Edit.sound_reject message
    next =>
      split
      · exact addReason_sound (.inl rfl)
      · split
        · exact addReason_sound (.inr (.inl rfl))
        · split
          · exact addReason_sound (.inr (.inr rfl))
          · exact Edit.sound_reject _
  next =>
    split
    next delay =>
      split
      next message _ => exact Edit.sound_reject message
      next =>
        apply Edit.sound_of_change
        exact fun input configured => ⟨⟨configured.idx, configured.reasons⟩, rfl⟩
    next =>
      split
      next latch =>
        split
        · apply Edit.sound_of_change
          intro input configured
          refine ⟨⟨configured.idx, ?_⟩, rfl⟩
          intro carried present
          simp only [carries_and] at present
          exact configured.reasons carried present.1
        · exact Edit.sound_keep
        · exact Edit.sound_reject _
      next => exact Edit.sound_reject _

namespace ConfigState

variable {externals : Externals} {state next : ConfigState} {event : Event} {reply : Reply}

theorem edit_eq_some {edit : Edit} (edited : state.edit edit = some (next, reply)) :
    reply = edit.reply ∧ ((edit.change = none ∧ next = state) ∨
      ∃ change position input, edit.change = some change ∧
        state.data.currentInput = some position ∧
        state.service.allInputs[position]? = some input ∧
        next = { state with service := state.service.setInput position (change input) }) := by
  unfold ConfigState.edit at edited
  split at edited
  next untouched =>
    cases edited
    exact ⟨rfl, .inl ⟨untouched, rfl⟩⟩
  next change changes =>
    split at edited
    next => cases edited
    next position current =>
      split at edited
      next => cases edited
      next input found =>
        cases edited
        exact ⟨rfl, .inr ⟨change, position, input, changes, current, found, rfl⟩⟩

theorem beginInput_eq_some (begun : state.beginInput = some (next, reply)) :
    next = state ∨ ∃ index name driver driver' inputs',
      state.service.allInputs.length ≠ 31 ∧
      state.service.drivers[index]? = some (name, driver) ∧
      driver.addInput (state.service.allInputs ++ [Input.create state.data.nextIdx])
        state.service.allInputs.length = some (driver', inputs') ∧
      next = ⟨{ state.service with
          allInputs := inputs'
          drivers := state.service.drivers.set index (name, driver') },
        { state.data with
          currentInput := some state.service.allInputs.length
          nextIdx := state.data.nextIdx + 1 }⟩ := by
  unfold ConfigState.beginInput at begun
  split at begun
  next =>
    cases begun
    exact .inl rfl
  next room =>
    simp only at begun
    split at begun
    next => cases begun
    next index _ =>
      split at begun
      next => cases begun
      next name driver registered =>
        split at begun
        next => cases begun
        next driver' inputs' added =>
          cases begun
          exact .inr ⟨index, name, driver, driver', inputs', room, registered, added, rfl⟩

theorem inputValue_cases (valued : state.inputValue externals event = some (next, reply)) :
    next = state ∨ ∃ edit : Edit, edit.Sound ∧ state.edit edit = some (next, reply) := by
  simp only [ConfigState.inputValue] at valued
  split at valued
  next =>
    split at valued
    next =>
      cases valued
      exact .inl rfl
    next value _ =>
      refine .inr ⟨_, Edit.sound_of_change ?_, valued⟩
      exact fun input configured => ⟨⟨configured.idx, configured.reasons⟩, rfl⟩
  next =>
    split at valued
    next =>
      split at valued
      next =>
        cases valued
        exact .inl rfl
      next =>
        split at valued
        next =>
          refine .inr ⟨_, Edit.sound_of_change ?_, valued⟩
          intro input configured
          refine ⟨⟨configured.idx, ?_⟩, rfl⟩
          intro reason carried
          exact .inl ((carries_mask _ _).mp carried).symm
        next =>
          cases valued
          exact .inl rfl
    next =>
      split at valued
      next => cases valued
      next index _ =>
        split at valued
        next => cases valued
        next => exact .inr ⟨_, onInputConfigValue_sound _ _ _ _ _, valued⟩

theorem selectDriver_kept (state : ConfigState) (name : String) :
    (state.selectDriver name).1.service = state.service ∧
      (state.selectDriver name).1.data.nextIdx = state.data.nextIdx ∧
      (state.selectDriver name).1.data.currentInput = state.data.currentInput := by
  unfold ConfigState.selectDriver
  split
  · split <;> exact ⟨rfl, rfl, rfl⟩
  · exact ⟨rfl, rfl, rfl⟩

end ConfigState

section Callback

variable {externals : Externals} {event : Event} {state next : ConfigState} {reply : Reply}

/-- An event leaves the service alone, begins an input or edits the current one. -/
theorem inputConfigsJsonCallback_cases
    (called : inputConfigsJsonCallback externals event state = some (next, reply)) :
    (next.service = state.service ∧ next.data.nextIdx = state.data.nextIdx ∧
      (next.data.currentInput = state.data.currentInput ∨ next.data.currentInput = none)) ∨
    state.beginInput = some (next, reply) ∨
    ∃ edit : Edit, edit.Sound ∧ state.edit edit = some (next, reply) := by
  have same : next = state → next.service = state.service ∧
      next.data.nextIdx = state.data.nextIdx ∧
      (next.data.currentInput = state.data.currentInput ∨ next.data.currentInput = none) := by
    rintro rfl
    exact ⟨rfl, rfl, .inl rfl⟩
  unfold inputConfigsJsonCallback at called
  split at called
  · cases called
    exact .inl (same rfl)
  · obtain ⟨service, nextIdx, current⟩ := state.selectDriver_kept event.jsp.str
    rw [Option.some.inj called] at service nextIdx current
    exact .inl ⟨service, nextIdx, .inl current⟩
  · cases called
    exact .inl (same rfl)
  · split at called
    next =>
      cases called
      exact .inl (same rfl)
    next =>
      split at called
      next => exact .inr (.inl called)
      next =>
        cases called
        exact .inl ⟨rfl, rfl, .inr rfl⟩
  · rcases ConfigState.inputValue_cases called with unchanged | edited
    · exact .inl (same unchanged)
    · exact .inr (.inr edited)
  · exact .inr (.inr ⟨_, emergencyConfigValue_sound _ _ _, called⟩)
  · cases called
    exact .inl (same rfl)

end Callback

namespace ConfigState

variable {state next : ConfigState} {reply : Reply}

theorem edit_invariant {edit : Edit} (invariant : state.Invariant) (sound : edit.Sound)
    (edited : state.edit edit = some (next, reply)) : next.Invariant := by
  obtain ⟨_, ⟨_, rfl⟩ | ⟨change, position, input, changes, current, found, rfl⟩⟩ :=
    edit_eq_some edited
  · exact invariant
  · have nonzero : position ≠ 0 := by
      rintro rfl
      exact invariant.current current
    have good := invariant.wellFormed.placed position input found
    rw [Placed, if_neg nonzero] at good
    obtain ⟨configured, sameActive⟩ := sound change changes input good
    refine ⟨⟨invariant.wellFormed.lift, ?_, ?_, ?_⟩, ?_, invariant.count, ?_,
      invariant.current⟩
    · simpa [InputService.setInput] using invariant.wellFormed.nonempty
    · exact invariant.wellFormed.placed.set (by rwa [Placed, if_neg nonzero])
    · simpa [InputService.setInput] using invariant.wellFormed.length
    · intro other membership
      rcases List.mem_or_eq_of_mem_set membership with old | new
      · exact invariant.inactive other old
      · rw [new, sameActive]
        exact invariant.inactive input (List.mem_of_getElem? found)
    · simpa [InputService.setInput] using invariant.next

end ConfigState

theorem InputDriver.addInput_spec {driver driver' : InputDriver} {inputs inputs' : List Input}
    {position : Nat} (added : driver.addInput inputs position = some (driver', inputs')) :
    (AllPlaced inputs → AllPlaced inputs') ∧ inputs'.length = inputs.length ∧
      ∀ input' ∈ inputs', ∃ input ∈ inputs, input'.active = input.active := by
  unfold InputDriver.addInput at added
  split at added
  next =>
    cases added
    exact ⟨id, rfl, fun input membership => ⟨input, membership, rfl⟩⟩
  next head _ =>
    split at added
    next => cases added
    next last _ =>
      cases added
      refine ⟨fun placed => placed.modify_next last position, by simp, ?_⟩
      intro input' membership
      obtain ⟨index, lookup⟩ := List.mem_iff_getElem?.mp membership
      rw [List.getElem?_modify] at lookup
      cases present : inputs[index]? with
      | none => simp [present] at lookup
      | some old =>
          refine ⟨old, List.mem_of_getElem? present, ?_⟩
          simp only [present, Option.map_eq_map, Option.map_some, Option.some.injEq] at lookup
          subst lookup
          split <;> rfl

theorem ConfigState.beginInput_invariant {state next : ConfigState} {reply : Reply}
    (invariant : state.Invariant) (begun : state.beginInput = some (next, reply)) :
    next.Invariant := by
  obtain rfl | ⟨index, name, driver, driver', inputs', room, _, added, rfl⟩ :=
    beginInput_eq_some begun
  · exact invariant
  · obtain ⟨placed, length, states⟩ := InputDriver.addInput_spec added
    have bound := invariant.wellFormed.length
    have idxBound := invariant.next
    have fresh : Placed state.service.allInputs.length (Input.create state.data.nextIdx) := by
      have nonzero : state.service.allInputs.length ≠ 0 := by omega
      rw [Placed, if_neg nonzero]
      refine ⟨?_, ?_⟩
      · show state.data.nextIdx.toNat < 30
        omega
      · intro reason carried
        exact absurd carried (carries_zero reason)
    simp only [List.length_append, List.length_singleton] at length
    refine ⟨⟨invariant.wellFormed.lift, ?_, placed (invariant.wellFormed.placed.concat fresh),
      ?_⟩, ?_, invariant.count, ?_, ?_⟩
    · intro empty
      simp [show inputs' = [] from empty] at length
    · show inputs'.length ≤ 31
      omega
    · intro input' membership
      obtain ⟨input, old, equal⟩ := states input' membership
      rw [equal]
      rcases List.mem_append.mp old with before | created
      · exact invariant.inactive input before
      · rw [List.mem_singleton.mp created]
        rfl
    · show (state.data.nextIdx + 1).toNat + 1 = inputs'.length
      rw [BitVec.toNat_add, show (1 : BitVec 8).toNat = 1 from rfl]
      omega
    · show some state.service.allInputs.length ≠ some 0
      rw [ne_eq, Option.some.injEq]
      omega

theorem inputConfigsJsonCallback_invariant {externals : Externals} {event : Event}
    {state next : ConfigState} {reply : Reply} (invariant : state.Invariant)
    (called : inputConfigsJsonCallback externals event state = some (next, reply)) :
    next.Invariant := by
  rcases inputConfigsJsonCallback_cases called with
    ⟨service, nextIdx, current⟩ | begun | ⟨edit, sound, edited⟩
  · refine ⟨?_, ?_, ?_, ?_, ?_⟩
    · rw [service]
      exact invariant.wellFormed
    · rw [service]
      exact invariant.inactive
    · rw [service]
      exact invariant.count
    · rw [service, nextIdx]
      exact invariant.next
    · rcases current with kept | cleared
      · rw [kept]
        exact invariant.current
      · rw [cleared]
        exact (Option.some_ne_none 0).symm
  · exact ConfigState.beginInput_invariant invariant begun
  · exact ConfigState.edit_invariant invariant sound edited

theorem liftMultiple_isVirtual : liftMultiple.IsVirtual := ⟨rfl, rfl, rfl⟩

theorem resetInputs_invariant (service : InputService) :
    ConfigState.Invariant ⟨service.resetInputs, ⟨none, none, 0⟩⟩ := by
  refine ⟨⟨rfl, by simp [InputService.resetInputs], ?_, by simp [InputService.resetInputs]⟩,
    ?_, rfl, rfl, by simp⟩
  · have empty : AllPlaced [] := fun position input lookup => by simp at lookup
    have good : Placed 0 liftMultiple := by simpa [Placed] using liftMultiple_isVirtual
    exact empty.concat good
  · intro input membership
    rw [List.mem_singleton.mp membership]
    rfl

/-- Accepted or rejected at whatever point, a configuration leaves a
well-formed service in which nothing is active. -/
theorem onRegisterInputConfigsChanged_invariant {ParserState : Type} {externals : Externals}
    {parser : StreamParser ParserState} {source : List Char} {service : InputService}
    {result : ProcessResult ConfigState}
    (configured : service.onRegisterInputConfigsChanged externals parser source = some result) :
    result.data.Invariant :=
  processJson_invariant (fun _ _ _ _ => inputConfigsJsonCallback_invariant) parser
    (resetInputs_invariant service) configured

end XBotFirmware.Inputs
