import XBotFirmware.Inputs.Invariant

set_option autoImplicit false

/-!
`Input::Update` on a well-formed service, as one equation for the inputs.

An update makes the input it is called on follow a level.  A configured input
that carries LIFT makes the virtual input follow the lift counter; no third
input is touched.
-/

namespace XBotFirmware.Inputs

open XBotFirmware.Platform XBotFirmware.Service XBotFirmware.Emergency

theorem Input.target_eq_xor (input : Input) (level : Bool) :
    input.target level = (level ^^ input.invert) := by
  unfold Input.target
  cases input.invert <;> cases level <;> rfl

def Input.Followed (readings : List Micros) (input : Input) (level : Bool) (input' : Input) :
    Prop :=
  (input.active = level ∧ input' = input) ∨
    (input.active ≠ level ∧ ∃ now ∈ readings, input' = input.exchange level now)

namespace Input

theorem Followed.active {readings : List Micros} {input input' : Input} {level : Bool}
    (followed : input.Followed readings level input') : input'.active = level := by
  rcases followed with ⟨same, rfl⟩ | ⟨_, now, _, rfl⟩
  · exact same
  · rfl

theorem Followed.sameConfiguration {readings : List Micros} {input input' : Input} {level : Bool}
    (followed : input.Followed readings level input') : input.SameConfiguration input' := by
  rcases followed with ⟨_, rfl⟩ | ⟨_, now, _, rfl⟩
  · exact .refl input'
  · exact input.sameConfiguration_exchange level now

/-- An input that stays active keeps its time, and one that becomes active takes
one of the readings. -/
theorem Followed.activeSince {readings : List Micros} {input input' : Input} {level : Bool}
    (followed : input.Followed readings level input') (raised : input'.active = true) :
    (input.active = true ∧ input'.activeSince = input.activeSince) ∨
      (input.active = false ∧ input'.activeSince ∈ readings) := by
  rcases followed with ⟨_, rfl⟩ | ⟨different, now, membership, rfl⟩
  · exact .inl ⟨raised, rfl⟩
  · have level' : level = true := raised
    subst level'
    refine .inr ⟨by simpa using different, ?_⟩
    simpa [exchange] using membership

theorem Followed.mono {first second : List Micros} {input input' : Input} {level : Bool}
    (followed : input.Followed first level input') (included : first ⊆ second) :
    input.Followed second level input' := by
  rcases followed with same | ⟨different, now, membership, value⟩
  · exact .inl same
  · exact .inr ⟨different, now, included membership, value⟩

end Input

namespace InputService

@[simp]
theorem send_allInputs (service : InputService) (outputs : List InputOutput) :
    (service.send outputs).allInputs = service.allInputs := rfl

theorem update_cases {readings : List Micros} {service after : InputService} {position : Nat}
    {newActive changed : Bool}
    (updated : update readings service position newActive = some (changed, after)) :
    ∃ input, service.allInputs[position]? = some input ∧
      ((input.active = input.target newActive ∧ changed = false ∧ after = service) ∨
        (input.active ≠ input.target newActive ∧ changed = true ∧
          ∃ now later notified, readings = now :: later ∧
            onInputChanged (update later)
              (service.setInput position (input.exchange (input.target newActive) now))
              (input.exchange (input.target newActive) now) (input.target newActive)
              ((input.exchange (input.target newActive) now).activeDuration now) =
                some notified ∧
            after = notified.send [.inputsChanged])) := by
  unfold update at updated
  split at updated
  next => cases updated
  next input found =>
    refine ⟨input, found, ?_⟩
    simp only at updated
    split at updated
    next same =>
      cases updated
      exact .inl ⟨same, rfl, rfl⟩
    next different =>
      split at updated
      next => cases updated
      next now later =>
        obtain ⟨notified, called, result⟩ := Option.map_eq_some_iff.mp updated
        cases result
        exact .inr ⟨different, rfl, now, later, notified, rfl, called, rfl⟩

theorem onInputChanged_virtual {update : InputService → Nat → Bool → Option (Bool × InputService)}
    {service : InputService} {input : Input} (isVirtual : input.idx = virtualIdx) (active : Bool)
    (duration : Micros) : onInputChanged update service input active duration = some service :=
  if_pos isVirtual

/-- The nested update: the virtual input follows its level and is broadcast if it changes.
Nothing else happens, since `OnInputChanged` returns at once. -/
theorem update_virtual {readings : List Micros} {service after : InputService}
    {level changed : Bool} {virtual : Input} (found : service.allInputs[0]? = some virtual)
    (fixed : virtual.IsVirtual)
    (updated : update readings service 0 level = some (changed, after)) :
    ∃ virtual' broadcasts, virtual.Followed readings level virtual' ∧
      (∀ output ∈ broadcasts, output = .inputsChanged) ∧
      after = (service.setInput 0 virtual').send broadcasts := by
  have target : virtual.target level = level := by simp [Input.target, fixed.invert]
  obtain ⟨input, foundInput, outcome⟩ := update_cases updated
  obtain rfl : virtual = input := Option.some.inj (found.symm.trans foundInput)
  rw [target] at outcome
  rcases outcome with ⟨same, _, rfl⟩ | ⟨different, _, now, later, notified, rfl, called, rfl⟩
  · refine ⟨virtual, [], .inl ⟨same, rfl⟩, List.forall_mem_nil _, ?_⟩
    obtain ⟨bound, value⟩ := List.getElem?_eq_some_iff.mp found
    rw [setInput, send, ← value, List.set_getElem_self, List.append_nil]
  · have isVirtual : (virtual.exchange level now).idx = virtualIdx := fixed.idx
    rw [onInputChanged_virtual isVirtual, Option.some.injEq] at called
    subst called
    exact ⟨virtual.exchange level now, [.inputsChanged],
      .inr ⟨different, now, List.mem_cons_self, rfl⟩,
      fun output membership => List.mem_singleton.mp membership, rfl⟩

def countedLift (service : InputService) (active : Bool) : BitVec 8 :=
  if active then service.numActiveLift + 1 else service.numActiveLift - 1

structure Counted (readings : List Micros) (service : InputService) (reasons : Reasons)
    (level : Bool) (counted : InputService) : Prop where
  drivers : counted.drivers = service.drivers
  lift : counted.liftMultipleInput = service.liftMultipleInput
  outbox : ∃ broadcasts, counted.outbox = service.outbox ++ broadcasts ∧
    ∀ output ∈ broadcasts, output = .inputsChanged
  inputs : ∃ virtual virtual', service.allInputs[0]? = some virtual ∧
    counted.allInputs = service.allInputs.set 0 virtual' ∧
    if Carries reasons .lift then
      counted.numActiveLift = service.countedLift level ∧
        virtual.Followed readings (decide (2 ≤ service.countedLift level)) virtual'
    else
      counted.numActiveLift = service.numActiveLift ∧ virtual' = virtual

theorem onInputChanged_counted {readings : List Micros} {service notified : InputService}
    {virtual input : Input} {level : Bool} {duration : Micros}
    (lift : service.liftMultipleInput = some 0) (found : service.allInputs[0]? = some virtual)
    (fixed : virtual.IsVirtual) (notVirtual : input.idx ≠ virtualIdx)
    (called : onInputChanged (update readings) service input level duration = some notified) :
    ∃ counted, Counted readings service input.emergencyReason level counted ∧
      notified = counted.send (changeEvents input.idx level duration) := by
  rw [onInputChanged, if_neg notVirtual] at called
  split at called
  next carriesLift =>
    rw [and_mask_ne_zero_iff] at carriesLift
    obtain ⟨counted, countedEq, rfl⟩ := Option.map_eq_some_iff.mp called
    simp only [countLift, lift] at countedEq
    obtain ⟨⟨flag, nested⟩, nestedEq, rfl⟩ := Option.map_eq_some_iff.mp countedEq
    obtain ⟨virtual', broadcasts, followed, silent, rfl⟩ :=
      update_virtual (by exact found) fixed nestedEq
    refine ⟨_, ?_, rfl⟩
    refine ⟨rfl, lift.symm, ⟨broadcasts, rfl, silent⟩, virtual, virtual', found, rfl, ?_⟩
    rw [if_pos carriesLift]
    exact ⟨rfl, followed⟩
  next noLift =>
    rw [and_mask_ne_zero_iff] at noLift
    cases called
    refine ⟨service, ⟨rfl, rfl, ⟨[], (List.append_nil _).symm, List.forall_mem_nil _⟩, virtual,
      virtual, found, ?_, ?_⟩, rfl⟩
    · obtain ⟨bound, value⟩ := List.getElem?_eq_some_iff.mp found
      rw [← value, List.set_getElem_self]
    · rw [if_neg noLift]
      exact ⟨rfl, rfl⟩

theorem update_effective {readings : List Micros} {service after : InputService}
    {position : Nat} {newActive changed : Bool} {input : Input}
    (wellFormed : service.WellFormed) (found : service.allInputs[position]? = some input)
    (notVirtual : input.idx ≠ virtualIdx)
    (updated : update readings service position newActive = some (changed, after)) :
    (input.active = input.target newActive ∧ after = service) ∨
      (input.active ≠ input.target newActive ∧
        ∃ now later counted, readings = now :: later ∧
          Counted later (service.setInput position (input.exchange (input.target newActive) now))
            input.emergencyReason (input.target newActive) counted ∧
          after = (counted.send (changeEvents input.idx (input.target newActive)
            ((input.exchange (input.target newActive) now).activeDuration now))).send
              [.inputsChanged]) := by
  obtain ⟨nonzero, _⟩ := wellFormed.configured found notVirtual
  obtain ⟨virtual, foundVirtual, fixed⟩ := wellFormed.virtual
  obtain ⟨other, foundOther, outcome⟩ := update_cases updated
  obtain rfl : input = other := Option.some.inj (found.symm.trans foundOther)
  rcases outcome with ⟨same, _, rfl⟩ | ⟨different, _, now, later, notified, rfl, called, rfl⟩
  · exact .inl ⟨same, rfl⟩
  · generalize input.target newActive = level at called different ⊢
    have virtualKept : (service.setInput position (input.exchange level now)).allInputs[0]? =
        some virtual := (List.getElem?_set_ne nonzero).trans foundVirtual
    have lift : (service.setInput position (input.exchange level now)).liftMultipleInput = some 0 :=
      wellFormed.lift
    have notVirtual' : (input.exchange level now).idx ≠ virtualIdx := notVirtual
    obtain ⟨counted, effect, rfl⟩ :=
      onInputChanged_counted lift virtualKept fixed notVirtual' called
    exact .inr ⟨different, now, later, counted, rfl, effect, rfl⟩

/-- What an effective update of a configured input does. -/
structure Updated (readings : List Micros) (service : InputService) (position : Nat)
    (input : Input) (level : Bool) (after : InputService) : Prop where
  drivers : after.drivers = service.drivers
  lift : after.liftMultipleInput = service.liftMultipleInput
  inputs : ∃ input' virtual virtual', input.Followed readings level input' ∧
    service.allInputs[0]? = some virtual ∧
    after.allInputs = (service.allInputs.set position input').set 0 virtual' ∧
    if Carries input.emergencyReason .lift then
      after.numActiveLift = service.countedLift level ∧
        virtual.Followed readings (decide (2 ≤ service.countedLift level)) virtual'
    else
      after.numActiveLift = service.numActiveLift ∧ virtual' = virtual

theorem update_configured {readings : List Micros} {service after : InputService}
    {position : Nat} {newActive changed : Bool} {input : Input}
    (wellFormed : service.WellFormed) (found : service.allInputs[position]? = some input)
    (notVirtual : input.idx ≠ virtualIdx)
    (updated : update readings service position newActive = some (changed, after)) :
    (input.active = input.target newActive ∧ after = service) ∨
      (input.active ≠ input.target newActive ∧
        Updated readings service position input (input.target newActive) after) := by
  obtain ⟨nonzero, _⟩ := wellFormed.configured found notVirtual
  rcases update_effective wellFormed found notVirtual updated with
    unchanged | ⟨different, now, later, counted, rfl, effect, rfl⟩
  · exact .inl unchanged
  · obtain ⟨virtual, virtual', foundVirtual, inputs, outcome⟩ := effect.inputs
    refine .inr ⟨different, effect.drivers, effect.lift,
      input.exchange (input.target newActive) now, virtual, virtual',
      .inr ⟨different, now, List.mem_cons_self, rfl⟩,
      (List.getElem?_set_ne nonzero).symm.trans foundVirtual, inputs, ?_⟩
    split
    next carriesLift =>
      rw [if_pos carriesLift] at outcome
      exact ⟨outcome.1, outcome.2.mono (List.subset_cons_self now later)⟩
    next noLift =>
      rw [if_neg noLift] at outcome
      exact outcome

/-- Every input of the service follows some level in an update. -/
structure Evolved (readings : List Micros) (service after : InputService) : Prop where
  drivers : after.drivers = service.drivers
  lift : after.liftMultipleInput = service.liftMultipleInput
  length : after.allInputs.length = service.allInputs.length
  inputs : ∀ (position : Nat) (input' : Input), after.allInputs[position]? = some input' →
    ∃ (input : Input) (level : Bool), service.allInputs[position]? = some input ∧
      input.Followed readings level input'

theorem Evolved.refl (readings : List Micros) (service : InputService) :
    Evolved readings service service :=
  ⟨rfl, rfl, rfl, fun _ input found => ⟨input, input.active, found, .inl ⟨rfl, rfl⟩⟩⟩

theorem Updated.evolved {readings : List Micros} {service after : InputService} {position : Nat}
    {input : Input} {level : Bool} (found : service.allInputs[position]? = some input)
    (updated : Updated readings service position input level after) :
    Evolved readings service after := by
  obtain ⟨drivers, lift, input', virtual, virtual', followed, foundVirtual, inputs, counted⟩ :=
    updated
  refine ⟨drivers, lift, by simp [inputs], ?_⟩
  have virtualFollowed : ∃ level, virtual.Followed readings level virtual' := by
    split at counted
    next => exact ⟨_, counted.2⟩
    next => exact ⟨virtual.active, .inl ⟨rfl, counted.2⟩⟩
  intro other input'' lookup
  rw [inputs] at lookup
  by_cases isVirtual : other = 0
  · subst isVirtual
    have bound : 0 < service.allInputs.length :=
      (List.getElem?_eq_some_iff.mp foundVirtual).choose
    rw [List.getElem?_set_self (by simpa using bound), Option.some.injEq] at lookup
    subst lookup
    obtain ⟨level, followed⟩ := virtualFollowed
    exact ⟨virtual, level, foundVirtual, followed⟩
  · rw [List.getElem?_set_ne (Ne.symm isVirtual)] at lookup
    by_cases target : position = other
    · subst target
      have bound := (List.getElem?_eq_some_iff.mp found).choose
      rw [List.getElem?_set_self bound, Option.some.injEq] at lookup
      subst lookup
      exact ⟨input, level, found, followed⟩
    · rw [List.getElem?_set_ne target] at lookup
      exact ⟨input'', input''.active, lookup, .inl ⟨rfl, rfl⟩⟩

theorem update_evolved {readings : List Micros} {service after : InputService}
    {position : Nat} {newActive changed : Bool} {input : Input}
    (wellFormed : service.WellFormed) (found : service.allInputs[position]? = some input)
    (notVirtual : input.idx ≠ virtualIdx)
    (updated : update readings service position newActive = some (changed, after)) :
    Evolved readings service after := by
  rcases update_configured wellFormed found notVirtual updated with ⟨_, rfl⟩ | ⟨_, effect⟩
  · exact .refl readings after
  · exact effect.evolved found

theorem Evolved.wellFormed {readings : List Micros} {service after : InputService}
    (evolved : Evolved readings service after) (wellFormed : service.WellFormed) :
    after.WellFormed := by
  refine ⟨evolved.lift.trans wellFormed.lift, ?_, ?_, evolved.length ▸ wellFormed.length⟩
  · intro empty
    have length := evolved.length
    rw [empty, List.length_nil] at length
    exact wellFormed.nonempty (List.length_eq_zero_iff.mp length.symm)
  · intro position input' lookup
    obtain ⟨input, level, found, followed⟩ := evolved.inputs position input' lookup
    have good := wellFormed.placed position input found
    unfold Placed at good ⊢
    split at good
    next zero =>
      rw [if_pos zero]
      exact good.of_sameConfiguration followed.sameConfiguration
    next nonzero =>
      rw [if_neg nonzero]
      exact good.of_sameConfiguration followed.sameConfiguration

/-- Apart from the virtual input, an update changes the input it is called on and no other. -/
structure FollowedAt (service : InputService) (position : Nat) (input : Input) (newActive : Bool)
    (after : InputService) : Prop where
  updated : ∃ input', after.allInputs[position]? = some input' ∧
    input.SameConfiguration input' ∧ input'.active = (newActive ^^ input.invert)
  others : ∀ other, other ≠ position → other ≠ 0 →
    after.allInputs[other]? = service.allInputs[other]?

theorem update_followedAt {readings : List Micros} {service after : InputService}
    {position : Nat} {newActive changed : Bool} {input : Input}
    (wellFormed : service.WellFormed) (found : service.allInputs[position]? = some input)
    (notVirtual : input.idx ≠ virtualIdx)
    (updated : update readings service position newActive = some (changed, after)) :
    FollowedAt service position input newActive after := by
  obtain ⟨nonzero, _⟩ := wellFormed.configured found notVirtual
  rcases update_configured wellFormed found notVirtual updated with ⟨same, rfl⟩ | ⟨_, effect⟩
  · refine ⟨⟨input, found, .refl input, ?_⟩, fun _ _ _ => rfl⟩
    rw [same, input.target_eq_xor]
  · obtain ⟨input', virtual, virtual', followed, _, inputs, _⟩ := effect.inputs
    refine ⟨⟨input', ?_, followed.sameConfiguration, ?_⟩, ?_⟩
    · rw [inputs, List.getElem?_set_ne (Ne.symm nonzero)]
      exact List.getElem?_set_self (List.getElem?_eq_some_iff.mp found).choose
    · rw [followed.active, input.target_eq_xor]
    · intro other different otherNonzero
      rw [inputs, List.getElem?_set_ne (Ne.symm otherNonzero),
        List.getElem?_set_ne (Ne.symm different)]

theorem exists_update_virtual {service : InputService} {virtual : Input}
    (found : service.allInputs[0]? = some virtual) (fixed : virtual.IsVirtual) (now : Micros)
    (later : List Micros) (level : Bool) :
    ∃ result, update (now :: later) service 0 level = some result := by
  unfold update
  simp only [found]
  split
  next => exact ⟨_, rfl⟩
  next =>
    have isVirtual : (virtual.exchange (virtual.target level) now).idx = virtualIdx := fixed.idx
    rw [onInputChanged_virtual isVirtual]
    exact ⟨_, rfl⟩

theorem exists_countLift {service : InputService} {virtual : Input}
    (lift : service.liftMultipleInput = some 0) (found : service.allInputs[0]? = some virtual)
    (fixed : virtual.IsVirtual) (now : Micros) (later : List Micros) (active : Bool) :
    ∃ counted, countLift (update (now :: later)) service active = some counted := by
  simp only [countLift, lift]
  generalize (if active then service.numActiveLift + 1 else service.numActiveLift - 1) = number
  have foundRecounted :
      { service with numActiveLift := number }.allInputs[0]? = some virtual := found
  obtain ⟨result, updated⟩ :=
    exists_update_virtual foundRecounted fixed now later (decide (2 ≤ number))
  rw [lift] at updated
  rw [updated]
  exact ⟨_, rfl⟩

/-- Two readings of the clock are enough, one for the input and one for the virtual one. -/
theorem exists_update {readings : List Micros} {service : InputService} {position : Nat}
    {input : Input} (wellFormed : service.WellFormed)
    (found : service.allInputs[position]? = some input) (notVirtual : input.idx ≠ virtualIdx)
    (enough : 2 ≤ readings.length) (newActive : Bool) :
    ∃ result, update readings service position newActive = some result := by
  obtain ⟨nonzero, _⟩ := wellFormed.configured found notVirtual
  obtain ⟨virtual, foundVirtual, fixed⟩ := wellFormed.virtual
  match readings, enough with
  | now :: next :: later, _ =>
      unfold update
      simp only [found]
      split
      next => exact ⟨_, rfl⟩
      next =>
        generalize input.target newActive = level
        have notVirtual' : (input.exchange level now).idx ≠ virtualIdx := notVirtual
        have virtualKept : (service.setInput position (input.exchange level now)).allInputs[0]? =
            some virtual := (List.getElem?_set_ne nonzero).trans foundVirtual
        have liftKept : (service.setInput position (input.exchange level now)).liftMultipleInput =
            some 0 := wellFormed.lift
        rw [onInputChanged, if_neg notVirtual']
        split
        next =>
          obtain ⟨counted, counts⟩ :=
            exists_countLift liftKept virtualKept fixed next later level
          rw [counts]
          exact ⟨_, rfl⟩
        next => exact ⟨_, rfl⟩

end InputService

end XBotFirmware.Inputs
