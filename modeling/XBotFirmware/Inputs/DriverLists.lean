import XBotFirmware.Inputs.Declared
import XBotFirmware.Inputs.LiftCount

set_option autoImplicit false

/-!
The lists of the drivers partition the inputs.

While the parser runs, the inputs are the declarations read so far, and the list of
each driver is threaded through the positions of its own declarations.  An update
touches no link, so the lists stay until the next configuration.
-/

namespace XBotFirmware.Inputs

open XBotFirmware.Library XBotFirmware.Platform XBotFirmware.Emergency XBotFirmware.Json

variable {externals : Externals} {registry : Registry} {declared : Declarations}

/-- The service holds the declared inputs, and each driver lists its own. -/
structure InputService.Threaded (externals : Externals) (registry : Registry)
    (declared : Declarations) (service : InputService) : Prop where
  registered : service.registry = registry
  length : service.allInputs.length = declared.inputs.length + 1
  lists : ∀ index entry, service.drivers[index]? = some entry →
    Chain (link service.allInputs) entry.2.inputsHead
      (Declarations.positions registry declared.keys index)
  inputs : ∀ (place : Nat) declaration, declared.inputs[place]? = some declaration →
    ∃ input, service.allInputs[place + 1]? = some input ∧ input.idx.toNat = place ∧
      input.gpioLine = declaration.lines.getLast?.map externals.getIoLineByName
  resolved : ∀ key ∈ declared.keys, (driverIndex registry key).isSome

structure ConfigState.Threaded (externals : Externals) (registry : Registry)
    (declared : Declarations) (state : ConfigState) : Prop where
  service : state.service.Threaded externals registry declared
  driver : state.data.driver = declared.driver registry
  current : ∀ position, state.data.currentInput = some position →
    position = declared.inputs.length

namespace ConfigState

variable {state next : ConfigState} {reply : Reply}

theorem link_set {inputs : List Input} {position : Nat} {input input' : Input}
    (found : inputs[position]? = some input)
    (same : input'.nextForDriver = input.nextForDriver) :
    link (inputs.set position input') = link inputs := by
  funext other
  unfold link
  by_cases equal : position = other
  · subst equal
    have inside := (List.getElem?_eq_some_iff.mp found).choose
    rw [List.getElem?_set_self inside, found, Option.bind_some, Option.bind_some, same]
  · rw [List.getElem?_set_ne equal]

theorem Threaded.edit {edit : Edit} {line : Option String}
    (threaded : state.Threaded externals registry declared)
    (nonzero : state.data.currentInput ≠ some 0) (keeps : edit.Keeps externals line)
    (edited : state.edit edit = some (next, reply)) :
    next.Threaded externals registry (declared.addLine line) := by
  obtain ⟨_, ⟨unchanged, rfl⟩ | ⟨change, position, input, changes, current, found, rfl⟩⟩ :=
    edit_eq_some edited
  · cases line with
    | none =>
        rw [Declarations.addLine_none]
        exact threaded
    | some name => exact absurd unchanged (keeps.changes rfl)
  · obtain rfl := threaded.current position current
    have service := threaded.service
    have positive : declared.inputs.length ≠ 0 := fun zero => nonzero (zero ▸ current)
    have links : link (state.service.allInputs.set declared.inputs.length (change input)) =
        link state.service.allInputs := link_set found (keeps.next change changes input)
    refine ⟨⟨service.registered, ?_, ?_, ?_, ?_⟩, threaded.driver, ?_⟩
    · simp only [InputService.setInput, List.length_set, Declarations.addLine, List.length_modify]
      exact service.length
    · intro index entry registered
      rw [Declarations.addLine_keys]
      simp only [InputService.setInput, links]
      exact service.lists index entry registered
    · intro place declaration lookup
      simp only [Declarations.addLine, List.getElem?_modify] at lookup
      obtain ⟨old, oldLookup, rfl⟩ := Option.map_eq_some_iff.mp lookup
      obtain ⟨before, beforeFound, idx, gpioLine⟩ := service.inputs place old oldLookup
      have inside := (List.getElem?_eq_some_iff.mp oldLookup).choose
      by_cases last : declared.inputs.length - 1 = place
      · have here : place + 1 = declared.inputs.length := by omega
        rw [here] at beforeFound
        obtain rfl := Option.some.inj (found.symm.trans beforeFound)
        refine ⟨change input, ?_, ?_, ?_⟩
        · rw [here]
          exact List.getElem?_set_self (List.getElem?_eq_some_iff.mp found).choose
        · rw [keeps.idx change changes, idx]
        · rw [keeps.gpioLine change changes, gpioLine, if_pos last]
          cases line with
          | none => simp
          | some name => simp
      · refine ⟨before, ?_, idx, ?_⟩
        · rw [← beforeFound]
          exact List.getElem?_set_ne (by omega)
        · rw [gpioLine, if_neg last]
    · rw [Declarations.addLine_keys]
      exact service.resolved
    · intro position held
      simp only [Declarations.addLine, List.length_modify]
      exact threaded.current position held

theorem selectDriver_eq (state : ConfigState) (key : String) :
    state.selectDriver key =
      match driverIndex state.service.registry key with
      | none => (state, .reject s!"Unknown input driver \"{key}\"")
      | some index =>
          ({ state with data := { state.data with driver := some index } }, .accept) := by
  unfold ConfigState.selectDriver driverIndex InputService.registry
  rw [List.findIdx?_map]
  by_cases short : key.utf8ByteSize ≤ 10
  · rw [if_pos short, if_pos short]
    rfl
  · rw [if_neg short, if_neg short]

theorem Threaded.selectDriver (threaded : state.Threaded externals registry declared)
    (key : String) :
    (state.selectDriver key).1.Threaded externals registry
      (if (driverIndex registry key).isSome then { declared with key := some key }
        else declared) := by
  have service := threaded.service
  rw [selectDriver_eq, service.registered]
  cases found : driverIndex registry key with
  | none => exact threaded
  | some index =>
      refine ⟨⟨service.registered, service.length, service.lists, service.inputs,
        service.resolved⟩, ?_, threaded.current⟩
      exact found.symm

end ConfigState

theorem link_concat (inputs : List Input) (idx : BitVec 8) :
    link (inputs ++ [Input.create idx]) = link inputs := by
  funext position
  unfold link
  rcases Nat.lt_trichotomy position inputs.length with inside | rfl | outside
  · rw [List.getElem?_append_left inside]
  · simp [Input.create]
  · have beyond : (inputs ++ [Input.create idx]).length ≤ position := by
      rw [List.length_append, List.length_singleton]
      exact outside
    rw [List.getElem?_eq_none beyond, List.getElem?_eq_none (Nat.le_of_lt outside)]

theorem registry_set {drivers : List (String × InputDriver)} {index : Nat} {name : String}
    {driver : InputDriver} (registered : drivers[index]? = some (name, driver))
    (head : Option Nat) :
    (drivers.set index (name, ⟨driver.kind, head⟩)).map (fun entry => (entry.1, entry.2.kind)) =
      drivers.map fun entry => (entry.1, entry.2.kind) := by
  apply List.ext_getElem?
  intro other
  rw [List.getElem?_map, List.getElem?_map]
  by_cases same : index = other
  · subst same
    rw [List.getElem?_set_self (List.getElem?_eq_some_iff.mp registered).choose, registered]
    rfl
  · rw [List.getElem?_set_ne same]

def unlinked (inputs : List Input) : List Input := inputs.map (Input.withLink none)

theorem unlinked_eq_of_same {first second : List Input}
    (same : ∀ other : Nat, ∃ next, second[other]? = first[other]?.map (Input.withLink next)) :
    unlinked second = unlinked first := by
  apply List.ext_getElem?
  intro other
  obtain ⟨next, found⟩ := same other
  rw [unlinked, unlinked, List.getElem?_map, List.getElem?_map, found, Option.map_map]
  rfl

theorem InputService.Threaded.declare {service : InputService} {index : Nat} {name key : String}
    {driver : InputDriver} (idx : BitVec 8)
    (threaded : service.Threaded externals registry declared)
    (registered : service.drivers[index]? = some (name, driver))
    (resolved : driverIndex registry key = some index)
    (fresh : idx.toNat = declared.inputs.length) :
    ∃ head inputs',
      driver.addInput (service.allInputs ++ [Input.create idx]) service.allInputs.length =
        some (⟨driver.kind, head⟩, inputs') ∧
      inputs'.length = service.allInputs.length + 1 ∧
      unlinked inputs' = unlinked service.allInputs ++ [Input.create idx] ∧
      { service with
        allInputs := inputs'
        drivers := service.drivers.set index (name, ⟨driver.kind, head⟩) }.Threaded externals
          registry (declared.declare key) := by
  have length := threaded.length
  have keysLength : declared.keys.length = declared.inputs.length := List.length_map ..
  have links := link_concat service.allInputs idx
  have below : ∀ {other node}, node ∈ Declarations.positions registry declared.keys other →
      node < service.allInputs.length := by
    intro other node membership
    have bounds := Declarations.positions_bounds membership
    omega
  obtain ⟨head, inputs', added, chain, others, same⟩ :=
    addInput_of_chain service.allInputs.length (links ▸ threaded.lists index _ registered)
      (fun node membership => by
        rw [List.length_append, List.length_singleton]
        exact Nat.lt_succ_of_lt (below membership))
      (fun member => Nat.lt_irrefl _ (below member))
      (by rw [links, link, List.getElem?_eq_none (Nat.le_refl _), Option.bind_none])
  rw [links] at others
  have newLength : inputs'.length = service.allInputs.length + 1 := by
    obtain ⟨_, _, _⟩ := InputDriver.addInput_spec added
    simp_all
  have keys : (declared.declare key).keys = declared.keys ++ [key] := by
    simp [Declarations.declare, Declarations.keys]
  have created : unlinked inputs' = unlinked service.allInputs ++ [Input.create idx] := by
    rw [unlinked_eq_of_same same]
    simp [unlinked, Input.withLink, Input.create]
  refine ⟨head, inputs', added, newLength, created, ?_, ?_, ?_, ?_, ?_⟩
  · exact (registry_set registered head).trans threaded.registered
  · rw [newLength, length]
    simp [Declarations.declare]
  · intro other entry lookup
    rw [keys, Declarations.positions_concat, keysLength, ← length]
    by_cases here : index = other
    · subst here
      rw [List.getElem?_set_self (List.getElem?_eq_some_iff.mp registered).choose] at lookup
      cases lookup
      rw [if_pos resolved]
      exact chain
    · rw [List.getElem?_set_ne here] at lookup
      rw [resolved, if_neg (fun equal => here (Option.some.inj equal)), List.append_nil]
      apply (threaded.lists other entry lookup).congr
      intro node membership
      apply others
      exact fun again => here (Declarations.positions_disjoint again membership)
  · intro place declaration lookup
    obtain ⟨next, found⟩ := same (place + 1)
    by_cases old : place < declared.inputs.length
    · rw [Declarations.declare, List.getElem?_append_left old] at lookup
      obtain ⟨input, present, idxEqual, gpioLine⟩ := threaded.inputs place declaration lookup
      rw [List.getElem?_append_left (by omega), present] at found
      exact ⟨_, found, idxEqual, gpioLine⟩
    · have last : place = declared.inputs.length := by
        have inside := (List.getElem?_eq_some_iff.mp lookup).choose
        rw [Declarations.declare, List.length_append, List.length_singleton] at inside
        omega
      subst last
      rw [← length, List.getElem?_concat_length] at found
      rw [Declarations.declare, List.getElem?_concat_length] at lookup
      cases lookup
      exact ⟨_, length ▸ found, fresh, rfl⟩
  · intro other membership
    rw [keys] at membership
    rcases List.mem_append.mp membership with old | new
    · exact threaded.resolved other old
    · rw [List.mem_singleton.mp new, resolved]
      rfl

namespace ConfigState

variable {state next : ConfigState} {reply : Reply}

theorem driverIndex_lt {key : String} {index : Nat}
    (resolved : driverIndex registry key = some index) : index < registry.length := by
  unfold driverIndex at resolved
  split at resolved
  next => exact (List.findIdx?_eq_some_iff_findIdx_eq.mp resolved).1
  next => cases resolved

theorem Threaded.beginInput_eq (threaded : state.Threaded externals registry declared)
    (invariant : state.Invariant) (room : declared.inputs.length < 30) {key : String} {index : Nat}
    (current : declared.key = some key) (resolved : driverIndex registry key = some index) :
    ∃ next, state.beginInput = some (next, .accept) ∧
      unlinked next.service.allInputs =
        unlinked state.service.allInputs ++ [Input.create state.data.nextIdx] ∧
      next.data.currentInput = some (declared.inputs.length + 1) ∧
      next.Threaded externals registry (declared.declare key) := by
  have service := threaded.service
  have length := service.length
  have fresh := invariant.next
  have selected : state.data.driver = some index := by
    rw [threaded.driver, Declarations.driver, current, Option.bind_some, resolved]
  have inside : index < state.service.drivers.length := by
    have bound := driverIndex_lt resolved
    rwa [← service.registered, InputService.registry, List.length_map] at bound
  obtain ⟨⟨name, driver⟩, registered⟩ : ∃ entry, state.service.drivers[index]? = some entry :=
    ⟨_, List.getElem?_eq_getElem inside⟩
  obtain ⟨head, inputs', added, _, created, declares⟩ :=
    service.declare state.data.nextIdx registered resolved (by omega)
  refine ⟨⟨{ state.service with
      allInputs := inputs'
      drivers := state.service.drivers.set index (name, ⟨driver.kind, head⟩) },
    { state.data with
      currentInput := some state.service.allInputs.length
      nextIdx := state.data.nextIdx + 1 }⟩, ?_, created, ?_, declares, threaded.driver, ?_⟩
  · unfold ConfigState.beginInput
    rw [if_neg (by omega)]
    simp only [selected, registered, added]
  · rw [length]
  · rintro position ⟨⟩
    rw [length, Declarations.declare, List.length_append, List.length_singleton]

theorem Threaded.beginInput (threaded : state.Threaded externals registry declared)
    (invariant : state.Invariant) (begun : state.beginInput = some (next, reply)) :
    next.Threaded externals registry
      (if declared.inputs.length < 30 then declared.declare (declared.key.getD "")
        else declared) := by
  have length := threaded.service.length
  have bound := invariant.wellFormed.length
  by_cases room : declared.inputs.length < 30
  · rw [if_pos room]
    have chosen := threaded.driver
    cases current : declared.driver registry with
    | none =>
        rw [current] at chosen
        simp [ConfigState.beginInput, chosen, show state.service.allInputs.length ≠ 31 by omega]
          at begun
    | some index =>
        obtain ⟨key, keyed, resolved⟩ := Option.bind_eq_some_iff.mp current
        obtain ⟨after, begins, _, _, declares⟩ :=
          threaded.beginInput_eq invariant room keyed resolved
        cases begun.symm.trans begins
        rwa [keyed]
  · rw [if_neg room]
    unfold ConfigState.beginInput at begun
    rw [if_pos (by omega)] at begun
    cases begun
    exact threaded

theorem Threaded.kind {index : Nat} {name : String} {driver : InputDriver}
    (threaded : state.Threaded externals registry declared)
    (selected : state.data.driver = some index)
    (registered : state.service.drivers[index]? = some (name, driver)) :
    (declared.driver registry).bind (fun index => registry[index]?.map Prod.snd) =
      some driver.kind := by
  rw [← threaded.driver, selected, Option.bind_some, ← threaded.service.registered,
    InputService.registry, List.getElem?_map, registered]
  rfl

theorem lineGiven_eq_none {event : Event} (other : event.jsp.name 4 ≠ "line") :
    declared.lineGiven registry event = none := by
  unfold Declarations.lineGiven
  exact if_neg fun given => other given.2.1

theorem Threaded.edit_other {event : Event} {edit : Edit}
    (threaded : state.Threaded externals registry declared) (invariant : state.Invariant)
    (other : event.jsp.name 4 ≠ "line") (keeps : edit.Keeps externals none)
    (edited : state.edit edit = some (next, reply)) :
    next.Threaded externals registry (declared.addLine (declared.lineGiven registry event)) := by
  rw [lineGiven_eq_none other]
  exact threaded.edit invariant.current keeps edited

theorem Threaded.inputValue {event : Event} (threaded : state.Threaded externals registry declared)
    (invariant : state.Invariant) (level : event.jsp.stackPos = 5)
    (valued : state.inputValue externals event = some (next, reply)) :
    next.Threaded externals registry (declared.addLine (declared.lineGiven registry event)) := by
  have unchanged : event.jsp.name 4 ≠ "line" → state.Threaded externals registry
      (declared.addLine (declared.lineGiven registry event)) := by
    intro other
    rw [lineGiven_eq_none other, Declarations.addLine_none]
    exact threaded
  simp only [ConfigState.inputValue] at valued
  split at valued
  next invert =>
    have other : event.jsp.name 4 ≠ "line" := by
      rw [invert]
      decide
    split at valued
    next =>
      cases valued
      exact unchanged other
    next =>
      refine threaded.edit_other invariant other ?_ valued
      exact Edit.keeps_assign (fun _ => rfl) (fun _ => rfl) (fun _ => rfl)
  next =>
    split at valued
    next emergency =>
      have other : event.jsp.name 4 ≠ "line" := by
        rw [emergency]
        decide
      split at valued
      next =>
        cases valued
        exact unchanged other
      next =>
        split at valued
        next =>
          refine threaded.edit_other invariant other ?_ valued
          exact Edit.keeps_assign (fun _ => rfl) (fun _ => rfl) (fun _ => rfl)
        next =>
          cases valued
          exact unchanged other
    next =>
      split at valued
      next => cases valued
      next index selected =>
        split at valued
        next => cases valued
        next name driver registered =>
          have kind := threaded.kind selected registered
          refine threaded.edit invariant.current ?_ valued
          simp only [Declarations.lineGiven, level, kind, true_and, Option.some.injEq]
          cases driver.kind with
          | gpio =>
              simp only [and_true]
              exact gpioOnInputConfigValue_keeps ..
          | simulated =>
              simp only [reduceCtorEq, and_false, if_false]
              exact Edit.keeps_reject _

end ConfigState

theorem inputConfigsJsonCallback_threaded {event : Event} {state next : ConfigState}
    {reply : Reply} (threaded : state.Threaded externals registry declared)
    (invariant : state.Invariant)
    (called : inputConfigsJsonCallback externals event state = some (next, reply)) :
    next.Threaded externals registry (declared.next registry event) := by
  have elsewhere : event.jsp.stackPos ≠ 5 → declared.lineGiven registry event = none := by
    intro other
    unfold Declarations.lineGiven
    exact if_neg fun given => other given.1
  unfold inputConfigsJsonCallback at called
  unfold Declarations.next
  split at called
  next level =>
    cases called
    rw [if_neg (by omega), if_neg (by omega), elsewhere (by omega), Declarations.addLine_none]
    exact threaded
  next level =>
    rw [if_pos level]
    have selected := threaded.selectDriver event.jsp.str
    rw [Option.some.inj called] at selected
    exact selected
  next level =>
    cases called
    rw [if_neg (by omega), if_neg (by omega), elsewhere (by omega), Declarations.addLine_none]
    exact threaded
  next level =>
    rw [if_neg (by omega)]
    split at called
    next unexpected =>
      cases called
      have other : event.type ≠ .object := by
        intro object
        rw [object] at unexpected
        cases unexpected
      rw [if_neg fun both => other both.2, elsewhere (by omega), Declarations.addLine_none]
      exact threaded
    next =>
      split at called
      next object =>
        rw [if_pos ⟨level, object⟩]
        exact threaded.beginInput invariant called
      next other =>
        cases called
        rw [if_neg fun both => other both.2, elsewhere (by omega), Declarations.addLine_none]
        exact ⟨threaded.service, threaded.driver, fun position held => by cases held⟩
  next level =>
    rw [if_neg (by omega), if_neg (by omega)]
    exact threaded.inputValue invariant level called
  next level =>
    rw [if_neg (by omega), if_neg (by omega), elsewhere (by omega)]
    exact threaded.edit invariant.current (emergencyConfigValue_keeps ..) called
  next notRoot notKey _ notInput _ _ =>
    cases called
    rw [if_neg notKey, if_neg fun both => notInput both.1, elsewhere (by assumption),
      Declarations.addLine_none]
    exact threaded

theorem resetInputs_threaded (service : InputService) :
    ConfigState.Threaded externals service.registry .initial
      ⟨service.resetInputs, ⟨none, none, 0⟩⟩ := by
  refine ⟨⟨?_, rfl, ?_, ?_, ?_⟩, rfl, fun position held => by cases held⟩
  · simp [InputService.registry, InputService.resetInputs, InputDriver.clearInputs]
  · intro index entry lookup
    simp only [InputService.resetInputs, List.getElem?_map] at lookup
    obtain ⟨old, _, rfl⟩ := Option.map_eq_some_iff.mp lookup
    exact .nil
  · intro place declaration lookup
    cases lookup
  · intro key membership
    cases membership

namespace InputService

variable {ParserState : Type} {parser : StreamParser ParserState} {service after : InputService}

/-- The state of the parser when `OnRegisterInputConfigsChanged` starts it. -/
def configStart (service : InputService) : ConfigState :=
  ⟨service.resetInputs, ⟨none, none, 0⟩⟩

/-- However a configuration ends, the service holds what the events declared. -/
theorem onRegisterInputConfigsChanged_threaded {source : List Char}
    {result : ProcessResult ConfigState}
    (configured : service.onRegisterInputConfigsChanged externals parser source = some result) :
    ∃ events, deliveredEvents parser (inputConfigsJsonCallback externals) source
        service.configStart = some events ∧
      result.data.Threaded externals service.registry
        (Declarations.ofEvents service.registry events) := by
  let joint (events : List Event) (state : ConfigState) : Prop :=
    state.Threaded externals service.registry (Declarations.ofEvents service.registry events) ∧
      state.Invariant
  have preserved : ∀ event events state next reply, joint events state →
      inputConfigsJsonCallback externals event state = some (next, reply) →
      joint (events ++ [event]) next := by
    rintro event events state next reply ⟨threaded, invariant⟩ called
    refine ⟨?_, inputConfigsJsonCallback_invariant invariant called⟩
    rw [Declarations.ofEvents, List.foldl_append]
    exact inputConfigsJsonCallback_threaded threaded invariant called
  obtain ⟨events, delivered, threaded, _⟩ := processJson_events_invariant preserved parser
    ⟨resetInputs_threaded service, resetInputs_invariant service⟩ configured
  exact ⟨events, delivered, threaded⟩

theorem Evolved.link_eq {readings : List Micros} (evolved : Evolved readings service after) :
    link after.allInputs = link service.allInputs := by
  funext position
  unfold link
  cases found : after.allInputs[position]? with
  | none =>
      rw [List.getElem?_eq_none_iff, evolved.length] at found
      rw [List.getElem?_eq_none found]
  | some input' =>
      obtain ⟨input, level, present, followed⟩ := evolved.inputs position input' found
      rw [present, Option.bind_some, Option.bind_some]
      exact followed.sameConfiguration.2.2.2.2.2.symm

theorem Evolved.threaded {readings : List Micros} (evolved : Evolved readings service after)
    (threaded : service.Threaded externals registry declared) :
    after.Threaded externals registry declared := by
  refine ⟨?_, evolved.length.trans threaded.length, ?_, ?_, threaded.resolved⟩
  · rw [InputService.registry, evolved.drivers]
    exact threaded.registered
  · rw [evolved.link_eq, evolved.drivers]
    exact threaded.lists
  · intro place declaration lookup
    obtain ⟨input, found, idx, gpioLine⟩ := threaded.inputs place declaration lookup
    have inside := (List.getElem?_eq_some_iff.mp found).choose
    rw [← evolved.length] at inside
    have found' := List.getElem?_eq_getElem inside
    obtain ⟨before, level, present, followed⟩ := evolved.inputs _ _ found'
    obtain rfl := Option.some.inj (found.symm.trans present)
    have same := followed.sameConfiguration
    exact ⟨_, found', same.1 ▸ idx, same.2.2.2.2.1 ▸ gpioLine⟩

/-- The lists of the drivers hold the declared inputs. -/
structure Partitioned (declared : Declarations) (service : InputService) : Prop where
  /-- Iterating `Inputs()` ends, with the inputs of the driver in the order in which
  they were created. -/
  lists : ∀ index entry, service.drivers[index]? = some entry →
    walk? (link service.allInputs) service.allInputs.length entry.2.inputsHead =
      some (Declarations.positions service.registry declared.keys index)
  creationOrder : ∀ index,
    (Declarations.positions service.registry declared.keys index).Pairwise (· < ·)
  virtual : ∃ virtual, service.allInputs[0]? = some virtual ∧ virtual.idx = virtualIdx
  /-- Every other input is in the list of one driver. -/
  covered : ∀ position, position ≠ 0 ∧ position < service.allInputs.length ↔
    ∃ index, index < service.drivers.length ∧
      position ∈ Declarations.positions service.registry declared.keys index
  disjoint : ∀ position first second,
    position ∈ Declarations.positions service.registry declared.keys first →
    position ∈ Declarations.positions service.registry declared.keys second → first = second
  length : service.allInputs.length ≤ 31
  idx : ∀ position input, service.allInputs[position]? = some input → position ≠ 0 →
    input.idx.toNat + 1 = position ∧ input.idx.toNat ≤ 29

theorem Threaded.partitioned (threaded : service.Threaded externals registry declared)
    (wellFormed : service.WellFormed) : service.Partitioned declared := by
  have length := threaded.length
  have bound := wellFormed.length
  have keysLength : declared.keys.length = declared.inputs.length := List.length_map ..
  obtain rfl := threaded.registered
  refine ⟨?_, fun _ => Declarations.positions_sorted, ?_, ?_,
    fun _ _ _ => Declarations.positions_disjoint, bound, ?_⟩
  · intro index entry registered
    have chain := threaded.lists index entry registered
    apply chain.walk?
    apply chain.length_le
    intro position membership
    have bounds := Declarations.positions_bounds membership
    omega
  · obtain ⟨virtual, found, fixed⟩ := wellFormed.virtual
    exact ⟨virtual, found, fixed.idx⟩
  · intro position
    constructor
    · rintro ⟨nonzero, inside⟩
      have declaredHere : position - 1 < declared.keys.length := by omega
      have found := List.getElem?_eq_getElem declaredHere
      have resolved := threaded.resolved _ (List.mem_of_getElem? found)
      obtain ⟨index, selected⟩ := Option.isSome_iff_exists.mp resolved
      refine ⟨index, ?_, Declarations.mem_positions.mpr ⟨_, by omega, found, selected⟩⟩
      have below := ConfigState.driverIndex_lt selected
      rwa [InputService.registry, List.length_map] at below
    · rintro ⟨index, _, membership⟩
      have bounds := Declarations.positions_bounds membership
      omega
  · intro position input found nonzero
    have inside := (List.getElem?_eq_some_iff.mp found).choose
    have declaredHere : position - 1 < declared.inputs.length := by omega
    obtain ⟨input', found', idx, _⟩ :=
      threaded.inputs _ _ (List.getElem?_eq_getElem declaredHere)
    rw [show position - 1 + 1 = position by omega] at found'
    obtain rfl := Option.some.inj (found.symm.trans found')
    omega

end InputService

def InputOp.IsUpdate : InputOp → Prop
  | .configure _ => False
  | .update _ _ _ => True

namespace InputService

variable {ParserState : Type} {parser : StreamParser ParserState} {service after : InputService}

theorem threaded_of_updates {updates : List InputOp} (recent : ∀ op ∈ updates, op.IsUpdate)
    (wellFormed : service.WellFormed) (threaded : service.Threaded externals registry declared)
    (executed : run (step externals parser) service updates = some after) :
    after.WellFormed ∧ after.Threaded externals registry declared := by
  apply run_invariant_of_labels InputOp.IsUpdate _ recent ⟨wellFormed, threaded⟩ executed
  rintro state op next isUpdate ⟨stateWellFormed, stateThreaded⟩ stepped
  cases op with
  | configure source => cases isUpdate
  | update readings position newActive =>
      obtain ⟨input, changed, found, notVirtual, returned⟩ := updateByDriver_eq_some stepped
      have evolved := update_evolved stateWellFormed found notVirtual returned
      exact ⟨evolved.wellFormed stateWellFormed, evolved.threaded stateThreaded⟩

/-- After a configuration and any updates the service still holds what the events of that
configuration declared, and right after it nothing is active. -/
theorem threaded_of_configured {drivers : List (String × InputDriver)}
    {before updates : List InputOp} {source : List Char} (recent : ∀ op ∈ updates, op.IsUpdate)
    (executed : run (step externals parser) (initial drivers)
      (before ++ .configure source :: updates) = some after) :
    ∃ service events, run (step externals parser) (initial drivers) before = some service ∧
      deliveredEvents parser (inputConfigsJsonCallback externals) source
        service.configStart = some events ∧
      after.WellFormed ∧
      after.Threaded externals after.registry (Declarations.ofEvents after.registry events) ∧
      (updates = [] → after.numActiveLift = 0 ∧
        ∀ input ∈ after.allInputs, input.active = false) := by
  obtain ⟨service, reached, rest⟩ := run_append_eq_some.mp executed
  obtain ⟨configured, stepped, remaining⟩ := run_cons_eq_some.mp rest
  obtain ⟨result, processed, rfl⟩ := Option.map_eq_some_iff.mp stepped
  have invariant := onRegisterInputConfigsChanged_invariant processed
  obtain ⟨events, delivered, threaded⟩ := onRegisterInputConfigsChanged_threaded processed
  obtain ⟨wellFormed, finallyThreaded⟩ :=
    threaded_of_updates recent invariant.wellFormed threaded.service remaining
  refine ⟨service, events, reached, delivered, wellFormed, ?_, ?_⟩
  · rw [finallyThreaded.registered]
    exact finallyThreaded
  · rintro rfl
    cases remaining
    exact ⟨invariant.count, invariant.inactive⟩

/-- After any operations, a configuration and any updates, the lists of the drivers
partition the inputs that the events of that configuration declared.  Right after
it nothing is active. -/
theorem driver_lists_partition {drivers : List (String × InputDriver)}
    {before updates : List InputOp} {source : List Char} (recent : ∀ op ∈ updates, op.IsUpdate)
    (executed : run (step externals parser) (initial drivers)
      (before ++ .configure source :: updates) = some after) :
    ∃ service events, run (step externals parser) (initial drivers) before = some service ∧
      deliveredEvents parser (inputConfigsJsonCallback externals) source
        service.configStart = some events ∧
      after.Partitioned (Declarations.ofEvents after.registry events) ∧
      (updates = [] → after.numActiveLift = 0 ∧
        ∀ input ∈ after.allInputs, input.active = false) := by
  obtain ⟨service, events, reached, delivered, wellFormed, threaded, inactive⟩ :=
    threaded_of_configured recent executed
  exact ⟨service, events, reached, delivered, threaded.partitioned wellFormed, inactive⟩

theorem driver_lists_partition_twoLift :
    ∃ after events, run (step twoLiftExternals twoLiftParser) twoLiftInitial
        ([.configure twoLiftDocument] ++ .configure twoLiftDocument :: [.update [500] 1 true]) =
          some after ∧
      Declarations.positions after.registry (Declarations.ofEvents after.registry events).keys 1 =
        [1, 2] ∧
      after.Partitioned (Declarations.ofEvents after.registry events) := by
  have evaluated : (run (step twoLiftExternals twoLiftParser) twoLiftInitial
      ([.configure twoLiftDocument] ++ .configure twoLiftDocument :: [.update [500] 1 true])).map
        (fun after => ((after.drivers[1]?).map fun entry => entry.2.inputsHead,
          after.allInputs.map Input.nextForDriver)) =
      some (some (some 1), [none, some 2, none]) := by decide +kernel
  obtain ⟨after, executed, values⟩ := Option.map_eq_some_iff.mp evaluated
  simp only [Prod.mk.injEq] at values
  obtain ⟨heads, links⟩ := values
  obtain ⟨entry, registered, head⟩ := Option.map_eq_some_iff.mp heads
  obtain ⟨_, events, _, _, partitioned, _⟩ :=
    driver_lists_partition (by simp [InputOp.IsUpdate]) executed
  refine ⟨after, events, executed, ?_, partitioned⟩
  have listed := partitioned.lists 1 entry registered
  have length : after.allInputs.length = 3 := by
    simpa using congrArg List.length links
  have next : ∀ position, link after.allInputs position =
      ([none, some 2, none] : List (Option Nat))[position]?.join := by
    intro position
    rw [← links, List.getElem?_map]
    unfold link
    cases after.allInputs[position]? <;> rfl
  rw [head, length] at listed
  simpa [walk?, next] using listed.symm

end InputService

end XBotFirmware.Inputs
