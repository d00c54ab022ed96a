import XBotFirmware.Inputs.Attributes

set_option autoImplicit false

/-!
The configuration callback accepts the documents of the grammar, and builds the
inputs that they describe.

The callback sees a flat stream of events with their depths.  For each level of
the grammar a lemma says what the events of one phrase do to the state, and that
all of them are accepted exactly when the phrase is valid.
-/

namespace XBotFirmware.Inputs

open XBotFirmware.Library XBotFirmware.Emergency XBotFirmware.Json

variable {externals : Externals}

variable {registry : Registry} {declared : Declarations} {state final : ConfigState}

/-- Accepted events take the declarations along. -/
theorem accepted_threaded {events : List Event}
    (threaded : state.Threaded externals registry declared) (invariant : state.Invariant)
    (accepted : Accepted (inputConfigsJsonCallback externals) events state final) :
    final.Threaded externals registry (events.foldl (Declarations.next registry) declared) ∧
      final.Invariant := by
  induction events generalizing state declared with
  | nil =>
      obtain rfl := accepted_nil.mp accepted
      exact ⟨threaded, invariant⟩
  | cons event rest inductionHypothesis =>
      obtain ⟨next, called, later⟩ := accepted_cons.mp accepted
      exact inductionHypothesis (inputConfigsJsonCallback_threaded threaded invariant called)
        (inputConfigsJsonCallback_invariant invariant called) later

theorem foldl_next_inside {events : List Event}
    (inside : ∀ event ∈ events, event.jsp.stackPos ≠ 1 ∧
      ¬(event.jsp.stackPos = 3 ∧ event.type = .object)) :
    (events.foldl (Declarations.next registry) declared).keys = declared.keys ∧
      (events.foldl (Declarations.next registry) declared).key = declared.key := by
  induction events generalizing declared with
  | nil => exact ⟨rfl, rfl⟩
  | cons event rest inductionHypothesis =>
      obtain ⟨⟨notKey, notInput⟩, later⟩ := List.forall_mem_cons.mp inside
      have added : declared.next registry event =
          declared.addLine (declared.lineGiven registry event) := by
        rw [Declarations.next, if_neg notKey, if_neg notInput]
      obtain ⟨keys, key⟩ := @inductionHypothesis (declared.next registry event) later
      rw [added] at keys key
      refine ⟨?_, ?_⟩
      · rw [List.foldl_cons, added, keys, Declarations.addLine_keys]
      · rw [List.foldl_cons, added, key]
        rfl

def kindOf (registry : Registry) (key : String) : DriverKind :=
  (registry.lookup key).getD .simulated

def buildInput (externals : Externals) (registry : Registry) (entry : (String × Value) × Nat) :
    Input :=
  match entry.1.2 with
  | .object attributes =>
      attributes.foldl (applyAttribute externals (kindOf registry entry.1.1))
        (Input.create (BitVec.ofNat 8 entry.2))
  | _ => Input.create (BitVec.ofNat 8 entry.2)

structure Built (externals : Externals) (registry : Registry) (declared : Declarations)
    (state : ConfigState) (entries : List (String × Value)) (declared' : Declarations)
    (final : ConfigState) : Prop where
  threaded : final.Threaded externals registry declared'
  invariant : final.Invariant
  keys : declared'.keys = declared.keys ++ entries.map Prod.fst
  inputs : unlinked final.service.allInputs = unlinked state.service.allInputs ++
    (entries.zipIdx declared.keys.length).map (buildInput externals registry)

theorem Built.trans {first second : List (String × Value)} {middle : ConfigState}
    {between after : Declarations}
    (left : Built externals registry declared state first between middle)
    (right : Built externals registry between middle second after final) :
    Built externals registry declared state (first ++ second) after final where
  threaded := right.threaded
  invariant := right.invariant
  keys := by rw [right.keys, left.keys, List.map_append, List.append_assoc]
  inputs := by
    rw [right.inputs, left.inputs, left.keys, List.zipIdx_append, List.map_append,
      List.append_assoc, List.length_append, List.length_map]

theorem Built.refl (threaded : state.Threaded externals registry declared)
    (invariant : state.Invariant) :
    Built externals registry declared state [] declared state where
  threaded := threaded
  invariant := invariant
  keys := by rw [List.map_nil, List.append_nil]
  inputs := by rw [List.zipIdx_nil, List.map_nil, List.append_nil]

structure Listing (registry : Registry) (declared : Declarations) (key : String)
    (kind : DriverKind) : Prop where
  current : declared.key = some key
  resolved : ∃ index, driverIndex registry key = some index ∧ registry[index]? = some (key, kind)
  kindOf : kindOf registry key = kind

section Inputs

variable {key : String} {kind : DriverKind} {names : Nat → String}

theorem Listing.begin (listing : Listing registry declared key kind)
    (threaded : state.Threaded externals registry declared) (invariant : state.Invariant)
    (room : declared.inputs.length < 30) :
    ∃ begun input, state.beginInput = some (begun, .accept) ∧
      begun.Editing (declared.inputs.length + 1) kind input ∧
      input.withLink none = Input.create (BitVec.ofNat 8 declared.inputs.length) ∧
      unlinked begun.service.allInputs =
        unlinked state.service.allInputs ++ [input.withLink none] ∧
      (unlinked state.service.allInputs).length = declared.inputs.length + 1 := by
  obtain ⟨index, resolved, kindAt⟩ := listing.resolved
  obtain ⟨begun, begins, created, current, after⟩ :=
    threaded.beginInput_eq invariant room listing.current resolved
  have length : (unlinked state.service.allInputs).length = declared.inputs.length + 1 := by
    rw [unlinked, List.length_map, threaded.service.length]
  have idx : state.data.nextIdx = BitVec.ofNat 8 declared.inputs.length := by
    have next := invariant.next
    rw [threaded.service.length] at next
    apply BitVec.eq_of_toNat_eq
    rw [BitVec.toNat_ofNat, Nat.mod_eq_of_lt (by omega)]
    omega
  have present : (unlinked begun.service.allInputs)[declared.inputs.length + 1]? =
      some (Input.create (BitVec.ofNat 8 declared.inputs.length)) := by
    rw [created, ← length, List.getElem?_concat_length, idx]
  rw [unlinked, List.getElem?_map] at present
  obtain ⟨input, found, bare⟩ := Option.map_eq_some_iff.mp present
  refine ⟨begun, input, begins, ⟨current, found, ?_⟩, bare, ?_, length⟩
  · have registered := kindAt
    rw [← after.service.registered, InputService.registry, List.getElem?_map] at registered
    obtain ⟨entry, registered, equal⟩ := Option.map_eq_some_iff.mp registered
    refine ⟨index, entry, ?_, registered, congrArg Prod.snd equal⟩
    rw [after.driver, Declarations.driver]
    exact (congrArg (·.bind (driverIndex registry)) listing.current).trans resolved
  · rw [created, bare, idx]

theorem containerEnd_input (state next : ConfigState) :
    inputConfigsJsonCallback externals (Value.containerEnd 3 names .objectEnd) state =
        some (next, .accept) ↔
      next = { state with data := { state.data with currentInput := none } } := by
  simp [inputConfigsJsonCallback, Value.containerEnd, jsonExpectTypeOrEnd, eq_comm]

/-- An input object with room is accepted exactly when its attributes are valid. -/
theorem Listing.object_accepted (listing : Listing registry declared key kind)
    (parses : externals.toArithmetic = uint16Decimal?)
    (threaded : state.Threaded externals registry declared) (invariant : state.Invariant)
    (room : declared.inputs.length < 30) (attributes : Members) :
    ((∃ final, Accepted (inputConfigsJsonCallback externals)
        (Value.events 3 names (.object attributes)) state final) ↔
      ∀ entry ∈ attributes, ValidAttribute externals kind entry) ∧
    ∀ final, Accepted (inputConfigsJsonCallback externals)
        (Value.events 3 names (.object attributes)) state final →
      unlinked final.service.allInputs = unlinked state.service.allInputs ++
        [buildInput externals registry ((key, .object attributes), declared.inputs.length)] := by
  obtain ⟨begun, input, begins, editing, bare, created, length⟩ :=
    listing.begin threaded invariant room
  have started : inputConfigsJsonCallback externals (Value.start 3 names (.object attributes))
      state = some (begun, .accept) := begins
  have shape : ∀ final, Accepted (inputConfigsJsonCallback externals)
      (Value.events 3 names (.object attributes)) state final ↔
      ∃ middle, ((∀ entry ∈ attributes, ValidAttribute externals kind entry) ∧
        middle = begun.put (declared.inputs.length + 1)
          (attributes.foldl (applyAttribute externals kind) input)) ∧
        final = { middle with data := { middle.data with currentInput := none } } := by
    intro final
    rw [Value.events_eq, accepted_cons, started]
    simp only [Option.some.injEq, Prod.mk.injEq, and_true, exists_eq_left', Value.laterEvents,
      accepted_append, accepted_cons, accepted_nil, attributes_accepted parses editing,
      containerEnd_input, exists_eq_left]
  constructor
  · constructor
    · rintro ⟨final, accepted⟩
      obtain ⟨_, ⟨valid, _⟩, _⟩ := (shape final).mp accepted
      exact valid
    · intro valid
      exact ⟨_, (shape _).mpr ⟨_, ⟨valid, rfl⟩, rfl⟩⟩
  · intro final accepted
    obtain ⟨middle, ⟨_, rfl⟩, rfl⟩ := (shape final).mp accepted
    have folded : (attributes.foldl (applyAttribute externals kind) input).withLink none =
        attributes.foldl (applyAttribute externals kind) (input.withLink none) :=
      (List.foldl_hom _ fun input entry => applyAttribute_withLink none input entry).symm
    show unlinked (begun.service.allInputs.set _ _) = _
    rw [unlinked, List.map_set, ← unlinked, created, folded, ← length,
      List.set_append_right _ _ (Nat.le_refl _), Nat.sub_self, List.set_cons_zero, bare]
    simp only [buildInput, listing.kindOf]

theorem foldl_next_object (current : declared.key = some key) (room : declared.inputs.length < 30)
    (attributes : Members) :
    ((Value.events 3 names (.object attributes)).foldl (Declarations.next registry) declared).keys =
        declared.keys ++ [key] ∧
      ((Value.events 3 names (.object attributes)).foldl (Declarations.next registry)
        declared).key = some key := by
  have started : declared.next registry (Value.start 3 names (.object attributes)) =
      declared.declare key := by
    have notKey : (Value.start 3 names (.object attributes)).jsp.stackPos ≠ 1 :=
      (by decide : (3 : Nat) ≠ 1)
    rw [Declarations.next, if_neg notKey, if_pos ⟨rfl, rfl⟩, if_pos room, current]
    rfl
  have inside : ∀ event ∈ Value.laterEvents 3 names (.object attributes),
      event.jsp.stackPos ≠ 1 ∧ ¬(event.jsp.stackPos = 3 ∧ event.type = .object) := by
    intro event membership
    rcases List.mem_append.mp membership with deep | last
    · have below := Value.lt_stackPos_of_mem_memberEvents 3 names attributes event deep
      omega
    · obtain rfl := List.mem_singleton.mp last
      exact ⟨(by decide : (3 : Nat) ≠ 1), fun both => by cases both.2⟩
  rw [Value.events_eq, List.foldl_cons, started]
  obtain ⟨keys, kept⟩ := @foldl_next_inside registry (declared.declare key) _ inside
  refine ⟨?_, kept.trans current⟩
  rw [keys, Declarations.declare, Declarations.keys, List.map_append]
  rfl

end Inputs

/-- Events that list some inputs: all are accepted exactly when they are valid and the
inputs fit, and then they build these inputs. -/
structure Lists (externals : Externals) (registry : Registry) (declared : Declarations)
    (state : ConfigState) (events : List Event) (entries : List (String × Value)) (valid : Prop)
    (after : Declarations → Prop) : Prop where
  accepted_iff : (∃ final, Accepted (inputConfigsJsonCallback externals) events state final) ↔
    valid ∧ declared.keys.length + entries.length ≤ 30
  built : ∀ final, Accepted (inputConfigsJsonCallback externals) events state final →
    ∃ declared', after declared' ∧ Built externals registry declared state entries declared' final

section Lists

variable {first second : List Event} {entries others : List (String × Value)} {valid valid' : Prop}
  {after after' : Declarations → Prop}

theorem ConfigState.Threaded.keys_length_le
    (threaded : state.Threaded externals registry declared) (invariant : state.Invariant) :
    declared.keys.length ≤ 30 := by
  have bound := invariant.wellFormed.length
  have length := threaded.service.length
  rw [Declarations.keys, List.length_map]
  omega

theorem Lists.nil (threaded : state.Threaded externals registry declared)
    (invariant : state.Invariant) (holds : after declared) :
    Lists externals registry declared state [] [] True after where
  accepted_iff := by
    have bound := threaded.keys_length_le invariant
    simp [bound]
  built := by
    intro final accepted
    obtain rfl := accepted_nil.mp accepted
    exact ⟨declared, holds, Built.refl threaded invariant⟩

theorem Lists.append (left : Lists externals registry declared state first entries valid after)
    (right : ∀ declared' middle, after declared' →
      Built externals registry declared state entries declared' middle →
      Lists externals registry declared' middle second others valid' after') :
    Lists externals registry declared state (first ++ second) (entries ++ others) (valid ∧ valid')
      after' where
  accepted_iff := by
    rw [List.length_append]
    constructor
    · rintro ⟨final, accepted⟩
      obtain ⟨middle, before, later⟩ := accepted_append.mp accepted
      obtain ⟨declared', holds, built⟩ := left.built middle before
      have validLeft := (left.accepted_iff.mp ⟨middle, before⟩).1
      obtain ⟨validRight, fits⟩ :=
        (right declared' middle holds built).accepted_iff.mp ⟨final, later⟩
      rw [built.keys, List.length_append, List.length_map] at fits
      exact ⟨⟨validLeft, validRight⟩, by omega⟩
    · rintro ⟨⟨validLeft, validRight⟩, fits⟩
      obtain ⟨middle, before⟩ := left.accepted_iff.mpr ⟨validLeft, by omega⟩
      obtain ⟨declared', holds, built⟩ := left.built middle before
      have fitsLater : declared'.keys.length + others.length ≤ 30 := by
        rw [built.keys, List.length_append, List.length_map]
        omega
      obtain ⟨final, later⟩ :=
        (right declared' middle holds built).accepted_iff.mpr ⟨validRight, fitsLater⟩
      exact ⟨final, accepted_append.mpr ⟨middle, before, later⟩⟩
  built := by
    intro final accepted
    obtain ⟨middle, before, later⟩ := accepted_append.mp accepted
    obtain ⟨declared', holds, built⟩ := left.built middle before
    obtain ⟨declared'', holds', built'⟩ := (right declared' middle holds built).built final later
    exact ⟨declared'', holds', built.trans built'⟩

theorem Lists.rejected {events : List Event} (invalid : ¬valid)
    (rejected : ∀ final, ¬Accepted (inputConfigsJsonCallback externals) events state final) :
    Lists externals registry declared state events entries valid after where
  accepted_iff :=
    ⟨fun accepted => absurd accepted.choose_spec (rejected _), fun both => absurd both.1 invalid⟩
  built := fun final accepted => absurd accepted (rejected final)

end Lists

section Elements

variable {key : String} {kind : DriverKind} {names : Nat → String}

theorem not_accepted_element {element : Value} (other : element.startType ≠ .object)
    (final : ConfigState) :
    ¬Accepted (inputConfigsJsonCallback externals) (element.events 3 names) state final := by
  rw [Value.events_eq, accepted_cons]
  rintro ⟨next, called, _⟩
  cases element with
  | object attributes => exact other rfl
  | bool value => cases value <;> cases called
  | _ => cases called

theorem Listing.element (listing : Listing registry declared key kind)
    (parses : externals.toArithmetic = uint16Decimal?)
    (threaded : state.Threaded externals registry declared) (invariant : state.Invariant)
    (element : Value) :
    Lists externals registry declared state (element.events 3 names) [(key, element)]
      (ValidInput externals kind element) fun declared' => declared'.key = some key := by
  by_cases isObject : element.startType = .object
  · obtain ⟨attributes, rfl⟩ : ∃ attributes, element = .object attributes := by
      cases element with
      | object attributes => exact ⟨attributes, rfl⟩
      | bool value => cases value <;> cases isObject
      | _ => cases isObject
    have validIff : ValidInput externals kind (.object attributes) ↔
        ∀ entry ∈ attributes, ValidAttribute externals kind entry :=
      ⟨fun | .object valid => valid, .object⟩
    have keysLength : declared.keys.length = declared.inputs.length := List.length_map ..
    by_cases room : declared.inputs.length < 30
    · obtain ⟨acceptedIff, built⟩ :=
        @Listing.object_accepted _ _ _ _ _ _ names listing parses threaded invariant room attributes
      constructor
      · rw [acceptedIff, validIff, keysLength, List.length_singleton]
        exact ⟨fun valid => ⟨valid, room⟩, And.left⟩
      · intro final accepted
        obtain ⟨keys, current⟩ :=
          @foldl_next_object registry _ _ names listing.current room attributes
        obtain ⟨threaded', invariant'⟩ := accepted_threaded threaded invariant accepted
        refine ⟨_, current, threaded', invariant', keys, ?_⟩
        rw [built final accepted, keysLength]
        rfl
    · have full : state.service.allInputs.length = 31 := by
        have bound := threaded.keys_length_le invariant
        rw [threaded.service.length]
        omega
      have rejected : ∀ final, ¬Accepted (inputConfigsJsonCallback externals)
          (Value.events 3 names (.object attributes)) state final := by
        intro final accepted
        rw [Value.events_eq, accepted_cons] at accepted
        obtain ⟨next, called, _⟩ := accepted
        have begins : state.beginInput = some (next, .accept) := called
        rw [ConfigState.beginInput, if_pos full] at begins
        cases begins
      constructor
      · rw [List.length_singleton, keysLength]
        constructor
        · rintro ⟨final, accepted⟩
          exact absurd accepted (rejected final)
        · rintro ⟨_, fits⟩
          omega
      · intro final accepted
        exact absurd accepted (rejected final)
  · apply Lists.rejected
    · rintro ⟨valid⟩
      exact isObject rfl
    · exact not_accepted_element isObject

theorem Listing.elements (parses : externals.toArithmetic = uint16Decimal?) {elements : List Value}
    (listing : Listing registry declared key kind)
    (threaded : state.Threaded externals registry declared) (invariant : state.Invariant) :
    Lists externals registry declared state (Value.elementEvents 2 names elements)
      (elements.map fun element => (key, element))
      (∀ element ∈ elements, ValidInput externals kind element)
      fun declared' => declared'.key = some key := by
  induction elements generalizing state declared with
  | nil =>
      have nothing := @Lists.nil _ _ _ _ (fun declared' => declared'.key = some key) threaded
        invariant listing.current
      simpa only [Value.elementEvents, List.map_nil, List.not_mem_nil, false_implies,
        implies_true] using nothing
  | cons element rest inductionHypothesis =>
      rw [Value.elementEvents, List.map_cons, List.forall_mem_cons]
      apply (listing.element parses threaded invariant element).append
      intro declared' middle current built
      exact inductionHypothesis ⟨current, listing.resolved, listing.kindOf⟩ built.threaded
        built.invariant

end Elements

section Drivers

variable {key : String} {kind : DriverKind} {names : Nat → String}

namespace Registry.WellKeyed

theorem driverIndex_eq (wellKeyed : registry.WellKeyed) (registered : (key, kind) ∈ registry) :
    ∃ index, driverIndex registry key = some index ∧ registry[index]? = some (key, kind) := by
  obtain ⟨index, inside, found⟩ := List.getElem_of_mem registered
  refine ⟨index, ?_, List.getElem?_eq_some_iff.mpr ⟨inside, found⟩⟩
  rw [driverIndex, if_pos (wellKeyed.short _ registered), List.findIdx?_eq_some_iff_getElem]
  refine ⟨inside, by rw [found]; exact decide_eq_true rfl, ?_⟩
  intro other earlier
  have different := List.pairwise_iff_getElem.mp wellKeyed.distinct other index
    (by rw [List.length_map]; omega) (by rw [List.length_map]; exact inside) earlier
  rw [List.getElem_map, List.getElem_map, found] at different
  simpa using different

theorem kindOf_eq (wellKeyed : registry.WellKeyed) (registered : (key, kind) ∈ registry) :
    kindOf registry key = kind := by
  have found : registry.lookup key = some kind := by
    obtain ⟨before, after, rfl⟩ := List.append_of_mem registered
    refine List.lookup_eq_some_iff.mpr ⟨before, after, rfl, ?_⟩
    intro entry earlier
    have distinct := wellKeyed.distinct
    rw [List.map_append, List.nodup_append] at distinct
    apply bne_iff_ne.mpr
    exact (distinct.2.2 _ (List.mem_map_of_mem earlier) key (List.mem_cons_self ..)).symm
  rw [kindOf, found, Option.getD_some]

theorem registered {index : Nat} (resolved : driverIndex registry key = some index) :
    ∃ kind, (key, kind) ∈ registry := by
  unfold driverIndex at resolved
  split at resolved
  next =>
    obtain ⟨inside, same, _⟩ := List.findIdx?_eq_some_iff_getElem.mp resolved
    have keyed : registry[index].1 = key := of_decide_eq_true same
    refine ⟨registry[index].2, ?_⟩
    rw [← keyed]
    exact List.getElem_mem inside
  next => cases resolved

end Registry.WellKeyed

theorem not_accepted_driver {value : Value} (other : value.startType ≠ .array)
    (final : ConfigState) :
    ¬Accepted (inputConfigsJsonCallback externals) (value.events 2 names) state final := by
  rw [Value.events_eq, accepted_cons]
  rintro ⟨next, called, _⟩
  cases value with
  | array elements => exact other rfl
  | bool value => cases value <;> cases called
  | _ => cases called

theorem accepted_array {elements : List Value} :
    Accepted (inputConfigsJsonCallback externals) (Value.events 2 names (.array elements)) state
        final ↔
      Accepted (inputConfigsJsonCallback externals) (Value.elementEvents 2 names elements) state
        final := by
  have started : ∀ next, inputConfigsJsonCallback externals
      (Value.start 2 names (.array elements)) state = some (next, .accept) ↔ next = state := by
    intro next
    simp [inputConfigsJsonCallback, Value.start, Value.startType, jsonExpectTypeOrEnd,
      Reply.ofExcept, eq_comm]
  have ended : ∀ after next, inputConfigsJsonCallback externals
      (Value.containerEnd 2 names .arrayEnd) after = some (next, .accept) ↔ next = after := by
    intro after next
    simp [inputConfigsJsonCallback, Value.containerEnd, jsonExpectTypeOrEnd, Reply.ofExcept,
      eq_comm]
  simp only [Value.events_eq, accepted_cons, started, exists_eq_left, Value.laterEvents,
    accepted_append, ended, accepted_nil, exists_eq_right']

theorem driver_lists (parses : externals.toArithmetic = uint16Decimal?)
    (wellKeyed : registry.WellKeyed) (threaded : state.Threaded externals registry declared)
    (invariant : state.Invariant) (key : String) (value : Value) :
    Lists externals registry declared state
      (Value.keyEvent 1 (Value.named names 1 key) key :: value.events 2 (Value.named names 1 key))
      (listed [(key, value)]) (ValidDriver externals registry (key, value)) fun _ => True := by
  let keyed := Value.keyEvent 1 (Value.named names 1 key) key
  have called : inputConfigsJsonCallback externals keyed state =
      some (state.selectDriver key) := rfl
  rw [ConfigState.selectDriver_eq, threaded.service.registered] at called
  cases resolved : driverIndex registry key with
  | none =>
      rw [resolved] at called
      apply Lists.rejected
      · rintro ⟨registered, _⟩
        obtain ⟨index, selected, _⟩ := wellKeyed.driverIndex_eq registered
        rw [resolved] at selected
        cases selected
      · intro final accepted
        obtain ⟨next, accept, _⟩ := accepted_cons.mp accepted
        rw [called] at accept
        cases accept
  | some index =>
      rw [resolved] at called
      let selected : ConfigState := { state with data := { state.data with driver := some index } }
      have threaded' : selected.Threaded externals registry { declared with key := some key } := by
        have after := threaded.selectDriver key
        rw [ConfigState.selectDriver_eq, threaded.service.registered, resolved] at after
        exact after
      have invariant' : selected.Invariant := inputConfigsJsonCallback_invariant invariant called
      obtain ⟨kind, registered⟩ := Registry.WellKeyed.registered resolved
      have listing : Listing registry { declared with key := some key } key kind :=
        ⟨rfl, wellKeyed.driverIndex_eq registered, wellKeyed.kindOf_eq registered⟩
      have unfolded : ∀ final, Accepted (inputConfigsJsonCallback externals)
          (keyed :: value.events 2 (Value.named names 1 key)) state final ↔
          Accepted (inputConfigsJsonCallback externals)
            (value.events 2 (Value.named names 1 key)) selected final := by
        intro final
        rw [accepted_cons, called]
        simp [selected]
      by_cases isArray : value.startType = .array
      · obtain ⟨elements, rfl⟩ : ∃ elements, value = .array elements := by
          cases value with
          | array elements => exact ⟨elements, rfl⟩
          | bool value => cases value <;> cases isArray
          | _ => cases isArray
        have lists := @Listing.elements externals registry _ selected key kind
          (Value.named names 1 key) parses elements listing threaded' invariant'
        have validIff : ValidDriver externals registry (key, .array elements) ↔
            ∀ element ∈ elements, ValidInput externals kind element := by
          constructor
          · rintro ⟨again, valid⟩
            rwa [← (wellKeyed.kindOf_eq again), wellKeyed.kindOf_eq registered] at valid
          · exact .inputs registered
        have entries : listed [(key, .array elements)] =
            elements.map fun element => (key, element) := by
          simp [listed]
        constructor
        · rw [validIff, entries]
          simp only [keyed, unfolded, accepted_array]
          exact lists.accepted_iff
        · intro final accepted
          obtain ⟨declared', _, built⟩ :=
            lists.built final (accepted_array.mp ((unfolded final).mp accepted))
          rw [entries]
          exact ⟨declared', trivial, built.threaded, built.invariant, built.keys, built.inputs⟩
      · apply Lists.rejected
        · rintro ⟨_, _⟩
          exact isArray rfl
        · intro final accepted
          exact not_accepted_driver isArray final ((unfolded final).mp accepted)

theorem drivers_lists (parses : externals.toArithmetic = uint16Decimal?)
    (wellKeyed : registry.WellKeyed) (threaded : state.Threaded externals registry declared)
    (invariant : state.Invariant) (members : Members) :
    Lists externals registry declared state (Value.memberEvents 0 names members) (listed members)
      (∀ member ∈ members, ValidDriver externals registry member) fun _ => True := by
  induction members generalizing state declared with
  | nil =>
      have nothing := @Lists.nil _ _ _ _ (fun _ => True) threaded invariant trivial
      simpa only [Value.memberEvents, listed, List.flatMap_nil, List.not_mem_nil, false_implies,
        implies_true] using nothing
  | cons member rest inductionHypothesis =>
      rcases member with ⟨key, value⟩
      have entries : listed ((key, value) :: rest) = listed [(key, value)] ++ listed rest := by
        simp [listed]
      rw [Value.memberEvents, entries, List.forall_mem_cons, ← List.cons_append]
      apply (driver_lists parses wellKeyed threaded invariant key value).append
      intro declared' middle _ built
      exact inductionHypothesis built.threaded built.invariant

end Drivers

theorem not_accepted_root {document : Value} {names : Nat → String}
    (other : document.startType ≠ .object) (final : ConfigState) :
    ¬Accepted (inputConfigsJsonCallback externals) (document.events 0 names) state final := by
  rw [Value.events_eq, accepted_cons]
  rintro ⟨next, called, _⟩
  cases document with
  | object members => exact other rfl
  | bool value => cases value <;> cases called
  | _ => cases called

theorem accepted_root {members : Members} {names : Nat → String} :
    Accepted (inputConfigsJsonCallback externals) (Value.events 0 names (.object members)) state
        final ↔
      Accepted (inputConfigsJsonCallback externals) (Value.memberEvents 0 names members) state
        final := by
  have started : ∀ next, inputConfigsJsonCallback externals
      (Value.start 0 names (.object members)) state = some (next, .accept) ↔ next = state := by
    intro next
    simp [inputConfigsJsonCallback, Value.start, Value.startType, jsonExpectTypeOrEnd,
      Reply.ofExcept, eq_comm]
  have ended : ∀ after next, inputConfigsJsonCallback externals
      (Value.containerEnd 0 names .objectEnd) after = some (next, .accept) ↔ next = after := by
    intro after next
    simp [inputConfigsJsonCallback, Value.containerEnd, jsonExpectTypeOrEnd, Reply.ofExcept,
      eq_comm]
  simp only [Value.events_eq, accepted_cons, started, exists_eq_left, Value.laterEvents,
    accepted_append, ended, accepted_nil, exists_eq_right']

def denoteEntry (externals : Externals) (registry : Registry) (entry : (String × Value) × Nat) :
    Input :=
  match entry.1.2 with
  | .object attributes =>
      denoteInput externals (kindOf registry entry.1.1) (BitVec.ofNat 8 entry.2) attributes
  | _ => Input.create (BitVec.ofNat 8 entry.2)

/-- The service holds the virtual input and the inputs of the document in order, and
each driver lists its own. -/
structure InputService.Describes (externals : Externals) (members : Members)
    (service : InputService) : Prop where
  inputs : unlinked service.allInputs =
    liftMultiple :: (listed members).zipIdx.map (denoteEntry externals service.registry)
  lists : ∀ index entry, service.drivers[index]? = some entry →
    walk? (link service.allInputs) service.allInputs.length entry.2.inputsHead =
      some (Declarations.positions service.registry ((listed members).map Prod.fst) index)

namespace InputService

variable {names : Nat → String}

theorem document_lists (service : InputService) (parses : externals.toArithmetic = uint16Decimal?)
    (wellKeyed : service.registry.WellKeyed) (members : Members) :
    Lists externals service.registry .initial service.configStart
      (Value.memberEvents 0 names members) (listed members)
      (∀ member ∈ members, ValidDriver externals service.registry member) fun _ => True :=
  drivers_lists parses wellKeyed (resetInputs_threaded service) (resetInputs_invariant service)
    members

/-- Built inputs are the described ones. -/
theorem buildInput_eq_denoteEntry {entry : (String × Value) × Nat}
    (valid : ValidInput externals (kindOf registry entry.1.1) entry.1.2)
    (distinct : DistinctInput entry.1.2) :
    buildInput externals registry entry = denoteEntry externals registry entry := by
  rcases entry with ⟨⟨key, element⟩, place⟩
  cases valid with
  | object valid => exact foldl_applyAttribute valid distinct _

theorem validInput_of_listed (wellKeyed : registry.WellKeyed) {members : Members}
    (valid : ∀ member ∈ members, ValidDriver externals registry member)
    {entry : String × Value} (membership : entry ∈ listed members) :
    ValidInput externals (kindOf registry entry.1) entry.2 := by
  obtain ⟨⟨key, value⟩, member, inside⟩ := List.mem_flatMap.mp membership
  cases valid _ member with
  | inputs registered validElements =>
      obtain ⟨element, present, rfl⟩ := List.mem_map.mp inside
      rw [wellKeyed.kindOf_eq registered]
      exact validElements element present

/-- Every callback accepts its event exactly when the document is valid, and then the
service holds the inputs that the document describes. -/
theorem configuration_follows_grammar (service : InputService) (names : Nat → String)
    {document : Value} (parses : externals.toArithmetic = uint16Decimal?)
    (wellKeyed : service.registry.WellKeyed) (distinct : DistinctDocument document) :
    ((∃ final, Accepted (inputConfigsJsonCallback externals) (document.events 0 names)
        service.configStart final) ↔ ValidDocument externals service.registry document) ∧
    ∀ final, Accepted (inputConfigsJsonCallback externals) (document.events 0 names)
        service.configStart final →
      final.service.registry = service.registry ∧
        ∃ members, document = .object members ∧ final.service.Describes externals members := by
  by_cases isObject : document.startType = .object
  · obtain ⟨members, rfl⟩ : ∃ members, document = .object members := by
      cases document with
      | object members => exact ⟨members, rfl⟩
      | bool value => cases value <;> cases isObject
      | _ => cases isObject
    have lists := @document_lists externals names service parses wellKeyed members
    have fits : Declarations.initial.keys.length + (listed members).length =
        (listed members).length := Nat.zero_add _
    constructor
    · simp only [accepted_root, lists.accepted_iff, fits]
      exact ⟨fun both => .object both.1 both.2, fun | .object valid room => ⟨valid, room⟩⟩
    · intro final accepted
      have accepted' := accepted_root.mp accepted
      obtain ⟨declared, _, built⟩ := lists.built final accepted'
      have valid := (lists.accepted_iff.mp ⟨final, accepted'⟩).1
      have registered := built.threaded.service.registered
      refine ⟨registered, members, rfl, ?_, ?_⟩
      · rw [built.inputs, registered]
        apply congrArg (List.cons liftMultiple)
        apply List.map_congr_left
        intro entry membership
        have inside : entry.1 ∈ listed members := List.fst_mem_of_mem_zipIdx membership
        exact buildInput_eq_denoteEntry (validInput_of_listed wellKeyed valid inside)
          (distinct entry.1 inside)
      · have partitioned := built.threaded.service.partitioned built.invariant.wellFormed
        have keys : declared.keys = (listed members).map Prod.fst := built.keys
        rw [← keys]
        exact partitioned.lists
  · constructor
    · constructor
      · rintro ⟨final, accepted⟩
        exact absurd accepted (not_accepted_root isObject final)
      · rintro ⟨_, _⟩
        exact absurd rfl isObject
    · intro final accepted
      exact absurd accepted (not_accepted_root isObject final)

/-- A lift input on a GPIO line, a simulated input, and the "gpio" key once more. -/
def mowerMembers : Members :=
  [("gpio", .array [.object [("line", .string "GPIO1"), ("active", .string "low"),
      ("emergency", .object [("latch", .bool false), ("delay", .number "100"),
        ("reason", .string "lift")])]]),
    ("simulated", .array [.object []]),
    ("gpio", .array [.object [("line", .string "GPIO2"), ("invert", .bool true)]])]

def mowerExternals : Externals :=
  ⟨fun name => if name = "GPIO1" then 5 else if name = "GPIO2" then 6 else palNoline,
    uint16Decimal?⟩

theorem validDocument_mower :
    ValidDocument mowerExternals twoLiftInitial.registry (.object mowerMembers) := by
  have delay : uint16Decimal? "100" = some 100 := by decide +kernel
  constructor
  · simp only [mowerMembers, List.forall_mem_cons, List.not_mem_nil, false_implies, implies_true,
      and_true]
    refine ⟨@ValidDriver.inputs _ _ _ .gpio _ (by decide) ?_,
      @ValidDriver.inputs _ _ _ .simulated _ (by decide) ?_,
      @ValidDriver.inputs _ _ _ .gpio _ (by decide) ?_⟩
    all_goals
      simp only [List.forall_mem_cons, List.not_mem_nil, false_implies, implies_true, and_true]
      constructor
      simp only [List.forall_mem_cons, List.not_mem_nil, false_implies, implies_true, and_true]
    · refine ⟨.line (by decide), .active (.inr rfl), .emergency ?_⟩
      simp only [List.forall_mem_cons, List.not_mem_nil, false_implies, implies_true, and_true]
      exact ⟨.latch, .delay delay, .reason (rfl : namedReason? "lift" = some .lift)⟩
    · exact ⟨.line (by decide), .invert⟩
  · decide

theorem configuration_follows_grammar_mower :
    ∃ final, Accepted (inputConfigsJsonCallback mowerExternals)
        (Value.events 0 (fun _ => "") (.object mowerMembers)) twoLiftInitial.configStart final ∧
      unlinked final.service.allInputs =
        [liftMultiple,
          { Input.create 0 with
            invert := true
            emergencyReason := EmergencyReason.lift.mask
            emergencyDelayMs := 100
            gpioLine := some 5 },
          Input.create 1,
          { Input.create 2 with
            invert := true
            gpioLine := some 6 }] := by
  have distinct : DistinctDocument (.object mowerMembers) := by
    simp [DistinctDocument, DistinctInput, DistinctKeys, mowerMembers, listed]
  have wellKeyed : twoLiftInitial.registry.WellKeyed := ⟨by decide, by decide⟩
  obtain ⟨acceptedIff, describes⟩ := @configuration_follows_grammar mowerExternals twoLiftInitial
    (fun _ => "") _ rfl wellKeyed distinct
  obtain ⟨final, accepted⟩ := acceptedIff.mpr validDocument_mower
  obtain ⟨registered, members, same, described⟩ := describes final accepted
  cases same
  refine ⟨final, accepted, ?_⟩
  rw [described.inputs, registered]
  decide +kernel

end InputService

end XBotFirmware.Inputs
