import XBotFirmware.Inputs.DriverLists
import XBotFirmware.Inputs.Grammar

set_option autoImplicit false

/-!
The events of one input object.

The parser is inside the object of an input.  The events of an attribute are all
accepted exactly when the attribute is valid, and then they change the input as
`applyAttribute` says.
-/

namespace XBotFirmware.Inputs

open XBotFirmware.Library XBotFirmware.Emergency XBotFirmware.Json

variable {externals : Externals}

namespace ConfigState

def put (state : ConfigState) (position : Nat) (input : Input) : ConfigState :=
  { state with service := state.service.setInput position input }

structure Editing (state : ConfigState) (position : Nat) (kind : DriverKind) (input : Input) :
    Prop where
  current : state.data.currentInput = some position
  found : state.service.allInputs[position]? = some input
  selected : ∃ index entry, state.data.driver = some index ∧
    state.service.drivers[index]? = some entry ∧ entry.2.kind = kind

variable {state : ConfigState} {position : Nat} {kind : DriverKind} {input : Input}

theorem Editing.put_self (editing : state.Editing position kind input) :
    state.put position input = state := by
  obtain ⟨inside, value⟩ := List.getElem?_eq_some_iff.mp editing.found
  have same : state.service.allInputs.set position input = state.service.allInputs := by
    rw [← value, List.set_getElem_self]
  unfold put InputService.setInput
  rw [same]

theorem put_put (state : ConfigState) (position : Nat) (first second : Input) :
    (state.put position first).put position second = state.put position second := by
  simp only [put, InputService.setInput, List.set_set]

theorem Editing.put (editing : state.Editing position kind input) (other : Input) :
    (state.put position other).Editing position kind other := by
  refine ⟨editing.current, ?_, editing.selected⟩
  exact List.getElem?_set_self (List.getElem?_eq_some_iff.mp editing.found).choose

theorem Editing.edit (editing : state.Editing position kind input) (edit : Edit) :
    state.edit edit = some (state.put position (edit.change.getD id input), edit.reply) := by
  unfold ConfigState.edit
  cases edit.change with
  | none =>
      simp only [Option.getD_none, id]
      rw [editing.put_self]
  | some change => simp only [editing.current, editing.found, Option.getD_some, ConfigState.put]

theorem Editing.edit_eq_accept {final : ConfigState}
    (editing : state.Editing position kind input) (edit : Edit) :
    state.edit edit = some (final, .accept) ↔
      edit.reply = .accept ∧ final = state.put position (edit.change.getD id input) := by
  rw [editing.edit, Option.some.injEq, Prod.mk.injEq]
  exact ⟨fun both => ⟨both.2, both.1.symm⟩, fun both => ⟨both.2.symm, both.1⟩⟩

end ConfigState

section Members

variable {state final : ConfigState} {position : Nat} {kind : DriverKind} {input : Input}
  {names : Nat → String}

/-- Members whose keys change nothing and whose values each edit the current input. -/
theorem members_accepted {depth : Nat} {valid : String × Value → Prop}
    {effect : Input → String × Value → Input}
    (keyed : ∀ key state next, inputConfigsJsonCallback externals
      (Value.keyEvent (depth + 1) (Value.named names (depth + 1) key) key) state =
        some (next, .accept) ↔ next = state)
    (valued : ∀ state input key value next, state.Editing position kind input →
      (Accepted (inputConfigsJsonCallback externals)
          (value.events (depth + 2) (Value.named names (depth + 1) key)) state next ↔
        valid (key, value) ∧ next = state.put position (effect input (key, value))))
    (editing : state.Editing position kind input) {members : Members} :
    Accepted (inputConfigsJsonCallback externals) (Value.memberEvents depth names members) state
        final ↔
      (∀ member ∈ members, valid member) ∧
        final = state.put position (members.foldl effect input) := by
  induction members generalizing state input with
  | nil => simp [Value.memberEvents, editing.put_self]
  | cons member rest inductionHypothesis =>
      rcases member with ⟨key, value⟩
      simp only [Value.memberEvents, accepted_cons, keyed, exists_eq_left, accepted_append,
        valued state input key value _ editing]
      constructor
      · rintro ⟨middle, ⟨validFirst, rfl⟩, later⟩
        rw [inductionHypothesis (editing.put _), ConfigState.put_put] at later
        exact ⟨List.forall_mem_cons.mpr ⟨validFirst, later.1⟩, later.2⟩
      · rintro ⟨allValid, rfl⟩
        obtain ⟨validFirst, validRest⟩ := List.forall_mem_cons.mp allValid
        refine ⟨_, ⟨validFirst, rfl⟩, ?_⟩
        rw [inductionHypothesis (editing.put _), ConfigState.put_put]
        exact ⟨validRest, rfl⟩

end Members

section Emergency

variable {state final : ConfigState} {position : Nat} {kind : DriverKind} {input : Input}
  {names : Nat → String} {key : String}

def emergencyEdit (externals : Externals) (names : Nat → String) (value : Value) : Edit :=
  emergencyConfigValue externals (Value.start 7 names value).jsp (Value.start 7 names value).type

theorem emergencyEdit_of_valid (parses : externals.toArithmetic = uint16Decimal?)
    (input : Input) {value : Value} (parent : names 4 = "emergency") (named : names 6 = key)
    (valid : ValidEmergency (key, value)) :
    (emergencyEdit externals names value).reply = .accept ∧
      (emergencyEdit externals names value).change.getD id input =
        applyEmergency input (key, value) := by
  unfold emergencyEdit emergencyConfigValue Value.start
  cases valid with
  | @reason text reason known =>
      unfold namedReason? at known
      simp only [parent, named, and_self, if_true, Value.startType, jsonExpectType, Value.str,
        applyEmergency, namedReason?]
      split at known
      next stop => simp [stop, Edit.assign]
      next notStop =>
        split at known
        next lift => simp [lift, Edit.assign]
        next notLift =>
          split at known
          next collision => simp [collision, Edit.assign]
          next => cases known
  | @delay text delay parsed =>
      simp [parent, named, Value.startType, jsonGetNumber, jsonExpectType, Value.prim, parses,
        parsed, Edit.assign, applyEmergency]
  | @latch value =>
      cases value <;>
        simp [parent, named, Value.startType, Edit.assign, Edit.keep, applyEmergency]

theorem valid_of_emergencyEdit (parses : externals.toArithmetic = uint16Decimal?)
    {value : Value} (parent : names 4 = "emergency") (named : names 6 = key)
    (accepted : (emergencyEdit externals names value).reply = .accept) :
    ValidEmergency (key, value) := by
  unfold emergencyEdit emergencyConfigValue Value.start at accepted
  simp only [parent, named, true_and] at accepted
  split at accepted
  next isReason =>
    subst isReason
    cases value with
    | string text =>
        simp only [Value.startType, jsonExpectType, if_true, Value.str] at accepted
        cases known : namedReason? text with
        | some reason => exact .reason known
        | none =>
            unfold namedReason? at known
            by_cases stop : text = "stop"
            · simp [stop] at known
            · by_cases lift : text = "lift"
              · simp [lift] at known
              · by_cases collision : text = "collision"
                · simp [collision] at known
                · simp [stop, lift, collision, Edit.reject] at accepted
    | bool value => cases value <;> cases accepted
    | _ => cases accepted
  next =>
    split at accepted
    next isDelay =>
      subst isDelay
      cases value with
      | number text =>
          simp only [Value.startType, jsonGetNumber, jsonExpectType, if_true, Value.prim,
            parses] at accepted
          cases parsed : uint16Decimal? text with
          | none => simp [parsed, Edit.reject] at accepted
          | some delay => exact .delay parsed
      | bool value => cases value <;> cases accepted
      | _ => cases accepted
    next =>
      split at accepted
      next isLatch =>
        subst isLatch
        cases value with
        | bool value => exact .latch
        | _ => cases accepted
      next => cases accepted

theorem laterEvents_of_validEmergency {value : Value} (valid : ValidEmergency (key, value))
    (depth : Nat) : value.laterEvents depth names = [] := by
  cases valid <;> rfl

theorem emergencyMember_accepted (parses : externals.toArithmetic = uint16Decimal?)
    (editing : state.Editing position kind input) {value : Value}
    (parent : names 4 = "emergency") (named : names 6 = key) :
    Accepted (inputConfigsJsonCallback externals) (value.events 7 names) state final ↔
      ValidEmergency (key, value) ∧
        final = state.put position (applyEmergency input (key, value)) := by
  rw [Value.events_eq, accepted_cons]
  have called : inputConfigsJsonCallback externals (Value.start 7 names value) state =
      state.edit (emergencyEdit externals names value) := rfl
  simp only [called, editing.edit_eq_accept]
  constructor
  · rintro ⟨next, ⟨accepted, rfl⟩, later⟩
    have valid := valid_of_emergencyEdit parses parent named accepted
    rw [laterEvents_of_validEmergency valid, accepted_nil] at later
    rw [(emergencyEdit_of_valid parses input parent named valid).2] at later
    exact ⟨valid, later⟩
  · rintro ⟨valid, rfl⟩
    obtain ⟨accepted, effect⟩ := emergencyEdit_of_valid parses input parent named valid
    refine ⟨_, ⟨accepted, rfl⟩, ?_⟩
    rw [laterEvents_of_validEmergency valid, accepted_nil, effect]

theorem emergencyMembers_accepted (parses : externals.toArithmetic = uint16Decimal?)
    (editing : state.Editing position kind input) (parent : names 4 = "emergency")
    {members : Members} :
    Accepted (inputConfigsJsonCallback externals) (Value.memberEvents 5 names members) state
        final ↔
      (∀ member ∈ members, ValidEmergency member) ∧
        final = state.put position (members.foldl applyEmergency input) := by
  apply members_accepted _ _ editing
  · intro key state next
    simp [inputConfigsJsonCallback, Value.keyEvent, eq_comm]
  · intro state input key value next editing
    have inner : Value.named names 6 key 4 = "emergency" := by
      rw [Value.named_other (by decide), parent]
    exact emergencyMember_accepted parses editing inner (Value.named_same names 6 key)

end Emergency

section Attributes

variable {state final : ConfigState} {position : Nat} {kind : DriverKind} {input : Input}
  {names : Nat → String} {key : String}

def attributeEdit (externals : Externals) (kind : DriverKind) (names : Nat → String) (key : String)
    (value : Value) : Edit :=
  if key = "invert" then
    match jsonGetBool value.startType with
    | .error message => .reject message
    | .ok asked => .assign fun input => { input with invert := asked }
  else
    onInputConfigValue externals kind (Value.start 5 names value).jsp key value.startType

theorem ConfigState.Editing.inputValue (editing : state.Editing position kind input)
    (named : names 4 = key) (notEmergency : key ≠ "emergency") (value : Value) :
    inputConfigsJsonCallback externals (Value.start 5 names value) state =
      state.edit (attributeEdit externals kind names key value) := by
  obtain ⟨index, ⟨name, driver⟩, selected, registered, rfl⟩ := editing.selected
  have called : inputConfigsJsonCallback externals (Value.start 5 names value) state =
      state.inputValue externals (Value.start 5 names value) := rfl
  rw [called]
  unfold ConfigState.inputValue attributeEdit
  simp only [Value.start, named]
  by_cases isInvert : key = "invert"
  · rw [if_pos isInvert, if_pos isInvert]
    cases jsonGetBool value.startType with
    | error message => rfl
    | ok asked => rfl
  · rw [if_neg isInvert, if_neg isInvert, if_neg notEmergency]
    simp only [selected, registered]

theorem attributeEdit_of_valid (names : Nat → String) (input : Input) {value : Value}
    (notEmergency : key ≠ "emergency") (valid : ValidAttribute externals kind (key, value)) :
    (attributeEdit externals kind names key value).reply = .accept ∧
      (attributeEdit externals kind names key value).change.getD id input =
        applyAttribute externals kind input (key, value) := by
  unfold attributeEdit
  cases valid with
  | @invert _ value => cases value <;> exact ⟨rfl, rfl⟩
  | emergency _ => exact absurd rfl notEmergency
  | @line name known =>
      rw [if_neg (by decide)]
      simp [onInputConfigValue, gpioOnInputConfigValue, Value.startType, jsonExpectType,
        Value.start, Value.str, known, applyAttribute]
  | @active level known =>
      rw [if_neg (by decide)]
      rcases known with rfl | rfl <;>
        simp [onInputConfigValue, gpioOnInputConfigValue, Value.startType, jsonExpectType,
          Value.start, Value.str, applyAttribute, Edit.assign]

theorem valid_of_attributeEdit {value : Value}
    (accepted : (attributeEdit externals kind names key value).reply = .accept) :
    ValidAttribute externals kind (key, value) := by
  unfold attributeEdit at accepted
  by_cases isInvert : key = "invert"
  · subst isInvert
    cases value with
    | bool value => exact .invert
    | _ => cases accepted
  · rw [if_neg isInvert] at accepted
    cases kind with
    | simulated => cases accepted
    | gpio =>
        simp only [onInputConfigValue, gpioOnInputConfigValue] at accepted
        by_cases isLine : key = "line"
        · subst isLine
          cases value with
          | string name =>
              apply ValidAttribute.line
              intro unknown
              simp [jsonExpectType, Value.startType, Value.start, Value.str, unknown] at accepted
          | bool value => cases value <;> cases accepted
          | _ => cases accepted
        · rw [if_neg isLine] at accepted
          by_cases isActive : key = "active"
          · subst isActive
            cases value with
            | string level =>
                apply ValidAttribute.active
                by_contra neither
                rw [not_or] at neither
                simp [jsonExpectType, Value.startType, Value.start, Value.str, neither,
                  Edit.reject] at accepted
            | bool value => cases value <;> cases accepted
            | _ => cases accepted
          · rw [if_neg isActive] at accepted
            cases accepted

theorem laterEvents_of_validAttribute {value : Value} (notEmergency : key ≠ "emergency")
    (valid : ValidAttribute externals kind (key, value)) (depth : Nat) :
    value.laterEvents depth names = [] := by
  cases valid with
  | emergency _ => exact absurd rfl notEmergency
  | _ => rfl

theorem attribute_accepted_other (editing : state.Editing position kind input)
    {value : Value} (named : names 4 = key) (notEmergency : key ≠ "emergency") :
    Accepted (inputConfigsJsonCallback externals) (value.events 5 names) state final ↔
      ValidAttribute externals kind (key, value) ∧
        final = state.put position (applyAttribute externals kind input (key, value)) := by
  rw [Value.events_eq, accepted_cons]
  simp only [editing.inputValue named notEmergency, editing.edit_eq_accept]
  constructor
  · rintro ⟨next, ⟨accepted, rfl⟩, later⟩
    have valid := valid_of_attributeEdit accepted
    rw [laterEvents_of_validAttribute notEmergency valid, accepted_nil,
      (attributeEdit_of_valid names input notEmergency valid).2] at later
    exact ⟨valid, later⟩
  · rintro ⟨valid, rfl⟩
    obtain ⟨accepted, effect⟩ := attributeEdit_of_valid names input notEmergency valid
    refine ⟨_, ⟨accepted, rfl⟩, ?_⟩
    rw [laterEvents_of_validAttribute notEmergency valid, accepted_nil, effect]

theorem validAttribute_emergency_iff {value : Value} :
    ValidAttribute externals kind ("emergency", value) ↔
      ∃ members, value = .object members ∧ ∀ member ∈ members, ValidEmergency member := by
  constructor
  · intro valid
    generalize entry : ("emergency", value) = field at valid
    cases valid with
    | emergency valid =>
        simp only [Prod.mk.injEq, true_and] at entry
        exact ⟨_, entry, valid⟩
    | _ => simp at entry
  · rintro ⟨members, rfl, valid⟩
    exact .emergency valid

/-- The "emergency" object resets the reasons to LATCH before its members are read. -/
theorem emergency_accepted (parses : externals.toArithmetic = uint16Decimal?)
    (editing : state.Editing position kind input) {value : Value}
    (named : names 4 = "emergency") :
    Accepted (inputConfigsJsonCallback externals) (value.events 5 names) state final ↔
      ValidAttribute externals kind ("emergency", value) ∧
        final = state.put position (applyAttribute externals kind input ("emergency", value)) := by
  rw [Value.events_eq, accepted_cons]
  cases value with
  | object members =>
      have started : inputConfigsJsonCallback externals
          (Value.start 5 names (.object members)) state =
            state.edit (.assign fun input =>
              { input with emergencyReason := EmergencyReason.latch.mask }) := by
        simp [inputConfigsJsonCallback, ConfigState.inputValue, Value.start, named,
          jsonExpectTypeOrEnd, Value.startType]
      have ended : ∀ after next, inputConfigsJsonCallback externals
          (Value.containerEnd 5 names .objectEnd) after = some (next, .accept) ↔
            next = after := by
        intro after next
        simp [inputConfigsJsonCallback, ConfigState.inputValue, Value.containerEnd, named,
          jsonExpectTypeOrEnd, eq_comm]
      simp only [started, editing.edit_eq_accept, Edit.assign, true_and, Option.getD_some,
        exists_eq_left, Value.laterEvents, accepted_append, accepted_cons, ended, accepted_nil,
        emergencyMembers_accepted parses (editing.put _) named, ConfigState.put_put,
        validAttribute_emergency_iff, Value.object.injEq, exists_eq_left']
      constructor
      · rintro ⟨middle, ⟨valid, rfl⟩, rfl⟩
        exact ⟨valid, rfl⟩
      · rintro ⟨valid, rfl⟩
        exact ⟨_, ⟨valid, rfl⟩, rfl⟩
  | bool value =>
      cases value <;>
        simp [inputConfigsJsonCallback, ConfigState.inputValue, Value.start, named,
          jsonExpectTypeOrEnd, Value.startType, validAttribute_emergency_iff]
  | _ =>
      simp [inputConfigsJsonCallback, ConfigState.inputValue, Value.start, named,
        jsonExpectTypeOrEnd, Value.startType, validAttribute_emergency_iff]

theorem attributes_accepted (parses : externals.toArithmetic = uint16Decimal?)
    (editing : state.Editing position kind input) {attributes : Members} :
    Accepted (inputConfigsJsonCallback externals) (Value.memberEvents 3 names attributes) state
        final ↔
      (∀ entry ∈ attributes, ValidAttribute externals kind entry) ∧
        final = state.put position (attributes.foldl (applyAttribute externals kind) input) := by
  apply members_accepted _ _ editing
  · intro key state next
    simp [inputConfigsJsonCallback, Value.keyEvent, eq_comm]
  · intro state input key value next editing
    by_cases isEmergency : key = "emergency"
    · subst isEmergency
      exact emergency_accepted parses editing (Value.named_same names 4 _)
    · exact attribute_accepted_other editing (Value.named_same names 4 key) isEmergency

theorem applyEmergency_withLink (next : Option Nat) (input : Input) (member : String × Value) :
    applyEmergency (input.withLink next) member = (applyEmergency input member).withLink next := by
  rcases member with ⟨key, value⟩
  cases value with
  | string text =>
      simp only [applyEmergency]
      split
      · cases namedReason? text <;> rfl
      · rfl
  | number text =>
      simp only [applyEmergency]
      split <;> rfl
  | bool value =>
      cases value with
      | true => rfl
      | false =>
          simp only [applyEmergency]
          split <;> rfl
  | _ => rfl

theorem applyAttribute_withLink (next : Option Nat) (input : Input) (entry : String × Value) :
    applyAttribute externals kind (input.withLink next) entry =
      (applyAttribute externals kind input entry).withLink next := by
  rcases entry with ⟨key, value⟩
  cases value with
  | bool value =>
      simp only [applyAttribute]
      split <;> rfl
  | object members =>
      simp only [applyAttribute]
      split
      · let reset : Input := { input with emergencyReason := EmergencyReason.latch.mask }
        have folded : members.foldl applyEmergency (reset.withLink next) =
            (members.foldl applyEmergency reset).withLink next :=
          List.foldl_hom _ fun input member => applyEmergency_withLink next input member
        exact folded
      · rfl
  | string text =>
      simp only [applyAttribute]
      split
      · split
        · rfl
        · split <;> rfl
      · rfl
  | _ => rfl

end Attributes

end XBotFirmware.Inputs
