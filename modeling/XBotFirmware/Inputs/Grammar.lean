import Mathlib.Data.List.Induction
import XBotFirmware.Json.Document
import XBotFirmware.Inputs.Declared

set_option autoImplicit false

/-!
The input configuration as a JSON document, and what it means.

`ValidDocument` is the grammar of the register, and `denoteInput` reads an input
off the attributes of its object.  Nothing here is about events.
-/

namespace XBotFirmware.Inputs

open XBotFirmware.Emergency XBotFirmware.Json

abbrev Members := List (String × Value)

def decimal? : List Char → Option Nat
  | [] => none
  | digits =>
      if digits.all Char.isDigit then
        some (digits.foldl (fun value digit => 10 * value + (digit.toNat - '0'.toNat)) 0)
      else none

/-- `etl::to_arithmetic<uint16_t>` as far as the configuration relies on it. -/
def uint16Decimal? (text : String) : Option (BitVec 16) :=
  match decimal? text.toList with
  | none => none
  | some value => if value < 2 ^ 16 then some (BitVec.ofNat 16 value) else none

def namedReason? (text : String) : Option EmergencyReason :=
  if text = "stop" then some .stop
  else if text = "lift" then some .lift
  else if text = "collision" then some .collision
  else none

/-- The registered drivers are a `flat_map` with keys of at most ten characters. -/
structure Registry.WellKeyed (registry : Registry) : Prop where
  short : ∀ entry ∈ registry, entry.1.utf8ByteSize ≤ 10
  distinct : (registry.map Prod.fst).Nodup

inductive ValidEmergency : String × Value → Prop
  | reason {text : String} {reason : EmergencyReason} :
      namedReason? text = some reason → ValidEmergency ("reason", .string text)
  | delay {text : String} {delay : BitVec 16} :
      uint16Decimal? text = some delay → ValidEmergency ("delay", .number text)
  | latch {value : Bool} : ValidEmergency ("latch", .bool value)

inductive ValidAttribute (externals : Externals) : DriverKind → String × Value → Prop
  | invert {kind : DriverKind} {value : Bool} :
      ValidAttribute externals kind ("invert", .bool value)
  | emergency {kind : DriverKind} {members : Members} :
      (∀ member ∈ members, ValidEmergency member) →
      ValidAttribute externals kind ("emergency", .object members)
  | line {name : String} : externals.getIoLineByName name ≠ palNoline →
      ValidAttribute externals .gpio ("line", .string name)
  | active {level : String} : level = "high" ∨ level = "low" →
      ValidAttribute externals .gpio ("active", .string level)

inductive ValidInput (externals : Externals) (kind : DriverKind) : Value → Prop
  | object {attributes : Members} :
      (∀ entry ∈ attributes, ValidAttribute externals kind entry) →
      ValidInput externals kind (.object attributes)

inductive ValidDriver (externals : Externals) (registry : Registry) : String × Value → Prop
  | inputs {key : String} {kind : DriverKind} {elements : List Value} :
      (key, kind) ∈ registry → (∀ element ∈ elements, ValidInput externals kind element) →
      ValidDriver externals registry (key, .array elements)

/-- The inputs that a document lists, each with the key of its driver. -/
def listed (members : Members) : List (String × Value) :=
  members.flatMap fun member =>
    match member.2 with
    | .array elements => elements.map fun element => (member.1, element)
    | _ => []

inductive ValidDocument (externals : Externals) (registry : Registry) : Value → Prop
  | object {members : Members} :
      (∀ member ∈ members, ValidDriver externals registry member) →
      (listed members).length ≤ 30 → ValidDocument externals registry (.object members)

def DistinctKeys (members : Members) : Prop := (members.map Prod.fst).Nodup

/-- No key occurs twice in an input object, nor in an "emergency" object. -/
def DistinctInput : Value → Prop
  | .object attributes => DistinctKeys attributes ∧
      ∀ members, ("emergency", Value.object members) ∈ attributes → DistinctKeys members
  | _ => True

def DistinctDocument : Value → Prop
  | .object members => ∀ entry ∈ listed members, DistinctInput entry.2
  | _ => True

section Denotation

def reasonBits (members : Members) : Reasons :=
  match members.lookup "reason" with
  | some (.string text) => ((namedReason? text).map EmergencyReason.mask).getD 0
  | _ => 0

/-- Emergencies latch unless "latch" is false. -/
def latchBits (members : Members) : Reasons :=
  match members.lookup "latch" with
  | some (.bool false) => 0
  | _ => EmergencyReason.latch.mask

def delayMs (members : Members) : BitVec 16 :=
  match members.lookup "delay" with
  | some (.number text) => (uint16Decimal? text).getD 0
  | _ => 0

def inversion? (kind : DriverKind) : String × Value → Option Bool
  | (key, .bool value) => if key = "invert" then some value else none
  | (key, .string level) =>
      if key = "active" ∧ kind = .gpio then some (decide (level = "low")) else none
  | _ => none

def emergencyMembers? (attributes : Members) : Option Members :=
  match attributes.lookup "emergency" with
  | some (.object members) => some members
  | _ => none

def lineName? (kind : DriverKind) (attributes : Members) : Option String :=
  match kind, attributes.lookup "line" with
  | .gpio, some (.string name) => some name
  | _, _ => none

/-- The input that an object describes.  Of "invert" and "active" the later counts. -/
def denoteInput (externals : Externals) (kind : DriverKind) (idx : BitVec 8)
    (attributes : Members) : Input where
  idx := idx
  invert := (attributes.filterMap (inversion? kind)).getLast?.getD false
  emergencyReason :=
    match emergencyMembers? attributes with
    | some members => reasonBits members ||| latchBits members
    | none => 0
  emergencyDelayMs := ((emergencyMembers? attributes).map delayMs).getD 0
  gpioLine := (lineName? kind attributes).map externals.getIoLineByName
  active := false
  activeSince := 0
  nextForDriver := none

end Denotation

section Application

def applyEmergency (input : Input) : String × Value → Input
  | (key, .string text) =>
      if key = "reason" then
        ((namedReason? text).map fun reason => addReason reason input).getD input
      else input
  | (key, .number text) =>
      if key = "delay" then
        { input with emergencyDelayMs := (uint16Decimal? text).getD input.emergencyDelayMs }
      else input
  | (key, .bool false) =>
      if key = "latch" then
        { input with emergencyReason := input.emergencyReason &&& ~~~EmergencyReason.latch.mask }
      else input
  | _ => input

def applyAttribute (externals : Externals) (kind : DriverKind) (input : Input) :
    String × Value → Input
  | (key, .bool value) => if key = "invert" then { input with invert := value } else input
  | (key, .object members) =>
      if key = "emergency" then
        members.foldl applyEmergency
          { input with emergencyReason := EmergencyReason.latch.mask }
      else input
  | (key, .string text) =>
      if kind = .gpio then
        if key = "line" then
          { input with gpioLine := some (externals.getIoLineByName text) }
        else if key = "active" then { input with invert := decide (text = "low") }
        else input
      else input
  | _ => input

end Application

section Lookup

variable {members : Members} {key other : String} {value : Value}

theorem lookup_eq_none_of_fresh (fresh : key ∉ members.map Prod.fst) :
    members.lookup key = none := by
  rw [List.lookup_eq_none_iff]
  intro entry membership
  apply bne_iff_ne.mpr
  rintro rfl
  exact fresh (List.mem_map_of_mem membership)

theorem lookup_concat_same (fresh : key ∉ members.map Prod.fst) :
    (members ++ [(key, value)]).lookup key = some value := by
  rw [List.lookup_append, lookup_eq_none_of_fresh fresh, Option.none_or, List.lookup_cons_self]

theorem lookup_concat_other (different : other ≠ key) :
    (members ++ [(key, value)]).lookup other = members.lookup other := by
  rw [List.lookup_append, List.lookup_cons, beq_false_of_ne different]
  simp

theorem DistinctKeys.concat (distinct : DistinctKeys (members ++ [(key, value)])) :
    DistinctKeys members ∧ key ∉ members.map Prod.fst := by
  rw [DistinctKeys, List.map_append, List.nodup_append] at distinct
  refine ⟨distinct.1, ?_⟩
  intro again
  exact distinct.2.2 key again key (List.mem_singleton_self key) rfl

end Lookup

theorem mask_and_not_latch {text : String} {reason : EmergencyReason}
    (named : namedReason? text = some reason) :
    reason.mask &&& ~~~EmergencyReason.latch.mask = reason.mask := by
  unfold namedReason? at named
  split at named
  · cases named
    decide
  · split at named
    · cases named
      decide
    · split at named
      · cases named
        decide
      · cases named

theorem reasonBits_and_not_latch (members : Members) :
    reasonBits members &&& ~~~EmergencyReason.latch.mask = reasonBits members := by
  unfold reasonBits
  split
  next text _ =>
    cases named : namedReason? text with
    | none => decide
    | some reason => exact mask_and_not_latch named
  next => decide

section Concat

variable (members : Members) {key : String} (value : Value)

theorem reasonBits_concat_other (different : "reason" ≠ key) :
    reasonBits (members ++ [(key, value)]) = reasonBits members := by
  rw [reasonBits, reasonBits, lookup_concat_other different]

theorem latchBits_concat_other (different : "latch" ≠ key) :
    latchBits (members ++ [(key, value)]) = latchBits members := by
  rw [latchBits, latchBits, lookup_concat_other different]

theorem delayMs_concat_other (different : "delay" ≠ key) :
    delayMs (members ++ [(key, value)]) = delayMs members := by
  rw [delayMs, delayMs, lookup_concat_other different]

end Concat

/-- The members of "emergency" may come in any order. -/
theorem foldl_applyEmergency {members : Members} (valid : ∀ member ∈ members, ValidEmergency member)
    (distinct : DistinctKeys members) (input : Input) (undelayed : input.emergencyDelayMs = 0) :
    members.foldl applyEmergency { input with emergencyReason := EmergencyReason.latch.mask } =
      { input with
        emergencyReason := reasonBits members ||| latchBits members
        emergencyDelayMs := delayMs members } := by
  induction members using List.reverseRecOn with
  | nil =>
      have bits : reasonBits [] ||| latchBits [] = EmergencyReason.latch.mask := by decide
      rw [List.foldl_nil, bits, show delayMs [] = input.emergencyDelayMs from undelayed.symm]
  | append_singleton members member inductionHypothesis =>
      rcases member with ⟨key, value⟩
      obtain ⟨distinctFront, fresh⟩ := distinct.concat
      have earlier := inductionHypothesis
        (fun entry membership => valid entry (List.mem_append_left _ membership)) distinctFront
      rw [List.foldl_append, earlier, List.foldl_cons, List.foldl_nil]
      have last : ValidEmergency (key, value) := valid _ (by simp)
      cases last with
      | @reason text reason named =>
          have unset : reasonBits members = 0 := by
            rw [reasonBits, lookup_eq_none_of_fresh fresh]
          have set : reasonBits (members ++ [("reason", .string text)]) = reason.mask := by
            simp only [reasonBits, lookup_concat_same fresh, named, Option.map_some,
              Option.getD_some]
          rw [set, unset, latchBits_concat_other _ _ (by decide),
            delayMs_concat_other _ _ (by decide)]
          simp [applyEmergency, named, addReason, BitVec.or_comm]
      | @delay text delay parsed =>
          have set : delayMs (members ++ [("delay", .number text)]) = delay := by
            simp only [delayMs, lookup_concat_same fresh, parsed, Option.getD_some]
          rw [set, reasonBits_concat_other _ _ (by decide), latchBits_concat_other _ _ (by decide)]
          simp [applyEmergency, parsed]
      | @latch value =>
          have unset : latchBits members = EmergencyReason.latch.mask := by
            rw [latchBits, lookup_eq_none_of_fresh fresh]
          rw [unset, reasonBits_concat_other _ _ (by decide), delayMs_concat_other _ _ (by decide)]
          cases value with
          | true => simp only [applyEmergency, latchBits, lookup_concat_same fresh]
          | false =>
              have cleared : (reasonBits members ||| EmergencyReason.latch.mask) &&&
                  ~~~EmergencyReason.latch.mask = reasonBits members := by
                rw [BitVec.and_comm, BitVec.and_or_distrib_left, BitVec.and_comm,
                  reasonBits_and_not_latch]
                simp
              simp [applyEmergency, latchBits, lookup_concat_same fresh, cleared]

section AttributeConcat

variable (attributes : Members) {key : String} (value : Value)

theorem emergencyMembers?_concat_other (different : "emergency" ≠ key) :
    emergencyMembers? (attributes ++ [(key, value)]) = emergencyMembers? attributes := by
  rw [emergencyMembers?, emergencyMembers?, lookup_concat_other different]

theorem lineName?_concat_other (kind : DriverKind) (different : "line" ≠ key) :
    lineName? kind (attributes ++ [(key, value)]) = lineName? kind attributes := by
  unfold lineName?
  rw [lookup_concat_other different]

theorem inversion_concat (kind : DriverKind) :
    ((attributes ++ [(key, value)]).filterMap (inversion? kind)).getLast?.getD false =
      (inversion? kind (key, value)).getD
        ((attributes.filterMap (inversion? kind)).getLast?.getD false) := by
  rw [List.filterMap_append]
  cases inversion : inversion? kind (key, value) with
  | none => simp [inversion]
  | some asked => simp [inversion]

end AttributeConcat

/-- Applying the attributes one by one builds the input that the object describes. -/
theorem foldl_applyAttribute {externals : Externals} {kind : DriverKind} {attributes : Members}
    (valid : ∀ entry ∈ attributes, ValidAttribute externals kind entry)
    (distinct : DistinctInput (.object attributes)) (idx : BitVec 8) :
    attributes.foldl (applyAttribute externals kind) (Input.create idx) =
      denoteInput externals kind idx attributes := by
  obtain ⟨distinct, distinctEmergency⟩ := distinct
  induction attributes using List.reverseRecOn with
  | nil =>
      cases kind <;> rfl
  | append_singleton attributes last inductionHypothesis =>
      rcases last with ⟨key, value⟩
      obtain ⟨distinctFront, fresh⟩ := distinct.concat
      have earlier := inductionHypothesis
        (fun entry membership => valid entry (List.mem_append_left _ membership)) distinctFront
        (fun members membership => distinctEmergency members (List.mem_append_left _ membership))
      rw [List.foldl_append, earlier, List.foldl_cons, List.foldl_nil]
      have validLast : ValidAttribute externals kind (key, value) := valid _ (by simp)
      conv_rhs => unfold denoteInput
      rw [inversion_concat]
      cases validLast with
      | @invert _ value =>
          rw [emergencyMembers?_concat_other _ _ (by decide),
            lineName?_concat_other _ _ _ (by decide)]
          rfl
      | @emergency _ members validMembers =>
          have unset : emergencyMembers? attributes = none := by
            rw [emergencyMembers?, lookup_eq_none_of_fresh fresh]
          have set : emergencyMembers? (attributes ++ [("emergency", .object members)]) =
              some members := by
            simp only [emergencyMembers?, lookup_concat_same fresh]
          have undelayed : (denoteInput externals kind idx attributes).emergencyDelayMs = 0 := by
            simp only [denoteInput, unset, Option.map_none, Option.getD_none]
          rw [set, lineName?_concat_other _ _ _ (by decide)]
          simp only [applyAttribute, if_true]
          rw [foldl_applyEmergency validMembers (distinctEmergency members (by simp)) _ undelayed]
          rfl
      | @line name known =>
          have set : lineName? .gpio (attributes ++ [("line", .string name)]) = some name := by
            simp only [lineName?, lookup_concat_same fresh]
          rw [set, emergencyMembers?_concat_other _ _ (by decide)]
          rfl
      | @active level known =>
          rw [emergencyMembers?_concat_other _ _ (by decide),
            lineName?_concat_other _ _ _ (by decide)]
          rfl

end XBotFirmware.Inputs
