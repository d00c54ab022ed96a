import Mathlib.Data.List.Induction
import XBotFirmware.Library.Chain
import XBotFirmware.Inputs.Invariant

set_option autoImplicit false

/-!
The inputs that a document declares, and the lists of the drivers.

`Declarations` reads the inputs off the events alone: under which driver key an
input object starts, and which lines it names.  The configuration builds one
input for each declaration, and threads it behind the earlier ones of its driver.
-/

namespace XBotFirmware.Inputs

open XBotFirmware.Library XBotFirmware.Emergency XBotFirmware.Json

abbrev Registry := List (String × DriverKind)

def InputService.registry (service : InputService) : Registry :=
  service.drivers.map fun entry => (entry.1, entry.2.kind)

/-- The driver that a key of the document selects. -/
def driverIndex (registry : Registry) (key : String) : Option Nat :=
  if key.utf8ByteSize ≤ 10 then registry.findIdx? fun entry => entry.1 = key else none

/-- One input object: its driver key, and the lines that it names in order. -/
structure Declaration where
  key : String
  lines : List String
  deriving DecidableEq, Repr

structure Declarations where
  key : Option String
  inputs : List Declaration
  deriving DecidableEq, Repr

namespace Declarations

def initial : Declarations := ⟨none, []⟩

def driver (registry : Registry) (declared : Declarations) : Option Nat :=
  declared.key.bind (driverIndex registry)

/-- A line that the event gives to the input of a GPIO driver. -/
def lineGiven (registry : Registry) (declared : Declarations) (event : Event) : Option String :=
  if event.jsp.stackPos = 5 ∧ event.jsp.name 4 = "line" ∧ event.type = .string ∧
      (declared.driver registry).bind (fun index => registry[index]?.map Prod.snd) =
        some .gpio then
    some event.jsp.str
  else none

def declare (declared : Declarations) (key : String) : Declarations :=
  { declared with inputs := declared.inputs ++ [⟨key, []⟩] }

def addLine (declared : Declarations) (line : Option String) : Declarations :=
  let last := declared.inputs.length - 1
  let inputs := declared.inputs.modify last fun input =>
    { input with lines := input.lines ++ line.toList }
  { declared with inputs := inputs }

def next (registry : Registry) (declared : Declarations) (event : Event) : Declarations :=
  if event.jsp.stackPos = 1 then
    if (driverIndex registry event.jsp.str).isSome then
      { declared with key := some event.jsp.str }
    else declared
  else if event.jsp.stackPos = 3 ∧ event.type = .object then
    if declared.inputs.length < 30 then
      declared.declare (declared.key.getD "")
    else declared
  else declared.addLine (declared.lineGiven registry event)

def ofEvents (registry : Registry) (events : List Event) : Declarations :=
  events.foldl (next registry) initial

def keys (declared : Declarations) : List String := declared.inputs.map Declaration.key

/-- The positions of the inputs that are declared under the keys of a driver.  The
first position belongs to the virtual input. -/
def positions (registry : Registry) (keys : List String) (index : Nat) : List Nat :=
  (keys.zipIdx 1).filterMap fun entry =>
    if driverIndex registry entry.1 = some index then some entry.2 else none

section Positions

variable {registry : Registry} {keys : List String} {index position : Nat}

theorem positions_concat (key : String) :
    positions registry (keys ++ [key]) index = positions registry keys index ++
      if driverIndex registry key = some index then [keys.length + 1] else [] := by
  simp only [positions, List.zipIdx_append, List.filterMap_append, List.zipIdx_singleton,
    Nat.add_comm 1]
  by_cases selected : driverIndex registry key = some index
  · simp [selected]
  · simp [selected]

theorem mem_positions :
    position ∈ positions registry keys index ↔
      ∃ key, 1 ≤ position ∧ keys[position - 1]? = some key ∧
        driverIndex registry key = some index := by
  simp only [positions, List.mem_filterMap]
  constructor
  · rintro ⟨⟨key, place⟩, membership, selected⟩
    obtain ⟨after, found⟩ := List.mem_zipIdx_iff_le_and_getElem?_sub.mp membership
    split at selected
    next resolved =>
      cases selected
      exact ⟨key, after, found, resolved⟩
    next => cases selected
  · rintro ⟨key, after, found, resolved⟩
    refine ⟨(key, position), List.mem_zipIdx_iff_le_and_getElem?_sub.mpr ⟨after, found⟩, ?_⟩
    rw [if_pos resolved]

theorem positions_bounds (membership : position ∈ positions registry keys index) :
    1 ≤ position ∧ position ≤ keys.length := by
  obtain ⟨key, after, found, _⟩ := mem_positions.mp membership
  have inside := (List.getElem?_eq_some_iff.mp found).choose
  omega

/-- An input is declared under one driver only. -/
theorem positions_disjoint {other : Nat} (first : position ∈ positions registry keys index)
    (second : position ∈ positions registry keys other) : index = other := by
  obtain ⟨key, _, found, selected⟩ := mem_positions.mp first
  obtain ⟨key', _, found', selected'⟩ := mem_positions.mp second
  obtain rfl := Option.some.inj (found.symm.trans found')
  exact Option.some.inj (selected.symm.trans selected')

theorem positions_sorted : (positions registry keys index).Pairwise (· < ·) := by
  induction keys using List.reverseRecOn with
  | nil => exact List.Pairwise.nil
  | append_singleton keys key inductionHypothesis =>
      rw [positions_concat]
      refine List.pairwise_append.mpr ⟨inductionHypothesis, ?_, ?_⟩
      · split
        · exact List.pairwise_singleton _ _
        · exact List.Pairwise.nil
      · intro earlier membership later appended
        have bounds := positions_bounds membership
        split at appended
        next =>
          rw [List.mem_singleton.mp appended]
          exact Nat.lt_succ_of_le bounds.2
        next => cases appended

end Positions

end Declarations

def Input.withLink (next : Option Nat) (input : Input) : Input :=
  { input with nextForDriver := next }

def link (inputs : List Input) (position : Nat) : Option Nat :=
  inputs[position]?.bind Input.nextForDriver

section Links

variable {inputs : List Input}

theorem link_modify {last : Nat} (inside : last < inputs.length) (position other : Nat) :
    link (inputs.modify last fun input => { input with nextForDriver := some position }) other =
      if other = last then some position else link inputs other := by
  unfold link
  rw [List.getElem?_modify]
  by_cases same : last = other
  · subst same
    rw [if_pos rfl, List.getElem?_eq_getElem inside]
    simp
  · rw [if_neg (Ne.symm same)]
    cases inputs[other]? <;> simp [same]

theorem lastInput?_of_chain {first fuel : Nat} {nodes : List Nat}
    (threaded : Chain (link inputs) (some first) nodes)
    (present : ∀ position ∈ nodes, position < inputs.length) (enough : nodes.length ≤ fuel) :
    InputDriver.lastInput? inputs fuel first = nodes.getLast? := by
  rw [← threaded.last? enough]
  clear enough
  induction fuel generalizing first nodes with
  | zero => rfl
  | succ fuel inductionHypothesis =>
      cases threaded with
      | cons rest =>
          obtain ⟨inside, others⟩ := List.forall_mem_cons.mp present
          have found := List.getElem?_eq_getElem inside
          rw [link, found, Option.bind_some] at rest
          simp only [InputDriver.lastInput?, last?, link, found, Option.bind_some]
          cases following : inputs[first].nextForDriver with
          | none => rfl
          | some second =>
              rw [following] at rest
              exact inductionHypothesis rest others

/-- `AddInput` puts an input that has no link yet behind the others of its driver, and
changes no link outside the list. -/
theorem addInput_of_chain {driver : InputDriver} (position : Nat) {nodes : List Nat}
    (threaded : Chain (link inputs) driver.inputsHead nodes)
    (present : ∀ node ∈ nodes, node < inputs.length) (fresh : position ∉ nodes)
    (unlinked : link inputs position = none) :
    ∃ head inputs', driver.addInput inputs position = some (⟨driver.kind, head⟩, inputs') ∧
      Chain (link inputs') head (nodes ++ [position]) ∧
      (∀ other ∉ nodes, link inputs' other = link inputs other) ∧
      ∀ other : Nat, ∃ next, inputs'[other]? = inputs[other]?.map (Input.withLink next) := by
  unfold InputDriver.addInput
  cases head : driver.inputsHead with
  | none =>
      rw [head] at threaded
      cases threaded
      refine ⟨_, inputs, rfl, .cons (unlinked ▸ .nil), fun _ _ => rfl, ?_⟩
      intro other
      refine ⟨link inputs other, ?_⟩
      unfold link
      cases inputs[other]? <;> rfl
  | some first =>
      rw [head] at threaded
      have nonempty : nodes ≠ [] := by
        rintro rfl
        cases threaded
      obtain ⟨last, ends⟩ := Option.ne_none_iff_exists'.mp
        (mt List.getLast?_eq_none_iff.mp nonempty)
      have lastMember : last ∈ nodes := List.mem_of_getLast? ends
      have links := link_modify (present last lastMember) position
      simp only
      rw [lastInput?_of_chain threaded present (threaded.length_le present), ends]
      refine ⟨driver.inputsHead, _, rfl, ?_, ?_, ?_⟩
      · rw [head]
        apply threaded.concat ends
        · intro node _ different
          rw [links, if_neg different]
        · rw [links, if_pos rfl]
        · rw [links, if_neg (fun same : position = last => fresh (same ▸ lastMember)), unlinked]
      · intro other outside
        rw [links, if_neg (fun same : other = last => outside (same ▸ lastMember))]
      · intro other
        rw [List.getElem?_modify]
        by_cases same : last = other
        · refine ⟨some position, ?_⟩
          cases inputs[other]? <;> simp [same, Input.withLink]
        · refine ⟨link inputs other, ?_⟩
          unfold link
          cases inputs[other]? <;> simp [same, Input.withLink]

end Links

@[simp]
theorem Declarations.addLine_none (declared : Declarations) : declared.addLine none = declared := by
  have same : (fun input : Declaration =>
      { input with lines := input.lines ++ (none : Option String).toList }) = id := by
    funext input
    simp
  simp only [addLine, same, List.modify_id]

theorem Declarations.addLine_keys (declared : Declarations) (line : Option String) :
    (declared.addLine line).keys = declared.keys := by
  apply List.ext_getElem?
  intro position
  simp only [keys, addLine, List.getElem?_map, List.getElem?_modify]
  cases declared.inputs[position]? with
  | none => rfl
  | some input => by_cases last : declared.inputs.length - 1 = position <;> simp [last]

/-- Edits that leave the index and the link alone and set the line to what the
document gives, if it gives one. -/
structure Edit.Keeps (externals : Externals) (line : Option String) (edit : Edit) : Prop where
  changes : line.isSome → edit.change ≠ none
  idx : ∀ change, edit.change = some change → ∀ input, (change input).idx = input.idx
  next : ∀ change, edit.change = some change →
    ∀ input, (change input).nextForDriver = input.nextForDriver
  gpioLine : ∀ change, edit.change = some change → ∀ input,
    (change input).gpioLine = (line.map externals.getIoLineByName).or input.gpioLine

namespace Edit

variable {externals : Externals}

theorem keeps_of_unchanged {edit : Edit} (unchanged : edit.change = none) :
    edit.Keeps externals none := by
  refine ⟨fun given => absurd given Bool.false_ne_true, ?_, ?_, ?_⟩
  all_goals
    intro change changes
    rw [unchanged] at changes
    cases changes

theorem keeps_reject (message : String) : (Edit.reject message).Keeps externals none :=
  keeps_of_unchanged rfl

theorem keeps_of_change {change : Input → Input} {reply : Reply} {line : Option String}
    (idx : ∀ input, (change input).idx = input.idx)
    (next : ∀ input, (change input).nextForDriver = input.nextForDriver)
    (gpioLine : ∀ input, (change input).gpioLine =
      (line.map externals.getIoLineByName).or input.gpioLine) :
    (Edit.mk (some change) reply).Keeps externals line := by
  refine ⟨fun _ => Option.some_ne_none _, ?_, ?_, ?_⟩
  · rintro _ ⟨⟩
    exact idx
  · rintro _ ⟨⟩
    exact next
  · rintro _ ⟨⟩
    exact gpioLine

theorem keeps_assign {change : Input → Input} (idx : ∀ input, (change input).idx = input.idx)
    (next : ∀ input, (change input).nextForDriver = input.nextForDriver)
    (gpioLine : ∀ input, (change input).gpioLine = input.gpioLine) :
    (Edit.assign change).Keeps externals none :=
  keeps_of_change idx next gpioLine

end Edit

theorem gpioOnInputConfigValue_keeps (externals : Externals) (jsp : ParserView) (key : String)
    (type : StreamType) :
    (gpioOnInputConfigValue externals jsp key type).Keeps externals
      (if key = "line" ∧ type = .string then some jsp.str else none) := by
  unfold gpioOnInputConfigValue
  by_cases isLine : key = "line"
  · rw [if_pos isLine]
    by_cases isString : type = .string
    · rw [if_pos ⟨isLine, isString⟩, jsonExpectType, if_pos isString]
      exact Edit.keeps_of_change (fun _ => rfl) (fun _ => rfl) (fun _ => rfl)
    · rw [if_neg fun both => isString both.2, jsonExpectType, if_neg isString]
      exact Edit.keeps_reject _
  · rw [if_neg isLine, if_neg fun both => isLine both.1]
    split
    next =>
      split
      next message _ => exact Edit.keeps_reject message
      next =>
        split
        · exact Edit.keeps_assign (fun _ => rfl) (fun _ => rfl) (fun _ => rfl)
        · split
          · exact Edit.keeps_assign (fun _ => rfl) (fun _ => rfl) (fun _ => rfl)
          · exact Edit.keeps_reject _
    next => exact Edit.keeps_reject _

theorem emergencyConfigValue_keeps (externals : Externals) (jsp : ParserView)
    (type : StreamType) : (emergencyConfigValue externals jsp type).Keeps externals none := by
  simp only [emergencyConfigValue]
  split
  next =>
    split
    next message _ => exact Edit.keeps_reject message
    next =>
      split
      · exact Edit.keeps_assign (fun _ => rfl) (fun _ => rfl) (fun _ => rfl)
      · split
        · exact Edit.keeps_assign (fun _ => rfl) (fun _ => rfl) (fun _ => rfl)
        · split
          · exact Edit.keeps_assign (fun _ => rfl) (fun _ => rfl) (fun _ => rfl)
          · exact Edit.keeps_reject _
  next =>
    split
    next =>
      split
      next message _ => exact Edit.keeps_reject message
      next => exact Edit.keeps_assign (fun _ => rfl) (fun _ => rfl) (fun _ => rfl)
    next =>
      split
      next =>
        split
        · exact Edit.keeps_assign (fun _ => rfl) (fun _ => rfl) (fun _ => rfl)
        · exact Edit.keeps_of_unchanged rfl
        · exact Edit.keeps_reject _
      next => exact Edit.keeps_reject _

end XBotFirmware.Inputs
