import XBotFirmware.Json.Stream

set_option autoImplicit false

/-!
JSON documents, and the events that the parser raises for them.

A value at some depth raises its first event there, and a container its last one
too.  The key of a member stands one level below the object and its value two;
an element stands one level below the array.
-/

namespace XBotFirmware.Json

inductive Value where
  | object (members : List (String × Value))
  | array (elements : List Value)
  | string (text : String)
  | number (text : String)
  | bool (value : Bool)
  | null

namespace Value

def startType : Value → StreamType
  | .object _ => .object
  | .array _ => .array
  | .string _ => .string
  | .number _ => .number
  | .bool true => .boolTrue
  | .bool false => .boolFalse
  | .null => .null

/-- What the string buffer holds at that event. -/
def str : Value → String
  | .string text => text
  | _ => ""

def prim : Value → String
  | .number text => text
  | _ => ""

/-- The names on the stack after a key has been read at a level. -/
def named (names : Nat → String) (level : Nat) (key : String) : Nat → String :=
  fun other => if other = level then key else names other

def start (depth : Nat) (names : Nat → String) (value : Value) : Event :=
  ⟨⟨depth, value.str, value.prim, names⟩, value.startType⟩

def keyEvent (depth : Nat) (names : Nat → String) (key : String) : Event :=
  ⟨⟨depth, key, "", names⟩, .key⟩

def containerEnd (depth : Nat) (names : Nat → String) (type : StreamType) : Event :=
  ⟨⟨depth, "", "", names⟩, type⟩

mutual

def events (depth : Nat) (names : Nat → String) : Value → List Event
  | .object members =>
      start depth names (.object members) ::
        (memberEvents depth names members ++ [containerEnd depth names .objectEnd])
  | .array elements =>
      start depth names (.array elements) ::
        (elementEvents depth names elements ++ [containerEnd depth names .arrayEnd])
  | .string text => [start depth names (.string text)]
  | .number text => [start depth names (.number text)]
  | .bool value => [start depth names (.bool value)]
  | .null => [start depth names .null]

def memberEvents (depth : Nat) (names : Nat → String) : List (String × Value) → List Event
  | [] => []
  | (key, value) :: rest =>
      keyEvent (depth + 1) (named names (depth + 1) key) key ::
        (events (depth + 2) (named names (depth + 1) key) value ++ memberEvents depth names rest)

def elementEvents (depth : Nat) (names : Nat → String) : List Value → List Event
  | [] => []
  | value :: rest => events (depth + 1) names value ++ elementEvents depth names rest

end

def laterEvents (depth : Nat) (names : Nat → String) : Value → List Event
  | .object members => memberEvents depth names members ++ [containerEnd depth names .objectEnd]
  | .array elements => elementEvents depth names elements ++ [containerEnd depth names .arrayEnd]
  | _ => []

theorem events_eq (depth : Nat) (names : Nat → String) (value : Value) :
    events depth names value = start depth names value :: laterEvents depth names value := by
  cases value <;> simp only [events, laterEvents]

mutual

theorem le_stackPos_of_mem_events (depth : Nat) (names : Nat → String) :
    ∀ (value : Value), ∀ event ∈ events depth names value, depth ≤ event.jsp.stackPos
  | .object members, event, membership => by
      simp only [events, List.mem_cons, List.mem_append, List.not_mem_nil, or_false] at membership
      rcases membership with rfl | inside | rfl
      · exact Nat.le_refl _
      · exact Nat.le_of_succ_le (lt_stackPos_of_mem_memberEvents depth names members event inside)
      · exact Nat.le_refl _
  | .array elements, event, membership => by
      simp only [events, List.mem_cons, List.mem_append, List.not_mem_nil, or_false] at membership
      rcases membership with rfl | inside | rfl
      · exact Nat.le_refl _
      · exact Nat.le_of_succ_le (lt_stackPos_of_mem_elementEvents depth names elements event inside)
      · exact Nat.le_refl _
  | .string _, event, membership | .number _, event, membership | .bool _, event, membership
  | .null, event, membership => by
      simp only [events, List.mem_singleton] at membership
      subst membership
      exact Nat.le_refl _

theorem lt_stackPos_of_mem_memberEvents (depth : Nat) (names : Nat → String) :
    ∀ (members : List (String × Value)), ∀ event ∈ memberEvents depth names members,
      depth < event.jsp.stackPos
  | [], _, membership => by simp [memberEvents] at membership
  | (key, value) :: rest, event, membership => by
      simp only [memberEvents, List.mem_cons, List.mem_append] at membership
      rcases membership with rfl | inside | later
      · exact Nat.lt_succ_self _
      · exact Nat.lt_of_succ_le (Nat.le_of_succ_le
          (le_stackPos_of_mem_events (depth + 2) _ value event inside))
      · exact lt_stackPos_of_mem_memberEvents depth names rest event later

theorem lt_stackPos_of_mem_elementEvents (depth : Nat) (names : Nat → String) :
    ∀ (elements : List Value), ∀ event ∈ elementEvents depth names elements,
      depth < event.jsp.stackPos
  | [], _, membership => by simp [elementEvents] at membership
  | value :: rest, event, membership => by
      simp only [elementEvents, List.mem_append] at membership
      rcases membership with inside | later
      · exact le_stackPos_of_mem_events (depth + 1) names value event inside
      · exact lt_stackPos_of_mem_elementEvents depth names rest event later

end

@[simp]
theorem named_same (names : Nat → String) (level : Nat) (key : String) :
    named names level key level = key := if_pos rfl

theorem named_other {names : Nat → String} {level other : Nat} {key : String}
    (different : other ≠ level) : named names level key other = names other :=
  if_neg different

end Value

section Accepted

variable {Data : Type} {callback : Event → Data → Option (Data × Reply)}

/-- Every one of the events is delivered, and every callback returns true. -/
def Accepted (callback : Event → Data → Option (Data × Reply)) (events : List Event)
    (data final : Data) : Prop :=
  deliver callback events data false = some (final, false)

theorem not_deliver_of_failed {events : List Event} {data final : Data} :
    deliver callback events data true ≠ some (final, false) := by
  induction events generalizing data with
  | nil => simp [deliver]
  | cons event rest inductionHypothesis =>
      unfold deliver
      cases callback event data with
      | none => simp
      | some called =>
          rcases called with ⟨next, reply⟩
          cases reply <;> exact inductionHypothesis

@[simp]
theorem accepted_nil {data final : Data} :
    Accepted callback [] data final ↔ final = data := by
  simp [Accepted, deliver, eq_comm]

theorem accepted_cons {event : Event} {rest : List Event} {data final : Data} :
    Accepted callback (event :: rest) data final ↔
      ∃ next, callback event data = some (next, .accept) ∧
        Accepted callback rest next final := by
  unfold Accepted
  rw [deliver]
  cases callback event data with
  | none => simp
  | some called =>
      rcases called with ⟨next, reply⟩
      cases reply with
      | accept => simp
      | reject message => simp [not_deliver_of_failed]

theorem accepted_append {first second : List Event} {data final : Data} :
    Accepted callback (first ++ second) data final ↔
      ∃ middle, Accepted callback first data middle ∧ Accepted callback second middle final := by
  induction first generalizing data with
  | nil => simp
  | cons event rest inductionHypothesis =>
      simp only [List.cons_append, accepted_cons, inductionHypothesis]
      constructor
      · rintro ⟨next, called, middle, later, finally'⟩
        exact ⟨middle, ⟨next, called, later⟩, finally'⟩
      · rintro ⟨middle, ⟨next, called, later⟩, finally'⟩
        exact ⟨next, called, middle, later, finally'⟩

end Accepted

end XBotFirmware.Json
