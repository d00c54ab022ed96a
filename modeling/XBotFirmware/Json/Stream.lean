import Mathlib.Data.List.Basic

/-!
Streaming JSON (`src/json_stream.cpp`, `src/json_stream.hpp`).

lwjson is a separate library.  It enters as an arbitrary step function from a
parser state and a character to a result code and the callback events raised by
that character, which is all that `ProcessJson` observes of it.
-/

namespace XBotFirmware.Json

/-- `lwjson_stream_type_t`. -/
inductive StreamType where
  | none
  | object
  | objectEnd
  | array
  | arrayEnd
  | key
  | string
  | boolTrue
  | boolFalse
  | null
  | number
  deriving DecidableEq, Repr

/-- `lwjsonr_t`. -/
inductive ParseResult where
  | ok
  | err
  | errJson
  | errMem
  | errPar
  | streamWaitFirstChar
  | streamDone
  | streamInProg
  deriving DecidableEq, Repr

/-- The fields of `lwjson_stream_parser_t` that callbacks read: `stack_pos`,
`data.str.buff`, `data.prim.buff` and `stack[i].meta.name`. -/
structure ParserView where
  stackPos : Nat
  str : String
  prim : String
  name : Nat → String

structure Event where
  jsp : ParserView
  type : StreamType

structure StreamParser (ParserState : Type) where
  init : ParserState
  parse : ParserState → Char → ParserState × ParseResult × List Event

/-- What a callback returns: `true`, or `false` after logging a message. -/
inductive Reply where
  | accept
  | reject (message : String)
  deriving DecidableEq, Repr

def Reply.ofExcept : Except String Unit → Reply
  | .ok () => .accept
  | .error message => .reject message

/-- `JsonExpectType`; an error carries the logged message. -/
def jsonExpectType (expected : StreamType) (name : String) (type : StreamType) :
    Except String Unit :=
  if type = expected then .ok () else .error s!"Expected type {name}"

def jsonExpectTypeOrEnd (expected expectedEnd : StreamType) (name : String)
    (type : StreamType) : Except String Unit :=
  if type = expected ∨ type = expectedEnd then .ok ()
  else .error s!"Expected type {name} or {name}_END"

/-- `JsonGetBool`; the reference is assigned only on success. -/
def jsonGetBool (type : StreamType) : Except String Bool :=
  match type with
  | .boolTrue => .ok true
  | .boolFalse => .ok false
  | _ => .error "Expected boolean"

/-- `JsonGetNumber<T>`, for a given `etl::to_arithmetic<T>`. -/
def jsonGetNumber {Value : Type} (toArithmetic : String → Option Value) (jsp : ParserView)
    (type : StreamType) : Except String Value :=
  match jsonExpectType .number "NUMBER" type with
  | .error message => .error message
  | .ok () =>
      match toArithmetic jsp.prim with
      | some value => .ok value
      | none => .error s!"Failed to parse number from \"{jsp.prim}\""

def ParseResult.isError : ParseResult → Bool
  | .err | .errJson | .errMem | .errPar => true
  | _ => false

/-- `strchr(" \t\r\n", c) != nullptr`, which also finds the terminating zero. -/
def isRemainder (c : Char) : Bool :=
  c = ' ' || c = '\t' || c = '\r' || c = '\n' || c = '\x00'

def onlyWhitespaceRemaining (rest : List Char) : Bool := rest.all isRemainder

section

variable {ParserState Data : Type}

/-- Raise the events of one character.  `Callback` records a rejection in
`failed` and goes on, so later events of the character are still delivered. -/
def deliver (callback : Event → Data → Option (Data × Reply)) :
    List Event → Data → Bool → Option (Data × Bool)
  | [], data, failed => some (data, failed)
  | event :: rest, data, failed =>
      match callback event data with
      | none => none
      | some (next, .accept) => deliver callback rest next failed
      | some (next, .reject _) => deliver callback rest next true

structure ProcessResult (Data : Type) where
  accepted : Bool
  message : Option String
  data : Data

/-- The loop of `ProcessJson`. -/
def processFrom (parser : StreamParser ParserState)
    (callback : Event → Data → Option (Data × Reply)) :
    ParserState → Data → Bool → List Char → Option (ProcessResult Data)
  | _, data, _, [] =>
      some ⟨true, some "Input config JSON parsing failed: end not found", data⟩
  | state, data, failed, c :: rest =>
      let parsed := parser.parse state c
      match deliver callback parsed.2.2 data failed with
      | none => none
      | some (next, failed) =>
          if parsed.2.1 = .streamDone then
            if onlyWhitespaceRemaining rest then
              some ⟨true, none, next⟩
            else
              some ⟨false,
                some "Input config JSON parsing failed: extra characters after end", next⟩
          else if failed then
            some ⟨false, none, next⟩
          else if parsed.2.1.isError then
            some ⟨false, some "Input config JSON parsing failed", next⟩
          else
            processFrom parser callback parsed.1 next failed rest

def processJson (parser : StreamParser ParserState)
    (callback : Event → Data → Option (Data × Reply)) (source : List Char) (data : Data) :
    Option (ProcessResult Data) :=
  processFrom parser callback parser.init data false source

variable {callback : Event → Data → Option (Data × Reply)} {invariant : Data → Prop}

theorem deliver_invariant
    (preserved : ∀ event data next reply, invariant data →
      callback event data = some (next, reply) → invariant next)
    {events : List Event} {data final : Data} {failed finalFailed : Bool}
    (initially : invariant data)
    (delivered : deliver callback events data failed = some (final, finalFailed)) :
    invariant final := by
  induction events generalizing data failed with
  | nil =>
      simp only [deliver, Option.some.injEq, Prod.mk.injEq] at delivered
      exact delivered.1 ▸ initially
  | cons event rest inductionHypothesis =>
      cases called : callback event data with
      | none => simp [deliver, called] at delivered
      | some result =>
          rcases result with ⟨next, reply⟩
          have kept := preserved event data next reply initially called
          cases reply with
          | accept =>
              exact inductionHypothesis kept (by simpa [deliver, called] using delivered)
          | reject message =>
              exact inductionHypothesis kept (by simpa [deliver, called] using delivered)

inductive Iterated (parser : StreamParser ParserState)
    (callback : Event → Data → Option (Data × Reply)) (state : ParserState) (data : Data)
    (failed : Bool) (c : Char) (rest : List Char) (result : ProcessResult Data) : Prop
  | completed {next : Data} {failedNow : Bool}
      (delivered : deliver callback (parser.parse state c).2.2 data failed =
        some (next, failedNow))
      (done : (parser.parse state c).2.1 = .streamDone)
      (accepted : result.accepted = onlyWhitespaceRemaining rest) (data_eq : result.data = next)
  | rejected {next : Data}
      (delivered : deliver callback (parser.parse state c).2.2 data failed = some (next, true))
      (running : (parser.parse state c).2.1 ≠ .streamDone)
      (accepted : result.accepted = false) (data_eq : result.data = next)
  | broken {next : Data}
      (delivered : deliver callback (parser.parse state c).2.2 data failed = some (next, false))
      (running : (parser.parse state c).2.1 ≠ .streamDone)
      (malformed : (parser.parse state c).2.1.isError = true)
      (accepted : result.accepted = false) (data_eq : result.data = next)
  | continued {next : Data}
      (delivered : deliver callback (parser.parse state c).2.2 data failed = some (next, false))
      (running : (parser.parse state c).2.1 ≠ .streamDone)
      (sound : (parser.parse state c).2.1.isError = false)
      (processed : processFrom parser callback (parser.parse state c).1 next false rest =
        some result)

theorem processFrom_cons {parser : StreamParser ParserState} {state : ParserState} {data : Data}
    {failed : Bool} {c : Char} {rest : List Char} {result : ProcessResult Data}
    (processed : processFrom parser callback state data failed (c :: rest) = some result) :
    Iterated parser callback state data failed c rest result := by
  rw [processFrom] at processed
  cases delivered : deliver callback (parser.parse state c).2.2 data failed with
  | none => simp only [delivered, reduceCtorEq] at processed
  | some outcome =>
      rcases outcome with ⟨next, failedNow⟩
      simp only [delivered] at processed
      split at processed
      next done =>
        split at processed
        next remaining =>
          cases processed
          exact .completed delivered done remaining.symm rfl
        next extra =>
          cases processed
          exact .completed delivered done (Bool.eq_false_iff.mpr extra).symm rfl
      next running =>
        split at processed
        next rejected =>
          cases processed
          subst rejected
          exact .rejected delivered running rfl rfl
        next undisputed =>
          obtain rfl := Bool.eq_false_iff.mpr undisputed
          split at processed
          next malformed =>
            cases processed
            exact .broken delivered running malformed rfl rfl
          next sound =>
            exact .continued delivered running (Bool.eq_false_iff.mpr sound) processed

/-- What the callback preserves holds of the data however processing ends. -/
theorem processFrom_invariant
    (preserved : ∀ event data next reply, invariant data →
      callback event data = some (next, reply) → invariant next)
    (parser : StreamParser ParserState) {source : List Char} {state : ParserState}
    {data : Data} {failed : Bool} {result : ProcessResult Data} (initially : invariant data)
    (processed : processFrom parser callback state data failed source = some result) :
    invariant result.data := by
  induction source generalizing state data failed with
  | nil =>
      simp only [processFrom, Option.some.injEq] at processed
      subst processed
      exact initially
  | cons c rest inductionHypothesis =>
      cases processFrom_cons processed with
      | completed delivered _ _ data_eq | rejected delivered _ _ data_eq
      | broken delivered _ _ _ data_eq =>
          rw [data_eq]
          exact deliver_invariant preserved initially delivered
      | continued delivered _ _ processed =>
          exact inductionHypothesis (deliver_invariant preserved initially delivered) processed

theorem processJson_invariant
    (preserved : ∀ event data next reply, invariant data →
      callback event data = some (next, reply) → invariant next)
    (parser : StreamParser ParserState) {source : List Char} {data : Data}
    {result : ProcessResult Data} (initially : invariant data)
    (processed : processJson parser callback source data = some result) :
    invariant result.data :=
  processFrom_invariant preserved parser initially processed

def recording (callback : Event → Data → Option (Data × Reply)) (event : Event)
    (data : Data × List Event) : Option ((Data × List Event) × Reply) :=
  (callback event data.1).map fun called => ((called.1, data.2 ++ [event]), called.2)

variable {Data' : Type} {project : Data' → Data}
  {callback' : Event → Data' → Option (Data' × Reply)}

/-- A callback that only keeps more data delivers the same. -/
theorem deliver_project
    (agrees : ∀ event data, callback event (project data) =
      (callback' event data).map fun called => (project called.1, called.2))
    (events : List Event) (data : Data') (failed : Bool) :
    deliver callback events (project data) failed =
      (deliver callback' events data failed).map fun delivered =>
        (project delivered.1, delivered.2) := by
  induction events generalizing data failed with
  | nil => rfl
  | cons event rest inductionHypothesis =>
      rw [deliver, deliver, agrees]
      cases callback' event data with
      | none => rfl
      | some result =>
          rcases result with ⟨next, reply⟩
          cases reply with
          | accept => exact inductionHypothesis next failed
          | reject message => exact inductionHypothesis next true

theorem processFrom_project
    (agrees : ∀ event data, callback event (project data) =
      (callback' event data).map fun called => (project called.1, called.2))
    (parser : StreamParser ParserState) (source : List Char) (state : ParserState) (data : Data')
    (failed : Bool) :
    processFrom parser callback state (project data) failed source =
      (processFrom parser callback' state data failed source).map fun result =>
        ProcessResult.mk result.accepted result.message (project result.data) := by
  induction source generalizing state data failed with
  | nil => rfl
  | cons c rest inductionHypothesis =>
      simp only [processFrom, deliver_project agrees]
      cases deliver callback' (parser.parse state c).2.2 data failed with
      | none => rfl
      | some outcome =>
          simp only [Option.map_some]
          split
          next => split <;> rfl
          next =>
            split
            next => rfl
            next =>
              split
              next => rfl
              next => exact inductionHypothesis ..

theorem recording_project (callback : Event → Data → Option (Data × Reply)) (event : Event)
    (data : Data × List Event) :
    callback event data.1 =
      (recording callback event data).map fun called => (called.1.1, called.2) := by
  rw [recording]
  cases callback event data.1 <;> rfl

/-- The events that `ProcessJson` delivers to the callback before it returns. -/
def deliveredEvents (parser : StreamParser ParserState)
    (callback : Event → Data → Option (Data × Reply)) (source : List Char) (data : Data) :
    Option (List Event) :=
  (processJson parser (recording callback) source (data, [])).map fun result => result.data.2

/-- The invariant rule for facts about the data and the events that led to it. -/
theorem processJson_events_invariant {invariant : List Event → Data → Prop}
    (preserved : ∀ event events data next reply, invariant events data →
      callback event data = some (next, reply) → invariant (events ++ [event]) next)
    (parser : StreamParser ParserState) {source : List Char} {data : Data}
    {result : ProcessResult Data} (initially : invariant [] data)
    (processed : processJson parser callback source data = some result) :
    ∃ events, deliveredEvents parser callback source data = some events ∧
      invariant events result.data := by
  have projected := processFrom_project (recording_project callback) parser source parser.init
    (data, []) false
  rw [show processFrom parser callback parser.init data false source = some result
    from processed] at projected
  obtain ⟨recorded, executed, rfl⟩ := Option.map_eq_some_iff.mp projected.symm
  refine ⟨recorded.data.2, by rw [deliveredEvents, processJson, executed, Option.map_some], ?_⟩
  apply @processFrom_invariant _ _ _ (fun data => invariant data.2 data.1) _ parser _ _ _ _ _
    initially executed
  rintro event ⟨before, events⟩ ⟨after, events'⟩ reply held called
  obtain ⟨⟨next, reply'⟩, calledPlain, equal⟩ := Option.map_eq_some_iff.mp called
  simp only [Prod.mk.injEq] at equal
  obtain ⟨⟨rfl, rfl⟩, rfl⟩ := equal
  exact preserved event events before next reply' held calledPlain

end

end XBotFirmware.Json
