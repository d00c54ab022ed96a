import XBotFirmware.Inputs.DriverLists

set_option autoImplicit false

/-!
When the inputs of a GPIO driver have a line.

`gpio.line` is set by the attribute "line" only, and nothing checks that an input
object has one.  So the lines are complete exactly when each object under a GPIO
driver gives a line, the last of which the board knows.
-/

namespace XBotFirmware.Inputs

open XBotFirmware.Library XBotFirmware.Emergency XBotFirmware.Json

/-- The driver that the key of a declaration selects drives GPIO lines. -/
def Declaration.IsGpio (registry : Registry) (declaration : Declaration) : Prop :=
  ∃ index name, driverIndex registry declaration.key = some index ∧
    registry[index]? = some (name, .gpio)

/-- Every input object under a GPIO driver names a line, and the last one is known. -/
def Declarations.Complete (externals : Externals) (registry : Registry)
    (declared : Declarations) : Prop :=
  ∀ declaration ∈ declared.inputs, declaration.IsGpio registry →
    ∃ name, declaration.lines.getLast? = some name ∧
      externals.getIoLineByName name ≠ palNoline

namespace InputService

/-- Every input in the list of a GPIO driver has a line that the board returned for
some name of the document. -/
def LinesSet (externals : Externals) (declared : Declarations) (service : InputService) : Prop :=
  ∀ (index : Nat) (entry : String × InputDriver) (positions : List Nat),
    service.drivers[index]? = some entry → entry.2.kind = .gpio →
    walk? (link service.allInputs) service.allInputs.length entry.2.inputsHead = some positions →
    ∀ position ∈ positions, ∃ input name declaration, service.allInputs[position]? = some input ∧
      declaration ∈ declared.inputs ∧ name ∈ declaration.lines ∧
      input.gpioLine = some (externals.getIoLineByName name) ∧
      externals.getIoLineByName name ≠ palNoline

variable {externals : Externals} {registry : Registry} {declared : Declarations}
  {service : InputService}

theorem Threaded.linesSet_iff (threaded : service.Threaded externals registry declared)
    (wellFormed : service.WellFormed) :
    service.LinesSet externals declared ↔ declared.Complete externals registry := by
  have lists := (threaded.partitioned wellFormed).lists
  obtain rfl := threaded.registered
  constructor
  · rintro linesSet declaration membership ⟨index, name, resolved, gpio⟩
    obtain ⟨place, found⟩ := List.mem_iff_getElem?.mp membership
    obtain ⟨entry, registered, kind⟩ : ∃ entry, service.drivers[index]? = some entry ∧
        entry.2.kind = .gpio := by
      rw [InputService.registry, List.getElem?_map] at gpio
      obtain ⟨entry, registered, equal⟩ := Option.map_eq_some_iff.mp gpio
      exact ⟨entry, registered, congrArg Prod.snd equal⟩
    have listed : place + 1 ∈ Declarations.positions service.registry declared.keys index := by
      refine Declarations.mem_positions.mpr ⟨declaration.key, by omega, ?_, resolved⟩
      simp [Declarations.keys, found]
    obtain ⟨input, given, _, present, _, _, line, known⟩ :=
      linesSet index entry _ registered kind (lists index entry registered) _ listed
    obtain ⟨input', present', _, gpioLine⟩ := threaded.inputs place declaration found
    obtain rfl := Option.some.inj (present.symm.trans present')
    rw [line] at gpioLine
    obtain ⟨last, ends, equal⟩ := Option.map_eq_some_iff.mp gpioLine.symm
    exact ⟨last, ends, equal ▸ known⟩
  · intro complete index entry positions registered kind walked position membership
    obtain rfl := Option.some.inj ((lists index entry registered).symm.trans walked)
    obtain ⟨key, positive, found, resolved⟩ := Declarations.mem_positions.mp membership
    rw [Declarations.keys, List.getElem?_map] at found
    obtain ⟨declaration, declaredHere, rfl⟩ := Option.map_eq_some_iff.mp found
    have isGpio : declaration.IsGpio service.registry := by
      refine ⟨index, entry.1, resolved, ?_⟩
      rw [InputService.registry, List.getElem?_map, registered, Option.map_some, kind]
    have member := List.mem_of_getElem? declaredHere
    obtain ⟨name, ends, known⟩ := complete declaration member isGpio
    obtain ⟨input, present, _, gpioLine⟩ := threaded.inputs _ declaration declaredHere
    rw [Nat.sub_add_cancel positive] at present
    rw [ends, Option.map_some] at gpioLine
    exact ⟨input, name, declaration, present, member, List.mem_of_getLast? ends, gpioLine, known⟩

variable {ParserState : Type} {parser : StreamParser ParserState}

/-- After a configuration, accepted or not, the lines of the GPIO inputs are set
exactly when the document names a known one in every input object of a GPIO driver. -/
theorem gpio_lines_set_iff {source : List Char} {result : ProcessResult ConfigState}
    (configured : service.onRegisterInputConfigsChanged externals parser source = some result) :
    ∃ events, deliveredEvents parser (inputConfigsJsonCallback externals) source
        service.configStart = some events ∧
      (result.data.service.LinesSet externals (Declarations.ofEvents service.registry events) ↔
        (Declarations.ofEvents service.registry events).Complete externals service.registry) := by
  have invariant := onRegisterInputConfigsChanged_invariant configured
  obtain ⟨events, delivered, threaded⟩ := onRegisterInputConfigsChanged_threaded configured
  exact ⟨events, delivered, threaded.service.linesSet_iff invariant.wellFormed⟩

end InputService

/-- The events of `{"gpio":[{}]}` by the position of the character that raises them. -/
def bareGpioEvents (position : Nat) : List Event :=
  let event (stackPos : Nat) (str : String) (type : StreamType) : List Event :=
    [⟨⟨stackPos, str, "", fun _ => ""⟩, type⟩]
  match position with
  | 0 => event 0 "" .object
  | 6 => event 1 "gpio" .key
  | 8 => event 2 "" .array
  | 9 => event 3 "" .object
  | 10 => event 3 "" .objectEnd
  | 11 => event 2 "" .arrayEnd
  | 12 => event 0 "" .objectEnd
  | _ => []

def bareGpioParser : StreamParser Nat where
  init := 0
  parse position _ :=
    (position + 1, if position = 12 then .streamDone else .streamInProg, bareGpioEvents position)

def bareGpioDocument : List Char := "\x7b\"gpio\":[\x7b\x7d]\x7d".toList

def bareGpioExternals : Externals := ⟨fun _ => 5, fun _ => none⟩

/-- The empty object is accepted, and the driver then lists an input without a line. -/
theorem bareGpio_accepted_without_line :
    ∃ result, twoLiftInitial.onRegisterInputConfigsChanged bareGpioExternals bareGpioParser
        bareGpioDocument = some result ∧ result.accepted = true ∧
      (∃ input, result.data.service.allInputs[1]? = some input ∧ input.gpioLine = none) ∧
      ∀ declared, ¬ result.data.service.LinesSet bareGpioExternals declared := by
  have evaluated : (twoLiftInitial.onRegisterInputConfigsChanged bareGpioExternals bareGpioParser
      bareGpioDocument).map (fun result => (result.accepted,
        result.data.service.drivers[0]?, result.data.service.allInputs.length,
        result.data.service.allInputs[1]?)) =
      some (true, some ("gpio", ⟨.gpio, some 1⟩), 2, some (Input.create 0)) := by decide +kernel
  obtain ⟨result, processed, values⟩ := Option.map_eq_some_iff.mp evaluated
  simp only [Prod.mk.injEq] at values
  obtain ⟨accepted, registered, length, created⟩ := values
  refine ⟨result, processed, accepted, ⟨_, created, rfl⟩, ?_⟩
  intro declared linesSet
  have walked : walk? (link result.data.service.allInputs) result.data.service.allInputs.length
      (some 1) = some [1] := by
    rw [length, walk?, link, created]
    rfl
  obtain ⟨input, name, _, found, _, _, line, _⟩ :=
    linesSet 0 _ _ registered rfl walked 1 (List.mem_singleton_self 1)
  obtain rfl := Option.some.inj (created.symm.trans found)
  cases line

/-- The events of `{"gpio":[{"line":"a"}]}`. -/
def linedGpioEvents (position : Nat) : List Event :=
  let event (stackPos : Nat) (str : String) (type : StreamType) : List Event :=
    [⟨⟨stackPos, str, "", fun _ => "line"⟩, type⟩]
  match position with
  | 0 => event 0 "" .object
  | 6 => event 1 "gpio" .key
  | 8 => event 2 "" .array
  | 9 => event 3 "" .object
  | 15 => event 4 "line" .key
  | 19 => event 5 "a" .string
  | 20 => event 3 "" .objectEnd
  | 21 => event 2 "" .arrayEnd
  | 22 => event 0 "" .objectEnd
  | _ => []

def linedGpioParser : StreamParser Nat where
  init := 0
  parse position _ :=
    (position + 1, if position = 22 then .streamDone else .streamInProg, linedGpioEvents position)

def linedGpioDocument : List Char := "\x7b\"gpio\":[\x7b\"line\":\"a\"\x7d]\x7d".toList

namespace InputService

/-- A document that is accepted, and whose one input has its line. -/
theorem gpio_lines_set_iff_lined :
    ∃ result events, twoLiftInitial.onRegisterInputConfigsChanged bareGpioExternals
        linedGpioParser linedGpioDocument = some result ∧ result.accepted = true ∧
      (Declarations.ofEvents twoLiftInitial.registry events).inputs = [⟨"gpio", ["a"]⟩] ∧
      result.data.service.LinesSet bareGpioExternals
        (Declarations.ofEvents twoLiftInitial.registry events) := by
  have evaluated : (twoLiftInitial.onRegisterInputConfigsChanged bareGpioExternals linedGpioParser
      linedGpioDocument).map ProcessResult.accepted = some true := by decide +kernel
  have declared : (deliveredEvents linedGpioParser (inputConfigsJsonCallback bareGpioExternals)
      linedGpioDocument twoLiftInitial.configStart).map (fun events =>
        (Declarations.ofEvents twoLiftInitial.registry events).inputs) =
      some [⟨"gpio", ["a"]⟩] := by decide +kernel
  obtain ⟨result, processed, accepted⟩ := Option.map_eq_some_iff.mp evaluated
  obtain ⟨events, delivered, complete⟩ := gpio_lines_set_iff processed
  rw [delivered, Option.map_some, Option.some.injEq] at declared
  refine ⟨result, events, processed, accepted, declared, complete.mpr ?_⟩
  intro declaration membership _
  rw [declared, List.mem_singleton] at membership
  subst membership
  exact ⟨"a", rfl, by decide⟩

end InputService

end XBotFirmware.Inputs
