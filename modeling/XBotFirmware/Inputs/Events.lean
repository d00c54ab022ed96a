import XBotFirmware.Inputs.DriverLists

set_option autoImplicit false

/-!
The events that the input service sends for each input.

An effective update of a configured input sends the events of its change, between the
broadcasts of the virtual input and of the input itself.  Every other update sends nothing.
-/

namespace XBotFirmware.Inputs

open XBotFirmware.Library XBotFirmware.Platform XBotFirmware.Emergency XBotFirmware.Json

/-- The types of the events with an index, in the order in which they were sent. -/
def eventsOf (idx : BitVec 8) (outputs : List InputOutput) : List InputEventType :=
  outputs.filterMap fun
    | .inputEvent other type => if other = idx then some type else none
    | _ => none

@[simp]
theorem eventsOf_append (idx : BitVec 8) (first second : List InputOutput) :
    eventsOf idx (first ++ second) = eventsOf idx first ++ eventsOf idx second :=
  List.filterMap_append

theorem eventsOf_eq_nil {idx : BitVec 8} {outputs : List InputOutput}
    (absent : ∀ type, InputOutput.inputEvent idx type ∉ outputs) : eventsOf idx outputs = [] := by
  apply List.filterMap_eq_nil_iff.mpr
  intro output membership
  cases output with
  | inputEvent other type =>
      by_cases same : other = idx
      · subst same
        exact absurd membership (absent type)
      · simp [same]
  | activeInputs mask => rfl
  | inputsChanged => rfl

/-- `duration >= 500'000 ? LONG : SHORT`, for a press from one time to another. -/
def pressType (press : Micros × Micros) : InputEventType :=
  if 500000 ≤ (press.2 - press.1).toNat then .long else .short

/-- The presses of an input: those that are over, and the start of the one that is not. -/
structure Presses where
  finished : List (Micros × Micros)
  current : Option Micros
  deriving DecidableEq, Repr

namespace Presses

def changes (presses : Presses) : List (Bool × Micros) :=
  presses.finished.flatMap (fun press => [(true, press.1), (false, press.2)]) ++
    presses.current.toList.map fun start => (true, start)

/-- ACTIVE, INACTIVE and SHORT or LONG for each press, and ACTIVE for the last one. -/
def events (presses : Presses) : List InputEventType :=
  presses.finished.flatMap (fun press => [.active, .inactive, pressType press]) ++
    presses.current.toList.map fun _ => .active

structure Tracks (presses : Presses) (input : Input) : Prop where
  active : input.active = presses.current.isSome
  activeSince : ∀ start ∈ presses.current, input.activeSince = start

def change (presses : Presses) (now : Micros) : Presses :=
  match presses.current with
  | none => { presses with current := some now }
  | some start => ⟨presses.finished ++ [(start, now)], none⟩

variable {presses : Presses} {input : Input}

theorem changes_change (tracks : presses.Tracks input) {level : Bool}
    (different : input.active ≠ level) (now : Micros) :
    (presses.change now).changes = presses.changes ++ [(level, now)] := by
  have active := tracks.active
  cases running : presses.current with
  | none =>
      rw [running] at active
      have raised : level = true := by simpa [active] using different
      simp [change, changes, running, raised]
  | some start =>
      rw [running] at active
      have lowered : level = false := by simpa [active] using different
      simp [change, changes, running, lowered]

/-- The events of a change are those by which the presses grow. -/
theorem events_change (tracks : presses.Tracks input) {level : Bool}
    (different : input.active ≠ level) (now : Micros) :
    (presses.change now).events = presses.events ++ eventsOf input.idx
      (InputService.changeEvents input.idx level
        ((input.exchange level now).activeDuration now)) := by
  have active := tracks.active
  cases running : presses.current with
  | none =>
      rw [running] at active
      have raised : level = true := by simpa [active] using different
      simp [change, events, running, raised, InputService.changeEvents, eventsOf]
  | some start =>
      rw [running] at active
      have lowered : level = false := by simpa [active] using different
      have since := tracks.activeSince start running
      simp [change, events, running, lowered, InputService.changeEvents, eventsOf, pressType,
        Input.activeDuration, Input.exchange, since, BitVec.le_def]

theorem tracks_change (tracks : presses.Tracks input) {level : Bool}
    (different : input.active ≠ level) (now : Micros) :
    (presses.change now).Tracks (input.exchange level now) := by
  have active := tracks.active
  cases running : presses.current with
  | none =>
      rw [running] at active
      have raised : level = true := by simpa [active] using different
      refine ⟨by simp [change, running, raised, Input.exchange], ?_⟩
      intro start started
      simpa [change, running, raised, Input.exchange] using started
  | some start =>
      rw [running] at active
      have lowered : level = false := by simpa [active] using different
      refine ⟨by simp [change, running, lowered, Input.exchange], ?_⟩
      intro other started
      simp [change, running] at started

/-- An input is active exactly when the last event is ACTIVE. -/
theorem Tracks.active_iff (tracks : presses.Tracks input) :
    input.active = true ↔ presses.events.getLast? = some .active := by
  rw [tracks.active]
  cases running : presses.current with
  | some start => simp [events, running]
  | none =>
      cases last : presses.finished.getLast? with
      | none =>
          have empty : presses.finished = [] := List.getLast?_eq_none_iff.mp last
          simp [events, running, empty]
      | some press =>
          obtain ⟨earlier, finished⟩ := List.getLast?_eq_some_iff.mp last
          simp [events, running, finished, pressType]
          split <;> simp

end Presses

theorem inputConfigsJsonCallback_outbox {externals : Externals} {event : Event}
    {state next : ConfigState} {reply : Reply}
    (called : inputConfigsJsonCallback externals event state = some (next, reply)) :
    next.service.outbox = state.service.outbox := by
  rcases inputConfigsJsonCallback_cases called with ⟨service, _⟩ | begun | ⟨edit, _, edited⟩
  · rw [service]
  · obtain rfl | ⟨_, _, _, _, _, _, _, _, rfl⟩ := ConfigState.beginInput_eq_some begun
    · rfl
    · rfl
  · obtain ⟨_, ⟨_, rfl⟩ | ⟨_, _, _, _, _, _, rfl⟩⟩ := ConfigState.edit_eq_some edited
    · rfl
    · rfl

namespace InputService

variable {readings : List Micros} {service after : InputService} {position : Nat} {input : Input}
  {newActive changed : Bool}

theorem onRegisterInputConfigsChanged_outbox {ParserState : Type} {externals : Externals}
    {parser : StreamParser ParserState} {source : List Char} {result : ProcessResult ConfigState}
    (configured : service.onRegisterInputConfigsChanged externals parser source = some result) :
    result.data.service.outbox = service.outbox := by
  let invariant (state : ConfigState) := state.service.outbox = service.outbox
  have kept : invariant ⟨service.resetInputs, ⟨none, none, 0⟩⟩ := rfl
  exact processJson_invariant
    (fun event state next reply held called => (inputConfigsJsonCallback_outbox called).trans held)
    parser kept configured

/-- What an effective update of a configured input sends, and when. -/
def Sends (readings : List Micros) (service : InputService) (position : Nat) (input : Input)
    (level : Bool) (after : InputService) : Prop :=
  ∃ now later broadcasts, readings = now :: later ∧
    after.allInputs[position]? = some (input.exchange level now) ∧
    (∀ output ∈ broadcasts, output = .inputsChanged) ∧
    after.outbox = service.outbox ++ (broadcasts ++
      (changeEvents input.idx level ((input.exchange level now).activeDuration now) ++
        [.inputsChanged]))

theorem update_sends (wellFormed : service.WellFormed)
    (found : service.allInputs[position]? = some input) (notVirtual : input.idx ≠ virtualIdx)
    (updated : update readings service position newActive = some (changed, after)) :
    (input.active = input.target newActive ∧ after = service) ∨
      (input.active ≠ input.target newActive ∧
        Sends readings service position input (input.target newActive) after) := by
  obtain ⟨nonzero, _⟩ := wellFormed.configured found notVirtual
  rcases update_effective wellFormed found notVirtual updated with
    unchanged | ⟨different, now, later, counted, rfl, effect, rfl⟩
  · exact .inl unchanged
  · obtain ⟨broadcasts, outbox, silent⟩ := effect.outbox
    obtain ⟨_, virtual', _, inputs, _⟩ := effect.inputs
    refine .inr ⟨different, now, later, broadcasts, rfl, ?_, silent, ?_⟩
    · rw [send_allInputs, send_allInputs, inputs, List.getElem?_set_ne (Ne.symm nonzero)]
      exact List.getElem?_set_self (List.getElem?_eq_some_iff.mp found).choose
    · simp only [send, outbox, List.append_assoc]
      rfl

/-- All that is sent in an update are broadcasts and events of the updated input. -/
theorem Sends.events {level : Bool} (sends : Sends readings service position input level after) :
    ∃ sent now, after.outbox = service.outbox ++ sent ∧
      after.allInputs[position]? = some (input.exchange level now) ∧ readings.head? = some now ∧
      eventsOf input.idx sent = eventsOf input.idx
        (changeEvents input.idx level ((input.exchange level now).activeDuration now)) ∧
      ∀ idx type, .inputEvent idx type ∈ sent → idx = input.idx := by
  obtain ⟨now, later, broadcasts, rfl, present, silent, outbox⟩ := sends
  have quiet : eventsOf input.idx broadcasts = [] := by
    apply eventsOf_eq_nil
    intro type membership
    cases silent _ membership
  refine ⟨_, now, outbox, present, rfl, ?_, ?_⟩
  · rw [eventsOf_append, eventsOf_append, quiet]
    exact List.append_nil _
  · intro idx type membership
    rcases List.mem_append.mp membership with broadcast | event
    · cases silent _ broadcast
    · cases level <;> simp [changeEvents] at event
      · exact event.elim And.left And.left
      · exact event.1

def changeAt (position : Nat) (service next : InputService) (op : InputOp) :
    List (Bool × Micros) :=
  match op, service.allInputs[position]?, next.allInputs[position]? with
  | .update (now :: _) _ _, some before, some after =>
      if before.active = after.active then [] else [(after.active, now)]
  | _, _, _ => []

variable {ParserState : Type} {externals : Externals} {parser : StreamParser ParserState}
  {registry : Registry} {declared : Declarations} {presses : Presses}

def changesAlong (externals : Externals) (parser : StreamParser ParserState) (position : Nat) :
    InputService → List InputOp → List (Bool × Micros)
  | _, [] => []
  | service, op :: rest =>
      match service.step externals parser op with
      | none => []
      | some next =>
          changeAt position service next op ++ changesAlong externals parser position next rest

theorem changeAt_of_same {next : InputService} (op : InputOp)
    (same : next.allInputs[position]? = service.allInputs[position]?) :
    changeAt position service next op = [] := by
  unfold changeAt
  split
  next now later place level before after foundBefore foundAfter =>
    rw [same, foundBefore, Option.some.injEq] at foundAfter
    rw [if_pos (congrArg Input.active foundAfter)]
  next => rfl

/-- The presses go on from one state to another, by what was sent and what has changed. -/
def Continues (position : Nat) (input : Input) (presses : Presses) (service : InputService)
    (changes : List (Bool × Micros)) (after : InputService) : Prop :=
  ∃ (sent : List InputOutput) (input' : Input) (presses' : Presses),
    after.outbox = service.outbox ++ sent ∧
    after.allInputs[position]? = some input' ∧ input'.idx = input.idx ∧
    presses'.Tracks input' ∧ presses'.changes = presses.changes ++ changes ∧
    presses'.events = presses.events ++ eventsOf input.idx sent

theorem Continues.of_unsent (found : service.allInputs[position]? = some input)
    (tracks : presses.Tracks input) : Continues position input presses service [] service :=
  ⟨[], input, presses, (List.append_nil _).symm, found, rfl, tracks, (List.append_nil _).symm,
    (List.append_nil _).symm⟩

theorem step_continues (wellFormed : service.WellFormed)
    (threaded : service.Threaded externals registry declared)
    (found : service.allInputs[position]? = some input) (nonzero : position ≠ 0)
    (tracks : presses.Tracks input) {op : InputOp} (isUpdate : op.IsUpdate)
    (stepped : service.step externals parser op = some after) :
    Continues position input presses service (changeAt position service after op) after := by
  cases op with
  | configure source => cases isUpdate
  | update readings place newActive =>
      obtain ⟨updatedInput, changed, foundUpdated, notVirtual, returned⟩ :=
        updateByDriver_eq_some stepped
      have followedAt := update_followedAt wellFormed foundUpdated notVirtual returned
      have placeNonzero := (wellFormed.configured foundUpdated notVirtual).1
      rcases update_sends wellFormed foundUpdated notVirtual returned with
        ⟨_, rfl⟩ | ⟨different, sends⟩
      · rw [changeAt_of_same _ rfl]
        exact .of_unsent found tracks
      · obtain ⟨sent, now, outbox, present, first, ownEvents, onlyOwn⟩ := sends.events
        by_cases here : position = place
        · subst here
          obtain rfl : input = updatedInput := Option.some.inj (found.symm.trans foundUpdated)
          obtain ⟨later, rfl⟩ : ∃ later, readings = now :: later := List.head?_eq_some_iff.mp first
          have change : changeAt position service after
              (.update (now :: later) position newActive) = [(input.target newActive, now)] := by
            simp only [changeAt, found, present]
            exact if_neg different
          refine ⟨sent, input.exchange (input.target newActive) now, presses.change now, outbox,
            present, rfl, Presses.tracks_change tracks different now, ?_, ?_⟩
          · rw [change]
            exact Presses.changes_change tracks different now
          · rw [ownEvents]
            exact Presses.events_change tracks different now
        · have unchanged := followedAt.others position here nonzero
          have partitioned := threaded.partitioned wellFormed
          have indexHere := (partitioned.idx position input found nonzero).1
          have indexThere := (partitioned.idx place updatedInput foundUpdated placeNonzero).1
          have quiet : eventsOf input.idx sent = [] := by
            apply eventsOf_eq_nil
            intro type membership
            have same := congrArg BitVec.toNat (onlyOwn input.idx type membership)
            omega
          refine ⟨sent, input, presses, outbox, unchanged.trans found, rfl, tracks, ?_, ?_⟩
          · rw [changeAt_of_same _ unchanged, List.append_nil]
          · rw [quiet, List.append_nil]

theorem run_continues {updates : List InputOp} (recent : ∀ op ∈ updates, op.IsUpdate)
    (wellFormed : service.WellFormed) (threaded : service.Threaded externals registry declared)
    (found : service.allInputs[position]? = some input) (nonzero : position ≠ 0)
    (tracks : presses.Tracks input)
    (executed : run (step externals parser) service updates = some after) :
    Continues position input presses service
      (changesAlong externals parser position service updates) after := by
  induction updates generalizing service input presses with
  | nil =>
      cases executed
      exact .of_unsent found tracks
  | cons op rest inductionHypothesis =>
      obtain ⟨isUpdate, recentRest⟩ := List.forall_mem_cons.mp recent
      obtain ⟨next, stepped, remaining⟩ := run_cons_eq_some.mp executed
      obtain ⟨nextWellFormed, nextThreaded⟩ := threaded_of_updates
        (List.forall_mem_singleton.mpr isUpdate) wellFormed threaded
        (run_cons_eq_some.mpr ⟨next, stepped, rfl⟩)
      obtain ⟨sent, input', presses', outbox, present, sameIdx, tracks', changes, events⟩ :=
        step_continues wellFormed threaded found nonzero tracks isUpdate stepped
      obtain ⟨later, input'', presses'', outbox', present', sameIdx', tracks'', changes',
        events'⟩ := inductionHypothesis recentRest nextWellFormed nextThreaded present tracks'
          remaining
      refine ⟨sent ++ later, input'', presses'', ?_, present', sameIdx'.trans sameIdx, tracks'',
        ?_, ?_⟩
      · rw [outbox', outbox, List.append_assoc]
      · rw [changes', changes, changesAlong, stepped, List.append_assoc]
      · rw [events', events, sameIdx, eventsOf_append, List.append_assoc]

/-- Operations only add to what was sent, and never an event of the virtual input. -/
theorem step_outbox (invariant : service.Invariant) {op : InputOp}
    (stepped : service.step externals parser op = some after) :
    ∃ sent, after.outbox = service.outbox ++ sent ∧
      ∀ type, .inputEvent virtualIdx type ∉ sent := by
  have nothing : ∀ type, InputOutput.inputEvent virtualIdx type ∉ [] :=
    fun _ => List.not_mem_nil
  cases op with
  | configure source =>
      obtain ⟨result, configured, rfl⟩ := Option.map_eq_some_iff.mp stepped
      refine ⟨[], ?_, nothing⟩
      rw [onRegisterInputConfigsChanged_outbox configured, List.append_nil]
  | update readings position newActive =>
      obtain ⟨input, changed, found, notVirtual, returned⟩ := updateByDriver_eq_some stepped
      rcases invariant with unconfigured | ⟨wellFormed, _⟩
      · simp [unconfigured.inputs] at found
      · rcases update_sends wellFormed found notVirtual returned with ⟨_, rfl⟩ | ⟨_, sends⟩
        · exact ⟨[], (List.append_nil _).symm, nothing⟩
        · obtain ⟨sent, _, outbox, _, _, _, onlyOwn⟩ := sends.events
          exact ⟨sent, outbox, fun type membership =>
            notVirtual (onlyOwn virtualIdx type membership).symm⟩

theorem run_outbox {ops : List InputOp} (invariant : service.Invariant)
    (executed : run (step externals parser) service ops = some after) :
    ∃ sent, after.outbox = service.outbox ++ sent ∧
      ∀ type, .inputEvent virtualIdx type ∉ sent := by
  induction ops generalizing service with
  | nil =>
      cases executed
      exact ⟨[], (List.append_nil _).symm, fun _ => List.not_mem_nil⟩
  | cons op rest inductionHypothesis =>
      obtain ⟨next, stepped, remaining⟩ := run_cons_eq_some.mp executed
      obtain ⟨sent, outbox, absent⟩ := step_outbox invariant stepped
      obtain ⟨later, outbox', absent'⟩ := inductionHypothesis
        (step_invariant externals parser service op next invariant stepped) remaining
      refine ⟨sent ++ later, by rw [outbox', outbox, List.append_assoc], ?_⟩
      intro type membership
      exact (List.mem_append.mp membership).elim (absent type) (absent' type)

theorem step_unsent (wellFormed : service.WellFormed)
    (stepped : service.step externals parser (.update readings position newActive) = some after)
    (same : after.allInputs[position]?.map Input.active =
      service.allInputs[position]?.map Input.active) : after.outbox = service.outbox := by
  obtain ⟨input, changed, found, notVirtual, returned⟩ := updateByDriver_eq_some stepped
  rcases update_sends wellFormed found notVirtual returned with ⟨_, rfl⟩ | ⟨different, sends⟩
  · rfl
  · obtain ⟨_, _, _, present, _⟩ := sends.events
    rw [found, present, Option.map_some, Option.map_some, Option.some.injEq] at same
    exact absurd same.symm different

theorem pressType_eq_long_iff {since now : Nat} (ordered : since ≤ now) :
    pressType (getTimeMicros since, getTimeMicros now) = .long ↔
      500000 ≤ 100 * (now - since) % 2 ^ 32 := by
  rw [pressType, toNat_getTimeMicros_sub ordered]
  split <;> simp_all

/-- Between two configurations the events of each input are those of its presses: ACTIVE,
INACTIVE and SHORT or LONG by the time in between, over and over, with ACTIVE last exactly
while the input is active.  An update without a change sends nothing, and the virtual
input never has an event. -/
theorem input_event_protocol {drivers : List (String × InputDriver)}
    {before updates : List InputOp} {source : List Char} {configured : InputService}
    (configures : run (step externals parser) (initial drivers)
      (before ++ [.configure source]) = some configured)
    (recent : ∀ op ∈ updates, op.IsUpdate)
    (executed : run (step externals parser) configured updates = some after) :
    (∀ type, .inputEvent virtualIdx type ∉ after.outbox) ∧
    AtEveryStep (step externals parser) configured updates (fun service op next =>
      ∀ readings position newActive, op = .update readings position newActive →
        next.allInputs[position]?.map Input.active =
          service.allInputs[position]?.map Input.active →
        next.outbox = service.outbox) ∧
    (∀ since now, since ≤ now →
      (pressType (getTimeMicros since, getTimeMicros now) = .long ↔
        500000 ≤ 100 * (now - since) % 2 ^ 32)) ∧
    ∃ sent, after.outbox = configured.outbox ++ sent ∧
      ∀ position input, after.allInputs[position]? = some input → input.idx ≠ virtualIdx →
        ∃ presses : Presses,
          changesAlong externals parser position configured updates = presses.changes ∧
          eventsOf input.idx sent = presses.events ∧
          (input.active = true ↔ (eventsOf input.idx sent).getLast? = some .active) := by
  obtain ⟨_, events, _, _, wellFormed, threaded, inactive⟩ :=
    threaded_of_configured (List.forall_mem_nil InputOp.IsUpdate) configures
  have allInactive := (inactive rfl).2
  have invariant : configured.Invariant := run_invariant (step_invariant externals parser)
    (initial_invariant drivers) configures
  obtain ⟨afterWellFormed, afterThreaded⟩ :=
    threaded_of_updates recent wellFormed threaded executed
  refine ⟨?_, ?_, fun since now ordered => pressType_eq_long_iff ordered, ?_⟩
  · have whole := run_append_eq_some.mpr ⟨configured, configures, executed⟩
    obtain ⟨sent, outbox, absent⟩ := run_outbox (initial_invariant drivers) whole
    rw [outbox]
    exact absent
  · intro earlier op later service next split reached stepped readings position newActive isUpdate
      same
    subst isUpdate
    have recentEarlier : ∀ op ∈ earlier, op.IsUpdate :=
      fun op membership => recent op (split ▸ List.mem_append_left _ membership)
    exact step_unsent (threaded_of_updates recentEarlier wellFormed threaded reached).1 stepped same
  · obtain ⟨sent, outbox, _⟩ := run_outbox invariant executed
    refine ⟨sent, outbox, ?_⟩
    intro position input present notVirtual
    have nonzero := (afterWellFormed.configured present notVirtual).1
    have inside : position < configured.allInputs.length := by
      have bound := (List.getElem?_eq_some_iff.mp present).choose
      rwa [afterThreaded.length, ← threaded.length] at bound
    have found := List.getElem?_eq_getElem inside
    -- Right after the configuration nothing is active and nothing was sent.
    have start : Presses.Tracks ⟨[], none⟩ configured.allInputs[position] :=
      ⟨allInactive _ (List.mem_of_getElem? found),
        fun start running => absurd running (Option.not_mem_none start)⟩
    obtain ⟨sent', input', presses, outbox', present', sameIdx, tracks, changes, events⟩ :=
      run_continues recent wellFormed threaded found nonzero start executed
    obtain rfl := Option.some.inj (present.symm.trans present')
    obtain rfl := List.append_cancel_left (outbox.symm.trans outbox')
    rw [sameIdx]
    have sentEvents : eventsOf configured.allInputs[position].idx sent = presses.events :=
      events.symm
    exact ⟨presses, changes.symm, sentEvents, sentEvents ▸ tracks.active_iff⟩

/-- The first input is pressed for more than half a second, and the second one held. -/
theorem input_event_protocol_twoLift :
    ∃ configured after sent,
      run (step twoLiftExternals twoLiftParser) twoLiftInitial
        ([] ++ [.configure twoLiftDocument]) = some configured ∧
      run (step twoLiftExternals twoLiftParser) configured
        [.update [500] 1 true, .update [900, 900] 2 true, .update [950] 1 true,
          .update [600500, 600500] 1 false] = some after ∧
      after.outbox = configured.outbox ++ sent ∧
      eventsOf 0 sent = [.active, .inactive, .long] ∧ eventsOf 1 sent = [.active] ∧
      (∀ type, .inputEvent virtualIdx type ∉ after.outbox) := by
  have evaluated : (run (step twoLiftExternals twoLiftParser) twoLiftInitial
      ([] ++ [.configure twoLiftDocument])).map (fun configured => (configured.outbox,
        (run (step twoLiftExternals twoLiftParser) configured
          [.update [500] 1 true, .update [900, 900] 2 true, .update [950] 1 true,
            .update [600500, 600500] 1 false]).map fun after =>
          (eventsOf 0 after.outbox, eventsOf 1 after.outbox))) =
      some ([], some ([.active, .inactive, .long], [.active])) := by decide +kernel
  obtain ⟨configured, configures, values⟩ := Option.map_eq_some_iff.mp evaluated
  obtain ⟨empty, ran⟩ := Prod.mk.inj values
  obtain ⟨after, executed, types⟩ := Option.map_eq_some_iff.mp ran
  obtain ⟨first, second⟩ := Prod.mk.inj types
  obtain ⟨absent, _, _, sent, outbox, _⟩ :=
    input_event_protocol configures (by simp [InputOp.IsUpdate]) executed
  have all : after.outbox = sent := by rw [outbox, empty, List.nil_append]
  exact ⟨configured, after, sent, configures, executed, outbox, all ▸ first, all ▸ second, absent⟩

end InputService

end XBotFirmware.Inputs
