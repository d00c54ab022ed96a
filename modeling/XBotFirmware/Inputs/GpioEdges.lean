import XBotFirmware.Inputs.GpioThread

set_option autoImplicit false

/-!
No edge of a GPIO line is lost.

An input that does not show the level of its line is waited for: its line owes an
interrupt, the event is pending, or the tick after the event was cleared has still
to come to it.  And a pending event is seen before the thread sleeps: the mailbox
holds an item, or `OnLoop` has still to be called.
-/

namespace XBotFirmware.Inputs

open XBotFirmware.Library XBotFirmware.Platform XBotFirmware.Json

namespace InputService

variable {externals : Externals} {service after : InputService}

/-- Not configured yet, or as a configuration has left it. -/
def Sound (externals : Externals) (service : InputService) : Prop :=
  service.allInputs = [] ∨
    (service.WellFormed ∧ ∃ declared, service.Threaded externals service.registry declared)

def GpioInput (service : InputService) (position : Nat) : Prop :=
  ∃ head, service.gpioHead = some head ∧ Ahead (link service.allInputs) head position

theorem Sound.gpioInput {position : Nat} {input : Input} (sound : service.Sound externals)
    (gpio : service.GpioInput position) (found : service.allInputs[position]? = some input) :
    service.WellFormed ∧ position ≠ 0 ∧ input.idx ≠ virtualIdx := by
  rcases sound with none | ⟨wellFormed, declared, threaded⟩
  · rw [none] at found
    cases found
  · obtain ⟨head, first, ahead⟩ := gpio
    obtain ⟨entry, registered, rfl⟩ := Option.map_eq_some_iff.mp first
    obtain ⟨index, inside, value⟩ :=
      List.getElem_of_mem (List.mem_of_find?_eq_some registered)
    have chain := threaded.lists index entry (List.getElem?_eq_some_iff.mpr ⟨inside, value⟩)
    have bounds := Declarations.positions_bounds (chain.mem_of_ahead ahead)
    have nonzero : position ≠ 0 := by omega
    exact ⟨wellFormed, nonzero, wellFormed.notVirtual found nonzero⟩

/-- What `Update` of an input of the GPIO driver changes. -/
structure UpdatedGpio (externals : Externals) (service : InputService) (position : Nat)
    (input : Input) (level : Bool) (after : InputService) : Prop where
  sound : after.Sound externals
  gpioHead : after.gpioHead = service.gpioHead
  link : link after.allInputs = link service.allInputs
  updated : ∃ input', after.allInputs[position]? = some input' ∧
    input'.active = (level ^^ input.invert) ∧ input'.invert = input.invert ∧
    input'.gpioLine = input.gpioLine
  others : ∀ other, other ≠ position → other ≠ 0 →
    after.allInputs[other]? = service.allInputs[other]?

theorem Sound.update {readings : List Micros} {position : Nat} {level changed : Bool}
    {input : Input} (sound : service.Sound externals) (gpio : service.GpioInput position)
    (found : service.allInputs[position]? = some input)
    (updated : service.update readings position level = some (changed, after)) :
    UpdatedGpio externals service position input level after := by
  obtain ⟨wellFormed, nonzero, notVirtual⟩ := sound.gpioInput gpio found
  have evolved := update_evolved wellFormed found notVirtual updated
  have followedAt := update_followedAt wellFormed found notVirtual updated
  have registry : after.registry = service.registry := by
    rw [registry, evolved.drivers]
    rfl
  refine ⟨?_, ?_, evolved.link_eq, ?_, ?_⟩
  · rcases sound with none | ⟨_, declared, threaded⟩
    · rw [none] at found
      cases found
    · exact .inr ⟨evolved.wellFormed wellFormed, declared, registry ▸ evolved.threaded threaded⟩
  · rw [gpioHead, gpioHead, evolved.drivers]
  · obtain ⟨input', present, same, active⟩ := followedAt.updated
    exact ⟨input', present, active, same.2.1.symm, same.2.2.2.2.1.symm⟩
  · exact followedAt.others

end InputService

namespace ThreadPhase

def rest : ThreadPhase → Option Nat
  | .ticking _ _ current => current
  | .updating _ _ position _ => some position
  | _ => none

def InTick : ThreadPhase → Prop
  | .ticking _ _ _ | .updating _ _ _ _ => True
  | _ => False

/-- Between `chEvtGetAndClearEvents` of `OnLoop` and the end of the tick that follows. -/
def Cleared : ThreadPhase → Prop
  | .ticking _ cleared _ | .updating _ cleared _ _ => cleared = true
  | _ => False

/-- `OnLoop` comes before the next `queuePopItem`. -/
def OwesLoop : ThreadPhase → Prop
  | .awake looped | .ticking looped _ _ | .updating looped _ _ _ => looped = false
  | .popping => False

theorem not_inTick_of_awake {phase : ThreadPhase} {looped : Bool} (awake : phase = .awake looped) :
    ¬phase.InTick := by
  rw [awake]
  exact id

theorem rest_of_not_inTick {phase : ThreadPhase} (outside : ¬phase.InTick) : phase.rest = none := by
  cases phase with
  | popping => rfl
  | awake looped => rfl
  | ticking looped cleared current => exact absurd trivial outside
  | updating looped cleared position level => exact absurd trivial outside

end ThreadPhase

namespace GpioSystem

variable {capacity : Nat} {ParserState : Type} {externals : Externals}
  {parser : StreamParser ParserState} {system next : GpioSystem capacity}

def Shows (system : GpioSystem capacity) (input : Input) : Prop :=
  ∃ line, input.gpioLine = some line ∧ input.active = (system.levels line ^^ input.invert)

def Owes (system : GpioSystem capacity) (input : Input) : Prop :=
  ∃ line, input.gpioLine = some line ∧ system.owed line = true

/-- The input shows the level of its line, or a change of the line is still to be seen. -/
def FollowsLine (system : GpioSystem capacity) (input : Input) : Prop :=
  system.Shows input ∨ system.Owes input ∨ system.triggered = true

structure Invariant (externals : Externals) (system : GpioSystem capacity) : Prop where
  sound : system.input.Sound externals
  woken : system.triggered = true → system.mailbox.items ≠ [] ∨ system.phase.OwesLoop
  inside : ∀ position, Ahead (link system.input.allInputs) system.phase.rest position →
    system.input.GpioInput position
  reading : system.watching = true → ∀ looped cleared position level,
    system.phase = .updating looped cleared position level →
    ∃ input line, system.input.allInputs[position]? = some input ∧ input.gpioLine = some line ∧
      (level = system.levels line ∨ system.owed line = true ∨ system.triggered = true)
  settled : system.watching = true → system.ticked = true ∨ system.phase.InTick →
    ∀ position input, system.input.GpioInput position →
      system.input.allInputs[position]? = some input →
      system.FollowsLine input ∨
        (Ahead (link system.input.allInputs) system.phase.rest position ∧
          (system.phase.Cleared ∨ system.ticked = false))

theorem boot_invariant (drivers : List (String × InputDriver)) (levels : IoLine → Bool) :
    (boot capacity drivers levels).Invariant externals := by
  refine ⟨.inl rfl, ?_, ?_, ?_, ?_⟩
  · intro triggered
    cases triggered
  · intro position ahead
    exact absurd ahead not_ahead_none
  · intro watching
    cases watching
  · intro watching
    cases watching

theorem Invariant.edge (invariant : system.Invariant externals) (line : IoLine) :
    Invariant externals { system with
      levels := Function.update system.levels line (!system.levels line)
      owed := if system.watching then Function.update system.owed line true else system.owed } := by
  refine ⟨invariant.sound, invariant.woken, invariant.inside, ?_, ?_⟩
  · intro watching looped cleared position level phase
    obtain ⟨input, other, found, named, fresh⟩ :=
      invariant.reading watching looped cleared position level phase
    refine ⟨input, other, found, named, ?_⟩
    have watched : system.watching = true := watching
    simp only [watched, if_true]
    by_cases same : other = line
    · subst same
      exact .inr (.inl (Function.update_self ..))
    · rw [Function.update_of_ne same, Function.update_of_ne same]
      exact fresh
  · intro watching due position input gpio found
    have watched : system.watching = true := watching
    apply Or.imp_left _ (invariant.settled watching due position input gpio found)
    simp only [FollowsLine, Shows, Owes, watched, if_true]
    rintro (⟨other, named, shows⟩ | ⟨other, named, owes⟩ | pending)
    · by_cases same : other = line
      · subst same
        exact .inr (.inl ⟨other, named, Function.update_self ..⟩)
      · exact .inl ⟨other, named, by rw [Function.update_of_ne same, shows]⟩
    · refine .inr (.inl ⟨other, named, ?_⟩)
      by_cases same : other = line
      · rw [same, Function.update_self]
      · rw [Function.update_of_ne same, owes]
    · exact .inr (.inr pending)

theorem Invariant.interrupt (invariant : system.Invariant externals) (positive : 0 < capacity)
    (line : IoLine) :
    Invariant externals
      { system with owed := Function.update system.owed line false }.sendEvent := by
  refine ⟨invariant.sound, ?_, invariant.inside, ?_, ?_⟩
  · intro _
    exact .inl (system.mailbox.post_ne_nil .null positive)
  · intro watching looped cleared position level phase
    obtain ⟨input, other, found, named, _⟩ :=
      invariant.reading watching looped cleared position level phase
    exact ⟨input, other, found, named, .inr (.inr rfl)⟩
  · intro _ _ position input _ _
    exact .inl (.inr (.inr rfl))

theorem Invariant.pushPacket (invariant : system.Invariant externals) (positive : 0 < capacity) :
    Invariant externals { system with mailbox := system.mailbox.post .packet } :=
  ⟨invariant.sound, fun _ => .inl (system.mailbox.post_ne_nil .packet positive),
    invariant.inside, invariant.reading, invariant.settled⟩

theorem Invariant.settled_outside {position : Nat} {input : Input}
    (invariant : system.Invariant externals) (outside : ¬system.phase.InTick)
    (watching : system.watching = true) (ticked : system.ticked = true)
    (gpio : system.input.GpioInput position)
    (found : system.input.allInputs[position]? = some input) : system.FollowsLine input := by
  apply (invariant.settled watching (.inl ticked) position input gpio found).resolve_right
  rintro ⟨ahead, _⟩
  rw [ThreadPhase.rest_of_not_inTick outside] at ahead
  exact not_ahead_none ahead

theorem Invariant.move {phase : ThreadPhase} {mailbox : Mailbox QueueItem capacity}
    (invariant : system.Invariant externals) (before : ¬system.phase.InTick)
    (after : ¬phase.InTick)
    (woken : system.triggered = true → mailbox.items ≠ [] ∨ phase.OwesLoop) :
    Invariant externals { system with mailbox := mailbox, phase := phase } := by
  refine ⟨invariant.sound, woken, ?_, ?_, ?_⟩
  · intro position ahead
    rw [ThreadPhase.rest_of_not_inTick after] at ahead
    exact absurd ahead not_ahead_none
  · rintro _ looped cleared position level rfl
    exact absurd trivial after
  · intro watching due position input gpio found
    have ticked : system.ticked = true := due.resolve_right after
    exact .inl (invariant.settled_outside before watching ticked gpio found)

/-- A tick that begins is going to see every input. -/
theorem beginTick_invariant {looped cleared : Bool} (sound : system.input.Sound externals)
    (woken : system.triggered = true → system.mailbox.items ≠ [] ∨ looped = false)
    (due : system.watching = true → ∀ position input, system.input.GpioInput position →
      system.input.allInputs[position]? = some input →
      system.FollowsLine input ∨ cleared = true ∨ system.ticked = false)
    (begun : system.beginTick looped cleared = some next) : next.Invariant externals := by
  unfold beginTick at begun
  split at begun
  next => cases begun
  next head first =>
    cases begun
    refine ⟨sound, woken, fun position ahead => ⟨head, first, ahead⟩, ?_, ?_⟩
    · intro _ looped cleared position level updating
      cases updating
    · rintro watching _ position input ⟨head', first', ahead⟩ found
      obtain rfl := Option.some.inj (first.symm.trans first')
      apply Or.imp_right _ (due watching position input ⟨head, first, ahead⟩ found)
      exact fun later => ⟨ahead, later⟩

theorem Invariant.scheduledTick {looped : Bool} (invariant : system.Invariant externals)
    (phase : system.phase = .awake looped)
    (begun : system.beginTick looped false = some next) : next.Invariant externals := by
  have woken := invariant.woken
  rw [phase] at woken
  refine beginTick_invariant invariant.sound woken ?_ begun
  intro watching position input gpio found
  by_cases ticked : system.ticked = true
  · exact .inl (invariant.settled_outside (ThreadPhase.not_inTick_of_awake phase) watching ticked
      gpio found)
  · exact .inr (.inr (Bool.eq_false_iff.mpr ticked))

theorem Invariant.clearedTick (invariant : system.Invariant externals)
    (begun : { system with triggered := false }.beginTick true true = some next) :
    next.Invariant externals := by
  apply beginTick_invariant _ _ _ begun
  · exact invariant.sound
  · intro triggered
    cases triggered
  · intro _ position input _ _
    exact .inr (.inl rfl)

theorem Invariant.onLoop {looped : Bool} (invariant : system.Invariant externals)
    (phase : system.phase = .awake looped) (called : system.onLoop = some next) :
    next.Invariant externals := by
  unfold GpioSystem.onLoop at called
  split at called
  next => exact invariant.clearedTick called
  next quiet =>
    cases called
    exact invariant.move (ThreadPhase.not_inTick_of_awake phase) id
      fun triggered => absurd triggered quiet

theorem Invariant.readLine {looped cleared : Bool} {position : Nat}
    (invariant : system.Invariant externals)
    (phase : system.phase = .ticking looped cleared (some position))
    (read : system.readLine looped cleared position = some next) : next.Invariant externals := by
  unfold GpioSystem.readLine at read
  split at read
  next => cases read
  next line named =>
    cases read
    obtain ⟨input, found, named⟩ := Option.bind_eq_some_iff.mp named
    refine ⟨invariant.sound, ?_, ?_, ?_, ?_⟩
    · have woken := invariant.woken
      rwa [phase] at woken
    · have inside := invariant.inside
      rwa [phase] at inside
    · rintro _ _ _ _ _ ⟨⟩
      exact ⟨input, line, found, named, .inl rfl⟩
    · have settled := invariant.settled
      rwa [phase] at settled

/-- The input that has been updated shows its line, unless the line has changed since
it was read. -/
theorem Invariant.settled_updated {looped cleared level : Bool} {position : Nat}
    {input updated : Input} (invariant : system.Invariant externals)
    (phase : system.phase = .updating looped cleared position level)
    (watching : system.watching = true)
    (found : system.input.allInputs[position]? = some input)
    (active : updated.active = (level ^^ input.invert)) (invert : updated.invert = input.invert)
    (gpioLine : updated.gpioLine = input.gpioLine) : system.FollowsLine updated := by
  obtain ⟨input', line, found', named, fresh⟩ :=
    invariant.reading watching looped cleared position level phase
  obtain rfl := Option.some.inj (found.symm.trans found')
  have line_eq : updated.gpioLine = some line := gpioLine.trans named
  rcases fresh with rfl | owed | pending
  · exact .inl ⟨line, line_eq, by rw [active, invert]⟩
  · exact .inr (.inl ⟨line, line_eq, owed⟩)
  · exact .inr (.inr pending)

theorem Invariant.updateInput {readings : List Micros} {looped cleared level : Bool}
    {position : Nat} (invariant : system.Invariant externals)
    (phase : system.phase = .updating looped cleared position level)
    (updated : system.updateInput readings looped cleared position level = some next) :
    next.Invariant externals := by
  unfold GpioSystem.updateInput at updated
  split at updated
  next => cases updated
  next changed service returned =>
    cases updated
    have woken := invariant.woken
    have inside := invariant.inside
    have settled := invariant.settled
    rw [phase] at woken inside settled
    obtain ⟨input, found, _⟩ := InputService.update_cases returned
    have effect := invariant.sound.update (inside position .here) found returned
    have gpioInput : service.GpioInput = system.input.GpioInput := by
      funext other
      rw [InputService.GpioInput, InputService.GpioInput, effect.gpioHead, effect.link]
    refine ⟨effect.sound, woken, ?_, ?_, ?_⟩
    · intro other ahead
      rw [gpioInput]
      refine inside other (.later ?_)
      rwa [← effect.link]
    · rintro _ _ _ _ _ ⟨⟩
    · intro watching _ other input' gpio found'
      by_cases same : other = position
      · obtain ⟨input'', stored, active, invert, gpioLine⟩ := effect.updated
        rw [same, stored] at found'
        cases found'
        exact .inl (invariant.settled_updated phase watching found active invert gpioLine)
      · obtain ⟨_, nonzero, _⟩ := effect.sound.gpioInput gpio found'
        rw [effect.others other same nonzero] at found'
        apply Or.imp_right _
          (settled watching (.inr trivial) other input' (gpioInput ▸ gpio) found')
        rintro ⟨ahead, due⟩
        refine ⟨?_, due⟩
        rw [effect.link]
        exact (ahead_some_iff.mp ahead).resolve_left same

theorem Invariant.endTick {looped cleared : Bool} (invariant : system.Invariant externals)
    (phase : system.phase = .ticking looped cleared none) :
    Invariant externals { system with phase := .awake looped, ticked := true } := by
  have woken := invariant.woken
  have settled := invariant.settled
  rw [phase] at woken settled
  refine ⟨invariant.sound, woken, ?_, ?_, ?_⟩
  · intro position ahead
    exact absurd ahead not_ahead_none
  · rintro _ _ _ _ _ ⟨⟩
  · intro watching _ position input gpio found
    apply Or.imp_right _ (settled watching (.inr trivial) position input gpio found)
    rintro ⟨ahead, _⟩
    exact absurd ahead not_ahead_none

theorem Invariant.onStart {looped : Bool} (invariant : system.Invariant externals)
    (phase : system.phase = .awake looped) :
    Invariant externals { system with watching := true, ticked := false } := by
  refine ⟨invariant.sound, invariant.woken, invariant.inside, ?_, ?_⟩
  · intro _ _ _ _ _ updating
    cases phase.symm.trans updating
  · rintro _ (ticked | inTick)
    · cases ticked
    · change system.phase.InTick at inTick
      rw [phase] at inTick
      exact inTick.elim

theorem Invariant.onStop (invariant : system.Invariant externals) :
    Invariant externals { system with watching := false } :=
  ⟨invariant.sound, invariant.woken, invariant.inside, nofun, nofun⟩

theorem Invariant.configure {looped : Bool} {source : List Char} {service : InputService}
    (invariant : system.Invariant externals) (phase : system.phase = .awake looped)
    (configured : system.input.step externals parser (.configure source) = some service) :
    Invariant externals { system with input := service, watching := false } := by
  obtain ⟨result, processed, rfl⟩ := Option.map_eq_some_iff.mp configured
  have wellFormed := (onRegisterInputConfigsChanged_invariant processed).wellFormed
  obtain ⟨events, _, threaded⟩ := InputService.onRegisterInputConfigsChanged_threaded processed
  have sound : result.data.service.Sound externals := by
    refine .inr ⟨wellFormed, Declarations.ofEvents system.input.registry events, ?_⟩
    rw [threaded.service.registered]
    exact threaded.service
  refine ⟨sound, invariant.woken, ?_, nofun, nofun⟩
  intro position ahead
  change Ahead _ system.phase.rest position at ahead
  rw [phase] at ahead
  exact absurd ahead not_ahead_none

theorem Invariant.popping {op : GpioOp} (invariant : system.Invariant externals)
    (phase : system.phase = .popping)
    (stepped : system.threadStep externals parser .popping op = some next) :
    next.Invariant externals := by
  have outside : ¬system.phase.InTick := by
    rw [phase]
    exact id
  cases op with
  | popItem =>
      simp only [threadStep] at stepped
      split at stepped
      next => cases stepped
      next item mailbox _ =>
        cases stepped
        exact invariant.move outside id fun _ => .inr rfl
  | popTimeout =>
      simp only [threadStep] at stepped
      split at stepped
      next =>
        cases stepped
        exact invariant.move outside id fun _ => .inr rfl
      next => cases stepped
  | _ => cases stepped

theorem Invariant.awake {looped : Bool} {op : GpioOp} (invariant : system.Invariant externals)
    (phase : system.phase = .awake looped)
    (stepped : system.threadStep externals parser (.awake looped) op = some next) :
    next.Invariant externals := by
  have outside := ThreadPhase.not_inTick_of_awake phase
  cases op with
  | enterPop =>
      cases looped with
      | false => cases stepped
      | true =>
          cases stepped
          refine invariant.move outside id fun triggered => ?_
          have woken := invariant.woken triggered
          rw [phase] at woken
          exact .inl (woken.resolve_right Bool.noConfusion)
  | onLoop =>
      simp only [threadStep] at stepped
      exact invariant.onLoop phase stepped
  | scheduledTick =>
      simp only [threadStep] at stepped
      exact invariant.scheduledTick phase stepped
  | onStart =>
      simp only [threadStep, Option.some.injEq] at stepped
      exact stepped ▸ invariant.onStart phase
  | onStop =>
      simp only [threadStep, Option.some.injEq] at stepped
      exact stepped ▸ invariant.onStop
  | configure source =>
      simp only [threadStep] at stepped
      split at stepped
      next => cases stepped
      next service configured =>
        cases stepped
        exact invariant.configure phase configured
  | _ => simp only [threadStep, reduceCtorEq] at stepped

theorem Invariant.ticking {looped cleared : Bool} {current : Option Nat} {op : GpioOp}
    (invariant : system.Invariant externals)
    (phase : system.phase = .ticking looped cleared current)
    (stepped : system.threadStep externals parser (.ticking looped cleared current) op =
      some next) : next.Invariant externals := by
  cases current with
  | none =>
      cases op with
      | endTick =>
          cases stepped
          exact invariant.endTick phase
      | _ => cases stepped
  | some position =>
      cases op with
      | readLine => exact invariant.readLine phase stepped
      | _ => cases stepped

theorem Invariant.step {op : GpioOp} (positive : 0 < capacity)
    (invariant : system.Invariant externals)
    (stepped : system.step externals parser op = some next) : next.Invariant externals := by
  have thread (taken : system.threadStep externals parser system.phase op = some next) :
      next.Invariant externals := by
    cases phase : system.phase with
    | popping => exact invariant.popping phase (phase ▸ taken)
    | awake looped => exact invariant.awake phase (phase ▸ taken)
    | ticking looped cleared current => exact invariant.ticking phase (phase ▸ taken)
    | updating looped cleared position level =>
        rw [phase] at taken
        cases op with
        | update readings => exact invariant.updateInput phase taken
        | _ => cases taken
  cases op with
  | edge line =>
      cases stepped
      exact invariant.edge line
  | interrupt line =>
      cases stepped
      exact invariant.interrupt positive line
  | pushPacket =>
      cases stepped
      exact invariant.pushPacket positive
  | _ => exact thread stepped

theorem run_invariant {drivers : List (String × InputDriver)} {levels : IoLine → Bool}
    {ops : List GpioOp} (positive : 0 < capacity)
    (executed : run (step externals parser) (boot capacity drivers levels) ops = some system) :
    system.Invariant externals :=
  Library.run_invariant (fun _ _ _ invariant => invariant.step positive)
    (boot_invariant drivers levels) executed

/-- In every run the thread never sleeps on a pending event, and an input whose line
owes no interrupt shows the level of its line, once nothing is pending and the tick
that answers the last event is over. -/
theorem no_edge_lost {drivers : List (String × InputDriver)} {levels : IoLine → Bool}
    {ops : List GpioOp} (positive : 0 < capacity)
    (executed : run (step externals parser) (boot capacity drivers levels) ops = some system) :
    (system.triggered = true → system.phase = .popping → system.mailbox.items ≠ []) ∧
      (system.watching = true → system.ticked = true → system.triggered = false →
        ¬system.phase.Cleared → ∀ position input, system.input.GpioInput position →
        system.input.allInputs[position]? = some input → ¬system.Owes input →
        system.Shows input) := by
  have invariant := run_invariant positive executed
  constructor
  · intro triggered phase
    have woken := invariant.woken triggered
    rw [phase] at woken
    exact woken.resolve_right id
  · intro watching ticked quiet outside position input gpio found paid
    rcases invariant.settled watching (.inl ticked) position input gpio found with
      (shows | owes | pending) | ⟨_, cleared | first⟩
    · exact shows
    · exact absurd owes paid
    · exact absurd (quiet.symm.trans pending) Bool.noConfusion
    · exact absurd cleared outside
    · exact absurd (first.symm.trans ticked) Bool.noConfusion

end GpioSystem

/-- The events of `{"gpio":[{"line":"X7","active":"low"}]}` by the position of the
character that raises them. -/
def stopButtonEvents (position : Nat) : List Event :=
  let event (stackPos : Nat) (key str : String) (type : StreamType) : List Event :=
    [⟨⟨stackPos, str, "", fun _ => key⟩, type⟩]
  match position with
  | 0 => event 0 "" "" .object
  | 6 => event 1 "" "gpio" .key
  | 8 => event 2 "" "" .array
  | 9 => event 3 "" "" .object
  | 15 => event 4 "" "line" .key
  | 20 => event 5 "line" "X7" .string
  | 29 => event 4 "" "active" .key
  | 35 => event 5 "active" "low" .string
  | 36 => event 3 "" "" .objectEnd
  | 37 => event 2 "" "" .arrayEnd
  | 38 => event 0 "" "" .objectEnd
  | _ => []

def stopButtonParser : StreamParser Nat where
  init := 0
  parse position _ :=
    (position + 1, if position = 38 then .streamDone else .streamInProg,
      stopButtonEvents position)

def stopButtonDocument : List Char :=
  "\x7b\"gpio\":[\x7b\"line\":\"X7\",\"active\":\"low\"\x7d]\x7d".toList

def stopButtonExternals : Externals := ⟨fun _ => 5, fun _ => none⟩

/-- A packet has filled the mailbox when the interrupt comes. -/
def stopButtonAsleep : List GpioOp :=
  [.configure stopButtonDocument, .onStart, .onLoop, .scheduledTick, .readLine, .update [100],
    .endTick, .enterPop, .edge 5, .pushPacket, .interrupt 5]

/-- The line changes again between `palReadLine` and `Update`. -/
def stopButtonAnswered : List GpioOp :=
  [.popItem, .onLoop, .readLine, .edge 5, .update [200], .endTick, .interrupt 5, .enterPop,
    .popItem, .onLoop, .readLine, .update [300], .endTick]

def stopButtonBoot : GpioSystem 1 := .boot 1 [("gpio", ⟨.gpio, none⟩)] fun _ => false

namespace GpioSystem

theorem no_edge_lost_stopButton :
    (∃ asleep, run (step stopButtonExternals stopButtonParser) stopButtonBoot stopButtonAsleep =
        some asleep ∧ asleep.triggered = true ∧ asleep.phase = .popping ∧
      asleep.mailbox.items ≠ []) ∧
    ∃ settled input, run (step stopButtonExternals stopButtonParser) stopButtonBoot
        (stopButtonAsleep ++ stopButtonAnswered) = some settled ∧
      settled.input.allInputs[1]? = some input ∧ input.active = true ∧ settled.Shows input := by
  constructor
  · have evaluated : (run (step stopButtonExternals stopButtonParser) stopButtonBoot
        stopButtonAsleep).map (fun system => (system.triggered, system.phase)) =
        some (true, .popping) := by decide +kernel
    obtain ⟨asleep, executed, values⟩ := Option.map_eq_some_iff.mp evaluated
    obtain ⟨triggered, phase⟩ := Prod.mk.inj values
    exact ⟨asleep, executed, triggered, phase,
      (no_edge_lost Nat.one_pos executed).1 triggered phase⟩
  · have evaluated : (run (step stopButtonExternals stopButtonParser) stopButtonBoot
        (stopButtonAsleep ++ stopButtonAnswered)).map (fun system => (
          [system.watching, system.ticked, system.triggered, system.owed 5,
            decide (system.phase = .awake true)], system.input.gpioHead,
          (system.input.allInputs[1]?).map fun input => (input.gpioLine, input.active))) =
        some ([true, true, false, false, true], some (some 1), some (some 5, true)) := by
      decide +kernel
    obtain ⟨settled, executed, values⟩ := Option.map_eq_some_iff.mp evaluated
    simp only [Prod.mk.injEq, List.cons.injEq, and_true] at values
    obtain ⟨⟨watching, ticked, quiet, paid, phase⟩, head, stored⟩ := values
    obtain ⟨input, found, values⟩ := Option.map_eq_some_iff.mp stored
    obtain ⟨named, active⟩ := Prod.mk.inj values
    refine ⟨settled, input, executed, found, active, ?_⟩
    refine (no_edge_lost Nat.one_pos executed).2 watching ticked quiet ?_ 1 input
      ⟨some 1, head, .here⟩ found ?_
    · rw [of_decide_eq_true phase]
      exact id
    · rintro ⟨line, named', owes⟩
      obtain rfl := Option.some.inj (named.symm.trans named')
      rw [paid] at owes
      cases owes

end GpioSystem

end XBotFirmware.Inputs
