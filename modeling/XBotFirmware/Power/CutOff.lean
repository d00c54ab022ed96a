import Mathlib.Algebra.Group.Nat.Defs
import XBotFirmware.Power.Service

set_option autoImplicit false

/-!
The power service cuts the high level off when the battery stays low.

The history that matters is the list of battery voltages of the good samples.  The
counter is the number of low ones at its end, and the line follows the counter.
-/

namespace XBotFirmware.Power

open XBotFirmware.Library

variable {robot : Robot} {service next : PowerService} {op : PowerOp}

namespace PowerService

def goodSample? (service : PowerService) : PowerOp → Option Int
  | .chargerTick replies =>
      if service.charger = true ∧ service.chargerConfigured = true ∧ replies.Good then
        replies.readBatteryVoltage
      else none
  | .tick => none
  | .onStart => none

/-- The voltages of the good samples of a run, in order. -/
def goodSamples (robot : Robot) : PowerService → List PowerOp → List Int
  | _, [] => []
  | service, op :: rest =>
      (service.goodSample? op).toList ++
        match service.step robot op with
        | some next => goodSamples robot next rest
        | none => []

/-- The number of samples since the last one that reached the minimum. -/
def lowSamples (robot : Robot) (samples : List Int) : Nat :=
  (samples.reverse.takeWhile fun volts => volts < robot.absoluteMinVoltage).length

theorem lowSamples_concat (samples : List Int) (volts : Int) :
    lowSamples robot (samples ++ [volts]) =
      if volts < robot.absoluteMinVoltage then lowSamples robot samples + 1 else 0 := by
  unfold lowSamples
  rw [List.reverse_append, List.reverse_singleton, List.singleton_append, List.takeWhile_cons]
  by_cases low : volts < robot.absoluteMinVoltage
  · rw [if_pos low, if_pos (decide_eq_true low), List.length_cons]
  · rw [if_neg low, if_neg (by simpa using low), List.length_nil]

theorem goodSamples_concat {start : PowerService} {ops : List PowerOp}
    (executed : run (step robot) start ops = some service) (op : PowerOp) :
    goodSamples robot start (ops ++ [op]) =
      goodSamples robot start ops ++ (service.goodSample? op).toList := by
  induction ops generalizing start with
  | nil =>
      cases executed
      simp only [List.nil_append, goodSamples]
      cases step robot service op <;> simp
  | cons first rest inductionHypothesis =>
      obtain ⟨next, stepped, remaining⟩ := run_cons_eq_some.mp executed
      simp only [List.cons_append, goodSamples, stepped]
      rw [inductionHypothesis remaining, List.append_assoc]

theorem goodSample?_chargerTick {replies : ChargerReplies} (charger : service.charger = true)
    (configured : service.chargerConfigured = true) (good : replies.Good) :
    ∃ volts, replies.readBatteryVoltage = some volts ∧
      service.goodSample? (.chargerTick replies) = some volts := by
  have monitored := good.1
  simp only [ChargerReplies.monitored, Bool.and_eq_true] at monitored
  obtain ⟨volts, read⟩ := Option.isSome_iff_exists.mp monitored.1.1.2
  refine ⟨volts, read, ?_⟩
  rw [goodSample?, if_pos ⟨charger, configured, good⟩, read]

/-- What a step does to the counter, the line and the flag. -/
inductive Effect (robot : Robot) (service : PowerService) (op : PowerOp) (next : PowerService) :
    Prop
  /-- Nothing is sampled. -/
  | none (sample : service.goodSample? op = none)
      (count : next.criticalCount = service.criticalCount)
      (line : next.highLevelEnabled = service.highLevelEnabled)
  | low {volts : Int} (sample : service.goodSample? op = some volts)
      (below : volts < robot.absoluteMinVoltage) (fits : service.criticalCount ≠ intMax)
      (count : next.criticalCount = service.criticalCount + 1)
      (line : next.highLevelEnabled =
        if service.criticalCount + 1 > 10 then false else service.highLevelEnabled)
  | high {volts : Int} (sample : service.goodSample? op = some volts)
      (reached : ¬volts < robot.absoluteMinVoltage) (count : next.criticalCount = 0)
      (line : next.highLevelEnabled = true)

theorem monitor_effect {replies : ChargerReplies} (charger : service.charger = true)
    (configured : service.chargerConfigured = true)
    (monitored : service.monitor robot replies = some next) :
    Effect robot service (.chargerTick replies) next := by
  simp only [monitor] at monitored
  split at monitored
  next failed =>
    cases monitored
    refine .none ?_ ?_ ?_
    · exact if_neg fun sampled => ChargerReplies.not_good_of_failed failed sampled.2.2
    · split <;> rfl
    · split <;> rfl
  next passed =>
    simp only [not_or, Bool.not_eq_false] at passed
    obtain ⟨volts, read, sample⟩ := goodSample?_chargerTick charger configured passed
    simp only [passed.1, if_true, checkBattery, takeReadings, read, Option.getD_some] at monitored
    split at monitored
    next below =>
      split at monitored
      next => cases monitored
      next fits =>
        split at monitored
        next critical =>
          cases monitored
          exact .low sample below fits rfl (if_pos critical).symm
        next uncritical =>
          cases monitored
          exact .low sample below fits rfl (if_neg uncritical).symm
    next reached =>
      cases monitored
      exact .high sample reached rfl rfl

theorem configure_effect {replies : ChargerReplies}
    (unconfigured : service.chargerConfigured = false) :
    Effect robot service (.chargerTick replies) (service.configure replies) := by
  refine .none ?_ ?_ ?_
  · refine if_neg fun sampled => ?_
    exact absurd (unconfigured.symm.trans sampled.2.1) Bool.false_ne_true
  · unfold configure
    split <;> rfl
  · unfold configure
    split <;> rfl

theorem step_effect (stepped : service.step robot op = some next) :
    Effect robot service op next := by
  cases op with
  | chargerTick replies =>
      simp only [step, chargerTick] at stepped
      split at stepped
      next absent =>
        cases stepped
        refine .none (if_neg fun sampled => ?_) rfl rfl
        exact absurd (absent.symm.trans sampled.1) Bool.false_ne_true
      next present =>
        split at stepped
        next unconfigured =>
          cases stepped
          exact configure_effect unconfigured
        next configured =>
          exact monitor_effect (by simpa using present) (by simpa using configured) stepped
  | tick =>
      cases stepped
      exact .none rfl rfl rfl
  | onStart =>
      cases stepped
      exact .none rfl rfl rfl

structure Follows (robot : Robot) (samples : List Int) (service : PowerService) : Prop where
  count : service.criticalCount = lowSamples robot samples
  line : service.highLevelEnabled = false ↔ 11 ≤ lowSamples robot samples

theorem Follows.step {samples : List Int} (follows : Follows robot samples service)
    (stepped : service.step robot op = some next) :
    Follows robot (samples ++ (service.goodSample? op).toList) next := by
  cases step_effect stepped with
  | none sample count line =>
      rw [sample, Option.toList_none, List.append_nil]
      exact ⟨count.trans follows.count, line ▸ follows.line⟩
  | @low volts sample below fits count line =>
      have longer : lowSamples robot (samples ++ (service.goodSample? op).toList) =
          lowSamples robot samples + 1 := by
        rw [sample, Option.toList_some, lowSamples_concat, if_pos below]
      refine ⟨?_, ?_⟩
      · rw [count, longer, follows.count]
        rfl
      · rw [line, longer, follows.count]
        split
        next critical => simp; omega
        next uncritical =>
          rw [follows.line]
          omega
  | @high volts sample reached count line =>
      have none : lowSamples robot (samples ++ (service.goodSample? op).toList) = 0 := by
        rw [sample, Option.toList_some, lowSamples_concat, if_neg reached]
      refine ⟨by rw [count, none]; rfl, ?_⟩
      rw [line, none]
      simp

theorem run_follows {charger : Bool} {ops : List PowerOp}
    (executed : run (step robot) (initial charger) ops = some service) :
    Follows robot (goodSamples robot (initial charger) ops) service := by
  induction ops using List.reverseRecOn generalizing service with
  | nil =>
      cases executed
      exact ⟨rfl, by simp [initial, goodSamples, lowSamples]⟩
  | append_singleton ops op inductionHypothesis =>
      obtain ⟨middle, before, stepped⟩ := run_concat_eq_some.mp executed
      rw [goodSamples_concat before]
      exact (inductionHypothesis before).step stepped

section Configured

def Configures (service : PowerService) (op : PowerOp) : Prop :=
  service.charger = true ∧ service.chargerConfigured = false ∧
    ∃ replies, op = .chargerTick replies ∧ replies.configured = true

/-- The operation makes a configured charger count as unconfigured. -/
def Disturbs (op : PowerOp) : Prop :=
  op = .onStart ∨ ∃ replies, op = .chargerTick replies ∧ ¬replies.Good

def NeedsCharger (service : PowerService) : Prop :=
  service.chargerConfigured = true → service.charger = true

theorem checkBattery_flags (checked : service.checkBattery robot = some next) :
    next.charger = service.charger ∧ next.chargerConfigured = service.chargerConfigured := by
  unfold checkBattery at checked
  split at checked
  next =>
    split at checked
    next => cases checked
    next =>
      simp only at checked
      split at checked <;> cases checked <;> exact ⟨rfl, rfl⟩
  next =>
    cases checked
    exact ⟨rfl, rfl⟩

theorem monitor_flags {replies : ChargerReplies}
    (monitored : service.monitor robot replies = some next) :
    next.charger = service.charger ∧
      next.chargerConfigured = (service.chargerConfigured && decide replies.Good) := by
  simp only [monitor] at monitored
  split at monitored
  next failed =>
    cases monitored
    rw [decide_eq_false (ChargerReplies.not_good_of_failed failed), Bool.and_false]
    refine ⟨?_, rfl⟩
    split <;> rfl
  next passed =>
    simp only [not_or, Bool.not_eq_false] at passed
    have good : replies.Good := passed
    rw [decide_eq_true good, Bool.and_true]
    obtain ⟨charger, configured⟩ := checkBattery_flags monitored
    simp only [passed.1, if_true] at charger configured
    exact ⟨charger, configured⟩

theorem configure_flags (replies : ChargerReplies)
    (unconfigured : service.chargerConfigured = false) :
    (service.configure replies).charger = service.charger ∧
      (service.configure replies).chargerConfigured = replies.configured := by
  unfold configure ChargerReplies.configured
  cases replies.init with
  | false => exact ⟨rfl, unconfigured⟩
  | true => exact ⟨rfl, by simp⟩

/-- Which steps change whether the charger counts as configured. -/
theorem step_configured (needsCharger : service.NeedsCharger)
    (stepped : service.step robot op = some next) :
    next.charger = service.charger ∧
      (next.chargerConfigured = true ↔
        service.Configures op ∨ service.chargerConfigured = true ∧ ¬Disturbs op) := by
  cases op with
  | chargerTick replies =>
      simp only [step, chargerTick] at stepped
      have disturbs : Disturbs (.chargerTick replies) ↔ ¬replies.Good := by simp [Disturbs]
      have configures : service.Configures (.chargerTick replies) ↔ service.charger = true ∧
          service.chargerConfigured = false ∧ replies.configured = true := by simp [Configures]
      rw [disturbs, configures]
      split at stepped
      next absent =>
        cases stepped
        have unconfigured : service.chargerConfigured ≠ true := by
          intro configured
          exact absurd (absent.symm.trans (needsCharger configured)) Bool.false_ne_true
        simp [absent, unconfigured]
      next present =>
        split at stepped
        next unconfigured =>
          cases stepped
          obtain ⟨charger, configured⟩ := @configure_flags service replies unconfigured
          refine ⟨charger, ?_⟩
          rw [configured]
          simp [present, unconfigured]
        next configured =>
          obtain ⟨charger, flag⟩ := monitor_flags stepped
          refine ⟨charger, ?_⟩
          rw [flag]
          simp [configured]
  | tick =>
      cases stepped
      simp [tick, Configures, Disturbs]
  | onStart =>
      cases stepped
      simp [onStart, Configures, Disturbs]

theorem NeedsCharger.step (needsCharger : service.NeedsCharger)
    (stepped : service.step robot op = some next) : next.NeedsCharger := by
  obtain ⟨charger, configured⟩ := step_configured needsCharger stepped
  intro flag
  rw [charger]
  rcases configured.mp flag with ⟨present, _⟩ | ⟨before, _⟩
  · exact present
  · exact needsCharger before

/-- A configuration that succeeded is still in force: no later step configures, starts
the service or finds an error. -/
structure ConfiguredSince (robot : Robot) (start : PowerService) (ops : List PowerOp)
    (service : PowerService) (before : List PowerOp) (attempt : PowerOp) (after : List PowerOp)
    (middle begun : PowerService) : Prop where
  split : ops = before ++ attempt :: after
  reached : run (step robot) start before = some middle
  succeeds : middle.Configures attempt
  begins : middle.step robot attempt = some begun
  remaining : run (step robot) begun after = some service
  undisturbed : ∀ op ∈ after, ¬Disturbs op
  /-- Every later tick of the charger monitors, so the attempt is the last one. -/
  configured : Throughout (step robot) begun after fun state => state.chargerConfigured = true

theorem configuredSince {charger : Bool} {ops : List PowerOp}
    (executed : run (step robot) (initial charger) ops = some service)
    (configured : service.chargerConfigured = true) :
    ∃ before attempt after middle begun,
      ConfiguredSince robot (initial charger) ops service before attempt after middle begun := by
  have preserved : ∀ state op next, NeedsCharger state → step robot state op = some next →
      next.NeedsCharger := fun state op next needs stepped => needs.step stepped
  have effect : ∀ state op next, NeedsCharger state → step robot state op = some next →
      (next.chargerConfigured = true ↔
        state.Configures op ∨ state.chargerConfigured = true ∧ ¬Disturbs op) :=
    fun state op next needs stepped => (step_configured needs stepped).2
  have initially : (initial charger).NeedsCharger := fun flag => absurd flag Bool.false_ne_true
  rcases (run_condition_iff preserved effect initially executed).mp configured with
    ⟨atStart, _⟩ | ⟨before, attempt, after, middle, split, reached, succeeds, quiet⟩
  · exact absurd atStart Bool.false_ne_true
  · rw [split] at executed
    obtain ⟨middle', reached', rest⟩ := run_append_eq_some.mp executed
    obtain rfl := Option.some.inj (reached.symm.trans reached')
    obtain ⟨begun, begins, remaining⟩ := run_cons_eq_some.mp rest
    refine ⟨before, attempt, after, middle, begun, split, reached, succeeds, begins, remaining,
      quiet, ?_⟩
    have needs := run_invariant preserved initially reached
    have held : begun.chargerConfigured = true := (effect _ _ _ needs begins).mpr (.inl succeeds)
    intro first later state divided executed
    refine (run_condition_iff preserved effect (needs.step begins) executed).mpr (.inl ⟨held, ?_⟩)
    intro op membership
    exact quiet op (divided ▸ List.mem_append_left later membership)

end Configured

section Defined

theorem lowSamples_le (samples : List Int) : lowSamples robot samples ≤ samples.length := by
  unfold lowSamples
  calc _ ≤ samples.reverse.length := (List.takeWhile_sublist _).length_le
    _ = samples.length := List.length_reverse

theorem goodSamples_length_le (start : PowerService) (ops : List PowerOp) :
    (goodSamples robot start ops).length ≤ ops.length := by
  induction ops generalizing start with
  | nil => exact Nat.le_refl _
  | cons op rest inductionHypothesis =>
      have one : (start.goodSample? op).toList.length ≤ 1 := by
        cases start.goodSample? op <;> simp
      simp only [goodSamples, List.length_append, List.length_cons]
      cases step robot start op with
      | none =>
          simp only [List.length_nil]
          omega
      | some next =>
          have others := inductionHypothesis next
          simp only
          omega

theorem checkBattery_defined (fits : service.criticalCount ≠ intMax) :
    ∃ next, service.checkBattery robot = some next := by
  unfold checkBattery
  simp only [if_neg fits]
  split
  next =>
    split
    · exact ⟨_, rfl⟩
    · exact ⟨_, rfl⟩
  next => exact ⟨_, rfl⟩

theorem step_defined (fits : service.criticalCount ≠ intMax) (op : PowerOp) :
    ∃ next, service.step robot op = some next := by
  cases op with
  | chargerTick replies =>
      simp only [step, chargerTick]
      split
      next => exact ⟨_, rfl⟩
      next =>
        split
        next => exact ⟨_, rfl⟩
        next =>
          simp only [monitor]
          split
          next => exact ⟨_, rfl⟩
          next =>
            apply checkBattery_defined
            split
            · exact fits
            · exact fits
  | tick => exact ⟨_, rfl⟩
  | onStart => exact ⟨_, rfl⟩

/-- Only after more than two thousand million operations can the counter overflow. -/
theorem run_defined (charger : Bool) {ops : List PowerOp} (short : ops.length < 2 ^ 31) :
    ∃ service, run (step robot) (initial charger) ops = some service := by
  induction ops using List.reverseRecOn with
  | nil => exact ⟨_, rfl⟩
  | append_singleton ops op inductionHypothesis =>
      rw [List.length_append, List.length_singleton] at short
      obtain ⟨middle, executed⟩ := inductionHypothesis (Nat.lt_of_succ_lt short)
      have low := @lowSamples_le robot (goodSamples robot (initial charger) ops)
      have samples := @goodSamples_length_le robot (initial charger) ops
      have fits : middle.criticalCount ≠ intMax := by
        rw [(run_follows executed).count, intMax]
        omega
      obtain ⟨next, stepped⟩ := @step_defined robot middle fits op
      exact ⟨next, run_concat_eq_some.mpr ⟨middle, executed, stepped⟩⟩

end Defined

/-- In every state that a run reaches, the counter is the number of good samples since
the last one at or above the minimum, the line is cleared from eleven on, other
operations change neither, and the charger counts as configured only since a
configuration that succeeded and was not disturbed. -/
theorem high_level_cut_off (robot : Robot) (charger : Bool) (ops : List PowerOp) :
    (ops.length < 2 ^ 31 → ∃ service, run (step robot) (initial charger) ops = some service) ∧
      ∀ service, run (step robot) (initial charger) ops = some service →
        service.criticalCount = lowSamples robot (goodSamples robot (initial charger) ops) ∧
        (service.highLevelEnabled = false ↔
          11 ≤ lowSamples robot (goodSamples robot (initial charger) ops)) ∧
        (∀ op next, service.step robot op = some next → service.goodSample? op = none →
          next.criticalCount = service.criticalCount ∧
            next.highLevelEnabled = service.highLevelEnabled) ∧
        (service.chargerConfigured = true → ∃ before attempt after middle begun,
          ConfiguredSince robot (initial charger) ops service before attempt after middle
            begun) := by
  refine ⟨run_defined charger, ?_⟩
  intro service executed
  have follows := run_follows executed
  refine ⟨follows.count, follows.line, ?_, configuredSince executed⟩
  intro op next stepped unsampled
  cases step_effect stepped with
  | none _ count line => exact ⟨count, line⟩
  | low sample => exact absurd (unsampled.symm.trans sample) (Option.some_ne_none _).symm
  | high sample => exact absurd (unsampled.symm.trans sample) (Option.some_ne_none _).symm

def xbotRobot : Robot := ⟨16800, 13200, 1000, 12000⟩

def answering (volts : Int) : ChargerReplies :=
  ⟨true, true, true, true, true, true, some 0, some volts, some 24000, some 500, .cc⟩

/-- A configuration, eleven low samples with a failed read and a new configuration
between them, and one more at the minimum. -/
def lowBatteryRun : List PowerOp :=
  .chargerTick (answering 11000) :: List.replicate 6 (.chargerTick (answering 11000)) ++
    [.tick, .chargerTick { answering 9000 with readAdapterVoltage := none },
      .chargerTick (answering 9000)] ++ List.replicate 5 (.chargerTick (answering 11999))

theorem high_level_cut_off_lowBattery :
    (∃ service, run (step xbotRobot) (initial true) lowBatteryRun = some service ∧
      service.criticalCount = 11 ∧ service.highLevelEnabled = false) ∧
    ∃ service, run (step xbotRobot) (initial true)
        (lowBatteryRun ++ [.chargerTick (answering 12000)]) = some service ∧
      service.criticalCount = 0 ∧ ¬service.highLevelEnabled = false := by
  obtain ⟨defined, follows⟩ := high_level_cut_off xbotRobot true lowBatteryRun
  obtain ⟨defined', follows'⟩ := high_level_cut_off xbotRobot true
    (lowBatteryRun ++ [.chargerTick (answering 12000)])
  obtain ⟨service, executed⟩ := defined (by decide)
  obtain ⟨service', executed'⟩ := defined' (by decide)
  obtain ⟨count, line, _⟩ := follows service executed
  obtain ⟨count', line', _⟩ := follows' service' executed'
  have low : lowSamples xbotRobot (goodSamples xbotRobot (initial true) lowBatteryRun) = 11 := by
    decide +kernel
  have high : lowSamples xbotRobot (goodSamples xbotRobot (initial true)
      (lowBatteryRun ++ [.chargerTick (answering 12000)])) = 0 := by decide +kernel
  rw [low] at count line
  rw [high] at count' line'
  exact ⟨⟨service, executed, count, line.mpr (by decide)⟩, service', executed', count',
    fun cleared => absurd (line'.mp cleared) (by decide)⟩

end PowerService

end XBotFirmware.Power
