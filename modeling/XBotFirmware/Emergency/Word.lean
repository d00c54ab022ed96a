import XBotFirmware.Emergency.World

set_option autoImplicit false

/-!
The meaning of the emergency word over whole runs.

Each reason has one writer, except that LATCH is added by inputs and messages
and taken back by messages alone.
-/

namespace XBotFirmware.Emergency

open XBotFirmware.Library XBotFirmware.Platform XBotFirmware.Inputs XBotFirmware.Json

/-- A check sees a due input that carries LATCH, or a message adds LATCH. -/
def SetsLatch (world : World) : Op → Prop
  | .checkInputs now | .onLoop _ now => world.input.Reports now .latch
  | .highLevelEmergency _ add _ => Carries add .latch
  | _ => False

/-- A message clears LATCH without adding it. -/
def ClearsLatch : Op → Prop
  | .highLevelEmergency _ add clear => Carries clear .latch ∧ ¬ Carries add .latch
  | _ => False

def IsMessage : Op → Prop
  | .highLevelEmergency _ _ _ => True
  | _ => False

namespace World

variable {ParserState : Type} {externals : Externals} {parser : StreamParser ParserState}
  {drivers : List (String × InputDriver)}

theorem step_latch (world : World) (op : Op) (next : World) (invariant : world.input.Invariant)
    (stepped : world.step externals parser op = some next) :
    next.Has .latch ↔ SetsLatch world op ∨ (world.Has .latch ∧ ¬ ClearsLatch op) := by
  have notInput : ¬ Carries inputReasons .latch := by decide
  have notTimeout : ¬ Carries timeoutReasons .latch := by decide
  rw [step_has invariant stepped]
  cases op with
  | checkInputs now => simp [SetsLatch, ClearsLatch, notInput, or_comm]
  | checkTimeouts now => simp [SetsLatch, ClearsLatch, notTimeout]
  | onLoop order now => simp [SetsLatch, ClearsLatch, notInput, notTimeout, or_comm]
  | highLevelEmergency now add clear =>
      simp only [SetsLatch, ClearsLatch]
      constructor
      · rintro (⟨held, kept⟩ | added)
        · exact .inr ⟨held, fun cleared => kept cleared.1⟩
        · exact .inl added
      · rintro (added | ⟨held, kept⟩)
        · exact .inr added
        · by_cases added : Carries add .latch
          · exact .inr added
          · exact .inl ⟨held, fun cleared => kept ⟨cleared, added⟩⟩
  | _ => simp [SetsLatch, ClearsLatch]

theorem getEmergency_of_has {world : World} {reason : EmergencyReason}
    (held : world.Has reason) : world.emergency.getEmergency = true := by
  have nonzero : world.emergency.reasons ≠ 0 := Carries.ne_zero held
  simpa [EmergencyService.getEmergency] using nonzero

/-- A latched emergency outlasts every run in which no message takes it back. -/
theorem run_latch {world final : World} {ops : List Op} (invariant : world.input.Invariant)
    (latched : world.Has .latch) (kept : ∀ op ∈ ops, ¬ ClearsLatch op)
    (executed : run (step externals parser) world ops = some final) : final.Has .latch := by
  have preserved := run_invariant_of_labels (fun op => ¬ ClearsLatch op)
    (fun (world : World) op next notCleared (held : world.input.Invariant ∧ world.Has .latch)
        stepped =>
      (⟨step_input_invariant externals parser world op next held.1 stepped,
        (step_latch world op next held.1 stepped).mpr (.inr ⟨held.2, notCleared⟩)⟩ :
          next.input.Invariant ∧ next.Has .latch))
    kept ⟨invariant, latched⟩ executed
  exact preserved.2

theorem step_highLevel {world next : World} {op : Op} (invariant : world.input.Invariant)
    (notMessage : ¬ IsMessage op) (stepped : world.step externals parser op = some next) :
    next.Has .highLevel ↔ world.Has .highLevel := by
  have notInput : ¬ Carries inputReasons .highLevel := by decide
  have notTimeout : ¬ Carries timeoutReasons .highLevel := by decide
  have notReported : ∀ now, ¬ world.input.Reports now .highLevel :=
    fun now reported => (invariant.reports reported).2.2 rfl
  rw [step_has invariant stepped]
  cases op with
  | highLevelEmergency now add clear => exact absurd trivial notMessage
  | _ => simp [notInput, notTimeout, notReported]

/-- (1) After `CheckInputs` the input bits say which inputs are due.  (2) LATCH is
set exactly if the last operation that decided it set it, and then lasts until a
message clears it.  (3) Only messages change HIGH_LEVEL.  (4) `CheckInputs` and
`CheckTimeouts` leave each other's reasons alone. -/
theorem emergency_word_meaning {ops : List Op} {world : World}
    (executed : run (step externals parser) (boot drivers) ops = some world) :
    (∀ now next reason,
      reason = .stop ∨ reason = .lift ∨ reason = .liftMultiple ∨ reason = .collision →
      world.step externals parser (.checkInputs now) = some next →
      (next.Has reason ↔ ∃ input ∈ world.input.allInputs,
        Carries input.emergencyReason reason ∧ input.active = true ∧
          input.emergencyDelayMs.toNat * 1000 ≤ (now - input.activeSince).toNat)) ∧
    (world.Has .latch ↔ ∃ before op after middle, ops = before ++ op :: after ∧
      run (step externals parser) (boot drivers) before = some middle ∧
      SetsLatch middle op ∧ ∀ later ∈ after, ¬ ClearsLatch later) ∧
    (world.Has .latch → ∀ later final, (∀ op ∈ later, ¬ ClearsLatch op) →
      run (step externals parser) world later = some final →
      final.emergency.getEmergency = true) ∧
    (∀ op next, ¬ IsMessage op → world.step externals parser op = some next →
      (next.Has .highLevel ↔ world.Has .highLevel)) ∧
    (∀ now next reason,
      reason = .timeoutInputs ∨ reason = .timeoutHighLevel ∨ reason = .highLevel →
      world.step externals parser (.checkInputs now) = some next →
      (next.Has reason ↔ world.Has reason)) ∧
    (∀ now next reason, reason ≠ .timeoutInputs → reason ≠ .timeoutHighLevel →
      world.step externals parser (.checkTimeouts now) = some next →
      (next.Has reason ↔ world.Has reason)) := by
  have invariant : world.input.Invariant :=
    reachable_input_invariant externals parser ⟨ops, executed⟩
  refine ⟨?_, ?_, ?_, ?_, ?_, ?_⟩
  · intro now next reason isInput stepped
    have decided : Carries inputReasons reason :=
      (EmergencyService.carries_inputReasons reason).mpr isInput
    rw [step_has invariant stepped]
    simp only [decided, not_true_eq_false, and_false, false_or, InputService.Reports, Input.Due]
    constructor
    · rintro ⟨input, membership, due, carried⟩
      exact ⟨input, membership, carried, due⟩
    · rintro ⟨input, membership, carried, due⟩
      exact ⟨input, membership, due, carried⟩
  · have history := run_condition_iff (step_input_invariant externals parser) step_latch
      (InputService.initial_invariant drivers : (boot drivers).input.Invariant) executed
    have initially : ¬ (boot drivers).Has .latch := by
      show ¬ Carries EmergencyService.initial.reasons .latch
      decide
    simpa only [initially, false_and, false_or] using history
  · intro latched later final kept continued
    exact getEmergency_of_has (run_latch invariant latched kept continued)
  · intro op next notMessage stepped
    exact step_highLevel invariant notMessage stepped
  · intro now next reason notInput stepped
    have undecided : ¬ Carries inputReasons reason := by
      rcases notInput with rfl | rfl | rfl <;> decide
    have notReported : ¬ world.input.Reports now reason := by
      intro reported
      obtain ⟨first, second, third⟩ := invariant.reports reported
      rcases notInput with rfl | rfl | rfl <;> contradiction
    rw [step_has invariant stepped]
    simp [undecided, notReported]
  · intro now next reason notInputs notHighLevel stepped
    have undecided : ¬ Carries timeoutReasons reason := by
      rw [EmergencyService.carries_timeoutReasons]
      exact not_or.mpr ⟨notHighLevel, notInputs⟩
    rw [step_has invariant stepped]
    simp [undecided, notHighLevel]

/-- A message latches the emergency, and `OnStop` and the checks keep it. -/
theorem emergency_word_meaning_latched :
    ∃ world : World,
      run (step twoLiftExternals twoLiftParser) (boot [])
        [.highLevelEmergency 7 EmergencyReason.latch.mask 0] = some world ∧
      world.Has .latch ∧
      ∀ final : World, run (step twoLiftExternals twoLiftParser) world
        [.onStop, .checkInputs 40, .onLoop .inputsFirst 80] = some final →
          final.emergency.getEmergency = true := by
  refine ⟨_, rfl, ?_⟩
  obtain ⟨_, latch, lasts, _⟩ := emergency_word_meaning
    (rfl : run (step twoLiftExternals twoLiftParser) (boot [])
      [.highLevelEmergency 7 EmergencyReason.latch.mask 0] = some _)
  have added : Carries EmergencyReason.latch.mask .latch := by decide
  have latched := latch.mpr ⟨[], _, [], _, rfl, rfl, added, by simp⟩
  refine ⟨latched, fun final continued => lasts latched _ final ?_ continued⟩
  simp [ClearsLatch]

end World

end XBotFirmware.Emergency
