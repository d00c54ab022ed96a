import XBotFirmware.System.EmergencyStop

set_option autoImplicit false

/-!
The status that the emergency service publishes agrees with its reasons.

The lock is released between a change of the word and the message that reports
it, so the messages of two calls may come in either order.  Whoever changes the
word still owes a message, and a message carries the word as it is when it is
sent: the last one is current, or another one is owed.
-/

namespace XBotFirmware.System

open XBotFirmware.Library XBotFirmware.Platform XBotFirmware.Emergency XBotFirmware.DiffDrive

/-- The values of Emergency Reason that have been sent, in order. -/
def sentReasons (service : EmergencyService) : List Reasons :=
  service.outbox.filterMap fun output =>
    match output with
    | .emergencyReason reasons => some reasons
    | .emergencyChanged => none

theorem sentReasons_sendStatus (service : EmergencyService) :
    sentReasons service.sendStatus = sentReasons service ++ [service.reasons] := by
  simp [sentReasons, EmergencyService.sendStatus]

/-- The main thread is inside an `UpdateEmergency` that has changed the reasons. -/
def Dispatcher.Updating : Dispatcher → Prop
  | .broadcasting | .sendingStatus => True
  | _ => False

namespace Threads

variable {registers : Registers} {threads next : Threads}

/-- Some thread is between the locked change of `UpdateEmergency` and its end. -/
def UpdateInProgress (threads : Threads) : Prop :=
  0 < threads.owedBroadcasts ∨ 0 < threads.owedStatus ∨ threads.dispatcher.Updating

/-- The last value sent is current, or some thread still owes a message. -/
def Published (threads : Threads) : Prop :=
  threads.UpdateInProgress ∨
    (sentReasons threads.emergency).getLast? = some threads.emergency.reasons

def ReasonsChanged (registers : Registers) (labels : List Step) : Prop :=
  ¬ AtEveryStep (step registers) boot labels fun before _ after =>
    after.emergency.reasons = before.emergency.reasons

inductive StatusEffect (threads next : Threads) : Prop
  | inProgress : next.UpdateInProgress → StatusEffect threads next
  | sent : next.emergency = threads.emergency.sendStatus → StatusEffect threads next
  | unrelated : next.emergency = threads.emergency →
      next.owedBroadcasts = threads.owedBroadcasts → next.owedStatus = threads.owedStatus →
      (threads.dispatcher.Updating → next.dispatcher.Updating) → StatusEffect threads next

theorem StatusEffect.of_outside {dispatcher : Dispatcher}
    (phase : threads.dispatcher = dispatcher) (outside : ¬ dispatcher.Updating)
    (emergency : next.emergency = threads.emergency)
    (broadcasts : next.owedBroadcasts = threads.owedBroadcasts)
    (status : next.owedStatus = threads.owedStatus) : StatusEffect threads next :=
  .unrelated emergency broadcasts status fun inside => absurd (phase ▸ inside) outside

theorem StatusEffect.enter (threads : Threads) (owner : Owner)
    (prepared finished : DiffDriveService) :
    StatusEffect threads (threads.enter owner prepared finished) := by
  unfold Threads.enter
  split
  next => exact .unrelated rfl rfl rfl id
  next => exact .unrelated rfl rfl rfl id

theorem StatusEffect.leave {owner : Owner} {sending : Sending} (invariant : threads.Invariant)
    (held : threads.mutex = some (owner, sending)) :
    StatusEffect threads (threads.leave registers owner) := by
  cases owner with
  | tick times => exact .unrelated rfl rfl rfl id
  | twist => exact .unrelated rfl rfl rfl id
  | dispatcher inputs =>
      exact .of_outside (invariant.owned inputs sending held) id rfl rfl rfl

section ServiceSteps

theorem StatusEffect.updateEmergency {add clear : Reasons}
    (stepped : threads.step registers (.updateEmergency add clear) = some next) :
    StatusEffect threads next := by
  simp only [step] at stepped
  split at stepped
  next =>
    cases stepped
    exact .unrelated rfl rfl rfl id
  next =>
    cases stepped
    exact .inProgress (.inl (Nat.succ_pos _))

theorem StatusEffect.broadcastEmergency
    (stepped : threads.step registers .broadcastEmergency = some next) :
    StatusEffect threads next := by
  simp only [step] at stepped
  split at stepped
  next => cases stepped
  next =>
    cases stepped
    exact .inProgress (.inr (.inl (Nat.succ_pos _)))

theorem StatusEffect.sendOwedStatus
    (stepped : threads.step registers .sendOwedStatus = some next) :
    StatusEffect threads next := by
  simp only [step] at stepped
  split at stepped
  next => cases stepped
  next =>
    cases stepped
    exact .sent rfl

end ServiceSteps

section DispatcherSteps

theorem StatusEffect.wake (stepped : threads.step registers .wake = some next) :
    StatusEffect threads next := by
  simp only [step] at stepped
  split at stepped
  next waiting =>
    obtain ⟨listener, woken, rfl⟩ := Option.map_eq_some_iff.mp stepped
    exact .of_outside waiting id rfl rfl rfl
  next => cases stepped

theorem StatusEffect.getFlags (stepped : threads.step registers .getFlags = some next) :
    StatusEffect threads next := by
  simp only [step] at stepped
  split at stepped
  next woken =>
    cases stepped
    exact .of_outside woken id rfl rfl rfl
  next => cases stepped

theorem StatusEffect.getEmergency (stepped : threads.step registers .getEmergency = some next) :
    StatusEffect threads next := by
  simp only [step] at stepped
  split at stepped
  next inputs phase =>
    cases stepped
    exact .of_outside phase id rfl rfl rfl
  next => cases stepped

theorem StatusEffect.lockForEmergency
    (stepped : threads.step registers .lockForEmergency = some next) :
    StatusEffect threads next := by
  simp only [step] at stepped
  split at stepped
  next inputs phase free =>
    cases stepped
    exact .of_outside phase id rfl rfl rfl
  next => cases stepped

theorem StatusEffect.checkInputs {collected : Reasons}
    (stepped : threads.step registers (.checkInputs collected) = some next) :
    StatusEffect threads next := by
  simp only [step] at stepped
  split at stepped
  next checking =>
    cases stepped
    split
    next => exact .of_outside checking id rfl rfl rfl
    next => exact .inProgress (.inr (.inr trivial))
  next => cases stepped

theorem StatusEffect.broadcastChecked
    (stepped : threads.step registers .broadcastChecked = some next) :
    StatusEffect threads next := by
  simp only [step] at stepped
  split at stepped
  next =>
    cases stepped
    exact .inProgress (.inr (.inr trivial))
  next => cases stepped

theorem StatusEffect.sendCheckedStatus
    (stepped : threads.step registers .sendCheckedStatus = some next) :
    StatusEffect threads next := by
  simp only [step] at stepped
  split at stepped
  next =>
    cases stepped
    exact .sent rfl
  next => cases stepped

end DispatcherSteps

section DriveSteps

theorem StatusEffect.lockTick {times : TickTimes}
    (stepped : threads.step registers (.lockTick times) = some next) :
    StatusEffect threads next := by
  simp only [step] at stepped
  split at stepped
  next =>
    cases stepped
    apply StatusEffect.enter
  next => cases stepped

theorem StatusEffect.lockTwist {now : Micros} {newValue : Nat → ℚ} {length : Nat}
    (stepped : threads.step registers (.lockTwist now newValue length) = some next) :
    StatusEffect threads next := by
  simp only [step] at stepped
  split at stepped
  next =>
    cases stepped
    exact .unrelated rfl rfl rfl id
  next =>
    split at stepped
    next =>
      cases stepped
      apply StatusEffect.enter
    next => cases stepped

theorem StatusEffect.unlock (invariant : threads.Invariant)
    (stepped : threads.step registers .unlock = some next) : StatusEffect threads next := by
  simp only [step] at stepped
  split at stepped
  next owner sent =>
    cases stepped
    exact .leave invariant sent
  next => cases stepped

end DriveSteps

theorem statusEffect_of_step {label : Step} (invariant : threads.Invariant)
    (stepped : threads.step registers label = some next) : StatusEffect threads next := by
  cases label with
  | updateEmergency add clear => exact .updateEmergency stepped
  | broadcastEmergency => exact .broadcastEmergency stepped
  | sendOwedStatus => exact .sendOwedStatus stepped
  | sendStatus =>
      cases stepped
      exact .sent rfl
  | broadcastInputs =>
      cases stepped
      exact .unrelated rfl rfl rfl id
  | wake => exact .wake stepped
  | getFlags => exact .getFlags stepped
  | getEmergency => exact .getEmergency stepped
  | lockForEmergency => exact .lockForEmergency stepped
  | checkInputs collected => exact .checkInputs stepped
  | broadcastChecked => exact .broadcastChecked stepped
  | sendCheckedStatus => exact .sendCheckedStatus stepped
  | lockTick times => exact .lockTick stepped
  | lockTwist now newValue length => exact .lockTwist stepped
  | unlock => exact .unlock invariant stepped
  | readEmergency | commandLeft | commandRight =>
      simp only [step] at stepped
      split at stepped
      next =>
        cases stepped
        exact .unrelated rfl rfl rfl id
      next => cases stepped
  | onStart | onStop =>
      simp only [step] at stepped
      split at stepped
      next => cases stepped
      next =>
        cases stepped
        exact .unrelated rfl rfl rfl id
  | leftEscCallback state micros | rightEscCallback state micros =>
      simp only [step] at stepped
      split at stepped
      next =>
        cases stepped
        exact .unrelated rfl rfl rfl id
      next => cases stepped

theorem StatusEffect.published (effect : StatusEffect threads next)
    (published : threads.Published) : next.Published := by
  cases effect with
  | inProgress owed => exact .inl owed
  | sent sent =>
      apply Or.inr
      rw [sent, sentReasons_sendStatus, List.getLast?_concat]
      rfl
  | unrelated emergency broadcasts status updating =>
      rcases published with (owed | owed | inside) | current
      · exact .inl (.inl (broadcasts ▸ owed))
      · exact .inl (.inr (.inl (status ▸ owed)))
      · exact .inl (.inr (.inr (updating inside)))
      · exact .inr (emergency ▸ current)

/-- A step that changes the reasons leaves its call in progress. -/
theorem StatusEffect.inProgress_of_change (effect : StatusEffect threads next)
    (changes : next.emergency.reasons ≠ threads.emergency.reasons) :
    next.UpdateInProgress := by
  cases effect with
  | inProgress owed => exact owed
  | sent sent =>
      rw [sent] at changes
      exact absurd rfl changes
  | unrelated emergency _ _ _ => exact absurd (congrArg _ emergency) changes

theorem published_of_run {labels : List Step} (invariant : threads.Invariant)
    (published : threads.Published)
    (executed : run (step registers) threads labels = some next) : next.Published := by
  have preserved : next.Invariant ∧ next.Published := by
    apply run_invariant _ ⟨invariant, published⟩ executed
    rintro state label after ⟨held, sent⟩ stepped
    exact ⟨step_invariant state label after held stepped,
      (statusEffect_of_step held stepped).published sent⟩
  exact preserved.2

/-- Whenever no `UpdateEmergency` is in progress and the reasons have changed at
least once, the last value sent is the current one. -/
theorem lastSent_eq_reasons {labels : List Step}
    (executed : run (step registers) boot labels = some threads)
    (changed : ReasonsChanged registers labels) (idle : ¬ threads.UpdateInProgress) :
    (sentReasons threads.emergency).getLast? = some threads.emergency.reasons := by
  unfold ReasonsChanged AtEveryStep at changed
  push Not at changed
  obtain ⟨earlier, label, later, before, after, split, reached, stepped, changes⟩ := changed
  have invariant : before.Invariant := run_invariant step_invariant boot_invariant reached
  have owed := (statusEffect_of_step invariant stepped).inProgress_of_change changes
  have rest : run (step registers) after later = some threads := by
    rw [split, run_append, reached, Option.bind_some, run_cons, stepped] at executed
    exact executed
  have published :=
    published_of_run (step_invariant _ _ _ invariant stepped) (.inl owed) rest
  exact published.resolve_left idle

/-- Two calls overlap, and the one that came first sends last. -/
def overlappingUpdates : List Step :=
  [.updateEmergency EmergencyReason.stop.mask 0, .broadcastEmergency,
    .updateEmergency EmergencyReason.lift.mask 0, .broadcastEmergency,
    .sendOwedStatus, .sendOwedStatus]

theorem lastSent_eq_reasons_overlapping :
    ∃ threads : Threads, run (step ⟨100, 13 / 50⟩) boot overlappingUpdates = some threads ∧
      (sentReasons threads.emergency).getLast? = some threads.emergency.reasons := by
  have evaluated : (run (step ⟨100, 13 / 50⟩) boot overlappingUpdates).map (fun threads =>
      (threads.owedBroadcasts, threads.owedStatus, threads.dispatcher)) =
        some (0, 0, .waiting) := by
    decide +kernel
  obtain ⟨threads, executed, values⟩ := Option.map_eq_some_iff.mp evaluated
  simp only [Prod.mk.injEq] at values
  obtain ⟨broadcasts, status, waiting⟩ := values
  have idle : ¬ threads.UpdateInProgress := by
    rintro (owed | owed | inside)
    · exact absurd broadcasts (Nat.ne_of_gt owed)
    · exact absurd status (Nat.ne_of_gt owed)
    · rw [waiting] at inside
      exact inside
  have changed : ReasonsChanged ⟨100, 13 / 50⟩ overlappingUpdates := by
    intro unchanged
    have same := unchanged [] _ _ boot _ rfl rfl rfl
    exact absurd same (by decide +kernel)
  exact ⟨threads, executed, lastSent_eq_reasons executed changed idle⟩

end Threads

end XBotFirmware.System
