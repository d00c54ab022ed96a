import Mathlib.Data.List.TakeWhile
import XBotFirmware.Debug.TcpInterface

set_option autoImplicit false

/-!
What a client session passes on to the driver.

A chunk that was received reaches the driver once and whole, and a closed connection ends
the session.  An error of `read` becomes the largest `size_t` and does not.
-/

namespace XBotFirmware.Debug

open XBotFirmware.Library

inductive SessionOp where
  | read (result : ReadResult)
  | rawDataOutput (data : List Byte)

namespace SessionOp

def op : SessionOp → DebugOp
  | read result => .read result
  | rawDataOutput data => .rawDataOutput data

/-- No result of `read` that is zero or negative. -/
def passing : SessionOp → Bool
  | read (.received _) => true
  | read _ => false
  | rawDataOutput _ => true

def passedOn : SessionOp → Option RawInput
  | read (.received chunk) => some ⟨chunk.bytes, BitVec.ofNat 32 chunk.bytes.length⟩
  | _ => none

end SessionOp

theorem Chunk.toNat_size (chunk : Chunk) :
    (BitVec.ofNat 32 chunk.bytes.length : Size).toNat = chunk.bytes.length := by
  have fits := chunk.fits
  rw [inputBufferSize] at fits
  rw [BitVec.toNat_ofNat]
  omega

theorem SessionOp.passedOn_size {op : SessionOp} {call : RawInput}
    (passed : op.passedOn = some call) :
    call.size.toNat = call.data.length ∧ call.data.length ≤ inputBufferSize := by
  match op, passed with
  | .read (.received chunk), rfl => exact ⟨chunk.toNat_size, chunk.fits⟩

namespace DebugTcpInterface

/-- A session passes on each chunk before the first result that is zero or negative, and
that result ends it. -/
structure PassesOn (opened : DebugTcpInterface) (ops : List SessionOp) : Prop where
  passed : ∃ during,
    run step opened ((ops.takeWhile SessionOp.passing).map SessionOp.op) = some during ∧
    during.driver.rawDataInputs = opened.driver.rawDataInputs ++
      (ops.takeWhile SessionOp.passing).filterMap SessionOp.passedOn
  bounded : ∀ call ∈ (ops.takeWhile SessionOp.passing).filterMap SessionOp.passedOn,
    call.size.toNat = call.data.length ∧ call.data.length ≤ inputBufferSize
  stopped : ∀ last rest, ops.dropWhile SessionOp.passing = last :: rest → ∃ ended,
    run step opened ((ops.takeWhile SessionOp.passing ++ [last]).map SessionOp.op) = some ended ∧
    ended.position = .accepting ∧
    ended.driver.rawDataInputs = opened.driver.rawDataInputs ++
      (ops.takeWhile SessionOp.passing).filterMap SessionOp.passedOn ∧
    ended.driver.isRawMode = false ∧
    ended.currentClientSocket = -1

theorem read_received (interface : DebugTcpInterface) (incoming : Int) (chunk : Chunk) :
    interface.read incoming (.received chunk) =
      { interface.store (.received chunk) with
        driver := interface.driver.rawDataInput
          ⟨chunk.bytes, BitVec.ofNat 32 chunk.bytes.length⟩ } := by
  have converted : BitVec.ofInt 32 (ReadResult.received chunk).returned =
      BitVec.ofNat 32 chunk.bytes.length := BitVec.ofInt_natCast _ _
  have positive : (0 : Size) < BitVec.ofNat 32 chunk.bytes.length := by
    rw [BitVec.lt_def, chunk.toNat_size]
    exact chunk.nonempty
  have covered : (interface.store (.received chunk)).inputBuffer.take
      (BitVec.ofNat 32 chunk.bytes.length : Size).toNat = chunk.bytes := by
    rw [chunk.toNat_size]
    exact List.take_left
  simp only [read, converted, if_pos positive, rawDataInput, covered, store_driver]

theorem read_closed (interface : DebugTcpInterface) (incoming : Int) :
    interface.read incoming .closed = interface.endSession incoming := rfl

theorem read_error (interface : DebugTcpInterface) (incoming : Int) :
    interface.read incoming .error = interface.rawDataInput (BitVec.allOnes 32) := rfl

theorem step_passing {interface : DebugTcpInterface} {incoming : Int}
    (reading : interface.position = .reading incoming) {op : SessionOp}
    (passing : op.passing = true) :
    ∃ next, interface.step op.op = some next ∧ next.position = .reading incoming ∧
      next.driver.rawDataInputs = interface.driver.rawDataInputs ++ op.passedOn.toList := by
  cases op with
  | rawDataOutput data =>
      refine ⟨interface.rawDataOutput data, rfl, ?_, ?_⟩
      · rw [rawDataOutput_position, reading]
      · simp [SessionOp.passedOn]
  | read result =>
      cases result with
      | received chunk =>
          refine ⟨interface.read incoming (.received chunk), ?_, ?_, ?_⟩
          · simp only [step, SessionOp.op, reading]
          · rw [read_received]
            exact reading
          · rw [read_received]
            rfl
      | closed => cases passing
      | error => cases passing

theorem run_passing {interface : DebugTcpInterface} {incoming : Int}
    (reading : interface.position = .reading incoming) {ops : List SessionOp}
    (passing : ∀ op ∈ ops, op.passing = true) :
    ∃ during, run step interface (ops.map SessionOp.op) = some during ∧
      during.position = .reading incoming ∧
      during.driver.rawDataInputs =
        interface.driver.rawDataInputs ++ ops.filterMap SessionOp.passedOn := by
  induction ops generalizing interface with
  | nil => exact ⟨interface, rfl, reading, (List.append_nil _).symm⟩
  | cons op rest inductionHypothesis =>
      obtain ⟨headPassing, restPassing⟩ := List.forall_mem_cons.mp passing
      obtain ⟨next, stepped, stillReading, called⟩ := step_passing reading headPassing
      obtain ⟨during, executed, position, inputs⟩ := inductionHypothesis stillReading restPassing
      refine ⟨during, run_cons_eq_some.mpr ⟨next, stepped, executed⟩, position, ?_⟩
      rw [inputs, called, List.append_assoc]
      cases passed : op.passedOn <;> simp [passed]

theorem accept_opens {interface opened : DebugTcpInterface} {incoming setsockopt : Int}
    (accepted : interface.step (.accept incoming setsockopt) = some opened)
    (isClient : 0 ≤ incoming) (noDelay : 0 ≤ setsockopt) :
    opened.position = .reading incoming := by
  simp only [step] at accepted
  split at accepted
  next =>
    cases accepted
    rw [accept, if_neg (Int.not_lt.mpr isClient), if_neg (Int.not_lt.mpr noDelay)]
  next => cases accepted

/-- A session passes on what was received if and only if the first result that is zero or
negative, should there be one, is not an error. -/
theorem session_passesOn_iff {interface opened : DebugTcpInterface} {incoming setsockopt : Int}
    (accepted : interface.step (.accept incoming setsockopt) = some opened)
    (isClient : 0 ≤ incoming) (noDelay : 0 ≤ setsockopt) (ops : List SessionOp) :
    opened.PassesOn ops ↔ ∀ rest, ops.dropWhile SessionOp.passing ≠ .read .error :: rest := by
  have reading := accept_opens accepted isClient noDelay
  obtain ⟨during, executed, stillReading, called⟩ :=
    run_passing reading fun op (membership : op ∈ ops.takeWhile SessionOp.passing) =>
      List.mem_takeWhile_imp membership
  constructor
  · intro passesOn rest failed
    obtain ⟨ended, endRun, accepting, _⟩ := passesOn.stopped _ _ failed
    rw [List.map_append] at endRun
    obtain ⟨middle, middleRun, lastStep⟩ := run_concat_eq_some.mp endRun
    obtain rfl : during = middle := Option.some.inj (executed.symm.trans middleRun)
    simp only [step, SessionOp.op, stillReading, read_error, Option.some.injEq] at lastStep
    rw [← lastStep, rawDataInput, stillReading] at accepting
    cases accepting
  · intro noError
    refine ⟨⟨during, executed, called⟩, ?_, ?_⟩
    · intro call membership
      obtain ⟨op, _, passed⟩ := List.mem_filterMap.mp membership
      exact SessionOp.passedOn_size passed
    · intro last rest remaining
      have notPassing := List.head?_dropWhile_not SessionOp.passing ops
      simp only [remaining, List.head?_cons] at notPassing
      cases last with
      | rawDataOutput data => cases notPassing
      | read result =>
          cases result with
          | received chunk => cases notPassing
          | error => exact absurd remaining (noError rest)
          | closed =>
              refine ⟨during.endSession incoming, ?_, rfl, called, rfl, rfl⟩
              rw [List.map_append]
              refine run_concat_eq_some.mpr ⟨during, executed, ?_⟩
              simp only [step, SessionOp.op, stillReading, read_closed]

def betweenClients : DebugTcpInterface :=
  { start ⟨false, true, []⟩ with position := .accepting }

def twoBytes : Chunk := ⟨[1, 2], by decide, by decide⟩

theorem session_passesOn_iff_closed :
    ∃ opened, betweenClients.step (.accept 3 0) = some opened ∧
      opened.PassesOn [.read (.received twoBytes), .rawDataOutput [9], .read .closed] := by
  refine ⟨_, rfl, ?_⟩
  refine (session_passesOn_iff (rfl : betweenClients.step (.accept 3 0) = some _) (by decide)
    (by decide) _).mpr ?_
  intro rest remaining
  cases remaining

/-- After an error the thread is still reading. -/
theorem session_error_not_passesOn :
    ∃ opened, betweenClients.step (.accept 3 0) = some opened ∧
      ¬opened.PassesOn [.read .error] := by
  refine ⟨_, rfl, fun passesOn => ?_⟩
  obtain ⟨ended, endRun, accepting, _⟩ := passesOn.stopped (.read .error) [] rfl
  have position := congrArg (Option.map DebugTcpInterface.position) endRun
  rw [Option.map_some, accepting] at position
  cases position

end DebugTcpInterface

end XBotFirmware.Debug
