import XBotFirmware.Emergency.World

set_option autoImplicit false

/-!
High-level messages of any length.

The handler reads two elements of the packet buffer whatever the length.  A run is given
by its operations together with what the buffer holds behind each message; two fillings
of the same operations may only end with different reasons where a message is too short.
-/

namespace XBotFirmware.Emergency

open XBotFirmware.Library XBotFirmware.Platform XBotFirmware.Inputs XBotFirmware.Json

inductive MessageOp where
  | message (now : Micros) (elements : List Reasons)
  | other (op : Op)

/-- The operation and the contents of the buffer from its start on, of which the message
overwrites the first elements. -/
structure Delivery where
  op : MessageOp
  buffer : Nat → Reasons

def received (elements : List Reasons) (buffer : Nat → Reasons) (position : Nat) : Reasons :=
  elements.getD position (buffer position)

namespace World

variable {ParserState : Type} (externals : Externals) (parser : StreamParser ParserState)

def deliver (world : World) (delivery : Delivery) : Option World :=
  match delivery.op with
  | .message now elements =>
      let newValue := received elements delivery.buffer
      some { world with emergency :=
        world.emergency.onHighLevelEmergencyChanged now newValue elements.length }
  | .other op => world.step externals parser op

/-- All runs of the operations that reach their end do so with the same reasons. -/
def DecidedByMessages (start : World) (ops : List MessageOp) : Prop :=
  ∀ first second : List Delivery, first.map (·.op) = ops → second.map (·.op) = ops →
    ∀ firstEnd secondEnd, run (deliver externals parser) start first = some firstEnd →
      run (deliver externals parser) start second = some secondEnd →
      firstEnd.emergency.reasons = secondEnd.emergency.reasons

/-- The operation does not depend on the buffer: a message has both elements, or only the
reasons to add and among them all that are set. -/
def Covered (world : World) : MessageOp → Prop
  | .message _ [] => False
  | .message _ [add] => world.emergency.reasons &&& ~~~add = 0
  | .message _ (_ :: _ :: _) => True
  | .other _ => True

def AlwaysCovered (start : World) (ops : List MessageOp) : Prop :=
  ∀ deliveries : List Delivery, deliveries.map (·.op) = ops →
    AtEveryStep (deliver externals parser) start deliveries
      fun world delivery _ => world.Covered delivery.op

end World

theorem exists_deliveries (ops : List MessageOp) :
    ∃ deliveries : List Delivery, deliveries.map (·.op) = ops :=
  ⟨ops.map fun op => ⟨op, fun _ => 0⟩, by simp [Function.comp_def]⟩

theorem EmergencyService.updateEmergency_congr (service : EmergencyService)
    {add clear otherAdd otherClear : Reasons}
    (same : revise service.reasons add clear = revise service.reasons otherAdd otherClear) :
    service.updateEmergency add clear = service.updateEmergency otherAdd otherClear := by
  simp only [updateEmergency, same]

theorem revise_covered {reasons add : Reasons} (covered : reasons &&& ~~~add = 0)
    (clear : Reasons) : revise reasons add clear = add := by
  apply BitVec.eq_of_getLsbD_eq
  intro bit inside
  have absent : (reasons &&& ~~~add).getLsbD bit = false := by simp [covered]
  simp only [BitVec.getLsbD_and, BitVec.getLsbD_not, inside, decide_true, Bool.true_and] at absent
  rw [getLsbD_revise]
  cases added : add.getLsbD bit with
  | true => simp
  | false => simp_all

theorem covered_of_revise_eq {reasons add : Reasons}
    (same : revise reasons add (BitVec.allOnes 16) = revise reasons add 0) :
    reasons &&& ~~~add = 0 := by
  apply BitVec.eq_of_getLsbD_eq
  intro bit inside
  have sameBit := congrArg (BitVec.getLsbD · bit) same
  simp only [getLsbD_revise, BitVec.getLsbD_allOnes, inside, decide_true, Bool.not_true,
    Bool.and_false, Bool.false_or, BitVec.ofNat_eq_ofNat, BitVec.getLsbD_zero, Bool.not_false,
    Bool.and_true] at sameBit
  cases added : add.getLsbD bit with
  | true => simp [added]
  | false => simp_all

namespace World

variable {ParserState : Type} {externals : Externals} {parser : StreamParser ParserState}

/-- A covered operation leads to the same world whatever the buffer holds. -/
theorem deliver_covered {world : World} {first second : Delivery} (sameOp : first.op = second.op)
    (covered : world.Covered first.op) :
    world.deliver externals parser first = world.deliver externals parser second := by
  obtain ⟨op, buffer⟩ := first
  obtain ⟨_, other⟩ := second
  obtain rfl := sameOp
  cases op with
  | other op => rfl
  | message now elements =>
      match elements, covered with
      | [add], covered =>
          have same : revise world.emergency.reasons add (buffer 1) =
              revise world.emergency.reasons add (other 1) := by
            rw [revise_covered covered, revise_covered covered]
          exact congrArg (fun emergency => some { world with emergency := emergency })
            (EmergencyService.updateEmergency_congr
              { world.emergency with lastHighLevelEmergencyMessage := now } same)
      | _ :: _ :: _, _ => rfl

/-- Behind a message that is not covered two buffers make a difference. -/
theorem exists_deliver_ne {world : World} {op : MessageOp} (uncovered : ¬world.Covered op) :
    ∃ buffer other firstEnd secondEnd,
      world.deliver externals parser ⟨op, buffer⟩ = some firstEnd ∧
      world.deliver externals parser ⟨op, other⟩ = some secondEnd ∧
      firstEnd.emergency.reasons ≠ secondEnd.emergency.reasons := by
  cases op with
  | other op => exact absurd trivial uncovered
  | message now elements =>
      match elements, uncovered with
      | [], _ =>
          -- One buffer adds every reason, the other clears all of them.
          refine ⟨fun _ => BitVec.allOnes 16, twoElements 0 (BitVec.allOnes 16), _, _, rfl,
            rfl, ?_⟩
          simp [received, twoElements, EmergencyService.onHighLevelEmergencyChanged, revise]
      | [add], uncovered =>
          -- One buffer clears every reason, the other none.
          refine ⟨fun _ => BitVec.allOnes 16, fun _ => 0, _, _, rfl, rfl,
            fun same => uncovered ?_⟩
          simp only [received, EmergencyService.onHighLevelEmergencyChanged,
            EmergencyService.updateEmergency_reasons] at same
          exact covered_of_revise_eq same
      | _ :: _ :: _, uncovered => exact absurd trivial uncovered

theorem covered_of_deliver_none {world : World} {delivery : Delivery}
    (undefined : world.deliver externals parser delivery = none) : world.Covered delivery.op := by
  obtain ⟨op, buffer⟩ := delivery
  cases op with
  | other op => trivial
  | message now elements => cases undefined

theorem AlwaysCovered.covered {start : World} {op : MessageOp} {ops : List MessageOp}
    (always : AlwaysCovered externals parser start (op :: ops)) : start.Covered op := by
  obtain ⟨deliveries, sameOps⟩ := exists_deliveries (op :: ops)
  obtain ⟨delivery, rest, rfl, rfl, _⟩ := List.map_eq_cons_iff.mp sameOps
  cases delivered : start.deliver externals parser delivery with
  | none => exact covered_of_deliver_none delivered
  | some next =>
      exact always (delivery :: rest) sameOps [] delivery rest start next rfl rfl delivered

theorem AlwaysCovered.tail {start next : World} {delivery : Delivery} {ops : List MessageOp}
    (always : AlwaysCovered externals parser start (delivery.op :: ops))
    (delivered : start.deliver externals parser delivery = some next) :
    AlwaysCovered externals parser next ops := by
  intro deliveries sameOps before label after state following split executed stepped
  refine always (delivery :: deliveries) (by rw [List.map_cons, sameOps]) (delivery :: before) label
    after state following (by rw [split, List.cons_append]) ?_ stepped
  exact run_cons_eq_some.mpr ⟨next, delivered, executed⟩

/-- Where every message is covered the buffers make no difference to a run. -/
theorem AlwaysCovered.run_eq {start : World} {ops : List MessageOp}
    (always : AlwaysCovered externals parser start ops) {first second : List Delivery}
    (firstOps : first.map (·.op) = ops) (secondOps : second.map (·.op) = ops) :
    run (deliver externals parser) start first = run (deliver externals parser) start second := by
  induction ops generalizing start first second with
  | nil => rw [List.map_eq_nil_iff.mp firstOps, List.map_eq_nil_iff.mp secondOps]
  | cons op rest inductionHypothesis =>
      obtain ⟨delivery, first, rfl, rfl, firstRest⟩ := List.map_eq_cons_iff.mp firstOps
      obtain ⟨other, second, rfl, sameOp, secondRest⟩ := List.map_eq_cons_iff.mp secondOps
      rw [run_cons, run_cons, ← deliver_covered sameOp.symm always.covered]
      apply Option.bind_congr
      intro next delivered
      exact inductionHypothesis (always.tail delivered) firstRest secondRest

theorem AlwaysCovered.before {start : World} {before after : List MessageOp}
    (always : AlwaysCovered externals parser start (before ++ after)) :
    AlwaysCovered externals parser start before := by
  intro deliveries sameOps first label last state next split executed stepped
  obtain ⟨rest, restOps⟩ := exists_deliveries after
  refine always (deliveries ++ rest) (by rw [List.map_append, sameOps, restOps]) first label
    (last ++ rest) state next ?_ executed stepped
  rw [split, List.append_assoc, List.cons_append]

/-- After every prefix of the operations the reasons are decided by the messages alone if
and only if no message depends on the buffer in the world that it finds. -/
theorem decidedByMessages_iff (externals : Externals) (parser : StreamParser ParserState)
    (start : World) (ops : List MessageOp) :
    (∀ before after, ops = before ++ after → DecidedByMessages externals parser start before) ↔
      AlwaysCovered externals parser start ops := by
  constructor
  · intro decided deliveries sameOps before label after state next split executed _
    by_contra uncovered
    obtain ⟨buffer, other, firstEnd, secondEnd, first, second, different⟩ :=
      @exists_deliver_ne _ externals parser _ _ uncovered
    have shared : ops = (before.map (·.op) ++ [label.op]) ++ after.map (·.op) := by
      rw [← sameOps, split, List.map_append, List.map_cons, List.append_assoc,
        List.singleton_append]
    have filled : ∀ buffer, (before ++ [Delivery.mk label.op buffer]).map (·.op) =
        before.map (·.op) ++ [label.op] := fun _ => List.map_append
    exact different (decided _ _ shared _ _ (filled buffer) (filled other) firstEnd secondEnd
      (run_concat_eq_some.mpr ⟨state, executed, first⟩)
      (run_concat_eq_some.mpr ⟨state, executed, second⟩))
  · intro always before after split first second firstOps secondOps firstEnd secondEnd firstRun
      secondRun
    rw [split] at always
    rw [always.before.run_eq firstOps secondOps, secondRun] at firstRun
    rw [Option.some.inj firstRun]

/-- A message of one element takes a latched emergency back if the buffer says so. -/
theorem short_message_clears_latch :
    ¬DecidedByMessages twoLiftExternals twoLiftParser (boot [])
      [.message 0 [EmergencyReason.latch.mask, 0], .message 100 [0]] := by
  intro decided
  have different := decided
    [⟨.message 0 [EmergencyReason.latch.mask, 0], fun _ => 0⟩, ⟨.message 100 [0], fun _ => 0⟩]
    [⟨.message 0 [EmergencyReason.latch.mask, 0], fun _ => 0⟩,
      ⟨.message 100 [0], fun _ => BitVec.allOnes 16⟩]
    rfl rfl _ _ rfl rfl
  exact absurd different (by decide)

end World

end XBotFirmware.Emergency
