import XBotFirmware.Inputs.DriverLists

set_option autoImplicit false

/-!
The masks of active inputs (`SetActiveInputs` in
`src/drivers/input/simulated_input_driver.cpp`, `SendStatus` of the input service).

Both masks are made with a shift in `int`, which is right because the configuration gives
out indices below 30 only.  The list of the simulated driver visits each of its inputs
once, so that every one of them follows its own bit.
-/

namespace XBotFirmware.Inputs

open XBotFirmware.Library XBotFirmware.Platform XBotFirmware.Emergency XBotFirmware.Json

def isBitSet (mask : BitVec 64) (idx : BitVec 8) : Bool := mask &&& idxBit idx ≠ 0

/-- Below the sign bit the shift is right in 64 bits too. -/
theorem idxBit_eq_twoPow {idx : BitVec 8} (small : idx.toNat < 31) :
    idxBit idx = BitVec.twoPow 64 idx.toNat := by
  have positive : ((1 : BitVec 32) <<< idx.toNat).msb = false := by
    rw [BitVec.ofNat_eq_ofNat, ← BitVec.twoPow_eq, BitVec.msb_twoPow]
    simp only [Bool.and_eq_false_imp, decide_eq_true_eq, decide_eq_false_iff_not]
    omega
  rw [idxBit, BitVec.signExtend_eq_setWidth_of_msb_false positive, BitVec.ofNat_eq_ofNat,
    ← BitVec.twoPow_eq]
  apply BitVec.eq_of_getLsbD_eq
  intro bit inside
  rw [BitVec.getLsbD_setWidth, BitVec.getLsbD_twoPow, BitVec.getLsbD_twoPow]
  have shortBit : idx.toNat < 32 := Nat.lt_succ_of_lt small
  have longBit : idx.toNat < 64 := Nat.lt_trans shortBit (by decide)
  simp [inside, shortBit, longBit]

theorem isBitSet_eq_getLsbD {idx : BitVec 8} (small : idx.toNat < 31) (mask : BitVec 64) :
    isBitSet mask idx = mask.getLsbD idx.toNat := by
  rw [Bool.eq_iff_iff, isBitSet, idxBit_eq_twoPow small, decide_eq_true_eq]
  exact and_twoPow_ne_zero_iff mask idx.toNat

namespace InputService

/-- The body of `for (auto& input : Inputs())` in `SetActiveInputs`, from one input on.
`readings` are the time samples for the update of each input.  A list that visits more
inputs than there are never ends. -/
def setActiveInputsFrom (readings : Nat → List Micros) (mask : BitVec 64) :
    Nat → InputService → Option Nat → Option InputService
  | _, service, none => some service
  | 0, _, some _ => none
  | fuel + 1, service, some position =>
      match service.allInputs[position]? with
      | none => none
      | some input =>
          (update (readings position) service position (isBitSet mask input.idx)).bind
            fun result => setActiveInputsFrom readings mask fuel result.2
              (link result.2.allInputs position)

def setActiveInputs (readings : Nat → List Micros) (service : InputService) (driver : InputDriver)
    (mask : BitVec 64) : Option InputService :=
  setActiveInputsFrom readings mask service.allInputs.length service driver.inputsHead

/-- `OnSimulatedInputsChanged` of a debug build. -/
def onSimulatedInputsChanged (readings : Nat → List Micros) (service : InputService)
    (newValue : BitVec 64) : Option InputService :=
  match service.drivers.find? fun entry => entry.1 = "simulated" with
  | none => none
  | some entry => service.setActiveInputs readings entry.2 newValue

theorem sendStatus_outbox (service : InputService) :
    service.sendStatus.outbox = service.outbox ++ [.activeInputs service.activeInputsMask] := rfl

theorem foldl_idxBit_getLsbD {inputs : List Input}
    (small : ∀ input ∈ inputs, input.idx ≠ virtualIdx → input.idx.toNat < 31) (mask : BitVec 64)
    (bit : Nat) :
    (inputs.foldl (fun mask input =>
      if input.active = true ∧ input.idx ≠ virtualIdx then mask ||| idxBit input.idx
      else mask) mask).getLsbD bit = true ↔
      mask.getLsbD bit = true ∨ ∃ input ∈ inputs,
        input.idx ≠ virtualIdx ∧ input.idx.toNat = bit ∧ input.active = true := by
  induction inputs generalizing mask with
  | nil => simp
  | cons input rest inductionHypothesis =>
      obtain ⟨smallHead, smallRest⟩ := List.forall_mem_cons.mp small
      rw [List.foldl_cons, inductionHypothesis smallRest, List.exists_mem_cons_iff, ← or_assoc]
      apply or_congr_left
      by_cases shown : input.active = true ∧ input.idx ≠ virtualIdx
      · have short := smallHead shown.2
        have inside : input.idx.toNat < 64 := Nat.lt_trans short (by decide)
        rw [if_pos shown, idxBit_eq_twoPow short]
        simp [shown, inside]
      · rw [if_neg shown]
        have hidden : ¬(input.idx ≠ virtualIdx ∧ input.idx.toNat = bit ∧ input.active = true) :=
          fun ⟨notVirtual, _, active⟩ => shown ⟨active, notVirtual⟩
        simp [hidden]

theorem WellFormed.idx_lt {service : InputService} (wellFormed : service.WellFormed)
    {input : Input} (membership : input ∈ service.allInputs) (notVirtual : input.idx ≠ virtualIdx) :
    input.idx.toNat < 31 := by
  obtain ⟨position, found⟩ := List.mem_iff_getElem?.mp membership
  have configured := (wellFormed.configured found notVirtual).2
  exact Nat.lt_succ_of_lt configured.idx

theorem activeInputsMask_getLsbD {service : InputService}
    (small : ∀ input ∈ service.allInputs, input.idx ≠ virtualIdx → input.idx.toNat < 31)
    (bit : Nat) :
    service.activeInputsMask.getLsbD bit = true ↔ ∃ input ∈ service.allInputs,
      input.idx ≠ virtualIdx ∧ input.idx.toNat = bit ∧ input.active = true := by
  rw [activeInputsMask, foldl_idxBit_getLsbD small]
  simp

theorem Invariant.idx_lt {service : InputService} (invariant : service.Invariant) {input : Input}
    (membership : input ∈ service.allInputs) (notVirtual : input.idx ≠ virtualIdx) :
    input.idx.toNat < 31 := by
  rcases invariant with unconfigured | ⟨wellFormed, _⟩
  · rw [unconfigured.inputs] at membership
    cases membership
  · exact wellFormed.idx_lt membership notVirtual

variable {externals : Externals} {registry : Registry} {declared : Declarations}
  {service : InputService}

/-- As the indices are distinct, the bit at the index of an input is its state. -/
theorem Threaded.activeInputsMask_at (threaded : service.Threaded externals registry declared)
    (wellFormed : service.WellFormed) {position : Nat} {input : Input}
    (found : service.allInputs[position]? = some input) (notVirtual : input.idx ≠ virtualIdx) :
    service.activeInputsMask.getLsbD input.idx.toNat = input.active := by
  have partitioned := threaded.partitioned wellFormed
  have nonzero := (wellFormed.configured found notVirtual).1
  rw [Bool.eq_iff_iff, activeInputsMask_getLsbD fun _ => wellFormed.idx_lt]
  constructor
  · rintro ⟨other, membership, otherNotVirtual, sameIdx, active⟩
    obtain ⟨place, present⟩ := List.mem_iff_getElem?.mp membership
    have placeNonzero := (wellFormed.configured present otherNotVirtual).1
    have here := (partitioned.idx position input found nonzero).1
    have there := (partitioned.idx place other present placeNonzero).1
    obtain rfl : place = position := by omega
    obtain rfl := Option.some.inj (found.symm.trans present)
    exact active
  · intro active
    exact ⟨input, List.mem_of_getElem? found, notVirtual, rfl, active⟩

/-- The inputs at the given positions show their bits of the mask, and the other configured
inputs are as they were. -/
def Shows (mask : BitVec 64) (nodes : List Nat) (service after : InputService) : Prop :=
  ∀ position input, position ≠ 0 → service.allInputs[position]? = some input →
    ∃ input', after.allInputs[position]? = some input' ∧ input.SameConfiguration input' ∧
      input'.active =
        if position ∈ nodes then mask.getLsbD input.idx.toNat ^^ input.invert else input.active

theorem FollowedAt.shows {mask : BitVec 64} {next after : InputService} {node : Nat}
    {rest : List Nat} {input : Input}
    (followedAt : FollowedAt service node input (mask.getLsbD input.idx.toNat) next)
    (found : service.allInputs[node]? = some input) (nonzero : node ≠ 0) (fresh : node ∉ rest)
    (shows : Shows mask rest next after) : Shows mask (node :: rest) service after := by
  intro position other positionNonzero present
  by_cases here : position = node
  · subst here
    obtain rfl := Option.some.inj (found.symm.trans present)
    obtain ⟨input', present', same, active⟩ := followedAt.updated
    obtain ⟨input'', present'', same', active'⟩ := shows position input' nonzero present'
    refine ⟨input'', present'', same.trans same', ?_⟩
    rw [active', if_neg fresh, active, if_pos List.mem_cons_self]
  · have unchanged := followedAt.others position here positionNonzero
    obtain ⟨input', present', same, active⟩ :=
      shows position other positionNonzero (unchanged.trans present)
    refine ⟨input', present', same, ?_⟩
    rw [active]
    simp [here]

/-- The loop visits the inputs of the list, and each of them takes its bit. -/
theorem setActiveInputsFrom_chain {readings : Nat → List Micros}
    (enough : ∀ position, 2 ≤ (readings position).length) (mask : BitVec 64) {nodes : List Nat}
    {head : Option Nat} (chain : Chain (link service.allInputs) head nodes)
    (configured : ∀ node ∈ nodes, node ≠ 0 ∧ node < service.allInputs.length)
    (wellFormed : service.WellFormed) (threaded : service.Threaded externals registry declared)
    {fuel : Nat} (fuelled : nodes.length ≤ fuel) :
    ∃ after, setActiveInputsFrom readings mask fuel service head = some after ∧
      after.WellFormed ∧ after.Threaded externals registry declared ∧
      Shows mask nodes service after := by
  induction nodes generalizing service head fuel with
  | nil =>
      cases chain
      refine ⟨service, by cases fuel <;> rfl, wellFormed, threaded, ?_⟩
      intro position input _ found
      exact ⟨input, found, .refl input, by simp⟩
  | cons node rest inductionHypothesis =>
      obtain ⟨fresh, _⟩ := List.nodup_cons.mp chain.nodup
      obtain ⟨⟨nonzero, inside⟩, restConfigured⟩ := List.forall_mem_cons.mp configured
      obtain ⟨input, found⟩ : ∃ input, service.allInputs[node]? = some input :=
        ⟨_, List.getElem?_eq_getElem inside⟩
      have notVirtual := wellFormed.notVirtual found nonzero
      have small := wellFormed.idx_lt (List.mem_of_getElem? found) notVirtual
      obtain ⟨⟨changed, next⟩, updated⟩ :=
        exists_update wellFormed found notVirtual (enough node) (isBitSet mask input.idx)
      have evolved := update_evolved wellFormed found notVirtual updated
      have followedAt := update_followedAt wellFormed found notVirtual updated
      rw [isBitSet_eq_getLsbD small] at followedAt
      cases chain with
      | cons threads =>
          cases fuel with
          | zero => exact absurd fuelled (Nat.not_succ_le_zero _)
          | succ fuel =>
              rw [← evolved.link_eq] at threads
              rw [← evolved.length] at restConfigured
              obtain ⟨after, executed, afterWellFormed, afterThreaded, shows⟩ :=
                inductionHypothesis threads restConfigured (evolved.wellFormed wellFormed)
                  (evolved.threaded threaded) (Nat.le_of_succ_le_succ fuelled)
              refine ⟨after, ?_, afterWellFormed, afterThreaded,
                followedAt.shows found nonzero fresh shows⟩
              simp only [setActiveInputsFrom, found, updated, Option.bind_some]
              exact executed

section Shown

variable {mask : BitVec 64} {nodes : List Nat} {after : InputService}

theorem Shows.activeInputsMask (shows : Shows mask nodes service after)
    (wellFormed : service.WellFormed) (threaded : service.Threaded externals registry declared)
    (afterWellFormed : after.WellFormed)
    (afterThreaded : after.Threaded externals registry declared) {position : Nat}
    {input : Input} (found : service.allInputs[position]? = some input)
    (notVirtual : input.idx ≠ virtualIdx) :
    after.activeInputsMask.getLsbD input.idx.toNat =
      if position ∈ nodes then mask.getLsbD input.idx.toNat ^^ input.invert
      else service.activeInputsMask.getLsbD input.idx.toNat := by
  have nonzero := (wellFormed.configured found notVirtual).1
  obtain ⟨input', found', same, active⟩ := shows position input nonzero found
  have notVirtual' : input'.idx ≠ virtualIdx := same.1 ▸ notVirtual
  have bitAfter := afterThreaded.activeInputsMask_at afterWellFormed found' notVirtual'
  rw [← same.1] at bitAfter
  rw [bitAfter, active, threaded.activeInputsMask_at wellFormed found notVirtual]

theorem Shows.activeInputsMask_absent (shows : Shows mask nodes service after)
    (threaded : service.Threaded externals registry declared) (afterWellFormed : after.WellFormed)
    (afterThreaded : after.Threaded externals registry declared) {bit : Nat}
    (absent : ∀ input ∈ service.allInputs, input.idx ≠ virtualIdx → input.idx.toNat ≠ bit) :
    after.activeInputsMask.getLsbD bit = false := by
  rw [Bool.eq_false_iff, ne_eq, activeInputsMask_getLsbD fun _ => afterWellFormed.idx_lt]
  rintro ⟨input', membership, notVirtual', atBit, _⟩
  obtain ⟨position, found'⟩ := List.mem_iff_getElem?.mp membership
  have nonzero := (afterWellFormed.configured found' notVirtual').1
  have inside := (List.getElem?_eq_some_iff.mp found').choose
  rw [afterThreaded.length, ← threaded.length] at inside
  have found := List.getElem?_eq_getElem inside
  obtain ⟨input'', found'', same, _⟩ := shows position _ nonzero found
  obtain rfl := Option.some.inj (found'.symm.trans found'')
  rw [← same.1] at notVirtual' atBit
  exact absent _ (List.mem_of_getElem? found) notVirtual' atBit

end Shown

theorem find?_of_driverIndex {index : Nat}
    (selected : driverIndex service.registry "simulated" = some index) :
    ∃ entry, service.drivers[index]? = some entry ∧
      service.drivers.find? (fun entry => entry.1 = "simulated") = some entry := by
  have inside := ConfigState.driverIndex_lt selected
  rw [InputService.registry, List.length_map] at inside
  refine ⟨_, List.getElem?_eq_getElem inside, ?_⟩
  rw [driverIndex, if_pos (by decide), InputService.registry, List.findIdx?_map] at selected
  rw [List.find?_eq_bind_findIdx?_getElem?]
  exact (congrArg (Option.bind · (service.drivers[·]?)) selected).trans
    (List.getElem?_eq_getElem inside)

theorem exists_onSimulatedInputsChanged {readings : Nat → List Micros}
    (enough : ∀ position, 2 ≤ (readings position).length) (mask : BitVec 64)
    (wellFormed : service.WellFormed)
    (threaded : service.Threaded externals service.registry declared) {index : Nat}
    (selected : driverIndex service.registry "simulated" = some index) :
    ∃ after, service.onSimulatedInputsChanged readings mask = some after ∧
      after.WellFormed ∧ after.Threaded externals service.registry declared ∧
      Shows mask (Declarations.positions service.registry declared.keys index) service after := by
  obtain ⟨entry, registered, found⟩ := find?_of_driverIndex selected
  have chain := threaded.lists index entry registered
  have keysLength : declared.keys.length = declared.inputs.length := List.length_map ..
  have configured : ∀ node ∈ Declarations.positions service.registry declared.keys index,
      node ≠ 0 ∧ node < service.allInputs.length := by
    intro node membership
    have bounds := Declarations.positions_bounds membership
    have length := threaded.length
    omega
  have fuelled := chain.length_le fun node membership => (configured node membership).2
  rw [onSimulatedInputsChanged, found]
  exact setActiveInputsFrom_chain enough mask chain configured wellFormed threaded fuelled

variable {ParserState : Type} {parser : StreamParser ParserState}

/-- (1) In every reachable state the published mask is that of the active inputs.  (2)
After a configuration and any updates, `SetActiveInputs` ends and leaves at the index of
each input that was declared for the simulated driver the bit of its mask, inverted as
configured, at those of all other inputs the bit from before, and nothing else. -/
theorem active_inputs_round_trip (drivers : List (String × InputDriver)) :
    (∀ service, Reachable (step externals parser) (initial drivers) service →
      ∃ published, service.sendStatus.outbox = service.outbox ++ [.activeInputs published] ∧
        ∀ bit, published.getLsbD bit = true ↔ ∃ input ∈ service.allInputs,
          input.idx ≠ virtualIdx ∧ input.idx.toNat = bit ∧ input.active = true) ∧
    ∀ before source updates service index readings mask,
      (∀ op ∈ updates, op.IsUpdate) →
      run (step externals parser) (initial drivers) (before ++ .configure source :: updates) =
        some service →
      driverIndex service.registry "simulated" = some index →
      (∀ position, 2 ≤ (readings position).length) →
      ∃ start events published after publishedAfter,
        run (step externals parser) (initial drivers) before = some start ∧
        deliveredEvents parser (inputConfigsJsonCallback externals) source start.configStart =
          some events ∧
        service.sendStatus.outbox = service.outbox ++ [.activeInputs published] ∧
        service.onSimulatedInputsChanged readings mask = some after ∧
        after.sendStatus.outbox = after.outbox ++ [.activeInputs publishedAfter] ∧
        (∀ position input, service.allInputs[position]? = some input →
          input.idx ≠ virtualIdx →
          publishedAfter.getLsbD input.idx.toNat =
            if position ∈ Declarations.positions service.registry
                (Declarations.ofEvents service.registry events).keys index then
              mask.getLsbD input.idx.toNat ^^ input.invert
            else
              published.getLsbD input.idx.toNat) ∧
        ∀ bit, (∀ input ∈ service.allInputs, input.idx ≠ virtualIdx → input.idx.toNat ≠ bit) →
          publishedAfter.getLsbD bit = false := by
  refine ⟨?_, ?_⟩
  · intro service reached
    have invariant : service.Invariant :=
      reached.invariant (initial_invariant drivers) (step_invariant externals parser)
    exact ⟨service.activeInputsMask, service.sendStatus_outbox,
      activeInputsMask_getLsbD fun _ => invariant.idx_lt⟩
  · intro before source updates service index readings mask recent executed selected enough
    obtain ⟨start, events, reached, delivered, wellFormed, threaded, _⟩ :=
      threaded_of_configured recent executed
    obtain ⟨after, changed, afterWellFormed, afterThreaded, shows⟩ :=
      exists_onSimulatedInputsChanged enough mask wellFormed threaded selected
    refine ⟨start, events, service.activeInputsMask, after, after.activeInputsMask, reached,
      delivered, service.sendStatus_outbox, changed, after.sendStatus_outbox, ?_, ?_⟩
    · intro position input found notVirtual
      exact shows.activeInputsMask wellFormed threaded afterWellFormed afterThreaded found
        notVirtual
    · intro bit absent
      exact shows.activeInputsMask_absent threaded afterWellFormed afterThreaded absent

theorem active_inputs_round_trip_twoLift :
    ∃ service after published,
      run (step twoLiftExternals twoLiftParser) twoLiftInitial
        ([] ++ .configure twoLiftDocument :: [.update [500] 1 true]) = some service ∧
      service.onSimulatedInputsChanged (fun _ => [700, 700]) 2 = some after ∧
      after.sendStatus.outbox = after.outbox ++ [.activeInputs published] ∧
      published.getLsbD 0 = false ∧ published.getLsbD 1 = true ∧ published.getLsbD 5 = false := by
  have evaluated : (run (step twoLiftExternals twoLiftParser) twoLiftInitial
      ([] ++ .configure twoLiftDocument :: [.update [500] 1 true])).map
        (fun service => (service.registry,
          service.allInputs.map fun input => (input.idx, input.invert))) =
      some (twoLiftInitial.registry, [(virtualIdx, false), (0, false), (1, false)]) := by
    decide +kernel
  have declared : (deliveredEvents twoLiftParser (inputConfigsJsonCallback twoLiftExternals)
      twoLiftDocument twoLiftInitial.configStart).map (fun events =>
        Declarations.positions twoLiftInitial.registry
          (Declarations.ofEvents twoLiftInitial.registry events).keys 1) = some [1, 2] := by
    decide +kernel
  obtain ⟨service, executed, values⟩ := Option.map_eq_some_iff.mp evaluated
  obtain ⟨registered, inputs⟩ := Prod.mk.inj values
  have selected : driverIndex service.registry "simulated" = some 1 := by
    rw [registered]
    decide
  obtain ⟨start, events, _, after, published, begun, delivered, _, changed, sent, shown, absent⟩ :=
    (active_inputs_round_trip _).2 [] twoLiftDocument [.update [500] 1 true] service 1
      (fun _ => [700, 700]) 2 (by simp [InputOp.IsUpdate]) executed selected (by simp)
  obtain rfl : start = twoLiftInitial := (Option.some.inj begun).symm
  rw [delivered, Option.map_some, Option.some.injEq] at declared
  rw [registered, declared] at shown
  have present : ∀ (position : Nat) idx, [(virtualIdx, false), (0, false), (1, false)][position]? =
      some (idx, false) → ∃ input, service.allInputs[position]? = some input ∧
        input.idx = idx ∧ input.invert = false := by
    intro position idx listed
    rw [← inputs, List.getElem?_map] at listed
    obtain ⟨input, found, equal⟩ := Option.map_eq_some_iff.mp listed
    obtain ⟨rfl, upright⟩ := Prod.mk.inj equal
    exact ⟨input, found, rfl, upright⟩
  obtain ⟨first, atFirst, firstIdx, firstUpright⟩ := present 1 0 rfl
  obtain ⟨second, atSecond, secondIdx, secondUpright⟩ := present 2 1 rfl
  have bitZero := shown 1 first atFirst (by rw [firstIdx]; decide)
  have bitOne := shown 2 second atSecond (by rw [secondIdx]; decide)
  rw [firstIdx, firstUpright] at bitZero
  rw [secondIdx, secondUpright] at bitOne
  refine ⟨service, after, published, executed, changed, sent, bitZero, bitOne, absent 5 ?_⟩
  intro input membership _ atFive
  have listed : (input.idx, input.invert) ∈ [(virtualIdx, false), (0, false), (1, false)] :=
    inputs ▸ List.mem_map_of_mem membership
  simp only [List.mem_cons, List.not_mem_nil, or_false, Prod.mk.injEq] at listed
  rcases listed with ⟨other, -⟩ | ⟨other, -⟩ | ⟨other, -⟩
  all_goals
    rw [other] at atFive
    exact absurd atFive (by decide)

end InputService

end XBotFirmware.Inputs
