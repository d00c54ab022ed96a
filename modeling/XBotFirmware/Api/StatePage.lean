import Mathlib.Data.List.Chain
import XBotFirmware.Library.WrappingClock
import XBotFirmware.Service.Delivery
import XBotFirmware.Power.Service
import XBotFirmware.Api.Refresh
import XBotFirmware.Api.Reply

set_option autoImplicit false

/-!
The state that the REST API shows (`glue_get_state` in `src/api.cpp`).

The state is sampled at a request and kept for 100 ms, so that requests cannot keep the
power service busy.
-/

namespace XBotFirmware.Api

open XBotFirmware.Platform XBotFirmware.Library XBotFirmware.Power Ascii

/-- What the getters of the power service return, as the members of `struct state` hold it. -/
structure PowerSample where
  adapterCurrent : BitVec 64
  chargeCurrent : BitVec 64
  adapterVolts : BitVec 64
  batteryVolts : BitVec 64
  batteryLevel : BitVec 32
  chargerStatus : List Byte
  deriving DecidableEq, Repr

/-- A call of `glue_get_state`: the ticks at which it reads the time, for the comparison and
for `last_request`, and what it would sample. -/
structure StateCall where
  comparedAt : Nat
  requestedAt : Nat
  sample : PowerSample
  deriving DecidableEq, Repr

/-- The assignments to the members of the state, in their order: offset and bytes. -/
def stateAssignments (sample : PowerSample) : List (Nat × List Byte) :=
  [(0, [0]), (8, leBytes 8 sample.adapterCurrent.toNat), (48, leBytes 8 sample.chargeCurrent.toNat),
    (40, leBytes 8 sample.adapterVolts.toNat), (56, leBytes 8 sample.batteryVolts.toNat),
    (64, leBytes 4 sample.batteryLevel.toNat), (16, strncpy sample.chargerStatus 20)]

/-- The static variables of `glue_get_state`, and the ticks and samples of its refreshes. -/
structure StatePage where
  lastRequest : BitVec 32 := 0
  state : List Byte := List.replicate 72 0
  refreshes : List (Nat × PowerSample) := []
  deriving DecidableEq, Repr

/-- `glue_get_state`.  The state afterwards is what the caller gets. -/
def glueGetState (page : StatePage) (call : StateCall) : StatePage :=
  if chVTTimeElapsedSinceX page.lastRequest call.comparedAt < timeMS2I 100 then page
  else
    { lastRequest := chVTGetSystemTimeX call.requestedAt
      state := (stateAssignments call.sample).foldl
        (fun state assignment => setField assignment.1 assignment.2 state) page.state
      refreshes := page.refreshes ++ [(call.requestedAt, call.sample)] }

def Timely : Nat → List StateCall → Prop
  | _, [] => True
  | earlier, call :: rest =>
      earlier ≤ call.comparedAt ∧ call.comparedAt ≤ call.requestedAt ∧ Timely call.requestedAt rest

instance decidableTimely : ∀ (earlier : Nat) (calls : List StateCall),
    Decidable (Timely earlier calls)
  | _, [] => inferInstanceAs (Decidable True)
  | _, call :: rest =>
      have := decidableTimely call.requestedAt rest
      inferInstanceAs (Decidable (_ ∧ _ ∧ _))

def keepTicks : Nat := (timeMS2I 100).toNat

namespace StatePage

section Members

theorem length_strncpy (source : List Byte) (count : Nat) :
    (strncpy source count).length = count := by
  rw [strncpy, List.length_rightpad, List.length_take]
  omega

theorem assignment_lengths (sample : PowerSample) :
    (stateAssignments sample).map (fun assignment => (assignment.1, assignment.2.length)) =
      [(0, 1), (8, 8), (48, 8), (40, 8), (56, 8), (64, 4), (16, 20)] := by
  simp only [stateAssignments, List.map_cons, List.map_nil, leBytes, List.length_map,
    List.length_range, length_strncpy, List.length_singleton]

theorem assignments_apart (sample : PowerSample) :
    (stateAssignments sample).Pairwise
      (Apart Prod.fst fun assignment => assignment.2.length) ∧
    ∀ assignment ∈ stateAssignments sample, assignment.1 + assignment.2.length ≤ 72 := by
  have lengths := assignment_lengths sample
  have placed : ([(0, 1), (8, 8), (48, 8), (40, 8), (56, 8), (64, 4), (16, 20)] :
      List (Nat × Nat)).Pairwise
        (fun first second => first.1 + first.2 ≤ second.1 ∨ second.1 + second.2 ≤ first.1) ∧
      ∀ range ∈ ([(0, 1), (8, 8), (48, 8), (40, 8), (56, 8), (64, 4), (16, 20)] :
        List (Nat × Nat)), range.1 + range.2 ≤ 72 := by decide
  rw [← lengths, List.pairwise_map] at placed
  refine ⟨placed.1, ?_⟩
  intro assignment membership
  exact placed.2 _ (List.mem_map_of_mem membership)

theorem store_eq_changes (sample : PowerSample) (state : List Byte) :
    (stateAssignments sample).foldl
        (fun state assignment => setField assignment.1 assignment.2 state) state =
      (stateAssignments sample).foldl (change Prod.fst fun assignment => some assignment.2)
        state := rfl

theorem length_store (sample : PowerSample) {state : List Byte} (sized : state.length = 72) :
    ((stateAssignments sample).foldl
      (fun state assignment => setField assignment.1 assignment.2 state) state).length = 72 := by
  rw [store_eq_changes, @length_changes _ _ Prod.fst (fun assignment => assignment.2.length), sized]
  · rintro assignment _ cells stored
    cases stored
    exact Nat.le_refl _
  · intro assignment membership
    rw [sized]
    exact (assignments_apart sample).2 assignment membership

theorem field_store (sample : PowerSample) {state : List Byte} (sized : state.length = 72)
    {assignment : Nat × List Byte} (membership : assignment ∈ stateAssignments sample) :
    field assignment.1 assignment.2.length ((stateAssignments sample).foldl
      (fun state assignment => setField assignment.1 assignment.2 state) state) =
      assignment.2 := by
  have stored := @field_changes _ _ Prod.fst (fun assignment => assignment.2.length)
    (fun assignment => some assignment.2) (stateAssignments sample) state
    (by
      rintro other _ cells stored
      cases stored
      exact Nat.le_refl _)
    (fun other member => sized ▸ (assignments_apart sample).2 other member)
    (assignments_apart sample).1 assignment membership
  rw [store_eq_changes]
  refine stored.trans ?_
  simp only [changed, Option.elim_some]
  rw [List.drop_of_length_le (length_field_le _ _ _), List.append_nil]

end Members

def lastTick (page : StatePage) : Nat := (page.refreshes.getLast?.map Prod.fst).getD 0

structure Follows (page : StatePage) (now : Nat) : Prop where
  sized : page.state.length = 72
  reads : page.lastRequest = chVTGetSystemTimeX page.lastTick
  past : page.lastTick ≤ now
  apart : page.refreshes.IsChain fun first second => first.1 + keepTicks ≤ second.1
  shows : ∀ last ∈ page.refreshes.getLast?, ∀ assignment ∈ stateAssignments last.2,
    field assignment.1 assignment.2.length page.state = assignment.2

variable {page : StatePage} {now : Nat} {call : StateCall}

theorem follows_initial : Follows {} 0 where
  sized := rfl
  reads := rfl
  past := Nat.le_refl _
  apart := List.isChain_nil
  shows := by
    intro last membership
    cases membership

theorem Follows.toNat_elapsed (follows : Follows page now) (ordered : now ≤ call.comparedAt) :
    (chVTTimeElapsedSinceX page.lastRequest call.comparedAt).toNat =
      (call.comparedAt - page.lastTick) % 2 ^ 32 := by
  have wrapped := @toNat_reading_sub_reading 32 1 page.lastTick call.comparedAt
    (follows.past.trans ordered)
  rw [Nat.one_mul] at wrapped
  rw [← wrapped, chVTTimeElapsedSinceX, chTimeDiffX, follows.reads]
  simp only [reading, chVTGetSystemTimeX, Nat.one_mul]

theorem lastTick_concat (page : StatePage) (tick : Nat) (sample : PowerSample) (state : List Byte)
    (request : BitVec 32) :
    lastTick ⟨request, state, page.refreshes ++ [(tick, sample)]⟩ = tick := by
  rw [lastTick, List.getLast?_concat]
  rfl

theorem Follows.step (follows : Follows page now) (ordered : now ≤ call.comparedAt)
    (forward : call.comparedAt ≤ call.requestedAt) :
    Follows (glueGetState page call) call.requestedAt := by
  unfold glueGetState
  split
  next =>
    exact ⟨follows.sized, follows.reads, (follows.past.trans ordered).trans forward, follows.apart,
      follows.shows⟩
  next late =>
    have elapsed := @Follows.toNat_elapsed page now call follows ordered
    have kept : keepTicks ≤ call.comparedAt - page.lastTick := by
      rw [BitVec.lt_def, elapsed, Nat.not_lt] at late
      exact late.trans (Nat.mod_le _ _)
    have past := follows.past
    refine ⟨length_store _ follows.sized, ?_, ?_, ?_, ?_⟩
    · rw [lastTick_concat]
    · rw [lastTick_concat]
    · rw [List.isChain_append]
      refine ⟨follows.apart, List.isChain_singleton _, ?_⟩
      intro last membership next first
      rw [List.head?_cons, Option.mem_some_iff] at first
      subst first
      have tick : page.lastTick = last.1 := by
        rw [lastTick, Option.mem_def.mp membership]
        rfl
      simp only
      omega
    · intro last membership assignment among
      rw [List.getLast?_concat, Option.mem_some_iff] at membership
      subst membership
      exact field_store _ follows.sized among

theorem run_follows {calls : List StateCall} {earlier : Nat}
    (timely : Timely earlier (calls ++ [call])) (follows : Follows page earlier) :
    ∃ middle, Follows (calls.foldl glueGetState page) middle ∧ middle ≤ call.comparedAt ∧
      call.comparedAt ≤ call.requestedAt := by
  induction calls generalizing page earlier with
  | nil => exact ⟨earlier, follows, timely.1, timely.2.1⟩
  | cons first rest inductionHypothesis =>
      obtain ⟨ordered, forward, restTimely⟩ := timely
      exact inductionHypothesis restTimely (follows.step ordered forward)

/-- A call that does not refresh finds the last refresh young, unless the counter has wrapped
since. -/
theorem Follows.young (follows : Follows page now) (ordered : now ≤ call.comparedAt)
    (forward : call.comparedAt ≤ call.requestedAt) {last : Nat × PowerSample}
    (isLast : last ∈ (glueGetState page call).refreshes.getLast?)
    (unwrapped : call.comparedAt < last.1 + 2 ^ 32) :
    call.comparedAt < last.1 + keepTicks := by
  have positive : 0 < keepTicks := by decide
  unfold glueGetState at isLast
  split at isLast
  next early =>
    have elapsed := @Follows.toNat_elapsed page now call follows ordered
    have tick : page.lastTick = last.1 := by
      rw [lastTick, Option.mem_def.mp isLast]
      rfl
    have past := follows.past
    rw [BitVec.lt_def, elapsed, tick, Nat.mod_eq_of_lt (by omega)] at early
    have kept : call.comparedAt - last.1 < keepTicks := early
    omega
  next =>
    rw [List.getLast?_concat, Option.mem_some_iff] at isLast
    subst isLast
    simp only
    omega

end StatePage

open StatePage

/-- However often the state is asked for, it is sampled at most once in 100 ms; what is shown
are the members of one sample, which is younger than 100 ms unless the tick counter has gone
round since. -/
theorem state_page_recent {calls : List StateCall} {call : StateCall}
    (timely : Timely 0 (calls ++ [call])) :
    let page := (calls ++ [call]).foldl glueGetState {}
    (page.refreshes.IsChain fun first second => first.1 + keepTicks ≤ second.1) ∧
    ∀ last ∈ page.refreshes.getLast?,
      (call.comparedAt < last.1 + 2 ^ 32 → call.comparedAt < last.1 + keepTicks) ∧
      ∀ assignment ∈ stateAssignments last.2,
        field assignment.1 assignment.2.length page.state = assignment.2 := by
  obtain ⟨middle, follows, ordered, forward⟩ := run_follows timely follows_initial
  have after := follows.step ordered forward
  rw [List.foldl_append, List.foldl_cons, List.foldl_nil]
  refine ⟨after.apart, ?_⟩
  intro last isLast
  exact ⟨follows.young ordered forward isLast, after.shows last isLast⟩

def sampleOf (level : BitVec 32) : PowerSample := ⟨0, 0, 0, 0, level, bytesOf "Done"⟩

/-- A call after half a second, and one more 50 ms later. -/
def twoCalls : List StateCall := [⟨5000, 5000, sampleOf 80⟩, ⟨5500, 5500, sampleOf 79⟩]

theorem state_page_recent_twice :
    field 64 4 (twoCalls.foldl glueGetState {}).state = leBytes 4 80 := by
  have shown := @state_page_recent [⟨5000, 5000, sampleOf 80⟩] ⟨5500, 5500, sampleOf 79⟩ (by decide)
  exact (shown.2 (5000, sampleOf 80) (by decide)).2 (64, leBytes 4 80) (by decide)

section Status

theorem status_fits (service : PowerService) :
    (bytesOf service.getChargerStatus).length < 20 ∧
      (0 : Byte) ∉ bytesOf service.getChargerStatus := by
  unfold PowerService.getChargerStatus
  cases service.chargerConfigured with
  | false =>
      rw [if_neg Bool.false_ne_true]
      decide
  | true =>
      rw [if_pos rfl]
      cases service.chargerStatus <;> decide

/-- A member that was filled by `strncpy` holds the string. -/
theorem cString_of_strncpy {data text : List Byte} {offset size : Nat} (noNul : 0 ∉ text)
    (short : text.length < size) (copied : field offset size data = strncpy text size) :
    cString (data.drop offset) = text := by
  have padded : strncpy text size = text ++ List.replicate (size - text.length - 1 + 1) 0 := by
    have room : size - text.length - 1 + 1 = size - text.length := by omega
    rw [strncpy, cString_of_noNul noNul, List.take_of_length_le (Nat.le_of_lt short),
      List.rightpad, room]
  have split : data.drop offset =
      text ++ (List.replicate (size - text.length - 1 + 1) 0 ++ (data.drop offset).drop size) := by
    have parts := List.take_append_drop size (data.drop offset)
    have front : (data.drop offset).take size = strncpy text size := copied
    rw [front, padded, List.append_assoc] at parts
    exact parts.symm
  rw [split, List.replicate_succ, List.cons_append, cString_append_nul,
    cString_of_noNul noNul]

end Status

/-- The charger's status is read from the page as the power service gave it. -/
theorem state_page_shows_status {calls : List StateCall} {call : StateCall}
    (timely : Timely 0 (calls ++ [call])) {last : Nat × PowerSample}
    (isLast : last ∈ ((calls ++ [call]).foldl glueGetState {}).refreshes.getLast?)
    {service : PowerService}
    (sampled : last.2.chargerStatus = bytesOf service.getChargerStatus) {doubles : Doubles}
    (finite : Finite doubles ((calls ++ [call]).foldl glueGetState {}).state stateAttributes) :
    mgJsonGetStr2
        (printObject doubles stateAttributes ((calls ++ [call]).foldl glueGetState {}).state)
        (jpath ⟨bytesOf "charger_state", .string, 16, 20⟩) 20 =
      some (bytesOf service.getChargerStatus ++ [0]) := by
  obtain ⟨short, noNul⟩ := status_fits service
  obtain ⟨middle, follows, ordered, forward⟩ := run_follows timely follows_initial
  have after := follows.step ordered forward
  rw [List.foldl_append, List.foldl_cons, List.foldl_nil] at isLast finite ⊢
  have copied := after.shows last isLast (16, strncpy last.2.chargerStatus 20)
    (by simp [stateAssignments])
  simp only [length_strncpy, sampled] at copied
  have held := cString_of_strncpy noNul short copied
  have reads := (reply_reads_back .state finite
    (show ⟨bytesOf "charger_state", .string, 16, 20⟩ ∈ stateAttributes by decide)).2.2.2 rfl 20
    (by rw [held]; exact short)
  rw [held] at reads
  exact reads

theorem state_page_shows_status_done :
    mgJsonGetStr2
        (printObject zeroDoubles stateAttributes ((twoCalls).foldl glueGetState {}).state)
        (jpath ⟨bytesOf "charger_state", .string, 16, 20⟩) 20 =
      some (bytesOf "Done" ++ [0]) :=
  @state_page_shows_status [⟨5000, 5000, sampleOf 80⟩] ⟨5500, 5500, sampleOf 79⟩ (by decide)
    (5000, sampleOf 80) (by decide)
    { PowerService.initial true with chargerConfigured := true, chargerStatus := .done } rfl
    zeroDoubles (fun _ _ _ => rfl)

end XBotFirmware.Api
