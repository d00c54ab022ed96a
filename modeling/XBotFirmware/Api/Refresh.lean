import Mathlib.Data.List.Chain
import XBotFirmware.Service.Queue

set_option autoImplicit false

/-!
The thread of the REST API (`src/api.cpp`, `mongoose/mongoose_impl.c`).

It polls the web server and refreshes the UI by advancing the device change version.  The
web server advances the version too, once for each accepted change of an object.
-/

namespace XBotFirmware.Api

open XBotFirmware.Platform

/-- The variables of the thread, and the ticks of its calls of `glue_update_state`. -/
structure RestApi where
  lastUiRefresh : BitVec 32 := 0
  deviceChangeVersion : BitVec 32 := 0
  refreshes : List Nat := []
  deriving DecidableEq, Repr

/-- A `mongoose_poll`: the true tick it is over at, and how often it advanced the version. -/
structure Poll where
  time : Nat
  changes : Nat := 0
  deriving DecidableEq, Repr

namespace RestApi

def mongoosePoll (api : RestApi) (poll : Poll) : RestApi :=
  { api with deviceChangeVersion := api.deviceChangeVersion + BitVec.ofNat 32 poll.changes }

def glueUpdateState (api : RestApi) (time : Nat) : RestApi :=
  { api with
    deviceChangeVersion := api.deviceChangeVersion + 1
    refreshes := api.refreshes ++ [time] }

/-- One iteration of `RestApiThreadFunc`. -/
def iteration (api : RestApi) (poll : Poll) : RestApi :=
  let polled := api.mongoosePoll poll
  if timeS2I 1 < chVTTimeElapsedSinceX polled.lastUiRefresh poll.time then
    polled.glueUpdateState poll.time
  else
    polled

def restApiThreadFunc (polls : List Poll) : RestApi := polls.foldl iteration {}

end RestApi

/-- The tick counter is beyond its first second, after boot or after a wrap. -/
def Poll.Late (poll : Poll) : Prop := (timeS2I 1).toNat < poll.time % 2 ^ 32

instance (poll : Poll) : Decidable poll.Late := inferInstanceAs (Decidable (_ < _))

namespace RestApi

theorem iteration_lastUiRefresh (api : RestApi) (poll : Poll) :
    (api.iteration poll).lastUiRefresh = api.lastUiRefresh := by
  simp only [iteration]
  split <;> rfl

/-- The reference time stays at zero, so that the comparison is one of the counter itself. -/
theorem iteration_eq {api : RestApi} (unset : api.lastUiRefresh = 0) (poll : Poll) :
    api.iteration poll =
      if poll.Late then (api.mongoosePoll poll).glueUpdateState poll.time
      else api.mongoosePoll poll := by
  have elapsed : chVTTimeElapsedSinceX (api.mongoosePoll poll).lastUiRefresh poll.time =
      BitVec.ofNat 32 poll.time := by
    rw [mongoosePoll, unset]
    exact BitVec.sub_zero _
  have compared : timeS2I 1 < BitVec.ofNat 32 poll.time ↔ poll.Late := by
    rw [BitVec.lt_def, BitVec.toNat_ofNat, Poll.Late]
  unfold iteration
  simp only [elapsed, compared]

theorem foldl_iteration {api : RestApi} (unset : api.lastUiRefresh = 0) (polls : List Poll) :
    polls.foldl iteration api =
      { api with
        deviceChangeVersion := api.deviceChangeVersion +
          BitVec.ofNat 32 ((polls.map Poll.changes).sum + polls.countP (·.Late))
        refreshes := api.refreshes ++ (polls.filter (·.Late)).map Poll.time } := by
  induction polls generalizing api with
  | nil => simp
  | cons poll rest inductionHypothesis =>
      have next : (api.iteration poll).lastUiRefresh = 0 := by
        rw [iteration_lastUiRefresh, unset]
      rw [List.foldl_cons, inductionHypothesis next, iteration_eq unset]
      by_cases late : poll.Late
      · simp only [late, if_true, glueUpdateState, mongoosePoll, BitVec.ofNat_eq_ofNat,
          BitVec.ofNat_add, List.append_assoc, List.cons_append, List.nil_append, List.map_cons,
          List.sum_cons, decide_true, List.countP_cons_of_pos, List.filter_cons_of_pos,
          mk.injEq, and_true, true_and]
        ac_rfl
      · simp only [late, if_false, mongoosePoll, BitVec.ofNat_add, List.map_cons, List.sum_cons,
          decide_false, Bool.false_eq_true, not_false_eq_true, List.countP_cons_of_neg,
          List.filter_cons_of_neg, mk.injEq, and_true, true_and]
        ac_rfl

theorem restApiThreadFunc_refreshes (polls : List Poll) :
    (restApiThreadFunc polls).refreshes = (polls.filter (·.Late)).map Poll.time := by
  rw [restApiThreadFunc, foldl_iteration rfl]
  rfl

theorem restApiThreadFunc_append (before after : List Poll) :
    (restApiThreadFunc (before ++ after)).deviceChangeVersion =
      (restApiThreadFunc before).deviceChangeVersion +
        BitVec.ofNat 32 ((after.map Poll.changes).sum + after.countP (·.Late)) := by
  have unset : (restApiThreadFunc before).lastUiRefresh = 0 := by
    rw [restApiThreadFunc, foldl_iteration rfl]
  unfold restApiThreadFunc at unset ⊢
  rw [List.foldl_append, foldl_iteration unset]

end RestApi

def SecondApart (first second : Nat) : Prop := (timeS2I 1).toNat < second - first

instance (first second : Nat) : Decidable (SecondApart first second) :=
  inferInstanceAs (Decidable (_ < _))

instance : Trans SecondApart SecondApart SecondApart where
  trans := by
    intro first second third early late
    unfold SecondApart at *
    omega

/-- Consecutive refreshes are more than a second apart, and in polls that are over within a
second the thread advances the version at most once beyond what the web server does. -/
structure RefreshesRarely (polls : List Poll) : Prop where
  apart : (RestApi.restApiThreadFunc polls).refreshes.IsChain SecondApart
  version : ∀ before second after, polls = before ++ (second ++ after) →
    (∀ first ∈ second, ∀ last ∈ second, ¬SecondApart first.time last.time) →
    ∃ refreshed ≤ 1, (RestApi.restApiThreadFunc (before ++ second)).deviceChangeVersion =
      (RestApi.restApiThreadFunc before).deviceChangeVersion +
        BitVec.ofNat 32 ((second.map Poll.changes).sum + refreshed)

/-- Of any two late polls the second one is over more than a second after the first. -/
def LatePollsRare (polls : List Poll) : Prop :=
  polls.Pairwise fun first second => first.Late → second.Late → SecondApart first.time second.time

instance (polls : List Poll) : Decidable (LatePollsRare polls) :=
  inferInstanceAs (Decidable (List.Pairwise _ _))

theorem apart_iff (polls : List Poll) :
    (RestApi.restApiThreadFunc polls).refreshes.IsChain SecondApart ↔ LatePollsRare polls := by
  rw [RestApi.restApiThreadFunc_refreshes, List.isChain_iff_pairwise, List.pairwise_map,
    List.pairwise_filter]
  simp only [decide_eq_true_eq, LatePollsRare]

/-- Within a second there is room for one late poll. -/
theorem LatePollsRare.countP_le_one {polls : List Poll} (rare : LatePollsRare polls)
    (within : ∀ first ∈ polls, ∀ last ∈ polls, ¬SecondApart first.time last.time) :
    polls.countP (·.Late) ≤ 1 := by
  rw [List.countP_eq_length_filter]
  have apart : (polls.filter (·.Late)).Pairwise fun first second =>
      SecondApart first.time second.time := by
    rw [List.pairwise_filter]
    simpa only [decide_eq_true_eq, LatePollsRare] using rare
  cases late : polls.filter (·.Late) with
  | nil => exact Nat.zero_le 1
  | cons first rest =>
      cases rest with
      | nil => exact Nat.le_refl 1
      | cons second rest =>
          rw [late] at apart
          have both : ∀ poll, poll = first ∨ poll = second → poll ∈ polls := by
            intro poll named
            apply List.mem_of_mem_filter (p := (·.Late))
            rw [late]
            rcases named with rfl | rfl <;> simp
          exact absurd (List.rel_of_pairwise_cons apart List.mem_cons_self)
            (within first (both first (.inl rfl)) second (both second (.inr rfl)))

theorem refreshes_rarely_iff (polls : List Poll) : RefreshesRarely polls ↔ LatePollsRare polls := by
  constructor
  · intro rarely
    exact (apart_iff polls).mp rarely.apart
  · intro rare
    refine ⟨(apart_iff polls).mpr rare, ?_⟩
    intro before second after split within
    subst split
    have inSecond : LatePollsRare second :=
      (List.pairwise_append.mp (List.pairwise_append.mp rare).2.1).1
    exact ⟨second.countP (·.Late), inSecond.countP_le_one within,
      RestApi.restApiThreadFunc_append before second⟩

/-- Two polls in neighbouring ticks, a second after boot, both refresh. -/
theorem refreshes_in_neighbouring_ticks :
    [Poll.mk 10001 0, Poll.mk 10002 0].Pairwise (·.time ≤ ·.time) ∧
      (RestApi.restApiThreadFunc [⟨10001, 0⟩, ⟨10002, 0⟩]).refreshes = [10001, 10002] ∧
      ¬RefreshesRarely [⟨10001, 0⟩, ⟨10002, 0⟩] := by
  refine ⟨by decide, by decide, fun rarely => ?_⟩
  have apart := rarely.apart
  revert apart
  decide

end XBotFirmware.Api
