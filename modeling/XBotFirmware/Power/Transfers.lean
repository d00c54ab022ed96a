import XBotFirmware.Power.CutOff

set_option autoImplicit false

/-!
The transfers that the power service makes with its charger.

Any transfer may fail.  What the charger makes of the bytes is left open: it may reset its
registers, on its own or when it is told to.
-/

namespace XBotFirmware.Power

open XBotFirmware.Library

/-- A transfer on the bus, and how it ended. -/
inductive Transfer where
  | readRegister8 (register : BitVec 8) (answer : Option (BitVec 8))
  | readRegister16 (register : BitVec 8) (answer : Option (BitVec 16))
  | writeRegister8 (register value : BitVec 8) (acknowledged : Bool)
  | writeRegister16 (register : BitVec 8) (value : BitVec 16) (acknowledged : Bool)
  deriving DecidableEq, Repr

namespace Transfer

def succeeded : Transfer → Bool
  | .readRegister8 _ answer => answer.isSome
  | .readRegister16 _ answer => answer.isSome
  | .writeRegister8 _ _ acknowledged => acknowledged
  | .writeRegister16 _ _ acknowledged => acknowledged

/-- The transfers of a call that returns at the first one that fails. -/
def untilFailure : List Transfer → List Transfer
  | [] => []
  | transfer :: rest => transfer :: if transfer.succeeded then untilFailure rest else []

theorem all_untilFailure (transfers : List Transfer) :
    (untilFailure transfers).all succeeded = transfers.all succeeded := by
  induction transfers with
  | nil => rfl
  | cons transfer rest inductionHypothesis =>
      rw [untilFailure, List.all_cons, List.all_cons]
      cases transfer.succeeded with
      | false => rfl
      | true => rw [if_pos rfl, inductionHypothesis]

theorem untilFailure_subset (transfers : List Transfer) : untilFailure transfers ⊆ transfers := by
  induction transfers with
  | nil => exact List.Subset.refl _
  | cons transfer rest inductionHypothesis =>
      apply List.cons_subset_cons
      split
      · exact inductionHypothesis
      · exact List.nil_subset _

theorem untilFailure_of_all {transfers : List Transfer}
    (all : transfers.all succeeded = true) : untilFailure transfers = transfers := by
  induction transfers with
  | nil => rfl
  | cons transfer rest inductionHypothesis =>
      rw [List.all_cons, Bool.and_eq_true] at all
      rw [untilFailure, if_pos all.1, inductionHypothesis all.2]

end Transfer

namespace Bq2579

open Transfer

section Calls

variable (bus : I2cBus)

def read8 (register : BitVec 8) : Transfer :=
  .readRegister8 register (bus.readRegister8 register)

def read16 (register : BitVec 8) : Transfer :=
  .readRegister16 register (bus.readRegister16 register)

def write8 (register value : BitVec 8) : Transfer :=
  .writeRegister8 register value (bus.writeRegister8 register value)

def write16 (register : BitVec 8) (value : BitVec 16) : Transfer :=
  .writeRegister16 register value (bus.writeRegister16 register value)

def modify8 (register : BitVec 8) (change : BitVec 8 → BitVec 8) : List Transfer :=
  read8 bus register ::
    match bus.readRegister8 register with
    | none => []
    | some value => [write8 bus register (change value)]

/-- The transfers of `init`. -/
def initTransfers : List Transfer :=
  untilFailure [write8 bus regTerminationControl 0b01000101,
    write8 bus regAdcControl 0b10000000, write8 bus regChargerControl5 0b00110110]

def setTerminationCurrentTransfers (current : Nat) : List Transfer :=
  [write8 bus regTerminationControl (BitVec.ofNat 8 (max 40 (min current 1000) / 40))]

def setChargingCurrentTransfers (current : Nat) : List Transfer :=
  [write16 bus regChargeCurrentLimit (BitVec.ofNat 16 (min current 5000 / 10))]

def setTsEnabledTransfers (enabled : Bool) : List Transfer :=
  modify8 bus regNtcControl1 fun value =>
    if enabled then value &&& 0b11111110 else value ||| 0b1

def resetWatchdogTransfers : List Transfer :=
  modify8 bus regChargerControl1 fun value => value ||| 0b00001000

/-- The status is not read when there is a fault. -/
def getChargerStatusTransfers : List Transfer :=
  untilFailure ([read8 bus regFaultStatus0, read8 bus regFaultStatus1] ++
    if bus.readRegister8 regFaultStatus0 = some 0 ∧ bus.readRegister8 regFaultStatus1 = some 0 then
      [read8 bus regChargerStatus1]
    else [])

end Calls

/-- The transfers of `charger_tick` while the charger is not configured. -/
def configureTransfers (bus : Call → I2cBus) (chargeCurrent : Nat) : List Transfer :=
  initTransfers (bus .init) ++
    if Bq2579.init (bus .init) then
      setTerminationCurrentTransfers (bus .setTerminationCurrent) 250 ++
        setChargingCurrentTransfers (bus .setChargingCurrent) chargeCurrent ++
        setTsEnabledTransfers (bus .setTsEnabled) false
    else []

/-- The transfers of `charger_tick` while the charger is configured. -/
def monitorTransfers (bus : Call → I2cBus) : List Transfer :=
  resetWatchdogTransfers (bus .resetWatchdog) ++
    [read16 (bus .readChargeCurrent) regIbatAdc, read16 (bus .readBatteryVoltage) regVbatAdc,
      read16 (bus .readAdapterVoltage) regVbusAdc, read16 (bus .readAdapterCurrent) regIbusAdc] ++
    getChargerStatusTransfers (bus .getChargerStatus)

end Bq2579

open Bq2579

structure Charging where
  service : PowerService
  transfers : List Transfer

inductive ChargingOp where
  | chargerTick (bus : Call → I2cBus)
  | tick
  | onStart

namespace Charging

variable (robot : Robot)

def initial (charger : Bool) : Charging := ⟨.initial charger, []⟩

/-- The transfers of `charger_tick`. -/
def tickTransfers (bus : Call → I2cBus) (service : PowerService) : List Transfer :=
  if service.charger = false then []
  else if service.chargerConfigured = false then
    configureTransfers bus robot.defaultChargeCurrent
  else monitorTransfers bus

def chargerTick (bus : Call → I2cBus) (charging : Charging) : Option Charging :=
  (charging.service.chargerTick robot (replies bus robot.defaultChargeCurrent)).map fun service =>
    { service, transfers := charging.transfers ++ tickTransfers robot bus charging.service }

def step (charging : Charging) : ChargingOp → Option Charging
  | .chargerTick bus => charging.chargerTick robot bus
  | .tick => some { charging with service := charging.service.tick }
  | .onStart => some { charging with service := charging.service.onStart }

/-- A whole configuration that succeeds, by what the temperature sense register held. -/
def configuration (ntcControl : BitVec 8) : List Transfer :=
  [.writeRegister8 regTerminationControl 0b01000101 true,
    .writeRegister8 regAdcControl 0b10000000 true,
    .writeRegister8 regChargerControl5 0b00110110 true,
    .writeRegister8 regTerminationControl 6 true,
    .writeRegister16 regChargeCurrentLimit
      (BitVec.ofNat 16 (min robot.defaultChargeCurrent 5000 / 10)) true,
    .readRegister8 regNtcControl1 (some ntcControl),
    .writeRegister8 regNtcControl1 (ntcControl ||| 0b1) true]

end Charging

namespace Transfer

/-- A read, or a write of the register with the watchdog. -/
def Monitors : Transfer → Prop
  | .readRegister8 _ _ => True
  | .readRegister16 _ _ => True
  | .writeRegister8 register _ _ => register = regChargerControl1
  | .writeRegister16 _ _ _ => False

/-- What the driver may transfer after the transfer before: it writes its own values, and a
register that it shares only with one bit added to what has just been read. -/
def Allowed (robot : Robot) (previous : Option Transfer) : Transfer → Prop
  | .readRegister8 _ _ => True
  | .readRegister16 _ _ => True
  | .writeRegister8 register value _ =>
      (register, value) ∈ [(regTerminationControl, 0b01000101), (regTerminationControl, 6),
        (regAdcControl, 0b10000000), (regChargerControl5, 0b00110110)] ∨
      ∃ bit, (register, bit) ∈ [(regNtcControl1, 0b1), (regChargerControl1, 0b00001000)] ∧
        ∃ found, previous = some (.readRegister8 register (some found)) ∧ value = found ||| bit
  | .writeRegister16 register value _ =>
      register = regChargeCurrentLimit ∧
        value.toNat = min robot.defaultChargeCurrent 5000 / 10

def AllowedFrom (robot : Robot) : Option Transfer → List Transfer → Prop
  | _, [] => True
  | previous, transfer :: rest =>
      transfer.Allowed robot previous ∧ AllowedFrom robot (some transfer) rest

/-- Allowed after whatever has been transferred before. -/
def Compliant (robot : Robot) (transfers : List Transfer) : Prop :=
  ∀ previous, AllowedFrom robot previous transfers

section Allowed

variable {robot : Robot} {previous : Option Transfer} {transfers first second : List Transfer}

theorem AllowedFrom.append (allowed : AllowedFrom robot previous first)
    (compliant : Compliant robot second) : AllowedFrom robot previous (first ++ second) := by
  induction first generalizing previous with
  | nil => exact compliant previous
  | cons transfer rest inductionHypothesis => exact ⟨allowed.1, inductionHypothesis allowed.2⟩

theorem Compliant.append (earlier : Compliant robot first) (later : Compliant robot second) :
    Compliant robot (first ++ second) :=
  fun previous => (earlier previous).append later

theorem AllowedFrom.untilFailure (allowed : AllowedFrom robot previous transfers) :
    AllowedFrom robot previous (Transfer.untilFailure transfers) := by
  induction transfers generalizing previous with
  | nil => trivial
  | cons transfer rest inductionHypothesis =>
      refine ⟨allowed.1, ?_⟩
      split
      · exact inductionHypothesis allowed.2
      · trivial

theorem Compliant.untilFailure (compliant : Compliant robot transfers) :
    Compliant robot (Transfer.untilFailure transfers) :=
  fun previous => (compliant previous).untilFailure

/-- In an allowed list every transfer is allowed after the one before it. -/
theorem AllowedFrom.at {before after : List Transfer} {transfer : Transfer}
    (allowed : AllowedFrom robot previous (before ++ transfer :: after)) :
    transfer.Allowed robot (before.getLast?.or previous) := by
  induction before generalizing previous with
  | nil => exact allowed.1
  | cons head rest inductionHypothesis =>
      have further := inductionHypothesis allowed.2
      cases rest with
      | nil => exact further
      | cons second rest => simpa [List.getLast?_cons] using further

end Allowed

end Transfer

namespace Bq2579

open Transfer

variable {robot : Robot} {bus : I2cBus}

theorem compliant_write8 {register value : BitVec 8}
    (own : (register, value) ∈ [(regTerminationControl, 0b01000101#8), (regTerminationControl, 6),
      (regAdcControl, 0b10000000), (regChargerControl5, 0b00110110)]) :
    Compliant robot [write8 bus register value] :=
  fun _ => ⟨.inl own, trivial⟩

theorem compliant_modify8 {register bit : BitVec 8} {change : BitVec 8 → BitVec 8}
    (shared : (register, bit) ∈ [(regNtcControl1, 0b1#8), (regChargerControl1, 0b00001000)])
    (adds : ∀ value, change value = value ||| bit) :
    Compliant robot (modify8 bus register change) := by
  intro previous
  refine ⟨trivial, ?_⟩
  cases answer : bus.readRegister8 register with
  | none => trivial
  | some found =>
      refine ⟨.inr ⟨bit, shared, found, ?_, adds found⟩, trivial⟩
      rw [read8, answer]

theorem compliant_init : Compliant robot (initTransfers bus) := by
  apply Compliant.untilFailure
  have first := @compliant_write8 robot bus regTerminationControl 0b01000101 (by decide)
  have second := @compliant_write8 robot bus regAdcControl 0b10000000 (by decide)
  have third := @compliant_write8 robot bus regChargerControl5 0b00110110 (by decide)
  exact first.append (second.append third)

theorem compliant_setChargingCurrent :
    Compliant robot (setChargingCurrentTransfers bus robot.defaultChargeCurrent) := by
  intro previous
  refine ⟨⟨rfl, ?_⟩, trivial⟩
  rw [BitVec.toNat_ofNat]
  omega

theorem compliant_getChargerStatus : Compliant robot (getChargerStatusTransfers bus) := by
  apply Compliant.untilFailure
  intro previous
  refine ⟨trivial, trivial, ?_⟩
  split
  · exact ⟨trivial, trivial⟩
  · trivial

theorem compliant_configure {bus : Call → I2cBus} :
    Compliant robot (configureTransfers bus robot.defaultChargeCurrent) := by
  apply compliant_init.append
  split
  · apply Compliant.append
    · exact (compliant_write8 (by decide)).append compliant_setChargingCurrent
    · exact @compliant_modify8 _ _ _ 0b1 _ (by decide) fun _ => rfl
  · exact fun _ => trivial

theorem compliant_monitor {bus : Call → I2cBus} : Compliant robot (monitorTransfers bus) := by
  have reset : Compliant robot (resetWatchdogTransfers (bus .resetWatchdog)) :=
    @compliant_modify8 _ _ _ 0b00001000 _ (by decide) fun _ => rfl
  refine (reset.append ?_).append compliant_getChargerStatus
  exact fun _ => ⟨trivial, trivial, trivial, trivial, trivial⟩

section Results

theorem all_modify8 (bus : I2cBus) (register : BitVec 8) (change : BitVec 8 → BitVec 8) :
    (modify8 bus register change).all succeeded =
      match bus.readRegister8 register with
      | none => false
      | some value => bus.writeRegister8 register (change value) := by
  cases answer : bus.readRegister8 register <;>
    simp [modify8, read8, write8, answer, succeeded]

theorem all_initTransfers (bus : I2cBus) :
    (initTransfers bus).all succeeded = Bq2579.init bus := by
  rw [initTransfers, all_untilFailure]
  simp [write8, succeeded, Bq2579.init, Bool.and_assoc]

theorem all_resetWatchdogTransfers (bus : I2cBus) :
    (resetWatchdogTransfers bus).all succeeded = resetWatchdog bus :=
  all_modify8 bus _ _

theorem all_setTsEnabledTransfers (bus : I2cBus) (enabled : Bool) :
    (setTsEnabledTransfers bus enabled).all succeeded = setTsEnabled bus enabled :=
  all_modify8 bus _ _

theorem all_getChargerStatusTransfers (bus : I2cBus) :
    (getChargerStatusTransfers bus).all succeeded = true ↔ getChargerStatus bus ≠ .commsError := by
  rw [ne_eq, getChargerStatus_eq_commsError_iff, getChargerStatusTransfers, all_untilFailure]
  split
  next clean => simp [read8, succeeded, clean.1, clean.2, Option.isSome_iff_ne_none]
  next dirty =>
    have unread : ¬(bus.readRegister8 regFaultStatus0 = some 0 ∧
        bus.readRegister8 regFaultStatus1 = some 0 ∧
          bus.readRegister8 regChargerStatus1 = none) := fun all => dirty ⟨all.1, all.2.1⟩
    simp only [unread, or_false]
    simp [read8, succeeded, Option.isSome_iff_ne_none]

variable {bus : Call → I2cBus} {chargeCurrent : Nat}

/-- The charger replies that it is configured when the whole configuration succeeds. -/
theorem all_configureTransfers :
    (configureTransfers bus chargeCurrent).all succeeded =
      (replies bus chargeCurrent).configured := by
  rw [configureTransfers, List.all_append, all_initTransfers, ChargerReplies.configured]
  cases initialised : Bq2579.init (bus .init) with
  | false => simp [replies, initialised]
  | true =>
      rw [if_pos rfl, List.all_append, all_setTsEnabledTransfers]
      simp [replies, initialised, setPreChargeCurrent, setTerminationCurrentTransfers,
        setChargingCurrentTransfers, setTerminationCurrent, setChargingCurrent, write8, write16,
        succeeded]

theorem good_iff_all_monitorTransfers :
    (replies bus chargeCurrent).Good ↔ (monitorTransfers bus).all succeeded = true := by
  rw [monitorTransfers, List.all_append, List.all_append, all_resetWatchdogTransfers,
    Bool.and_eq_true, all_getChargerStatusTransfers]
  simp [ChargerReplies.Good, ChargerReplies.monitored, replies, readChargeCurrent,
    readBatteryVoltage, readAdapterVoltage, readAdapterCurrent, readAdc, read16, succeeded,
    and_assoc]

theorem configureTransfers_of_configured
    (configured : (replies bus robot.defaultChargeCurrent).configured = true) :
    ∃ ntcControl, configureTransfers bus robot.defaultChargeCurrent =
      Charging.configuration robot ntcControl := by
  rw [← all_configureTransfers, configureTransfers, List.all_append, Bool.and_eq_true] at configured
  obtain ⟨init, rest⟩ := configured
  have initialised := init
  rw [all_initTransfers] at initialised
  rw [if_pos initialised, List.all_append, List.all_append, Bool.and_eq_true, Bool.and_eq_true,
    all_setTsEnabledTransfers, setTsEnabled] at rest
  obtain ⟨⟨termination, charge⟩, ts⟩ := rest
  rw [initTransfers, all_untilFailure] at init
  rw [configureTransfers, if_pos initialised, initTransfers, untilFailure_of_all init]
  simp only [setTerminationCurrentTransfers, setChargingCurrentTransfers, List.all_cons,
    List.all_nil, Bool.and_true, Bool.and_eq_true, write8, write16, succeeded]
    at init termination charge
  cases answer : (bus .setTsEnabled).readRegister8 regNtcControl1 with
  | none => simp [answer] at ts
  | some ntcControl =>
      rw [answer] at ts
      refine ⟨ntcControl, ?_⟩
      simp only [setTerminationCurrentTransfers, setChargingCurrentTransfers,
        setTsEnabledTransfers, modify8, read8, write8, write16, answer, init, termination, charge]
      simp only [Bool.false_eq_true, if_false] at ts ⊢
      rw [ts]
      rfl

theorem monitors_of_mem_monitorTransfers {transfer : Transfer}
    (membership : transfer ∈ monitorTransfers bus) : transfer.Monitors := by
  simp only [monitorTransfers, List.mem_append] at membership
  rcases membership with (reset | reading) | status
  · rw [resetWatchdogTransfers, modify8] at reset
    rcases List.mem_cons.mp reset with rfl | written
    · trivial
    · cases answer : (bus .resetWatchdog).readRegister8 regChargerControl1 with
      | none => simp [answer] at written
      | some value =>
          rw [answer, List.mem_singleton] at written
          rw [written]
          rfl
  · simp only [List.mem_cons, List.not_mem_nil, or_false] at reading
    rcases reading with rfl | rfl | rfl | rfl <;> trivial
  · have read := untilFailure_subset _ status
    split at read
    all_goals
      simp only [List.mem_append, List.mem_cons, List.not_mem_nil, or_false] at read
    · rcases read with (rfl | rfl) | rfl <;> trivial
    · rcases read with rfl | rfl <;> trivial

end Results

end Bq2579

namespace PowerService

variable {robot : Robot} {replies : ChargerReplies} {service next : PowerService}

/-- After `charger_tick` the charger is configured when the whole configuration has just
succeeded, or when it was and the sample is good. -/
theorem configured_of_chargerTick (charger : service.charger = true)
    (ticked : service.chargerTick robot replies = some next)
    (configured : next.chargerConfigured = true) :
    service.chargerConfigured = false ∧ replies.configured = true ∨
      service.chargerConfigured = true ∧ replies.Good := by
  rw [chargerTick, if_neg (by simp [charger])] at ticked
  split at ticked
  next unconfigured =>
    cases ticked
    rw [(configure_flags replies unconfigured).2] at configured
    exact .inl ⟨unconfigured, configured⟩
  next wasConfigured =>
    rw [(monitor_flags ticked).2, Bool.and_eq_true, decide_eq_true_eq] at configured
    exact .inr configured

theorem chargerTick_of_absent (absent : service.charger = false)
    (ticked : service.chargerTick robot replies = some next) : next = service := by
  rw [chargerTick, if_pos absent] at ticked
  cases ticked
  rfl

end PowerService

namespace Charging

open Transfer

variable {robot : Robot} {charging next : Charging}

/-- A configured charger has been sent a whole configuration, and since then only what the
monitoring sends, all of it with success. -/
def Configured (robot : Robot) (transfers : List Transfer) : Prop :=
  ∃ earlier ntcControl rounds,
    transfers = earlier ++ configuration robot ntcControl ++ rounds ∧
      ∀ transfer ∈ rounds, transfer.succeeded = true ∧ transfer.Monitors

theorem Configured.append {transfers rounds : List Transfer}
    (configured : Configured robot transfers)
    (further : ∀ transfer ∈ rounds, transfer.succeeded = true ∧ transfer.Monitors) :
    Configured robot (transfers ++ rounds) := by
  obtain ⟨earlier, ntcControl, before, rfl, monitored⟩ := configured
  refine ⟨earlier, ntcControl, before ++ rounds, List.append_assoc _ _ _, ?_⟩
  intro transfer membership
  rcases List.mem_append.mp membership with old | new
  · exact monitored transfer old
  · exact further transfer new

structure Invariant (robot : Robot) (charging : Charging) : Prop where
  compliant : Compliant robot charging.transfers
  configured : charging.service.chargerConfigured = true → Configured robot charging.transfers

theorem compliant_tickTransfers (bus : Call → I2cBus) (service : PowerService) :
    Compliant robot (tickTransfers robot bus service) := by
  unfold tickTransfers
  split
  · exact fun _ => trivial
  · split
    · exact compliant_configure
    · exact compliant_monitor

theorem chargerTick_configured {bus : Call → I2cBus} {service : PowerService}
    (ticked : charging.service.chargerTick robot (replies bus robot.defaultChargeCurrent) =
      some service)
    (before : charging.service.chargerConfigured = true → Configured robot charging.transfers)
    (configured : service.chargerConfigured = true) :
    Configured robot (charging.transfers ++ tickTransfers robot bus charging.service) := by
  cases charger : charging.service.charger with
  | false =>
      rw [PowerService.chargerTick_of_absent charger ticked] at configured
      rw [tickTransfers, if_pos charger, List.append_nil]
      exact before configured
  | true =>
      rw [tickTransfers, if_neg (by simp [charger])]
      rcases PowerService.configured_of_chargerTick charger ticked configured with
        ⟨unconfigured, succeeded⟩ | ⟨wasConfigured, good⟩
      · obtain ⟨ntcControl, whole⟩ := configureTransfers_of_configured succeeded
        rw [if_pos unconfigured, whole]
        exact ⟨charging.transfers, ntcControl, [], (List.append_nil _).symm, by simp⟩
      · rw [if_neg (by simp [wasConfigured])]
        have all := List.all_eq_true.mp (good_iff_all_monitorTransfers.mp good)
        exact (before wasConfigured).append fun transfer membership =>
          ⟨all transfer membership, monitors_of_mem_monitorTransfers membership⟩

theorem step_invariant {op : ChargingOp} (invariant : Invariant robot charging)
    (stepped : charging.step robot op = some next) : Invariant robot next := by
  cases op with
  | chargerTick bus =>
      obtain ⟨service, ticked, rfl⟩ := Option.map_eq_some_iff.mp stepped
      exact ⟨invariant.compliant.append (compliant_tickTransfers bus charging.service),
        chargerTick_configured ticked invariant.configured⟩
  | tick =>
      cases stepped
      exact ⟨invariant.compliant, invariant.configured⟩
  | onStart =>
      cases stepped
      refine ⟨invariant.compliant, ?_⟩
      intro impossible
      cases impossible

theorem run_invariant {charger : Bool} {ops : List ChargingOp}
    (executed : run (step robot) (initial charger) ops = some charging) :
    Invariant robot charging := by
  have start : Invariant robot (initial charger) := by
    refine ⟨fun _ => trivial, ?_⟩
    intro impossible
    cases impossible
  have kept : ∀ state op next, Invariant robot state → step robot state op = some next →
      Invariant robot next := fun _ _ _ invariant stepped => step_invariant invariant stepped
  exact Library.run_invariant kept start executed

/-- Whatever transfers fail and whenever the service is started again: a charger that it
calls configured has acknowledged a whole configuration, and every transfer since. -/
theorem configured_means_acknowledged {charger : Bool} {ops : List ChargingOp}
    (executed : run (step robot) (initial charger) ops = some charging)
    (configured : charging.service.chargerConfigured = true) :
    ∃ earlier ntcControl rounds,
      charging.transfers = earlier ++ configuration robot ntcControl ++ rounds ∧
        ∀ transfer ∈ rounds, transfer.succeeded = true ∧ transfer.Monitors :=
  (run_invariant executed).configured configured

def goodBus : I2cBus := ⟨fun _ => some 0, fun _ => some 0, fun _ _ => true, fun _ _ => true⟩

def unacknowledged : I2cBus := { goodBus with writeRegister16 := fun _ _ => false }

def retriedConfiguration : List ChargingOp :=
  [.chargerTick fun _ => unacknowledged, .chargerTick fun _ => goodBus,
    .chargerTick fun _ => goodBus]

def someRobot : Robot := ⟨28000, 21000, 1000, 18000⟩

theorem configured_means_acknowledged_retried :
    ∃ charging, run (step someRobot) (initial true) retriedConfiguration = some charging ∧
      ∃ earlier ntcControl rounds,
        charging.transfers = earlier ++ configuration someRobot ntcControl ++ rounds ∧
          ∀ transfer ∈ rounds, transfer.succeeded = true ∧ transfer.Monitors := by
  have evaluated : (run (step someRobot) (initial true) retriedConfiguration).map
      (fun charging => charging.service.chargerConfigured) = some true := by decide
  obtain ⟨charging, executed, configured⟩ := Option.map_eq_some_iff.mp evaluated
  exact ⟨charging, executed, configured_means_acknowledged executed configured⟩

/-- Whatever the bus answers, the driver writes the values of the configuration and no other
register; of the two that it shares it changes one bit of what the transfer before has read. -/
theorem driver_writes_allowed {charger : Bool} {ops : List ChargingOp}
    {before after : List Transfer} {transfer : Transfer}
    (executed : run (step robot) (initial charger) ops = some charging)
    (made : charging.transfers = before ++ transfer :: after) :
    transfer.Allowed robot before.getLast? := by
  have allowed := (run_invariant executed).compliant none
  rw [made] at allowed
  have here := allowed.at
  rw [Option.or_none] at here
  exact here

theorem driver_writes_allowed_retried :
    ∃ charging before after, run (step someRobot) (initial true) retriedConfiguration =
        some charging ∧
      charging.transfers = before ++ .writeRegister8 regNtcControl1 1 true :: after ∧
      (Transfer.writeRegister8 regNtcControl1 1 true).Allowed someRobot before.getLast? := by
  have evaluated : (run (step someRobot) (initial true) retriedConfiguration).map
      (fun charging => (charging.transfers.take 6, charging.transfers[6]?)) =
      some ([.writeRegister8 regTerminationControl 0b01000101 true,
        .writeRegister8 regAdcControl 0b10000000 true,
        .writeRegister8 regChargerControl5 0b00110110 true,
        .writeRegister8 regTerminationControl 6 true,
        .writeRegister16 regChargeCurrentLimit 100 false,
        .readRegister8 regNtcControl1 (some 0)],
        some (.writeRegister8 regNtcControl1 1 true)) := by decide
  obtain ⟨charging, executed, made⟩ := Option.map_eq_some_iff.mp evaluated
  obtain ⟨_, sixth⟩ := Prod.mk.injEq .. ▸ made
  have split : charging.transfers = charging.transfers.take 6 ++
      .writeRegister8 regNtcControl1 1 true :: charging.transfers.drop 7 := by
    obtain ⟨bound, found⟩ := List.getElem?_eq_some_iff.mp sixth
    rw [← found, List.getElem_cons_drop, List.take_append_drop]
  exact ⟨charging, _, _, executed, split, driver_writes_allowed executed split⟩

end Charging

end XBotFirmware.Power
