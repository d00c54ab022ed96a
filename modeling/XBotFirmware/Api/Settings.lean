import XBotFirmware.Library.Run
import XBotFirmware.Api.Reply
import XBotFirmware.Api.Routing

set_option autoImplicit false

/-!
The settings that the REST API keeps, over any sequence of requests.

A body names the attributes that it changes.  The settings are what the last request that
named an attribute made of it, and the version that the UI polls moves with every change.
-/

namespace XBotFirmware.Api

open XBotFirmware.Platform XBotFirmware.Library Ascii

section Bytes

variable {doubles : Doubles}

theorem length_leBytes (count value : Nat) : (leBytes count value).length = count := by
  rw [leBytes, List.length_map, List.length_range]

/-- `mg_json_unescape` writes no byte behind its buffer. -/
theorem length_mgJsonUnescape (s : List Byte) (n : Nat) :
    (mgJsonUnescape s n).1.length ≤ n := by
  induction n generalizing s with
  | zero => rw [mgJsonUnescape]; exact Nat.le_refl _
  | succ n inductionHypothesis =>
      have further : ∀ (byte : Byte) (rest : List Byte),
          ((mgJsonUnescape rest n).map (byte :: ·) id).1.length ≤ n + 1 := by
        intro byte rest
        rw [Prod.map_fst, List.length_cons]
        exact Nat.succ_le_succ (inductionHypothesis rest)
      cases s with
      | nil => exact Nat.succ_le_succ (Nat.zero_le _)
      | cons c rest =>
          rw [mgJsonUnescape]
          split
          · split
            · exact Nat.zero_le _
            · exact further _ _
          · split
            · split
              · exact Nat.zero_le _
              · exact further _ _
            · exact further _ _

theorem length_attributeBytes (body : List Byte) (a : Attribute) :
    ∀ bytes ∈ attributeBytes doubles body a, bytes.length ≤ a.width := by
  intro bytes written
  unfold attributeBytes at written
  unfold Attribute.width
  cases type : a.type with
  | int =>
      rw [type] at written
      obtain ⟨d, _, rfl⟩ := Option.map_eq_some_iff.mp written
      exact Nat.le_of_eq (length_leBytes _ _)
  | bool =>
      rw [type] at written
      obtain ⟨value, _, rfl⟩ := Option.map_eq_some_iff.mp written
      exact Nat.le_refl _
  | double =>
      rw [type] at written
      obtain ⟨d, _, rfl⟩ := Option.map_eq_some_iff.mp written
      exact Nat.le_of_eq (length_leBytes _ _)
  | string =>
      rw [type] at written
      simp only [mgJsonGetStr2] at written
      split at written
      · cases written
        exact length_mgJsonUnescape _ _
      · cases written
  | other =>
      rw [type] at written
      cases written

theorem ApiHandler.attributes_fit (h : ApiHandler) :
    ∀ a ∈ h.attributes, a.offset + a.width ≤ h.dataSize := by
  cases h <;> decide

instance (first second : Attribute) :
    Decidable (Apart Attribute.offset Attribute.width first second) :=
  inferInstanceAs (Decidable (_ ∨ _))

theorem ApiHandler.attributes_apart (h : ApiHandler) :
    h.attributes.Pairwise (Apart Attribute.offset Attribute.width) := by
  cases h <;> decide

variable {h : ApiHandler} {data : List Byte}

theorem length_merge (body : List Byte) (sized : data.length = h.dataSize) :
    (merge doubles body h.attributes data).length = data.length :=
  length_changes (fun a _ => length_attributeBytes body a)
    (fun a membership => sized ▸ h.attributes_fit a membership)

theorem field_merge (body : List Byte) (sized : data.length = h.dataSize) {a : Attribute}
    (membership : a ∈ h.attributes) :
    field a.offset a.width (merge doubles body h.attributes data) =
      changed (attributeBytes doubles body) a (field a.offset a.width data) :=
  field_changes (fun a _ => length_attributeBytes body a)
    (fun a membership => sized ▸ h.attributes_fit a membership) h.attributes_apart membership

end Bytes

section Documents

variable {doubles : Doubles}

def Json.number? : Json → Option (List Byte)
  | .number token => some token
  | .word _ | .string _ | .array _ | .object _ => none

def Json.truth? : Json → Option Bool
  | .word token =>
      if token = wordTrue then some true else if token = wordFalse then some false else none
  | .number _ | .string _ | .array _ | .object _ => none

def Json.string? : Json → Option (List Byte)
  | .string body => some body
  | .word _ | .number _ | .array _ | .object _ => none

/-- What the value of the member with its name makes of an attribute. -/
def assigned (doubles : Doubles) (a : Attribute) (value : Option Json) : Option (List Byte) :=
  match a.type with
  | .int => (value.bind Json.number?).map fun token =>
      leBytes 4 (doubles.toInt (doubles.mgAtod token)).toNat
  | .bool => (value.bind Json.truth?).map fun truth => [if truth then 1 else 0]
  | .double => (value.bind Json.number?).map fun token => leBytes 8 (doubles.mgAtod token).toNat
  | .string => (value.bind Json.string?).map fun body => (mgJsonUnescape body a.size).1
  | .other => none

/-- The first character of a value tells what it is. -/
theorem text_start {value : Json} (wellFormed : value.wellFormed = true) :
    value.text ≠ [] ∧
    ((value.text.headD 0 = minus ∨ isDigit (value.text.headD 0) = true) ↔
      value.number?.isSome = true) ∧
    (value.text.headD 0 = 0x74 ↔ value.truth? = some true) ∧
    (value.text.headD 0 = 0x66 ↔ value.truth? = some false) ∧
    (value.text.headD 0 = quote ↔ value.string?.isSome = true) := by
  cases value with
  | word token =>
      simp only [Json.wellFormed, Bool.or_eq_true, decide_eq_true_eq, or_assoc] at wellFormed
      rcases wellFormed with rfl | rfl | rfl <;> decide
  | number token =>
      have start := numberStart wellFormed
      have differs : ∀ {c : Byte}, c ≠ minus ∧ isDigit c = false → token.headD 0 ≠ c :=
        fun apart => Scan.ne_of_numberStart start.2 apart
      refine ⟨start.1, iff_of_true start.2 rfl, iff_of_false (differs (by decide)) ?_,
        iff_of_false (differs (by decide)) ?_, iff_of_false (differs (by decide)) ?_⟩
      all_goals
        intro impossible
        cases impossible
  | string body => simp [Json.text, Json.number?, Json.truth?, Json.string?]; decide
  | array elements => simp [Json.text, Json.number?, Json.truth?, Json.string?]; decide
  | object members => simp [Json.text, Json.number?, Json.truth?, Json.string?]; decide

theorem lookup_wellFormed {name : List Byte} {value : Json} : ∀ {members : Members},
    members.wellFormed = true → members.lookup? name = some value → value.wellFormed = true
  | .nil _, _, lookup => by cases lookup
  | .cons before key between before' first after rest, wellFormed, lookup => by
      simp only [Members.wellFormed, Bool.and_eq_true, and_assoc] at wellFormed
      rw [Members.lookup?] at lookup
      split at lookup
      · cases lookup
        exact wellFormed.2.2.2.2.1
      · exact lookup_wellFormed wellFormed.2.2.2.2.2.2 lookup

section Found

variable {json path front back : List Byte} {value : Json}

theorem mgJsonGetNum_of_value (wellFormed : value.wellFormed = true)
    (split : json = front ++ (value.text ++ back))
    (found : mgJsonGet json path = .ok (front.length, value.text.length)) :
    mgJsonGetNum doubles json path = value.number?.map doubles.mgAtod := by
  obtain ⟨nonempty, number, _⟩ := text_start wellFormed
  rw [mgJsonGetNum_of_found split nonempty found]
  cases value with
  | number token => exact if_pos (number.mpr rfl)
  | word _ | string _ | array _ | object _ =>
      exact if_neg fun start => Bool.false_ne_true (number.mp start)

theorem mgJsonGetBool_of_value (wellFormed : value.wellFormed = true)
    (split : json = front ++ (value.text ++ back))
    (found : mgJsonGet json path = .ok (front.length, value.text.length)) :
    mgJsonGetBool json path = value.truth? := by
  obtain ⟨nonempty, _, isTrue, isFalse, _⟩ := text_start wellFormed
  rw [mgJsonGetBool_of_found split nonempty found]
  cases truth : value.truth? with
  | none =>
      rw [truth] at isTrue isFalse
      refine if_neg ?_
      rintro (start | start)
      · cases isTrue.mp start
      · cases isFalse.mp start
  | some word =>
      cases word with
      | true =>
          have start := isTrue.mpr truth
          rw [if_pos (.inl start), decide_eq_true start]
      | false =>
          have start := isFalse.mpr truth
          rw [if_pos (.inr start), start]
          rfl

theorem mgJsonGetStr2_of_value (wellFormed : value.wellFormed = true)
    (split : json = front ++ (value.text ++ back))
    (found : mgJsonGet json path = .ok (front.length, value.text.length)) (len : Nat) :
    mgJsonGetStr2 json path len = value.string?.map fun body => (mgJsonUnescape body len).1 := by
  obtain ⟨_, _, _, _, quoted⟩ := text_start wellFormed
  cases value with
  | string body => exact mgJsonGetStr2_of_found rfl split found len
  | word _ | number _ | array _ | object _ =>
      rw [mgJsonGetStr2, mgJsonGetTok_of_found split found]
      exact if_neg fun both => Bool.false_ne_true (quoted.mp both.2)

end Found

theorem readers_of_error {json path : List Byte} {error : JsonError}
    (failed : mgJsonGet json path = .error error) :
    mgJsonGetNum doubles json path = none ∧ mgJsonGetBool json path = none ∧
      ∀ len, mgJsonGetStr2 json path len = none := by
  refine ⟨?_, ?_, ?_⟩
  · rw [mgJsonGetNum, failed]
  · rw [mgJsonGetBool, failed]
  · intro len
    rw [mgJsonGetStr2, mgJsonGetTok, failed]
    rfl

theorem attributeBytes_document {blank rest : List Byte} {members : Members} {a : Attribute}
    (plain : PlainName a.name) (spaces : blank.all isSpace = true)
    (wellFormed : members.wellFormed = true) (room : members.height < mgJsonMaxDepth) :
    attributeBytes doubles (document blank members rest) a =
      assigned doubles a (members.lookup? a.name) := by
  have scanned := mgJsonGet_document plain.isPath spaces wellFormed room rest
  rw [← plain.jpath_eq] at scanned
  unfold attributeBytes assigned
  cases lookup : members.lookup? a.name with
  | none =>
      obtain ⟨error, failed⟩ := scanned.2 lookup
      obtain ⟨noNumber, noTruth, noString⟩ := @readers_of_error doubles _ _ _ failed
      rw [noNumber, noTruth, noString]
      cases a.type <;> rfl
  | some value =>
      obtain ⟨front, back, split, found⟩ := scanned.1 value lookup
      have valueFormed := lookup_wellFormed wellFormed lookup
      rw [mgJsonGetNum_of_value valueFormed split found,
        mgJsonGetBool_of_value valueFormed split found,
        mgJsonGetStr2_of_value valueFormed split found]
      cases a.type with
      | int | double => simp only [Option.bind_some, Option.map_map]; rfl
      | bool | string | other => rfl

end Documents

/-- A body that is a JSON object changes exactly the attributes that it names with a value of
their type, each to the first such value, in every object of the API. -/
theorem posted_document_merges (h : ApiHandler) {doubles : Doubles} {data blank : List Byte}
    {members : Members} (sized : data.length = h.dataSize) (spaces : blank.all isSpace = true)
    (wellFormed : members.wellFormed = true) (room : members.height < mgJsonMaxDepth)
    (rest : List Byte) {a : Attribute} (membership : a ∈ h.attributes) :
    field a.offset a.width (merge doubles (document blank members rest) h.attributes data) =
      (assigned doubles a (members.lookup? a.name)).elim (field a.offset a.width data)
        fun bytes => bytes ++ (field a.offset a.width data).drop bytes.length := by
  rw [field_merge _ sized membership, changed,
    attributeBytes_document (h.plainNames a membership) spaces wellFormed room]

instance (uri : List Byte) (h : ApiHandler) : Decidable (Addresses uri h) :=
  decidable_of_iff _ (findHandler_eq_some_iff uri h)

/-- What changes the device: a request, or the refresh of the UI. -/
inductive ApiEvent where
  | request (request : Request)
  | glueUpdateState
  deriving DecidableEq, Repr

section Runs

variable (doubles : Doubles)

def Device.step (device : Device) : ApiEvent → Device
  | .request request => (httpEvHandler doubles request device).1
  | .glueUpdateState => { device with deviceChangeVersion := device.deviceChangeVersion + 1 }

def written (a : Attribute) : ApiEvent → Option (List Byte)
  | .request request =>
      if Addresses request.uri .powerServiceSettings then attributeBytes doubles request.body a
      else none
  | .glueUpdateState => none

variable {doubles} {device : Device}

theorem mgJsonGet_nil (path : List Byte) : ∃ error, mgJsonGet [] path = .error error := by
  unfold mgJsonGet
  split
  · exact ⟨_, rfl⟩
  · exact ⟨_, rfl⟩

theorem attributeBytes_nil (a : Attribute) : attributeBytes doubles [] a = none := by
  obtain ⟨error, failed⟩ := mgJsonGet_nil (jpath a)
  obtain ⟨noNumber, noTruth, noString⟩ := @readers_of_error doubles _ _ _ failed
  unfold attributeBytes
  rw [noNumber, noTruth, noString]
  cases a.type <;> rfl

theorem merge_nil (attributes : List Attribute) (data : List Byte) :
    merge doubles [] attributes data = data := by
  unfold merge
  induction attributes with
  | nil => rfl
  | cons a rest inductionHypothesis =>
      rw [List.foldl_cons, change, attributeBytes_nil]
      exact inductionHypothesis

section Object

variable (body : List Byte) (before after : Samples)

theorem handleObject_settings :
    (handleObject doubles .powerServiceSettings body before after device).1.powerServiceSettings =
      merge doubles body powerServiceSettingsAttributes device.powerServiceSettings := by
  unfold handleObject
  split
  · rfl
  next empty =>
    have none : body = [] := by
      by_contra some
      exact empty ⟨List.length_pos_iff.mpr some, by decide⟩
    rw [none, merge_nil]

theorem handleObject_readonly {h : ApiHandler} (readonly : h.hasSetter = false) :
    (handleObject doubles h body before after device).1.powerServiceSettings =
      device.powerServiceSettings := by
  unfold handleObject
  split
  · simp only [readonly]
    rw [if_neg Bool.false_ne_true]
    split <;> rfl
  · rfl

/-- A request that leaves the version leaves the settings too. -/
theorem handleObject_version (h : ApiHandler) :
    ∃ count ≤ 1, (handleObject doubles h body before after device).1.deviceChangeVersion =
        device.deviceChangeVersion + BitVec.ofNat 32 count ∧
      (count = 0 → (handleObject doubles h body before after device).1.powerServiceSettings =
        device.powerServiceSettings) := by
  have sameVersion : ∀ (current : Device) (data : List Byte),
      (if h.hasSetter then h.setter current data else current).deviceChangeVersion =
        current.deviceChangeVersion := by
    intro current data
    cases h <;> rfl
  unfold handleObject
  split
  · simp only [sameVersion]
    by_cases changes : h.getter device before ≠ merge doubles body h.attributes
        (h.getter device before)
    · rw [if_pos changes]
      exact ⟨1, Nat.le_refl _, rfl, fun none => absurd none Nat.one_ne_zero⟩
    · rw [if_neg changes]
      refine ⟨0, Nat.zero_le _, (BitVec.add_zero _).symm, ?_⟩
      intro _
      have same := not_not.mp changes
      cases h with
      | powerServiceSettings => exact same.symm
      | imu | state => rfl
  · exact ⟨0, Nat.zero_le _, (BitVec.add_zero _).symm, fun _ => rfl⟩

end Object

theorem step_settings_of_addresses {request : Request}
    (addressed : Addresses request.uri .powerServiceSettings) :
    (device.step doubles (.request request)).powerServiceSettings =
      merge doubles request.body powerServiceSettingsAttributes device.powerServiceSettings := by
  rw [Device.step, httpEvHandler_of_addresses doubles device addressed]
  exact handleObject_settings _ _ _

theorem step_settings_of_not_addresses {request : Request}
    (elsewhere : ¬Addresses request.uri .powerServiceSettings) :
    (device.step doubles (.request request)).powerServiceSettings =
      device.powerServiceSettings := by
  rw [Device.step]
  by_cases reached : ∃ h, Addresses request.uri h
  · obtain ⟨h, addressed⟩ := reached
    rw [httpEvHandler_of_addresses doubles device addressed]
    cases h with
    | powerServiceSettings => exact absurd addressed elsewhere
    | imu | state => exact handleObject_readonly _ _ _ rfl
  · rw [httpEvHandler_of_not_addresses doubles device (not_exists.mp reached)]

theorem step_version (event : ApiEvent) :
    ∃ count ≤ 1, (device.step doubles event).deviceChangeVersion =
        device.deviceChangeVersion + BitVec.ofNat 32 count ∧
      (count = 0 →
        (device.step doubles event).powerServiceSettings = device.powerServiceSettings) := by
  cases event with
  | glueUpdateState => exact ⟨1, Nat.le_refl _, rfl, fun none => absurd none Nat.one_ne_zero⟩
  | request request =>
      rw [Device.step]
      by_cases reached : ∃ h, Addresses request.uri h
      · obtain ⟨h, addressed⟩ := reached
        rw [httpEvHandler_of_addresses doubles device addressed]
        exact handleObject_version _ _ _ h
      · rw [httpEvHandler_of_not_addresses doubles device (not_exists.mp reached)]
        exact ⟨0, Nat.zero_le _, (BitVec.add_zero _).symm, fun _ => rfl⟩

theorem step_length (event : ApiEvent) (sized : device.powerServiceSettings.length = 24) :
    (device.step doubles event).powerServiceSettings.length = 24 := by
  cases event with
  | glueUpdateState => exact sized
  | request request =>
      by_cases addressed : Addresses request.uri .powerServiceSettings
      · rw [step_settings_of_addresses addressed, ← sized]
        exact @length_merge doubles .powerServiceSettings _ request.body sized
      · rw [step_settings_of_not_addresses addressed, sized]

theorem settings_are_doubles : ∀ a ∈ powerServiceSettingsAttributes, a.type = .double := by decide

theorem length_of_attributeBytes {body bytes : List Byte} {a : Attribute}
    (isDouble : a.type = .double) (some : attributeBytes doubles body a = some bytes) :
    bytes.length = 8 := by
  rw [attributeBytes, isDouble] at some
  obtain ⟨d, _, rfl⟩ := Option.map_eq_some_iff.mp some
  exact length_leBytes _ _

theorem step_field (event : ApiEvent) (sized : device.powerServiceSettings.length = 24)
    {a : Attribute} (membership : a ∈ powerServiceSettingsAttributes) :
    field a.offset 8 (device.step doubles event).powerServiceSettings =
      (written doubles a event).getD (field a.offset 8 device.powerServiceSettings) := by
  have isDouble := settings_are_doubles a membership
  have width : a.width = 8 := by rw [Attribute.width, isDouble]
  cases event with
  | glueUpdateState => rfl
  | request request =>
      by_cases addressed : Addresses request.uri .powerServiceSettings
      · rw [step_settings_of_addresses addressed, written, if_pos addressed]
        have merged := @field_merge doubles .powerServiceSettings _ request.body sized a membership
        rw [width] at merged
        refine merged.trans ?_
        rw [changed]
        cases new : attributeBytes doubles request.body a with
        | none => rfl
        | some bytes =>
            have covered :
                (field a.offset 8 device.powerServiceSettings).drop bytes.length = [] := by
              rw [length_of_attributeBytes isDouble new]
              exact List.drop_of_length_le (length_field_le _ _ _)
            simp only [Option.elim_some, Option.getD_some, covered, List.append_nil]
      · rw [step_settings_of_not_addresses addressed, written, if_neg addressed]
        rfl

/-- Every setting is what the last request to the settings that named it with a number made
of it, whatever other requests and refreshes there were. -/
theorem settings_follow_requests {device : Device} (events : List ApiEvent)
    (sized : device.powerServiceSettings.length = 24) {a : Attribute}
    (membership : a ∈ powerServiceSettingsAttributes) :
    field a.offset 8 (events.foldl (Device.step doubles) device).powerServiceSettings =
      (events.filterMap (written doubles a)).getLast?.getD
        (field a.offset 8 device.powerServiceSettings) := by
  induction events generalizing device with
  | nil => rfl
  | cons event rest inductionHypothesis =>
      rw [List.foldl_cons, inductionHypothesis (step_length event sized),
        step_field event sized membership]
      cases new : written doubles a event with
      | none => rw [List.filterMap_cons_none new, Option.getD_none]
      | some bytes =>
          rw [List.filterMap_cons_some new, List.getLast?_cons, Option.getD_some,
            Option.getD_some]

theorem run_version (events : List ApiEvent) :
    ∃ count ≤ events.length,
      (events.foldl (Device.step doubles) device).deviceChangeVersion =
        device.deviceChangeVersion + BitVec.ofNat 32 count ∧
      (count = 0 → (events.foldl (Device.step doubles) device).powerServiceSettings =
        device.powerServiceSettings) := by
  induction events generalizing device with
  | nil => exact ⟨0, Nat.le_refl _, (BitVec.add_zero _).symm, fun _ => rfl⟩
  | cons event rest inductionHypothesis =>
      obtain ⟨first, small, advanced, unchanged⟩ := @step_version doubles device event
      obtain ⟨others, bounded, advancedLater, unchangedLater⟩ :=
        @inductionHypothesis (device.step doubles event)
      refine ⟨first + others, by rw [List.length_cons]; omega, ?_, ?_⟩
      · rw [List.foldl_cons, advancedLater, advanced, BitVec.add_assoc, ← BitVec.ofNat_add]
      · intro none
        rw [List.foldl_cons, unchangedLater (by omega), unchanged (by omega)]

/-- A UI that polls the version often enough and sees the one it knows has the settings that
the device has. -/
theorem same_version_same_settings {device : Device} {events : List ApiEvent}
    (short : events.length < 2 ^ 32)
    (same : (events.foldl (Device.step doubles) device).deviceChangeVersion =
      device.deviceChangeVersion) :
    (events.foldl (Device.step doubles) device).powerServiceSettings =
      device.powerServiceSettings := by
  obtain ⟨count, bounded, advanced, unchanged⟩ := @run_version doubles device events
  apply unchanged
  have counted := congrArg BitVec.toNat (same.symm.trans advanced)
  rw [BitVec.toNat_add, BitVec.toNat_ofNat,
    Nat.mod_eq_of_lt (Nat.lt_of_le_of_lt bounded short)] at counted
  have bound := device.deviceChangeVersion.isLt
  omega

end Runs

def thirteen : Doubles := ⟨fun _ => 0x402A000000000000, fun _ => [0x31, 0x33], fun _ => 13⟩

def fullVoltsMember : Members :=
  .cons [] (bytesOf "full_volts") [] [space] (.number [0x31, 0x33]) [] (.nil [])

theorem posted_document_merges_fullVolts :
    field 16 8 (merge thirteen (document [] fullVoltsMember []) powerServiceSettingsAttributes
      Device.initial.powerServiceSettings) = leBytes 8 0x402A000000000000 ∧
    field 8 8 (merge thirteen (document [] fullVoltsMember []) powerServiceSettingsAttributes
      Device.initial.powerServiceSettings) = leBytes 8 0x4029000000000000 := by
  have merged : ∀ {a : Attribute}, a ∈ powerServiceSettingsAttributes →
      field a.offset a.width (merge thirteen (document [] fullVoltsMember [])
        powerServiceSettingsAttributes Device.initial.powerServiceSettings) =
      (assigned thirteen a (fullVoltsMember.lookup? a.name)).elim
        (field a.offset a.width Device.initial.powerServiceSettings)
        fun bytes => bytes ++
          (field a.offset a.width Device.initial.powerServiceSettings).drop bytes.length :=
    fun membership => posted_document_merges .powerServiceSettings rfl rfl rfl (by decide) []
      membership
  exact ⟨(@merged (doubleAttribute "full_volts" 16) (by decide)).trans (by decide),
    (@merged (doubleAttribute "empty_volts" 8) (by decide)).trans (by decide)⟩

def changingEvents : List ApiEvent :=
  [.request ⟨bytesOf "/api/power_service_settings", document [] fullVoltsMember [], ⟨[], []⟩,
      ⟨[], []⟩⟩,
    .request ⟨bytesOf "/api/state", document [] fullVoltsMember [], ⟨[], List.replicate 72 0⟩,
      ⟨[], List.replicate 72 0⟩⟩,
    .glueUpdateState]

theorem settings_follow_requests_changing :
    field 16 8 (changingEvents.foldl (Device.step thirteen) Device.initial).powerServiceSettings =
      leBytes 8 0x402A000000000000 :=
  (@settings_follow_requests thirteen Device.initial changingEvents (by decide)
    (doubleAttribute "full_volts" 16) (by decide)).trans (by decide)

def repeatingEvents : List ApiEvent :=
  [.request ⟨bytesOf "/api/power_service_settings", document [] fullVoltsMember [], ⟨[], []⟩,
    ⟨[], []⟩⟩]

theorem same_version_same_settings_repeating :
    (repeatingEvents.foldl (Device.step thirteen)
      (changingEvents.foldl (Device.step thirteen) Device.initial)).powerServiceSettings =
    (changingEvents.foldl (Device.step thirteen) Device.initial).powerServiceSettings :=
  same_version_same_settings (by decide) (by decide)

end XBotFirmware.Api
