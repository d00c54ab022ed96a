import XBotFirmware.Api.Handlers

set_option autoImplicit false

/-!
Which requests reach which handler.
-/

namespace XBotFirmware.Api

open XBotFirmware.Platform Ascii

theorem strncmp_literal {literal : List Byte} (noNul : 0 ∉ literal) (text : List Byte) :
    strncmp text literal literal.length = 0 ↔ literal <+: text := by
  rw [strncmp_eq_zero_iff, cString_of_noNul noNul, List.take_length]
  constructor
  · intro taken
    have front := List.take_prefix literal.length (cString text)
    rw [taken] at front
    exact front.trans ( List.takeWhile_prefix _)
  · rintro ⟨rest, rfl⟩
    rw [cString_append noNul, List.take_left]

/-- The requests for an object: its name, alone or with a path behind it. -/
def Addresses (uri : List Byte) (h : ApiHandler) : Prop :=
  ∃ rest, uri = bytesOf "/api/" ++ (h.name ++ rest) ∧ (rest = [] ∨ rest.headD 0 = slash)

namespace ApiHandler

theorem name_noNul (h : ApiHandler) : (0 : Byte) ∉ h.name := by cases h <;> decide

theorem name_noSlash (h : ApiHandler) : slash ∉ h.name := by cases h <;> decide

theorem name_nonempty (h : ApiHandler) : h.name ≠ [] := by cases h <;> decide

theorem name_injective {h other : ApiHandler} (same : h.name = other.name) : h = other := by
  revert same
  cases h <;> cases other <;> decide

theorem mem_all (h : ApiHandler) : h ∈ all := by cases h <;> decide

end ApiHandler

theorem handler_test_iff (name : List Byte) (h : ApiHandler) :
    (h.name.length ≤ name.length && strncmp name h.name h.name.length = 0 &&
      (name.length ≤ h.name.length || name.getD h.name.length 0 = slash)) = true ↔
      ∃ rest, name = h.name ++ rest ∧ (rest = [] ∨ rest.headD 0 = slash) := by
  simp only [Bool.and_eq_true, Bool.or_eq_true, decide_eq_true_eq, strncmp_literal h.name_noNul]
  constructor
  · rintro ⟨⟨_, rest, rfl⟩, ending⟩
    refine ⟨rest, rfl, ?_⟩
    rcases ending with short | separator
    · left
      rw [List.length_append] at short
      exact List.eq_nil_of_length_eq_zero (by omega)
    · right
      rw [List.getD_append_right _ _ _ _ (Nat.le_refl _), Nat.sub_self] at separator
      cases rest with
      | nil => exact absurd separator (by decide)
      | cons c others => exact separator
  · rintro ⟨rest, rfl, ending⟩
    refine ⟨⟨by rw [List.length_append]; omega, rest, rfl⟩, ?_⟩
    rcases ending with rfl | separator
    · left
      rw [List.append_nil]
    · right
      rw [List.getD_append_right _ _ _ _ (Nat.le_refl _), Nat.sub_self]
      cases rest with
      | nil => exact absurd separator (by decide)
      | cons c others => exact separator

/-- No text starts with the names of two handlers, each ended by a slash or the end. -/
theorem handler_unique {h other : ApiHandler} {rest rest' : List Byte}
    (same : h.name ++ rest = other.name ++ rest') (ending : rest = [] ∨ rest.headD 0 = slash)
    (ending' : rest' = [] ∨ rest'.headD 0 = slash) : h = other := by
  have whole : ∀ {first second : ApiHandler} {tail tail' : List Byte},
      first.name ++ tail = second.name ++ tail' → (tail = [] ∨ tail.headD 0 = slash) →
      second.name.length ≤ first.name.length ∨ second.name.length = first.name.length := by
    intro first second tail tail' equal ended
    rcases Nat.lt_or_ge first.name.length second.name.length with shorter | longer
    · -- The longer name would have the slash in it.
      have character := congrArg (fun list : List Byte => list.getD first.name.length 0) equal
      simp only [List.getD_append_right _ _ _ _ (Nat.le_refl first.name.length), Nat.sub_self,
        List.getD_append _ _ _ _ shorter] at character
      have inName : second.name.getD first.name.length 0 ∈ second.name := by
        rw [List.getD_eq_getElem _ _ shorter]
        exact List.getElem_mem shorter
      rcases ended with rfl | separator
      · rw [← character] at inName
        exact absurd inName second.name_noNul
      · cases tail with
        | nil => exact absurd separator (by decide)
        | cons c others =>
            rw [← character] at inName
            have isSlash : (c :: others).getD 0 0 = slash := separator
            rw [isSlash] at inName
            exact absurd inName second.name_noSlash
    · exact .inl longer
  have lengths : h.name.length = other.name.length := by
    have first := whole same ending
    have second := whole same.symm ending'
    omega
  exact ApiHandler.name_injective (List.append_inj_left same lengths)

theorem getApiHandler_eq_some_iff (name : List Byte) (h : ApiHandler) :
    getApiHandler name = some h ↔
      ∃ rest, name = h.name ++ rest ∧ (rest = [] ∨ rest.headD 0 = slash) := by
  unfold getApiHandler
  by_cases empty : name.length = 0
  · rw [if_pos empty]
    refine iff_of_false (by simp) ?_
    rintro ⟨rest, rfl, _⟩
    rw [List.length_append] at empty
    exact h.name_nonempty (List.eq_nil_of_length_eq_zero (by omega))
  · rw [if_neg empty]
    constructor
    · intro found
      have passes := List.find?_some found
      exact (handler_test_iff name h).mp passes
    · rintro ⟨rest, split, ending⟩
      have passes := (handler_test_iff name h).mpr ⟨rest, split, ending⟩
      cases found : ApiHandler.all.find? fun h =>
          h.name.length ≤ name.length && strncmp name h.name h.name.length = 0 &&
            (name.length ≤ h.name.length || name.getD h.name.length 0 = slash) with
      | none => exact absurd passes (List.find?_eq_none.mp found h h.mem_all)
      | some other =>
          have otherPasses := List.find?_some found
          obtain ⟨rest', split', ending'⟩ := (handler_test_iff name other).mp otherPasses
          rw [handler_unique (split.symm.trans split') ending ending']

theorem findHandler_eq_some_iff (uri : List Byte) (h : ApiHandler) :
    findHandler uri = some h ↔ Addresses uri h := by
  have start : strncmp uri (bytesOf "/api/") 5 = 0 ↔ bytesOf "/api/" <+: uri :=
    strncmp_literal (by decide) uri
  unfold findHandler Addresses
  split
  next refused =>
    refine iff_of_false (by simp) ?_
    rintro ⟨rest, rfl, _⟩
    rcases refused with short | other
    · have length : (bytesOf "/api/").length = 5 := by decide
      have positive := List.length_pos_iff.mpr h.name_nonempty
      rw [List.length_append, List.length_append, length] at short
      omega
    · exact other (start.mpr (List.prefix_append _ _))
  next passed =>
    rw [not_or, not_not] at passed
    obtain ⟨behind, rfl⟩ := start.mp passed.2
    have dropped : (bytesOf "/api/" ++ behind).drop 5 = behind := List.drop_left' (by decide)
    rw [dropped, getApiHandler_eq_some_iff]
    simp only [List.append_cancel_left_eq]

def Literal (p : List Byte) : Prop :=
  p.all (fun c => c ≠ 0x3F && c ≠ 0x2A && c ≠ 0x23) = true

instance (p : List Byte) : Decidable (Literal p) := inferInstanceAs (Decidable (_ = _))

theorem Literal.plain {p : List Byte} (literal : Literal p) {c : Byte} (membership : c ∈ p) :
    c ≠ 0x3F ∧ c ≠ 0x2A ∧ c ≠ 0x23 := by
  have one := List.all_eq_true.mp literal c membership
  simpa [and_assoc] using one

theorem mgMatchLoop_literal {s p : List Byte} (literal : Literal p) {index fuel : Nat}
    (inside : index ≤ p.length) (enough : p.length < index + fuel) :
    mgMatchLoop s p fuel ⟨index, index, 0, 0⟩ = true ↔ s.drop index = p.drop index := by
  induction fuel generalizing index with
  | zero => omega
  | succ fuel inductionHypothesis =>
      rw [mgMatchLoop]
      simp only
      rcases Nat.lt_or_ge index p.length with inPattern | atEnd
      · obtain ⟨notAny, notStar, notHash⟩ := literal.plain (List.getElem_mem inPattern)
        have character : p.getD index 0 = p[index] := List.getD_eq_getElem _ _ inPattern
        rw [if_pos (.inl inPattern), character, List.drop_eq_getElem_cons inPattern]
        rcases Nat.lt_or_ge index s.length with inText | textEnd
        · have textCharacter : s.getD index 0 = s[index] := List.getD_eq_getElem _ _ inText
          rw [textCharacter, List.drop_eq_getElem_cons inText, List.cons.injEq]
          by_cases same : s[index] = p[index]
          · rw [if_pos ⟨inPattern, inText, .inr ⟨notStar, notHash, same⟩⟩,
              inductionHypothesis (by omega) (by omega)]
            exact (and_iff_right same).symm
          · rw [if_neg (fun all => all.2.2.elim notAny fun equal => same equal.2.2),
              if_neg (fun all => all.2.elim notStar notHash),
              if_neg (fun all => Nat.lt_irrefl 0 all.1)]
            exact iff_of_false Bool.false_ne_true fun both => same both.1
        · rw [if_neg (fun all => Nat.not_lt.mpr textEnd all.2.1),
            if_neg (fun all => all.2.elim notStar notHash),
            if_neg (fun all => Nat.lt_irrefl 0 all.1), List.drop_of_length_le textEnd]
          exact iff_of_false Bool.false_ne_true fun empty => List.cons_ne_nil _ _ empty.symm
      · rw [List.drop_of_length_le atEnd, List.drop_eq_nil_iff]
        rcases Nat.lt_or_ge index s.length with inText | textEnd
        · rw [if_pos (.inr inText), if_neg (fun all => Nat.not_lt.mpr atEnd all.1),
            if_neg (fun all => Nat.not_lt.mpr atEnd all.1),
            if_neg (fun all => Nat.lt_irrefl 0 all.1)]
          exact iff_of_false Bool.false_ne_true (Nat.not_le.mpr inText)
        · rw [if_neg (fun either =>
            either.elim (Nat.not_lt.mpr atEnd) (Nat.not_lt.mpr textEnd))]
          exact iff_of_true rfl textEnd

theorem mgMatch_literal {p : List Byte} (literal : Literal p) (s : List Byte) :
    mgMatch s p = true ↔ s = p := by
  have enough : p.length < 0 + (s.length + 2) * (p.length + 2) := by
    have bound : 1 * (p.length + 2) ≤ (s.length + 2) * (p.length + 2) :=
      Nat.mul_le_mul_right _ (by omega)
    omega
  exact mgMatchLoop_literal literal (Nat.zero_le _) enough

theorem not_addresses_of_findHandler {uri : List Byte} (none : findHandler uri = none)
    (h : ApiHandler) : ¬Addresses uri h := by
  rw [← findHandler_eq_some_iff, none]
  intro impossible
  cases impossible

theorem fixed_pages_not_handled (h : ApiHandler) :
    ¬Addresses (bytesOf "/api/ok") h ∧ ¬Addresses (bytesOf "/websocket") h ∧
      ¬Addresses (bytesOf "/api/heartbeat") h :=
  ⟨not_addresses_of_findHandler (by decide) h, not_addresses_of_findHandler (by decide) h,
    not_addresses_of_findHandler (by decide) h⟩

section Requests

variable (doubles : Doubles) {request : Request} (device : Device)

theorem httpEvHandler_of_addresses {h : ApiHandler} (addressed : Addresses request.uri h) :
    httpEvHandler doubles request device =
      handleObject doubles h request.body request.before request.after device := by
  obtain ⟨notOk, notWebsocket, notHeartbeat⟩ := fixed_pages_not_handled h
  have other : ∀ {page : List Byte}, Literal page → ¬Addresses page h →
      ¬mgMatch request.uri page = true := by
    intro page literal notHandled matched
    rw [(mgMatch_literal literal request.uri).mp matched] at addressed
    exact notHandled addressed
  rw [httpEvHandler, if_neg (other (by decide) notOk), if_neg (other (by decide) notWebsocket),
    if_neg (other (by decide) notHeartbeat), (findHandler_eq_some_iff request.uri h).mpr addressed]

def pageReply (uri : List Byte) (version : BitVec 32) : Reply :=
  if uri = bytesOf "/api/ok" then .json (wordTrue ++ [newline])
  else if uri = bytesOf "/websocket" then .websocket
  else if uri = bytesOf "/api/heartbeat" then .json (printVersion version)
  else .serveDir

theorem httpEvHandler_of_not_addresses (unaddressed : ∀ h, ¬Addresses request.uri h) :
    httpEvHandler doubles request device =
      (device, pageReply request.uri device.deviceChangeVersion) := by
  have none : findHandler request.uri = none := by
    cases found : findHandler request.uri with
    | none => rfl
    | some h => exact absurd ((findHandler_eq_some_iff request.uri h).mp found) (unaddressed h)
  have literal : ∀ page : List Byte, Literal page →
      (mgMatch request.uri page = true ↔ request.uri = page) :=
    fun page isLiteral => mgMatch_literal isLiteral request.uri
  unfold httpEvHandler pageReply
  simp only [literal _ (show Literal (bytesOf "/api/ok") by decide),
    literal _ (show Literal (bytesOf "/websocket") by decide),
    literal _ (show Literal (bytesOf "/api/heartbeat") by decide), none]
  split
  · rfl
  · split
    · rfl
    · split <;> rfl

/-- A request reaches an object exactly when its path is the name of the object, alone or with
a path of its own behind it; at most one object is reached, and a request that reaches none
leaves the device as it is. -/
theorem requests_reach_objects (request : Request) :
    (∀ h, Addresses request.uri h →
      httpEvHandler doubles request device =
          handleObject doubles h request.body request.before request.after device ∧
        ∀ other, Addresses request.uri other → other = h) ∧
    ((∀ h, ¬Addresses request.uri h) →
      httpEvHandler doubles request device =
        (device, pageReply request.uri device.deviceChangeVersion)) := by
  refine ⟨?_, httpEvHandler_of_not_addresses doubles device⟩
  intro h addressed
  refine ⟨httpEvHandler_of_addresses doubles device addressed, ?_⟩
  intro other otherAddressed
  have found := (findHandler_eq_some_iff request.uri h).mpr addressed
  rw [(findHandler_eq_some_iff request.uri other).mpr otherAddressed] at found
  exact Option.some.inj found

end Requests

end XBotFirmware.Api
