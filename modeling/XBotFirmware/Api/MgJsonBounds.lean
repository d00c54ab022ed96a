import XBotFirmware.Api.MgJson

set_option autoImplicit false

/-!
`mg_json_get` on any text and any path.

The handlers index the body of a request with what it returns, so the token has to stand
inside the body, also where the body is no JSON at all.
-/

namespace XBotFirmware.Api

open XBotFirmware.Platform Ascii

theorem mgPassString_lt : ∀ {s : List Byte} {n : Nat}, mgPassString s = .ok n → n < s.length
  | [], _, passed => by cases passed
  | [c], n, passed => by
      rw [mgPassString] at passed
      split at passed
      · cases passed
        exact Nat.zero_lt_one
      · cases passed
  | c :: escaped :: rest, n, passed => by
      have shorter : ∀ {count : Nat} {tail : List Byte},
          (mgPassString tail).map (· + count) = .ok n →
          (∀ m, mgPassString tail = .ok m → m < tail.length) → n < tail.length + count := by
        intro count tail mapped bound
        cases outcome : mgPassString tail with
        | error error =>
            rw [outcome] at mapped
            cases mapped
        | ok m =>
            rw [outcome] at mapped
            cases mapped
            exact Nat.add_lt_add_right (bound m outcome) count
      rw [mgPassString] at passed
      split at passed
      · have bound := shorter passed fun _ inner => mgPassString_lt inner
        exact bound
      · split at passed
        · cases passed
        · split at passed
          · cases passed
            exact Nat.succ_pos _
          · have bound := shorter passed fun _ inner => mgPassString_lt inner
            exact bound

namespace Scan

variable {path : List Byte}

/-- A round goes on inside the first `limit` characters, or returns a token of them. -/
def Inside (start limit : Nat) (outcome : Except JsonResult Scan) : Prop :=
  (∀ next, outcome = .ok next → start ≤ next.i ∧ next.i < limit ∧ next.j ≤ next.i) ∧
  ∀ offset length, outcome = .error (.ok (offset, length)) → 0 < length ∧ offset + length ≤ limit

section Outcomes

variable {start limit : Nat} {scan : Scan}

theorem inside_ok (reached : start ≤ scan.i) (within : scan.i < limit) (behind : scan.j ≤ scan.i) :
    Inside start limit (.ok scan) := by
  refine ⟨?_, ?_⟩
  · intro next same
    cases same
    exact ⟨reached, within, behind⟩
  · intro offset length returned
    cases returned

theorem inside_error (start limit : Nat) (error : JsonError) :
    Inside start limit (.error (.error error)) := by
  refine ⟨?_, ?_⟩
  · intro next same
    cases same
  · intro offset length returned
    cases returned

theorem inside_bind {outcome : Except JsonResult Scan}
    {continuation : Scan → Except JsonResult Scan} (inside : Inside start limit outcome)
    (further : ∀ next : Scan, start ≤ next.i → next.i < limit → next.j ≤ next.i →
      Inside start limit (continuation next)) :
    Inside start limit (outcome.bind continuation) := by
  cases outcome with
  | error result =>
      refine ⟨?_, inside.2⟩
      intro next same
      cases same
  | ok next =>
      obtain ⟨reached, within, behind⟩ := inside.1 next rfl
      exact further next reached within behind

theorem inside_map {outcome : Except JsonResult Scan} {change : Scan → Scan}
    (inside : Inside start limit outcome)
    (same : ∀ next : Scan, (change next).i = next.i ∧ (change next).j = next.j) :
    Inside start limit (outcome.map change) := by
  cases outcome with
  | error result =>
      refine ⟨?_, inside.2⟩
      intro next same
      cases same
  | ok next =>
      obtain ⟨reached, within, behind⟩ := inside.1 next rfl
      obtain ⟨sameI, sameJ⟩ := same next
      exact inside_ok (sameI ▸ reached) (sameI ▸ within) (sameI ▸ sameJ ▸ behind)

theorem checkRet_inside (reached : start ≤ scan.i) (within : scan.i < limit)
    (behind : scan.j ≤ scan.i) : Inside start limit (checkRet path scan) := by
  rw [checkRet]
  split
  · refine ⟨?_, ?_⟩
    · intro next same
      cases same
    · intro offset length returned
      cases returned
      omega
  · exact inside_ok reached within behind

theorem eoo_inside (c : Byte) (reached : start ≤ scan.i) (within : scan.i < limit)
    (behind : scan.j ≤ scan.i) : Inside start limit (eoo path c scan) := by
  rw [eoo]
  split
  · exact inside_error _ _ _
  · split
    · exact inside_error _ _ _
    · split
      · exact inside_error _ _ _
      · exact checkRet_inside reached within behind

theorem countElement_same (scan : Scan) :
    scan.countElement.i = scan.i ∧ scan.countElement.j = scan.j := by
  rw [countElement]
  split <;> exact ⟨rfl, rfl⟩

theorem endValue_inside (reached : start ≤ scan.i) (within : scan.i < limit)
    (behind : scan.j ≤ scan.i) : Inside start limit (endValue path scan) :=
  inside_map (checkRet_inside reached within behind) countElement_same

theorem openObject_inside (c : Byte) (reached : start ≤ scan.i) (within : scan.i < limit)
    (behind : scan.j ≤ scan.i) : Inside start limit (openObject path c scan) := by
  rw [openObject]
  split
  · exact inside_error _ _ _
  · split <;> exact inside_ok reached within behind

theorem openArray_inside (c : Byte) (reached : start ≤ scan.i) (within : scan.i < limit)
    (behind : scan.j ≤ scan.i) : Inside start limit (openArray path c scan) := by
  rw [openArray]
  split
  · exact inside_error _ _ _
  · split <;> exact inside_ok reached within behind

end Outcomes

theorem take_length {c : Byte} {rest word : List Byte} {count : Nat}
    (found : (c :: rest).take (count + 1) = word) (long : word.length = count + 1) :
    count ≤ rest.length := by
  rw [← found, List.length_take, List.length_cons] at long
  omega

theorem value_inside (c : Byte) (rest : List Byte) {scan : Scan} (behind : scan.j ≤ scan.i) :
    Inside scan.i (scan.i + rest.length + 1) (value path c rest scan) := by
  -- `j` is the place of this value or of one before it.
  have started : ∃ started : Scan, started.i = scan.i ∧ started.j ≤ scan.i ∧
      (if scan.depth = scan.ed then { scan with j := scan.i } else scan) = started := by
    split
    · exact ⟨{ scan with j := scan.i }, rfl, Nat.le_refl _, rfl⟩
    · exact ⟨scan, rfl, behind, rfl⟩
  obtain ⟨started, sameI, behindStart, same⟩ := started
  have here : ∀ count, count ≤ rest.length →
      Inside scan.i (scan.i + rest.length + 1)
        (endValue path { started with i := started.i + count }) := by
    intro count short
    apply endValue_inside
    all_goals
      simp only
      omega
  simp only [value, same]
  split
  · exact openObject_inside c (by omega) (by omega) (by omega)
  · split
    · exact openArray_inside c (by omega) (by omega) (by omega)
    · split
      · exact inside_bind (eoo_inside c (by omega) (by omega) (by omega))
          fun next reached within behindNext => endValue_inside reached within behindNext
      · split
        next found => exact here 3 (take_length found rfl)
        next =>
          split
          next found => exact here 3 (take_length found rfl)
          next =>
            split
            next found => exact here 4 (take_length found rfl)
            next =>
              split
              · apply here
                rw [mgAtodLength, List.length_cons]
                omega
              · split
                · split
                  · exact inside_error _ _ _
                  next n passed => exact here (n + 1) (mgPassString_lt passed)
                · exact inside_error _ _ _

theorem key_inside (c : Byte) (rest : List Byte) {scan : Scan} (behind : scan.j ≤ scan.i) :
    Inside scan.i (scan.i + rest.length + 1) (key path c rest scan) := by
  rw [key]
  split
  · split
    · exact inside_error _ _ _
    next n passed =>
      have short := mgPassString_lt passed
      split
      · exact inside_error _ _ _
      · split
        · exact inside_error _ _ _
        · split
          · exact inside_error _ _ _
          · apply inside_ok
            all_goals
              simp only
              omega
  · split
    · apply inside_map (eoo_inside c (by omega) (by omega) (by omega))
      intro next
      exact countElement_same _
    · exact inside_error _ _ _

theorem commaOrEoo_inside (c : Byte) (rest : List Byte) {scan : Scan} (behind : scan.j ≤ scan.i) :
    Inside scan.i (scan.i + rest.length + 1) (commaOrEoo path c scan) := by
  rw [commaOrEoo]
  split
  · exact inside_error _ _ _
  · split
    · exact inside_ok (Nat.le_refl _) (by simp only; omega) behind
    · split
      · split
        · exact inside_error _ _ _
        · split
          · exact inside_error _ _ _
          · exact inside_map (eoo_inside c (by omega) (by omega) behind) countElement_same
      · exact inside_error _ _ _

theorem round_inside (c : Byte) (rest : List Byte) {scan : Scan} (behind : scan.j ≤ scan.i) :
    Inside scan.i (scan.i + rest.length + 1) (round path c rest scan) := by
  rw [round]
  split
  · exact value_inside c rest behind
  · exact key_inside c rest behind
  · split
    · exact inside_ok (Nat.le_refl _) (by simp only; omega) behind
    · exact inside_error _ _ _
  · exact commaOrEoo_inside c rest behind

theorem loop_inside_text {total offset length : Nat} (list : List Byte) :
    ∀ (skip : Nat) (scan : Scan), scan.i + list.length = total + skip → scan.j ≤ scan.i →
      skip ≤ list.length → loop path skip list scan = .ok (offset, length) →
      0 < length ∧ offset + length ≤ total := by
  induction list with
  | nil =>
      intro skip scan position behind short found
      rw [loop] at found
      cases found
  | cons c rest inductionHypothesis =>
      intro skip scan position behind short found
      rw [List.length_cons] at position short
      cases skip with
      | succ skip =>
          rw [loop] at found
          exact inductionHypothesis skip scan (by omega) behind (by omega) found
      | zero =>
          rw [loop] at found
          split at found
          · refine inductionHypothesis 0 _ ?_ ?_ (Nat.zero_le _) found
            all_goals
              simp only
              omega
          · have inside := @round_inside path c rest scan behind
            cases outcome : round path c rest scan with
            | error result =>
                rw [outcome] at found inside
                simp only at found
                rw [found] at inside
                have bound := inside.2 offset length rfl
                omega
            | ok next =>
                rw [outcome] at found inside
                obtain ⟨reached, within, behindNext⟩ := inside.1 next rfl
                refine inductionHypothesis _ _ ?_ ?_ (by omega) found
                all_goals
                  simp only
                  omega

end Scan

/-- A token that is returned is not empty and stands inside the text. -/
theorem mgJsonGet_inside {json path : List Byte} {offset length : Nat}
    (found : mgJsonGet json path = .ok (offset, length)) :
    0 < length ∧ offset + length ≤ json.length := by
  rw [mgJsonGet] at found
  split at found
  · cases found
  · exact Scan.loop_inside_text json 0 _ (Nat.zero_add _) (Nat.le_refl _) (Nat.zero_le _) found

/-- Also of a text that breaks off, with a path that goes into an array. -/
theorem mgJsonGet_inside_broken :
    mgJsonGet [openBracket, 0x31, comma, 0x32] [dollar, openBracket, 0x31, closeBracket] =
        .ok (3, 1) ∧ 3 + 1 ≤ [openBracket, 0x31, comma, 0x32].length := by
  have found : mgJsonGet [openBracket, 0x31, comma, 0x32]
      [dollar, openBracket, 0x31, closeBracket] = .ok (3, 1) := by rfl
  exact ⟨found, (mgJsonGet_inside found).2⟩

end XBotFirmware.Api
