import XBotFirmware.Api.MgJsonText

set_option autoImplicit false

/-!
The scan over a whole value.

The scan passes over a value that it does not look for, however deep, and comes out in the
state it had before it, at the last character of the value.
-/

namespace XBotFirmware.Api

open XBotFirmware.Platform Ascii

namespace Scan

variable {path : List Byte}

theorem loop_skip (skip : Nat) (list : List Byte) (scan : Scan) :
    loop path skip list scan = loop path 0 (list.drop skip) scan := by
  induction list generalizing skip with
  | nil =>
      rw [List.drop_nil, loop, loop]
  | cons c rest inductionHypothesis =>
      cases skip with
      | zero => rfl
      | succ skip => exact inductionHypothesis skip

/-- The scan some characters further, before something else. -/
def moved (scan : Scan) (count : Nat) (expecting : Expecting) : Scan :=
  { scan with i := scan.i + count, expecting := expecting }

@[simp]
theorem moved_moved (scan : Scan) (count further : Nat) (expecting expecting' : Expecting) :
    (scan.moved count expecting).moved further expecting' =
      scan.moved (count + further) expecting' := by
  simp only [moved, Nat.add_assoc]

def popped (scan : Scan) : Scan := { scan with nesting := scan.nesting.tail }

@[simp]
theorem popped_moved (scan : Scan) (count : Nat) (expecting : Expecting) :
    (scan.moved count expecting).popped = scan.popped.moved count expecting := rfl

@[simp]
theorem moved_expecting (scan : Scan) (count : Nat) (expecting : Expecting) :
    (scan.moved count expecting).expecting = expecting := rfl

theorem loop_space {blank : List Byte} (spaces : blank.all isSpace = true) (rest : List Byte)
    (scan : Scan) :
    loop path 0 (blank ++ rest) scan =
      loop path 0 rest (scan.moved blank.length scan.expecting) := by
  induction blank generalizing scan with
  | nil => rfl
  | cons c others inductionHypothesis =>
      rw [List.all_cons, Bool.and_eq_true] at spaces
      rw [List.cons_append, loop, if_pos spaces.1, inductionHypothesis spaces.2, List.length_cons,
        Nat.add_comm others.length, ← moved_moved scan 1 others.length scan.expecting]
      rfl

theorem loop_round {c : Byte} {rest : List Byte} {scan next : Scan} {passed : Nat}
    (solid : isSpace c = false) (round : scan.round path c rest = .ok next)
    (moved : next.i = scan.i + passed) :
    loop path 0 (c :: rest) scan =
      loop path 0 (rest.drop passed) { next with i := scan.i + passed + 1 } := by
  rw [loop, if_neg (by rw [solid]; exact Bool.false_ne_true), round]
  simp only
  rw [loop_skip, moved, Nat.add_sub_cancel_left]

theorem loop_returns {c : Byte} {rest : List Byte} {scan : Scan} {result : JsonResult}
    (solid : isSpace c = false) (round : scan.round path c rest = .error result) :
    loop path 0 (c :: rest) scan = result := by
  rw [loop, if_neg (by rw [solid]; exact Bool.false_ne_true), round]

variable (path) in
/-- A value that starts here is at the end of the path or not on it. -/
structure Opens (scan : Scan) : Prop where
  below : scan.ed ≤ scan.depth
  notInto : scan.depth = scan.ed → pathAt path scan.pos ≠ dot ∧ pathAt path scan.pos ≠ openBracket

theorem Opens.of_lt {scan : Scan} (inside : scan.ed < scan.depth) : Opens path scan where
  below := Nat.le_of_lt inside
  notInto := fun here => absurd here.symm (Nat.ne_of_lt inside)

variable (path) in
def finish (rest : List Byte) (scan : Scan) : JsonResult :=
  match endValue path scan with
  | .error result => result
  | .ok next => loop path 0 rest { next with i := next.i + 1 }

theorem finish_passes {scan : Scan} (passes : scan.depth = scan.ed →
    pathAt path scan.pos ≠ 0 ∧ scan.ei < 0) (rest : List Byte) :
    finish path rest scan = loop path 0 rest (scan.moved 1 .commaOrEoo) := by
  have unchecked : scan.checkRet path = .ok scan := by
    rw [checkRet, if_neg]
    rintro ⟨here, ended, _⟩
    exact (passes here).1 ended
  have uncounted : scan.countElement = scan := by
    rw [countElement, if_neg]
    rintro ⟨here, counting⟩
    exact absurd (passes here).2 (Int.not_lt.mpr counting)
  have ended : endValue path scan = .ok { scan with expecting := .commaOrEoo } := by
    rw [endValue, unchecked]
    exact congrArg (fun counted : Scan => Except.ok { counted with expecting := .commaOrEoo })
      uncounted
  rw [finish, ended]
  rfl

theorem finish_wanted {scan : Scan} (here : scan.depth = scan.ed)
    (ended : pathAt path scan.pos = 0) (same : scan.ci = scan.ei) (rest : List Byte) :
    finish path rest scan = .ok (scan.j, scan.i - scan.j + 1) := by
  have returned : endValue path scan = .error (.ok (scan.j, scan.i - scan.j + 1)) := by
    rw [endValue, checkRet, if_pos ⟨here, ended, same⟩]
    rfl
  rw [finish, returned]

/-- The first step of the case `S_VALUE`. -/
def start (scan : Scan) : Scan :=
  if scan.depth = scan.ed then { scan with j := scan.i } else scan

theorem start_of_lt {scan : Scan} (inside : scan.ed < scan.depth) : scan.start = scan :=
  if_neg (Nat.ne_of_gt inside)

theorem value_word {token : List Byte} (isWord : token = wordTrue ∨ token = wordFalse ∨
    token = wordNull) (rest : List Byte) (scan : Scan) :
    ∃ c others, token = c :: others ∧ isSpace c = false ∧
      value path c (others ++ rest) scan =
        endValue path { scan.start with i := scan.start.i + others.length } := by
  rcases isWord with rfl | rfl | rfl
  all_goals
    refine ⟨_, _, rfl, by decide, ?_⟩
    simp [value, start, openBrace, openBracket, closeBracket, wordTrue, wordFalse, wordNull]

theorem ne_of_numberStart {c other : Byte} (first : c = minus ∨ isDigit c = true)
    (differs : other ≠ minus ∧ isDigit other = false) : c ≠ other := by
  rintro rfl
  rcases first with sign | digit
  · exact differs.1 sign
  · exact Bool.false_ne_true (differs.2.symm.trans digit)

theorem value_plain {c : Byte} {rest : List Byte}
    (other : ∀ byte ∈ [openBrace, openBracket, closeBracket, 0x74, 0x6E, 0x66], c ≠ byte)
    (scan : Scan) :
    value path c rest scan =
      if c = minus ∨ isDigit c = true then
        endValue path { scan.start with i := scan.start.i + (mgAtodLength (c :: rest) - 1) }
      else if c = quote then
        match mgPassString rest with
        | .error error => .error (.error error)
        | .ok n => endValue path { scan.start with i := scan.start.i + (n + 1) }
      else .error (.error .invalid) := by
  have notWord : ∀ {first : Byte} {count : Nat} {word : List Byte}, c ≠ first →
      (c :: rest).take (count + 1) ≠ first :: word :=
    fun differs same => differs (List.cons.inj same).1
  have notTrue : (c :: rest).take 4 ≠ wordTrue := notWord (other _ (by decide))
  have notNull : (c :: rest).take 4 ≠ wordNull := notWord (other _ (by decide))
  have notFalse : (c :: rest).take 5 ≠ wordFalse := notWord (other _ (by decide))
  unfold value
  rw [if_neg (other openBrace (by decide)), if_neg (other openBracket (by decide)),
    if_neg (fun close => other closeBracket (by decide) close.1), if_neg notTrue, if_neg notNull,
    if_neg notFalse]
  rfl

theorem value_number {token rest : List Byte} (number : isNumber token = true)
    (delimited : Delimited rest) (scan : Scan) :
    ∃ c others, token = c :: others ∧ isSpace c = false ∧
      value path c (others ++ rest) scan =
        endValue path { scan.start with i := scan.start.i + others.length } := by
  cases token with
  | nil => cases number
  | cons c others =>
      simp only [isNumber, Bool.and_eq_true, Bool.or_eq_true, decide_eq_true_eq] at number
      obtain ⟨first, ended⟩ := number
      have length : mgAtodLength (c :: (others ++ rest)) = others.length + 1 := by
        unfold mgAtodLength
        rw [← List.cons_append, afterNumber_append _ delimited, ended]
        simp only [List.cons_append, List.length_cons, List.length_append, List.nil_append]
        omega
      have other : ∀ {byte : Byte}, byte ≠ minus ∧ isDigit byte = false → c ≠ byte :=
        ne_of_numberStart first
      refine ⟨c, others, rfl, ?_, ?_⟩
      · rw [← Bool.not_eq_true, isSpace_iff]
        rintro (blank | blank | blank | blank) <;> exact other (by decide) blank
      · rw [value_plain (by simpa using ⟨other (by decide), other (by decide), other (by decide),
          other (by decide), other (by decide), other (by decide)⟩), if_pos first, length,
          Nat.add_sub_cancel]

theorem value_string {body : List Byte} (isBody : StringBody body) (rest : List Byte)
    (scan : Scan) :
    value path quote ((body ++ [quote]) ++ rest) scan =
      endValue path { scan.start with i := scan.start.i + (body ++ [quote]).length } := by
  have passed : mgPassString ((body ++ [quote]) ++ rest) = .ok body.length := by
    rw [List.append_assoc]
    exact mgPassString_append body rest isBody
  rw [value_plain (by decide), if_neg (by decide), if_pos rfl, passed, List.length_append,
    List.length_singleton]

theorem value_scalar {json : Json} (wellFormed : json.wellFormed = true) (flat : json.height = 0)
    {rest : List Byte} (delimited : Delimited rest) (scan : Scan) :
    ∃ c others, json.text = c :: others ∧ isSpace c = false ∧
      value path c (others ++ rest) scan =
        endValue path { scan.start with i := scan.start.i + others.length } := by
  cases json with
  | word token =>
      simp only [Json.wellFormed, Bool.or_eq_true, decide_eq_true_eq, or_assoc] at wellFormed
      exact value_word wellFormed rest scan
  | number token => exact value_number wellFormed delimited scan
  | string body =>
      have isBody : StringBody body := of_decide_eq_true wellFormed
      exact ⟨quote, body ++ [quote], rfl, by decide, value_string isBody rest scan⟩
  | array elements => cases flat
  | object members => cases flat

theorem start_fields (scan : Scan) :
    scan.start.i = scan.i ∧ scan.start.nesting = scan.nesting ∧ scan.start.ed = scan.ed ∧
      scan.start.pos = scan.pos ∧ scan.start.expecting = scan.expecting := by
  unfold start
  split <;> exact ⟨rfl, rfl, rfl, rfl, rfl⟩

theorem Opens.start {scan : Scan} (opens : Opens path scan) : Opens path scan.start := by
  unfold Scan.start
  split
  · exact ⟨opens.below, opens.notInto⟩
  · exact opens

theorem Opens.openArray {scan : Scan} (opens : Opens path scan)
    (room : scan.depth < mgJsonMaxDepth) (c : Byte) :
    openArray path c scan = .ok { scan with nesting := c :: scan.nesting } := by
  rw [Scan.openArray, if_neg (Nat.not_le.mpr room), if_neg]
  rintro ⟨here, bracket, _⟩
  exact (opens.notInto here).2 bracket

theorem Opens.openObject {scan : Scan} (opens : Opens path scan)
    (room : scan.depth < mgJsonMaxDepth) (c : Byte) :
    openObject path c scan =
      .ok { scan with nesting := c :: scan.nesting, expecting := .key } := by
  rw [Scan.openObject, if_neg (Nat.not_le.mpr room), if_neg]
  rintro ⟨here, separator, _⟩
  exact (opens.notInto here).1 separator

theorem countElement_expecting (scan : Scan) (expecting : Expecting) :
    ({ scan with expecting := expecting } : Scan).countElement =
      { scan.countElement with expecting := expecting } := by
  unfold countElement
  by_cases counted : scan.depth = scan.ed ∧ 0 ≤ scan.ei
  · rw [if_pos counted]
    exact if_pos counted
  · rw [if_neg counted]
    exact if_neg counted

theorem endValue_i {scan next : Scan} (ended : endValue path scan = .ok next) :
    next.i = scan.i := by
  unfold endValue checkRet at ended
  split at ended
  · cases ended
  · cases ended
    simp only [countElement]
    split <;> rfl

theorem loop_finish {c : Byte} {rest : List Byte} {scan ended : Scan} {passed : Nat}
    (solid : isSpace c = false) (round : scan.round path c rest = endValue path ended)
    (moved : ended.i = scan.i + passed) :
    loop path 0 (c :: rest) scan = finish path (rest.drop passed) ended := by
  unfold finish
  cases outcome : endValue path ended with
  | error result => exact loop_returns solid (round.trans outcome)
  | ok next =>
      have same : next.i = scan.i + passed := (endValue_i outcome).trans moved
      rw [loop_round solid (round.trans outcome) same]
      simp only [same]

/-- What is expected before the end of an array or an object. -/
def Closable (top : Byte) (expecting : Expecting) : Prop :=
  expecting = .commaOrEoo ∨ (top = openBracket ∧ expecting = .value) ∨
    (top = openBrace ∧ expecting = .key)

theorem round_close {scan : Scan} {top : Byte} {below rest : List Byte}
    (bracket : top = openBracket ∨ top = openBrace) (nested : scan.nesting = top :: below)
    (inside : scan.ed < scan.depth) (closable : Closable top scan.expecting) :
    scan.round path (top + 2) rest = endValue path scan.popped := by
  have deeper : ¬scan.depth = scan.ed := Nat.ne_of_gt inside
  have closed : eoo path (top + 2) scan = checkRet path scan.popped := by
    rw [eoo, if_neg (fun both => deeper both.1), popped, nested]
    exact if_neg (not_not_intro rfl)
  have unopened : top + 2 ≠ openBrace ∧ top + 2 ≠ openBracket ∧ top + 2 ≠ quote ∧
      top + 2 ≠ comma ∧ (top + 2 = closeBracket ∨ top + 2 = closeBrace) := by
    rcases bracket with rfl | rfl <;> decide
  rcases closable with expected | ⟨rfl, expected⟩ | ⟨rfl, expected⟩
  · have ends : scan.round path (top + 2) rest = (eoo path (top + 2) scan).map countElement := by
      simp only [round, expected, commaOrEoo]
      rw [nested]
      simp only
      rw [if_neg unopened.2.2.2.1, if_pos unopened.2.2.2.2, if_neg (fun both => deeper both.1),
        if_neg (fun both => deeper both.1)]
    rw [ends, closed, endValue, checkRet]
    split
    · rfl
    · simp only [Except.map, countElement, popped, expected]
      split <;> rfl
  · have ends : scan.round path (openBracket + 2) rest =
        (eoo path (openBracket + 2) scan).bind (endValue path) := by
      have positive : 0 < scan.depth := Nat.zero_lt_of_lt inside
      simp only [round, expected, value]
      rw [if_neg unopened.1, if_neg unopened.2.1, if_neg deeper]
      exact if_pos ⟨rfl, positive⟩
    rw [ends, closed, checkRet]
    split
    next wanted =>
      rw [endValue, checkRet, if_pos wanted]
      rfl
    next => rfl
  · have ends : scan.round path (openBrace + 2) rest =
        (eoo path (openBrace + 2) scan).map
          fun scan => { scan with expecting := .commaOrEoo }.countElement := by
      simp only [round, expected, key]
      rw [if_neg unopened.2.2.1]
      exact if_pos rfl
    rw [ends, closed, endValue, checkRet]
    split
    · rfl
    · exact congrArg Except.ok (countElement_expecting _ _)

theorem loop_close {scan : Scan} {top : Byte} {below rest : List Byte}
    (bracket : top = openBracket ∨ top = openBrace) (nested : scan.nesting = top :: below)
    (inside : scan.ed < scan.depth) (closable : Closable top scan.expecting) :
    loop path 0 ((top + 2) :: rest) scan = finish path rest scan.popped := by
  have solid : isSpace (top + 2) = false := by rcases bracket with rfl | rfl <;> decide
  have ends := @round_close path scan top below rest bracket nested inside closable
  exact @loop_finish path (top + 2) rest scan _ 0 solid ends rfl

def expectedFirst (top : Byte) : Expecting := if top = openBrace then .key else .value

theorem expectedFirst_openBrace : expectedFirst openBrace = .key := rfl

theorem expectedFirst_openBracket : expectedFirst openBracket = .value := rfl

theorem loop_comma {scan : Scan} {top : Byte} {below : List Byte}
    (expected : scan.expecting = .commaOrEoo) (nested : scan.nesting = top :: below)
    (rest : List Byte) :
    loop path 0 (comma :: rest) scan =
      loop path 0 rest (scan.moved 1 (expectedFirst top)) := by
  have passed : scan.round path comma rest =
      .ok { scan with expecting := expectedFirst top } := by
    simp only [round, expected, commaOrEoo]
    rw [nested]
    exact if_pos trivial
  exact @loop_round path comma rest scan _ 0 (by decide) passed rfl

theorem loop_colon {scan : Scan} (expected : scan.expecting = .colon) (rest : List Byte) :
    loop path 0 (Ascii.colon :: rest) scan =
      loop path 0 rest (scan.moved 1 .value) := by
  have passed : scan.round path Ascii.colon rest = .ok { scan with expecting := .value } := by
    simp only [round, expected]
    exact if_pos trivial
  exact @loop_round path Ascii.colon rest scan _ 0 (by decide) passed rfl

def Names (path : List Byte) (scan : Scan) (key : List Byte) : Prop :=
  scan.depth = scan.ed ∧ pathAt path (scan.pos - 1) = dot ∧
    (cString (path.drop scan.pos)).take key.length = key ∧
    (pathAt path (scan.pos + key.length) = 0 ∨ pathAt path (scan.pos + key.length) = dot ∨
      pathAt path (scan.pos + key.length) = openBracket)

instance (scan : Scan) (key : List Byte) : Decidable (Names path scan key) :=
  inferInstanceAs (Decidable (_ ∧ _))

variable (path) in
def named (scan : Scan) (key : List Byte) : Scan :=
  { scan with pos := if Names path scan key then scan.pos + key.length else scan.pos }

theorem named_inside {scan : Scan} (inside : scan.ed < scan.depth) (key : List Byte) :
    scan.named path key = scan := by
  rw [named, if_neg]
  exact fun names => Nat.ne_of_gt inside names.1

theorem strncmp_key {body : List Byte} (isBody : StringBody body) (rest other : List Byte) :
    strncmp (body ++ rest) other body.length = 0 ↔
      (cString other).take body.length = body := by
  have whole : (cString (body ++ rest)).take body.length = body := by
    rw [cString_append (not_mem_of_stringBody isBody), List.take_left]
  rw [strncmp_eq_zero_iff, whole, eq_comm]

theorem loop_key {scan : Scan} {body : List Byte} (isBody : StringBody body)
    (expected : scan.expecting = .key) (below : scan.ed ≤ scan.depth)
    (member : scan.depth = scan.ed → pathAt path (scan.pos - 1) = dot) (rest : List Byte) :
    loop path 0 (quote :: (body ++ (quote :: rest))) scan =
      loop path 0 rest ((scan.named path body).moved (body.length + 2) .colon) := by
  have found := mgPassString_append body rest isBody
  have passed : scan.round path quote (body ++ (quote :: rest)) =
      .ok ((scan.named path body).moved (body.length + 1) .colon) := by
    have short : ¬(body ++ (quote :: rest)).length ≤ body.length := by
      rw [List.length_append, List.length_cons]
      omega
    simp only [round, expected, key, found]
    rw [if_pos trivial, if_neg short, if_neg (Nat.not_lt.mpr below),
      if_neg (fun both => both.2 (member both.1))]
    simp only [moved, named]
    congr 2
    refine if_congr ?_ rfl rfl
    rw [Names, strncmp_key isBody]
  have behind : (body ++ (quote :: rest)).drop (body.length + 1) = rest := by
    rw [← List.singleton_append, ← List.append_assoc]
    exact List.drop_left' (by rw [List.length_append, List.length_singleton])
  rw [loop_round (by decide) passed rfl, behind]
  rfl

theorem loop_scalar {json : Json} (wellFormed : json.wellFormed = true) (flat : json.height = 0)
    {rest : List Byte} (delimited : Delimited rest) {scan : Scan}
    (expected : scan.expecting = .value) :
    loop path 0 (json.text ++ rest) scan =
      finish path rest (scan.start.moved (json.text.length - 1) .value) := by
  obtain ⟨c, others, text, solid, round⟩ := value_scalar wellFormed flat delimited scan
  have passed : scan.round path c (others ++ rest) =
      endValue path { scan.start with i := scan.start.i + others.length } := by
    rw [Scan.round, expected]
    exact round
  rw [text, List.cons_append, loop_finish solid passed (by rw [(start_fields scan).1]),
    List.drop_left, List.length_cons, Nat.add_sub_cancel, moved, ← expected,
    ← (start_fields scan).2.2.2.2]

theorem loop_separator {scan : Scan} {top : Byte} {below : List Byte}
    (nested : scan.nesting = top :: below) {first : Bool}
    (expected : scan.expecting = if first then expectedFirst top else .commaOrEoo)
    (rest : List Byte) :
    loop path 0 ((if first then [] else [comma]) ++ rest) scan =
      loop path 0 rest
        (scan.moved (if first then [] else [comma]).length (expectedFirst top)) := by
  cases first with
  | false => exact loop_comma expected nested rest
  | true =>
      rw [if_pos rfl] at expected
      rw [if_pos rfl, ← expected]
      rfl

theorem endValue_expecting (scan : Scan) (expecting : Expecting) :
    endValue path { scan with expecting := expecting } = endValue path scan := by
  unfold endValue checkRet
  by_cases wanted : scan.depth = scan.ed ∧ pathAt path scan.pos = 0 ∧ scan.ci = scan.ei
  · rw [if_pos wanted]
    exact congrArg _ (if_pos wanted)
  · rw [if_neg wanted]
    refine (congrArg _ (if_neg wanted)).trans ?_
    simp only [Except.map, countElement_expecting]

/-- What was expected before a value that ends does not matter. -/
theorem finish_moved (rest : List Byte) (scan : Scan) (count : Nat)
    (expecting expecting' : Expecting) :
    finish path rest (scan.moved count expecting) =
      finish path rest (scan.moved count expecting') := by
  have same : endValue path (scan.moved count expecting) =
      endValue path (scan.moved count expecting') :=
    endValue_expecting (scan.moved count expecting') expecting
  rw [finish, finish, same]

/-- Inside brackets, an end of a value is never wanted. -/
theorem finish_inside {scan : Scan} (inside : scan.ed < scan.depth) (rest : List Byte) :
    finish path rest scan = loop path 0 rest (scan.moved 1 .commaOrEoo) :=
  finish_passes (fun here => absurd here (Nat.ne_of_gt inside)) rest

theorem loop_end {scan : Scan} {top : Byte} {below blank : List Byte}
    (bracket : top = openBracket ∨ top = openBrace) (nested : scan.nesting = top :: below)
    (inside : scan.ed < scan.depth) {first : Bool}
    (expected : scan.expecting = if first then expectedFirst top else .commaOrEoo)
    (spaces : blank.all isSpace = true) (rest : List Byte) :
    loop path 0 (blank ++ ((top + 2) :: rest)) scan =
      finish path rest (scan.popped.moved blank.length .commaOrEoo) := by
  have closable : Closable top scan.expecting := by
    cases first with
    | false => exact .inl expected
    | true =>
        rcases bracket with rfl | rfl
        · exact .inr (.inl ⟨rfl, expected⟩)
        · exact .inr (.inr ⟨rfl, expected⟩)
  rw [loop_space spaces, @loop_close path (scan.moved _ _) top below rest bracket nested inside
    closable, popped_moved]
  exact finish_moved rest scan.popped blank.length scan.expecting .commaOrEoo

theorem text_pos {json : Json} (wellFormed : json.wellFormed = true) : 0 < json.text.length := by
  cases json with
  | word token =>
      simp only [Json.wellFormed, Bool.or_eq_true, decide_eq_true_eq, or_assoc] at wellFormed
      rcases wellFormed with rfl | rfl | rfl <;> decide
  | number token =>
      cases token with
      | nil => cases wellFormed
      | cons c others => exact Nat.succ_pos _
  | string body => exact Nat.succ_pos _
  | array elements => exact Nat.succ_pos _
  | object members => exact Nat.succ_pos _

theorem delimited_elements {elements : Elements} (wellFormed : elements.wellFormed = true)
    (rest : List Byte) : Delimited (elements.text false ++ (closeBracket :: rest)) := by
  cases elements with
  | nil blank =>
      exact delimited_space (List.all_eq_true.mp wellFormed) (delimited_cons (by decide))
  | cons before value after others => exact delimited_cons (by decide)

theorem delimited_members {members : Members} (wellFormed : members.wellFormed = true)
    (rest : List Byte) : Delimited (members.text false ++ (closeBrace :: rest)) := by
  cases members with
  | nil blank =>
      exact delimited_space (List.all_eq_true.mp wellFormed) (delimited_cons (by decide))
  | cons before key between before' value after others => exact delimited_cons (by decide)

def enter (top : Byte) (scan : Scan) : Scan :=
  { scan.start with nesting := top :: scan.nesting }.moved 1 (expectedFirst top)

theorem enter_depth (top : Byte) (scan : Scan) : (scan.enter top).depth = scan.depth + 1 := rfl

theorem Opens.enter_inside {scan : Scan} (opens : Opens path scan) (top : Byte) :
    (scan.enter top).ed < (scan.enter top).depth := by
  have same : (scan.enter top).ed = scan.ed := (start_fields scan).2.2.1
  rw [same, enter_depth]
  exact Nat.lt_succ_of_le opens.below

theorem loop_open {scan : Scan} {top : Byte} (bracket : top = openBracket ∨ top = openBrace)
    (opens : Opens path scan) (expected : scan.expecting = .value)
    (room : scan.depth < mgJsonMaxDepth) (rest : List Byte) :
    loop path 0 (top :: rest) scan = loop path 0 rest (scan.enter top) := by
  obtain ⟨sameI, sameNesting, _, _, sameExpecting⟩ := start_fields scan
  have startRoom : scan.start.depth < mgJsonMaxDepth := by
    rw [depth, sameNesting]
    exact room
  have solid : isSpace top = false := by rcases bracket with rfl | rfl <;> decide
  have passed : scan.round path top rest = .ok { scan.start with
      nesting := top :: scan.nesting
      expecting := expectedFirst top } := by
    rw [Scan.round, expected]
    rcases bracket with rfl | rfl
    · refine Eq.trans ?_ (opens.start.openArray startRoom openBracket) |>.trans ?_
      · simp only [value]
        rw [if_neg (by decide), if_pos trivial]
        rfl
      · rw [sameNesting, expectedFirst, if_neg (by decide), ← expected, ← sameExpecting]
    · refine Eq.trans ?_ (opens.start.openObject startRoom openBrace) |>.trans ?_
      · simp only [value]
        rw [if_pos trivial]
        rfl
      · rw [sameNesting, expectedFirst, if_pos rfl]
  rw [@loop_round path top rest scan _ 0 solid passed sameI, enter, moved, ← sameI]
  rfl

theorem finish_enter (rest : List Byte) (scan : Scan) (top : Byte) (count : Nat)
    (expecting : Expecting) :
    finish path rest ((scan.enter top).popped.moved count expecting) =
      finish path rest (scan.start.moved (1 + count) .value) := by
  have same : (scan.enter top).popped.moved count expecting =
      scan.start.moved (1 + count) expecting := by
    rw [← moved_moved scan.start 1 count (expectedFirst top) expecting]
    simp only [enter, popped, moved, List.tail_cons, (start_fields scan).2.1]
  rw [same]
  exact finish_moved rest scan.start (1 + count) expecting .value

theorem named_moved (scan : Scan) (count : Nat) (expecting : Expecting) (key : List Byte) :
    (scan.moved count expecting).named path key = (scan.named path key).moved count expecting :=
  rfl

theorem loop_label {scan : Scan} {below before key between before' : List Byte}
    (nested : scan.nesting = openBrace :: below) {first : Bool}
    (expected : scan.expecting = if first then .key else .commaOrEoo)
    (spaces : before.all isSpace = true) (isKey : StringBody key)
    (blank : between.all isSpace = true) (blank' : before'.all isSpace = true)
    (inObject : scan.ed ≤ scan.depth)
    (member : scan.depth = scan.ed → pathAt path (scan.pos - 1) = dot) (rest : List Byte) :
    loop path 0 (memberLabel first before key between before' ++ rest) scan =
      loop path 0 rest ((scan.named path key).moved
        (memberLabel first before key between before').length .value) := by
  simp only [memberLabel, List.append_assoc, List.cons_append]
  rw [loop_separator nested expected, loop_space spaces, moved_moved, moved_expecting,
    expectedFirst_openBrace, @loop_key path (scan.moved _ _) _ isKey rfl inObject member,
    loop_space blank, loop_colon rfl, loop_space blank', named_moved]
  simp only [moved_moved, moved_expecting]
  congr 2
  simp only [List.length_append, List.length_cons]
  omega

theorem loop_inside {json : Json} {after rest : List Byte}
    (passes : ∀ {scan : Scan}, Opens path scan → scan.expecting = .value →
      scan.depth + json.height ≤ mgJsonMaxDepth →
      loop path 0 (json.text ++ (after ++ rest)) scan =
        finish path (after ++ rest) (scan.start.moved (json.text.length - 1) .value))
    (positive : 0 < json.text.length) {scan : Scan} (inside : scan.ed < scan.depth)
    (room : scan.depth + json.height ≤ mgJsonMaxDepth) (spaces : after.all isSpace = true)
    (count : Nat) :
    loop path 0 (json.text ++ (after ++ rest)) (scan.moved count .value) =
      loop path 0 rest (scan.moved (count + json.text.length + after.length) .commaOrEoo) := by
  have insideHere : (scan.moved count .value).ed < (scan.moved count .value).depth := inside
  have length : json.text.length = json.text.length - 1 + 1 := (Nat.sub_add_cancel positive).symm
  rw [passes (Opens.of_lt insideHere) rfl room, start_of_lt insideHere, moved_moved,
    @finish_inside path (scan.moved _ _) inside, moved_moved, loop_space spaces, moved_moved,
    moved_expecting]
  rw [Nat.add_assoc count, ← length]

mutual

/-- The scan comes out of a value where it went in, at the value's last character. -/
theorem loop_json : ∀ (json : Json), json.wellFormed = true → ∀ {rest : List Byte},
    Delimited rest → ∀ {scan : Scan}, Opens path scan → scan.expecting = .value →
    scan.depth + json.height ≤ mgJsonMaxDepth →
    loop path 0 (json.text ++ rest) scan =
      finish path rest (scan.start.moved (json.text.length - 1) .value)
  | .word token, wellFormed, rest, delimited, scan, _, expected, _ =>
      loop_scalar wellFormed rfl delimited expected
  | .number token, wellFormed, rest, delimited, scan, _, expected, _ =>
      loop_scalar wellFormed rfl delimited expected
  | .string body, wellFormed, rest, delimited, scan, _, expected, _ =>
      loop_scalar wellFormed rfl delimited expected
  | .array elements, wellFormed, rest, delimited, scan, opens, expected, room => by
      rw [Json.height] at room
      have length : (Json.array elements).text.length - 1 = 1 + (elements.text true).length := by
        simp only [Json.text, List.length_cons, List.length_append, List.length_nil]
        omega
      have inner := @loop_elements elements wellFormed rest (scan.enter openBracket) scan.nesting
        rfl (opens.enter_inside _) true rfl (by rw [enter_depth]; omega)
      rw [length, Json.text, List.cons_append, List.append_assoc, List.singleton_append,
        loop_open (.inl rfl) opens expected (by omega), inner, finish_enter]
  | .object members, wellFormed, rest, delimited, scan, opens, expected, room => by
      rw [Json.height] at room
      have length : (Json.object members).text.length - 1 = 1 + (members.text true).length := by
        simp only [Json.text, List.length_cons, List.length_append, List.length_nil]
        omega
      have inner := @loop_members members wellFormed rest (scan.enter openBrace) scan.nesting
        rfl (opens.enter_inside _) true rfl (by rw [enter_depth]; omega)
      rw [length, Json.text, List.cons_append, List.append_assoc, List.singleton_append,
        loop_open (.inr rfl) opens expected (by omega), inner, finish_enter]

theorem loop_elements : ∀ (elements : Elements), elements.wellFormed = true →
    ∀ (rest : List Byte) {scan : Scan} {below : List Byte},
    scan.nesting = openBracket :: below → scan.ed < scan.depth → ∀ {first : Bool},
    scan.expecting = (if first then .value else .commaOrEoo) →
    scan.depth + elements.height ≤ mgJsonMaxDepth →
    loop path 0 (elements.text first ++ (closeBracket :: rest)) scan =
      finish path rest (scan.popped.moved (elements.text first).length .commaOrEoo)
  | .nil blank, wellFormed, rest, scan, below, nested, inside, first, expected, _ =>
      loop_end (.inl rfl) nested inside expected wellFormed rest
  | .cons before value after others, wellFormed, rest, scan, below, nested, inside, first,
      expected, room => by
      simp only [Elements.wellFormed, Bool.and_eq_true, and_assoc] at wellFormed
      obtain ⟨spaces, isValue, spaces', isRest⟩ := wellFormed
      rw [Elements.height] at room
      have delimited := delimited_space (List.all_eq_true.mp spaces')
        (delimited_elements isRest rest)
      have passed := loop_inside
        (fun {scan} => @loop_json value isValue _ delimited scan) (text_pos isValue) inside
        (Nat.le_trans (Nat.add_le_add_left (Nat.le_max_left _ _) _) room) spaces'
      have further := fun count => @loop_elements others isRest rest
        (scan.moved count .commaOrEoo) below nested inside false rfl
        (Nat.le_trans (Nat.add_le_add_left (Nat.le_max_right _ _) _) room)
      simp only [Elements.text, List.append_assoc, List.length_append]
      rw [loop_separator nested expected, loop_space spaces, moved_moved, moved_expecting,
        expectedFirst_openBracket, passed, further, popped_moved, moved_moved]
      simp only [Nat.add_assoc]

theorem loop_members : ∀ (members : Members), members.wellFormed = true →
    ∀ (rest : List Byte) {scan : Scan} {below : List Byte},
    scan.nesting = openBrace :: below → scan.ed < scan.depth → ∀ {first : Bool},
    scan.expecting = (if first then .key else .commaOrEoo) →
    scan.depth + members.height ≤ mgJsonMaxDepth →
    loop path 0 (members.text first ++ (closeBrace :: rest)) scan =
      finish path rest (scan.popped.moved (members.text first).length .commaOrEoo)
  | .nil blank, wellFormed, rest, scan, below, nested, inside, first, expected, _ =>
      loop_end (.inr rfl) nested inside expected wellFormed rest
  | .cons before key between before' value after others, wellFormed, rest, scan, below, nested,
      inside, first, expected, room => by
      simp only [Members.wellFormed, Bool.and_eq_true, decide_eq_true_eq, and_assoc] at wellFormed
      obtain ⟨spaces, isKey, blank, blank', isValue, spaces', isRest⟩ := wellFormed
      rw [Members.height] at room
      have delimited := delimited_space (List.all_eq_true.mp spaces')
        (delimited_members isRest rest)
      have passed := loop_inside
        (fun {scan} => @loop_json value isValue _ delimited scan) (text_pos isValue) inside
        (Nat.le_trans (Nat.add_le_add_left (Nat.le_max_left _ _) _) room) spaces'
      have further := fun count => @loop_members others isRest rest
        (scan.moved count .commaOrEoo) below nested inside false rfl
        (Nat.le_trans (Nat.add_le_add_left (Nat.le_max_right _ _) _) room)
      simp only [Members.text_cons, List.append_assoc, List.length_append]
      rw [loop_label nested expected spaces isKey blank blank' (Nat.le_of_lt inside)
          (fun here => absurd here (Nat.ne_of_gt inside)), named_inside inside, passed, further,
        popped_moved, moved_moved]
      simp only [Nat.add_assoc]

end

end Scan

end XBotFirmware.Api
