import XBotFirmware.Api.Handlers

set_option autoImplicit false

/-!
What the API prints can be read back with its own readers.

`print_struct` is the text of a JSON object whose members are the attributes, so the reader
finds in it the value of each of them.
-/

namespace XBotFirmware.Api

open XBotFirmware.Platform XBotFirmware.Library Ascii

section Escaping

theorem mgEscape_cases (c : Byte) (escapes : mgEscape c ≠ 0) :
    mgEscape c ≠ 0x75 ∧ jsonEsc (mgEscape c) false = c ∧ c ≠ 0 ∧
      (jsonEsc (mgEscape c) true ≠ 0 ∨
        jsonEsc (mgEscape c) true = 0 ∧ mgEscape c ≠ backslash ∧ mgEscape c ≠ quote) := by
  revert c
  decide

theorem ne_of_mgEscape {c : Byte} (plain : mgEscape c = 0) : c ≠ backslash ∧ c ≠ quote := by
  constructor
  all_goals
    rintro rfl
    exact absurd plain (by decide)

def escaped (s : List Byte) : List Byte :=
  s.flatMap fun c => if mgEscape c ≠ 0 then [backslash, mgEscape c] else [c]

theorem escaped_cons (c : Byte) (s : List Byte) :
    escaped (c :: s) = (if mgEscape c ≠ 0 then [backslash, mgEscape c] else [c]) ++ escaped s :=
  List.flatMap_cons

theorem mgPassString_plain {c : Byte} (notBackslash : c ≠ backslash) (notNul : c ≠ 0)
    (notQuote : c ≠ quote) (next : Byte) (rest : List Byte) :
    mgPassString (c :: next :: rest) = (mgPassString (next :: rest)).map (· + 1) := by
  rw [mgPassString, if_neg (fun both => notBackslash both.1), if_neg notNul, if_neg notQuote]

theorem cons_of_append_quote (s : List Byte) : ∃ next rest, s ++ [quote] = next :: rest := by
  cases s with
  | nil => exact ⟨quote, [], rfl⟩
  | cons next rest => exact ⟨next, rest ++ [quote], rfl⟩

theorem stringBody_escaped {s : List Byte} (noNul : 0 ∉ s) : StringBody (escaped s) := by
  unfold StringBody
  induction s with
  | nil => rfl
  | cons c rest inductionHypothesis =>
      rw [List.mem_cons, not_or] at noNul
      have inner := inductionHypothesis noNul.2
      obtain ⟨next, others, tail⟩ := cons_of_append_quote (escaped rest)
      rw [tail] at inner
      rw [escaped_cons]
      by_cases escapes : mgEscape c ≠ 0
      · obtain ⟨_, _, _, pair | ⟨single, notBackslash, notQuote⟩⟩ := mgEscape_cases c escapes
        · rw [if_pos escapes, List.append_assoc, tail, List.cons_append, List.cons_append,
            List.nil_append, mgPassString, if_pos ⟨rfl, pair⟩, inner]
          simp only [Except.map, List.length_append, List.length_cons, List.length_nil]
          congr 1
          omega
        · rw [if_pos escapes, List.append_assoc, tail, List.cons_append, List.cons_append,
            List.nil_append, mgPassString, if_neg (fun both => both.2 single),
            if_neg (by decide), if_neg (by decide), mgPassString_plain notBackslash escapes
            notQuote, inner]
          simp only [Except.map, List.length_append, List.length_cons, List.length_nil]
          congr 1
          omega
      · obtain ⟨notBackslash, notQuote⟩ := ne_of_mgEscape (not_not.mp escapes)
        rw [if_neg escapes, List.append_assoc, tail, List.cons_append, List.nil_append,
          mgPassString_plain notBackslash (Ne.symm noNul.1) notQuote, inner]
        simp only [Except.map, List.length_append, List.length_cons, List.length_nil]
        congr 1
        omega

/-- `mg_json_unescape` takes back what `qcpy` escaped, if the buffer holds the NUL too. -/
theorem mgJsonUnescape_escaped {s : List Byte} {n : Nat} (room : s.length < n) :
    mgJsonUnescape (escaped s) n = (s ++ [0], true) := by
  induction s generalizing n with
  | nil =>
      cases n with
      | zero => cases room
      | succ n => rfl
  | cons c rest inductionHypothesis =>
      cases n with
      | zero => cases room
      | succ n =>
          have inner := inductionHypothesis (Nat.lt_of_succ_lt_succ room)
          rw [escaped_cons]
          by_cases escapes : mgEscape c ≠ 0
          · obtain ⟨notU, back, notNul, _⟩ := mgEscape_cases c escapes
            rw [if_pos escapes, List.cons_append, List.cons_append, List.nil_append,
              mgJsonUnescape, if_neg (fun all => notU all.2.2), if_pos ⟨rfl, Nat.succ_pos _⟩,
              List.headD_cons, back, if_neg notNul, List.tail_cons, inner]
            rfl
          · obtain ⟨notBackslash, _⟩ := ne_of_mgEscape (not_not.mp escapes)
            rw [if_neg escapes, List.cons_append, List.nil_append, mgJsonUnescape,
              if_neg (fun all => notBackslash all.1), if_neg (fun all => notBackslash all.1), inner]
            rfl

theorem escaped_eq_self {s : List Byte} (plain : ∀ c ∈ s, mgEscape c = 0) : escaped s = s := by
  induction s with
  | nil => rfl
  | cons c rest inductionHypothesis =>
      rw [escaped_cons, if_neg (not_not_intro (plain c List.mem_cons_self)),
        inductionHypothesis fun other membership => plain other (List.mem_cons_of_mem _ membership)]
      rfl

theorem zero_not_mem_cString (s : List Byte) : (0 : Byte) ∉ cString s := by
  intro membership
  have nonzero := List.mem_takeWhile_imp membership
  exact of_decide_eq_true nonzero rfl

end Escaping

section Numbers

theorem isDigit_digit {digit : Nat} (small : digit < 10) :
    isDigit (zero + BitVec.ofNat 8 digit) = true := by
  revert digit
  decide

theorem dropWhile_isDigit {p : List Byte} (digits : ∀ c ∈ p, isDigit c = true) :
    p.dropWhile isDigit = [] := List.dropWhile_eq_nil_iff.mpr digits

theorem isNumber_mgLld (val : Int) : isNumber (mgLld val) = true := by
  have digits : ∀ c ∈ ((Nat.digits 10 val.natAbs).map fun digit =>
      zero + BitVec.ofNat 8 digit).reverse ++ (if val = 0 then [zero] else []),
      isDigit c = true := by
    intro c membership
    rw [List.mem_append, List.mem_reverse, List.mem_map] at membership
    rcases membership with ⟨digit, inDigits, rfl⟩ | last
    · exact isDigit_digit (Nat.digits_lt_base (by decide) inDigits)
    · split at last
      · rw [List.mem_singleton.mp last]
        decide
      · cases last
  have nonempty : ((Nat.digits 10 val.natAbs).map fun digit =>
      zero + BitVec.ofNat 8 digit).reverse ++ (if val = 0 then [zero] else []) ≠ [] := by
    by_cases none : val = 0
    · rw [if_pos none]
      exact List.append_ne_nil_of_right_ne_nil _ (List.cons_ne_nil _ _)
    · have some : Nat.digits 10 val.natAbs ≠ [] :=
        Nat.digits_ne_nil_iff_ne_zero.mpr (Int.natAbs_ne_zero.mpr none)
      exact List.append_ne_nil_of_left_ne_nil
        (fun empty => some (List.map_eq_nil_iff.mp (List.reverse_eq_nil_iff.mp empty))) _
  unfold mgLld
  generalize ((Nat.digits 10 val.natAbs).map fun digit =>
    zero + BitVec.ofNat 8 digit).reverse ++ (if val = 0 then [zero] else []) = text
    at digits nonempty
  cases text with
  | nil => exact absurd rfl nonempty
  | cons c rest =>
      by_cases negative : val < 0
      · have ended : afterNumber (minus :: (c :: rest)) = [] := by
          rw [afterNumber, skipIf, if_pos (by decide), dropWhile_isDigit digits]
          rfl
        rw [if_pos negative]
        simp [isNumber, ended]
      · have first := digits c List.mem_cons_self
        have unsigned : (decide (c = minus) || decide (c = plus)) = false := by
          rw [Bool.or_eq_false_iff, decide_eq_false_iff_not, decide_eq_false_iff_not]
          constructor
          all_goals
            rintro rfl
            exact absurd first (by decide)
        have ended : afterNumber (c :: rest) = [] := by
          rw [afterNumber, skipIf, unsigned, if_neg Bool.false_ne_true, dropWhile_isDigit digits]
          rfl
        rw [if_neg negative]
        simp [isNumber, ended, first]

end Numbers

section Printing

variable (doubles : Doubles) (data : List Byte)

def attributeJson (a : Attribute) : Json :=
  match a.type with
  | .int => .number (mgLld (BitVec.ofNat 32 (leNat (field a.offset 4 data))).toInt)
  | .double => .number (doubles.mgDtoa (BitVec.ofNat 64 (leNat (field a.offset 8 data))))
  | .bool => .word (if data.getD a.offset 0 ≠ 0 then wordTrue else wordFalse)
  | .string => .string (qcpy (data.drop a.offset))
  | .other => .word wordNull

theorem attributeJson_text (a : Attribute) :
    (attributeJson doubles data a).text = printAttribute doubles data a := by
  unfold attributeJson printAttribute
  cases a.type <;> rw [Json.text]

theorem attributeJson_height (a : Attribute) : (attributeJson doubles data a).height = 0 := by
  unfold attributeJson
  cases a.type <;> rfl

def structMembers : List Attribute → Members
  | [] => .nil []
  | a :: rest => .cons [] (qcpy a.name) [] [] (attributeJson doubles data a) [] (structMembers rest)

theorem structMembers_text (first : Bool) (attributes : List Attribute) :
    (structMembers doubles data attributes).text first =
      printStruct doubles data first attributes := by
  induction attributes generalizing first with
  | nil => rfl
  | cons a rest inductionHypothesis =>
      rw [structMembers, Members.text, inductionHypothesis, attributeJson_text, printStruct]
      simp only [List.nil_append]

theorem structMembers_height (attributes : List Attribute) :
    (structMembers doubles data attributes).height = 0 := by
  induction attributes with
  | nil => rfl
  | cons a rest inductionHypothesis =>
      rw [structMembers, Members.height, inductionHypothesis, attributeJson_height]
      rfl

theorem printObject_eq (attributes : List Attribute) :
    printObject doubles attributes data =
      document [] (structMembers doubles data attributes) [newline] := by
  rw [printObject, document, structMembers_text]
  rfl

end Printing

section ReadBack

/-- A name of an attribute: it is printed as it is and fits into `jpath`. -/
structure PlainName (name : List Byte) : Prop where
  isPath : PathName name
  unescaped : ∀ c ∈ name, mgEscape c = 0
  short : name.length ≤ 97

def plainByte (c : Byte) : Bool := c ≠ 0 && c ≠ dot && c ≠ openBracket && mgEscape c = 0

theorem plainName_of_all {name : List Byte} (nonempty : name ≠ [])
    (plain : name.all plainByte = true) (short : name.length ≤ 97) : PlainName name := by
  have each : ∀ c ∈ name, (c ≠ 0 ∧ c ≠ dot ∧ c ≠ openBracket) ∧ mgEscape c = 0 := by
    intro c membership
    have one := List.all_eq_true.mp plain c membership
    simpa [plainByte, and_assoc] using one
  exact ⟨⟨nonempty, fun c membership => (each c membership).1⟩,
    fun c membership => (each c membership).2, short⟩

theorem ApiHandler.plainNames (h : ApiHandler) : ∀ a ∈ h.attributes, PlainName a.name := by
  have checked : h.attributes.all
      (fun a => a.name ≠ [] && a.name.all plainByte && a.name.length ≤ 97) = true := by
    cases h <;> decide
  intro a membership
  have one := List.all_eq_true.mp checked a membership
  simp only [Bool.and_eq_true, decide_eq_true_eq, and_assoc] at one
  exact plainName_of_all one.1 one.2.1 one.2.2

theorem ApiHandler.distinctNames (h : ApiHandler) :
    h.attributes.Pairwise fun first second => first.name ≠ second.name := by
  cases h <;> decide

variable {doubles : Doubles} {data : List Byte} {attributes : List Attribute} {a : Attribute}

theorem PlainName.qcpy_eq {name : List Byte} (plain : PlainName name) : qcpy name = name := by
  have same : qcpy name = escaped (cString name) := rfl
  rw [same, plain.isPath.cString_eq, escaped_eq_self plain.unescaped]

theorem PlainName.jpath_eq (plain : PlainName a.name) : jpath a = memberPath a.name := by
  rw [jpath, List.take_of_length_le]
  simp only [memberPath, List.length_cons]
  have short := plain.short
  omega

def Finite (doubles : Doubles) (data : List Byte) (attributes : List Attribute) : Prop :=
  ∀ a ∈ attributes, a.type = .double →
    isNumber (doubles.mgDtoa (BitVec.ofNat 64 (leNat (field a.offset 8 data)))) = true

theorem stringBody_qcpy (s : List Byte) : StringBody (qcpy s) :=
  stringBody_escaped (zero_not_mem_cString s)

theorem attributeJson_wellFormed (finite : Finite doubles data attributes)
    (membership : a ∈ attributes) : (attributeJson doubles data a).wellFormed = true := by
  unfold attributeJson
  cases type : a.type with
  | int => exact isNumber_mgLld _
  | double => exact finite a membership type
  | bool =>
      simp only [Json.wellFormed]
      split <;> rfl
  | string => exact decide_eq_true (stringBody_qcpy _)
  | other => rfl

theorem structMembers_wellFormed (finite : Finite doubles data attributes)
    {some : List Attribute} (among : some ⊆ attributes) :
    (structMembers doubles data some).wellFormed = true := by
  induction some with
  | nil => rfl
  | cons a rest inductionHypothesis =>
      have value := attributeJson_wellFormed finite (among List.mem_cons_self)
      have others := inductionHypothesis fun other member => among (List.mem_cons_of_mem _ member)
      simp only [structMembers, Members.wellFormed, value, others, List.all_nil,
        decide_eq_true (stringBody_qcpy a.name), Bool.and_self]

theorem structMembers_lookup (plain : ∀ a ∈ attributes, PlainName a.name)
    (distinct : attributes.Pairwise fun first second => first.name ≠ second.name)
    (membership : a ∈ attributes) :
    (structMembers doubles data attributes).lookup? a.name =
      some (attributeJson doubles data a) := by
  induction attributes with
  | nil => cases membership
  | cons first rest inductionHypothesis =>
      obtain ⟨differs, restDistinct⟩ := List.pairwise_cons.mp distinct
      rw [structMembers, Members.lookup?, (plain first List.mem_cons_self).qcpy_eq]
      rcases List.mem_cons.mp membership with rfl | later
      · rw [if_pos rfl]
      · rw [if_neg (differs a later)]
        exact inductionHypothesis (fun other member => plain other (List.mem_cons_of_mem _ member))
          restDistinct later

/-- The token of an attribute stands in the reply. -/
theorem mgJsonGet_printObject (plain : ∀ a ∈ attributes, PlainName a.name)
    (distinct : attributes.Pairwise fun first second => first.name ≠ second.name)
    (finite : Finite doubles data attributes) (membership : a ∈ attributes) :
    ∃ front back,
      printObject doubles attributes data = front ++ (printAttribute doubles data a ++ back) ∧
      mgJsonGet (printObject doubles attributes data) (jpath a) =
        .ok (front.length, (printAttribute doubles data a).length) := by
  have isPlain := plain a membership
  have found := (@mgJsonGet_document a.name [] _ isPlain.isPath rfl
    (structMembers_wellFormed finite (List.Subset.refl _))
    (by rw [structMembers_height]; decide) [newline]).1 _
    (structMembers_lookup plain distinct membership)
  rw [attributeJson_text, ← printObject_eq, ← isPlain.jpath_eq] at found
  exact found

end ReadBack

section Tokens

variable {doubles : Doubles} {json path front token back : List Byte}

theorem mgJsonGetTok_of_found (split : json = front ++ (token ++ back))
    (found : mgJsonGet json path = .ok (front.length, token.length)) :
    mgJsonGetTok json path = token := by
  rw [mgJsonGetTok, found]
  simp only
  rw [split, List.drop_left, List.take_left]

theorem getD_of_found (split : json = front ++ (token ++ back)) (nonempty : token ≠ []) :
    json.getD front.length 0 = token.headD 0 := by
  cases token with
  | nil => exact absurd rfl nonempty
  | cons c rest =>
      rw [split, List.getD_append_right _ _ _ _ (Nat.le_refl _), Nat.sub_self]
      rfl

theorem mgJsonGetNum_of_found (split : json = front ++ (token ++ back)) (nonempty : token ≠ [])
    (found : mgJsonGet json path = .ok (front.length, token.length)) :
    mgJsonGetNum doubles json path =
      if token.headD 0 = minus ∨ isDigit (token.headD 0) = true then some (doubles.mgAtod token)
      else none := by
  have read := mgJsonGetTok_of_found split found
  rw [mgJsonGetTok, found] at read
  simp only at read
  rw [mgJsonGetNum, found]
  simp only
  rw [getD_of_found split nonempty, read]

theorem mgJsonGetBool_of_found (split : json = front ++ (token ++ back)) (nonempty : token ≠ [])
    (found : mgJsonGet json path = .ok (front.length, token.length)) :
    mgJsonGetBool json path =
      if token.headD 0 = 0x74 ∨ token.headD 0 = 0x66 then some (decide (token.headD 0 = 0x74))
      else none := by
  rw [mgJsonGetBool, found]
  simp only
  rw [getD_of_found split nonempty]

theorem mgJsonGetStr2_of_found {body : List Byte} (quoted : token = quote :: (body ++ [quote]))
    (split : json = front ++ (token ++ back))
    (found : mgJsonGet json path = .ok (front.length, token.length)) (len : Nat) :
    mgJsonGetStr2 json path len = some (mgJsonUnescape body len).1 := by
  rw [mgJsonGetStr2, mgJsonGetTok_of_found split found, quoted]
  simp only [List.length_cons, List.length_append, List.length_nil, List.headD_cons,
    List.tail_cons]
  rw [if_pos ⟨by omega, trivial⟩]
  have inner : (body ++ [quote]).take (body.length + (0 + 1) + 1 - 2) = body := by
    have length : body.length + (0 + 1) + 1 - 2 = body.length := by omega
    rw [length, List.take_left]
  rw [inner]

theorem numberStart {token : List Byte} (number : isNumber token = true) :
    token ≠ [] ∧ (token.headD 0 = minus ∨ isDigit (token.headD 0) = true) := by
  cases token with
  | nil => cases number
  | cons c rest =>
      simp only [isNumber, Bool.and_eq_true, Bool.or_eq_true, decide_eq_true_eq] at number
      exact ⟨List.cons_ne_nil _ _, number.1⟩

end Tokens

/-- Each attribute of a handler is read back from its reply as it was printed: a number by
its text, a truth value and a string as they were. -/
theorem reply_reads_back (h : ApiHandler) {doubles : Doubles} {data : List Byte}
    (finite : Finite doubles data h.attributes) {a : Attribute} (membership : a ∈ h.attributes) :
    let reply := printObject doubles h.attributes data
    mgJsonGetTok reply (jpath a) = printAttribute doubles data a ∧
    (a.type = .int ∨ a.type = .double →
      mgJsonGetNum doubles reply (jpath a) =
        some (doubles.mgAtod (printAttribute doubles data a))) ∧
    (a.type = .bool → mgJsonGetBool reply (jpath a) = some (decide (data.getD a.offset 0 ≠ 0))) ∧
    (a.type = .string → ∀ len, (cString (data.drop a.offset)).length < len →
      mgJsonGetStr2 reply (jpath a) len = some (cString (data.drop a.offset) ++ [0])) := by
  obtain ⟨front, back, split, found⟩ :=
    mgJsonGet_printObject h.plainNames h.distinctNames finite membership
  have wellFormed := attributeJson_wellFormed finite membership
  refine ⟨mgJsonGetTok_of_found split found, ?_, ?_, ?_⟩
  · intro numeric
    have number : isNumber (printAttribute doubles data a) = true := by
      rw [← attributeJson_text]
      unfold attributeJson at wellFormed ⊢
      rcases numeric with type | type
      all_goals
        rw [type] at wellFormed ⊢
        exact wellFormed
    obtain ⟨nonempty, start⟩ := numberStart number
    rw [mgJsonGetNum_of_found split nonempty found, if_pos start]
  · intro type
    have word : printAttribute doubles data a =
        if data.getD a.offset 0 ≠ 0 then wordTrue else wordFalse := by
      rw [printAttribute, type]
    rw [word] at split found
    by_cases set : data.getD a.offset 0 ≠ 0
    · rw [if_pos set] at split found
      rw [mgJsonGetBool_of_found split (by decide) found, decide_eq_true set]
      rfl
    · rw [if_neg set] at split found
      rw [mgJsonGetBool_of_found split (by decide) found, decide_eq_false set]
      rfl
  · intro type len room
    have quoted : printAttribute doubles data a =
        quote :: (escaped (cString (data.drop a.offset)) ++ [quote]) := by
      rw [printAttribute, type]
      rfl
    rw [mgJsonGetStr2_of_found quoted split found, mgJsonUnescape_escaped room]

def zeroDoubles : Doubles := ⟨fun _ => 0, fun _ => [zero], fun _ => 0⟩

def quotedState : List Byte :=
  1 :: (List.replicate 15 0 ++ ([quote, backslash, newline] ++ List.replicate 53 0))

theorem reply_reads_back_quoted :
    mgJsonGetStr2 (printObject zeroDoubles stateAttributes quotedState)
      (jpath ⟨bytesOf "charger_state", .string, 16, 20⟩) 20 =
        some [quote, backslash, newline, 0] :=
  (reply_reads_back .state (fun _ _ _ => rfl) (by decide)).2.2.2 rfl 20 (by decide)

end XBotFirmware.Api
