import XBotFirmware.Api.MgJson

set_option autoImplicit false

/-!
JSON texts as trees that keep their white space, and the tokens that they are made of.

The reader ends a number and a string where the text of the token ends, whatever stands
behind it.
-/

namespace XBotFirmware.Api

open XBotFirmware.Platform Ascii

def isNumberByte (c : Byte) : Bool :=
  isDigit c || c = plus || c = minus || c = dot || c = smallE || c = capitalE

/-- A number that ends here does not go on. -/
def Delimited (rest : List Byte) : Prop := ∀ c ∈ rest.head?, isNumberByte c = false

theorem delimited_cons {c : Byte} {rest : List Byte} (ends : isNumberByte c = false) :
    Delimited (c :: rest) := by
  intro first head
  rw [List.head?_cons, Option.mem_some_iff] at head
  rw [← head]
  exact ends

theorem isSpace_iff (c : Byte) :
    isSpace c = true ↔ c = space ∨ c = tab ∨ c = newline ∨ c = carriageReturn := by
  simp [isSpace, or_assoc]

theorem delimited_space {blank rest : List Byte} (spaces : ∀ c ∈ blank, isSpace c = true)
    (delimited : Delimited rest) : Delimited (blank ++ rest) := by
  cases blank with
  | nil => exact delimited
  | cons c others =>
      apply delimited_cons
      rcases (isSpace_iff c).mp (spaces c List.mem_cons_self) with rfl | rfl | rfl | rfl <;> decide

section Numbers

variable {rest : List Byte}

theorem skipIf_append {test : Byte → Bool} (p : List Byte)
    (stops : ∀ c ∈ rest.head?, test c = false) :
    skipIf test (p ++ rest) = skipIf test p ++ rest := by
  cases p with
  | nil =>
      cases rest with
      | nil => rfl
      | cons c others =>
          have stop : test c = false := stops c rfl
          simp [skipIf, stop]
  | cons c others =>
      simp only [List.cons_append, skipIf]
      split <;> rfl

theorem dropWhile_isDigit_append (p : List Byte) (stops : ∀ c ∈ rest.head?, isDigit c = false) :
    (p ++ rest).dropWhile isDigit = p.dropWhile isDigit ++ rest := by
  induction p with
  | nil =>
      cases rest with
      | nil => rfl
      | cons c others =>
          have stop : isDigit c = false := stops c rfl
          simp [stop]
  | cons c others inductionHypothesis =>
      rw [List.cons_append, List.dropWhile_cons, List.dropWhile_cons]
      split
      · exact inductionHypothesis
      · rfl

theorem dropExponentDigits_append (exp : Nat) (p : List Byte)
    (stops : ∀ c ∈ rest.head?, isDigit c = false) :
    dropExponentDigits exp (p ++ rest) = dropExponentDigits exp p ++ rest := by
  induction p generalizing exp with
  | nil =>
      cases rest with
      | nil => rfl
      | cons c others =>
          have stop : isDigit c = false := stops c rfl
          simp [dropExponentDigits, stop]
  | cons c others inductionHypothesis =>
      rw [List.cons_append, dropExponentDigits, dropExponentDigits]
      split
      · exact inductionHypothesis _
      · rfl

theorem not_numberByte {c : Byte} (ends : isNumberByte c = false) :
    isDigit c = false ∧ c ≠ plus ∧ c ≠ minus ∧ c ≠ dot ∧ c ≠ smallE ∧ c ≠ capitalE := by
  simpa [isNumberByte, and_assoc] using ends

theorem afterNumber_append (p : List Byte) (delimited : Delimited rest) :
    afterNumber (p ++ rest) = afterNumber p ++ rest := by
  have digits : ∀ c ∈ rest.head?, isDigit c = false :=
    fun c head => (not_numberByte (delimited c head)).1
  have signs : ∀ c ∈ rest.head?, (decide (c = minus) || decide (c = plus)) = false := by
    intro c head
    obtain ⟨_, noPlus, noMinus, _⟩ := not_numberByte (delimited c head)
    simp [noPlus, noMinus]
  have fraction : ∀ p : List Byte, dropFraction (p ++ rest) = dropFraction p ++ rest := by
    intro p
    cases p with
    | nil =>
        cases rest with
        | nil => rfl
        | cons c others =>
            have noDot := (not_numberByte (delimited c rfl)).2.2.2.1
            simp [dropFraction, noDot]
    | cons c others =>
        simp only [List.cons_append, dropFraction]
        split
        · exact dropWhile_isDigit_append others digits
        · rfl
  have exponent : ∀ p : List Byte, dropExponent (p ++ rest) = dropExponent p ++ rest := by
    intro p
    cases p with
    | nil =>
        cases rest with
        | nil => rfl
        | cons c others =>
            have noE := (not_numberByte (delimited c rfl)).2.2.2.2
            simp [dropExponent, noE.1, noE.2]
    | cons c others =>
        simp only [List.cons_append, dropExponent]
        split
        · rw [skipIf_append others, skipIf_append, dropExponentDigits_append 0 _ digits]
          · intro c head
            simpa using (not_numberByte (delimited c head)).2.1
          · intro c head
            simpa using (not_numberByte (delimited c head)).2.2.1
        · rfl
  unfold afterNumber
  rw [skipIf_append p signs, dropWhile_isDigit_append _ digits, fraction, exponent]

end Numbers

/-- The inside of a string that ends at the first quote that is not escaped. -/
def StringBody (body : List Byte) : Prop := mgPassString (body ++ [quote]) = .ok body.length

instance (body : List Byte) : Decidable (StringBody body) :=
  inferInstanceAs (Decidable (_ = _))

theorem mgPassString_quote (rest : List Byte) : mgPassString (quote :: rest) = .ok 0 := by
  cases rest with
  | nil => rfl
  | cons c others =>
      rw [mgPassString, if_neg (fun escape => absurd escape.1 (by decide)),
        if_neg (by decide), if_pos rfl]

theorem map_succ_eq_ok {result : Except JsonError Nat} {count n : Nat}
    (equal : result.map (· + count) = .ok (n + count)) : result = .ok n := by
  cases result with
  | error error => cases equal
  | ok found =>
      have same : found + count = n + count := by
        simpa only [Except.map, Except.ok.injEq] using equal
      rw [Nat.add_right_cancel same]

theorem mgPassString_append : ∀ (body rest : List Byte), StringBody body →
    mgPassString (body ++ quote :: rest) = .ok body.length
  | [], rest, _ => mgPassString_quote rest
  | [c], rest, isBody => by
      unfold StringBody at isBody
      simp only [List.cons_append, List.nil_append, mgPassString, List.length_singleton] at isBody ⊢
      split at isBody
      · cases isBody
      next plain =>
        rw [if_neg plain]
        split at isBody
        · cases isBody
        next notNul =>
          rw [if_neg notNul]
          split at isBody
          · cases isBody
          next notQuote =>
            rw [if_neg notQuote, mgPassString_quote]
            rfl
  | c :: escaped :: body, rest, isBody => by
      unfold StringBody at isBody
      simp only [List.cons_append, mgPassString, List.length_cons] at isBody ⊢
      split at isBody
      next escape =>
        have inner : StringBody body := map_succ_eq_ok isBody
        rw [if_pos escape, mgPassString_append body rest inner]
        rfl
      next plain =>
        rw [if_neg plain]
        split at isBody
        · cases isBody
        next notNul =>
          rw [if_neg notNul]
          split at isBody
          · cases isBody
          next notQuote =>
            have inner : StringBody (escaped :: body) := map_succ_eq_ok isBody
            rw [if_neg notQuote]
            have shorter := mgPassString_append (escaped :: body) rest inner
            rw [List.cons_append] at shorter
            rw [shorter]
            rfl

theorem not_mem_of_stringBody : ∀ {body : List Byte}, StringBody body → 0 ∉ body
  | [], _ => List.not_mem_nil
  | [c], isBody => by
      unfold StringBody at isBody
      simp only [List.cons_append, List.nil_append, mgPassString] at isBody
      split at isBody
      · cases isBody
      · split at isBody
        · cases isBody
        next notNul =>
          rw [List.mem_singleton]
          exact fun nul => notNul nul.symm
  | c :: escaped :: body, isBody => by
      unfold StringBody at isBody
      simp only [List.cons_append, mgPassString, List.length_cons] at isBody
      split at isBody
      next escape =>
        have inner : StringBody body := map_succ_eq_ok isBody
        have first : (0 : Byte) ≠ c := by
          rw [escape.1]
          decide
        have second : (0 : Byte) ≠ escaped := by
          intro nul
          exact escape.2 (nul ▸ rfl)
        simp only [List.mem_cons, not_or]
        exact ⟨first, second, not_mem_of_stringBody inner⟩
      next =>
        split at isBody
        · cases isBody
        next notNul =>
          split at isBody
          · cases isBody
          next =>
            have inner : StringBody (escaped :: body) := map_succ_eq_ok isBody
            rw [List.mem_cons, not_or]
            exact ⟨fun nul => notNul nul.symm, not_mem_of_stringBody inner⟩

mutual

inductive Json where
  | word (token : List Byte)
  | number (token : List Byte)
  | string (body : List Byte)
  | array (elements : Elements)
  | object (members : Members)

inductive Elements where
  | nil (blank : List Byte)
  | cons (before : List Byte) (value : Json) (after : List Byte) (rest : Elements)

inductive Members where
  | nil (blank : List Byte)
  | cons (before key between before' : List Byte) (value : Json) (after : List Byte)
      (rest : Members)

end

mutual

def Json.text : Json → List Byte
  | .word token => token
  | .number token => token
  | .string body => quote :: (body ++ [quote])
  | .array elements => openBracket :: (elements.text true ++ [closeBracket])
  | .object members => openBrace :: (members.text true ++ [closeBrace])

/-- The text of the elements, with a comma before each but the first one. -/
def Elements.text : Elements → Bool → List Byte
  | .nil blank, _ => blank
  | .cons before value after rest, first =>
      (if first then [] else [comma]) ++ (before ++ (value.text ++ (after ++ rest.text false)))

def Members.text : Members → Bool → List Byte
  | .nil blank, _ => blank
  | .cons before key between before' value after rest, first =>
      (if first then [] else [comma]) ++ (before ++ (quote :: (key ++ (quote :: (between ++
        (colon :: (before' ++ (value.text ++ (after ++ rest.text false)))))))))

end

/-- A member up to its value. -/
def memberLabel (first : Bool) (before key between before' : List Byte) : List Byte :=
  (if first then [] else [comma]) ++
    (before ++ (quote :: (key ++ (quote :: (between ++ (colon :: before'))))))

theorem Members.text_cons (before key between before' : List Byte) (value : Json)
    (after : List Byte) (rest : Members) (first : Bool) :
    (Members.cons before key between before' value after rest).text first =
      memberLabel first before key between before' ++
        (value.text ++ (after ++ rest.text false)) := by
  simp only [Members.text, memberLabel, List.append_assoc, List.cons_append]

mutual

/-- How many brackets are open at most inside the value. -/
def Json.height : Json → Nat
  | .word _ | .number _ | .string _ => 0
  | .array elements => elements.height + 1
  | .object members => members.height + 1

def Elements.height : Elements → Nat
  | .nil _ => 0
  | .cons _ value _ rest => max value.height rest.height

def Members.height : Members → Nat
  | .nil _ => 0
  | .cons _ _ _ _ value _ rest => max value.height rest.height

end

def isNumber : List Byte → Bool
  | [] => false
  | c :: rest => (c = minus || isDigit c) && afterNumber (c :: rest) = []

mutual

def Json.wellFormed : Json → Bool
  | .word token => token = wordTrue || token = wordFalse || token = wordNull
  | .number token => isNumber token
  | .string body => decide (StringBody body)
  | .array elements => elements.wellFormed
  | .object members => members.wellFormed

def Elements.wellFormed : Elements → Bool
  | .nil blank => blank.all isSpace
  | .cons before value after rest =>
      before.all isSpace && value.wellFormed && after.all isSpace && rest.wellFormed

def Members.wellFormed : Members → Bool
  | .nil blank => blank.all isSpace
  | .cons before key between before' value after rest =>
      before.all isSpace && decide (StringBody key) && between.all isSpace &&
        before'.all isSpace && value.wellFormed && after.all isSpace && rest.wellFormed

end

def Members.lookup? (name : List Byte) : Members → Option Json
  | .nil _ => none
  | .cons _ key _ _ value _ rest => if key = name then some value else rest.lookup? name

end XBotFirmware.Api
