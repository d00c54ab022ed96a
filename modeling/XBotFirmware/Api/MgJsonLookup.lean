import Mathlib.Data.List.GetD
import XBotFirmware.Api.MgJsonScan

set_option autoImplicit false

/-!
What `mg_json_get` finds in a text with an object.

The members of the outer object are followed one after another; the values between them are
passed as a whole, so a key that stands deeper is never taken for one of them.
-/

namespace XBotFirmware.Api

open XBotFirmware.Platform Ascii

/-- A name that the path `$.name` can have: no separator and no end of a string in it. -/
structure PathName (name : List Byte) : Prop where
  nonempty : name ≠ []
  plain : ∀ c ∈ name, c ≠ 0 ∧ c ≠ dot ∧ c ≠ openBracket

def memberPath (name : List Byte) : List Byte := dollar :: dot :: name

theorem PathName.cString_eq {name : List Byte} (isName : PathName name) : cString name = name :=
  cString_of_noNul fun nul => (isName.plain 0 nul).1 rfl

namespace Scan

section Lookup

variable {path name : List Byte}

theorem pathAt_memberPath (offset : Nat) :
    pathAt (memberPath name) (offset + 2) = name.getD offset 0 := rfl

/-- The scan stands among the members of the outer object. -/
structure AmongMembers (scan : Scan) : Prop where
  nested : scan.nesting = [openBrace]
  depth : scan.ed = 1
  pos : scan.pos = 2
  uncounted : scan.ci = -1 ∧ scan.ei = -1

theorem AmongMembers.here {scan : Scan} (among : AmongMembers scan) : scan.depth = scan.ed := by
  rw [Scan.depth, among.nested, among.depth]
  rfl

theorem AmongMembers.moved {scan : Scan} (among : AmongMembers scan) (count : Nat)
    (expecting : Expecting) : AmongMembers (scan.moved count expecting) :=
  ⟨among.nested, among.depth, among.pos, among.uncounted⟩

/-- Of the keys only the name itself is taken for it, not one that begins like it. -/
theorem AmongMembers.names_iff {scan : Scan} (among : AmongMembers scan)
    (isName : PathName name) (key : List Byte) :
    Names (memberPath name) scan key ↔ key = name := by
  rw [Names, among.pos, Nat.add_comm 2, pathAt_memberPath]
  constructor
  · rintro ⟨_, _, start, ended⟩
    have whole : (Platform.cString name).take key.length = key := start
    rw [isName.cString_eq] at whole
    rcases Nat.lt_or_ge key.length name.length with shorter | covers
    · have inName : name.getD key.length 0 ∈ name := by
        rw [List.getD_eq_getElem _ _ shorter]
        exact List.getElem_mem shorter
      obtain ⟨noNul, noDot, noBracket⟩ := isName.plain _ inName
      rcases ended with nul | separator | bracket
      · exact absurd nul noNul
      · exact absurd separator noDot
      · exact absurd bracket noBracket
    · rw [List.take_of_length_le covers] at whole
      exact whole.symm
  · rintro rfl
    refine ⟨among.here, rfl, ?_, .inl ?_⟩
    · have whole : (Platform.cString key).take key.length = key := by
        rw [isName.cString_eq, List.take_length]
      exact whole
    · rw [List.getD_eq_default _ _ (Nat.le_refl _)]

theorem AmongMembers.opens {scan : Scan} (among : AmongMembers scan) (isName : PathName name) :
    Opens (memberPath name) scan where
  below := Nat.le_of_eq among.here.symm
  notInto := by
    intro _
    cases name with
    | nil => exact absurd rfl isName.nonempty
    | cons c others =>
        rw [among.pos]
        exact (isName.plain c List.mem_cons_self).2

theorem AmongMembers.pass {scan : Scan} (among : AmongMembers scan) (isName : PathName name)
    {json : Json} (wellFormed : json.wellFormed = true) (room : 1 + json.height ≤ mgJsonMaxDepth)
    (expected : scan.expecting = .value) {after rest : List Byte}
    (spaces : after.all isSpace = true) (delimited : Delimited rest) :
    ∃ next, loop (memberPath name) 0 (json.text ++ (after ++ rest)) scan =
        loop (memberPath name) 0 rest next ∧
      AmongMembers next ∧ next.expecting = .commaOrEoo ∧
      next.i = scan.i + (json.text.length + after.length) := by
  have started : AmongMembers scan.start := by
    rw [start, if_pos among.here]
    exact ⟨among.nested, among.depth, among.pos, among.uncounted⟩
  have room' : scan.depth + json.height ≤ mgJsonMaxDepth := by
    rw [among.here, among.depth]
    exact room
  have unwanted : pathAt (memberPath name) 2 ≠ 0 := by
    cases name with
    | nil => exact absurd rfl isName.nonempty
    | cons c others => exact (isName.plain c List.mem_cons_self).1
  have positive := text_pos wellFormed
  refine ⟨scan.start.moved (json.text.length - 1 + 1 + after.length) .commaOrEoo, ?_,
    started.moved _ _, rfl, ?_⟩
  · rw [loop_json json wellFormed (delimited_space (List.all_eq_true.mp spaces) delimited)
      (among.opens isName) expected room',
      @finish_passes (memberPath name) (scan.start.moved _ _) ?_, loop_space spaces]
    · simp only [moved_moved, moved_expecting]
    · intro _
      refine ⟨?_, ?_⟩
      · have pos : (scan.start.moved (json.text.length - 1) .value).pos = 2 := started.pos
        rw [pos]
        exact unwanted
      · have uncounted : (scan.start.moved (json.text.length - 1) .value).ei = -1 :=
          started.uncounted.2
        rw [uncounted]
        decide
  · have same : scan.start.i = scan.i := (start_fields scan).1
    rw [Scan.moved]
    simp only [same]
    omega

theorem AmongMembers.take {scan : Scan} (among : AmongMembers scan)
    {json : Json} (wellFormed : json.wellFormed = true) (room : 1 + json.height ≤ mgJsonMaxDepth)
    (expected : scan.expecting = .value) {rest : List Byte} (delimited : Delimited rest) :
    loop (memberPath name) 0 (json.text ++ rest) { scan with pos := 2 + name.length } =
      .ok (scan.i, json.text.length) := by
  have ended : pathAt (memberPath name) (2 + name.length) = 0 := by
    rw [Nat.add_comm, pathAt_memberPath, List.getD_eq_default _ _ (Nat.le_refl _)]
  have here : ({ scan with pos := 2 + name.length } : Scan).depth = scan.ed := among.here
  have opens : Opens (memberPath name) { scan with pos := 2 + name.length } := by
    refine ⟨Nat.le_of_eq here.symm, fun _ => ?_⟩
    rw [ended]
    decide
  have room' : ({ scan with pos := 2 + name.length } : Scan).depth + json.height ≤
      mgJsonMaxDepth := by
    rw [here, among.depth]
    exact room
  have positive := text_pos wellFormed
  rw [loop_json json wellFormed delimited opens expected room', start, if_pos here, finish_wanted]
  · simp only [Scan.moved, Except.ok.injEq, Prod.mk.injEq, true_and]
    omega
  · exact here
  · exact ended
  · exact among.uncounted.1.trans among.uncounted.2.symm

theorem loop_outside {scan : Scan} (outside : scan.nesting = [])
    (expected : scan.expecting = .commaOrEoo) (rest : List Byte) :
    ∃ error, loop path 0 rest scan = .error error := by
  induction rest generalizing scan with
  | nil => exact ⟨.notFound, rfl⟩
  | cons c others inductionHypothesis =>
      by_cases blank : isSpace c = true
      · rw [loop, if_pos blank]
        exact inductionHypothesis outside expected
      · refine ⟨.invalid, loop_returns (Bool.not_eq_true _ ▸ blank) ?_⟩
        simp only [round, expected, commaOrEoo]
        rw [outside]

theorem AmongMembers.atEnd {scan : Scan} (among : AmongMembers scan) (rest : List Byte)
    (expected : scan.expecting = .key ∨ scan.expecting = .commaOrEoo) :
    ∃ error, loop (memberPath name) 0 (closeBrace :: rest) scan = .error error := by
  rcases expected with key | comma
  · have closed : scan.round (memberPath name) closeBrace rest =
        .ok { scan with nesting := [], expecting := .commaOrEoo } := by
      have outside : ¬0 = scan.ed := by
        rw [among.depth]
        decide
      have same : scan.ci = scan.ei := among.uncounted.1.trans among.uncounted.2.symm
      simp only [round, key, Scan.key, eoo]
      rw [if_neg (by decide), if_pos trivial, if_neg (fun both => both.2 same), among.nested]
      simp only
      rw [if_neg (by decide), checkRet, if_neg (fun both => outside both.1)]
      simp only [Except.map, countElement]
      rw [if_neg (fun both => outside both.1)]
    rw [@loop_round _ closeBrace rest scan _ 0 (by decide) closed rfl]
    exact loop_outside rfl rfl _
  · refine ⟨.notFound, loop_returns (by decide) ?_⟩
    simp only [round, comma, commaOrEoo]
    rw [among.nested]
    have separator : pathAt (memberPath name) (scan.pos - 1) = dot := among.pos ▸ rfl
    simp only
    rw [if_neg (by decide), if_pos (.inr trivial), if_pos ⟨among.here, trivial, separator⟩]

/-- The first member with the name is found behind the members before it. -/
theorem loop_lookup_some (isName : PathName name) : ∀ (members : Members),
    members.wellFormed = true → 1 + members.height ≤ mgJsonMaxDepth →
    ∀ {found : Json}, members.lookup? name = some found →
    ∀ (rest : List Byte) {scan : Scan}, AmongMembers scan → ∀ {first : Bool},
    scan.expecting = (if first then .key else .commaOrEoo) →
    ∃ front back, members.text first = front ++ (found.text ++ back) ∧
      loop (memberPath name) 0 (members.text first ++ (closeBrace :: rest)) scan =
        .ok (scan.i + front.length, found.text.length)
  | .nil blank, _, _, _, lookup, _, _, _, _, _ => by cases lookup
  | .cons before key between before' value after others, wellFormed, room, found, lookup, rest,
      scan, among, first, expected => by
      simp only [Members.wellFormed, Bool.and_eq_true, decide_eq_true_eq, and_assoc] at wellFormed
      obtain ⟨spaces, isKey, blank, blank', isValue, spaces', isRest⟩ := wellFormed
      rw [Members.height] at room
      have delimited := delimited_members isRest rest
      have label := fun tail => @loop_label (memberPath name) scan _ _ _ _ _ among.nested _
        expected spaces isKey blank blank' (Nat.le_of_eq among.here.symm)
        (fun _ => among.pos ▸ rfl) tail
      rw [Members.lookup?] at lookup
      by_cases same : key = name
      · rw [if_pos same] at lookup
        cases lookup
        have names := (among.names_iff isName key).mpr same
        refine ⟨memberLabel first before key between before', after ++ others.text false,
          Members.text_cons .., ?_⟩
        simp only [Members.text_cons, List.append_assoc]
        rw [label, named, if_pos names, among.pos, same]
        exact (among.moved _ .value).take isValue (by omega) rfl
          (delimited_space (List.all_eq_true.mp spaces') delimited)
      · rw [if_neg same] at lookup
        have names := fun named => same ((among.names_iff isName key).mp named)
        obtain ⟨next, passed, amongNext, expectedNext, position⟩ :=
          (among.moved (memberLabel first before key between before').length .value).pass isName
            isValue (by omega) rfl spaces' delimited
        obtain ⟨front, back, split, outcome⟩ := @loop_lookup_some isName others isRest (by omega)
          _ lookup rest _ amongNext false expectedNext
        refine ⟨memberLabel first before key between before' ++ (value.text ++ (after ++ front)),
          back, ?_, ?_⟩
        · rw [Members.text_cons, split]
          simp only [List.append_assoc]
        · simp only [Members.text_cons, List.append_assoc]
          rw [label, named, if_neg names]
          refine passed.trans (outcome.trans ?_)
          rw [position]
          simp only [moved, List.length_append, Except.ok.injEq, Prod.mk.injEq, and_true]
          omega

theorem loop_lookup_none (isName : PathName name) : ∀ (members : Members),
    members.wellFormed = true → 1 + members.height ≤ mgJsonMaxDepth →
    members.lookup? name = none →
    ∀ (rest : List Byte) {scan : Scan}, AmongMembers scan → ∀ {first : Bool},
    scan.expecting = (if first then .key else .commaOrEoo) →
    ∃ error, loop (memberPath name) 0 (members.text first ++ (closeBrace :: rest)) scan =
      .error error
  | .nil blank, wellFormed, _, _, rest, scan, among, first, expected => by
      rw [Members.text, loop_space wellFormed]
      exact (among.moved _ _).atEnd rest (by cases first <;> simp [expected])
  | .cons before key between before' value after others, wellFormed, room, lookup, rest,
      scan, among, first, expected => by
      simp only [Members.wellFormed, Bool.and_eq_true, decide_eq_true_eq, and_assoc] at wellFormed
      obtain ⟨spaces, isKey, blank, blank', isValue, spaces', isRest⟩ := wellFormed
      rw [Members.height] at room
      rw [Members.lookup?] at lookup
      have differs : key ≠ name := by
        intro same
        rw [if_pos same] at lookup
        cases lookup
      rw [if_neg differs] at lookup
      have names := fun named => differs ((among.names_iff isName key).mp named)
      obtain ⟨next, passed, amongNext, expectedNext, _⟩ :=
        (among.moved (memberLabel first before key between before').length .value).pass isName
          isValue (by omega) rfl spaces' (delimited_members isRest rest)
      obtain ⟨error, outcome⟩ := @loop_lookup_none isName others isRest (by omega) lookup rest _
        amongNext false expectedNext
      refine ⟨error, ?_⟩
      simp only [Members.text_cons, List.append_assoc]
      rw [@loop_label (memberPath name) scan _ _ _ _ _ among.nested _ expected spaces isKey blank
        blank' (Nat.le_of_eq among.here.symm) (fun _ => among.pos ▸ rfl), named, if_neg names]
      exact passed.trans outcome

theorem loop_outer (name : List Byte) {blank : List Byte} (spaces : blank.all isSpace = true)
    (rest : List Byte) :
    ∃ scan, loop (memberPath name) 0 (blank ++ (openBrace :: rest))
        ⟨0, 0, [], 0, 1, -1, -1, .value⟩ = loop (memberPath name) 0 rest scan ∧
      AmongMembers scan ∧ scan.expecting = .key ∧ scan.i = blank.length + 1 := by
  let outer : Scan := ⟨0 + blank.length, 0 + blank.length, [openBrace], 1, 2, -1, -1, .key⟩
  refine ⟨{ outer with i := 0 + blank.length + 0 + 1 }, ?_, ⟨rfl, rfl, rfl, rfl, rfl⟩, rfl, ?_⟩
  · rw [loop_space spaces]
    have opened : (Scan.moved ⟨0, 0, [], 0, 1, -1, -1, .value⟩ blank.length .value).round
        (memberPath name) openBrace rest = .ok outer := rfl
    exact @loop_round _ openBrace rest _ _ 0 (by decide) opened rfl
  · simp only
    omega

end Lookup

end Scan

open Scan

def document (blank : List Byte) (members : Members) (rest : List Byte) : List Byte :=
  blank ++ (openBrace :: (members.text true ++ (closeBrace :: rest)))

/-- The token at `$.name` is the value of the first member with the name, whatever stands
before it, and there is no token when no member has the name. -/
theorem mgJsonGet_document {name blank : List Byte} {members : Members} (isName : PathName name)
    (spaces : blank.all isSpace = true) (wellFormed : members.wellFormed = true)
    (room : members.height < mgJsonMaxDepth) (rest : List Byte) :
    (∀ found, members.lookup? name = some found →
      ∃ front back, document blank members rest = front ++ (found.text ++ back) ∧
        mgJsonGet (document blank members rest) (memberPath name) =
          .ok (front.length, found.text.length)) ∧
    (members.lookup? name = none →
      ∃ error, mgJsonGet (document blank members rest) (memberPath name) = .error error) := by
  have roomInside : 1 + members.height ≤ mgJsonMaxDepth := by omega
  obtain ⟨scan, opened, among, expected, position⟩ :=
    loop_outer name spaces (members.text true ++ (closeBrace :: rest))
  have scanned : mgJsonGet (document blank members rest) (memberPath name) =
      loop (memberPath name) 0 (members.text true ++ (closeBrace :: rest)) scan := opened
  rw [scanned]
  constructor
  · intro found lookup
    obtain ⟨front, back, split, outcome⟩ := @loop_lookup_some _ isName members wellFormed
      roomInside found lookup rest scan among true expected
    refine ⟨blank ++ (openBrace :: front), back ++ (closeBrace :: rest), ?_, ?_⟩
    · rw [document, split]
      simp only [List.append_assoc, List.cons_append]
    · rw [outcome, position, List.length_append, List.length_cons, Nat.add_assoc,
        Nat.add_comm 1]
  · intro lookup
    exact @loop_lookup_none _ isName members wellFormed roomInside lookup rest scan among true
      expected

/-- The members of a text that has the key `b` also in an inner object. -/
def nestedMembers : Members :=
  .cons [space] [0x61] [] [space] (.object (.cons [] [0x62] [] [] (.number [0x31]) [] (.nil []))) []
    (.cons [] [0x62] [] [] (.string [0x78]) [] (.nil []))

theorem mgJsonGet_document_nested :
    ∃ front back, document [] nestedMembers [] = front ++ ((Json.string [0x78]).text ++ back) ∧
      mgJsonGet (document [] nestedMembers []) (memberPath [0x62]) = .ok (front.length, 3) :=
  (mgJsonGet_document ⟨by decide, by decide⟩ rfl rfl (by decide) []).1 (.string [0x78]) rfl

end XBotFirmware.Api
