import XBotFirmware.Json.Document

set_option autoImplicit false

/-!
What `ProcessJson` lets through.

The loop goes on over the characters whose events are accepted and that neither
complete nor break the document.  The first other character decides the result;
without one the loop falls through to its last return.
-/

namespace XBotFirmware.Json

def isWhitespace (c : Char) : Bool := c = ' ' || c = '\t' || c = '\r' || c = '\n'

section

variable {ParserState Data : Type} (parser : StreamParser ParserState)
  (callback : Event → Data → Option (Data × Reply))

/-- The parser reads characters that neither complete nor break the document. -/
inductive Reads : ParserState → List Char → ParserState → Prop
  | nil {state : ParserState} : Reads state [] state
  | cons {state final : ParserState} {c : Char} {rest : List Char} :
      (parser.parse state c).2.1 ≠ .streamDone → (parser.parse state c).2.1.isError = false →
      Reads (parser.parse state c).1 rest final → Reads state (c :: rest) final

/-- A prefix completes the document without an error before, and only whitespace
follows it. -/
def CompleteFrom (state : ParserState) (source : List Char) : Prop :=
  ∃ before c rest middle, source = before ++ c :: rest ∧ Reads parser state before middle ∧
    (parser.parse middle c).2.1 = .streamDone ∧ ∀ other ∈ rest, isWhitespace other = true

/-- The loop of `ProcessJson` goes on over the characters. -/
inductive Continues : ParserState → Data → List Char → ParserState → Data → Prop
  | nil {state : ParserState} {data : Data} : Continues state data [] state data
  | cons {state final : ParserState} {data next last : Data} {c : Char} {rest : List Char} :
      (parser.parse state c).2.1 ≠ .streamDone → (parser.parse state c).2.1.isError = false →
      Accepted callback (parser.parse state c).2.2 data next →
      Continues (parser.parse state c).1 next rest final last →
      Continues state data (c :: rest) final last

def RejectsAt (state : ParserState) (data : Data) (c : Char) : Prop :=
  ∃ next, deliver callback (parser.parse state c).2.2 data false = some (next, true)

def Meets (condition : ParserState → Data → Char → List Char → Prop) (state : ParserState)
    (data : Data) (source : List Char) : Prop :=
  ∃ before c rest middle current, source = before ++ c :: rest ∧
    Continues parser callback state data before middle current ∧ condition middle current c rest

variable {parser callback} {condition : ParserState → Data → Char → List Char → Prop}

theorem accepted_iff_of_deliver {events : List Event} {data next other : Data}
    (delivered : deliver callback events data false = some (next, false)) :
    Accepted callback events data other ↔ other = next := by
  simp [Accepted, delivered, eq_comm]

theorem not_completeFrom_nil {state : ParserState} : ¬CompleteFrom parser state [] := by
  rintro ⟨before, c, rest, _, split, _⟩
  cases before <;> cases split

theorem completeFrom_cons {state : ParserState} {c : Char} {rest : List Char} :
    CompleteFrom parser state (c :: rest) ↔
      ((parser.parse state c).2.1 = .streamDone ∧ ∀ other ∈ rest, isWhitespace other = true) ∨
      ((parser.parse state c).2.1 ≠ .streamDone ∧ (parser.parse state c).2.1.isError = false ∧
        CompleteFrom parser (parser.parse state c).1 rest) := by
  constructor
  · rintro ⟨before, d, rest', middle, split, reads, completed⟩
    cases reads with
    | nil =>
        obtain ⟨rfl, rfl⟩ := List.cons.inj split
        exact .inl completed
    | cons running sound reads =>
        obtain ⟨rfl, rfl⟩ := List.cons.inj split
        exact .inr ⟨running, sound, _, d, rest', middle, rfl, reads, completed⟩
  · rintro (completed | ⟨running, sound, before, d, rest', middle, rfl, reads, completed⟩)
    · exact ⟨[], c, rest, state, rfl, .nil, completed⟩
    · exact ⟨c :: before, d, rest', middle, rfl, .cons running sound reads, completed⟩

theorem not_meets_nil {state : ParserState} {data : Data} :
    ¬Meets parser callback condition state data [] := by
  rintro ⟨before, c, rest, _, _, split, _⟩
  cases before <;> cases split

theorem meets_cons {state : ParserState} {data : Data} {c : Char} {rest : List Char} :
    Meets parser callback condition state data (c :: rest) ↔
      condition state data c rest ∨
      ((parser.parse state c).2.1 ≠ .streamDone ∧ (parser.parse state c).2.1.isError = false ∧
        ∃ next, Accepted callback (parser.parse state c).2.2 data next ∧
          Meets parser callback condition (parser.parse state c).1 next rest) := by
  constructor
  · rintro ⟨before, d, rest', middle, current, split, continues, holds⟩
    cases continues with
    | nil =>
        obtain ⟨rfl, rfl⟩ := List.cons.inj split
        exact .inl holds
    | cons running sound accepted continues =>
        obtain ⟨rfl, rfl⟩ := List.cons.inj split
        exact .inr ⟨running, sound, _, accepted, _, d, rest', middle, current, rfl, continues,
          holds⟩
  · rintro (holds | ⟨running, sound, next, accepted, before, d, rest', middle, current, rfl,
      continues, holds⟩)
    · exact ⟨[], c, rest, state, data, rfl, .nil, holds⟩
    · exact ⟨c :: before, d, rest', middle, current, rfl,
        .cons running sound accepted continues, holds⟩

/-- `strchr` takes the terminating zero for one of the characters it looks for. -/
theorem isRemainder_iff {c : Char} : isRemainder c = true ↔ isWhitespace c = true ∨ c = '\x00' := by
  simp only [isRemainder, isWhitespace, Bool.or_eq_true, decide_eq_true_eq]

theorem forall_isWhitespace_iff {rest : List Char} (remaining : onlyWhitespaceRemaining rest) :
    (∀ other ∈ rest, isWhitespace other = true) ↔ '\x00' ∉ rest := by
  constructor
  · intro whitespace present
    have impossible := whitespace _ present
    revert impossible
    decide
  · intro absent other membership
    have either := isRemainder_iff.mp (List.all_eq_true.mp remaining other membership)
    refine either.resolve_right ?_
    rintro rfl
    exact absent membership

variable (parser callback) in
/-- The character completes or breaks the document or is rejected, and no zero hides
behind a completed document. -/
def Decides (state : ParserState) (data : Data) (c : Char) (rest : List Char) : Prop :=
  ((parser.parse state c).2.1 = .streamDone ∨ (parser.parse state c).2.1.isError = true ∨
    RejectsAt parser callback state data c) ∧
  ((parser.parse state c).2.1 = .streamDone → onlyWhitespaceRemaining rest = true →
    '\x00' ∉ rest)

theorem not_decides {state : ParserState} {data next : Data} {c : Char} {rest : List Char}
    (running : (parser.parse state c).2.1 ≠ .streamDone)
    (sound : (parser.parse state c).2.1.isError = false)
    (accepted : Accepted callback (parser.parse state c).2.2 data next) :
    ¬Decides parser callback state data c rest := by
  rintro ⟨completed | broken | ⟨other, rejected⟩, _⟩
  · exact running completed
  · rw [sound] at broken
    cases broken
  · unfold Accepted at accepted
    rw [accepted] at rejected
    cases rejected

theorem processFrom_complete_iff {source : List Char} {state : ParserState} {data : Data}
    {result : ProcessResult Data}
    (processed : processFrom parser callback state data false source = some result) :
    (result.accepted = true → CompleteFrom parser state source) ↔
      Meets parser callback (Decides parser callback) state data source := by
  induction source generalizing state data with
  | nil =>
      cases processed
      constructor
      · intro complete
        exact absurd (complete rfl) not_completeFrom_nil
      · intro meets
        exact absurd meets not_meets_nil
  | cons c rest inductionHypothesis =>
      rw [meets_cons, completeFrom_cons]
      cases processFrom_cons processed with
      | completed delivered done accepted _ =>
          simp only [done, ne_eq, not_true_eq_false, false_and, or_false, true_and, Decides,
            true_or, accepted, forall_true_left]
          exact forall_congr' fun remaining => forall_isWhitespace_iff remaining
      | rejected delivered running accepted _ =>
          rw [accepted]
          refine iff_of_true nofun (.inl ⟨.inr (.inr ⟨_, delivered⟩), ?_⟩)
          exact fun done => absurd done running
      | broken delivered running malformed accepted _ =>
          rw [accepted]
          refine iff_of_true nofun (.inl ⟨.inr (.inl malformed), ?_⟩)
          exact fun done => absurd done running
      | @continued next delivered running sound processed =>
          have undecided := @not_decides _ _ _ _ _ _ _ _ rest running sound delivered
          simp only [running, undecided, sound, accepted_iff_of_deliver delivered, false_and,
            false_or, true_and, ne_eq, not_false_eq_true, exists_eq_left]
          exact inductionHypothesis processed

variable (parser callback) in
/-- The input decides what `ProcessJson` returns. -/
def SettledBy (source : List Char) (data : Data) : Prop :=
  Meets parser callback (Decides parser callback) parser.init data source

/-- What `ProcessJson` accepts is complete, exactly for the input that some character
settles. -/
theorem accepted_complete_iff {source : List Char} {data : Data} {result : ProcessResult Data}
    (processed : processJson parser callback source data = some result) :
    (result.accepted = true → CompleteFrom parser parser.init source) ↔
      SettledBy parser callback source data :=
  processFrom_complete_iff processed

def recordingReplies (callback : Event → Data → Option (Data × Reply)) (event : Event)
    (data : Data × List Reply) : Option ((Data × List Reply) × Reply) :=
  (callback event data.1).map fun called => ((called.1, data.2 ++ [called.2]), called.2)

theorem recordingReplies_project (callback : Event → Data → Option (Data × Reply)) (event : Event)
    (data : Data × List Reply) :
    callback event data.1 =
      (recordingReplies callback event data).map fun called => (called.1.1, called.2) := by
  rw [recordingReplies]
  cases callback event data.1 <;> rfl

/-- What the callback has replied before `ProcessJson` returns. -/
def deliveredReplies (parser : StreamParser ParserState)
    (callback : Event → Data → Option (Data × Reply)) (source : List Char) (data : Data) :
    Option (List Reply) :=
  (processJson parser (recordingReplies callback) source (data, [])).map fun result =>
    result.data.2

def Rejecting (replies : List Reply) : Prop := ∃ message, .reject message ∈ replies

theorem deliver_rejecting_iff {events : List Event} {data next : Data}
    {earlier replies : List Reply} {failed failedNow : Bool}
    (recorded : failed = true ↔ Rejecting earlier)
    (delivered : deliver (recordingReplies callback) events (data, earlier) failed =
      some ((next, replies), failedNow)) : failedNow = true ↔ Rejecting replies := by
  induction events generalizing data earlier failed with
  | nil =>
      cases delivered
      exact recorded
  | cons event rest inductionHypothesis =>
      rw [deliver, recordingReplies] at delivered
      cases called : callback event data with
      | none => simp only [called, Option.map_none, reduceCtorEq] at delivered
      | some result =>
          rcases result with ⟨after, reply⟩
          simp only [called, Option.map_some] at delivered
          cases reply with
          | accept =>
              refine inductionHypothesis (recorded.trans ?_) delivered
              simp [Rejecting]
          | reject message =>
              refine inductionHypothesis (iff_of_true rfl ⟨message, ?_⟩) delivered
              exact List.mem_append_right earlier List.mem_cons_self

variable (parser callback) in
/-- The character completes the document while one of its events is rejected, and
nothing after it is an error. -/
def Hides (state : ParserState) (data : Data) (c : Char) (rest : List Char) : Prop :=
  (parser.parse state c).2.1 = .streamDone ∧ onlyWhitespaceRemaining rest = true ∧
    RejectsAt parser callback state data c

theorem processFrom_hides_iff {source : List Char} {state : ParserState} {data : Data}
    {earlier : List Reply} {result : ProcessResult (Data × List Reply)}
    (clean : ¬Rejecting earlier)
    (processed : processFrom parser (recordingReplies callback) state (data, earlier) false source =
      some result) :
    (Rejecting result.data.2 ∧ result.accepted = true) ↔
      Meets parser callback (Hides parser callback) state data source := by
  induction source generalizing state data earlier with
  | nil =>
      cases processed
      exact iff_of_false (fun both => clean both.1) not_meets_nil
  | cons c rest inductionHypothesis =>
      rw [meets_cons]
      have untouched : false = true ↔ Rejecting earlier := iff_of_false Bool.false_ne_true clean
      have delivers := deliver_project (recordingReplies_project callback)
        (parser.parse state c).2.2 (data, earlier) false
      cases processFrom_cons processed with
      | @completed next failedNow delivered done accepted data_eq =>
          rw [delivered] at delivers
          have replied := deliver_rejecting_iff untouched delivered
          have rejects : RejectsAt parser callback state data c ↔ failedNow = true := by
            simp [RejectsAt, delivers]
          simp only [done, ne_eq, not_true_eq_false, false_and, or_false, Hides, true_and, rejects,
            accepted, data_eq, replied, and_comm]
      | rejected delivered running accepted _ =>
          rw [delivered] at delivers
          rw [accepted]
          refine iff_of_false (fun both => Bool.false_ne_true both.2) ?_
          rintro (hides | ⟨_, _, other, accepts, _⟩)
          · exact running hides.1
          · cases delivers.symm.trans accepts
      | broken delivered running malformed accepted _ =>
          rw [accepted]
          refine iff_of_false (fun both => Bool.false_ne_true both.2) ?_
          rintro (hides | ⟨_, sound, _⟩)
          · exact running hides.1
          · exact Bool.false_ne_true (sound.symm.trans malformed)
      | @continued next delivered running sound processed =>
          rw [delivered] at delivers
          have replied := deliver_rejecting_iff untouched delivered
          have visible : ¬Hides parser callback state data c rest := fun hides => running hides.1
          simp only [running, visible, sound, accepted_iff_of_deliver delivers, false_or, true_and,
            ne_eq, not_false_eq_true, exists_eq_left]
          have stillClean : ¬Rejecting next.2 := fun rejecting =>
            Bool.false_ne_true (replied.mpr rejecting)
          exact inductionHypothesis stillClean processed

/-- A rejected value makes `ProcessJson` return false, exactly for the input whose last
character hides none. -/
theorem rejection_reported_iff {source : List Char} {data : Data} {result : ProcessResult Data}
    (processed : processJson parser callback source data = some result) :
    ∃ replies, deliveredReplies parser callback source data = some replies ∧
      ((Rejecting replies → result.accepted = false) ↔
        ¬Meets parser callback (Hides parser callback) parser.init data source) := by
  have projected := processFrom_project (recordingReplies_project callback) parser source
    parser.init (data, []) false
  rw [show processFrom parser callback parser.init data false source = some result
    from processed] at projected
  obtain ⟨recorded, executed, rfl⟩ := Option.map_eq_some_iff.mp projected.symm
  refine ⟨recorded.data.2, ?_, ?_⟩
  · rw [deliveredReplies, processJson, executed, Option.map_some]
  · have clean : ¬Rejecting [] := by
      rintro ⟨_, membership⟩
      cases membership
    rw [← processFrom_hides_iff clean executed, not_and, Bool.not_eq_true]

end

def bracesParser : StreamParser Nat where
  init := 0
  parse depth c :=
    let event (level : Nat) (type : StreamType) : List Event :=
      [⟨⟨level, "", "", fun _ => ""⟩, type⟩]
    if c = '\x7b' then
      (depth + 1, .streamInProg, event depth .object)
    else if c = '\x7d' then
      (depth - 1, if depth = 1 then .streamDone else .streamInProg, event (depth - 1) .objectEnd)
    else
      (depth, .errJson, [])

def refuse (refused : StreamType) (event : Event) (data : Unit) : Option (Unit × Reply) :=
  some (data, if event.type = refused then .reject "Unexpected" else .accept)

/-- An object that is never closed is accepted. -/
theorem accepted_truncated :
    ∃ result, processJson bracesParser (refuse .array) ['\x7b'] () = some result ∧
      result.accepted = true ∧ ¬CompleteFrom bracesParser bracesParser.init ['\x7b'] := by
  refine ⟨_, rfl, rfl, ?_⟩
  rw [completeFrom_cons]
  rintro (⟨done, _⟩ | ⟨_, _, rest⟩)
  · cases done
  · exact not_completeFrom_nil rest

theorem accepted_complete_iff_closed :
    ∃ result, processJson bracesParser (refuse .array) ['\x7b', '\x7d', '\n'] () = some result ∧
      result.accepted = true ∧
      CompleteFrom bracesParser bracesParser.init ['\x7b', '\x7d', '\n'] := by
  have settled : SettledBy bracesParser (refuse .array) ['\x7b', '\x7d', '\n'] () := by
    refine ⟨['\x7b'], '\x7d', ['\n'], 1, (), rfl, ?_, .inl rfl, fun _ _ => by decide⟩
    exact .cons (by decide) rfl rfl .nil
  have processed : processJson bracesParser (refuse .array) ['\x7b', '\x7d', '\n'] () =
      some ⟨true, none, ()⟩ := rfl
  exact ⟨_, processed, rfl, (accepted_complete_iff processed).mpr settled rfl⟩

/-- The end of the object is rejected, and the document is accepted. -/
theorem rejected_end_accepted :
    ∃ result replies,
      processJson bracesParser (refuse .objectEnd) ['\x7b', '\x7d'] () = some result ∧
      deliveredReplies bracesParser (refuse .objectEnd) ['\x7b', '\x7d'] () = some replies ∧
      Rejecting replies ∧ result.accepted = true :=
  ⟨_, _, rfl, rfl, ⟨"Unexpected", by decide⟩, rfl⟩

theorem rejection_reported_iff_start :
    ∃ result replies,
      processJson bracesParser (refuse .object) ['\x7b', '\x7d'] () = some result ∧
      deliveredReplies bracesParser (refuse .object) ['\x7b', '\x7d'] () = some replies ∧
      Rejecting replies ∧ result.accepted = false := by
  obtain ⟨replies, delivered, reported⟩ := @rejection_reported_iff _ _ bracesParser
    (refuse .object) ['\x7b', '\x7d'] () _ rfl
  have rejecting : Rejecting replies := by
    cases delivered
    exact ⟨"Unexpected", by decide⟩
  refine ⟨_, replies, rfl, delivered, rejecting, reported.mpr ?_ rejecting⟩
  rw [meets_cons]
  rintro (⟨done, _⟩ | ⟨_, _, next, accepted, _⟩)
  · cases done
  · cases accepted

end XBotFirmware.Json
