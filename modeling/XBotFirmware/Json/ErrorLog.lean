import Mathlib.Data.List.Basic

set_option autoImplicit false

/-!
The log of a failed document (`LogErrorPosition` in `src/json_stream.cpp`).

The document is printed line by line through `line_buf`.  The log records every
index that is written there; after one outside of the buffer the source has no
meaning any more.
-/

namespace XBotFirmware.Json

/-- `sizeof(line_buf)`. -/
def lineBufSize : Nat := 128

structure LineLog where
  /-- `line_buf` up to `line_pos`. -/
  line : List Char
  writes : List Nat
  /-- The lines passed to `ULOG_ERROR`. -/
  printed : List (List Char)
  deriving DecidableEq, Repr

namespace LineLog

def empty : LineLog := ⟨[], [], []⟩

/-- `line_buf[line_pos++] = c`. -/
def put (log : LineLog) (c : Char) : LineLog :=
  { log with line := log.line ++ [c], writes := log.writes ++ [log.line.length] }

def putAll (log : LineLog) (text : List Char) : LineLog := text.foldl put log

/-- `ULOG_ERROR("%.*s", line_pos, line_buf)`, and the start of a new line. -/
def flush (log : LineLog) : LineLog :=
  { log with line := [], printed := log.printed ++ [log.line] }

def errorMarker : List Char := ['<', 'E', 'R', 'R', 'O', 'R', '>']

def splitMarker : List Char := ['<', 'S', 'P', 'L', 'I', 'T', '>']

def mark (log : LineLog) (isError : Bool) (c : Char) : LineLog :=
  let log := if c ≠ '\n' then log.put c else log
  if isError then log.putAll errorMarker else log

/-- One iteration of the loop; `isLast` is `!json.HasNext()`. -/
def iterate (log : LineLog) (isError isLast : Bool) (c : Char) : LineLog :=
  let log := log.mark isError c
  let splitLine : Bool := lineBufSize - 7 ≤ log.line.length
  let log := if splitLine then log.putAll splitMarker else log
  if c = '\n' ∨ isLast ∨ splitLine then log.flush else log

/-- The loop, after `position` bytes. -/
def iterateFrom (errorPos : Nat) : Nat → List Char → LineLog → LineLog
  | _, [], log => log
  | position, c :: rest, log =>
      iterateFrom errorPos (position + 1) rest
        (log.iterate (position + 1 = errorPos) rest.isEmpty c)

/-- Every index written is inside `line_buf`. -/
def Inside (log : LineLog) : Prop := ∀ index ∈ log.writes, index < lineBufSize

instance (log : LineLog) : Decidable log.Inside :=
  inferInstanceAs (Decidable (∀ index ∈ log.writes, _))

variable {log : LineLog} {c : Char}

theorem putAll_line (text : List Char) : (log.putAll text).line = log.line ++ text := by
  induction text generalizing log with
  | nil => exact (List.append_nil _).symm
  | cons first rest inductionHypothesis =>
      rw [putAll, List.foldl_cons, ← putAll, inductionHypothesis, put, List.append_assoc,
        List.singleton_append]

theorem putAll_writes (text : List Char) :
    (log.putAll text).writes = log.writes ++ List.range' log.line.length text.length := by
  induction text generalizing log with
  | nil => exact (List.append_nil _).symm
  | cons first rest inductionHypothesis =>
      rw [putAll, List.foldl_cons, ← putAll, inductionHypothesis, put, List.append_assoc,
        List.singleton_append, List.length_append, List.length_singleton, List.length_cons,
        List.range'_succ]

theorem putAll_inside {text : List Char} (nonempty : 0 < text.length) :
    (log.putAll text).Inside ↔ log.Inside ∧ log.line.length + text.length ≤ lineBufSize := by
  simp only [Inside, putAll_writes, List.mem_append, List.mem_range'_1, or_imp, forall_and]
  refine and_congr_right fun _ => ⟨fun bounded => ?_, fun bounded index range => ?_⟩
  · have last := bounded (log.line.length + text.length - 1) ⟨by omega, by omega⟩
    omega
  · omega

/-- Characters on the line after another one, before any marker. -/
def filled (log : LineLog) (c : Char) : Nat := log.line.length + if c = '\n' then 0 else 1

/-- Characters on the line when the split is decided. -/
def marked (log : LineLog) (isError : Bool) (c : Char) : Nat :=
  log.filled c + if isError then 7 else 0

theorem mark_length (isError : Bool) :
    (log.mark isError c).line.length = log.marked isError c := by
  unfold mark marked filled
  by_cases newline : c = '\n'
  · cases isError <;> simp [newline, putAll_line, errorMarker]
  · cases isError <;> simp [newline, putAll_line, errorMarker, put]

theorem mark_inside (short : log.line.length < 121) (isError : Bool) :
    (log.mark isError c).Inside ↔ log.Inside := by
  have character : (if c ≠ '\n' then log.put c else log).Inside ↔ log.Inside := by
    split
    · rw [show log.put c = log.putAll [c] from rfl,
        putAll_inside (List.length_pos_of_mem List.mem_cons_self)]
      exact and_iff_left (show log.line.length + 1 ≤ 128 by omega)
    · exact Iff.rfl
  have length : (if c ≠ '\n' then log.put c else log).line.length ≤ 121 := by
    split
    · rw [put, List.length_append, List.length_singleton]
      exact short
    · exact Nat.le_of_lt short
  unfold mark
  cases isError with
  | false => exact character
  | true =>
      simp only [if_true]
      rw [putAll_inside (by decide), character]
      exact and_iff_left (Nat.add_le_add_right length 7)

theorem iterate_inside (short : log.line.length < 121) (isError isLast : Bool) :
    (log.iterate isError isLast c).Inside ↔ log.Inside ∧ log.marked isError c ≤ 121 := by
  have flushed : ∀ (log : LineLog) (condition : Prop) [Decidable condition],
      (if condition then log.flush else log).Inside ↔ log.Inside := by
    intro log condition _
    split <;> exact Iff.rfl
  unfold iterate
  simp only [flushed, decide_eq_true_eq, mark_length]
  split
  next split =>
    rw [putAll_inside (by decide), mark_inside short, mark_length]
    exact and_congr_right fun _ => Nat.add_le_add_iff_right
  next whole =>
    rw [mark_inside short]
    exact (and_iff_left (Nat.le_of_lt (Nat.lt_of_not_ge whole))).symm

theorem iterate_length (isError isLast : Bool) :
    (log.iterate isError isLast c).line.length =
      if c = '\n' ∨ isLast ∨ 121 ≤ log.marked isError c then 0 else log.marked isError c := by
  unfold iterate
  simp only [decide_eq_true_eq, mark_length, show lineBufSize - 7 = 121 from rfl]
  split
  next => rfl
  next kept =>
    rw [if_neg fun whole => kept (.inr (.inr whole)), mark_length]

theorem iterate_short (isError isLast : Bool) :
    (log.iterate isError isLast c).line.length < 121 := by
  rw [iterate_length]
  split
  next => decide
  next kept => omega

/-- The log is never taken back. -/
theorem inside_of_iterateFrom {errorPos position : Nat} {source : List Char}
    (short : log.line.length < 121) (inside : (log.iterateFrom errorPos position source).Inside) :
    log.Inside := by
  induction source generalizing log position with
  | nil => exact inside
  | cons c rest inductionHypothesis =>
      have later := inductionHypothesis (iterate_short _ _) inside
      exact ((iterate_inside short _ _).mp later).1

/-- The column after another character, on lines that split after 121 of them. -/
def nextColumn (column : Nat) (c : Char) : Nat := if c = '\n' then 0 else (column + 1) % 121

theorem iterate_column (short : log.line.length < 121) :
    (log.iterate false false c).line.length = nextColumn log.line.length c := by
  rw [iterate_length, nextColumn, marked, filled]
  by_cases newline : c = '\n'
  · rw [if_pos (.inl newline), if_pos newline]
  · simp only [newline, false_or, Bool.false_eq_true, if_false, Nat.add_zero]
    split
    next whole =>
      have full : log.line.length + 1 = 121 := by omega
      rw [full]
    next kept => exact (Nat.mod_eq_of_lt (Nat.lt_of_not_ge kept)).symm

/-- Once the error has been passed nothing leaves the buffer. -/
theorem iterateFrom_inside {errorPos position : Nat} {source : List Char}
    (short : log.line.length < 121) (passed : errorPos ≤ position) (inside : log.Inside) :
    (log.iterateFrom errorPos position source).Inside := by
  induction source generalizing log position with
  | nil => exact inside
  | cons c rest inductionHypothesis =>
      have unmarked : decide (position + 1 = errorPos) = false := decide_eq_false (by omega)
      refine inductionHypothesis (iterate_short _ _) (by omega) ?_
      rw [unmarked, iterate_inside short]
      refine ⟨inside, ?_⟩
      unfold marked filled
      split <;> simp <;> omega

end LineLog

/-- `LogErrorPosition`, for the bytes of the source and the position it was at. -/
def logErrorPosition (source : List Char) (errorPos : Nat) : LineLog :=
  LineLog.empty.iterateFrom errorPos 0 source

/-- Characters on the line of the log up to and with `c`, after the text before it. -/
def errorColumn (column : Nat) (before : List Char) (c : Char) : Nat :=
  before.foldl LineLog.nextColumn column + if c = '\n' then 0 else 1

/-- The character at the error position leaves room for both markers. -/
def RoomAtError (column position errorPos : Nat) (source : List Char) : Prop :=
  ∀ before c rest, source = before ++ c :: rest → errorPos = position + before.length + 1 →
    errorColumn column before c ≤ 114

theorem roomAtError_nil {column position errorPos : Nat} :
    RoomAtError column position errorPos [] := by
  intro before c rest split
  cases before <;> cases split

theorem roomAtError_of_passed {column position errorPos : Nat} {source : List Char}
    (passed : errorPos ≤ position) : RoomAtError column position errorPos source := by
  intro before c rest _ here
  omega

theorem roomAtError_cons {column position errorPos : Nat} {c : Char} {rest : List Char} :
    RoomAtError column position errorPos (c :: rest) ↔
      (errorPos = position + 1 → errorColumn column [] c ≤ 114) ∧
        RoomAtError (LineLog.nextColumn column c) (position + 1) errorPos rest := by
  constructor
  · intro room
    refine ⟨fun here => room [] c rest rfl here, ?_⟩
    rintro before d rest' rfl here
    refine room (c :: before) d rest' rfl ?_
    rw [List.length_cons]
    omega
  · rintro ⟨first, later⟩ before d rest' split here
    cases before with
    | nil =>
        obtain ⟨rfl, rfl⟩ := List.cons.inj split
        exact first here
    | cons head before =>
        obtain ⟨rfl, rfl⟩ := List.cons.inj split
        refine later before d rest' rfl ?_
        rw [List.length_cons] at here
        omega

namespace LineLog

theorem iterateFrom_inside_iff {errorPos position : Nat} {source : List Char} {log : LineLog}
    (short : log.line.length < 121) :
    (log.iterateFrom errorPos position source).Inside ↔
      log.Inside ∧ RoomAtError log.line.length position errorPos source := by
  induction source generalizing log position with
  | nil => exact (and_iff_left roomAtError_nil).symm
  | cons c rest inductionHypothesis =>
      rw [iterateFrom, roomAtError_cons]
      by_cases here : position + 1 = errorPos
      · -- From here on everything is inside, so the markers at this character decide.
        have later : RoomAtError (nextColumn log.line.length c) (position + 1) errorPos rest :=
          roomAtError_of_passed (Nat.le_of_eq here.symm)
        have room : log.marked true c ≤ 121 ↔ errorColumn log.line.length [] c ≤ 114 :=
          Nat.add_le_add_iff_right
        have written := @iterate_inside log c short true rest.isEmpty
        rw [decide_eq_true here, and_iff_left later, forall_prop_of_true here.symm, ← room,
          ← written]
        constructor
        · exact inside_of_iterateFrom (iterate_short _ _)
        · exact iterateFrom_inside (iterate_short _ _) (Nat.le_of_eq here.symm)
      · have unmarked : log.marked false c ≤ 121 := by
          unfold marked filled
          split <;> simp <;> omega
        have written : (log.iterate false rest.isEmpty c).Inside ↔ log.Inside :=
          (iterate_inside short _ _).trans (and_iff_left unmarked)
        have elsewhere : errorPos = position + 1 → errorColumn log.line.length [] c ≤ 114 :=
          fun reached => absurd reached.symm here
        rw [decide_eq_false here, inductionHypothesis (iterate_short _ _), written,
          and_iff_right elsewhere]
        cases rest with
        | nil => exact and_congr_right fun _ => iff_of_true roomAtError_nil roomAtError_nil
        | cons d rest => rw [List.isEmpty_cons, iterate_column short]

end LineLog

/-- `LogErrorPosition` stays inside `line_buf` exactly when the line is at most 114
characters long at the error. -/
theorem logErrorPosition_inside_iff (source : List Char) (errorPos : Nat) :
    (logErrorPosition source errorPos).Inside ↔ RoomAtError 0 0 errorPos source := by
  have empty : LineLog.empty.Inside := fun index membership => absurd membership List.not_mem_nil
  rw [logErrorPosition, LineLog.iterateFrom_inside_iff (by decide), and_iff_right empty]
  rfl

/-- After an opening bracket and 113 spaces, an `x` is an error at the 115th character of
its line, and writes one byte behind the buffer. -/
theorem logErrorPosition_overflows :
    ¬(logErrorPosition ('[' :: (List.replicate 113 ' ' ++ ['x'])) 115).Inside := by
  decide +kernel

end XBotFirmware.Json
