import XBotFirmware.Platform.CString

set_option autoImplicit false

/-!
The JSON reader of the web server (`mg_json_get` in `mongoose/mongoose.c`).

It scans a text once from left to right for the value at a path such as `$.name`, and
returns where its token starts and how long it is.  It keeps no tree; the brackets that are
open stand in `nesting`, the last one first.
-/

namespace XBotFirmware.Api

open XBotFirmware.Platform

namespace Ascii

def tab : Byte := 0x09
def newline : Byte := 0x0A
def carriageReturn : Byte := 0x0D
def space : Byte := 0x20
def quote : Byte := 0x22
def dollar : Byte := 0x24
def plus : Byte := 0x2B
def comma : Byte := 0x2C
def minus : Byte := 0x2D
def dot : Byte := 0x2E
def slash : Byte := 0x2F
def zero : Byte := 0x30
def nine : Byte := 0x39
def colon : Byte := 0x3A
def capitalE : Byte := 0x45
def openBracket : Byte := 0x5B
def backslash : Byte := 0x5C
def closeBracket : Byte := 0x5D
def smallE : Byte := 0x65
def openBrace : Byte := 0x7B
def closeBrace : Byte := 0x7D

/-- `true`, `false` and `null`. -/
def wordTrue : List Byte := [0x74, 0x72, 0x75, 0x65]
def wordFalse : List Byte := [0x66, 0x61, 0x6C, 0x73, 0x65]
def wordNull : List Byte := [0x6E, 0x75, 0x6C, 0x6C]

end Ascii

open Ascii

/-- The negative results of `mg_json_get`. -/
inductive JsonError where
  | tooDeep
  | invalid
  | notFound
  deriving DecidableEq, Repr

def isSpace (c : Byte) : Bool := c = space || c = tab || c = newline || c = carriageReturn

def isDigit (c : Byte) : Bool := zero ≤ c && c ≤ nine

/-- `escapeseq`: the characters themselves, or their letters behind a backslash. -/
def escapeseq (esc : Bool) : List Byte :=
  if esc then [0x08, 0x0C, newline, carriageReturn, tab, backslash, quote]
  else [0x62, 0x66, 0x6E, 0x72, 0x74, backslash, quote]

/-- `json_esc`, with 0 for a character that is not in the list. -/
def jsonEsc (c : Byte) (esc : Bool) : Byte :=
  (((escapeseq esc).zip (escapeseq !esc)).find? fun pair => pair.1 = c).elim 0 Prod.snd

/-- `mg_pass_string`: the distance to the closing quote. -/
def mgPassString : List Byte → Except JsonError Nat
  | [] => .error .invalid
  | [c] => if c = quote then .ok 0 else .error .invalid
  | c :: escaped :: rest =>
      if c = backslash ∧ jsonEsc escaped true ≠ 0 then (mgPassString rest).map (· + 2)
      else if c = 0 then .error .invalid
      else if c = quote then .ok 0
      else (mgPassString (escaped :: rest)).map (· + 1)

/-- The digits of an exponent, up to one with three digits. -/
def dropExponentDigits : Nat → List Byte → List Byte
  | _, [] => []
  | exp, c :: rest =>
      if isDigit c ∧ exp < 308 then dropExponentDigits (exp * 10 + (c - zero).toNat) rest
      else c :: rest

def skipIf (test : Byte → Bool) : List Byte → List Byte
  | [] => []
  | c :: rest => if test c then rest else c :: rest

def dropFraction : List Byte → List Byte
  | [] => []
  | c :: rest => if c = dot then rest.dropWhile isDigit else c :: rest

def dropExponent : List Byte → List Byte
  | [] => []
  | c :: rest =>
      if c = smallE ∨ c = capitalE then
        dropExponentDigits 0 (skipIf (· = plus) (skipIf (· = minus) rest))
      else c :: rest

/-- What `mg_atod` leaves of a text. -/
def afterNumber (p : List Byte) : List Byte :=
  dropExponent (dropFraction ((skipIf (fun c => c = minus || c = plus) p).dropWhile isDigit))

/-- The length that `mg_atod` stores in `numlen`. -/
def mgAtodLength (p : List Byte) : Nat := p.length - (afterNumber p).length

inductive Expecting where
  | value
  | key
  | colon
  | commaOrEoo
  deriving DecidableEq, Repr

/-- The variables of `mg_json_get`.  The depth is the number of open brackets. -/
structure Scan where
  i : Nat
  j : Nat
  nesting : List Byte
  ed : Nat
  pos : Nat
  ci : Int
  ei : Int
  expecting : Expecting
  deriving DecidableEq, Repr

def mgJsonMaxDepth : Nat := 30

/-- The offset and the length of a token, or a negative result. -/
abbrev JsonResult := Except JsonError (Nat × Nat)

namespace Scan

variable (path : List Byte)

def depth (scan : Scan) : Nat := scan.nesting.length

def pathAt (pos : Nat) : Byte := path.getD pos 0

/-- `MG_CHECKRET`. -/
def checkRet (scan : Scan) : Except JsonResult Scan :=
  if scan.depth = scan.ed ∧ pathAt path scan.pos = 0 ∧ scan.ci = scan.ei then
    .error (.ok (scan.j, scan.i - scan.j + 1))
  else .ok scan

/-- `MG_EOO`. -/
def eoo (c : Byte) (scan : Scan) : Except JsonResult Scan :=
  if scan.depth = scan.ed ∧ scan.ci ≠ scan.ei then .error (.error .notFound)
  else
    match scan.nesting with
    | [] => .error (.error .invalid)
    | top :: below =>
        if c ≠ top + 2 then .error (.error .invalid)
        else checkRet path { scan with nesting := below }

/-- `if (depth == ed && ei >= 0) ci++`. -/
def countElement (scan : Scan) : Scan :=
  if scan.depth = scan.ed ∧ 0 ≤ scan.ei then { scan with ci := scan.ci + 1 } else scan

/-- The end of the case `S_VALUE`. -/
def endValue (scan : Scan) : Except JsonResult Scan :=
  (checkRet path scan).map fun scan => { scan.countElement with expecting := .commaOrEoo }

def pathIndex : List Byte → Int → Nat → Int × Nat
  | [], ei, pos => (ei, pos)
  | c :: rest, ei, pos =>
      if c = closeBracket ∨ c = 0 then (ei, pos)
      else pathIndex rest (ei * 10 + ((c.toNat : Int) - zero.toNat)) (pos + 1)

def openObject (c : Byte) (scan : Scan) : Except JsonResult Scan :=
  if mgJsonMaxDepth ≤ scan.depth then .error (.error .tooDeep)
  else
    let scan :=
      if scan.depth = scan.ed ∧ pathAt path scan.pos = dot ∧ scan.ci = scan.ei then
        { scan with ed := scan.ed + 1, pos := scan.pos + 1, ci := -1, ei := -1 }
      else scan
    .ok { scan with nesting := c :: scan.nesting, expecting := .key }

def openArray (c : Byte) (scan : Scan) : Except JsonResult Scan :=
  if mgJsonMaxDepth ≤ scan.depth then .error (.error .tooDeep)
  else
    let scan :=
      if scan.depth = scan.ed ∧ pathAt path scan.pos = openBracket ∧ scan.ei = scan.ci then
        let (ei, pos) := pathIndex (path.drop (scan.pos + 1)) 0 (scan.pos + 1)
        { scan with
          ed := scan.ed + 1
          pos := if pathAt path pos ≠ 0 then pos + 1 else pos
          ci := 0
          ei := ei }
      else scan
    .ok { scan with nesting := c :: scan.nesting }

/-- The case `S_VALUE`, at the character `c` and before `rest`. -/
def value (c : Byte) (rest : List Byte) (scan : Scan) : Except JsonResult Scan :=
  let scan := if scan.depth = scan.ed then { scan with j := scan.i } else scan
  if c = openBrace then openObject path c scan
  else if c = openBracket then openArray path c scan
  else if c = closeBracket ∧ 0 < scan.depth then (eoo path c scan).bind (endValue path)
  else if (c :: rest).take 4 = wordTrue then endValue path { scan with i := scan.i + 3 }
  else if (c :: rest).take 4 = wordNull then endValue path { scan with i := scan.i + 3 }
  else if (c :: rest).take 5 = wordFalse then endValue path { scan with i := scan.i + 4 }
  else if c = minus ∨ isDigit c = true then
    endValue path { scan with i := scan.i + (mgAtodLength (c :: rest) - 1) }
  else if c = quote then
    match mgPassString rest with
    | .error error => .error (.error error)
    | .ok n => endValue path { scan with i := scan.i + (n + 1) }
  else .error (.error .invalid)

/-- The case `S_KEY`. -/
def key (c : Byte) (rest : List Byte) (scan : Scan) : Except JsonResult Scan :=
  if c = quote then
    match mgPassString rest with
    | .error error => .error (.error error)
    | .ok n =>
        if rest.length ≤ n then .error (.error .notFound)
        else if scan.depth < scan.ed then .error (.error .notFound)
        else if scan.depth = scan.ed ∧ pathAt path (scan.pos - 1) ≠ dot then
          .error (.error .notFound)
        else
          let named := scan.depth = scan.ed ∧ pathAt path (scan.pos - 1) = dot ∧
            strncmp rest (path.drop scan.pos) n = 0 ∧
            (pathAt path (scan.pos + n) = 0 ∨ pathAt path (scan.pos + n) = dot ∨
              pathAt path (scan.pos + n) = openBracket)
          .ok { scan with
            pos := if named then scan.pos + n else scan.pos
            i := scan.i + (n + 1)
            expecting := .colon }
  else if c = closeBrace then
    (eoo path c scan).map fun scan => { scan with expecting := .commaOrEoo }.countElement
  else .error (.error .invalid)

/-- The case `S_COMMA_OR_EOO`. -/
def commaOrEoo (c : Byte) (scan : Scan) : Except JsonResult Scan :=
  match scan.nesting with
  | [] => .error (.error .invalid)
  | top :: _ =>
      if c = comma then
        .ok { scan with expecting := if top = openBrace then .key else .value }
      else if c = closeBracket ∨ c = closeBrace then
        if scan.depth = scan.ed ∧ c = closeBrace ∧ pathAt path (scan.pos - 1) = dot then
          .error (.error .notFound)
        else if scan.depth = scan.ed ∧ c = closeBracket ∧ pathAt path (scan.pos - 1) = comma then
          .error (.error .notFound)
        else (eoo path c scan).map countElement
      else .error (.error .invalid)

def round (c : Byte) (rest : List Byte) (scan : Scan) : Except JsonResult Scan :=
  match scan.expecting with
  | .value => value path c rest scan
  | .key => key path c rest scan
  | .colon =>
      if c = Ascii.colon then .ok { scan with expecting := .value } else .error (.error .invalid)
  | .commaOrEoo => commaOrEoo path c scan

/-- The loop.  The first argument counts the characters that a round has passed by itself. -/
def loop : Nat → List Byte → Scan → JsonResult
  | _, [], _ => .error .notFound
  | skip + 1, _ :: rest, scan => loop skip rest scan
  | 0, c :: rest, scan =>
      if isSpace c then loop 0 rest { scan with i := scan.i + 1 }
      else
        match round path c rest scan with
        | .error result => result
        | .ok next => loop (next.i - scan.i) rest { next with i := next.i + 1 }

end Scan

def mgJsonGet (json path : List Byte) : JsonResult :=
  if Scan.pathAt path 0 ≠ dollar then .error .invalid
  else Scan.loop path 0 json ⟨0, 0, [], 0, 1, -1, -1, .value⟩

end XBotFirmware.Api
