import Verdict.Text.Ranges
import Verdict.Yaml.Cursor

namespace Verdict.Yaml

namespace Reader

-- What stands between two stretches of a scalar: blanks on one line, or the first end of a line and
-- those after it.
inductive Gap where
  | blanks (cs : List Char)
  | breaks (first later : List Char)

-- A gap as it is read: a single line feed becomes a blank, and of several the first is left out.
def Gap.text : Gap → List Char
  | .blanks cs => cs
  | .breaks first later =>
    if first = ['\n'] then (if later.isEmpty then [' '] else later) else first ++ later

-- Blanks and ends of lines. Tabs may not stand where a plain scalar is indented.
def readGap (indent : Int) : Nat → Gap → Reader Gap
  | 0, _ => failure
  | fuel + 1, gap => do
    match ← peek with
    | none => return gap
    | some c =>
      if isBlank c then
        match gap with
        | .blanks cs =>
          skip 1
          readGap indent fuel (.blanks (cs ++ [c]))
        | .breaks .. =>
          if c = '\t' ∧ ((← get).column : Int) < indent then failure
          skip 1
          readGap indent fuel gap
      else if isBreak c then
        let line ← takeBreak
        match gap with
        | .blanks _ => readGap indent fuel (.breaks line [])
        | .breaks first later => readGap indent fuel (.breaks first (later ++ line))
      else return gap

def isFlowMark (c : Char) : Bool := c == ',' || c == '[' || c == ']' || c == '\x7b' || c == '\x7d'

-- A stretch of a plain scalar without blanks. A colon in front of a blank ends it, and so do the marks
-- of flow inside brackets.
def readPlainStretch (flow : Bool) : Nat → Reader (List Char)
  | 0 => failure
  | fuel + 1 => do
    let next ← ahead 1
    match ← peek with
    | none => return []
    | some c =>
      if isBlank c || isBreak c then return []
      if flow && c == ':' && next.any (fun n => isFlowMark n || n == '?') then failure
      if (c == ':' && isBlankOrEnd next) || (flow && isFlowMark c) then return []
      skip 1
      return c :: (← readPlainStretch flow fuel)

-- A plain scalar behind `gap`. Outside of brackets it ends with its indentation. Whether a line ended
-- at the last is part of the answer.
def readPlain (flow : Bool) : Nat → Gap → Reader (List Char × Bool)
  | 0, _ => failure
  | fuel + 1, gap => do
    let ended := gap matches .breaks ..
    if (← atDocumentMark) || (← peek) == some '#' then return ([], ended)
    let stretch ← readPlainStretch flow ((← get).rest.length + 1)
    let read := if stretch.isEmpty then [] else gap.text ++ stretch
    let ended := ended && stretch.isEmpty
    if (← peek).all fun c => !isBlank c && !isBreak c then return (read, ended)
    let indent := (← get).indent + 1
    let gap ← readGap indent ((← get).rest.length + 1) (.blanks [])
    if !flow && ((← get).column : Int) < indent then return (read, gap matches .breaks ..)
    let (more, ended) ← readPlain flow fuel gap
    return (read ++ more, ended)

def escaped? : Char → Option Char
  | '0' => some '\x00'
  | 'a' => some '\x07'
  | 'b' => some '\x08'
  | 't' | '\t' => some '\t'
  | 'n' => some '\n'
  | 'v' => some '\x0b'
  | 'f' => some '\x0c'
  | 'r' => some '\r'
  | 'e' => some '\x1b'
  | ' ' => some ' '
  | '"' => some '"'
  | '/' => some '/'
  | '\\' => some '\\'
  | 'N' => some (Char.ofNat 0x85)
  | '_' => some (Char.ofNat 0xA0)
  | 'L' => some (Char.ofNat 0x2028)
  | 'P' => some (Char.ofNat 0x2029)
  | _ => none

-- The digits of an escaped code point, by the letter in front of them.
def escapeDigits? : Char → Option Nat
  | 'x' => some 2
  | 'u' => some 4
  | 'U' => some 8
  | _ => none

-- An escape behind its backslash.
def readEscape : Reader Char := do
  let some c ← peek | failure
  skip 1
  match escaped? c with
  | some e => return e
  | none =>
    let digits ← escapeDigits? c
    let cs := (← get).rest.take digits
    if cs.length < digits ∨ !cs.all fun c => (hexDigit? c).isSome then failure
    skip digits
    if (ofHex cs).isValidChar then return Char.ofNat (ofHex cs) else failure

-- A stretch of a quoted scalar without blanks, and whether an escaped end of a line ends it. A single
-- quote is written twice.
def readQuotedStretch (quote : Char) : Nat → Reader (List Char × Bool)
  | 0 => failure
  | fuel + 1 => do
    match ← peek with
    | none => return ([], false)
    | some c =>
      if isBlank c || isBreak c then return ([], false)
      let next ← ahead 1
      let more (c : Char) : Reader (List Char × Bool) := do
        let (cs, broken) ← readQuotedStretch quote fuel
        return (c :: cs, broken)
      if c = quote then
        if quote = '\'' ∧ next = some '\'' then
          skip 2
          more c
        else return ([], false)
      else if c = '\\' ∧ quote = '"' then
        skip 1
        if next.any isBreak then
          let _ ← takeBreak
          return ([], true)
        more (← readEscape)
      else
        skip 1
        more c

-- The rest of a quoted scalar, with its closing quote. No line of it may be a document mark.
def readQuoted (quote : Char) : Nat → Reader (List Char)
  | 0 => failure
  | fuel + 1 => do
    if ← atDocumentMark then failure
    let (stretch, broken) ← readQuotedStretch quote ((← get).rest.length + 1)
    match ← peek with
    | none => failure
    | some c =>
      if c = quote then
        skip 1
        return stretch
      let gap ← readGap 0 ((← get).rest.length + 1) (if broken then .breaks [] [] else .blanks [])
      return stretch ++ gap.text ++ (← readQuoted quote fuel)

-- What becomes of the line ends at the end of a block of lines.
inductive Chomping where
  | strip
  | clip
  | keep
  deriving DecidableEq

def chomping? : Char → Option Chomping
  | '-' => some .strip
  | '+' => some .keep
  | _ => none

def increment? (c : Char) : Option Nat := if c.isDigit then some (c.toNat - '0'.toNat) else none

-- What stands behind the mark of a block of lines: the two signs in any order.
def readBlockHead : Reader (Chomping × Option Nat) := do
  let first ← peek
  let second ← ahead 1
  let (chomping, increment, length) := match first.bind chomping?, first.bind increment? with
    | some c, _ =>
      match second.bind increment? with
      | some n => (c, some n, 2)
      | none => (c, none, 1)
    | none, some n =>
      match second.bind chomping? with
      | some c => (c, some n, 2)
      | none => (.clip, some n, 1)
    | none, none => (.clip, none, 0)
  if increment = some 0 then failure
  skip length
  let _ ← takeWhile isBlank
  if (← peek) = some '#' then
    let _ ← takeWhile (!isBreak ·)
  unless isBreakOrEnd (← peek) do failure
  let _ ← takeBreak
  return (chomping, increment)

-- Empty lines of a block, and the widest indentation among them. The indentation of the block may not
-- be known yet.
def readBlockBreaks (indent : Option Nat) : Nat → Nat → List Char → Reader (Nat × List Char)
  | 0, _, _ => failure
  | fuel + 1, widest, breaks => do
    let rest := (← get).rest
    let spaces := (rest.takeWhile (· = ' ')).length
    let column := (← get).column
    skip (match indent with
      | some n => min spaces (n - column)
      | none => spaces)
    let column := (← get).column
    let widest := max widest column
    if (← peek) = some '\t' ∧ indent.all (column < ·) then failure
    if (← peek).any isBreak then
      readBlockBreaks indent fuel widest (breaks ++ (← takeBreak))
    else return (widest, breaks)

-- The lines of a block from here on; `ending` is the end of the line before, `breaks` the empty lines
-- behind it, and `wasBlank` says whether that line started with a blank. Folding turns the end of a
-- line into a blank between two lines that do not start with one.
def readBlockLines (folded : Bool) (chomping : Chomping) (indent : Nat) :
    Nat → List Char → List Char → Bool → Reader (List Char)
  | 0, _, _, _ => failure
  | fuel + 1, ending, breaks, wasBlank => do
    let s ← get
    if s.column == indent && !s.rest.isEmpty then
      let isBlankLine := (← peek).any isBlank
      let joint :=
        if folded && ending == ['\n'] && !wasBlank && !isBlankLine then
          (if breaks.isEmpty then [' '] else breaks)
        else ending ++ breaks
      let line ← takeWhile (!isBreak ·)
      let ending ← takeBreak
      let (_, breaks) ← readBlockBreaks (some indent) ((← get).rest.length + 1) 0 []
      let more ← readBlockLines folded chomping indent fuel ending breaks isBlankLine
      return joint ++ line ++ more
    else
      return match chomping with
        | .strip => []
        | .clip => ending
        | .keep => ending ++ breaks

-- A block of lines behind its mark.
def readBlock (folded : Bool) : Reader (List Char) := do
  let (chomping, increment) ← readBlockHead
  let around := (← get).indent
  let known := increment.map fun n => (max around 0).toNat + n
  let (widest, breaks) ← readBlockBreaks known ((← get).rest.length + 1) 0 []
  let indent := known.getD (max widest (max (around + 1).toNat 1))
  readBlockLines folded chomping indent ((← get).rest.length + 1) [] breaks false

end Reader

end Verdict.Yaml
