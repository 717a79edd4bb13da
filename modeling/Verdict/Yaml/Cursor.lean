import Verdict.Yaml.Token

namespace Verdict.Yaml

-- A place at which a key without its own mark may have started. It counts only on its own line and
-- within 1024 characters; one at the current indentation has to turn out to be a key.
structure KeyStart where
  -- how many tokens there were
  tokens : Nat
  index : Nat
  line : Nat
  column : Nat
  required : Bool
  deriving Repr

structure Cursor where
  rest : List Char
  index : Nat
  line : Nat
  column : Nat
  -- the column of the innermost block, and those of the blocks around it; -1 stands for none
  indent : Int
  outer : List Int
  -- the key start of every open bracket, the innermost first, and last that outside of brackets
  keys : List (Option KeyStart)
  -- whether a key may start here
  keyAllowed : Bool
  tokens : Array Token

-- Reading fails on text that is not YAML.
abbrev Reader := StateT Cursor Option

namespace Reader

def start (text : List Char) : Cursor := ⟨text, 0, 0, 0, -1, [], [none], true, #[]⟩

def isBreak (c : Char) : Bool :=
  c == '\n' || c == '\r' || c.toNat == 0x85 || c.toNat == 0x2028 || c.toNat == 0x2029

def isBlank (c : Char) : Bool := c == ' ' || c == '\t'

-- Whether a character is none that shows; the end of the text counts as one such.
def isBlankOrEnd (c : Option Char) : Bool := c.all fun c => isBlank c || isBreak c

def isBreakOrEnd (c : Option Char) : Bool := c.all isBreak

-- The character so many places ahead.
def ahead (n : Nat) : Reader (Option Char) := return (← get).rest[n]?

def peek : Reader (Option Char) := ahead 0

def inFlow : Reader Bool := return 1 < (← get).keys.length

-- Goes over characters that end no line.
def skip (n : Nat) : Reader Unit := modify fun s =>
  { s with rest := s.rest.drop n, index := s.index + n, column := s.column + n }

-- Goes over the end of a line and says what it counts as: a line feed, except for the two separators of
-- Unicode, which stay.
def takeBreak : Reader (List Char) := do
  let pass (n : Nat) : Reader Unit := modify fun s =>
    { s with rest := s.rest.drop n, index := s.index + n, line := s.line + 1, column := 0 }
  match (← get).rest with
  | '\r' :: '\n' :: _ =>
    pass 2
    return ['\n']
  | c :: _ =>
    if isBreak c then
      pass 1
      return if c.toNat < 0x2028 then ['\n'] else [c]
    else return []
  | [] => return []

def takeWhile (p : Char → Bool) : Reader (List Char) := do
  let cs := (← get).rest.takeWhile p
  skip cs.length
  return cs

-- Whether a line starts here with a mark of three characters between documents.
def atMark (mark : Char) : Reader Bool := do
  let s ← get
  return s.column == 0 && [mark, mark, mark].isPrefixOf s.rest && isBlankOrEnd s.rest[3]?

def atDocumentMark : Reader Bool := return (← atMark '-') || (← atMark '.')

def emit (t : Token) : Reader Unit := modify fun s => { s with tokens := s.tokens.push t }

def allowKey (allowed : Bool) : Reader Unit := modify fun s => { s with keyAllowed := allowed }

def setKey (k : Option KeyStart) : Reader Unit := modify fun s => { s with keys := k :: s.keys.tail }

-- Gives up the key that may have started in the innermost bracket. It must not be a required one.
def dropKey : Reader Unit := do
  if let some (some k) := (← get).keys.head? then
    if k.required then failure
  setKey none

-- Remembers that a key may start here.
def saveKey : Reader Unit := do
  let s ← get
  if s.keyAllowed then
    dropKey
    let required := !(← inFlow) && s.indent == s.column
    setKey (some ⟨s.tokens.size, s.index, s.line, s.column, required⟩)

-- The key starts that are not too far back.
def freshKeys (s : Cursor) : List (Option KeyStart) → Option (List (Option KeyStart))
  | [] => some []
  | none :: rest => (freshKeys s rest).map (none :: ·)
  | some k :: rest =>
    if k.line < s.line ∨ k.index + 1024 < s.index then
      if k.required then none else (freshKeys s rest).map (none :: ·)
    else (freshKeys s rest).map (some k :: ·)

def dropStaleKeys : Reader Unit := do
  let s ← get
  set { s with keys := ← freshKeys s s.keys }

-- Opens a block at a column to the right of the innermost one; its token goes to the given place.
def openBlock (column place : Nat) (t : Token) : Reader Unit := do
  let s ← get
  if !(← inFlow) && s.indent < column then
    set { s with
      indent := column, outer := s.indent :: s.outer, tokens := s.tokens.insertIdxIfInBounds place t }

-- Closes the blocks to the right of a column.
def closeBlocks (column : Int) : List Int → Reader Unit
  | [] => return ()
  | before :: outer => do
    if column < (← get).indent then
      emit .blockEnd
      modify fun s => { s with indent := before, outer := outer }
      closeBlocks column outer

def unindent (column : Int) : Reader Unit := do
  unless ← inFlow do closeBlocks column (← get).outer

end Reader

end Verdict.Yaml
