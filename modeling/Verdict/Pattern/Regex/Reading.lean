import Verdict.Pattern.Regex.Basic
import Verdict.Text.Ranges

namespace Verdict

namespace Regex

structure Flags where
  ignoreCase : Bool
  -- `^` and `$` also match at lines
  lines : Bool
  -- `.` also matches a line feed
  dotAll : Bool
  -- classes go beyond ASCII
  unicode : Bool
  -- blanks and comments in the expression count for nothing
  spaced : Bool
  -- lines may end in a return
  returns : Bool
  deriving DecidableEq, Repr

namespace Flags

def initial : Flags := ⟨false, false, false, true, false, false⟩

-- The flags with one of them set. The swap of greedy and lazy repetition changes no match.
def set? (f : Flags) (letter : Char) (on : Bool) : Option Flags :=
  match letter with
  | 'i' => some { f with ignoreCase := on }
  | 'm' => some { f with lines := on }
  | 's' => some { f with dotAll := on }
  | 'u' => some { f with unicode := on }
  | 'x' => some { f with spaced := on }
  | 'R' => some { f with returns := on }
  | 'U' => some f
  | _ => none

end Flags

-- What is left of the expression, and the names of groups so far.
structure Source where
  rest : List Char
  names : List (List Char)

-- A reader fails on an invalid expression.
abbrev Reader := StateT Source Option

namespace Reader

def peek : Reader (Option Char) := return (← get).rest.head?

def advance (n : Nat) : Reader Unit := modify fun s => { s with rest := s.rest.drop n }

def next : Reader Char := do
  let some c ← peek | failure
  advance 1
  return c

def isNext (cs : List Char) : Reader Bool := return cs.isPrefixOf (← get).rest

-- Takes the characters if they come next.
def accept (cs : List Char) : Reader Bool := do
  if ← isNext cs then
    advance cs.length
    return true
  return false

def expect (c : Char) : Reader Unit := do
  unless ← accept [c] do failure

def takeWhile (p : Char → Bool) : Reader (List Char) := do
  let rest := (← get).rest
  modify fun s => { s with rest := rest.dropWhile p }
  return rest.takeWhile p

-- A text without leading blanks and comments, which end with their line.
def dropSpace : Nat → List Char → List Char
  | 0, cs => cs
  | fuel + 1, cs =>
    match cs.dropWhile isBlank with
    | '#' :: rest => dropSpace fuel (rest.dropWhile (· ≠ '\n'))
    | rest => rest

def skipSpace (f : Flags) : Reader Unit := do
  if f.spaced then
    modify fun s => { s with rest := dropSpace s.rest.length s.rest }

-- Takes a character and the space behind it.
def step (f : Flags) : Reader Unit := do
  advance 1
  skipSpace f

end Reader

open Reader

-- Digits, with space between them where it counts for nothing.
def readDigits (f : Flags) : Nat → Reader (List Char)
  | 0 => return []
  | budget + 1 => do
    match ← peek with
    | some c =>
      if c.isDigit then
        step f
        return c :: (← readDigits f budget)
      else return []
    | none => return []

-- Numbers may have blanks around them, and fit 32 bits.
def readCount (f : Flags) : Reader Nat := do
  let _ ← takeWhile isBlank
  let digits ← readDigits f (← get).rest.length
  let _ ← takeWhile isBlank
  if digits.isEmpty then failure
  let n := digits.foldl (fun n c => n * 10 + (c.toNat - '0'.toNat)) 0
  if 1 <<< 32 ≤ n then failure
  return n

def scalar (n : Nat) : Reader Char := do
  if n.isValidChar then return Char.ofNat n
  failure

def hexNumber (cs : List Char) : Option Nat :=
  cs.foldlM (fun n c => (hexDigit? c).map (n * 16 + ·)) 0

def readHexDigits (f : Flags) : Nat → Reader (List Char)
  | 0 => return []
  | n + 1 => do
    let c ← next
    if n ≠ 0 then skipSpace f
    return c :: (← readHexDigits f n)

-- A code point behind its escape letter: digits in braces, or exactly so many.
def readCodePoint (f : Flags) (digits : Nat) : Reader Char := do
  skipSpace f
  let cs ←
    if ← accept ['\x7b'] then
      let cs ← takeWhile (· ≠ '\x7d')
      expect '\x7d'
      pure (if f.spaced then cs.filter (!isBlank ·) else cs)
    else readHexDigits f digits
  if cs.isEmpty then failure
  scalar (← hexNumber cs)

-- The first place at which a text starts with `mark`: what is in front of it, and what is behind it.
def splitAt? (mark : List Char) : List Char → Option (List Char × List Char)
  | [] => none
  | c :: rest =>
    if mark.isPrefixOf (c :: rest) then some ([], (c :: rest).drop mark.length)
    else (splitAt? mark rest).map fun p => (c :: p.1, p.2)

-- A property with its value, or its name alone. All three signs between them ask for the value.
def propertySet? (cs : List Char) : Option CharSet :=
  match splitAt? ['!', '='] cs <|> splitAt? [':'] cs <|> splitAt? ['='] cs with
  | some p => CharSet.ofKind? (CharSet.plainName p.1) (CharSet.plainName p.2)
  | none => CharSet.named? (CharSet.plainName cs)

-- A set that does not tell case apart if the flags say so.
def foldedIf (f : Flags) (s : CharSet) : CharSet :=
  if f.ignoreCase then s.folded (!f.unicode) else s

-- The property behind its escape letter: one letter, or a name in braces.
def readProperty (f : Flags) : Reader CharSet := do
  skipSpace f
  let c ← next
  let name ←
    if c = '\x7b' then
      let cs ← takeWhile (· ≠ '\x7d')
      expect '\x7d'
      pure (if f.spaced then cs.filter (!isBlank ·) else cs)
    else if c = '\\' then failure
    else pure [c]
  return foldedIf f (← propertySet? name)

def wordSet (f : Flags) : CharSet := if f.unicode then isWord else CharSet.asciiWord

-- The sets of the letters for digits, blanks and word characters.
def letterSet? (f : Flags) : Char → Option CharSet
  | 'd' => some (if f.unicode then CharSet.digit else CharSet.asciiDigit)
  | 's' => some (if f.unicode then isBlank else CharSet.asciiSpace)
  | 'w' => some (wordSet f)
  | _ => none

-- What an escape, or a character by itself, stands for.
inductive Atom where
  | char (c : Char)
  | set (s : CharSet)
  | look (test : PlaceTest)

def readSideName (f : Flags) : Nat → Reader (List Char)
  | 0 => return []
  | budget + 1 => do
    match ← peek with
    | some c =>
      if c.isAlpha || c == '-' then
        step f
        return c :: (← readSideName f budget)
      else return []
    | none => return []

-- A name in braces may say which side of a boundary is meant. Anything else there is a repetition.
def readBoundary (f : Flags) : Reader PlaceTest := do
  let word := wordSet f
  let saved ← get
  let name ←
    if (← peek) = some '\x7b' then
      step f
      readSideName f (← get).rest.length
    else pure []
  if name.isEmpty then
    set saved
    return .boundary word
  expect '\x7d'
  match String.ofList name with
  | "start" => return .wordStart word
  | "end" => return .wordEnd word
  | "start-half" => return .not (.wordBefore word)
  | "end-half" => return .not (.wordAfter word)
  | _ => failure

def controlChar? : Char → Option Char
  | 'a' => some '\x07'
  | 'f' => some '\x0c'
  | 't' => some '\t'
  | 'n' => some '\n'
  | 'r' => some '\r'
  | 'v' => some '\x0b'
  | _ => none

-- An escape behind its backslash. Outside Unicode no set reaches beyond ASCII.
def readEscape (f : Flags) : Reader Atom := do
  let c ← next
  let inScope (s : CharSet) : Reader Atom := do
    if !f.unicode && s.leavesAscii then failure
    return .set s
  match c with
  | 'x' =>
    skipSpace f
    let braced := (← peek) = some '\x7b'
    let c ← readCodePoint f 2
    if !f.unicode && !braced && 128 ≤ c.toNat then failure
    return .char c
  | 'u' => return .char (← readCodePoint f 4)
  | 'U' => return .char (← readCodePoint f 8)
  | 'p' | 'P' =>
    unless f.unicode do failure
    return .set (CharSet.complIf (c == 'P') (← readProperty f))
  | 'A' => return .look .textStart
  | 'z' => return .look .textEnd
  | 'b' => return .look (← readBoundary f)
  | 'B' => return .look (.not (.boundary (wordSet f)))
  | '<' => return .look (.wordStart (wordSet f))
  | '>' => return .look (.wordEnd (wordSet f))
  | c =>
    match letterSet? f c, letterSet? f c.toLower, controlChar? c with
    | some s, _, _ => inScope s
    | none, some s, _ => inScope s.compl
    | none, none, some c => return .char c
    | none, none, none =>
      if c.isAlphanum || 128 ≤ c.toNat then failure
      return .char c

-- The set of one character under the flags.
def charSet (f : Flags) (c : Char) : CharSet := foldedIf f (.one c)

-- A character or an escape inside a bracket.
def readClassAtom (f : Flags) : Reader Atom := do
  let c ← next
  let atom ← if c = '\\' then readEscape f else pure (.char c)
  match atom with
  | .char c =>
    if !f.unicode && 128 ≤ c.toNat then failure
    return .char c
  | .set s => return .set s
  | .look _ => failure

-- Whether the hyphen that comes next is one by itself: in front of the end or of another hyphen.
def hyphenAlone (f : Flags) : Reader Bool := do
  let rest := (← get).rest.tail
  let rest := if f.spaced then dropSpace rest.length rest else rest
  return rest.head? == some ']' || rest.head? == some '-'

-- A range, or a single item, inside a bracket.
def readClassItem (f : Flags) : Reader CharSet := do
  let first ← readClassAtom f
  skipSpace f
  let isRange ← if (← peek) = some '-' then pure !(← hyphenAlone f) else pure false
  if isRange then
    step f
    match first, ← readClassAtom f with
    | .char a, .char b => if a ≤ b then return .range a b else failure
    | _, _ => failure
  else
    match first with
    | .char c => return .one c
    | .set s => return s
    | .look _ => failure

-- A named ASCII class such as `[:alpha:]`, if one comes next.
def readPosix (f : Flags) : Reader (Option CharSet) := do
  let saved ← get
  if ← accept ['[', ':'] then
    let negated ← accept ['^']
    let name ← takeWhile (· ≠ ':')
    if ← accept [':', ']'] then
      if let some s := CharSet.posix? (String.ofList name) then
        return some (.complIf negated (foldedIf f s))
  set saved
  return none

def classOperation? : List Char → Option (CharSet → CharSet → CharSet)
  | '&' :: '&' :: _ => some .inter
  | '-' :: '-' :: _ => some .diff
  | '~' :: '~' :: _ => some .symmDiff
  | _ => none

-- Hyphens with space between them, and whether there are any.
def readHyphens (f : Flags) : Nat → Reader Bool
  | 0 => return false
  | budget + 1 => do
    if (← peek) = some '-' then
      step f
      let _ ← readHyphens f budget
      return true
    return false

mutual

-- A bracket behind its opening. Hyphens at its start, or else a closing bracket there, are members.
def readClass : Nat → Flags → Reader CharSet
  | 0, _ => failure
  | fuel + 1, f => do
    skipSpace f
    let negated ← accept ['^']
    skipSpace f
    let hyphens ← readHyphens f (← get).rest.length
    let closing ← if hyphens then pure false else accept [']']
    let start : CharSet := fun c => (c == '-' && hyphens) || (c == ']' && closing)
    let s := CharSet.complIf negated (foldedIf f (← readClassRest fuel f id start))
    if !f.unicode && s.leavesAscii then failure
    return s

-- The rest of a bracket: `before` applies the operation that is waiting for its right side, and
-- `union` is that side so far.
def readClassRest : Nat → Flags → (CharSet → CharSet) → CharSet → Reader CharSet
  | 0, _, _, _ => failure
  | fuel + 1, f, before, union => do
    skipSpace f
    match classOperation? (← get).rest with
    | some operation =>
      advance 2
      readClassRest fuel f (operation (before (foldedIf f union))) .empty
    | none =>
      match ← peek with
      | none => failure
      | some ']' =>
        advance 1
        return before (foldedIf f union)
      | some '[' =>
        match ← readPosix f with
        | some s => readClassRest fuel f before (union.union s)
        | none =>
          advance 1
          let s ← readClass fuel f
          readClassRest fuel f before (union.union s)
      | some _ => readClassRest fuel f before (union.union (← readClassItem f))

end

-- Flags up to the end of their list. No flag stands there twice, and a minus sign turns off those
-- behind it.
def readFlags : List Char → Bool → List Char → Flags → Reader Flags
  | [], _, _, _ => failure
  | _ :: budget, on, seen, f => do
    match ← peek with
    | none => failure
    | some ':' | some ')' => if seen.head? = some '-' then failure else return f
    | some '-' =>
      if !on then failure
      advance 1
      readFlags budget false ('-' :: seen) f
    | some c =>
      if seen.contains c then failure
      advance 1
      readFlags budget on (c :: seen) (← f.set? c on)

-- What an opening parenthesis starts: a group that is read with flags of its own, or nothing but a
-- change of the flags behind it.
inductive Opening where
  | group (inner : Flags)
  | change (f : Flags)

def readName : Reader Unit := do
  let name ← takeWhile (· ≠ '>')
  expect '>'
  let isFirst (c : Char) : Bool := c == '_' || isAlphabetic c
  let isLater (c : Char) : Bool :=
    c == '_' || c == '.' || c == '[' || c == ']' || isAlphanumeric c
  match name with
  | [] => failure
  | c :: rest => unless isFirst c && rest.all isLater do failure
  let names := (← get).names
  if names.contains name then failure
  modify fun s => { s with names := name :: names }

def readOpening (f : Flags) : Reader Opening := do
  skipSpace f
  if (← isNext ['?', '=']) || (← isNext ['?', '!']) || (← isNext ['?', '<', '=']) ||
      (← isNext ['?', '<', '!']) then failure
  if (← accept ['?', 'P', '<']) || (← accept ['?', '<']) then
    readName
    return .group f
  if ← accept ['?'] then
    let rest := (← get).rest
    let inner ← readFlags rest true [] f
    if ← accept [':'] then return .group inner
    if (← isNext [')']) && rest.head? != some ')' then
      advance 1
      return .change inner
    failure
  return .group f

-- The bounds of a repetition behind its opening brace.
def readBounds (f : Flags) : Reader (Nat × Option Nat) := do
  skipSpace f
  let low ← readCount f
  let high ←
    if ← accept [','] then
      skipSpace f
      if (← peek) = some '\x7d' then pure none else pure (some (← readCount f))
    else pure (some low)
  expect '\x7d'
  skipSpace f
  if high.any (· < low) then failure
  return (low, high)

def seqAll (items : List (Option Regex)) : Regex :=
  items.foldl (fun r item => match item with
    | some x => .seq x r
    | none => r) .empty

def altAfter (done : Option Regex) (r : Regex) : Regex :=
  match done with
  | some d => .alt d r
  | none => r

def dotSet (f : Flags) : CharSet := fun c =>
  f.dotAll || (c != '\n' && !(f.returns && c == '\r'))

def lineStart (f : Flags) : PlaceTest :=
  if !f.lines then .textStart else if f.returns then .returnLineStart else .lineStart

def lineEnd (f : Flags) : PlaceTest :=
  if !f.lines then .textEnd else if f.returns then .returnLineEnd else .lineEnd

-- A character or an escape outside of brackets.
def readPrimitive (f : Flags) : Reader Regex := do
  let c ← next
  match c with
  | '\\' =>
    match ← readEscape f with
    | .char c => return .one (charSet f c)
    | .set s => return .one s
    | .look test => return .look test
  | '.' => if f.unicode then return .one (dotSet f) else failure
  | '^' => return .look (lineStart f)
  | '$' => return .look (lineEnd f)
  | c => return .one (charSet f c)

-- The alternatives up to the end or to a closing parenthesis. `items` are those of the open
-- alternative, the last first; a change of flags is an item that cannot be repeated.
def readBody : Nat → Flags → Option Regex → List (Option Regex) → Reader Regex
  | 0, _, _, _ => failure
  | fuel + 1, f, done, items => do
    skipSpace f
    let repeated (low : Nat) (high : Option Nat) : Reader Regex := do
      let some (some r) := items.head? | failure
      let _ ← accept ['?']
      readBody fuel f done (some (.times r low high) :: items.tail)
    match ← peek with
    | none | some ')' => return altAfter done (seqAll items)
    | some '|' =>
      advance 1
      readBody fuel f (some (altAfter done (seqAll items))) []
    | some '(' =>
      advance 1
      match ← readOpening f with
      | .change f => readBody fuel f done (none :: items)
      | .group inner =>
        let r ← readBody fuel inner none []
        expect ')'
        readBody fuel f done (some r :: items)
    | some '[' =>
      advance 1
      let s ← readClass fuel f
      readBody fuel f done (some (.one s) :: items)
    | some '?' =>
      advance 1
      repeated 0 (some 1)
    | some '*' =>
      advance 1
      repeated 0 none
    | some '+' =>
      advance 1
      repeated 1 none
    | some '\x7b' =>
      advance 1
      let (low, high) ← readBounds f
      repeated low high
    | some _ =>
      let r ← readPrimitive f
      readBody fuel f done (some r :: items)

-- The expression that a whole text writes. Each step takes a character or ends a group.
def ofText? (pattern : String) : Option Regex := do
  let cs := pattern.toList
  let (r, source) ← (readBody (2 * cs.length + 2) .initial none []).run ⟨cs, []⟩
  if source.rest.isEmpty then some r else none

end Regex

end Verdict
