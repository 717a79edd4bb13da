import Verdict.Yaml.Scalar

namespace Verdict.Yaml

namespace Reader

def isNameChar (c : Char) : Bool := c.isAlphanum || c == '-' || c == '_'

-- Blanks, comments and empty lines in front of a token. A tab is no blank where a key may start.
def skipToToken : Nat → Reader Unit
  | 0 => failure
  | fuel + 1 => do
    let tabs := (← inFlow) || !(← get).keyAllowed
    let _ ← takeWhile fun c => c == ' ' || (tabs && c == '\t')
    if (← peek) = some '#' then
      let _ ← takeWhile (!isBreak ·)
    if (← peek).any isBreak then
      let _ ← takeBreak
      unless ← inFlow do allowKey true
      skipToToken fuel

-- The name of an anchor or alias behind its mark.
def readName : Reader String := do
  let name ← takeWhile isNameChar
  let ends := (← peek).all fun c =>
    isBlank c || isBreak c || ['?', ':', ',', ']', '\x7d', '%', '@', '`'].contains c
  if name.isEmpty || !ends then failure
  return String.ofList name

def isUriChar (verbatim : Bool) (c : Char) : Bool :=
  isNameChar c || ";/?:@&=+$.!~*'()".toList.contains c ||
    (verbatim && (c == ',' || c == '[' || c == ']'))

-- Characters of a tag; others are written by their bytes, of which only ASCII ones are looked at.
def readUri (verbatim : Bool) : Nat → Reader (List Char)
  | 0 => failure
  | fuel + 1 => do
    match (← get).rest with
    | '%' :: a :: b :: _ =>
      if (hexDigit? a).isNone ∨ (hexDigit? b).isNone then failure
      skip 3
      return Char.ofNat (ofHex [a, b]) :: (← readUri verbatim fuel)
    | c :: _ =>
      if c = '%' then failure
      if isUriChar verbatim c then
        skip 1
        return c :: (← readUri verbatim fuel)
      else return []
    | [] => return []

-- A tag with the handle that it starts with, or none.
def readTag : Reader Token := do
  let budget := (← get).rest.length + 1
  skip 1
  let (handle, suffix) ←
    if (← peek) = some '<' then
      skip 1
      let uri ← readUri true budget
      if uri.isEmpty ∨ (← peek) ≠ some '>' then failure
      skip 1
      pure ([], uri)
    else
      let name ← takeWhile isNameChar
      if (← peek) = some '!' then
        skip 1
        let suffix ← readUri false budget
        if suffix.isEmpty then failure
        pure ('!' :: (name ++ ['!']), suffix)
      else
        let suffix := name ++ (← readUri false budget)
        pure (if suffix.isEmpty then ([], ['!']) else (['!'], suffix))
  let ends := isBlankOrEnd (← peek) || ((← inFlow) && (← peek) == some ',')
  unless ends do failure
  return .tag (String.ofList handle) (String.ofList suffix)

-- A directive behind its mark, up to the end of its line.
def readDirective : Reader Unit := do
  let name ← takeWhile isNameChar
  unless isBlankOrEnd (← peek) do failure
  let _ ← takeWhile isBlank
  if name = "YAML".toList then
    let major ← takeWhile Char.isDigit
    unless (← peek) = some '.' do failure
    skip 1
    let minor ← takeWhile Char.isDigit
    let fits (ds : List Char) : Bool := !ds.isEmpty && ds.length ≤ 9
    unless fits major && fits minor do failure
    let number (ds : List Char) : Nat := ds.foldl (fun n c => n * 10 + (c.toNat - '0'.toNat)) 0
    emit (.version (number major) (number minor))
  else if name = "TAG".toList then
    unless (← peek) = some '!' do failure
    skip 1
    let name ← takeWhile isNameChar
    let closed := (← peek) == some '!'
    if closed then skip 1
    unless closed || name.isEmpty do failure
    unless (← peek).any isBlank do failure
    let _ ← takeWhile isBlank
    let value ← readUri true ((← get).rest.length + 1)
    if value.isEmpty || !isBlankOrEnd (← peek) then failure
    let handle := '!' :: (name ++ if closed then ['!'] else [])
    emit (.tagDirective (String.ofList handle) (String.ofList value))
  else failure
  let _ ← takeWhile isBlank
  if (← peek) = some '#' then
    let _ ← takeWhile (!isBreak ·)
  unless isBreakOrEnd (← peek) do failure
  let _ ← takeBreak

-- A mark that belongs to the document as a whole.
def atTopLevel (read : Reader Unit) : Reader Unit := do
  unindent (-1)
  dropKey
  allowKey false
  read

-- The mark of an entry or key in a block, which opens the block if it is the first.
def openByMark (t : Token) : Reader Unit := do
  unless ← inFlow do
    unless (← get).keyAllowed do failure
    openBlock (← get).column (← get).tokens.size t

-- The mark between a key and its value. A key that started before it gets its own mark now.
def readValueMark : Reader Unit := do
  match (← get).keys.head? with
  | some (some k) =>
    modify fun s => { s with tokens := s.tokens.insertIdxIfInBounds k.tokens .key }
    openBlock k.column k.tokens .blockMapping
    setKey none
    allowKey false
  | _ =>
    openByMark .blockMapping
    allowKey !(← inFlow)
  skip 1
  emit .value

def openFlow (t : Token) : Reader Unit := do
  saveKey
  modify fun s => { s with keys := none :: s.keys }
  allowKey true
  skip 1
  emit t

def closeFlow (t : Token) : Reader Unit := do
  dropKey
  if ← inFlow then modify fun s => { s with keys := s.keys.tail }
  allowKey false
  skip 1
  emit t

-- A token that may be a key.
def readKeyLike (read : Reader Token) : Reader Unit := do
  saveKey
  allowKey false
  emit (← read)

def readPlainToken : Reader Token := do
  let (cs, ended) ← readPlain (← inFlow) ((← get).rest.length + 1) (.blanks [])
  if ended then allowKey true
  return .scalar .plain (String.ofList cs)

def readQuotedToken (quote : Char) : Reader Token := do
  skip 1
  return .scalar .quoted (String.ofList (← readQuoted quote ((← get).rest.length + 1)))

def readBlockToken (folded : Bool) : Reader Unit := do
  dropKey
  allowKey true
  skip 1
  let text ← readBlock folded
  emit (.scalar (if folded then .folded else .literal) (String.ofList text))

def marks : List Char := "-?:,[]\x7b\x7d#&*!|>'\"%@`".toList

-- One token, or more if blocks end in front of it.
def readToken (c : Char) : Reader Unit := do
  let flow ← inFlow
  let next ← ahead 1
  let separate := isBlankOrEnd next
  if (← get).column = 0 ∧ c = '%' then
    atTopLevel do
      skip 1
      readDirective
  else if ← atMark '-' then
    atTopLevel do
      skip 3
      emit .documentStart
  else if ← atMark '.' then
    atTopLevel do
      skip 3
      emit .documentEnd
  else if c = '[' then openFlow .flowSequence
  else if c = '\x7b' then openFlow .flowMapping
  else if c = ']' then closeFlow .flowSequenceEnd
  else if c = '\x7d' then closeFlow .flowMappingEnd
  else if c = ',' then
    dropKey
    allowKey true
    skip 1
    emit .flowEntry
  else if c = '-' ∧ separate then
    openByMark .blockSequence
    dropKey
    allowKey true
    skip 1
    emit .blockEntry
  else if c = '?' ∧ (flow ∨ separate) then
    openByMark .blockMapping
    dropKey
    allowKey !flow
    skip 1
    emit .key
  else if c = ':' ∧ (flow ∨ separate) then readValueMark
  else if c = '*' then
    readKeyLike do
      skip 1
      return .alias (← readName)
  else if c = '&' then
    readKeyLike do
      skip 1
      return .anchor (← readName)
  else if c = '!' then readKeyLike readTag
  else if c = '|' ∧ !flow then readBlockToken false
  else if c = '>' ∧ !flow then readBlockToken true
  else if c = '\'' ∨ c = '"' then readKeyLike (readQuotedToken c)
  else if !(isBlank c || marks.contains c) ∨ (c = '-' ∧ !next.all isBlank) ∨
      (!flow ∧ (c = '?' ∨ c = ':') ∧ !separate) then
    readKeyLike readPlainToken
  else failure

-- All tokens that are left. At the end every block is closed.
def readTokens : Nat → Reader Unit
  | 0 => failure
  | fuel + 1 => do
    skipToToken ((← get).rest.length + 1)
    dropStaleKeys
    unindent (← get).column
    match ← peek with
    | none =>
      unindent (-1)
      dropKey
    | some c =>
      readToken c
      readTokens fuel

end Reader

-- The characters that a text may hold.
def isAllowed (c : Char) : Bool :=
  let n := c.toNat
  c == '\t' || c == '\n' || c == '\r' || (0x20 ≤ n && n ≤ 0x7E) || n == 0x85 ||
    (0xA0 ≤ n && n ≤ 0xFFFD && n ≠ 0xFEFF) || 0x10000 ≤ n

def dropByteOrderMark (cs : List Char) : List Char :=
  if cs.head?.any (·.toNat == 0xFEFF) then cs.tail else cs

def Token.ofText? (s : String) : Option (List Token) := do
  let cs := dropByteOrderMark s.toList
  if cs.all isAllowed then
    let (_, final) ← (Reader.readTokens (cs.length + 1)).run (Reader.start cs)
    return final.tokens.toList
  else none

end Verdict.Yaml
