import Verdict.Pattern.CharSet

namespace Verdict

-- A condition on a place, by the characters on either side.
abbrev PlaceTest := Option Char → Option Char → Bool

inductive Regex where
  | empty
  | one (set : CharSet)
  | look (test : PlaceTest)
  | seq (a b : Regex)
  | alt (a b : Regex)
  -- so many times at least, and at most if there is a bound
  | times (r : Regex) (low : Nat) (high : Option Nat)

namespace Regex

-- An expression with every condition worked out for one text.
inductive Steps where
  | stay
  | across (places : Nat)
  | only (places : Nat)
  | seq (a b : Steps)
  | alt (a b : Steps)
  | times (r : Steps) (low more : Nat)

-- The places of a text are numbered from 0 in front of its first character.
-- The set of places with a truth value each, the first place first.
def placeSet : List Bool → Nat
  | [] => 0
  | b :: rest => 2 * placeSet rest + (if b then 1 else 0)

-- The places in front of the characters of a set.
def charPlaces (text : List Char) (set : CharSet) : Nat := placeSet (text.map set)

-- The places that pass a test, `before` being the character in front of the text.
def testPlaces (test : PlaceTest) (before : Option Char) : List Char → List Bool
  | [] => [test before none]
  | c :: rest => test before (some c) :: testPlaces test (some c) rest

-- A text of n characters has n + 1 places. A step never goes back, so more than n + 1 repetitions can
-- do nothing that n + 1 cannot.
def on (text : List Char) : Regex → Steps
  | .empty => .stay
  | .one set => .across (charPlaces text set)
  | .look test => .only (placeSet (testPlaces test none text))
  | .seq a b => .seq (a.on text) (b.on text)
  | .alt a b => .alt (a.on text) (b.on text)
  | .times r low high =>
    let enough := text.length + 1
    .times (r.on text) (min low enough) (min ((high.map (· - low)).getD enough) enough)

-- So many steps, or as many as it takes until nothing changes.
def settle (f : Nat → Nat) : Nat → Nat → Nat
  | 0, s => s
  | n + 1, s =>
    let next := f s
    if next = s then s else settle f n next

-- The places that the steps lead to.
def Steps.after : Steps → Nat → Nat
  | .stay, s => s
  | .across places, s => (s &&& places) <<< 1
  | .only places, s => s &&& places
  | .seq a b, s => b.after (a.after s)
  | .alt a b, s => a.after s ||| b.after s
  | .times r low more, s =>
    let least := settle r.after low s
    settle (fun t => least ||| r.after t) more least

-- Whether the expression matches anywhere in the text.
def occursIn (r : Regex) (text : String) : Bool :=
  let cs := text.toList
  (r.on cs).after (placeSet (List.replicate (cs.length + 1) true)) != 0

def ofChars : List Char → Regex
  | [] => .empty
  | c :: rest => .seq (.one (.one c)) (ofChars rest)

end Regex

namespace PlaceTest

def textStart : PlaceTest := fun before _ => before.isNone

def textEnd : PlaceTest := fun _ after => after.isNone

def lineStart : PlaceTest := fun before _ => before.all (· == '\n')

def lineEnd : PlaceTest := fun _ after => after.all (· == '\n')

-- Lines that may end in a return, a line feed, or both together.
def returnLineStart : PlaceTest := fun before after =>
  before.all (· == '\n') || (before == some '\r' && after != some '\n')

def returnLineEnd : PlaceTest := fun before after =>
  after.all (· == '\r') || (after == some '\n' && before != some '\r')

def wordBefore (word : CharSet) : PlaceTest := fun before _ => before.any word

def wordAfter (word : CharSet) : PlaceTest := fun _ after => after.any word

def boundary (word : CharSet) : PlaceTest := fun before after =>
  wordBefore word before after != wordAfter word before after

def wordStart (word : CharSet) : PlaceTest := fun before after =>
  !wordBefore word before after && wordAfter word before after

def wordEnd (word : CharSet) : PlaceTest := fun before after =>
  wordBefore word before after && !wordAfter word before after

def not (test : PlaceTest) : PlaceTest := fun before after => !test before after

end PlaceTest

end Verdict
