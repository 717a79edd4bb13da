namespace Verdict

namespace Glob

def separator : Char := '/'

inductive Item where
  | one (c : Char)
  | range (first last : Char)
  deriving DecidableEq, Repr

def Item.contains (item : Item) (c : Char) : Bool :=
  match item with
  | .one x => x == c
  | .range first last => first ≤ c && c ≤ last

-- Separators are ordinary characters to all but a token for whole components.
inductive Token where
  | char (c : Char)
  | any
  -- some text, or with `components` some whole path components
  | text (components : Bool)
  | within (items : List Item)
  | except (items : List Item)
  deriving DecidableEq, Repr

-- The items inside a bracket; a hyphen between two characters makes a range.
def readItems : List Char → List Item
  | first :: '-' :: last :: rest => .range first last :: readItems rest
  | c :: rest => .one c :: readItems rest
  | [] => []

-- A bracket behind its opening: what it holds, and the rest. The first character inside is never the
-- closing one.
def readBracket? (cs : List Char) : Option (Token × List Char) :=
  let close (wrap : List Item → Token) : List Char → Option (Token × List Char)
    | first :: rest =>
      match rest.dropWhile (· ≠ ']') with
      | _ :: after => some (wrap (readItems (first :: rest.takeWhile (· ≠ ']'))), after)
      | [] => none
    | [] => none
  match cs with
  | '!' :: rest => close .except rest
  | cs => close .within cs

-- Whether a token for whole components is already last. One alone at the start does not count.
def endsInComponents (before : List Token) : Bool :=
  match before with
  | .text true :: _ :: _ => true
  | _ => false

-- The tokens of a pattern, `before` being those already read, the last one first, and `previous` the
-- character in front. A pair of stars has to be a whole component, and takes the separator behind it.
def read? (fuel : Nat) (before : List Token) (previous : Option Char) (cs : List Char) :
    Option (List Token) :=
  match fuel, cs with
  | 0, _ => none
  | _, [] => some before.reverse
  | fuel + 1, '?' :: rest => read? fuel (.any :: before) (some '?') rest
  | _, '*' :: '*' :: '*' :: _ => none
  | fuel + 1, '*' :: '*' :: rest =>
    if previous.all (· == separator) then
      let before := if endsInComponents before then before else .text true :: before
      match rest with
      | [] => some before.reverse
      | c :: rest => if c = separator then read? fuel before (some c) rest else none
    else none
  | fuel + 1, '*' :: rest => read? fuel (.text false :: before) (some '*') rest
  | fuel + 1, '[' :: rest => do
    let (token, rest) ← readBracket? rest
    read? fuel (token :: before) (some ']') rest
  | fuel + 1, c :: rest => read? fuel (.char c :: before) (some c) rest

def ofText? (pattern : String) : Option (List Token) :=
  let cs := pattern.toList
  read? (cs.length + 1) [] none cs

def Token.accepts (t : Token) (c : Char) : Bool :=
  match t with
  | .char x => x == c
  | .any | .text _ => true
  | .within items => items.any (·.contains c)
  | .except items => !items.any (·.contains c)

-- How an attempt ends. When the text ran out under a token that needs a character, no other attempt
-- with less text can do better.
inductive Outcome where
  | matched
  | mismatched
  | ranOut
  deriving DecidableEq, Repr

mutual

def attempt (tokens : List Token) (text : List Char) : Outcome :=
  match tokens, text with
  | [], [] => .matched
  | [], _ :: _ => .mismatched
  | .text components :: rest, text =>
    match attempt rest text with
    | .mismatched => attemptLater components rest text
    | outcome => outcome
  | _ :: _, [] => .ranOut
  | token :: rest, c :: text => if token.accepts c then attempt rest text else .mismatched
termination_by (tokens.length, text.length + 1)

-- Lets the text token in front of `rest` take ever more characters; components end at separators.
def attemptLater (components : Bool) (rest : List Token) (text : List Char) : Outcome :=
  match text with
  | [] => attempt rest []
  | c :: text =>
    if components && c != separator then attemptLater components rest text
    else
      match attempt rest text with
      | .mismatched => attemptLater components rest text
      | outcome => outcome
termination_by (rest.length + 1, text.length)

end

def accepts (tokens : List Token) (text : String) : Bool :=
  attempt tokens text.toList == .matched

end Glob

end Verdict
