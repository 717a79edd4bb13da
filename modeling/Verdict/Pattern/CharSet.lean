import Verdict.Text.Fold
import Verdict.Text.Property
import Verdict.Text.Script

namespace Verdict

abbrev CharSet := Char → Bool

namespace CharSet

def empty : CharSet := fun _ => false

def one (c : Char) : CharSet := fun x => x == c

def range (first last : Char) : CharSet := fun x => first ≤ x && x ≤ last

def union (a b : CharSet) : CharSet := fun x => a x || b x

def inter (a b : CharSet) : CharSet := fun x => a x && b x

def diff (a b : CharSet) : CharSet := fun x => a x && !b x

def symmDiff (a b : CharSet) : CharSet := fun x => a x != b x

def compl (a : CharSet) : CharSet := fun x => !a x

def complIf (negated : Bool) (a : CharSet) : CharSet := if negated then a.compl else a

def isAscii : CharSet := fun x => x.toNat < 128

-- With all characters that differ from a member in case alone; of ASCII letters only, if so asked.
def folded (ascii : Bool) (a : CharSet) : CharSet := fun x =>
  a x || (Fold.variants x).any fun y => a y && (!ascii || (isAscii x && isAscii y))

-- Whether there is a member behind ASCII in the first 256 characters.
def leavesAscii (a : CharSet) : Bool := (List.range 128).any fun i => a (Char.ofNat (128 + i))

def asciiDigit : CharSet := range '0' '9'

def asciiSpace : CharSet := fun x => x == ' ' || ('\t' ≤ x && x ≤ '\r')

def asciiWord : CharSet := fun x => x.isAlphanum || x == '_'

def digit : CharSet := fun x => Category.ofChar x == .nd

-- The ASCII classes with names.
def posix? : String → Option CharSet
  | "alnum" => some Char.isAlphanum
  | "alpha" => some Char.isAlpha
  | "ascii" => some isAscii
  | "blank" => some fun x => x == ' ' || x == '\t'
  | "cntrl" => some fun x => x < ' ' || x == '\x7f'
  | "digit" => some asciiDigit
  | "graph" => some (range '!' '~')
  | "lower" => some (range 'a' 'z')
  | "print" => some (range ' ' '~')
  | "punct" => some fun x => range '!' '~' x && !x.isAlphanum
  | "space" => some asciiSpace
  | "upper" => some (range 'A' 'Z')
  | "word" => some asciiWord
  | "xdigit" => some fun x => asciiDigit x || range 'a' 'f' x || range 'A' 'F' x
  | _ => none

-- Lower case characters that are no lower case letters, and the same for upper case.
def otherLower : CodeRanges := .ofText
  "AA BA 2B0-2B8 2C0-2C1 2E0-2E4 345 37A 10FC 1D2C-1D6A 1D78 1D9B-1DBF 2071 207F 2090-209C 2170-217F
24D0-24E9 2C7C-2C7D A69C-A69D A770 A7F2-A7F4 A7F8-A7F9 AB5C-AB5F AB69 10780 10783-10785 10787-107B0
107B2-107BA 1E030-1E06D"

def otherUpper : CodeRanges := .ofText "2160-216F 24B6-24CF 1F130-1F149 1F150-1F169 1F170-1F189"

-- A name as it is looked up: in lower case, of ASCII characters, without blanks, hyphens, underscores
-- and a leading `is`. A `c` behind that does not count as a name.
def plainName (name : List Char) : String :=
  let named := (name.take 2).map Char.toLower = ['i', 's']
  let cs := (if named then name.drop 2 else name).map Char.toLower
  let cs := cs.filter fun c => c ≠ ' ' ∧ c ≠ '-' ∧ c ≠ '_' ∧ c.toNat < 128
  String.ofList (if named ∧ cs = ['c'] then ['i', 's', 'c'] else cs)

def ofCategories (gs : List Category) : CharSet := fun x => gs.contains (Category.ofChar x)

-- The general categories and their groups, by plain names.
def categoryNames : List (List String × List Category) :=
  [(["l", "letter"], [.lu, .ll, .lt, .lm, .lo]), (["lc", "casedletter"], [.lu, .ll, .lt]),
    (["lu", "uppercaseletter"], [.lu]), (["ll", "lowercaseletter"], [.ll]),
    (["lt", "titlecaseletter"], [.lt]), (["lm", "modifierletter"], [.lm]),
    (["lo", "otherletter"], [.lo]), (["m", "mark", "combiningmark"], [.mn, .mc, .me]),
    (["mn", "nonspacingmark"], [.mn]), (["mc", "spacingmark"], [.mc]),
    (["me", "enclosingmark"], [.me]), (["n", "number"], [.nd, .nl, .no]),
    (["nd", "decimalnumber", "digit"], [.nd]), (["nl", "letternumber"], [.nl]),
    (["no", "othernumber"], [.no]), (["p", "punctuation", "punct"], [.pc, .pd, .ps, .pe, .pi, .pf, .po]),
    (["pc", "connectorpunctuation"], [.pc]), (["pd", "dashpunctuation"], [.pd]),
    (["ps", "openpunctuation"], [.ps]), (["pe", "closepunctuation"], [.pe]),
    (["pi", "initialpunctuation"], [.pi]), (["pf", "finalpunctuation"], [.pf]),
    (["po", "otherpunctuation"], [.po]), (["s", "symbol"], [.sm, .sc, .sk, .so]),
    (["sm", "mathsymbol"], [.sm]), (["sc", "currencysymbol"], [.sc]),
    (["sk", "modifiersymbol"], [.sk]), (["so", "othersymbol"], [.so]),
    (["z", "separator"], [.zs, .zl, .zp]), (["zs", "spaceseparator"], [.zs]),
    (["zl", "lineseparator"], [.zl]), (["zp", "paragraphseparator"], [.zp]),
    (["c", "other"], [.cc, .cf, .cs, .co, .cn]), (["cc", "control", "cntrl"], [.cc]),
    (["cf", "format"], [.cf]), (["co", "privateuse"], [.co]), (["cn", "unassigned"], [.cn])]

def category? (name : String) : Option CharSet :=
  match name with
  | "any" => some fun _ => true
  | "ascii" => some isAscii
  | "assigned" => some fun x => Category.ofChar x != .cn
  | name => (categoryNames.find? fun g => g.1.contains name).map fun g => ofCategories g.2

def script? (name : String) : Option CharSet := (Script.ofName? name).map (·.contains)

def property? : String → Option CharSet
  | "alpha" | "alphabetic" => some isAlphabetic
  | "lower" | "lowercase" => some fun x => Category.ofChar x == .ll || otherLower.contains x
  | "upper" | "uppercase" => some fun x => Category.ofChar x == .lu || otherUpper.contains x
  | "space" | "whitespace" | "wspace" => some isBlank
  | _ => none

-- A property by its plain name.
def named? (name : String) : Option CharSet :=
  property? name <|> category? name <|> script? name

-- A property by the plain names of its kind and its value.
def ofKind? (kind value : String) : Option CharSet :=
  match kind with
  | "gc" | "generalcategory" => category? value
  | "sc" | "script" | "scx" | "scriptextensions" => script? value
  | _ => none

end CharSet

end Verdict
