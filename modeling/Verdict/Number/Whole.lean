namespace Verdict

inductive WholeError where
  | empty
  | invalidDigit
  | tooLarge
  | tooSmall
  deriving DecidableEq, Repr

def WholeError.message : WholeError → String
  | .empty => "cannot parse integer from empty string"
  | .invalidDigit => "invalid digit found in string"
  | .tooLarge => "number too large to fit in target type"
  | .tooSmall => "number too small to fit in target type"

structure WholeBounds where
  low : Int
  high : Int
  deriving DecidableEq, Repr

namespace WholeBounds

def signed (bits : Nat) : WholeBounds :=
  let half : Nat := 1 <<< (bits - 1)
  ⟨-half, half - 1⟩

def unsigned (bits : Nat) : WholeBounds :=
  let bound : Nat := 1 <<< bits
  ⟨0, bound - 1⟩

-- Takes digits behind those of `n`, away from zero.
def digits (b : WholeBounds) (negative : Bool) (n : Int) : List Char → Except WholeError Int
  | [] => .ok n
  | c :: rest =>
    if c.isDigit then
      let d : Int := c.toNat - '0'.toNat
      let next := if negative then n * 10 - d else n * 10 + d
      if b.high < next then .error .tooLarge
      else if next < b.low then .error .tooSmall
      else b.digits negative next rest
    else .error .invalidDigit

-- A plus sign may stand in front, and a minus sign if the bounds reach below zero.
def read (b : WholeBounds) (s : String) : Except WholeError Int :=
  match s.toList with
  | [] => .error .empty
  | ['+'] | ['-'] => .error .invalidDigit
  | '+' :: rest => b.digits false 0 rest
  | '-' :: rest => if b.low < 0 then b.digits true 0 rest else .error .invalidDigit
  | cs => b.digits false 0 cs

end WholeBounds

end Verdict
