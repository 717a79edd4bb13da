import Verdict.Value.Basic

namespace Verdict

-- A whole number is taken exactly against another, and as the nearest double against a double.
inductive Number where
  | whole (n : Int)
  | real (x : Binary64)

def Number.compare : Number → Number → Option Ordering
  | .whole m, .whole n => some (Ord.compare m n)
  | .whole m, .real y => (Binary64.ofInt m).compare y
  | .real x, .whole n => x.compare (.ofInt n)
  | .real x, .real y => x.compare y

def Value.number? : Value → Option Number
  | .int n => some (.whole n)
  | .uint n => some (.whole n)
  | .float x => some (.real x)
  | _ => none

-- Two values without an order between them, by the names of their kinds.
structure Incomparable where
  left : String
  right : String
  deriving DecidableEq, Repr

def Incomparable.message (e : Incomparable) : String :=
  "cannot order " ++ e.left ++ " against " ++ e.right

def Value.incomparable (h : Heap) (a b : Value) : Incomparable := ⟨a.kindName h, b.kindName h⟩

mutual

def Value.order (h : Heap) : Value → Value → Except Incomparable Ordering
  | .seq xs, .seq ys => itemsOrder h xs ys
  | .bool a, .bool b => .ok (Ord.compare a b)
  | .char a, .char b => .ok (Ord.compare a.toNat b.toNat)
  | .text a, .text b => .ok (Ord.compare a b)
  | .moment a, .moment b => .ok (a.compare b)
  | a, b =>
    match a.number?, b.number? with
    | some m, some n =>
      match m.compare n with
      | some o => .ok o
      | none => .error (a.incomparable h b)
    | _, _ => .error (a.incomparable h b)

-- The first pair that is not equal decides, also by having no order; then the lengths do.
def itemsOrder (h : Heap) : List Value → List Value → Except Incomparable Ordering
  | [], [] => .ok .eq
  | [], _ :: _ => .ok .lt
  | _ :: _, [] => .ok .gt
  | x :: xs, y :: ys =>
    match x.order h y with
    | .ok .eq => itemsOrder h xs ys
    | other => other

end

end Verdict
