import Verdict.Value.Equality

namespace Verdict

inductive CompareOp where
  | equal
  | notEqual
  | less
  | lessOrEqual
  | greater
  | greaterOrEqual
  deriving DecidableEq, Repr, Inhabited

namespace CompareOp

def symbol : CompareOp → String
  | .equal => "=="
  | .notEqual => "!="
  | .less => "<"
  | .lessOrEqual => "<="
  | .greater => ">"
  | .greaterOrEqual => ">="

def all : List CompareOp := [.equal, .notEqual, .less, .lessOrEqual, .greater, .greaterOrEqual]

def ofSymbol? (symbol : String) : Option CompareOp := all.find? (·.symbol == symbol)

-- Whether an ordering operator accepts an order; the two equalities ask no order.
def accepts : CompareOp → Ordering → Bool
  | .equal, o => o == .eq
  | .notEqual, o => o != .eq
  | .less, o => o == .lt
  | .lessOrEqual, o => o != .gt
  | .greater, o => o == .gt
  | .greaterOrEqual, o => o != .lt

-- Values without an order between them make every ordering operator false.
def apply (h : Heap) (op : CompareOp) (left right : Value) : Bool :=
  match op with
  | .equal => left.equals h right
  | .notEqual => !left.equals h right
  | op =>
    match left.order h right with
    | .ok o => op.accepts o
    | .error _ => false

end CompareOp

end Verdict
