import Verdict.Comparison.Sequences
import Verdict.Result.Basic
import Verdict.Run

namespace Verdict

-- Work that yields a value in the end. A step changes the state and goes on with what it finds there;
-- between two steps it gives way to other work.
inductive Work (σ : Type) where
  | ready (answer : Callback Value)
  | step (next : σ → σ) (rest : σ → Work σ)

namespace Work

-- All the steps, one after the other.
def finish {σ : Type} : Work σ → Run σ Value
  | .ready answer => fun s => (answer, s)
  | .step next rest => fun s => (rest (next s)).finish (next s)

end Work

structure Leaf (σ : Type) where
  work : Work σ
  declared : Option DeclaredType

-- A named test of one item.
structure Predicate where
  text : String
  test : Value → Callback Bool

def Predicate.accepts (p : Predicate) (v : Value) : Bool := (p.test v).holds

-- A named equality of items.
structure Comparer where
  text : String
  equality : ItemEquality

inductive Expr (σ : Type) where
  | compare (op : CompareOp) (left right : Expr σ)
  | logical (op : LogicalOp) (left right : Expr σ)
  | not (operand : Expr σ)
  -- an access to a member, by its dotted path
  | member (path : List String) (leaf : Leaf σ)
  -- any other expression that is evaluated by the caller's own code
  | leaf (text : String) (leaf : Leaf σ)
  | literal (value : Value) (declared : Option DeclaredType)
  | contains (receiver item : Expr σ)
  | any (receiver : Expr σ) (predicate : Option Predicate)
  | all (receiver : Expr σ) (predicate : Predicate)
  | sequenceEqual (receiver other : Expr σ) (comparer : Option Comparer)

namespace Expr

variable {σ : Type}

-- A member by the text of its path.
def ofPath (path : String) (leaf : Leaf σ) : Expr σ := .member (path.splitOn ".") leaf

-- The declared type of a leaf or literal.
def declared : Expr σ → Option DeclaredType
  | .member _ l | .leaf _ l => l.declared
  | .literal _ d => d
  | _ => none

-- Gives a leaf or literal a declared type, or takes it away; no other expression has one.
def withDeclared (d : Option DeclaredType) : Expr σ → Expr σ
  | .member path l => .member path { l with declared := d }
  | .leaf text l => .leaf text { l with declared := d }
  | .literal v _ => .literal v d
  | e => e

-- The operands in the order of evaluation.
def children : Expr σ → List (Expr σ)
  | .compare _ l r | .logical _ l r => [l, r]
  | .not e => [e]
  | .member .. | .leaf .. | .literal .. => []
  | .contains e item => [e, item]
  | .any e _ | .all e _ => [e]
  | .sequenceEqual e other _ => [e, other]

-- How tightly an expression binds.
inductive Level where
  | or
  | and
  | comparison
  | unary
  | atom
  deriving DecidableEq, Repr

def Level.rank : Level → Nat
  | .or => 1
  | .and => 2
  | .comparison => 3
  | .unary => 4
  | .atom => 5

def LogicalOp.level : LogicalOp → Level
  | .or => .or
  | .and => .and

def level : Expr σ → Level
  | .logical op _ _ => LogicalOp.level op
  | .compare .. => .comparison
  | .not _ => .unary
  | _ => .atom

-- The text of an operand in a place that asks for at least the given rank.
def placed (e : Expr σ) (rank : Nat) (text : String) : String :=
  if e.level.rank < rank then "(" ++ text ++ ")" else text

-- A binary operator takes its own level on the left and a tighter one on the right.
def binaryText (level : Level) (symbol : String) (l r : Expr σ) (left right : String) : String :=
  l.placed level.rank left ++ " " ++ symbol ++ " " ++ r.placed (level.rank + 1) right

def callText (receiver : Expr σ) (text name : String) (arguments : List String) : String :=
  receiver.placed Level.atom.rank text ++ "." ++ name ++ "(" ++ commaSeparated arguments ++ ")"

-- The text of an expression; literals are shown with previews of at most `limit` slots.
def text (h : Heap) (limit : Nat) : Expr σ → String
  | .compare op l r => binaryText .comparison op.symbol l r (l.text h limit) (r.text h limit)
  | .logical op l r =>
    binaryText (LogicalOp.level op) op.symbol l r (l.text h limit) (r.text h limit)
  | .not e => "!" ++ e.placed Level.unary.rank (e.text h limit)
  | .member path _ => ".".intercalate path
  | .leaf text _ => text
  | .literal v _ => v.display h limit
  | .contains e item => callText e (e.text h limit) "contains" [item.text h limit]
  | .any e p => callText e (e.text h limit) "any" (p.map (·.text)).toList
  | .all e p => callText e (e.text h limit) "all" [p.text]
  | .sequenceEqual e other none =>
    callText e (e.text h limit) "sequence_equal" [other.text h limit]
  | .sequenceEqual e other (some c) =>
    callText e (e.text h limit) "sequence_equal_by" [other.text h limit, c.text]

end Expr

end Verdict
