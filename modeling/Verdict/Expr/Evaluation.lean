import Verdict.Comparison.Dispatch
import Verdict.Expr.Calls
import Verdict.Expr.ShapeCache

namespace Verdict

-- A known outcome as a value; an unknown one is no value.
def Value.ofOutcome : Option Bool → Value
  | some b => .bool b
  | none => .null

-- A node of a tree, by the way from it up to the root: at each step its place among the operands.
abbrev Position := List Nat

-- The values of the nodes that have been asked for, the latest first.
abbrev Known := List (Position × Value)

-- A run that remembers the values of nodes.
abbrev Recall (σ : Type) := StateT Known (Run σ)

-- The value of a node, found out at most once.
def remember {σ : Type} (position : Position) (value : Recall σ Value) : Recall σ Value := do
  match (← get).lookup position with
  | some v => return v
  | none =>
    let v ← value
    modify ((position, v) :: ·)
    return v

namespace Expr

variable {σ : Type}

-- A comparison that holds is shown plainly; a failed one gets the strategy that explains it best.
def comparisonResult (h : Heap) (config : Config) (text : String) (op : CompareOp)
    (left right : Operand) : Result :=
  if op.apply h left.value right.value then
    .comparison text op (comparePlain h config left.value right.value) true
  else .comparison text op (compareOperands h config left right) false

-- What a node contributes to the one above it: its value if it is one, else its outcome.
def contribution (position : Position) (e : Expr σ) (result : Recall σ Result) : Recall σ Value :=
  remember position <| match e with
    | .member _ l | .leaf _ l => liftM l.work.finish
    | .literal v _ => return v
    | _ => return .ofOutcome (← result).outcome

-- The result of the node at a position, which stands at an index of the shape.
def resultAt (h : Heap) (config : Config) (shape : Shape) (position : Position) (index : Nat) :
    Expr σ → Recall σ Result
  | .compare op l r => do
    let left ← l.contribution (0 :: position)
      (l.resultAt h config shape (0 :: position) (shape.childIndex index 0))
    let right ← r.contribution (1 :: position)
      (r.resultAt h config shape (1 :: position) (shape.childIndex index 1))
    return comparisonResult h config (shape.text index) op ⟨left, l.declared⟩ ⟨right, r.declared⟩
  | .logical op l r => do
    let left ← l.resultAt h config shape (0 :: position) (shape.childIndex index 0)
    if op.settledBy left.passed then
      return .logical .expressions (shape.text index) op left none left.passed true
    let right ← r.resultAt h config shape (1 :: position) (shape.childIndex index 1)
    return .logical .expressions (shape.text index) op left (some right) right.passed false
  | .not e => do
    let operand ← e.resultAt h config shape (0 :: position) (index + 1)
    return .negation (shape.text index) operand operand.outcome
      (operand.outcome.map fun b => !b)
  | .member _ l | .leaf _ l =>
    return .value (shape.text index) (← remember position (liftM l.work.finish)) l.declared
  | .literal v d => return .value (shape.text index) (← remember position (pure v)) d
  | .contains e item => do
    let receiver ← e.contribution (0 :: position)
      (e.resultAt h config shape (0 :: position) (shape.childIndex index 0))
    let item ← item.contribution (1 :: position)
      (item.resultAt h config shape (1 :: position) (shape.childIndex index 1))
    return Call.contains h config (shape.text index) receiver item
  | .any e p => do
    let receiver ← e.contribution (0 :: position)
      (e.resultAt h config shape (0 :: position) (shape.childIndex index 0))
    return Call.any h config (shape.text index) receiver p
  | .all e p => do
    let receiver ← e.contribution (0 :: position)
      (e.resultAt h config shape (0 :: position) (shape.childIndex index 0))
    return Call.all h config (shape.text index) receiver p
  | .sequenceEqual e other c => do
    let receiver ← e.contribution (0 :: position)
      (e.resultAt h config shape (0 :: position) (shape.childIndex index 0))
    let other ← other.contribution (1 :: position)
      (other.resultAt h config shape (1 :: position) (shape.childIndex index 1))
    liftM (Run.ofAnswer (Call.sequenceEqual h config (shape.text index) receiver other c) : Run σ Result)

-- The shape is compiled first; what the cache is afterwards does not depend on the run.
def evaluate (h : Heap) (config : Config) (cache : ShapeCache) (e : Expr σ) : Run σ Result :=
  (e.resultAt h config (cache.compile h config.previewItems e).1 [] 0).run' []

end Expr

end Verdict
