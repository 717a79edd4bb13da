import Verdict.Expectation.Compose
import Verdict.Proofs.Expr.Fidelity

namespace Verdict

variable {h : Heap} {config : Config} {σ : Type}

-- An expression and an expectation that have one outcome in every state, and change the state in one way. The
-- expression comes to it under any shape and index, as these only give the texts of the results.
structure FixedLeaf (h : Heap) (config : Config) (σ : Type) where
  outcome : Option Bool
  effect : σ → σ
  expr : Expr σ
  check : Expectation σ
  evaluates : ∀ shape index s, ∃ r,
    (expr.directResult h config shape index).run s = (.ok r, effect s) ∧ r.outcome = outcome
  checks : ∀ subject s, ∃ r, (check subject).run s = (.ok r, effect s) ∧ r.outcome = outcome

-- The caller's own work, which has an effect and yields a value, beside an expectation that does the same.
def FixedLeaf.ofValue (h : Heap) (config : Config) (text : String) (v : Value) (effect : σ → σ) :
    FixedLeaf h config σ where
  outcome := v.bool?
  effect := effect
  expr := .leaf text ⟨.step effect fun _ => .ready (.ok v), none⟩
  check := fun subject s => (.ok (.value subject v none), effect s)
  evaluates := fun _ _ _ => ⟨_, rfl, rfl⟩
  checks := fun _ _ => ⟨_, rfl, rfl⟩

inductive Composition (h : Heap) (config : Config) (σ : Type) where
  | leaf (l : FixedLeaf h config σ)
  | join (op : LogicalOp) (left right : Composition h config σ)
  | not (operand : Composition h config σ)

namespace Composition

def expression : Composition h config σ → Expr σ
  | .leaf l => l.expr
  | .join op l r => .logical op l.expression r.expression
  | .not e => .not e.expression

def expectation : Composition h config σ → Expectation σ
  | .leaf l => l.check
  | .join .and l r => l.expectation.and r.expectation
  | .join .or l r => l.expectation.or r.expectation
  | .not e => e.expectation.not

-- The outcome with three truth values. A connective only asks whether an operand is known to be true.
def outcome : Composition h config σ → Option Bool
  | .leaf l => l.outcome
  | .join op l r =>
    let left := l.outcome == some true
    some (if op.settledBy left then left else r.outcome == some true)
  | .not e => e.outcome.map fun b => !b

-- The leaves that are run, in their order.
def reached : Composition h config σ → List (FixedLeaf h config σ)
  | .leaf l => [l]
  | .join op l r =>
    if op.settledBy (l.outcome == some true) then l.reached else l.reached ++ r.reached
  | .not e => e.reached

-- The state after all leaves that are run have had their effects.
def after (t : Composition h config σ) (s : σ) : σ := t.reached.foldl (fun s l => l.effect s) s

theorem expectation_join (op : LogicalOp) (l r : Composition h config σ) :
    (join op l r).expectation = .join op l.expectation r.expectation := by
  cases op <;> rfl

section

variable {op : LogicalOp} {l r : Composition h config σ}

theorem outcome_of_settled (hsettled : op.settledBy (l.outcome == some true) = true) :
    (join op l r).outcome = some (l.outcome == some true) :=
  congrArg some (if_pos hsettled)

theorem outcome_of_not_settled (hopen : ¬op.settledBy (l.outcome == some true) = true) :
    (join op l r).outcome = some (r.outcome == some true) :=
  congrArg some (if_neg hopen)

theorem after_of_settled (hsettled : op.settledBy (l.outcome == some true) = true) (s : σ) :
    (join op l r).after s = l.after s := by
  rw [after, reached, if_pos hsettled, after]

theorem after_of_not_settled (hopen : ¬op.settledBy (l.outcome == some true) = true) (s : σ) :
    (join op l r).after s = r.after (l.after s) := by
  rw [after, reached, if_neg hopen, List.foldl_append, after, after]

end

end Composition

-- The result of a tree of expressions, and that of the same tree of expectations. Where the tree has a
-- node, both have one of its kind, and the two nodes hold the same values and as many operands.
inductive Mirrored : Composition h config σ → Result → Result → Prop where
  | leaf {l : FixedLeaf h config σ} {r r' : Result} (hr : r.outcome = l.outcome)
    (hr' : r'.outcome = l.outcome) : Mirrored (.leaf l) r r'
  | settled {op : LogicalOp} {l r : Composition h config σ} {text text' : String} {left left' : Result}
    {value : Bool} (hleft : Mirrored l left left') :
    Mirrored (.join op l r) (.logical .expressions text op left none value true)
      (.logical .expectations text' op left' none value true)
  | joined {op : LogicalOp} {l r : Composition h config σ} {text text' : String}
    {left left' right right' : Result} {value : Bool} (hleft : Mirrored l left left')
    (hright : Mirrored r right right') :
    Mirrored (.join op l r) (.logical .expressions text op left (some right) value false)
      (.logical .expectations text' op left' (some right') value false)
  | not {e : Composition h config σ} {text text' : String} {operand operand' : Result}
    {operandValue value : Option Bool} (hoperand : Mirrored e operand operand') :
    Mirrored (.not e) (.negation text operand operandValue value)
      (.negation text' operand' operandValue value)

-- Two runs of one tree, which both come to its outcome, in the same state and with mirrored results.
structure RunsMirrored (t : Composition h config σ) (p p' : Run σ Result) (s : σ) (r r' : Result) : Prop where
  expression : p.run s = (.ok r, t.after s)
  expectation : p'.run s = (.ok r', t.after s)
  outcome : r.outcome = t.outcome
  outcome' : r'.outcome = t.outcome
  mirrored : Mirrored t r r'

theorem RunsMirrored.passed {t : Composition h config σ} {p p' : Run σ Result} {s : σ} {r r' : Result}
    (hruns : RunsMirrored t p p' s r r') :
    r.passed = (t.outcome == some true) ∧ r'.passed = (t.outcome == some true) := by
  rw [Result.passed, hruns.outcome, Result.passed, hruns.outcome']
  exact ⟨rfl, rfl⟩

theorem exists_runsMirrored (t : Composition h config σ) (shape : Shape) (index : Nat) (subject : String)
    (s : σ) :
    ∃ r r', RunsMirrored t (t.expression.directResult h config shape index) (t.expectation subject)
      s r r' := by
  induction t generalizing index s with
  | leaf l =>
    obtain ⟨r, hrun, hr⟩ := l.evaluates shape index s
    obtain ⟨r', hrun', hr'⟩ := l.checks subject s
    exact ⟨r, r', hrun, hrun', hr, hr', .leaf hr hr'⟩
  | join op l r ihl ihr =>
    obtain ⟨left, left', hl⟩ := ihl (shape.childIndex index 0) s
    obtain ⟨hpassed, hpassed'⟩ := hl.passed
    rw [Composition.expectation_join]
    by_cases hsettled : op.settledBy (l.outcome == some true) = true
    · refine ⟨.logical .expressions (shape.text index) op left none (l.outcome == some true) true,
        .logical .expectations subject op left' none (l.outcome == some true) true, ?_, ?_,
        (Composition.outcome_of_settled hsettled).symm,
        (Composition.outcome_of_settled hsettled).symm, .settled hl.mirrored⟩
      · rw [Composition.expression, Expr.directResult, Run.bind_ok hl.expression, hpassed,
          if_pos hsettled, Composition.after_of_settled hsettled]
        rfl
      · rw [Expectation.join, Run.bind_ok hl.expectation, hpassed', if_pos hsettled,
          Composition.after_of_settled hsettled]
        rfl
    · obtain ⟨right, right', hr⟩ := ihr (shape.childIndex index 1) (l.after s)
      refine ⟨.logical .expressions (shape.text index) op left (some right)
          (r.outcome == some true) false,
        .logical .expectations subject op left' (some right') (r.outcome == some true) false, ?_, ?_,
        (Composition.outcome_of_not_settled hsettled).symm,
        (Composition.outcome_of_not_settled hsettled).symm, .joined hl.mirrored hr.mirrored⟩
      · rw [Composition.expression, Expr.directResult, Run.bind_ok hl.expression, hpassed,
          if_neg hsettled, Composition.after_of_not_settled hsettled, operand_at hr.expression,
          hr.passed.1]
      · rw [Expectation.join, Run.bind_ok hl.expectation, hpassed', if_neg hsettled,
          Composition.after_of_not_settled hsettled, operand_at hr.expectation, hr.passed.2]
  | not e ih =>
    obtain ⟨operand, operand', he⟩ := ih (index + 1) s
    refine ⟨.negation (shape.text index) operand e.outcome (e.outcome.map fun b => !b),
      .negation ("NOT " ++ operand'.text) operand' e.outcome (e.outcome.map fun b => !b), ?_, ?_, rfl,
      rfl, .not he.mirrored⟩
    · rw [Composition.expression, Expr.directResult, operand_at he.expression, he.outcome]
      rfl
    · rw [Composition.expectation, Expectation.not, operand_at he.expectation, he.outcome']
      rfl

-- Evaluated as an expression and as an expectation, a tree runs the same leaves in the same order, comes
-- to the same outcome, and has results of the same shape. The effects of the leaves can be anything, and
-- where they write a log the state at the end is that log.
theorem composition_mirrors_expression (cache : ShapeCache) (t : Composition h config σ)
    (subject : String) (s : σ) :
    ∃ r r', (t.expression.evaluate h config cache).run s = (.ok r, t.after s) ∧
      (t.expectation subject).run s = (.ok r', t.after s) ∧
      r.outcome = t.outcome ∧ r'.outcome = t.outcome ∧ Mirrored t r r' := by
  obtain ⟨r, r', hruns⟩ :=
    exists_runsMirrored t (cache.compile h config.previewItems t.expression).1 0 subject s
  rw [Expr.evaluate_eq_directResult]
  exact ⟨r, r', hruns.expression, hruns.expectation, hruns.outcome, hruns.outcome', hruns.mirrored⟩

-- An unknown outcome stays unknown under a negation, and does not settle OR.
example :
    let entry (text : String) (v : Value) : Composition .empty .standard (List String) :=
      .leaf (.ofValue .empty .standard text v (· ++ [text]))
    let t := Composition.join .or (.not (entry "count" (.int 3))) (entry "ready" (.bool true))
    t.outcome = some true ∧ t.after [] = ["count", "ready"] := ⟨rfl, rfl⟩

end Verdict
