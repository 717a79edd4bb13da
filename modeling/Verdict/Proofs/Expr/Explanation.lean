import Verdict.Proofs.Expr.Fidelity

namespace Verdict

namespace LogicalOp

-- What the operator makes of the outcomes of its operands.
def combine : LogicalOp → List Bool → Bool
  | .and, operands => operands.all id
  | .or, operands => operands.any id

-- Whatever the right operand is, it makes no difference.
def DecidedBy (op : LogicalOp) (left : Bool) : Prop :=
  ∀ right right', op.combine [left, right] = op.combine [left, right']

theorem settledBy_and {left : Bool} : settledBy .and left = true ↔ left = false := by
  rw [settledBy, Bool.not_eq_true']

theorem settledBy_or {left : Bool} : settledBy .or left = true ↔ left = true := Iff.rfl

theorem settledBy_iff_decidedBy {op : LogicalOp} {left : Bool} :
    op.settledBy left = true ↔ op.DecidedBy left := by
  unfold DecidedBy
  cases op <;> cases left <;> decide

end LogicalOp

namespace Result

-- The right operand is left out exactly when the left one decides, and the value is that of the operands
-- that are there.
structure Joins (op : LogicalOp) (left : Result) (right : Option Result)
    (value shortCircuited : Bool) : Prop where
  shortCircuited_iff : shortCircuited = true ↔ right = none
  right_eq_none_iff : right = none ↔ op.DecidedBy left.passed
  value_eq : value = op.combine ((left :: right.toList).map (·.passed))

theorem joins_left {op : LogicalOp} {left : Result} (hsettled : op.settledBy left.passed = true) :
    Joins op left none left.passed true where
  shortCircuited_iff := iff_of_true rfl rfl
  right_eq_none_iff := iff_of_true rfl (LogicalOp.settledBy_iff_decidedBy.1 hsettled)
  value_eq := by cases op <;> simp [LogicalOp.combine]

theorem joins_both {op : LogicalOp} {left : Result} (right : Result)
    (hopen : ¬op.settledBy left.passed = true) :
    Joins op left (some right) right.passed false where
  shortCircuited_iff := iff_of_false Bool.false_ne_true (Option.some_ne_none right)
  right_eq_none_iff := iff_of_false (Option.some_ne_none right)
    fun h => hopen (LogicalOp.settledBy_iff_decidedBy.2 h)
  value_eq := by
    cases op with
    | and =>
      rw [LogicalOp.settledBy_and, Bool.not_eq_false] at hopen
      simp [LogicalOp.combine, hopen]
    | or =>
      rw [LogicalOp.settledBy_or, Bool.not_eq_true] at hopen
      simp [LogicalOp.combine, hopen]

-- An unknown outcome has no negation.
structure Negates (operand : Result) (operandValue value : Option Bool) : Prop where
  operandValue_eq : operandValue = operand.outcome
  value_eq : value = operand.outcome.map fun b => !b

theorem negates (operand : Result) :
    Negates operand operand.outcome (operand.outcome.map fun b => !b) := ⟨rfl, rfl⟩

-- A ready-made result with a known outcome, which has lines to show exactly if it failed.
def TellsFailure (text : String) (r : Result) : Prop :=
  ∃ passed lines, r = .detailed text (some passed) lines ∧ (lines = [] ↔ passed = true)

end Result

namespace Call

open Result

theorem tellsFailure_passing (text : String) : TellsFailure text (passing text) :=
  ⟨true, [], rfl, iff_of_true rfl rfl⟩

theorem tellsFailure_failing (text : String) {lines : List Line} (hlines : lines ≠ []) :
    TellsFailure text (failing text lines) :=
  ⟨false, lines, rfl, iff_of_false hlines Bool.false_ne_true⟩

theorem tellsFailure_notASequence (h : Heap) (config : Config) (text call : String) (v : Value) :
    TellsFailure text (notASequence h config text call v) :=
  tellsFailure_failing text (List.cons_ne_nil _ _)

theorem tellsFailure_contains (h : Heap) (config : Config) (text : String) (receiver item : Value) :
    TellsFailure text (contains h config text receiver item) := by
  unfold contains
  split
  · exact tellsFailure_notASequence ..
  · exact tellsFailure_passing text
  · exact tellsFailure_failing text (List.cons_ne_nil _ _)

theorem tellsFailure_any (h : Heap) (config : Config) (text : String) (receiver : Value)
    (p : Option Predicate) : TellsFailure text (any h config text receiver p) := by
  unfold any
  split
  · exact tellsFailure_notASequence ..
  · split
    · exact tellsFailure_failing text (List.cons_ne_nil _ _)
    · exact tellsFailure_passing text
  · split
    · exact tellsFailure_passing text
    · exact tellsFailure_failing text (List.cons_ne_nil _ _)

theorem tellsFailure_all (h : Heap) (config : Config) (text : String) (receiver : Value)
    (p : Predicate) : TellsFailure text (all h config text receiver p) := by
  unfold all
  split
  · exact tellsFailure_notASequence ..
  · dsimp only
    split
    · exact tellsFailure_passing text
    · exact tellsFailure_failing text (List.cons_ne_nil _ _)

theorem tellsFailure_of_sequenceEqual {h : Heap} {config : Config} {text : String}
    {receiver other : Value} {c : Option Comparer} {r : Result}
    (hr : sequenceEqual h config text receiver other c = .ok r) : TellsFailure text r := by
  obtain ⟨-, hok⟩ | ⟨-, ⟨lines, hlines, hok⟩ | ⟨-, herror⟩⟩ :=
    sequenceEqual_cases h config text receiver other c
  · rw [hok] at hr
    cases hr
    exact tellsFailure_passing text
  · rw [hok] at hr
    cases hr
    exact tellsFailure_failing text hlines
  · rw [herror] at hr
    cases hr

end Call

theorem OperandKind.of_eq_sequence_iff {v : Value} :
    OperandKind.of v = .sequence ↔ ∃ items, v.items? = some items := by
  cases v <;> simp [OperandKind.of, Value.items?]

theorem exists_items_of_select {left right : Operand}
    (hselect : Strategy.select left right = .collection) :
    (∃ xs, left.value.items? = some xs) ∧ ∃ ys, right.value.items? = some ys := by
  rw [← OperandKind.of_eq_sequence_iff, ← OperandKind.of_eq_sequence_iff]
  unfold Strategy.select at hselect
  split at hselect
  · cases hselect
  · split at hselect
    · cases hselect
    · cases hselect
    · cases hselect
    · split at hselect <;> cases hselect
    · exact ⟨‹_›, ‹_›⟩
    · cases hselect
    · cases hselect
    · cases hselect

-- The report on two operands has the shape that was chosen for them.
theorem strategy_compareOperands (h : Heap) (config : Config) (left right : Operand) :
    (compareOperands h config left right).strategy = Strategy.select left right := by
  rw [compareOperands]
  cases hselect : Strategy.select left right with
  | nullable | text | object | plain => rfl
  | collection =>
    obtain ⟨⟨xs, hxs⟩, ys, hys⟩ := exists_items_of_select hselect
    simp only [hxs, hys]
    rfl

namespace Expr

variable {σ : Type} {h : Heap}

def IsCall : Expr σ → Prop
  | .contains .. | .any .. | .all .. | .sequenceEqual .. => True
  | _ => False

-- The result of the expression at a position, which was evaluated from state `s` and left state `s'`. The
-- operands of a comparison are what its two sides came to in that evaluation.
inductive Explained (h : Heap) : Position → Expr σ → σ → Result → σ → Prop where
  | value {position : Position} {e : Expr σ} {s s' : σ} {ran : List Position} {v : Value}
    {text : String} (hleaf : e.children = []) (he : Evaluates h position e s ran (.ok v) s') :
    Explained h position e s (.value text v e.declared) s'
  | comparison {position : Position} {op : CompareOp} {l r : Expr σ} {s s₁ s₂ : σ}
    {ran ran₁ : List Position} {a b : Value} {text : String} {report : Comparison} {value : Bool}
    (hl : Evaluates h (0 :: position) l s ran (.ok a) s₁)
    (hr : Evaluates h (1 :: position) r s₁ ran₁ (.ok b) s₂) (hvalue : value = op.apply h a b)
    (hholds : value = true → report.strategy = .plain)
    (hfails : value = false → report.strategy = Strategy.select ⟨a, l.declared⟩ ⟨b, r.declared⟩) :
    Explained h position (.compare op l r) s (.comparison text op report value) s₂
  | left {position : Position} {op : LogicalOp} {l r : Expr σ} {s s₁ : σ} {text : String}
    {left : Result} {value shortCircuited : Bool} (hl : Explained h (0 :: position) l s left s₁)
    (hjoins : Result.Joins op left none value shortCircuited) :
    Explained h position (.logical op l r) s
      (.logical .expressions text op left none value shortCircuited) s₁
  | both {position : Position} {op : LogicalOp} {l r : Expr σ} {s s₁ s₂ : σ} {text : String}
    {left right : Result} {value shortCircuited : Bool}
    (hl : Explained h (0 :: position) l s left s₁) (hr : Explained h (1 :: position) r s₁ right s₂)
    (hjoins : Result.Joins op left (some right) value shortCircuited) :
    Explained h position (.logical op l r) s
      (.logical .expressions text op left (some right) value shortCircuited) s₂
  | not {position : Position} {e : Expr σ} {s s₁ : σ} {text : String} {operand : Result}
    {operandValue value : Option Bool} (he : Explained h (0 :: position) e s operand s₁)
    (hnegates : operand.Negates operandValue value) :
    Explained h position (.not e) s (.negation text operand operandValue value) s₁
  | call {position : Position} {e : Expr σ} {s s' : σ} {ran : List Position} {text : String}
    {passed : Bool} {lines : List Line} (hcall : e.IsCall)
    (he : Evaluates h position e s ran (.ok (.bool passed)) s')
    (hlines : lines = [] ↔ passed = true) :
    Explained h position e s (.detailed text (some passed) lines) s'

section

variable {e e' : Expr σ} {config : Config} {shape : Shape} {index index' : Nat} {s s' : σ} {r : Result}

-- What a node contributes is what it comes to by the rules.
theorem exists_evaluates {v : Value}
    (hrun : (e.directContribution (e.directResult h config shape index)).run s = (.ok v, s'))
    (position : Position) : ∃ ran, Evaluates h position e s ran (.ok v) s' := by
  obtain ⟨ran, answer, s₁, he⟩ := settles h position e s
  have hsame := (he.agrees (holdsContext_none config) shape index).contribution
  rw [contribution_of_ok (holdsContext_none config) hrun] at hsame
  obtain ⟨rfl, rfl⟩ := Prod.mk.inj hsame
  exact ⟨ran, he⟩

theorem exists_operand {f : Value → Result}
    (hrun : (do return f (← e.directContribution (e.directResult h config shape index)) :
      Run σ Result).run s = (.ok r, s')) (position : Position) :
    ∃ a ran, Evaluates h position e s ran (.ok a) s' ∧ r = f a := by
  obtain ⟨a, s₁, ha, hr⟩ := Run.bind_eq_ok_iff.1 hrun
  cases hr
  obtain ⟨ran, he⟩ := exists_evaluates ha position
  exact ⟨a, ran, he, rfl⟩

theorem exists_operands {f : Value → Value → Result}
    (hrun : (do
      let a ← e.directContribution (e.directResult h config shape index)
      let b ← e'.directContribution (e'.directResult h config shape index')
      return f a b : Run σ Result).run s = (.ok r, s')) (position : Position) :
    ∃ a b s₁ ran ran₁, Evaluates h (0 :: position) e s ran (.ok a) s₁ ∧
      Evaluates h (1 :: position) e' s₁ ran₁ (.ok b) s' ∧ r = f a b := by
  obtain ⟨a, s₁, ha, hrest⟩ := Run.bind_eq_ok_iff.1 hrun
  obtain ⟨ran, he⟩ := exists_evaluates ha (0 :: position)
  obtain ⟨b, ran₁, he', hr⟩ := exists_operand hrest (1 :: position)
  exact ⟨a, b, s₁, ran, ran₁, he, he', hr⟩

end

-- A call that decides what the rules ask, and has lines only for a failure, explains itself.
theorem explained_call {e : Expr σ} {position : Position} {s s' : σ} {text : String} {r : Result}
    {holds : Prop} (hcall : e.IsCall) (htells : r.TellsFailure text) (hr : r.Decides holds)
    (he : ∀ passed : Bool, (passed = true ↔ holds) →
      ∃ ran, Evaluates h position e s ran (.ok (.bool passed)) s') :
    Explained h position e s r s' := by
  obtain ⟨passed, lines, rfl, hlines⟩ := htells
  obtain ⟨_, hout, hpassed⟩ := hr
  cases hout
  obtain ⟨ran, hran⟩ := he passed hpassed
  exact .call hcall hran hlines

theorem explained_comparison {config : Config} {op : CompareOp} {l r : Expr σ} {position : Position}
    {s s₁ s₂ : σ} {ran ran₁ : List Position} {a b : Value} (text : String)
    (hl : Evaluates h (0 :: position) l s ran (.ok a) s₁)
    (hr : Evaluates h (1 :: position) r s₁ ran₁ (.ok b) s₂) :
    Explained h position (.compare op l r) s
      (comparisonResult h config text op ⟨a, l.declared⟩ ⟨b, r.declared⟩) s₂ := by
  unfold comparisonResult
  split
  case isTrue hop => exact .comparison hl hr hop.symm (fun _ => rfl) nofun
  case isFalse hop =>
    refine .comparison hl hr (Bool.eq_false_iff.2 hop).symm nofun fun _ => ?_
    exact strategy_compareOperands ..

theorem explained_of_run {e : Expr σ} {config : Config} {shape : Shape} {index : Nat}
    {position : Position} {s s' : σ} {r : Result}
    (hrun : (e.directResult h config shape index).run s = (.ok r, s')) :
    Explained h position e s r s' := by
  induction e generalizing index position s s' r with
  | member path l =>
    obtain ⟨v, s₁, hv, hr⟩ := Run.bind_eq_ok_iff.1 hrun
    cases hr
    have he := @Evaluates.member σ h position path l s
    rw [hv] at he
    exact .value rfl he
  | leaf text l =>
    obtain ⟨v, s₁, hv, hr⟩ := Run.bind_eq_ok_iff.1 hrun
    cases hr
    have he := @Evaluates.leaf σ h position text l s
    rw [hv] at he
    exact .value rfl he
  | literal v d =>
    cases hrun
    exact .value rfl .literal
  | compare op l r ihl ihr =>
    obtain ⟨a, b, s₁, ran, ran₁, hl, hr, rfl⟩ := exists_operands hrun position
    exact explained_comparison _ hl hr
  | logical op l r ihl ihr =>
    obtain ⟨left, s₁, hl, hrest⟩ := Run.bind_eq_ok_iff.1 hrun
    by_cases hsettled : op.settledBy left.passed = true
    · rw [if_pos hsettled] at hrest
      cases hrest
      exact .left (ihl hl) (Result.joins_left hsettled)
    · rw [if_neg hsettled] at hrest
      obtain ⟨right, s₂, hr, hresult⟩ := Run.bind_eq_ok_iff.1 hrest
      cases hresult
      exact .both (ihl hl) (ihr hr) (Result.joins_both right hsettled)
  | not e ih =>
    obtain ⟨operand, s₁, he, hr⟩ := Run.bind_eq_ok_iff.1 hrun
    cases hr
    exact .not (ih he) operand.negates
  | contains e item ihe ihi =>
    obtain ⟨a, b, s₁, ran, ran₁, he, hi, rfl⟩ := exists_operands hrun position
    exact explained_call trivial (Call.tellsFailure_contains ..) (Call.decides_contains ..)
      fun _ hpassed => ⟨_, .contains he hi hpassed⟩
  | any e p ih =>
    obtain ⟨a, ran, he, rfl⟩ := exists_operand hrun (0 :: position)
    exact explained_call trivial (Call.tellsFailure_any ..) (Call.decides_any ..)
      fun _ hpassed => ⟨_, .any he hpassed⟩
  | all e p ih =>
    obtain ⟨a, ran, he, rfl⟩ := exists_operand hrun (0 :: position)
    exact explained_call trivial (Call.tellsFailure_all ..) (Call.decides_all ..)
      fun _ hpassed => ⟨_, .all he hpassed⟩
  | sequenceEqual e other c ihe iho =>
    obtain ⟨a, s₁, ha, hrest⟩ := Run.bind_eq_ok_iff.1 hrun
    obtain ⟨ran, he⟩ := exists_evaluates ha (0 :: position)
    obtain ⟨b, s₂, hb, hanswer⟩ := Run.bind_eq_ok_iff.1 hrest
    obtain ⟨ran₁, ho⟩ := exists_evaluates hb (1 :: position)
    obtain ⟨hr, rfl⟩ := Prod.mk.inj hanswer
    exact explained_call trivial (Call.tellsFailure_of_sequenceEqual hr) (Call.decides_of_sequenceEqual hr)
      fun _ hpassed => ⟨_, .sequenceEqual he ho hpassed⟩

end Expr

end Verdict
