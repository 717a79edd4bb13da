import Verdict.Proofs.Report.Origin

namespace Verdict

namespace Result

-- What may be said of two operands, of which the right one is there if it was evaluated.
inductive Truthful (left : Result) (right : Option Result) : String → Prop where
  | leftFalse (hleft : left.passed = false) : Truthful left right "Left operand was false"
  | rightFalse {r : Result} (hleft : left.passed = true) (hright : right = some r)
    (hfails : r.passed = false) : Truthful left right "Right operand was false"
  | bothFalse {r : Result} (hleft : left.passed = false) (hright : right = some r)
    (hfails : r.passed = false) : Truthful left right "Both operands were false"
  | leftTrue (hleft : left.passed = true) : Truthful left right "Left operand was true"
  | rightTrue {r : Result} (hright : right = some r) (hpasses : r.passed = true) :
    Truthful left right "Right operand was true"
  | bothTrue {r : Result} (hleft : left.passed = true) (hright : right = some r)
    (hpasses : r.passed = true) : Truthful left right "Both operands were true"

theorem Joins.truthful {op : LogicalOp} {left : Result} {right : Option Result}
    {value shortCircuited : Bool} (hjoins : Joins op left right value shortCircuited) :
    Truthful left right (explanation op left.passed (right.any (·.passed))) := by
  have hmissing := hjoins.right_eq_none_iff
  rw [← LogicalOp.settledBy_iff_decidedBy] at hmissing
  cases right with
  | none =>
    have hsettled := hmissing.1 rfl
    cases op with
    | and =>
      rw [LogicalOp.settledBy_and] at hsettled
      rw [hsettled]
      exact .leftFalse hsettled
    | or =>
      rw [LogicalOp.settledBy_or] at hsettled
      rw [hsettled]
      exact .leftTrue hsettled
  | some r =>
    have hopen : ¬op.settledBy left.passed = true :=
      fun hsettled => Option.some_ne_none r (hmissing.2 hsettled)
    rw [Option.any_some]
    cases op with
    | and =>
      rw [LogicalOp.settledBy_and, Bool.not_eq_false] at hopen
      rw [hopen]
      cases hr : r.passed with
      | false => exact .rightFalse hopen rfl hr
      | true => exact .bothTrue hopen rfl hr
    | or =>
      rw [LogicalOp.settledBy_or, Bool.not_eq_true] at hopen
      rw [hopen]
      cases hr : r.passed with
      | false => exact .bothFalse hopen rfl hr
      | true => exact .rightTrue rfl hr

-- The operands of a node, and what it makes of them.
def Consistent : Result → Prop
  | .logical _ _ op left right holds shortCircuited => Joins op left right holds shortCircuited
  | .negation _ operand operandValue holds => operand.Negates operandValue holds
  | _ => True

-- The sign of an operator between expressions, and its word between expectations.
inductive Signed : Junction → LogicalOp → String → Prop where
  | andSign : Signed .expressions .and "&&"
  | orSign : Signed .expressions .or "||"
  | andWord : Signed .expectations .and "AND"
  | orWord : Signed .expectations .or "OR"

-- What an outcome is called. There is none if what was tested is no truth value.
inductive Called : Option Bool → String → Prop where
  | passed : Called (some true) "True"
  | failed : Called (some false) "False"
  | unknown : Called none "null"

-- The lines of an operand, with a label in front of the first one.
def Labels (h : Heap) (config : OutputConfig) (label : String) (operand : Result) (lines : List Line) :
    Prop :=
  ∃ first rest, operand.shown h config false false = first :: rest ∧
    lines = ⟨0, label ++ first.text⟩ :: rest

-- The right operand is shown if it was evaluated.
inductive LabelsRight (h : Heap) (config : OutputConfig) : Option Result → List Line → Prop where
  | missing : LabelsRight h config none []
  | shown {r : Result} {lines : List Line} (hr : Labels h config "Right: " r lines) :
    LabelsRight h config (some r) lines

-- What the node prints of its operands, with the explanation of its outcome, is so.
def ToldIn (h : Heap) (config : OutputConfig) (report : List Line) (force : Bool) (n : Result) : Prop :=
  match n with
  | .logical junction text op left right _ _ =>
    ∃ leftLines rightLines sign explanation,
      Labels h config "Left: " left leftLines ∧ LabelsRight h config right rightLines ∧
      Signed junction op sign ∧ Truthful left right explanation ∧
      n.Prints h config report force text (leftLines ++ rightLines ++ [⟨0, sign ++ ": " ++ explanation⟩])
  | .negation text operand _ _ =>
    ∃ operandLines said, Labels h config "Operand: " operand operandLines ∧ Called operand.outcome said ∧
      n.Prints h config report force text (operandLines ++ [⟨0, "!: Operand was " ++ said⟩])
  | _ => True

theorem signed_junctionLabel (junction : Junction) (op : LogicalOp) :
    Signed junction op (junctionLabel junction op) := by
  cases junction with
  | expressions =>
    cases op with
    | and => exact .andSign
    | or => exact .orSign
  | expectations =>
    cases op with
    | and => exact .andWord
    | or => exact .orWord

theorem called_operandText (outcome : Option Bool) : Called outcome (operandText outcome) := by
  match outcome with
  | some true => exact .passed
  | some false => exact .failed
  | none => exact .unknown

theorem labels_labelled (h : Heap) (config : OutputConfig) (label : String) (operand : Result) :
    Labels h config (label ++ ": ") operand (labelled label (operand.shown h config false false)) :=
  exists_labelled h config label false operand

theorem Joins.labelsRight {op : LogicalOp} {left : Result} {right : Option Result}
    {value shortCircuited : Bool} (hjoins : Joins op left right value shortCircuited) (h : Heap)
    (config : OutputConfig) :
    LabelsRight h config right (if shortCircuited then [] else
      right.elim [] fun r => labelled "Right" (r.shown h config false false)) := by
  cases right with
  | none =>
    rw [Option.elim_none, ite_self]
    exact .missing
  | some r =>
    have hevaluated : ¬shortCircuited = true := by
      rw [hjoins.shortCircuited_iff]
      exact Option.some_ne_none r
    rw [if_neg hevaluated]
    exact .shown (labels_labelled h config "Right" r)

theorem IsLeaf.consistent {n : Result} (hn : n.IsLeaf) : n.Consistent := by
  match n with
  | .value .. | .comparison .. | .detailed .. => trivial
  | .assertion .. | .logical .. | .negation .. | .quantified .. => cases hn

theorem Consistent.toldIn {h : Heap} {config : OutputConfig} {root n : Result} {force bare : Bool}
    (hn : n.Consistent) (hopened : root.Opened force n) :
    n.ToldIn h config (root.shown h config false bare) force := by
  have hopen := hopened.isOpen
  have hplaced : n.Placed h config (root.shown h config false bare) force := hopened.placed
  match n with
  | .logical junction text op left right holds shortCircuited =>
    have hjoins : Joins op left right holds shortCircuited := hn
    exact ⟨_, _, _, _, labels_labelled h config "Left" left, hjoins.labelsRight h config,
      signed_junctionLabel junction op, hjoins.truthful, hplaced.prints fun bare => shown_logical hopen⟩
  | .negation text operand operandValue holds =>
    have hnegates : operand.Negates operandValue holds := hn
    refine ⟨_, _, labels_labelled h config "Operand" operand, called_operandText operand.outcome,
      hplaced.prints fun bare => ?_⟩
    rw [shown_negation hopen, hnegates.operandValue_eq]
    rfl
  | .assertion .. | .value .. | .comparison .. | .detailed .. | .quantified .. => trivial

end Result

variable {σ : Type} {h : Heap} {s s' : σ} {n : Result}

theorem Expr.Explained.consistent {e : Expr σ} {position : Position}
    (hn : e.Explained h position s n s') : n.Consistent := by
  cases hn with
  | value | comparison | call => trivial
  | left _ hjoins | both _ _ hjoins => exact hjoins
  | not _ hnegates => exact hnegates

theorem Expectation.Gives.consistent {x : Expectation σ} (hn : x.Gives n) : n.Consistent := by
  cases hn with
  | leaf _ hn => exact hn.consistent
  | left _ hsettled => exact Result.joins_left hsettled
  | both _ hopen _ => exact Result.joins_both _ hopen
  | not => exact Result.negates _
  | quantified => trivial

theorem Renderer.render_fst (renderer : Renderer) (h : Heap) (r : Result) :
    (renderer.render h r).1 = r.shown h renderer.config false renderer.bare := rfl

-- Every node that is opened in a report, also one that passed, is what a part gives in some run, and what is
-- said there of its operands is so: which of them are shown, what they came to and which of them settled it.
theorem explanations_are_truthful (h now : Heap) (config : Config) (cache : ShapeCache)
    (renderer : Renderer) :
    (∀ (e : Expr σ) (c : Context) (s s' : σ) (r : Result),
      (e.assess h config cache c).run s = (.ok r, s') →
        ∃ inner, r = .assertion c inner ∧ ∀ force n, inner.Opened force n →
          n.ToldIn now renderer.config (renderer.render now r).1 force ∧
          ∃ position e' s₁ s₂, e.HasPart e' ∧ e'.Explained h position s₁ n s₂) ∧
    ∀ x : Expectation σ, x.Composed → ∀ (subject : String) (s s' : σ) (r : Result),
      (x subject).run s = (.ok r, s') → ∀ force n, r.Opened force n →
        n.ToldIn now renderer.config (renderer.render now r).1 force ∧
        ∃ x', x.HasPart x' ∧ x'.Gives n := by
  constructor
  · intro e c s s' r hrun
    obtain ⟨inner, s₁, hinner, hr⟩ := Run.bind_eq_ok_iff.1 hrun
    cases hr
    rw [Expr.evaluate_eq_directResult] at hinner
    refine ⟨inner, rfl, fun force n hn => ?_⟩
    have hexplained : e.Explained h [] s inner s' := Expr.explained_of_run hinner
    obtain ⟨position, e', s₂, s₃, hpart, hnode⟩ := hexplained.exists_opened hn
    rw [Renderer.render_fst, Result.shown_assertion]
    exact ⟨hnode.consistent.toldIn hn, position, e', s₂, s₃, hpart, hnode⟩
  · intro x hx subject s s' r hrun force n hn
    obtain ⟨x', hpart, hnode⟩ := hx.exists_opened hrun hn
    rw [Renderer.render_fst]
    exact ⟨hnode.consistent.toldIn hn, x', hpart, hnode⟩

-- A negation of what is so, and a disjunction that passes for an item that ought not to: it says which operand
-- passed, and nothing of the other one, which was not asked.
theorem passing_disjunction_is_explained :
    let renderer := Renderer.new (OutputConfig.of .standard)
    let report (r : Result) := (renderer.render .empty r).1
    let cache := ShapeCache.empty fun marks => .ofNat marks.length
    let c := Context.of "!ready" "orders.txt" 1
    let e : Expr Unit := .not (.literal (.bool true) none)
    let x : Expectation Unit := .quantified id .none ["abc"]
      (.satisfying fun w => .or (.containsText w "a") (.containsText w "q"))
    let n : Result :=
      .logical .expectations "words[0]" .or (.value "words[0]" (.bool true) none) none true true
    (∃ inner, (e.assess .empty .standard cache c).run () = (.ok (.assertion c inner), ()) ∧
      inner.Opened false inner ∧
      inner.ToldIn .empty renderer.config (report (.assertion c inner)) false ∧
      report (.assertion c inner) = [⟨0, "Operand: True"⟩, ⟨0, "!: Operand was True"⟩]) ∧
    x.Composed ∧ ∃ r, (x "words").run () = (.ok r, ()) ∧ n.passed = true ∧ r.Opened true n ∧
      n.ToldIn .empty renderer.config (report r) true ∧
      report r = [.top "Expected no item to satisfy expectation, but 1 of 1 passed:",
        .nested "[0]: words[0]", ⟨2, "Left: True"⟩, ⟨2, "OR: Left operand was true"⟩] := by
  intro renderer report cache c e x n
  obtain ⟨hexpr, hexpectation⟩ :=
    explanations_are_truthful (σ := Unit) .empty .empty .standard cache renderer
  constructor
  · have hrun : ∃ inner, (e.assess .empty .standard cache c).run () = (.ok (.assertion c inner), ()) ∧
        inner.isOpen false = true ∧
        report (.assertion c inner) = [⟨0, "Operand: True"⟩, ⟨0, "!: Operand was True"⟩] := by
      rw [Expr.assess, Expr.evaluate_eq_directResult]
      exact ⟨_, rfl, rfl, rfl⟩
    obtain ⟨inner, hrun, hopen, hreport⟩ := hrun
    obtain ⟨inner', hinner, hnodes⟩ := hexpr e c () () _ hrun
    cases hinner
    obtain ⟨htold, -⟩ := hnodes false inner (.root hopen)
    exact ⟨inner, hrun, .root hopen, htold, hreport⟩
  · have hx : x.Composed := by
      refine .quantified .none fun w => .meets id (.join .or ?_ ?_)
      · exact (Expectation.Built.containsText w "a").composed
      · exact (Expectation.Built.containsText w "q").composed
    have hrun : ∃ r, (x "words").run () = (.ok r, ()) ∧ r.Opened true n ∧
        report r = [.top "Expected no item to satisfy expectation, but 1 of 1 passed:",
          .nested "[0]: words[0]", ⟨2, "Left: True"⟩, ⟨2, "OR: Left operand was true"⟩] :=
      ⟨_, rfl, .part (.root rfl) (List.mem_singleton.2 rfl) rfl, rfl⟩
    obtain ⟨r, hrun, hopened, hreport⟩ := hrun
    obtain ⟨htold, -⟩ := hexpectation x hx "words" () () r hrun true n hopened
    exact ⟨hx, r, hrun, rfl, hopened, htold, hreport⟩

end Verdict
