import Verdict.Assertion.Failure
import Verdict.Expectation.Thrown
import Verdict.Proofs.Report.Outline

namespace Verdict

variable {σ : Type} {h : Heap} {s s' : σ} {r : Result} {text : String} {lines : List Line}

namespace Result

-- A result whose report is an outline, even if its own text is left out of it, as that of a failure is.
structure Reportable (r : Result) : Prop where
  outlined : r.Outlined
  hasBody : r.passed = false → r.HasBody

theorem reportable_explained (text : String) (hlines : IsOutline 0 lines) :
    (Result.detailed text (some false) lines).Reportable :=
  ⟨.detailed (.inr hlines), fun _ => hlines.ne_nil⟩

theorem reportable_value (text : String) (v : Value) (d : Option DeclaredType) :
    (Result.value text v d).Reportable := ⟨.value, fun _ => trivial⟩

theorem reportable_decided {holds : Bool} (hlines : IsOutline 0 lines) :
    (decided text holds lines).Reportable := by
  unfold decided explained
  cases holds with
  | true => exact reportable_value ..
  | false =>
    rw [if_neg Bool.false_ne_true, if_neg (by simpa using hlines.ne_nil)]
    exact reportable_explained text hlines

theorem Reportable.logical {junction : Junction} {op : LogicalOp} {left : Result} {right : Option Result}
    {holds shortCircuited : Bool} (hleft : left.Reportable)
    (hright : ∀ r, right = some r → r.Reportable) :
    (Result.logical junction text op left right holds shortCircuited).Reportable :=
  ⟨.logical hleft.outlined fun r heq => (hright r heq).outlined, fun _ => trivial⟩

theorem Reportable.negation {operand : Result} {operandValue holds : Option Bool}
    (hoperand : operand.Reportable) : (Result.negation text operand operandValue holds).Reportable :=
  ⟨.negation hoperand.outlined, fun _ => trivial⟩

end Result

open Result

namespace Call

theorem reportable_passing (text : String) : (passing text).Reportable :=
  ⟨.detailed (.inl rfl), nofun⟩

theorem reportable_line (text line : String) : (failing text [.top line]).Reportable :=
  reportable_explained text (.single rfl)

theorem reportable_contains (config : Config) (text : String) (receiver item : Value) :
    (contains h config text receiver item).Reportable := by
  unfold contains
  split
  · exact reportable_line ..
  · exact reportable_passing text
  · exact reportable_line ..

theorem reportable_any (config : Config) (text : String) (receiver : Value) (p : Option Predicate) :
    (any h config text receiver p).Reportable := by
  unfold any
  split
  · exact reportable_line ..
  · split
    · exact reportable_line ..
    · exact reportable_passing text
  · split
    · exact reportable_passing text
    · exact reportable_line ..

theorem reportable_all (config : Config) (text : String) (receiver : Value) (p : Predicate) :
    (all h config text receiver p).Reportable := by
  unfold all
  split
  · exact reportable_line ..
  · dsimp only
    split
    · exact reportable_passing text
    · refine reportable_explained text (.under rfl (IsOutline.nil_or_of_level ?_))
      refine List.forall_mem_append.2 ⟨List.forall_mem_map.2 fun _ _ => rfl, ?_⟩
      split
      · exact nofun
      · exact List.forall_mem_singleton.2 rfl

theorem reportable_of_sequenceEqual {config : Config} {text : String} {receiver other : Value}
    {c : Option Comparer} (hr : sequenceEqual h config text receiver other c = .ok r) : r.Reportable := by
  unfold sequenceEqual at hr
  split at hr
  · split at hr
    · cases hr
      exact reportable_passing text
    · cases hreport : compareSequences h config (c.map (·.equality)) _ _ with
      | ok report =>
        rw [hreport] at hr
        cases hr
        exact reportable_explained text report.isOutline
      | error f =>
        rw [hreport] at hr
        cases hr
  · cases hr
    exact reportable_line ..
  · cases hr
    exact reportable_line ..

end Call

theorem Expr.reportable_of_run {e : Expr σ} {config : Config} {shape : Shape} {index : Nat}
    (hrun : (e.directResult h config shape index).run s = (.ok r, s')) : r.Reportable := by
  induction e generalizing index s s' r with
  | member path l | leaf text l =>
    obtain ⟨v, s₁, -, hr⟩ := Run.bind_eq_ok_iff.1 hrun
    cases hr
    exact reportable_value ..
  | literal v d =>
    cases hrun
    exact reportable_value ..
  | compare op l r =>
    obtain ⟨a, b, s₁, ran, ran₁, -, -, rfl⟩ := exists_operands hrun []
    unfold comparisonResult
    split <;> exact ⟨.comparison, fun _ => trivial⟩
  | logical op l r ihl ihr =>
    obtain ⟨left, s₁, hl, hrest⟩ := Run.bind_eq_ok_iff.1 hrun
    by_cases hsettled : op.settledBy left.passed = true
    · rw [if_pos hsettled] at hrest
      cases hrest
      exact (ihl hl).logical nofun
    · rw [if_neg hsettled] at hrest
      obtain ⟨right, s₂, hr, hresult⟩ := Run.bind_eq_ok_iff.1 hrest
      cases hresult
      refine (ihl hl).logical fun r heq => ?_
      cases heq
      exact ihr hr
  | not e ih =>
    obtain ⟨operand, s₁, he, hr⟩ := Run.bind_eq_ok_iff.1 hrun
    cases hr
    exact (ih he).negation
  | contains e item =>
    obtain ⟨a, b, s₁, ran, ran₁, -, -, rfl⟩ := exists_operands hrun []
    exact Call.reportable_contains ..
  | any e p =>
    obtain ⟨a, ran, -, rfl⟩ := exists_operand hrun []
    exact Call.reportable_any ..
  | all e p =>
    obtain ⟨a, ran, -, rfl⟩ := exists_operand hrun []
    exact Call.reportable_all ..
  | sequenceEqual e other c =>
    obtain ⟨a, s₁, -, hrest⟩ := Run.bind_eq_ok_iff.1 hrun
    obtain ⟨b, s₂, -, hanswer⟩ := Run.bind_eq_ok_iff.1 hrest
    exact Call.reportable_of_sequenceEqual (congrArg Prod.fst hanswer)

variable {subject : String}

-- A check that breaks off, or is no more than a test, brings no lines.
theorem Check.outlined_of_run {ι : Type} {shown : ι → String} {c : Check σ ι} {x : ι}
    (hc : ∀ e, c = .satisfying e → ∀ {s s' : σ} {r : Result},
      (e x subject).run s = (.ok r, s') → r.Outlined)
    (hrun : (c.result shown x subject).run s = (.ok r, s')) : r.Outlined := by
  cases c with
  | predicate text test =>
    obtain ⟨holds, s₁, -, hr⟩ := Run.bind_eq_ok_iff.1 hrun
    cases hr
    exact .detailed (.inl rfl)
  | satisfying e =>
    rcases Check.met_or_brokeOff hrun with hmet | ⟨f, message, -, rfl⟩
    · exact hc e rfl hmet
    · exact .detailed (.inl rfl)

namespace Expectation

-- Expectations that are put together from the given ones and from those of a caller that bring no lines.
inductive Ordinary : Expectation σ → Prop where
  | answer {x : Expectation σ}
    (hx : ∀ subject s r s', (x subject).run s = (.ok r, s') → ∃ text v d, r = .value text v d) : Ordinary x
  | containsText (actual needle : String) : Ordinary (.containsText actual needle)
  | matchesPattern (actual pattern : String) : Ordinary (.matchesPattern actual pattern)
  | equals (h : Heap) (config : Config) (actual expected : Value) : Ordinary (.equals h config actual expected)
  | thrown (t : Thrown) : Ordinary t.expectation
  | join (op : LogicalOp) {l r : Expectation σ} (hl : Ordinary l) (hr : Ordinary r) : Ordinary (.join op l r)
  | not {e : Expectation σ} (he : Ordinary e) : Ordinary e.not
  | quantified {ι : Type} {c : Check σ ι} (shown : ι → String) (q : Quantifier) (items : List ι)
    (hc : ∀ e, c = .satisfying e → ∀ x, Ordinary (e x)) : Ordinary (.quantified shown q items c)
  | satisfies {ι : Type} (shown : ι → String) (items : List ι) (checks : List (Check σ ι)) :
    Ordinary (.satisfies shown items checks)

theorem isOutline_textLines (asked wanted actual : String) : IsOutline 0 (textLines asked wanted actual) :=
  .of_level (List.cons_ne_nil _ _) (by simp [textLines, Line.top])

theorem Ordinary.reportable_of_run {x : Expectation σ} (hx : x.Ordinary)
    (hrun : (x subject).run s = (.ok r, s')) : r.Reportable := by
  induction hx generalizing subject s s' r with
  | answer hx =>
    obtain ⟨text, v, d, rfl⟩ := hx _ _ _ _ hrun
    exact reportable_value ..
  | containsText actual needle | matchesPattern actual pattern =>
    cases hrun
    exact Result.reportable_decided (isOutline_textLines ..)
  | equals h config actual expected =>
    cases hrun
    exact Result.reportable_decided (Comparison.isOutline _)
  | thrown t =>
    cases hrun
    exact Result.reportable_decided (.single rfl)
  | join op _ _ ihl ihr =>
    obtain ⟨left, s₁, hl, ⟨-, -, rfl⟩ | ⟨right, -, hr, rfl⟩⟩ := exists_of_run_join hrun
    · exact (ihl hl).logical nofun
    · refine (ihl hl).logical fun r heq => ?_
      cases heq
      exact ihr hr
  | not _ ih =>
    obtain ⟨operand, s₁, he, hr⟩ := Run.bind_eq_ok_iff.1 hrun
    cases hr
    exact (ih he).negation
  | @quantified ι c shown q items hc ih =>
    obtain ⟨results, s₁, hresults, hr⟩ := Run.bind_eq_ok_iff.1 hrun
    cases hr
    obtain ⟨states, -, -, hlength, hitems⟩ := Check.exists_states hresults
    refine ⟨.quantified fun item hitem => ?_, fun _ => trivial⟩
    obtain ⟨hresult, -⟩ := mem_indexedWhere_iff.1 hitem
    obtain ⟨hindex, -⟩ := List.getElem?_eq_some_iff.1 hresult
    rw [hlength] at hindex
    have hrun := hitems _ _ _ (List.getElem?_eq_getElem hindex) hresult
    exact Check.outlined_of_run (fun e he _ _ _ hrun => (ih e he _ hrun).outlined) hrun
  | satisfies shown items checks =>
    obtain ⟨edges, s₁, -, hr⟩ := Run.bind_eq_ok_iff.1 hrun
    cases hr
    refine Result.reportable_decided (.under rfl (IsOutline.nil_or_of_level ?_))
    exact List.forall_mem_map.2 fun _ _ => rfl

end Expectation

-- The lines are the author's message if there is one, then the heading, then what is below the heading.
def Context.Introduces (c : Context) (lines : List Line) : Prop :=
  ∃ body, lines = (c.message.map Line.top).toList ++ .top c.heading :: body ∧ IsOutline 1 body ∧
    IsOutline 0 lines

theorem Result.Reportable.introduced {inner : Result} (hinner : inner.Reportable) (hfails : inner.passed = false)
    (h : Heap) (output : OutputConfig) (c : Context) :
    c.Introduces ((Result.assertion c inner).messageLines h output) := by
  have hshown : IsOutline 0 (inner.shown h output false true) :=
    hinner.outlined.isOutline_shown fun _ _ => hinner.hasBody hfails
  have hbody : IsOutline 1 (((Renderer.new output).render h inner).1.map (·.deeper 1)) := hshown.deeper 1
  have hheading := IsOutline.under (l := .top c.heading) rfl (.inr hbody)
  refine ⟨_, rfl, hbody, ?_⟩
  rw [messageLines]
  cases c.message with
  | none => exact hheading
  | some message => exact (IsOutline.single (l := .top message) rfl).append (.inr hheading)

theorem Result.eq_of_settle {config : Config} {result : Result} {message : String}
    (hsettle : result.settle h config = .error (.failed message r)) : result.passed = false ∧ r = result := by
  unfold settle at hsettle
  split at hsettle
  · cases hsettle
  · rename_i hfails
    cases hsettle
    exact ⟨Bool.eq_false_iff.2 hfails, rfl⟩

-- The message of whatever fails, be it evaluated or verified, in whatever state of the objects it is shown.
theorem failure_messages_are_outlines (now : Heap) (output : OutputConfig) (config : Config)
    (cache : ShapeCache) (c : Context) :
    (∀ (e : Expr σ) (s s' : σ) (r : Result), (e.assess h config cache c).run s = (.ok r, s') →
      r.passed = false → c.Introduces (r.messageLines now output)) ∧
    ∀ x : Expectation σ, x.Ordinary → ∀ (s s' : σ) (message : String) (r : Result),
      (x.verify h config c).run s = (.ok (.error (.failed message r)), s') →
        c.Introduces (r.messageLines now output) := by
  constructor
  · intro e s s' r hrun hfails
    obtain ⟨inner, s₁, hinner, hr⟩ := Run.bind_eq_ok_iff.1 hrun
    cases hr
    rw [Expr.evaluate_eq_directResult] at hinner
    exact (Expr.reportable_of_run hinner).introduced hfails now output c
  · intro x hx s s' message r hrun
    obtain ⟨inner, s₁, hinner, hverified⟩ := Run.bind_eq_ok_iff.1 hrun
    obtain ⟨hsettled, -⟩ := Prod.mk.inj hverified
    obtain ⟨hfails, rfl⟩ := Result.eq_of_settle (Except.ok.inj hsettled)
    exact (hx.reportable_of_run hinner).introduced hfails now output c

theorem nested_failures_are_outlines :
    let c : Context := ⟨"rows", "rows.txt", 3, some "odd rows"⟩
    let output := OutputConfig.of .standard
    let cache := ShapeCache.empty fun marks => .ofNat marks.length
    let e : Expr Unit := .logical .or (.literal (.bool false) none) (.any (.literal (.seq []) none) none)
    let even : Check Unit Nat := .predicate "x is even" fun n => pure (n % 2 == 0)
    let x : Expectation Unit := .quantified toString .each [2]
      (.satisfying fun n => .join .and (.containsText "abc" "a") (.quantified toString .none [n] even))
    (∃ r, (e.assess .empty .standard cache c).run () = (.ok r, ()) ∧ r.passed = false ∧
      c.Introduces (r.messageLines .empty output)) ∧
    x.Ordinary ∧ ∃ message r, (x.verify .empty .standard c).run () = (.ok (.error (.failed message r)), ()) ∧
      c.Introduces (r.messageLines .empty output) ∧
      (r.messageLines .empty output).map (·.indent) = [0, 0, 1, 2, 3, 3, 4, 5, 3] := by
  intro c output cache e even x
  obtain ⟨hexpr, hexpectation⟩ :=
    failure_messages_are_outlines (σ := Unit) (h := .empty) .empty output .standard cache c
  constructor
  · have hrun : ∃ r, (e.assess .empty .standard cache c).run () = (.ok r, ()) ∧ r.passed = false := by
      rw [Expr.assess, Expr.evaluate_eq_directResult]
      exact ⟨_, rfl, rfl⟩
    obtain ⟨r, hrun, hfails⟩ := hrun
    exact ⟨r, hrun, hfails, hexpr e () () r hrun hfails⟩
  · have hx : x.Ordinary := by
      refine .quantified _ _ _ fun e he n => ?_
      cases he
      refine .join .and (.containsText "abc" "a") (.quantified _ _ _ fun e he => ?_)
      change Check.predicate _ _ = _ at he
      cases he
    exact ⟨hx, _, _, rfl, hexpectation x hx () () _ _ rfl, rfl⟩

end Verdict
