import Verdict.Assertion.Failure
import Verdict.Expectation.Compose
import Verdict.Expectation.Matchers
import Verdict.Expectation.Satisfies
import Verdict.Proofs.Expectation.Checks
import Verdict.Proofs.Expr.Explanation

namespace Verdict

variable {σ : Type}

-- The node of a quantifier, from the results of its items in order.
structure Quantifier.Counts (q : Quantifier) (results : List Result) (total passes fails : Nat)
    (reportsPasses : Bool) (relevant : List (Nat × Result)) (value : Bool) : Prop where
  total_eq : total = results.length
  passes_eq : passes = results.countP (·.passed)
  sum_eq : passes + fails = total
  value_eq : value = (q.judge passes total).holds
  reportsPasses_eq : reportsPasses = (q.judge passes total).reportsPasses
  mem_relevant_iff : ∀ i r,
    (i, r) ∈ relevant ↔ results[i]? = Option.some r ∧ r.passed = reportsPasses
  ordered : (relevant.map (·.1)).Pairwise (· < ·)

theorem mem_indexedWhere_iff {passed : Bool} {results : List Result} {i : Nat} {r : Result} :
    (i, r) ∈ indexedWhere passed results ↔ results[i]? = some r ∧ r.passed = passed := by
  simp only [indexedWhere, List.mem_map, List.mem_filter, Prod.exists, Prod.mk.injEq,
    List.mk_mem_zipIdx_iff_getElem?, beq_iff_eq]
  constructor
  · rintro ⟨_, _, ⟨hr, hpassed⟩, rfl, rfl⟩
    exact ⟨hr, hpassed⟩
  · rintro ⟨hr, hpassed⟩
    exact ⟨r, i, ⟨hr, hpassed⟩, rfl, rfl⟩

theorem ordered_indexedWhere (passed : Bool) (results : List Result) :
    ((indexedWhere passed results).map (·.1)).Pairwise (· < ·) := by
  have hindices : (results.zipIdx.map Prod.snd).Pairwise (· < ·) := by
    rw [List.zipIdx_map_snd]
    exact List.pairwise_lt_range'
  rw [indexedWhere, List.map_map]
  exact hindices.sublist (List.filter_sublist.map Prod.snd)

theorem Quantifier.counts (q : Quantifier) (results : List Result) :
    let passes := results.countP (·.passed)
    let judgement := q.judge passes results.length
    q.Counts results results.length passes (results.length - passes) judgement.reportsPasses
      (indexedWhere judgement.reportsPasses results) judgement.holds where
  total_eq := rfl
  passes_eq := rfl
  sum_eq := Nat.add_sub_of_le List.countP_le_length
  value_eq := rfl
  reportsPasses_eq := rfl
  mem_relevant_iff := fun _ _ => mem_indexedWhere_iff
  ordered := ordered_indexedWhere _ results

-- The items are checked one after the other, each in the state that the one before it left.
theorem Check.exists_states {ι : Type} {shown : ι → String} {c : Check σ ι} {subject : String} {k : Nat}
    {items : List ι} {s s' : σ} {results : List Result}
    (hrun : (c.results shown subject k items).run s = (.ok results, s')) :
    ∃ states : Nat → σ, states 0 = s ∧ states items.length = s' ∧ results.length = items.length ∧
      ∀ (i : Nat) (x : ι) (r : Result), items[i]? = some x → results[i]? = some r →
        (c.result shown x (itemSubject subject (k + i))).run (states i) = (.ok r, states (i + 1)) := by
  induction items generalizing k s results with
  | nil =>
    cases hrun
    exact ⟨fun _ => s', rfl, rfl, rfl, nofun⟩
  | cons x items ih =>
    obtain ⟨first, s₁, hfirst, hrest⟩ := Run.bind_eq_ok_iff.1 hrun
    obtain ⟨rest, s₂, hrest, hresults⟩ := Run.bind_eq_ok_iff.1 hrest
    cases hresults
    obtain ⟨states, hstart, hend, hlength, hitems⟩ := ih hrest
    refine ⟨fun i => i.casesOn s states, rfl, hend, congrArg (· + 1) hlength, ?_⟩
    intro i y r hy hr
    cases i with
    | zero =>
      cases hy
      cases hr
      rw [← hstart] at hfirst
      exact hfirst
    | succ i =>
      have hitem := hitems i y r hy hr
      rwa [Nat.add_right_comm] at hitem

-- An item that has to meet an expectation has the result of that one, unless it breaks off.
theorem Check.met_or_brokeOff {ι : Type} {shown : ι → String} {e : ι → Expectation σ} {x : ι}
    {subject : String} {s s' : σ} {r : Result}
    (hrun : ((Check.satisfying e).result shown x subject).run s = (.ok r, s')) :
    (e x subject).run s = (.ok r, s') ∨ ∃ f message,
      (e x subject).run s = (.error f, s') ∧ r = .detailed message (some false) [] := by
  rw [result, Run.orElse_at] at hrun
  rcases he : (e x subject).run s with ⟨answer, s₁⟩
  rw [he] at hrun
  cases hrun
  cases answer with
  | ok r => exact .inl rfl
  | error f => exact .inr ⟨f, _, rfl, rfl⟩

namespace Expectation

-- Expectations that are put together from the given ones, nested as one likes.
inductive Built : Expectation σ → Prop where
  | and {l r : Expectation σ} (hl : Built l) (hr : Built r) : Built (l.and r)
  | or {l r : Expectation σ} (hl : Built l) (hr : Built r) : Built (l.or r)
  | not {e : Expectation σ} (he : Built e) : Built e.not
  | quantified {ι : Type} {c : Check σ ι} (shown : ι → String) (q : Quantifier) (items : List ι)
    (hc : ∀ e, c = .satisfying e → ∀ x, Built (e x)) : Built (.quantified shown q items c)
  | satisfies {ι : Type} (shown : ι → String) (items : List ι) (checks : List (Check σ ι)) :
    Built (.satisfies shown items checks)
  | containsText (actual needle : String) : Built (.containsText actual needle)
  | matchesPattern (actual pattern : String) : Built (.matchesPattern actual pattern)
  | equals (h : Heap) (config : Config) (actual expected : Value) :
    Built (.equals h config actual expected)

-- The result of an expectation on a subject, which was run from state `s` and left state `s'`.
inductive Explained : Expectation σ → String → σ → Result → σ → Prop where
  | decided {e : Expectation σ} {subject text : String} {s s' : σ} {holds : Bool} {lines : List Line}
    (hrun : (e subject).run s = (.ok (.decided text holds lines), s')) :
    Explained e subject s (.decided text holds lines) s'
  | left {op : LogicalOp} {l r : Expectation σ} {subject : String} {s s₁ : σ} {left : Result}
    {value shortCircuited : Bool} (hl : Explained l subject s left s₁)
    (hjoins : Result.Joins op left none value shortCircuited) :
    Explained (.join op l r) subject s
      (.logical .expectations subject op left none value shortCircuited) s₁
  | both {op : LogicalOp} {l r : Expectation σ} {subject : String} {s s₁ s₂ : σ}
    {left right : Result} {value shortCircuited : Bool} (hl : Explained l subject s left s₁)
    (hr : Explained r subject s₁ right s₂)
    (hjoins : Result.Joins op left (some right) value shortCircuited) :
    Explained (.join op l r) subject s
      (.logical .expectations subject op left (some right) value shortCircuited) s₂
  | not {e : Expectation σ} {subject text : String} {s s₁ : σ} {operand : Result}
    {operandValue value : Option Bool} (he : Explained e subject s operand s₁)
    (hnegates : operand.Negates operandValue value) :
    Explained e.not subject s (.negation text operand operandValue value) s₁
  | tested {ι : Type} {shown : ι → String} {text message : String} {test : ι → Run σ Bool} {x : ι}
    {subject : String} {s s' : σ} {holds : Bool} :
    Explained ((Check.predicate text test).result shown x) subject s
      (.detailed message (some holds) []) s'
  | satisfied {ι : Type} {shown : ι → String} {e : ι → Expectation σ} {x : ι} {subject : String}
    {s s' : σ} {r : Result} (he : Explained (e x) subject s r s') :
    Explained ((Check.satisfying e).result shown x) subject s r s'
  | brokeOff {ι : Type} {shown : ι → String} {e : ι → Expectation σ} {x : ι}
    {subject message : String} {s s' : σ} {f : Fault} (he : (e x subject).run s = (.error f, s')) :
    Explained ((Check.satisfying e).result shown x) subject s (.detailed message (some false) []) s'
  | quantified {ι : Type} {shown : ι → String} {q : Quantifier} {items : List ι} {c : Check σ ι}
    {subject : String} {states : Nat → σ} {results : List Result} {total passes fails : Nat}
    {reportsPasses : Bool} {relevant : List (Nat × Result)} {value : Bool}
    (hlength : results.length = items.length)
    (hruns : ∀ i x r, items[i]? = some x → results[i]? = some r →
      (c.result shown x (itemSubject subject i)).run (states i) = (.ok r, states (i + 1)))
    (hitems : ∀ i x r, items[i]? = some x → results[i]? = some r →
      Explained (c.result shown x) (itemSubject subject i) (states i) r (states (i + 1)))
    (hcounts : q.Counts results total passes fails reportsPasses relevant value) :
    Explained (.quantified shown q items c) subject (states 0)
      (.quantified subject q total passes fails reportsPasses relevant value) (states items.length)

variable {subject : String} {s s' : σ} {r : Result}

theorem exists_of_run_join {op : LogicalOp} {l r : Expectation σ} {result : Result}
    (hrun : (join op l r subject).run s = (.ok result, s')) :
    ∃ left s₁, (l subject).run s = (.ok left, s₁) ∧
      (op.settledBy left.passed = true ∧ s' = s₁ ∧
          result = .logical .expectations subject op left none left.passed true ∨
        ∃ right, ¬op.settledBy left.passed = true ∧ (r subject).run s₁ = (.ok right, s') ∧
          result = .logical .expectations subject op left (some right) right.passed false) := by
  obtain ⟨left, s₁, hleft, hrest⟩ := Run.bind_eq_ok_iff.1 hrun
  refine ⟨left, s₁, hleft, ?_⟩
  by_cases hsettled : op.settledBy left.passed = true
  · rw [if_pos hsettled] at hrest
    cases hrest
    exact .inl ⟨hsettled, rfl, rfl⟩
  · rw [if_neg hsettled] at hrest
    obtain ⟨right, s₂, hright, hresult⟩ := Run.bind_eq_ok_iff.1 hrest
    cases hresult
    exact .inr ⟨right, hsettled, hright, rfl⟩

theorem explained_join {op : LogicalOp} {l r : Expectation σ} {result : Result}
    (hl : ∀ {s s' : σ} {result : Result}, (l subject).run s = (.ok result, s') →
      Explained l subject s result s')
    (hr : ∀ {s s' : σ} {result : Result}, (r subject).run s = (.ok result, s') →
      Explained r subject s result s')
    (hrun : (join op l r subject).run s = (.ok result, s')) :
    Explained (.join op l r) subject s result s' := by
  obtain ⟨left, s₁, hleft, ⟨hsettled, rfl, rfl⟩ | ⟨right, hopen, hright, rfl⟩⟩ :=
    exists_of_run_join hrun
  · exact .left (hl hleft) (Result.joins_left hsettled)
  · exact .both (hl hleft) (hr hright) (Result.joins_both right hopen)

-- An item either is tested, or meets an expectation, which may break off.
theorem explained_item {ι : Type} {shown : ι → String} {c : Check σ ι} {x : ι}
    (hc : ∀ e, c = .satisfying e → ∀ {s s' : σ} {r : Result},
      (e x subject).run s = (.ok r, s') → Explained (e x) subject s r s')
    (hrun : (c.result shown x subject).run s = (.ok r, s')) :
    Explained (c.result shown x) subject s r s' := by
  cases c with
  | predicate text test =>
    obtain ⟨holds, s₁, -, hr⟩ := Run.bind_eq_ok_iff.1 hrun
    cases hr
    exact .tested
  | satisfying e =>
    rcases Check.met_or_brokeOff hrun with hmet | ⟨f, message, hbroke, rfl⟩
    · exact .satisfied (hc e rfl hmet)
    · exact .brokeOff hbroke

theorem Built.explained {e : Expectation σ} (he : e.Built)
    (hrun : (e subject).run s = (.ok r, s')) : e.Explained subject s r s' := by
  induction he generalizing subject s s' r with
  | and _ _ ihl ihr => exact explained_join ihl ihr hrun
  | or _ _ ihl ihr => exact explained_join ihl ihr hrun
  | not _ ih =>
    obtain ⟨operand, s₁, hoperand, hr⟩ := Run.bind_eq_ok_iff.1 hrun
    cases hr
    exact .not (ih hoperand) operand.negates
  | quantified shown q items hc ih =>
    obtain ⟨results, s₁, hresults, hr⟩ := Run.bind_eq_ok_iff.1 hrun
    cases hr
    obtain ⟨states, rfl, rfl, hlength, hitems⟩ := Check.exists_states hresults
    simp only [Nat.zero_add] at hitems
    refine .quantified hlength hitems (fun i x r hx hr => ?_) (q.counts results)
    exact explained_item (fun e he => ih e he x) (hitems i x r hx hr)
  | satisfies shown items checks =>
    obtain ⟨edges, s₁, -, hr⟩ := Run.bind_eq_ok_iff.1 hrun
    cases hr
    exact .decided hrun
  | containsText actual needle =>
    cases hrun
    exact .decided rfl
  | matchesPattern actual pattern =>
    cases hrun
    exact .decided rfl
  | equals h config actual expected =>
    cases hrun
    exact .decided rfl

end Expectation

-- Whatever an expression or an expectation gives as its result explains the run that it comes from, in
-- every node.
theorem results_explain_runs (h : Heap) (config : Config) (cache : ShapeCache) :
    (∀ (e : Expr σ) (c : Context) (s s' : σ) (r : Result),
      (e.assess h config cache c).run s = (.ok r, s') →
        ∃ inner, r = .assertion c inner ∧ e.Explained h [] s inner s') ∧
    ∀ x : Expectation σ, x.Built → ∀ (subject : String) (s s' : σ) (r : Result),
      (x subject).run s = (.ok r, s') → x.Explained subject s r s' := by
  constructor
  · intro e c s s' r hrun
    obtain ⟨inner, s₁, hinner, hr⟩ := Run.bind_eq_ok_iff.1 hrun
    cases hr
    rw [Expr.evaluate_eq_directResult] at hinner
    exact ⟨inner, rfl, Expr.explained_of_run hinner⟩
  · intro x hx subject s s' r hrun
    exact hx.explained hrun

-- A conjunction whose left operand settles it, and two items of which one is not even.
theorem failed_results_explain_runs :
    let cache := ShapeCache.empty fun marks => .ofNat marks.length
    let e : Expr Unit := .logical .and (.literal (.bool false) none) (.literal (.bool true) none)
    let c := Context.of "ready" "orders.txt" 1
    let even : Check Unit Nat := .predicate "is even" fun n => pure (n % 2 == 0)
    let x : Expectation Unit := .quantified toString .each [2, 3] even
    (∃ inner, (e.assess .empty .standard cache c).run () = (.ok (.assertion c inner), ()) ∧
      inner.outcome = some false ∧ e.Explained .empty [] () inner ()) ∧
    x.Built ∧
    ∃ r, (x "orders").run () = (.ok r, ()) ∧ r.outcome = some false ∧
      x.Explained "orders" () r () := by
  intro cache e c even x
  have hx : x.Built := .quantified toString .each [2, 3] nofun
  obtain ⟨hexpr, hexpectation⟩ := results_explain_runs (σ := Unit) .empty .standard cache
  refine ⟨?_, hx, ?_⟩
  · have hrun : ∃ inner, (e.assess .empty .standard cache c).run () = (.ok (.assertion c inner), ()) ∧
        inner.outcome = some false := by
      rw [Expr.assess, Expr.evaluate_eq_directResult]
      exact ⟨_, rfl, rfl⟩
    obtain ⟨inner, hrun, hout⟩ := hrun
    obtain ⟨inner', hinner, hexplained⟩ := hexpr e c () () _ hrun
    cases hinner
    exact ⟨inner, hrun, hout, hexplained⟩
  · exact ⟨_, rfl, rfl, hexpectation x hx "orders" () () _ rfl⟩

end Verdict
