import Verdict.Proofs.Expectation.Explanation

namespace Verdict

namespace Quantifier

-- The fewest items, of so many, that may pass.
def fewest (total : Nat) : Quantifier → Nat
  | .each => total
  | .some | .one => 1
  | .none | .atMost _ => 0
  | .exactly count | .atLeast count => count

-- The most items that may pass. Bounds may well be beyond the number of items.
def most (total : Nat) : Quantifier → Nat
  | .none => 0
  | .one => 1
  | .exactly count | .atMost count => count
  | .each | .some | .atLeast _ => total

variable {q : Quantifier} {passes total : Nat}

theorem holds_judge_iff (hle : passes ≤ total) :
    (q.judge passes total).holds = true ↔ q.fewest total ≤ passes ∧ passes ≤ q.most total := by
  cases q <;> simp only [judge, fewest, most, beq_iff_eq, decide_eq_true_eq] <;> omega

theorem blames_of_not_holds (hle : passes ≤ total) (hfails : (q.judge passes total).holds = false) :
    ((q.judge passes total).reportsPasses = true ↔ q.most total < passes) ∧
      ((q.judge passes total).reportsPasses = false ↔ passes < q.fewest total) := by
  cases q <;> simp [judge, fewest, most] at hfails ⊢ <;> omega

end Quantifier

theorem Result.passed_quantified {text : String} {q : Quantifier} {total passes fails : Nat}
    {reportsPasses holds : Bool} {relevant : List (Nat × Result)} :
    (Result.quantified text q total passes fails reportsPasses relevant holds).passed = holds := by
  cases holds <;> rfl

theorem passed_of_getElem? {results : List Result} {accepts : Nat → Bool} {n i : Nat} {r : Result}
    (hpassed : results.map Result.passed = (List.range n).map accepts) (hr : results[i]? = some r) :
    r.passed = accepts i := by
  have hplace := congrArg (·[i]?) hpassed
  have hi : i < n := by
    have hlt := (List.getElem?_eq_some_iff.1 hr).1
    have hlength : results.length = n := by simpa using congrArg List.length hpassed
    omega
  simpa [hr, hi] using hplace

variable {σ ι : Type}

-- A quantifier over a check whose verdict on the item at index `i` is always `accepts i`. Each item is
-- checked in the state that the one before it left, and all of them are, in order, before anything is judged.
theorem quantifier_counts_and_blames (shown : ι → String) (q : Quantifier) (items : List ι)
    (c : Check σ ι) (subject : String) (accepts : Nat → Bool)
    (hverdict : ∀ i x, items[i]? = some x →
      c.HasVerdict shown x (itemSubject subject i) (accepts i)) (s : σ) :
    ∃ (states : Nat → σ) (results : List Result) (passes : Nat) (reportsPasses value : Bool)
      (relevant : List (Nat × Result)),
      let result : Result := .quantified subject q items.length passes (items.length - passes)
        reportsPasses relevant value
      (Expectation.quantified shown q items c subject).run s = (.ok result, states items.length) ∧
      (Expectation.quantified (fun x => shown x.1) q items.zipIdx (c.noted 0) subject).run ([], s) =
        (.ok result, ((List.range items.length).map (0, ·), states items.length)) ∧
      states 0 = s ∧ results.length = items.length ∧
      (∀ i x r, items[i]? = some x → results[i]? = some r →
        (c.result shown x (itemSubject subject i)).run (states i) = (.ok r, states (i + 1))) ∧
      passes = (List.range items.length).countP accepts ∧
      (value = true ↔ q.fewest items.length ≤ passes ∧ passes ≤ q.most items.length) ∧
      (relevant.map (·.1)).Pairwise (· < ·) ∧
      (∀ i r, (i, r) ∈ relevant ↔ results[i]? = some r ∧ accepts i = reportsPasses) ∧
      (value = false →
        (reportsPasses = true ↔ q.most items.length < passes) ∧
        (reportsPasses = false ↔ passes < q.fewest items.length)) := by
  obtain ⟨results, s', hrun, hpassed, hlog⟩ := c.exists_results shown subject 0 accepts 0 items s
    fun i x hx => by
      rw [Nat.zero_add]
      exact hverdict i x hx
  obtain ⟨states, hstart, hend, hlength, hitems⟩ := Check.exists_states hrun
  simp only [Nat.zero_add] at hitems
  rw [← List.range_eq_range'] at hpassed hlog
  have hle : results.countP (·.passed) ≤ items.length := hlength ▸ List.countP_le_length
  have hpasses : results.countP (·.passed) = (List.range items.length).countP accepts := by
    have hcount := congrArg (List.countP id) hpassed
    rwa [List.countP_map, List.countP_map] at hcount
  let judgement := q.judge (results.countP (·.passed)) items.length
  refine ⟨states, results, results.countP (·.passed), judgement.reportsPasses, judgement.holds,
    indexedWhere judgement.reportsPasses results, ?_, ?_, hstart, hlength, hitems, hpasses,
    Quantifier.holds_judge_iff hle, ordered_indexedWhere _ results, fun i r => ?_,
    Quantifier.blames_of_not_holds hle⟩
  · rw [Expectation.quantified, Run.bind_ok hrun, hend, Quantifier.resultOf, hlength]
    rfl
  · rw [Expectation.quantified, Run.bind_ok (hlog []), hend, Quantifier.resultOf, hlength]
    rfl
  · rw [mem_indexedWhere_iff]
    exact and_congr_right fun hr => by rw [passed_of_getElem? hpassed hr]

-- Two of three items are even, which is one too many.
theorem two_even_items_are_blamed :
    let even : Check Unit Nat := .predicate "is even" fun n => pure (n % 2 == 0)
    (∀ i x, [2, 3, 4][i]? = some x →
      even.HasVerdict toString x (itemSubject "xs" i) (i % 2 == 0)) ∧
    ∃ relevant, (Expectation.quantified toString (.atMost 1) [2, 3, 4] even "xs").run () =
        (.ok (.quantified "xs" (.atMost 1) 3 2 1 true relevant false), ()) ∧
      ∀ p ∈ relevant, p.1 % 2 = 0 := by
  intro even
  have hverdict : ∀ i x, [2, 3, 4][i]? = some x →
      even.HasVerdict toString x (itemSubject "xs" i) (i % 2 == 0) := by
    intro i x hx r s s' hrun
    match i with
    | 0 | 1 | 2 => cases hx; cases hrun; rfl
    | i + 3 => cases hx
  refine ⟨hverdict, ?_⟩
  obtain ⟨states, results, passes, reportsPasses, value, relevant, hrun, -, -, -, -, hpasses, hvalue, -,
      hrelevant, hblames⟩ :=
    quantifier_counts_and_blames toString (.atMost 1) [2, 3, 4] even "xs" (· % 2 == 0) hverdict ()
  obtain rfl : passes = 2 := hpasses
  obtain rfl : value = false := by
    rw [Bool.eq_false_iff, ne_eq, hvalue]
    exact fun hbounds => absurd hbounds.2 (by decide)
  obtain rfl : reportsPasses = true := (hblames rfl).1.2 (by decide)
  exact ⟨relevant, hrun, fun p hp => beq_iff_eq.1 ((hrelevant p.1 p.2).1 hp).2⟩

end Verdict
