import Verdict.Proofs.Comparison.SequenceAsking
import Verdict.Proofs.Expectation.Assignment
import Verdict.Proofs.Expr.Containment

namespace Verdict

variable {σ ι α : Type}

-- What a run gives, and what a run gives that does the same but refuses instead of breaking off.
inductive Run.Kept (refuses : α → Prop) : Callback α × σ → Callback α × σ → Prop where
  | answered {a : α} {s : σ} : Kept refuses (.ok a, s) (.ok a, s)
  | brokeOff {f : Fault} {a : α} {s : σ} (ha : refuses a) : Kept refuses (.error f, s) (.ok a, s)

theorem Run.Kept.exists_orElse {refuses : α → Prop} {p p' : Run σ α} {s : σ}
    (hkept : Kept refuses (p.run s) (p'.run s)) (instead : α) :
    ∃ a a' s', (p.orElse instead).run s = (.ok a, s') ∧
      (p'.orElse instead).run s = (.ok a', s') ∧ (a = a' ∨ a = instead ∧ refuses a') := by
  rw [Run.orElse_at, Run.orElse_at]
  generalize p.run s = given at hkept ⊢
  generalize p'.run s = kept at hkept ⊢
  cases hkept with
  | answered => exact ⟨_, _, _, rfl, rfl, .inl rfl⟩
  | brokeOff ha => exact ⟨_, _, _, rfl, rfl, .inr ⟨rfl, ha⟩⟩

-- The second check always answers: as the first one does, or with a refusal where that one breaks off.
inductive Check.KeptBy : Check σ ι → Check σ ι → Prop where
  | predicate {text : String} {test test' : ι → Run σ Bool}
    (htest : ∀ x s, Run.Kept (· = false) ((test x).run s) ((test' x).run s)) :
    KeptBy (.predicate text test) (.predicate text test')
  | satisfying {e e' : ι → Expectation σ}
    (he : ∀ x subject s,
      Run.Kept (fun r => r.passed = false) ((e x subject).run s) ((e' x subject).run s)) :
    KeptBy (.satisfying e) (.satisfying e')

namespace Check

variable {c c' : Check σ ι}

theorem KeptBy.name_eq (hc : KeptBy c c') (position : Nat) : c.name position = c'.name position := by
  cases hc <;> rfl

theorem KeptBy.exists_result (hc : KeptBy c c') (shown : ι → String) (x : ι) (subject : String)
    (s : σ) :
    ∃ r r' s', (c.result shown x subject).run s = (.ok r, s') ∧
      (c'.result shown x subject).run s = (.ok r', s') ∧ r.passed = r'.passed := by
  cases hc with
  | predicate htest =>
    obtain ⟨holds, holds', s', hrun, hrun', hsame⟩ := (htest x s).exists_orElse false
    have hholds : holds = holds' := hsame.elim id fun h => h.1.trans h.2.symm
    subst hholds
    exact ⟨_, _, s', Run.bind_ok hrun _, Run.bind_ok hrun' _, rfl⟩
  | satisfying he =>
    obtain ⟨r, r', s', hrun, hrun', hsame⟩ := (he x subject s).exists_orElse _
    refine ⟨r, r', s', hrun, hrun', ?_⟩
    rcases hsame with rfl | ⟨rfl, hrefused⟩
    · rfl
    · exact hrefused.symm

theorem KeptBy.exists_results (hc : KeptBy c c') (shown : ι → String) (subject : String) (k : Nat)
    (items : List ι) (s : σ) :
    ∃ results results' s', (c.results shown subject k items).run s = (.ok results, s') ∧
      (c'.results shown subject k items).run s = (.ok results', s') ∧
      results.map Result.passed = results'.map Result.passed := by
  induction items generalizing k s with
  | nil => exact ⟨[], [], s, rfl, rfl, rfl⟩
  | cons x items ih =>
    obtain ⟨r, r', s₁, hr, hr', hpassed⟩ := hc.exists_result shown x (itemSubject subject k) s
    obtain ⟨rest, rest', s', hrest, hrest', hsame⟩ := ih (k + 1) s₁
    refine ⟨r :: rest, r' :: rest', s', ?_, ?_, ?_⟩
    · rw [results, Run.bind_ok hr, operand_at hrest]
    · rw [results, Run.bind_ok hr', operand_at hrest']
    · rw [List.map_cons, List.map_cons, hpassed, hsame]

end Check

-- Two results of a quantifier with the same outcome and counts, which list the same items.
inductive Result.SameItems : Result → Result → Prop where
  | quantified {text : String} {q : Quantifier} {total passes fails : Nat} {reportsPasses : Bool}
    {relevant relevant' : List (Nat × Result)} {value : Bool}
    (hindices : relevant.map (·.1) = relevant'.map (·.1)) :
    SameItems (.quantified text q total passes fails reportsPasses relevant value)
      (.quantified text q total passes fails reportsPasses relevant' value)

theorem Quantifier.sameItems_resultOf (q : Quantifier) (subject : String)
    {results results' : List Result} (hpassed : results.map Result.passed = results'.map Result.passed) :
    (q.resultOf subject results).SameItems (q.resultOf subject results') := by
  have hlength : results.length = results'.length := by simpa using congrArg List.length hpassed
  have hpasses : results.countP (·.passed) = results'.countP (·.passed) := by
    have hcount := congrArg (List.countP id) hpassed
    rwa [List.countP_map, List.countP_map] at hcount
  rw [resultOf, resultOf, ← hlength, ← hpasses]
  refine .quantified ?_
  rw [indices_indexedWhere, indices_indexedWhere, hpassed]

theorem Check.KeptBy.exists_quantified {c c' : Check σ ι} (hc : KeptBy c c') (shown : ι → String)
    (q : Quantifier) (items : List ι) (subject : String) (s : σ) :
    ∃ r r' s', (Expectation.quantified shown q items c subject).run s = (.ok r, s') ∧
      (Expectation.quantified shown q items c' subject).run s = (.ok r', s') ∧ r.SameItems r' := by
  obtain ⟨results, results', s', hrun, hrun', hpassed⟩ := hc.exists_results shown subject 0 items s
  exact ⟨_, _, s', operand_at hrun _, operand_at hrun' _, q.sameItems_resultOf subject hpassed⟩

theorem Check.KeptBy.exists_edges {checks checks' : List (Check σ ι)}
    (hchecks : List.Forall₂ KeptBy checks checks') (shown : ι → String) (subject : String)
    (items : List ι) (s : σ) :
    ∃ edges s', (Satisfies.edges shown subject items checks).run s = (.ok edges, s') ∧
      (Satisfies.edges shown subject items checks').run s = (.ok edges, s') := by
  induction hchecks generalizing s with
  | nil => exact ⟨[], s, rfl, rfl⟩
  | cons hc _ ih =>
    obtain ⟨results, results', s₁, hresults, hresults', hpassed⟩ :=
      hc.exists_results shown subject 0 items s
    obtain ⟨edges, s', hedges, hedges'⟩ := ih s₁
    refine ⟨Satisfies.accepted results :: edges, s', ?_, ?_⟩
    · rw [Satisfies.edges, Run.bind_ok hresults, operand_at hedges]
    · rw [Satisfies.edges, Run.bind_ok hresults', operand_at hedges', Satisfies.accepted,
        Satisfies.accepted, indices_indexedWhere, indices_indexedWhere, hpassed]

theorem Check.KeptBy.exists_satisfies {checks checks' : List (Check σ ι)}
    (hchecks : List.Forall₂ KeptBy checks checks') (shown : ι → String) (items : List ι)
    (subject : String) (s : σ) :
    ∃ r s', (Expectation.satisfies shown items checks subject).run s = (.ok r, s') ∧
      (Expectation.satisfies shown items checks' subject).run s = (.ok r, s') := by
  obtain ⟨edges, s', hedges, hedges'⟩ := exists_edges hchecks shown subject items s
  have hnames : Satisfies.SameNames checks checks' := hchecks.imp fun _ _ hc => hc.name_eq
  refine ⟨_, s', operand_at hedges _, ?_⟩
  rw [Expectation.satisfies, operand_at hedges', ← hchecks.length_eq]
  simp only [Satisfies.unmatchedLines_of_sameNames hnames]

section

variable {h : Heap} {config : Config} {text : String} {c : Comparer} {left right : List Value}

theorem pairwiseEqual_some_iff : PairwiseEqual h (some c) (.seq left) (.seq right) ↔
    List.Forall₂ (fun x y => c.equality x y = .ok true) left right := by
  simp [PairwiseEqual, itemEquality]

-- However large the context is, it is not asked for without a diff.
theorem Call.sequenceEqual_of_breaksOn (hlen : left.length = right.length)
    (hfailed : ¬PairwiseEqual h (some c) (.seq left) (.seq right))
    (hbreaks : BreaksOn c.equality (reportPairs config (answersYes c.equality) left right)) :
    Call.sequenceEqual h config text (.seq left) (.seq right) (some c) =
      .ok (.detailed text (some false) [.top "Sequences differ (diff unavailable)"]) := by
  have hcall : Call.sequenceEqual h config text (.seq left) (.seq right) (some c) =
      if Call.itemsEqual c.equality left right then .ok (Call.passing text)
      else (compareSequences h config (some c.equality) left right).map fun report =>
        Call.failing text report.reportLines := rfl
  have hreport : compareSequences h config (some c.equality) left right =
      .ok (.sequence none none true false) := compareSequences_of_breaksOn config hlen hbreaks
  rw [pairwiseEqual_some_iff, ← Call.itemsEqual_iff] at hfailed
  rw [hcall, if_neg hfailed, hreport]
  rfl

end

-- An expression whose leaves return comes to a result, whatever its tests and equalities do; only a context that is too
-- large for any report can stop it. A test of sequence equality only passes if every pair is answered with yes, and
-- its report does without a diff if one of the pairs that it asks about breaks off. What a check refuses by breaking
-- off, it might as well have answered with no.
theorem callbacks_are_contained (h : Heap) (config : Config) (cache : ShapeCache) :
    (∀ (e : Expr σ) (s : σ), (∀ l ∈ e.leaves, l.Returns) →
      ∃ ran v s', Evaluates h [] e s ran (.ok v) s' ∧
        (config.HoldsContext → ∃ r r', (e.evaluate h config cache).run s = (.ok r, s') ∧
          r.outcome = v.bool? ∧ (e.contained.evaluate h config cache).run s = (.ok r', s') ∧
          r'.outcome = r.outcome) ∧
        ∀ f s'', (e.evaluate h config cache).run s = (.error f, s'') →
          ¬config.HoldsContext ∧ f = ⟨"capacity overflow"⟩) ∧
    (∀ (text : String) (c : Comparer) (left right : List Value),
      let answer := Call.sequenceEqual h config text (.seq left) (.seq right) (some c)
      let allEqual := List.Forall₂ (fun x y => c.equality x y = .ok true) left right
      ((∃ r, answer = .ok r ∧ r.passed = true) ↔ allEqual) ∧
      (left.length = right.length → ¬allEqual →
        BreaksOn c.equality (reportPairs config (answersYes c.equality) left right) →
        answer = .ok (.detailed text (some false) [.top "Sequences differ (diff unavailable)"]))) ∧
    (∀ (ι : Type) (shown : ι → String) (c c' : Check σ ι), c.KeptBy c' →
      ∀ (q : Quantifier) (items : List ι) (subject : String) (s : σ),
        ∃ r r' s', (Expectation.quantified shown q items c subject).run s = (.ok r, s') ∧
          (Expectation.quantified shown q items c' subject).run s = (.ok r', s') ∧
          r.SameItems r') ∧
    ∀ (ι : Type) (shown : ι → String) (checks checks' : List (Check σ ι)),
      List.Forall₂ Check.KeptBy checks checks' →
      ∀ (items : List ι) (subject : String) (s : σ),
        ∃ r s', (Expectation.satisfies shown items checks subject).run s = (.ok r, s') ∧
          (Expectation.satisfies shown items checks' subject).run s = (.ok r, s') := by
  refine ⟨fun e s hleaves => ?_, ?_, ?_, ?_⟩
  · obtain ⟨ran, v, s', he, hresult⟩ := Expr.exists_contained_result s hleaves
    exact ⟨ran, v, s', he, hresult config cache⟩
  · intro text c left right
    dsimp only
    rw [← pairwiseEqual_some_iff]
    exact ⟨Call.exists_passing_sequenceEqual_iff, Call.sequenceEqual_of_breaksOn⟩
  · intro ι shown c c' hc q items subject s
    exact hc.exists_quantified shown q items subject s
  · intro ι shown checks checks' hchecks items subject s
    exact Check.KeptBy.exists_satisfies hchecks shown items subject s

-- A test and an equality that break off on the number two, and a check that breaks off on three.
def breaksOnTwo : Predicate := ⟨"x > 0", fun v => match v with
  | .int 2 => .error ⟨"two"⟩
  | _ => .ok true⟩

def comparesButTwo : Comparer := ⟨"same", fun x _ => breaksOnTwo.test x⟩

def evenButThree (three : Run Unit Bool) : Check Unit Nat :=
  .predicate "x is even" fun x => if x = 3 then three else pure (x % 2 == 0)

theorem two_and_three_are_contained :
    let items : List Value := [.int 1, .int 2]
    let e : Expr Unit := .all (.leaf "xs" ⟨.ready (.ok (.seq items)), none⟩) breaksOnTwo
    let cache : ShapeCache := .empty hash
    let broken := evenButThree (throw ⟨"three"⟩)
    let refusing := evenButThree (pure false)
    (∃ r r', (e.evaluate .empty .standard cache).run () = (.ok r, ()) ∧
      (e.contained.evaluate .empty .standard cache).run () = (.ok r', ()) ∧ r'.outcome = r.outcome) ∧
    Call.sequenceEqual .empty .standard "xs" (.seq items) (.seq [.int 1, .int 3]) (some comparesButTwo) =
      .ok (.detailed "xs" (some false) [.top "Sequences differ (diff unavailable)"]) ∧
    (∃ r r', (Expectation.quantified toString .some [2, 3] broken "xs").run () = (.ok r, ()) ∧
      (Expectation.quantified toString .some [2, 3] refusing "xs").run () = (.ok r', ()) ∧
      r.SameItems r') ∧
    ∃ r, (Expectation.satisfies toString [2, 3] [broken] "xs").run () = (.ok r, ()) ∧
      (Expectation.satisfies toString [2, 3] [refusing] "xs").run () = (.ok r, ()) := by
  intro items e cache broken refusing
  obtain ⟨hexpr, hcall, hquantified, hsatisfies⟩ :=
    callbacks_are_contained (σ := Unit) .empty .standard cache
  have hleaves : ∀ l ∈ e.leaves, l.Returns := by
    intro l hl s
    rw [List.mem_singleton.1 hl]
    exact ⟨_, _, rfl⟩
  have hkept : broken.KeptBy refusing := by
    refine .predicate fun x s => ?_
    by_cases hx : x = 3
    · rw [if_pos hx, if_pos hx]
      exact .brokeOff rfl
    · rw [if_neg hx, if_neg hx]
      exact .answered
  have hbreaks : BreaksOn comparesButTwo.equality
      (reportPairs .standard (answersYes comparesButTwo.equality) items [.int 1, .int 3]) := by
    refine ⟨(.int 2, .int 3), ?_, _, rfl⟩
    refine List.mem_append_left _ (List.mem_append_left _ ?_)
    rw [scannedPairs_cons_of_eq _ _ rfl, scannedPairs_cons_of_ne _ _ Bool.false_ne_true]
    exact List.mem_cons_of_mem _ (List.mem_singleton_self _)
  have hdiffer : ¬List.Forall₂ (fun x y => comparesButTwo.equality x y = .ok true) items
      [.int 1, .int 3] := by
    simp [items, comparesButTwo, breaksOnTwo]
  obtain ⟨ran, v, _, -, hresult, -⟩ := hexpr e () hleaves
  obtain ⟨r, r', hr, -, hr', hout⟩ := hresult (by decide)
  obtain ⟨q, q', _, hq, hq', hsame⟩ := hquantified Nat toString broken refusing hkept .some [2, 3] "xs" ()
  obtain ⟨d, _, hd, hd'⟩ :=
    hsatisfies Nat toString [broken] [refusing] (.cons hkept .nil) [2, 3] "xs" ()
  exact ⟨⟨r, r', hr, hr', hout⟩, (hcall "xs" comparesButTwo items [.int 1, .int 3]).2 rfl hdiffer hbreaks,
    ⟨q, q', hq, hq', hsame⟩, d, hd, hd'⟩

end Verdict
