import Verdict.Proofs.Expectation.Counting
import Verdict.Proofs.Expr.Fidelity

namespace Verdict

variable {σ : Type} {h : Heap} {items : List Value}

namespace Predicate

variable (p : Predicate)

-- The same test as a check, which leaves the state of the caller alone.
def asCheck (σ : Type) : Check σ Value := .predicate p.text fun v => MonadExcept.ofExcept (p.test v)

-- What the check says of an item.
def verdict (shown : Value → String) (v : Value) : Result :=
  let verb := if p.accepts v then "satisfied" else "did not satisfy"
  .detailed (Check.predicateText (shown v) verb p.text) (some (p.accepts v)) []

theorem passed_verdict (shown : Value → String) (v : Value) : (p.verdict shown v).passed = p.accepts v := by
  rw [Result.passed, verdict, Result.outcome]
  cases p.accepts v <;> rfl

-- A test that breaks off does not break off the check.
theorem result_asCheck (shown : Value → String) (v : Value) (subject : String) (s : σ) :
    ((p.asCheck σ).result shown v subject).run s = (.ok (p.verdict shown v), s) := by
  rw [asCheck, Check.result, verdict, accepts]
  cases p.test v <;> rfl

theorem results_asCheck (shown : Value → String) (subject : String) (k : Nat) (items : List Value) (s : σ) :
    ((p.asCheck σ).results shown subject k items).run s = (.ok (items.map (p.verdict shown)), s) := by
  induction items generalizing k with
  | nil => rfl
  | cons v items ih =>
    rw [Check.results, Run.bind_ok (p.result_asCheck shown v _ s), Run.bind_ok (ih (k + 1))]
    rfl

end Predicate

theorem length_indexedWhere (passed : Bool) (results : List Result) :
    (indexedWhere passed results).length = results.countP (·.passed == passed) := by
  conv_rhs => rw [← List.zipIdx_map_fst 0 results, List.countP_map]
  rw [indexedWhere, List.length_map, List.countP_eq_length_filter]
  rfl

theorem length_sub_countP_passed (results : List Result) :
    results.length - results.countP (·.passed) = (indexedWhere false results).length := by
  have hcount := results.length_eq_countP_add_countP (·.passed)
  simp only [Bool.not_eq_true, Bool.decide_eq_false] at hcount
  simp only [length_indexedWhere, beq_false]
  omega

namespace Call

variable {p : Predicate} {i : Nat} {v : Value}

theorem mem_offenders_iff : (i, v) ∈ offenders p items ↔ items[i]? = some v ∧ p.accepts v = false := by
  simp [offenders, List.mk_mem_zipIdx_iff_getElem?]

-- What a quantifier blames are the offenders of the call, each with what the check says of it.
theorem indexedWhere_verdict (p : Predicate) (shown : Value → String) (items : List Value) :
    indexedWhere false (items.map (p.verdict shown)) =
      (offenders p items).map fun i => (i.1, p.verdict shown i.2) := by
  rw [indexedWhere, offenders, List.zipIdx_map, List.filter_map, List.map_map, List.map_map]
  simp only [Function.comp_def, Prod.map, id, Predicate.passed_verdict, beq_false]

end Call

theorem Predicate.countP_verdict (p : Predicate) (shown : Value → String) (items : List Value) :
    (items.map (p.verdict shown)).countP (·.passed) = items.countP p.accepts := by
  rw [List.countP_map]
  exact List.countP_congr fun v _ => by rw [Function.comp_apply, passed_verdict]

theorem quantified_asCheck (p : Predicate) (shown : Value → String) (q : Quantifier) (items : List Value)
    (subject : String) (s : σ) :
    (Expectation.quantified shown q items (p.asCheck σ) subject).run s =
      (.ok (q.resultOf subject (items.map (p.verdict shown))), s) := by
  rw [Expectation.quantified, Run.bind_ok (p.results_asCheck shown subject 0 items s)]
  rfl

-- Lines on the items that a test does not accept: how many of how many they are, then the first of them, each on
-- its line, and how many were left out if any were.
structure Itemized (h : Heap) (config : Config) (p : Predicate) (items : List Value)
    (listed omitted : List (Nat × Value)) (lines : List Line) : Prop where
  mem_iff : ∀ i v, (i, v) ∈ listed ++ omitted ↔ items[i]? = some v ∧ p.accepts v = false
  ordered : ((listed ++ omitted).map (·.1)).Pairwise (· < ·)
  length_le : listed.length ≤ config.maxExtraItems
  length_eq : omitted ≠ [] → listed.length = config.maxExtraItems
  lines_eq : lines =
    .top ("All failed: " ++ toString (listed ++ omitted).length ++ " of " ++ toString items.length ++
        " items did not satisfy `" ++ p.text ++ "`") ::
      listed.map (fun i => .nested ("[" ++ toString i.1 ++ "]: " ++ i.2.display h config.previewItems)) ++
      if omitted = [] then [] else [.nested ("... and " ++ toString omitted.length ++ " more")]

namespace Call

theorem ordered_offenders (p : Predicate) (items : List Value) :
    ((offenders p items).map (·.1)).Pairwise (· < ·) := by
  have hordered := ordered_indexedWhere false (items.map (p.verdict fun _ => ""))
  rwa [indexedWhere_verdict, List.map_map] at hordered

theorem passed_all (h : Heap) (config : Config) (text : String) (items : List Value) (p : Predicate) :
    (all h config text (.seq items) p).passed = (offenders p items).isEmpty := by
  rw [all, Value.items?]
  dsimp only
  cases (offenders p items).isEmpty <;> rfl

theorem exists_itemized (h : Heap) (config : Config) (text : String) {items : List Value} {p : Predicate}
    (hsome : (offenders p items).isEmpty = false) :
    ∃ listed omitted lines, offenders p items = listed ++ omitted ∧
      Itemized h config p items listed omitted lines ∧
      all h config text (.seq items) p = .detailed text (some false) lines := by
  have hsplit := List.take_append_drop config.maxExtraItems (offenders p items)
  refine ⟨_, _, _, hsplit.symm, ⟨?_, ?_, List.length_take_le _ _, fun homitted => ?_, rfl⟩, ?_⟩
  · rw [hsplit]
    exact fun i v => mem_offenders_iff
  · rw [hsplit]
    exact ordered_offenders p items
  · rw [ne_eq, List.drop_eq_nil_iff] at homitted
    exact List.length_take_of_le (Nat.le_of_not_le homitted)
  · rw [all, Value.items?, hsplit, List.length_drop]
    simp only [hsome, List.drop_eq_nil_iff]
    rfl

end Call

-- What a quantifier over all items says in terms of the call.
theorem each_resultOf (p : Predicate) (shown : Value → String) (subject : String) (items : List Value) :
    Quantifier.each.resultOf subject (items.map (p.verdict shown)) =
      .quantified subject .each items.length (items.countP p.accepts) (Call.offenders p items).length false
        ((Call.offenders p items).map fun i => (i.1, p.verdict shown i.2))
        (Call.offenders p items).isEmpty := by
  have hfails := length_sub_countP_passed (items.map (p.verdict shown))
  rw [p.countP_verdict, List.length_map, Call.indexedWhere_verdict, List.length_map] at hfails
  have hle : items.countP p.accepts ≤ items.length := List.countP_le_length
  have hholds : (items.countP p.accepts == items.length) = (Call.offenders p items).isEmpty := by
    rw [Bool.eq_iff_iff, beq_iff_eq, List.isEmpty_iff, ← List.length_eq_zero_iff]
    omega
  rw [Quantifier.resultOf, p.countP_verdict, List.length_map, hfails]
  dsimp only [Quantifier.judge]
  rw [hholds, Call.indexedWhere_verdict]

theorem passed_some_iff (p : Predicate) (shown : Value → String) (subject : String) (items : List Value) :
    (Quantifier.some.resultOf subject (items.map (p.verdict shown))).passed = true ↔
      ∃ v ∈ items, p.accepts v = true := by
  rw [Quantifier.resultOf, Result.passed_quantified, Quantifier.judge, decide_eq_true_eq, p.countP_verdict,
    List.countP_pos_iff]

theorem Call.passed_any_iff (h : Heap) (config : Config) (text : String) (items : List Value) (p : Predicate) :
    (any h config text (.seq items) (some p)).passed = true ↔ ∃ v ∈ items, p.accepts v = true := by
  rw [← List.any_eq_true]
  change (if items.any p.accepts then _ else _ : Result).passed = true ↔ _
  split
  · exact iff_of_true rfl ‹_›
  · exact iff_of_false Bool.false_ne_true ‹_›

section

variable {e : Expr σ} {ran : List Position} {s s' : σ}
  (he : Evaluates h [0] e s ran (.ok (.seq items)) s')

include he

theorem Evaluates.run_all (config : Config) (cache : ShapeCache) (p : Predicate) : ∃ text,
    ((Expr.all e p).evaluate h config cache).run s =
      (.ok (Call.all h config text (.seq items) p), s') := by
  rw [Expr.evaluate_eq_directResult]
  exact ⟨_, operand_at (he.contribution_of_seq _) _⟩

theorem Evaluates.run_any (config : Config) (cache : ShapeCache) (p : Predicate) : ∃ text,
    ((Expr.any e (some p)).evaluate h config cache).run s =
      (.ok (Call.any h config text (.seq items) (some p)), s') := by
  rw [Expr.evaluate_eq_directResult]
  exact ⟨_, operand_at (he.contribution_of_seq _) _⟩

-- The receiver may be any expression that comes to the sequence. The quantifiers are run in the state that it leaves,
-- which neither they nor the calls change any more.
theorem calls_agree_with_quantifiers (config : Config) (cache : ShapeCache) (p : Predicate)
    (shown : Value → String) (subject : String) :
    ∃ all any each some : Result,
      ((Expr.all e p).evaluate h config cache).run s = (.ok all, s') ∧
      ((Expr.any e (.some p)).evaluate h config cache).run s = (.ok any, s') ∧
      (Expectation.quantified shown .each items (p.asCheck σ) subject).run s' = (.ok each, s') ∧
      (Expectation.quantified shown .some items (p.asCheck σ) subject).run s' = (.ok some, s') ∧
      all.passed = each.passed ∧ any.passed = some.passed ∧
      (all.passed = false → ∃ text listed omitted lines,
        each = .quantified subject .each items.length (items.countP p.accepts) (listed ++ omitted).length
          false ((listed ++ omitted).map fun i => (i.1, p.verdict shown i.2)) false ∧
        all = .detailed text (.some false) lines ∧
        Itemized h config p items listed omitted lines) := by
  obtain ⟨text, hall⟩ := he.run_all config cache p
  obtain ⟨text', hany⟩ := he.run_any config cache p
  refine ⟨_, _, _, _, hall, hany, quantified_asCheck p shown .each items subject s',
    quantified_asCheck p shown .some items subject s', ?_, ?_, fun hfails => ?_⟩
  · rw [each_resultOf, Result.passed_quantified, Call.passed_all]
  · rw [Bool.eq_iff_iff, passed_some_iff, Call.passed_any_iff]
  · rw [Call.passed_all] at hfails
    obtain ⟨listed, omitted, lines, hsplit, hlines, hall⟩ := Call.exists_itemized h config text hfails
    refine ⟨text, listed, omitted, lines, ?_, hall, hlines⟩
    rw [each_resultOf, hfails, hsplit]

end

-- A test that breaks off on an item that is no number counts as not passed on both sides.
theorem one_offender_is_listed :
    let config : Config := { Config.standard with maxExtraItems := 1 }
    let cache := ShapeCache.empty hash
    let items : List Value := [.int 1, .int 2, .text "two"]
    let e : Expr Unit := .literal (.seq items) none
    let p : Predicate := ⟨"x is even", fun
      | .int n => .ok (n % 2 == 0)
      | _ => .error ⟨"no number"⟩⟩
    Evaluates .empty [0] e () [] (.ok (.seq items)) () ∧ ∃ all each text listed omitted lines,
      ((Expr.all e p).evaluate .empty config cache).run () = (.ok all, ()) ∧
      (Expectation.quantified (Value.display .empty 10) .each items (p.asCheck Unit) "xs").run () =
        (.ok each, ()) ∧ each.passed = false ∧
      all = .detailed text (some false) lines ∧ Itemized .empty config p items listed omitted lines ∧
      listed.length = 1 ∧ omitted.length = 1 := by
  intro config cache items e p
  have he : Evaluates .empty [0] e () [] (.ok (.seq items)) () := .literal
  obtain ⟨all, any, each, some, hall, -, heach, -, hpassed, -, hlists⟩ :=
    calls_agree_with_quantifiers he config cache p (Value.display .empty 10) "xs"
  have hfails : each.passed = false := by
    cases heach
    rfl
  obtain ⟨text, listed, omitted, lines, hblamed, hdetailed, hlines⟩ := hlists (hpassed.trans hfails)
  have htwo : (listed ++ omitted).length = 2 := by
    cases heach
    obtain ⟨-, -, -, -, hfails, -⟩ := Result.quantified.inj hblamed
    exact hfails.symm
  rw [List.length_append] at htwo
  have hle : listed.length ≤ 1 := hlines.length_le
  have homitted : omitted ≠ [] := by
    rintro rfl
    rw [List.length_nil] at htwo
    omega
  have hone : listed.length = 1 := hlines.length_eq homitted
  exact ⟨he, all, each, text, listed, omitted, lines, hall, heach, hfails, hdetailed, hlines, hone, by omega⟩

end Verdict
