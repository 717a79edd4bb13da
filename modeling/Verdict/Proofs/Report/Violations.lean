import Verdict.Proofs.Expectation.Counting
import Verdict.Proofs.Report.Truthfulness

namespace Verdict

variable {σ : Type} {x : Expectation σ} {subject : String} {s s' : σ} {r n p : Result}
  {force force' : Bool}

namespace Result

-- The node is listed by a quantifier among the items that passed.
inductive ListsPassed : Result → Result → Prop where
  | item {text : String} {q : Quantifier} {total passes fails index : Nat}
    {relevant : List (Nat × Result)} {holds : Bool} {n : Result} (hitem : (index, n) ∈ relevant) :
    ListsPassed (.quantified text q total passes fails true relevant holds) n

theorem not_passed_of_isOpen (hopen : n.isOpen false = true) : n.passed = false := by
  simpa [isOpen] using hopen

end Result

theorem Expectation.Gives.counts {text : String} {q : Quantifier} {total passes fails : Nat}
    {reportsPasses holds : Bool} {relevant : List (Nat × Result)}
    (hn : x.Gives (.quantified text q total passes fails reportsPasses relevant holds)) :
    ∃ results, q.Counts results total passes fails reportsPasses relevant holds := by
  cases hn with
  | leaf _ hleaf => cases hleaf
  | quantified => exact ⟨_, q.counts _⟩

theorem Expectation.Gives.passed_of_listed {outer : Result} (houter : x.Gives outer)
    (hlists : outer.ListsPassed n) : n.passed = true := by
  cases hlists with
  | item hitem =>
    obtain ⟨results, hcounts⟩ := houter.counts
    exact ((hcounts.mem_relevant_iff _ n).1 hitem).2

-- What passed is opened only as an item, and then its quantifier lists what passed.
theorem Expectation.Gives.listsPassed (hn : x.Gives n) (hp : (force', p) ∈ n.parts force)
    (hopen : p.isOpen force' = true) (hpassed : p.passed = true) : n.ListsPassed p := by
  have hforced : force' = true := by
    by_contra hfree
    rw [Bool.not_eq_true] at hfree
    rw [hfree] at hopen
    rw [Result.not_passed_of_isOpen hopen] at hpassed
    cases hpassed
  subst hforced
  cases hn with
  | leaf _ hleaf =>
    rw [hleaf.parts_eq_nil] at hp
    cases hp
  | left | not => cases List.mem_singleton.1 hp
  | both =>
    rcases List.mem_cons.1 hp with hleft | hright
    · cases hleft
    · cases List.mem_singleton.1 hright
  | @quantified ι shown q items c subject s s' results =>
    obtain ⟨item, hitem, hpair⟩ := List.mem_map.1 hp
    obtain ⟨-, rfl⟩ := Prod.mk.inj hpair
    have hreports := (mem_indexedWhere_iff.1 hitem).2
    rw [hpassed] at hreports
    rw [Quantifier.resultOf]
    simp only [← hreports] at hitem ⊢
    exact .item hitem

section

variable (hx : x.Composed) (hrun : (x subject).run s = (.ok r, s'))

include hx hrun

theorem exists_listsPassed (hn : r.Opened force n) (hpassed : n.passed = true) :
    ∃ force' outer, r.Opened force' outer ∧ outer.ListsPassed n := by
  cases hn with
  | root hopen =>
    rw [Result.not_passed_of_isOpen hopen] at hpassed
    cases hpassed
  | part houter hp hopen =>
    obtain ⟨x', -, hgives⟩ := hx.exists_opened hrun houter
    exact ⟨_, _, houter, hgives.listsPassed hp hopen hpassed⟩

-- Around what passed there is a quantifier that failed, for too many items passed. The induction goes outwards:
-- a quantifier that lists what passed either failed or was listed for having passed itself.
theorem exists_overfull (hn : r.Opened force n) (hpassed : n.passed = true) :
    ∃ force' text q total passes fails relevant,
      r.Opened force' (.quantified text q total passes fails true relevant false) ∧
      q.most total < passes := by
  induction hn with
  | root hopen =>
    rw [Result.not_passed_of_isOpen hopen] at hpassed
    cases hpassed
  | part houter hp hopen ih =>
    obtain ⟨x', -, hgives⟩ := hx.exists_opened hrun houter
    cases hgives.listsPassed hp hopen hpassed with
    | @item text q total passes fails index relevant holds _ hitem =>
      cases holds with
      | true => exact ih rfl
      | false =>
        obtain ⟨results, hcounts⟩ := hgives.counts
        have hle : passes ≤ total := hcounts.sum_eq ▸ Nat.le_add_right passes fails
        have hblames := q.blames_of_not_holds hle hcounts.value_eq.symm
        exact ⟨_, text, q, total, passes, fails, relevant, houter, hblames.1.1 hcounts.reportsPasses_eq.symm⟩

end

-- A quantifier that is opened has its summary in the report. It is one that held just if an opened quantifier lists
-- it as an item that passed, and this takes a quantifier that failed as more items passed than may.
theorem held_quantifier_is_listed (now : Heap) (renderer : Renderer) (hx : x.Composed)
    (hrun : (x subject).run s = (.ok r, s')) {text : String} {q : Quantifier} {total passes fails : Nat}
    {reportsPasses holds : Bool} {relevant : List (Nat × Result)}
    (hn : r.Opened force (.quantified text q total passes fails reportsPasses relevant holds)) :
    let n : Result := .quantified text q total passes fails reportsPasses relevant holds
    let items := relevant.flatMap fun item =>
      Result.labelled (Result.placeLabel item.1) (item.2.shown now renderer.config true false)
    n.Prints now renderer.config (renderer.render now r).1 force text
        (.top (Result.summary q total relevant.length reportsPasses) :: items.map (·.deeper 1)) ∧
      (holds = true ↔ ∃ force' outer, r.Opened force' outer ∧ outer.ListsPassed n) ∧
      (holds = true → ∃ force' text q total passes fails relevant,
        r.Opened force' (.quantified text q total passes fails true relevant false) ∧
        q.most total < passes) := by
  intro n items
  have hpassed : n.passed = holds := Result.passed_quantified
  refine ⟨?_, ⟨fun hholds => ?_, ?_⟩, fun hholds => ?_⟩
  · exact Result.Placed.prints hn.placed fun bare => Result.shown_quantified hn.isOpen
  · exact exists_listsPassed hx hrun hn (hpassed.trans hholds)
  · rintro ⟨force', outer, houter, hlists⟩
    obtain ⟨x', -, hgives⟩ := hx.exists_opened hrun houter
    exact hpassed.symm.trans (hgives.passed_of_listed hlists)
  · exact exists_overfull hx hrun hn (hpassed.trans hholds)

-- Two items of which everything passed, where at most one may, are listed for having passed.
theorem held_items_are_listed :
    let renderer := Renderer.new (.of .standard)
    let even : Check Unit Nat := .predicate "x is even" fun n => pure (n % 2 == 0)
    let x : Expectation Unit := .quantified toString (.atMost 1) [2, 4]
      (.satisfying fun n => .quantified toString .each [n] even)
    let n : Result := .quantified "rows[1]" .each 1 1 0 false [] true
    x.Composed ∧ ∃ r, (x "rows").run () = (.ok r, ()) ∧ r.Opened true n ∧
      n.Prints .empty renderer.config (renderer.render .empty r).1 true "rows[1]"
        [.top "Expected each item to satisfy expectation, but 0 of 1 failed:"] ∧
      (∃ force' outer, r.Opened force' outer ∧ outer.ListsPassed n) ∧
      ∃ force' text q total passes fails relevant,
        r.Opened force' (.quantified text q total passes fails true relevant false) ∧ q.most total < passes := by
  intro renderer even x n
  have hx : x.Composed := by
    refine Expectation.Built.composed (.quantified _ _ _ fun e he n => ?_)
    cases he
    exact .quantified _ _ _ nofun
  have hrun : ∃ r, (x "rows").run () = (.ok r, ()) ∧ r.Opened true n :=
    ⟨_, rfl, .part (.root rfl) (.tail _ (.head _)) rfl⟩
  obtain ⟨r, hrun, hn⟩ := hrun
  obtain ⟨hprints, hlisted, houter⟩ := held_quantifier_is_listed .empty renderer hx hrun hn
  exact ⟨hx, r, hrun, hn, hprints, hlisted.1 rfl, houter rfl⟩

-- An item of which everything passed is listed, where none ought to, with the summary that nothing failed.
theorem held_quantifier_is_told_as_violated :
    let report (r : Result) := ((Renderer.new (.of .standard)).render .empty r).1
    let even : Check Unit Nat := .predicate "x is even" fun n => pure (n % 2 == 0)
    let x : Expectation Unit := .quantified toString .none [2]
      (.satisfying fun n => .quantified toString .each [n] even)
    let n : Result := .quantified "rows[0]" .each 1 1 0 false [] true
    x.Built ∧ ∃ r, (x "rows").run () = (.ok r, ()) ∧ r.Opened true n ∧ n.passed = true ∧
      report r = [.top "Expected no item to satisfy expectation, but 1 of 1 passed:",
        .nested "[0]: rows[0]", ⟨2, "Expected each item to satisfy expectation, but 0 of 1 failed:"⟩] := by
  intro report even x n
  refine ⟨.quantified _ _ _ fun e he n => ?_, _, rfl, .part (.root rfl) (List.mem_singleton.2 rfl) rfl, rfl, rfl⟩
  cases he
  exact .quantified _ _ _ nofun

end Verdict
