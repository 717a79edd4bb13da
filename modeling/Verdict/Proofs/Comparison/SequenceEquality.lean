import Verdict.Comparison.Dispatch
import Verdict.Proofs.Expr.Fidelity
import Verdict.Proofs.Value.Bisimulation
import Mathlib.Data.List.TFAE
import Mathlib.Tactic.TFAE

namespace Verdict

variable {h : Heap} {config : Config} {left right : List Value} {i : Nat}

-- The places at which both sequences have an item and the items differ.
def differing (h : Heap) (left right : List Value) : Set Nat :=
  {i | ∃ x y, left[i]? = some x ∧ right[i]? = some y ∧ x.equals h y = false}

theorem mem_differing_iff :
    i ∈ differing h left right ↔ ∃ p, (left.zip right)[i]? = some p ∧ p.1.equals h p.2 = false := by
  constructor
  · rintro ⟨x, y, hx, hy, hne⟩
    exact ⟨(x, y), List.getElem?_zip_eq_some.2 ⟨hx, hy⟩, hne⟩
  · rintro ⟨⟨x, y⟩, hp, hne⟩
    obtain ⟨hx, hy⟩ := List.getElem?_zip_eq_some.1 hp
    exact ⟨x, y, hx, hy, hne⟩

theorem index_firstMismatch : (firstMismatch h config left right).map (·.index) =
    (left.zip right).findIdx? fun p => !p.1.equals h p.2 := by
  rw [firstMismatch, Option.map_map, List.findIdx?_eq_fst_find?_zipIdx]
  rfl

theorem index_firstMismatch_eq_some_iff :
    (firstMismatch h config left right).map (·.index) = some i ↔
      IsLeast (differing h left right) i := by
  rw [index_firstMismatch, List.findIdx?_eq_some_iff_getElem]
  constructor
  · rintro ⟨hi, hne, hbefore⟩
    rw [Bool.not_eq_true'] at hne
    refine ⟨mem_differing_iff.2 ⟨_, List.getElem?_eq_getElem hi, hne⟩, fun k hk => ?_⟩
    obtain ⟨p, hp, hkne⟩ := mem_differing_iff.1 hk
    obtain ⟨hlen, hat⟩ := List.getElem?_eq_some_iff.1 hp
    by_contra hlt
    exact hbefore k (by omega) (by rw [hat, hkne]; rfl)
  · rintro ⟨hmem, hleast⟩
    obtain ⟨p, hp, hne⟩ := mem_differing_iff.1 hmem
    obtain ⟨hi, rfl⟩ := List.getElem?_eq_some_iff.1 hp
    refine ⟨hi, by rw [hne]; rfl, fun k hk hkne => ?_⟩
    rw [Bool.not_eq_true'] at hkne
    have hle := hleast (mem_differing_iff.2 ⟨_, List.getElem?_eq_getElem (hk.trans hi), hkne⟩)
    omega

theorem firstMismatch_eq_none_iff :
    firstMismatch h config left right = none ↔
      ∀ p ∈ left.zip right, p.1.equals h p.2 = true := by
  rw [← Option.map_eq_none_iff (f := (·.index)), index_firstMismatch, List.findIdx?_eq_none_iff]
  simp only [Bool.not_eq_false']

theorem kind_lengthDelta (h : Heap) (config : Config) (left right : List Value) :
    (lengthDelta h config left right).map (·.kind) =
      if right.length < left.length then some .extra
      else if left.length < right.length then some .missing
      else none := by
  unfold lengthDelta
  split
  · rfl
  · split <;> rfl

theorem kind_lengthDelta_eq_extra_iff :
    (lengthDelta h config left right).map (·.kind) = some .extra ↔ right.length < left.length := by
  rw [kind_lengthDelta]
  split
  · exact iff_of_true rfl ‹_›
  · split
    · exact iff_of_false nofun ‹_›
    · exact iff_of_false nofun ‹_›

theorem kind_lengthDelta_eq_missing_iff :
    (lengthDelta h config left right).map (·.kind) = some .missing ↔ left.length < right.length := by
  rw [kind_lengthDelta]
  split
  · exact iff_of_false nofun (by omega)
  · split
    · exact iff_of_true rfl ‹_›
    · exact iff_of_false nofun ‹_›

theorem lengthDelta_eq_none_iff :
    lengthDelta h config left right = none ↔ left.length = right.length := by
  rw [← Option.map_eq_none_iff (f := (·.kind)), kind_lengthDelta]
  split
  · exact iff_of_false nofun (by omega)
  · split
    · exact iff_of_false nofun (by omega)
    · exact iff_of_true rfl (by omega)

-- The report records nothing exactly when the sequences are equal.
theorem report_records_nothing_iff :
    firstMismatch h config left right = none ∧ lengthDelta h config left right = none ↔
      (Value.seq left).equals h (.seq right) = true := by
  rw [firstMismatch_eq_none_iff, lengthDelta_eq_none_iff, equals_seq_iff, List.forall₂_iff_zip,
    and_comm, Prod.forall]

theorem pairwiseEqual_none_iff :
    PairwiseEqual h none (.seq left) (.seq right) ↔
      (Value.seq left).equals h (.seq right) = true := by
  rw [equals_seq_iff, PairwiseEqual]
  constructor
  · rintro ⟨xs, ys, hleft, hright, hitems⟩
    cases hleft
    cases hright
    exact hitems.imp fun _ _ => Except.ok.inj
  · intro hitems
    exact ⟨left, right, rfl, rfl, hitems.imp fun _ _ => congrArg Except.ok⟩

variable {σ : Type} {e other : Expr σ} {s s₁ s₂ : σ} {ran ran₁ : List Position}

-- Once both operands have come to a sequence, the answer is that of the test.
theorem evaluate_sequenceEqual (config : Config) (cache : ShapeCache)
    (he : Evaluates h [0] e s ran (.ok (.seq left)) s₁)
    (hother : Evaluates h [1] other s₁ ran₁ (.ok (.seq right)) s₂) :
    ∃ text, (((Expr.sequenceEqual e other none).evaluate h config cache).run s).1 =
      Call.sequenceEqual h config text (.seq left) (.seq right) none := by
  rw [Expr.evaluate_eq_directResult, Expr.directResult, Run.bind_ok (he.contribution_of_seq _),
    Run.bind_ok (hother.contribution_of_seq _)]
  exact ⟨_, rfl⟩

-- Equality of the values, the test of the expressions that come to them, and the report on them agree;
-- and the report records the first place where they differ and which of them is longer. The test comes to a result,
-- unless the sequences differ and so much context is asked for that it cannot be held.
theorem sequence_equalities_agree (h : Heap) (config : Config) (cache : ShapeCache) {l r : Operand}
    (hl : l.value = .seq left) (hr : r.value = .seq right)
    (hstrategy : Strategy.select l r = .collection)
    (he : Evaluates h [0] e s ran (.ok (.seq left)) s₁)
    (hother : Evaluates h [1] other s₁ ran₁ (.ok (.seq right)) s₂) :
    let answer := (((Expr.sequenceEqual e other none).evaluate h config cache).run s).1
    ∃ mismatch delta,
      compareOperands h config l r = .collection (previewList h config.previewItems left)
        (previewList h config.previewItems right) mismatch delta ∧
      List.TFAE [(Value.seq left).equals h (.seq right) = true,
        ∃ result, answer = .ok result ∧ result.passed = true, mismatch = none ∧ delta = none] ∧
      ((∃ result, answer = .ok result) ∨ ¬config.HoldsContext ∧ answer = .error ⟨"capacity overflow"⟩) ∧
      (∀ i, mismatch.map (·.index) = some i ↔ IsLeast (differing h left right) i) ∧
      (delta.map (·.kind) = some .extra ↔ right.length < left.length) ∧
      (delta.map (·.kind) = some .missing ↔ left.length < right.length) ∧
      (delta = none ↔ left.length = right.length) := by
  obtain ⟨text, hanswer⟩ := evaluate_sequenceEqual config cache he hother
  dsimp only
  rw [hanswer]
  refine ⟨firstMismatch h config left right, lengthDelta h config left right, ?_, ?_, ?_,
    fun i => index_firstMismatch_eq_some_iff, kind_lengthDelta_eq_extra_iff,
    kind_lengthDelta_eq_missing_iff, lengthDelta_eq_none_iff⟩
  · rw [compareOperands, hstrategy, hl, hr]
    rfl
  · tfae_have 1 ↔ 2 := pairwiseEqual_none_iff.symm.trans Call.exists_passing_sequenceEqual_iff.symm
    tfae_have 1 ↔ 3 := report_records_nothing_iff.symm
    tfae_finish
  · obtain ⟨-, hok⟩ | ⟨-, ⟨lines, -, hok⟩ | hlarge⟩ :=
      Call.sequenceEqual_cases h config text (.seq left) (.seq right) none
    · exact .inl ⟨_, hok⟩
    · exact .inl ⟨_, hok⟩
    · exact .inr hlarge

-- Each of two objects leads back to itself.
def loops : Heap := ⟨#[⟨"Node", [("next", .object 0)]⟩, ⟨"Node", [("next", .object 1)]⟩]⟩

-- The second items lead to pairs that equality has come across in the first ones.
theorem shared_loops_are_equal_sequences :
    let left := [Value.object 0, .object 0]
    let right := [Value.object 1, .object 1]
    Strategy.select (.untyped (.seq left)) (.untyped (.seq right)) = .collection ∧
    Evaluates loops [0] (.literal (.seq left) none) () [] (.ok (.seq left)) () ∧
    Evaluates loops [1] (.literal (.seq right) none) () [] (.ok (.seq right)) () ∧
    ∃ result,
      (((Expr.sequenceEqual (.literal (.seq left) none) (.literal (.seq right) none) none).evaluate
        loops .standard (.empty hash)).run ()).1 = .ok result ∧ result.passed = true ∧
      compareOperands loops .standard (.untyped (.seq left)) (.untyped (.seq right)) =
        .collection (previewList loops 10 left) (previewList loops 10 right) none none := by
  intro left right
  have hloops : IsBisimulation loops fun x y => x = .object 0 ∧ y = .object 1 := by
    rintro _ _ ⟨rfl, rfl⟩
    refine .object rfl rfl fun f hf => ?_
    obtain rfl := List.mem_singleton.1 hf
    exact ⟨.object 1, rfl, rfl, rfl⟩
  have hitem : (Value.object 0).equals loops (.object 1) = true :=
    equals_iff_exists_isBisimulation.2 ⟨_, hloops, rfl, rfl⟩
  have hequal : (Value.seq left).equals loops (.seq right) = true :=
    equals_seq_iff.2 (.cons hitem (.cons hitem .nil))
  obtain ⟨mismatch, delta, hreport, hagree, -⟩ :=
    sequence_equalities_agree loops .standard (.empty hash) (l := .untyped (.seq left))
      (r := .untyped (.seq right)) rfl rfl rfl (.literal (d := none) (s := ()))
      (.literal (d := none) (s := ()))
  obtain ⟨rfl, rfl⟩ := (hagree.out 0 2).1 hequal
  obtain ⟨result, hrun, hpassed⟩ := (hagree.out 0 1).1 hequal
  exact ⟨rfl, .literal, .literal, result, hrun, hpassed, hreport⟩

end Verdict
