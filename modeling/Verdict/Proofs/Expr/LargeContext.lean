import Verdict.Proofs.Expr.Calls
import Verdict.Proofs.Expr.Recall
import Mathlib.Order.Defs.Unbundled

namespace Verdict

variable {σ α β γ δ : Type}

-- The same config without any context.
theorem holdsContext_none (config : Config) : { config with contextLines := 0 }.HoldsContext := by
  change 24 * (0 + 1) < 0x8000000000000000
  decide

-- `p` comes to what `q` comes to, as far as it shows, and leaves the same state. Or it breaks off over a context that
-- cannot be held, in a state that lies before the one where `q` ends.
structure StopsShort (config : Config) (before : σ → σ → Prop) (shown : α → γ) (p q : Run σ α) : Prop where
  forward : ∀ s, before s (q.run s).2
  same : ∀ s, ((p.run s).1.map shown = (q.run s).1.map shown ∧ (p.run s).2 = (q.run s).2) ∨
    ¬config.HoldsContext ∧ ∃ s', p.run s = (.error capacityOverflow, s') ∧ before s' (q.run s).2

section

variable {config : Config} {before : σ → σ → Prop} {shown : α → γ} {p q : Run σ α}

theorem stopsShort_work (hforward : ∀ s, before s (p.run s).2) :
    StopsShort config before shown p p where
  forward := hforward
  same _ := .inl ⟨rfl, rfl⟩

variable [IsPreorder σ before]

theorem stopsShort_pure {a b : α} (hshown : shown a = shown b) :
    StopsShort config before shown (pure a) (pure b) where
  forward s := refl_of before s
  same _ := .inl ⟨congrArg Except.ok hshown, rfl⟩

-- If `p` has broken off over the context already, `q` only goes on.
theorem StopsShort.bind {shown' : β → δ} {f g : α → Run σ β} (hp : StopsShort config before shown p q)
    (hf : ∀ a b, shown a = shown b → StopsShort config before shown' (f a) (g b)) :
    StopsShort config before shown' (p >>= f) (q >>= g) := by
  have hgoes (s : σ) : before (q.run s).2 ((q >>= g).run s).2 := by
    rw [Run.bind_at]
    rcases q.run s with ⟨answer, s'⟩
    cases answer with
    | ok b => exact (hf b b rfl).forward s'
    | error f => exact refl_of before s'
  refine ⟨fun s => trans_of before (hp.forward s) (hgoes s), fun s => ?_⟩
  obtain ⟨hanswer, hstate⟩ | ⟨hlarge, s', hrun, hbefore⟩ := hp.same s
  · rw [Run.bind_at, Run.bind_at]
    rcases hprun : p.run s with ⟨answer, s₁⟩
    rcases hqrun : q.run s with ⟨answer', s₂⟩
    rw [hprun, hqrun] at hanswer hstate
    cases hstate
    cases answer with
    | ok a =>
      cases answer' with
      | ok b => exact (hf a b (Except.ok.inj hanswer)).same s₁
      | error f => cases hanswer
    | error f =>
      cases answer' with
      | ok b => cases hanswer
      | error f' =>
        cases hanswer
        exact .inl ⟨rfl, rfl⟩
  · exact .inr ⟨hlarge, s', Run.bind_error hrun f, trans_of before hbefore (hgoes s)⟩

theorem StopsShort.return {shown' : β → δ} {f g : α → β} (hp : StopsShort config before shown p q)
    (hf : ∀ a b, shown a = shown b → shown' (f a) = shown' (g b)) :
    StopsShort config before shown' (do return f (← p)) (do return g (← q)) :=
  hp.bind fun a b hab => stopsShort_pure (hf a b hab)

end

-- Two results that decide the same have the same outcome.
theorem Result.Decides.outcome_eq {r r' : Result} {holds : Prop} (hr : r.Decides holds)
    (hr' : r'.Decides holds) : r.outcome = r'.outcome := by
  obtain ⟨b, hb, hiff⟩ := hr
  obtain ⟨b', hb', hiff'⟩ := hr'
  rw [hb, hb', Bool.eq_iff_iff.2 (hiff.trans hiff'.symm)]

namespace Expr

-- The leaves that bring work.
def leaves : Expr σ → List (Leaf σ)
  | .member _ l | .leaf _ l => [l]
  | .literal .. => []
  | .compare _ l r | .logical _ l r => l.leaves ++ r.leaves
  | .not e | .any e _ | .all e _ => e.leaves
  | .contains e item => e.leaves ++ item.leaves
  | .sequenceEqual e other _ => e.leaves ++ other.leaves

theorem leaves_subset {e child : Expr σ} (hchild : child ∈ e.children) : child.leaves ⊆ e.leaves := by
  cases e with
  | member | leaf | literal => cases hchild
  | not | any | all =>
    rw [List.mem_singleton.1 hchild]
    exact List.Subset.refl _
  | compare | logical | contains | sequenceEqual =>
    rcases List.mem_pair.1 hchild with rfl | rfl
    · exact List.subset_append_left _ _
    · exact List.subset_append_right _ _

theorem outcome_comparisonResult (h : Heap) (config : Config) (text : String) (op : CompareOp)
    (left right : Operand) :
    (comparisonResult h config text op left right).outcome =
      some (op.apply h left.value right.value) := by
  unfold comparisonResult
  split
  · rename_i hop
    simp [Result.outcome, hop]
  · rename_i hop
    simp [Result.outcome, hop]

section

variable {h : Heap} {config config' : Config} {before : σ → σ → Prop} [IsPreorder σ before]

theorem stopsShort_contribution {e : Expr σ} {p q : Run σ Result}
    (hleaves : ∀ l ∈ e.leaves, ∀ s, before s (l.work.finish.run s).2)
    (hp : StopsShort config before Result.outcome p q) :
    StopsShort config before id (e.directContribution p) (e.directContribution q) := by
  cases e with
  | member path l => exact stopsShort_work (hleaves l List.mem_cons_self)
  | leaf text l => exact stopsShort_work (hleaves l List.mem_cons_self)
  | literal v d => exact stopsShort_pure rfl
  | compare | logical | not | contains | any | all | sequenceEqual =>
    exact hp.return fun r r' hout => congrArg Value.ofOutcome hout

-- Only the report on a failed test of equality can break off, and it does not for a context that can be held.
theorem stopsShort_sequenceEqual (hholds : config'.HoldsContext) (text : String) (left right : Value)
    (c : Option Comparer) :
    StopsShort config before Result.outcome
      (Run.ofAnswer (Call.sequenceEqual h config text left right c))
      (Run.ofAnswer (Call.sequenceEqual h config' text left right c)) := by
  refine ⟨fun s => refl_of before s, fun s => ?_⟩
  obtain ⟨r', hr'⟩ := Call.exists_sequenceEqual hholds h text left right c
  cases hanswer : Call.sequenceEqual h config text left right c with
  | ok r =>
    have hout := (Call.decides_of_sequenceEqual hanswer).outcome_eq (Call.decides_of_sequenceEqual hr')
    exact .inl ⟨by rw [hr', Run.ofAnswer_at, Run.ofAnswer_at]; exact congrArg Except.ok hout, rfl⟩
  | error f =>
    obtain ⟨hlarge, rfl⟩ := Call.sequenceEqual_eq_error hanswer
    exact .inr ⟨hlarge, s, rfl, refl_of before s⟩

-- By induction on the tree: up to outcomes a node does the same under both configs, until it breaks off.
theorem stopsShort_result (hholds : config'.HoldsContext) (shape : Shape) {e : Expr σ}
    (hleaves : ∀ l ∈ e.leaves, ∀ s, before s (l.work.finish.run s).2) (index : Nat) :
    StopsShort config before Result.outcome (e.directResult h config shape index)
      (e.directResult h config' shape index) := by
  induction e generalizing index with
  | member path l =>
    have hwork : StopsShort config before id l.work.finish l.work.finish :=
      stopsShort_work (hleaves l List.mem_cons_self)
    exact hwork.return fun v v' hv =>
      congrArg (fun v => (Result.value (shape.text index) v l.declared).outcome) hv
  | leaf text l =>
    have hwork : StopsShort config before id l.work.finish l.work.finish :=
      stopsShort_work (hleaves l List.mem_cons_self)
    exact hwork.return fun v v' hv =>
      congrArg (fun v => (Result.value (shape.text index) v l.declared).outcome) hv
  | literal v d => exact stopsShort_pure rfl
  | compare op l r ihl ihr =>
    obtain ⟨hl, hr⟩ := List.forall_mem_append.1 hleaves
    refine (stopsShort_contribution hl (ihl hl _)).bind fun a a' ha => ?_
    refine (stopsShort_contribution hr (ihr hr _)).return fun b b' hb => ?_
    cases ha
    cases hb
    rw [outcome_comparisonResult, outcome_comparisonResult]
  | logical op l r ihl ihr =>
    obtain ⟨hl, hr⟩ := List.forall_mem_append.1 hleaves
    refine (ihl hl _).bind fun left left' hleft => ?_
    have hpassed : left.passed = left'.passed := by rw [Result.passed, hleft, Result.passed]
    rw [hpassed]
    by_cases hsettled : op.settledBy left'.passed = true
    · rw [if_pos hsettled, if_pos hsettled]
      exact stopsShort_pure rfl
    · rw [if_neg hsettled, if_neg hsettled]
      refine (ihr hr _).return fun right right' hright => ?_
      rw [Result.outcome, Result.outcome, Result.passed, hright, Result.passed]
  | not e ih =>
    refine (ih hleaves _).return fun r r' hout => ?_
    rw [Result.outcome, Result.outcome, hout]
  | contains e item ihe ihi =>
    obtain ⟨he, hi⟩ := List.forall_mem_append.1 hleaves
    refine (stopsShort_contribution he (ihe he _)).bind fun a a' ha => ?_
    refine (stopsShort_contribution hi (ihi hi _)).return fun b b' hb => ?_
    cases ha
    cases hb
    exact (Call.decides_contains ..).outcome_eq (Call.decides_contains ..)
  | any e p ih =>
    refine (stopsShort_contribution (e := e) hleaves (ih hleaves _)).return fun a a' ha => ?_
    cases ha
    exact (Call.decides_any ..).outcome_eq (Call.decides_any ..)
  | all e p ih =>
    refine (stopsShort_contribution (e := e) hleaves (ih hleaves _)).return fun a a' ha => ?_
    cases ha
    exact (Call.decides_all ..).outcome_eq (Call.decides_all ..)
  | sequenceEqual e other c ihe iho =>
    obtain ⟨he, ho⟩ := List.forall_mem_append.1 hleaves
    refine (stopsShort_contribution he (ihe he _)).bind fun a a' ha => ?_
    refine (stopsShort_contribution ho (iho ho _)).bind fun b b' hb => ?_
    cases ha
    cases hb
    exact stopsShort_sequenceEqual hholds _ a b c

end

-- States in any order.
def AnyOrder (_ _ : σ) : Prop := True

instance : IsPreorder σ AnyOrder where
  refl _ := trivial
  trans _ _ _ _ _ := trivial

-- What a node contributes does not depend on the context.
theorem contribution_of_ok {h : Heap} {config config' : Config} {shape : Shape} {e : Expr σ}
    {index : Nat} {s s' : σ} {v : Value} (hholds : config'.HoldsContext)
    (hrun : (e.directContribution (e.directResult h config shape index)).run s = (.ok v, s')) :
    (e.directContribution (e.directResult h config' shape index)).run s = (.ok v, s') := by
  have hleaves : ∀ l ∈ e.leaves, ∀ s, AnyOrder s (l.work.finish.run s).2 := fun _ _ _ => trivial
  have hresult : StopsShort config AnyOrder Result.outcome (e.directResult h config shape index)
      (e.directResult h config' shape index) := stopsShort_result hholds shape hleaves index
  obtain ⟨hanswer, hstate⟩ | ⟨-, s'', hbroke, -⟩ := (stopsShort_contribution hleaves hresult).same s
  · rw [hrun] at hanswer hstate
    refine Prod.ext ?_ hstate.symm
    cases hanswer' : ((e.directContribution (e.directResult h config' shape index)).run s).1 with
    | ok w =>
      rw [hanswer'] at hanswer
      exact hanswer.symm
    | error f =>
      rw [hanswer'] at hanswer
      cases hanswer
  · rw [hrun] at hbroke
    cases hbroke

end Expr

end Verdict
