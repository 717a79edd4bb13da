import Verdict.Proofs.Expectation.Explanation
import Verdict.Proofs.Report.Opened

namespace Verdict

variable {σ : Type} {h : Heap} {s s' : σ} {force force' : Bool} {n p r : Result}

namespace Expr

variable {e : Expr σ} {position : Position}

-- The other expression is this one or in it, at any depth.
def HasPart : Expr σ → Expr σ → Prop := Relation.ReflTransGen fun e part => part ∈ e.children

theorem Explained.exists_part (hn : e.Explained h position s n s') (hp : (force', p) ∈ n.parts force) :
    ∃ position' e' s₁ s₂, e' ∈ e.children ∧ e'.Explained h position' s₁ p s₂ := by
  cases hn with
  | value | comparison | call => cases hp
  | left hl _ =>
    rcases Result.eq_of_mem_parts_logical hp with rfl | hright
    · exact ⟨_, _, _, _, List.mem_cons_self, hl⟩
    · cases hright
  | both hl hr _ =>
    rcases Result.eq_of_mem_parts_logical hp with rfl | hright
    · exact ⟨_, _, _, _, List.mem_cons_self, hl⟩
    · cases hright
      exact ⟨_, _, _, _, List.mem_cons_of_mem _ List.mem_cons_self, hr⟩
  | not he _ =>
    obtain rfl := Result.eq_of_mem_parts_negation hp
    exact ⟨_, _, _, _, List.mem_cons_self, he⟩

theorem Explained.exists_opened (hr : e.Explained h position s r s') (hn : r.Opened force n) :
    ∃ position' e' s₁ s₂, e.HasPart e' ∧ e'.Explained h position' s₁ n s₂ := by
  let P (n : Result) : Prop := ∃ position' e' s₁ s₂, e.HasPart e' ∧ e'.Explained h position' s₁ n s₂
  refine hn.of_root (P := P) ⟨position, e, s, s', .refl, hr⟩ ?_
  rintro force force' n p ⟨position', e', s₁, s₂, hpart, hn⟩ hp
  obtain ⟨position'', child, s₃, s₄, hchild, hp⟩ := hn.exists_part hp
  exact ⟨position'', child, s₃, s₄, hpart.tail hchild, hp⟩

end Expr

namespace Expectation

-- Expectations put together of ones whose results have no operands and no items, such as those that a caller
-- brings, nested as one likes.
inductive Composed : Expectation σ → Prop where
  | leaf {x : Expectation σ}
    (hx : ∀ subject s r s', (x subject).run s = (.ok r, s') → r.IsLeaf) : Composed x
  | join {l r : Expectation σ} (op : LogicalOp) (hl : Composed l) (hr : Composed r) :
    Composed (.join op l r)
  | not {e : Expectation σ} (he : Composed e) : Composed e.not
  | meets {ι : Type} (shown : ι → String) {e : ι → Expectation σ} {x : ι} (he : Composed (e x)) :
    Composed ((Check.satisfying e).result shown x)
  | quantified {ι : Type} {shown : ι → String} (q : Quantifier) {items : List ι} {c : Check σ ι}
    (hc : ∀ x, Composed (c.result shown x)) : Composed (.quantified shown q items c)

-- The other expectation is an operand of this one, or what it expects of an item.
inductive Asks : Expectation σ → Expectation σ → Prop where
  | left (op : LogicalOp) (l r : Expectation σ) : Asks (.join op l r) l
  | right (op : LogicalOp) (l r : Expectation σ) : Asks (.join op l r) r
  | operand (e : Expectation σ) : Asks e.not e
  | item {ι : Type} (shown : ι → String) (q : Quantifier) {items : List ι} (c : Check σ ι) {x : ι}
    (hx : x ∈ items) : Asks (.quantified shown q items c) (c.result shown x)
  | meets {ι : Type} (shown : ι → String) (e : ι → Expectation σ) (x : ι) :
    Asks ((Check.satisfying e).result shown x) (e x)

-- The other expectation is this one or in it, at any depth.
def HasPart : Expectation σ → Expectation σ → Prop := Relation.ReflTransGen Asks

-- A node is what an expectation gives in some run. Its operands and items are the results of what was
-- evaluated in that run, one after the other.
inductive Gives : Expectation σ → Result → Prop where
  | leaf {x : Expectation σ} {subject : String} {s s' : σ} {n : Result}
    (hrun : (x subject).run s = (.ok n, s')) (hn : n.IsLeaf) : Gives x n
  | left {op : LogicalOp} {l r : Expectation σ} {subject : String} {s s₁ : σ} {left : Result}
    (hl : (l subject).run s = (.ok left, s₁)) (hsettled : op.settledBy left.passed = true) :
    Gives (.join op l r) (.logical .expectations subject op left none left.passed true)
  | both {op : LogicalOp} {l r : Expectation σ} {subject : String} {s s₁ s₂ : σ} {left right : Result}
    (hl : (l subject).run s = (.ok left, s₁)) (hopen : ¬op.settledBy left.passed = true)
    (hr : (r subject).run s₁ = (.ok right, s₂)) :
    Gives (.join op l r) (.logical .expectations subject op left (some right) right.passed false)
  | not {e : Expectation σ} {subject : String} {s s' : σ} {operand : Result}
    (he : (e subject).run s = (.ok operand, s')) :
    Gives e.not (.negation ("NOT " ++ operand.text) operand operand.outcome
      (operand.outcome.map fun b => !b))
  | quantified {ι : Type} {shown : ι → String} {q : Quantifier} {items : List ι} {c : Check σ ι}
    {subject : String} {s s' : σ} {results : List Result}
    (hresults : (c.results shown subject 0 items).run s = (.ok results, s')) :
    Gives (.quantified shown q items c) (q.resultOf subject results)

theorem isLeaf_explained (text : String) (holds : Bool) (lines : List Line) :
    (Result.explained text holds lines).IsLeaf := by
  unfold Result.explained
  split <;> trivial

theorem composed_predicate {ι : Type} (shown : ι → String) (text : String) (test : ι → Run σ Bool) (x : ι) :
    Composed ((Check.predicate text test).result shown x) := by
  refine .leaf fun subject s r s' hrun => ?_
  obtain ⟨holds, s₁, -, hr⟩ := Run.bind_eq_ok_iff.1 hrun
  cases hr
  trivial

theorem Built.composed {x : Expectation σ} (hx : x.Built) : x.Composed := by
  induction hx with
  | and _ _ ihl ihr => exact .join .and ihl ihr
  | or _ _ ihl ihr => exact .join .or ihl ihr
  | not _ ih => exact .not ih
  | @quantified ι c shown q items hc ih =>
    refine .quantified q fun x => ?_
    cases c with
    | predicate text test => exact composed_predicate shown text test x
    | satisfying e => exact .meets shown (ih e rfl x)
  | satisfies shown items checks =>
    refine .leaf fun subject s r s' hrun => ?_
    obtain ⟨edges, s₁, -, hr⟩ := Run.bind_eq_ok_iff.1 hrun
    cases hr
    exact isLeaf_explained ..
  | containsText | matchesPattern | equals =>
    refine .leaf fun subject s r s' hrun => ?_
    cases hrun
    exact isLeaf_explained ..

variable {x : Expectation σ} {subject : String}

theorem Composed.exists_gives (hx : x.Composed) (hrun : (x subject).run s = (.ok n, s')) :
    ∃ x', x.HasPart x' ∧ x'.Gives n := by
  induction hx generalizing subject s s' n with
  | leaf hx => exact ⟨_, .refl, .leaf hrun (hx _ _ _ _ hrun)⟩
  | join op =>
    obtain ⟨left, s₁, hl, ⟨hsettled, rfl, rfl⟩ | ⟨right, hopen, hr, rfl⟩⟩ := exists_of_run_join hrun
    · exact ⟨_, .refl, .left hl hsettled⟩
    · exact ⟨_, .refl, .both hl hopen hr⟩
  | not =>
    obtain ⟨operand, s₁, he, hn⟩ := Run.bind_eq_ok_iff.1 hrun
    cases hn
    exact ⟨_, .refl, .not he⟩
  | meets shown _ ih =>
    rcases Check.met_or_brokeOff hrun with hmet | ⟨f, message, -, rfl⟩
    · obtain ⟨x', hpart, hn⟩ := ih hmet
      exact ⟨x', .head (.meets ..) hpart, hn⟩
    · exact ⟨_, .refl, .leaf hrun trivial⟩
  | quantified q =>
    obtain ⟨results, s₁, hresults, hn⟩ := Run.bind_eq_ok_iff.1 hrun
    cases hn
    exact ⟨_, .refl, .quantified hresults⟩

-- The parts of a node are results of runs of parts.
theorem Composed.exists_part (hx : x.Composed) (hrun : (x subject).run s = (.ok n, s'))
    (hp : (force', p) ∈ n.parts force) :
    ∃ x' subject' s₁ s₂, x.HasPart x' ∧ x'.Composed ∧ (x' subject').run s₁ = (.ok p, s₂) := by
  induction hx generalizing subject s s' n with
  | leaf hx =>
    rw [(hx _ _ _ _ hrun).parts_eq_nil] at hp
    cases hp
  | join op hl hr =>
    obtain ⟨left, s₁, hleft, ⟨-, rfl, rfl⟩ | ⟨right, -, hright, rfl⟩⟩ := exists_of_run_join hrun
    · rcases Result.eq_of_mem_parts_logical hp with rfl | hnone
      · exact ⟨_, _, _, _, .single (.left ..), hl, hleft⟩
      · cases hnone
    · rcases Result.eq_of_mem_parts_logical hp with rfl | hsome
      · exact ⟨_, _, _, _, .single (.left ..), hl, hleft⟩
      · cases hsome
        exact ⟨_, _, _, _, .single (.right ..), hr, hright⟩
  | not he =>
    obtain ⟨operand, s₁, hoperand, hn⟩ := Run.bind_eq_ok_iff.1 hrun
    cases hn
    obtain rfl := Result.eq_of_mem_parts_negation hp
    exact ⟨_, _, _, _, .single (.operand _), he, hoperand⟩
  | meets shown _ ih =>
    rcases Check.met_or_brokeOff hrun with hmet | ⟨f, message, -, rfl⟩
    · obtain ⟨x', subject', s₁, s₂, hpart, hx', hp⟩ := ih hmet hp
      exact ⟨x', subject', s₁, s₂, .head (.meets ..) hpart, hx', hp⟩
    · cases hp
  | quantified q hc =>
    obtain ⟨results, s₁, hresults, hn⟩ := Run.bind_eq_ok_iff.1 hrun
    cases hn
    obtain ⟨item, hitem, hpair⟩ := List.mem_map.1 hp
    obtain ⟨-, rfl⟩ := Prod.mk.inj hpair
    obtain ⟨hresult, -⟩ := mem_indexedWhere_iff.1 hitem
    obtain ⟨states, -, -, hlength, hitems⟩ := Check.exists_states hresults
    obtain ⟨hindex, -⟩ := List.getElem?_eq_some_iff.1 hresult
    rw [hlength] at hindex
    have hrun := hitems _ _ _ (List.getElem?_eq_getElem hindex) hresult
    exact ⟨_, _, _, _, .single (.item _ _ _ (List.getElem_mem hindex)), hc _, hrun⟩

theorem Composed.exists_opened (hx : x.Composed) (hrun : (x subject).run s = (.ok r, s'))
    (hn : r.Opened force n) : ∃ x', x.HasPart x' ∧ x'.Gives n := by
  let P (n : Result) : Prop :=
    ∃ x' subject' s₁ s₂, x.HasPart x' ∧ x'.Composed ∧ (x' subject').run s₁ = (.ok n, s₂)
  have hpart : P n := by
    refine hn.of_root (P := P) ⟨x, subject, s, s', .refl, hx, hrun⟩ ?_
    rintro force force' n p ⟨x', subject', s₁, s₂, hpart, hx', hrun⟩ hp
    obtain ⟨x'', subject'', s₃, s₄, hpart', hx'', hrun'⟩ := hx'.exists_part hrun hp
    exact ⟨x'', subject'', s₃, s₄, hpart.trans hpart', hx'', hrun'⟩
  obtain ⟨x', subject', s₁, s₂, hpart, hx', hrun⟩ := hpart
  obtain ⟨x'', hpart', hn⟩ := hx'.exists_gives hrun
  exact ⟨x'', hpart.trans hpart', hn⟩

end Expectation

end Verdict
