import Verdict.Proofs.Expr.Explanation
import Verdict.Proofs.Expr.PreOrder
import Verdict.Proofs.Expr.ShapeCache

namespace Verdict

variable {σ α β : Type} {h : Heap} {limit : Nat}

-- The run can answer this, from some state and with something that is remembered.
def MayGive (m : Recall σ α) (a : α) : Prop :=
  ∃ known s known' s', (m.run known).run s = (.ok (a, known'), s')

theorem exists_mayGive_of_bind {m : Recall σ α} {f : α → Recall σ β} {b : β} (hgive : MayGive (m >>= f) b) :
    ∃ a, MayGive m a ∧ MayGive (f a) b := by
  obtain ⟨known, s, known₂, s₂, hrun⟩ := hgive
  rw [StateT.run_bind] at hrun
  obtain ⟨⟨a, known₁⟩, s₁, hm, hf⟩ := Run.bind_eq_ok_iff.1 hrun
  exact ⟨a, ⟨known, s, known₁, s₁, hm⟩, ⟨known₁, s₁, known₂, s₂, hf⟩⟩

theorem eq_of_mayGive_pure {a b : α} (hgive : MayGive (pure a : Recall σ α) b) : b = a := by
  obtain ⟨known, s, known', s', hrun⟩ := hgive
  cases hrun
  rfl

theorem exists_of_mayGive_return {m : Recall σ α} {f : α → β} {b : β}
    (hgive : MayGive (do return f (← m)) b) : ∃ a, MayGive m a ∧ b = f a := by
  obtain ⟨a, hm, hb⟩ := exists_mayGive_of_bind hgive
  exact ⟨a, hm, eq_of_mayGive_pure hb⟩

theorem eq_ok_of_mayGive_ofAnswer {answer : Callback α} {a : α}
    (hgive : MayGive (liftM (Run.ofAnswer answer : Run σ α) : Recall σ α) a) : answer = .ok a := by
  obtain ⟨known, s, known', s', hrun⟩ := hgive
  cases answer with
  | ok b =>
    cases hrun
    rfl
  | error f => cases hrun

namespace Expr

-- Every node of the result that explains a part of the expression has the text of this part.
inductive Labels (h : Heap) (limit : Nat) : Expr σ → Result → Prop where
  | value {e : Expr σ} {v : Value} {declared : Option DeclaredType} (hleaf : e.children = []) :
    Labels h limit e (.value (e.text h limit) v declared)
  | comparison {op : CompareOp} {l r : Expr σ} {report : Comparison} {holds : Bool} :
    Labels h limit (.compare op l r) (.comparison ((compare op l r).text h limit) op report holds)
  | logical {op : LogicalOp} {l r : Expr σ} {left : Result} {right : Option Result} {holds shortCircuited : Bool}
    (hl : Labels h limit l left) (hr : ∀ result ∈ right, Labels h limit r result) :
    Labels h limit (.logical op l r)
      (.logical .expressions ((logical op l r).text h limit) op left right holds shortCircuited)
  | not {e : Expr σ} {operand : Result} {operandValue value : Option Bool} (he : Labels h limit e operand) :
    Labels h limit (.not e) (.negation ((not e).text h limit) operand operandValue value)
  | call {e : Expr σ} {holds : Option Bool} {lines : List Line} (hcall : e.IsCall) :
    Labels h limit e (.detailed (e.text h limit) holds lines)

theorem labels_call {e : Expr σ} {r : Result} (hcall : e.IsCall) (htells : r.TellsFailure (e.text h limit)) :
    Labels h limit e r := by
  obtain ⟨passed, lines, rfl, -⟩ := htells
  exact .call hcall

theorem labels_comparison {config : Config} {op : CompareOp} {l r : Expr σ} (left right : Operand) :
    Labels h limit (.compare op l r)
      (comparisonResult h config ((compare op l r).text h limit) op left right) := by
  unfold comparisonResult
  split <;> exact .comparison

-- By induction on the part: the operands that are evaluated are looked up where they stand, whatever else was left
-- out or remembered.
theorem labels_of_mayGive {config : Config} {root e : Expr σ} {index : Nat} {position : Position} {r : Result}
    (hstands : Stands (root.nodes []) index position e)
    (hgive : MayGive (e.resultAt h config (.of h limit root) position index) r) : Labels h limit e r := by
  have htext : (Shape.of h limit root).text index = e.text h limit := Shape.text_of hstands.getElem?
  induction e generalizing index position r with
  | member path l =>
    obtain ⟨v, -, rfl⟩ := exists_of_mayGive_return hgive
    rw [htext]
    exact .value rfl
  | leaf text l =>
    obtain ⟨v, -, rfl⟩ := exists_of_mayGive_return hgive
    rw [htext]
    exact .value rfl
  | literal v d =>
    obtain ⟨v, -, rfl⟩ := exists_of_mayGive_return hgive
    rw [htext]
    exact .value rfl
  | compare op l r ihl ihr =>
    obtain ⟨left, -, hrest⟩ := exists_mayGive_of_bind hgive
    obtain ⟨right, -, rfl⟩ := exists_of_mayGive_return hrest
    rw [htext]
    exact labels_comparison _ _
  | logical op l r ihl ihr =>
    have hl := Shape.stands_childIndex (i := 0) h limit hstands rfl
    have hr := Shape.stands_childIndex (i := 1) h limit hstands rfl
    obtain ⟨left, hleft, hrest⟩ := exists_mayGive_of_bind hgive
    have hlabels := ihl hl hleft (Shape.text_of hl.getElem?)
    by_cases hsettled : op.settledBy left.passed = true
    · rw [if_pos hsettled] at hrest
      rw [eq_of_mayGive_pure hrest, htext]
      exact .logical hlabels nofun
    · rw [if_neg hsettled] at hrest
      obtain ⟨right, hright, rfl⟩ := exists_of_mayGive_return hrest
      rw [htext]
      refine .logical hlabels fun result hresult => ?_
      cases hresult
      exact ihr hr hright (Shape.text_of hr.getElem?)
  | not e ih =>
    have he := Shape.stands_childIndex (i := 0) h limit hstands rfl
    obtain ⟨operand, hoperand, rfl⟩ := exists_of_mayGive_return hgive
    rw [htext]
    exact .not (ih he hoperand (Shape.text_of he.getElem?))
  | contains e item ihe ihi =>
    obtain ⟨receiver, -, hrest⟩ := exists_mayGive_of_bind hgive
    obtain ⟨item, -, rfl⟩ := exists_of_mayGive_return hrest
    rw [htext]
    exact labels_call trivial (Call.tellsFailure_contains ..)
  | any e p ih =>
    obtain ⟨receiver, -, rfl⟩ := exists_of_mayGive_return hgive
    rw [htext]
    exact labels_call trivial (Call.tellsFailure_any ..)
  | all e p ih =>
    obtain ⟨receiver, -, rfl⟩ := exists_of_mayGive_return hgive
    rw [htext]
    exact labels_call trivial (Call.tellsFailure_all ..)
  | sequenceEqual e other c ihe iho =>
    obtain ⟨receiver, -, hrest⟩ := exists_mayGive_of_bind hgive
    obtain ⟨other, -, hanswer⟩ := exists_mayGive_of_bind hrest
    rw [htext] at hanswer
    exact labels_call trivial (Call.tellsFailure_of_sequenceEqual (eq_ok_of_mayGive_ofAnswer hanswer))

-- The shape may come out of a cache that was filled by any expressions before, if none of them is mistaken for this one.
-- Every part of the expression has one place in pre-order, where the shape has its text and the indices of its
-- operands. Wherever a part is evaluated, all nodes of the result have the texts of the parts that they explain.
theorem every_node_has_its_text (digest : List Mark → UInt64) (past : List (Heap × Expr σ)) (h : Heap)
    (config : Config) (root : Expr σ)
    (hdistinct : ShapeCache.Distinguishes digest config.previewItems past h root) :
    let cache := ShapeCache.after digest config.previewItems past
    let shape := (cache.compile h config.previewItems root).1
    let all := root.nodes []
    (∀ position e, root.at? position = some e → ∃! index : Nat, all[index]? = some (position, e)) ∧
      (∀ (index : Nat) position e, all[index]? = some (position, e) →
        root.at? position = some e ∧ Locates shape h config.previewItems all index position e ∧
          ∀ r, MayGive (e.resultAt h config shape position index) r → Labels h config.previewItems e r) ∧
      ∀ s r s', (root.evaluate h config cache).run s = (.ok r, s') →
        Labels h config.previewItems root r := by
  intro cache shape all
  have hshape : shape = Shape.of h config.previewItems root := ShapeCache.compile_after hdistinct
  refine ⟨fun position e hat => ?_, fun index position e hnode => ?_, fun s r s' hrun => ?_⟩
  · obtain ⟨index, hstands⟩ := exists_stands hat
    exact ⟨index, hstands.getElem?, fun index' hindex' => index_unique hindex' hstands.getElem?⟩
  · have hstands : Stands (root.nodes []) index position e := contiguous_nodes root [] index position e hnode
    rw [hshape]
    exact ⟨at?_of_mem_nodes (rfl : root.at? [] = some root) (List.mem_of_getElem? hnode), hstands.locates,
      fun r hgive => labels_of_mayGive hstands hgive⟩
  · have hroot : Stands (root.nodes []) 0 [] root := List.prefix_rfl
    obtain ⟨⟨r', known⟩, s₁, hresult, hr⟩ := Run.bind_eq_ok_iff.1 hrun
    cases hr
    change ((root.resultAt h config shape [] 0).run []).run s = _ at hresult
    rw [hshape] at hresult
    exact labels_of_mayGive hroot ⟨[], s, known, s', hresult⟩

-- A call with one operand, beside the negation of a leaf.
def rowsAndDone : Expr Unit :=
  .logical .and (.any (.leaf "rows" ⟨.ready (.ok (.seq [.null])), none⟩) none)
    (.not (.leaf "done" ⟨.ready (.ok (.bool true)), none⟩))

-- The hasher only counts what it is fed, and the expression was compiled before, after a leaf with the same text.
theorem rows_and_done_has_its_texts :
    let digest : List Mark → UInt64 := fun marks => .ofNat marks.length
    let past : List (Heap × Expr Unit) :=
      [(.empty, .leaf "rows.any() && !done" ⟨.ready (.ok .null), none⟩), (.empty, rowsAndDone)]
    let cache := ShapeCache.after digest 10 past
    let shape := (cache.compile .empty 10 rowsAndDone).1
    ShapeCache.Distinguishes digest 10 past .empty rowsAndDone ∧
      (∃! index : Nat, (rowsAndDone.nodes [])[index]? =
        some ([0, 1], .leaf "done" ⟨.ready (.ok (.bool true)), none⟩)) ∧
      (∃ c, (shape.childIndices 1 2)[0]? = some c ∧
        (rowsAndDone.nodes [])[c]? = some ([0, 0], .leaf "rows" ⟨.ready (.ok (.seq [.null])), none⟩)) ∧
      ∃ r, (rowsAndDone.evaluate .empty .standard cache).run () = (.ok r, ()) ∧
        r.text = "rows.any() && !done" ∧ Labels .empty 10 rowsAndDone r := by
  intro digest past cache shape
  have hdistinct : ShapeCache.Distinguishes digest 10 past .empty rowsAndDone := by
    intro earlier hearlier hkey _
    rcases List.mem_pair.1 hearlier with rfl | rfl
    · exact absurd hkey (by decide)
    · rfl
  obtain ⟨hunique, hlocates, hlabels⟩ :=
    every_node_has_its_text digest past .empty .standard rowsAndDone hdistinct
  have hrun : (rowsAndDone.evaluate .empty .standard cache).run () = (.ok _, ()) := rfl
  refine ⟨hdistinct, hunique _ _ rfl, (hlocates 1 [0] _ rfl).2.1.operands 2 0 _ (by decide) rfl, ?_⟩
  exact ⟨_, hrun, rfl, hlabels _ _ _ hrun⟩

end Expr

end Verdict
