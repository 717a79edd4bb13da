import Verdict.Proofs.Expr.Fidelity

namespace Verdict

variable {σ : Type} {h : Heap}

-- The same test, with the answer no where it breaks off.
def Predicate.contained (p : Predicate) : Predicate := ⟨p.text, fun v => .ok (p.test v).holds⟩

-- The same equality, with the answer no where it breaks off.
def Comparer.contained (c : Comparer) : Comparer := ⟨c.text, fun x y => .ok (c.equality x y).holds⟩

theorem someAccepted_contained_iff {p : Option Predicate} {v : Value} :
    SomeAccepted (p.map Predicate.contained) v ↔ SomeAccepted p v := by
  cases p with
  | none => exact Iff.rfl
  | some p => simp [SomeAccepted, Predicate.contained, Callback.holds_iff]

theorem allAccepted_contained_iff {p : Predicate} {v : Value} :
    AllAccepted p.contained v ↔ AllAccepted p v := by
  simp [AllAccepted, Predicate.contained, Callback.holds_iff]

theorem pairwiseEqual_contained_iff {c : Option Comparer} {a b : Value} :
    PairwiseEqual h (c.map Comparer.contained) a b ↔ PairwiseEqual h c a b := by
  cases c with
  | none => exact Iff.rfl
  | some c => simp [PairwiseEqual, itemEquality, Comparer.contained, Callback.holds_iff]

namespace Expr

-- The same tree, with tests and equalities that always answer.
def contained : Expr σ → Expr σ
  | .compare op l r => .compare op l.contained r.contained
  | .logical op l r => .logical op l.contained r.contained
  | .not e => .not e.contained
  | .member path l => .member path l
  | .leaf text l => .leaf text l
  | .literal v d => .literal v d
  | .contains e item => .contains e.contained item.contained
  | .any e p => .any e.contained (p.map (·.contained))
  | .all e p => .all e.contained p.contained
  | .sequenceEqual e other c => .sequenceEqual e.contained other.contained (c.map (·.contained))

theorem children_contained (e : Expr σ) : e.contained.children = e.children.map contained := by
  cases e <;> rfl

end Expr

-- The work of the leaf comes to a value in every state.
def Leaf.Returns (l : Leaf σ) : Prop := ∀ s, ∃ v s', l.work.finish.run s = (.ok v, s')

section

variable {position : Position} {e : Expr σ} {s s' : σ} {ran : List Position} {answer : Callback Value}

theorem Evaluates.contained (he : Evaluates h position e s ran answer s') :
    Evaluates h position e.contained s ran answer s' := by
  induction he with
  | member => exact .member
  | leaf => exact .leaf
  | literal => exact .literal
  | compare _ _ ihl ihr => exact .compare ihl ihr
  | stops _ hstop ihl => exact .stops ihl hstop
  | goesOn _ hgo _ ihl ihr => exact .goesOn ihl hgo ihr
  | not _ ih => exact .not ih
  | contains _ _ hfound ihe ihi => exact .contains ihe ihi hfound
  | any _ haccepted ih => exact .any ih (haccepted.trans someAccepted_contained_iff.symm)
  | all _ haccepted ih => exact .all ih (haccepted.trans allAccepted_contained_iff.symm)
  | sequenceEqual _ _ hsame ihe iho =>
    exact .sequenceEqual ihe iho (hsame.trans pairwiseEqual_contained_iff.symm)
  | firstBreaks hchildren _ ih =>
    refine .firstBreaks ?_ ih
    rw [Expr.children_contained, List.head?_map, hchildren]
    rfl
  | @secondBreaks position e first second s s₁ s₂ ran ran₁ a f hchildren _ hasks _ ihf ihs =>
    refine .secondBreaks (by rw [Expr.children_contained, hchildren]; rfl) ihf ?_ ihs
    cases e <;> exact hasks

-- An evaluation ends early only where a leaf does.
theorem Evaluates.returns (he : Evaluates h position e s ran answer s')
    (hleaves : ∀ l ∈ e.leaves, l.Returns) : ∃ v, answer = .ok v := by
  induction he with
  | @member position path l s =>
    obtain ⟨v, s', hv⟩ := hleaves l List.mem_cons_self s
    exact ⟨v, by rw [hv]⟩
  | @leaf position text l s =>
    obtain ⟨v, s', hv⟩ := hleaves l List.mem_cons_self s
    exact ⟨v, by rw [hv]⟩
  | literal | compare | stops | goesOn | not | contains | any | all | sequenceEqual => exact ⟨_, rfl⟩
  | firstBreaks hchildren _ ih =>
    have hchild := List.mem_of_mem_head? hchildren
    obtain ⟨v, hv⟩ := ih fun l hl => hleaves l (Expr.leaves_subset hchild hl)
    cases hv
  | @secondBreaks position e first second s s₁ s₂ ran ran₁ a f hchildren _ _ _ _ ihs =>
    have hchild : second ∈ e.children := by simp [hchildren]
    obtain ⟨v, hv⟩ := ihs fun l hl => hleaves l (Expr.leaves_subset hchild hl)
    cases hv

theorem Evaluates.exists_result {v : Value} (he : Evaluates h [] e s ran (.ok v) s') {config : Config}
    (hholds : config.HoldsContext) (cache : ShapeCache) :
    ∃ r, (e.evaluate h config cache).run s = (.ok r, s') ∧ r.outcome = v.bool? := by
  rw [Expr.evaluate_eq_directResult]
  exact (he.agrees hholds _ 0).of_ok

-- Nothing else than the context can break it off.
theorem Evaluates.fault_eq {v : Value} (he : Evaluates h [] e s ran (.ok v) s') {config : Config}
    {cache : ShapeCache} {f : Fault} {s'' : σ}
    (hbroke : (e.evaluate h config cache).run s = (.error f, s'')) :
    ¬config.HoldsContext ∧ f = capacityOverflow := by
  obtain ⟨hanswer, -⟩ | ⟨hlarge, _, _, -, hfault, -⟩ := he.evaluate_or_breaks_off config cache
  · rw [hbroke] at hanswer
    cases hanswer
  · rw [hbroke] at hfault
    cases hfault
    exact ⟨hlarge, rfl⟩

end

-- With leaves that return, the reference comes to a value. So does an evaluation whose context can be held, and it is
-- as if all tests and equalities had answered.
theorem Expr.exists_contained_result {e : Expr σ} (s : σ) (hleaves : ∀ l ∈ e.leaves, l.Returns) :
    ∃ ran v s', Evaluates h [] e s ran (.ok v) s' ∧ ∀ (config : Config) (cache : ShapeCache),
      (config.HoldsContext → ∃ r r', (e.evaluate h config cache).run s = (.ok r, s') ∧
        r.outcome = v.bool? ∧ (e.contained.evaluate h config cache).run s = (.ok r', s') ∧
        r'.outcome = r.outcome) ∧
      ∀ f s'', (e.evaluate h config cache).run s = (.error f, s'') →
        ¬config.HoldsContext ∧ f = capacityOverflow := by
  obtain ⟨ran, answer, s', he⟩ := settles h [] e s
  obtain ⟨v, rfl⟩ := he.returns hleaves
  refine ⟨ran, v, s', he, fun config cache => ⟨fun hholds => ?_, fun f s'' => he.fault_eq⟩⟩
  obtain ⟨r, hr, hout⟩ := he.exists_result hholds cache
  obtain ⟨r', hr', hout'⟩ := he.contained.exists_result hholds cache
  exact ⟨r, r', hr, hout, hr', hout'.trans hout.symm⟩

end Verdict
