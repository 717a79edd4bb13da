import Verdict.Expr.Evaluation
import Mathlib.Data.Set.Basic

namespace Verdict

variable {σ α β : Type}

def subtree (position : Position) : Set Position := {p | position <:+ p}

theorem mem_subtree_self (position : Position) : position ∈ subtree position :=
  List.suffix_refl position

theorem subtree_cons_subset (i : Nat) (position : Position) :
    subtree (i :: position) ⊆ subtree position :=
  fun _ hp => (List.suffix_cons i position).trans hp

-- Two suffixes of one position that are equally long are the same one.
theorem not_mem_subtree_cons {i j : Nat} (hij : i ≠ j) (position : Position) :
    ∀ p ∈ subtree (i :: position), p ∉ subtree (j :: position) := by
  intro p hi hj
  have h : i :: position = j :: position :=
    (List.suffix_of_suffix_length_le hi hj (Nat.le_refl _)).eq_of_length rfl
  exact hij (List.cons.inj h).1

-- `m` gives what `p` gives when it knows nothing about a region, and learns nothing outside of it.
def Recalls (region : Set Position) (m : Recall σ α) (p : Run σ α) : Prop :=
  ∀ (known : Known) (s : σ), (∀ q ∈ region, known.lookup q = none) →
    ∃ known' : Known, (∀ q ∉ region, known'.lookup q = known.lookup q) ∧
      (m.run known).run s = ((p.run s).1.map fun a => (a, known'), (p.run s).2)

theorem recalls_pure (region : Set Position) (a : α) : Recalls (σ := σ) region (pure a) (pure a) :=
  fun known _ _ => ⟨known, fun _ _ => rfl, rfl⟩

theorem recalls_lift (region : Set Position) (p : Run σ α) : Recalls region (liftM p) p := by
  intro known s _
  refine ⟨known, fun _ _ => rfl, ?_⟩
  rw [StateT.run_monadLift]
  exact Run.return_at p (fun a => (a, known)) s

-- What the first run learns lies outside the second one's region, which stays unknown.
theorem recalls_bind {first second region : Set Position} {m : Recall σ α} {p : Run σ α}
    {f : α → Recall σ β} {g : α → Run σ β} (hm : Recalls first m p)
    (hf : ∀ a, Recalls second (f a) (g a)) (hd : ∀ q ∈ first, q ∉ second)
    (hfirst : first ⊆ region) (hsecond : second ⊆ region) :
    Recalls region (m >>= f) (p >>= g) := by
  intro known s hnew
  obtain ⟨known₁, hsame, hrun⟩ := hm known s fun q hq => hnew q (hfirst hq)
  rw [StateT.run_bind, Run.bind_at, hrun, Run.bind_at]
  rcases p.run s with ⟨answer, s₁⟩
  cases answer with
  | error fault => exact ⟨known₁, fun q hq => hsame q fun h => hq (hfirst h), rfl⟩
  | ok a =>
    have hnew₁ : ∀ q ∈ second, known₁.lookup q = none := by
      intro q hq
      rw [hsame q fun h => hd q h hq]
      exact hnew q (hsecond hq)
    obtain ⟨known₂, hsame₂, hrun₂⟩ := hf a known₁ s₁ hnew₁
    refine ⟨known₂, fun q hq => ?_, hrun₂⟩
    rw [hsame₂ q fun h => hq (hsecond h), hsame q fun h => hq (hfirst h)]

-- What comes next asks for no node.
theorem recalls_then {part region : Set Position} {m : Recall σ α} {p : Run σ α}
    {f : α → Recall σ β} {g : α → Run σ β} (hm : Recalls part m p) (hpart : part ⊆ region)
    (hf : ∀ a, Recalls ∅ (f a) (g a)) : Recalls region (m >>= f) (p >>= g) :=
  recalls_bind hm hf (fun q _ => Set.notMem_empty q) hpart (Set.empty_subset region)

theorem recalls_return {part region : Set Position} {m : Recall σ α} {p : Run σ α}
    (hm : Recalls part m p) (hpart : part ⊆ region) (f : α → β) :
    Recalls region (do return f (← m)) (do return f (← p)) :=
  recalls_then hm hpart fun a => recalls_pure ∅ (f a)

-- The operands of a node lie apart, so that the first leaves the second unknown.
theorem recalls_operands {position : Position} {m : Recall σ α} {p : Run σ α}
    {f : α → Recall σ β} {g : α → Run σ β} (hm : Recalls (subtree (0 :: position)) m p)
    (hf : ∀ a, Recalls (subtree (1 :: position)) (f a) (g a)) :
    Recalls (subtree position) (m >>= f) (p >>= g) :=
  recalls_bind hm hf (not_mem_subtree_cons Nat.zero_ne_one position)
    (subtree_cons_subset 0 position) (subtree_cons_subset 1 position)

-- A node that is asked for the first time is found out, and then known.
theorem recalls_remember {position : Position} {m : Recall σ Value} {p : Run σ Value}
    (hm : Recalls (subtree position) m p) :
    Recalls (subtree position) (remember position m) p := by
  intro known s hnew
  obtain ⟨known₁, hsame, hrun⟩ := hm known s hnew
  simp only [remember, StateT.run_bind, StateT.run_get, pure_bind, StateT.run_modify,
    StateT.run_pure, hnew position (mem_subtree_self position)]
  rw [Run.bind_at, hrun]
  rcases p.run s with ⟨answer, s₁⟩
  cases answer with
  | error fault => exact ⟨known₁, hsame, rfl⟩
  | ok v =>
    refine ⟨(position, v) :: known₁, fun q hq => ?_, rfl⟩
    have hne : q ≠ position := fun h => hq (h ▸ mem_subtree_self position)
    rw [List.lookup_cons, beq_false_of_ne hne]
    exact hsame q hq

namespace Expr

-- What a node contributes to the one above it, found out without any memory.
def directContribution (e : Expr σ) (result : Run σ Result) : Run σ Value :=
  match e with
  | .member _ l | .leaf _ l => l.work.finish
  | .literal v _ => return v
  | _ => return .ofOutcome (← result).outcome

-- The result of the node at an index of the shape, found out without any memory.
def directResult (h : Heap) (config : Config) (shape : Shape) (index : Nat) :
    Expr σ → Run σ Result
  | .compare op l r => do
    let left ← l.directContribution (l.directResult h config shape (shape.childIndex index 0))
    let right ← r.directContribution (r.directResult h config shape (shape.childIndex index 1))
    return comparisonResult h config (shape.text index) op ⟨left, l.declared⟩ ⟨right, r.declared⟩
  | .logical op l r => do
    let left ← l.directResult h config shape (shape.childIndex index 0)
    if op.settledBy left.passed then
      return .logical .expressions (shape.text index) op left none left.passed true
    let right ← r.directResult h config shape (shape.childIndex index 1)
    return .logical .expressions (shape.text index) op left (some right) right.passed false
  | .not e => do
    let operand ← e.directResult h config shape (index + 1)
    return .negation (shape.text index) operand operand.outcome
      (operand.outcome.map fun b => !b)
  | .member _ l | .leaf _ l => return .value (shape.text index) (← l.work.finish) l.declared
  | .literal v d => return .value (shape.text index) v d
  | .contains e item => do
    let receiver ← e.directContribution (e.directResult h config shape (shape.childIndex index 0))
    let item ← item.directContribution (item.directResult h config shape (shape.childIndex index 1))
    return Call.contains h config (shape.text index) receiver item
  | .any e p => do
    let receiver ← e.directContribution (e.directResult h config shape (shape.childIndex index 0))
    return Call.any h config (shape.text index) receiver p
  | .all e p => do
    let receiver ← e.directContribution (e.directResult h config shape (shape.childIndex index 0))
    return Call.all h config (shape.text index) receiver p
  | .sequenceEqual e other c => do
    let receiver ← e.directContribution (e.directResult h config shape (shape.childIndex index 0))
    let other ← other.directContribution (other.directResult h config shape (shape.childIndex index 1))
    Run.ofAnswer (Call.sequenceEqual h config (shape.text index) receiver other c)

theorem recalls_contribution {position : Position} {e : Expr σ} {m : Recall σ Result}
    {p : Run σ Result} (hm : Recalls (subtree position) m p) :
    Recalls (subtree position) (e.contribution position m) (e.directContribution p) := by
  apply recalls_remember
  cases e with
  | member path l => exact recalls_lift _ l.work.finish
  | leaf text l => exact recalls_lift _ l.work.finish
  | literal v d => exact recalls_pure _ v
  | compare | logical | not | contains | any | all | sequenceEqual =>
    exact recalls_return hm le_rfl fun r => Value.ofOutcome r.outcome

-- By induction on the tree: each operand only asks within its own part of the tree.
theorem recalls_result (h : Heap) (config : Config) (shape : Shape) (e : Expr σ)
    (position : Position) (index : Nat) :
    Recalls (subtree position) (e.resultAt h config shape position index)
      (e.directResult h config shape index) := by
  induction e generalizing position index with
  | compare op l r ihl ihr =>
    apply recalls_operands (recalls_contribution (ihl _ _))
    intro left
    exact recalls_return (recalls_contribution (ihr _ _)) le_rfl _
  | logical op l r ihl ihr =>
    apply recalls_operands (ihl _ _)
    intro left
    by_cases hsettled : op.settledBy left.passed = true
    · simp only [hsettled, if_true]
      exact recalls_pure _ _
    · simp only [hsettled]
      exact recalls_return (ihr _ _) le_rfl _
  | not e ih => exact recalls_return (ih _ _) (subtree_cons_subset 0 position) _
  | member path l =>
    exact recalls_return (recalls_remember (recalls_lift _ l.work.finish)) le_rfl _
  | leaf text l =>
    exact recalls_return (recalls_remember (recalls_lift _ l.work.finish)) le_rfl _
  | literal v d =>
    exact recalls_return (recalls_remember (recalls_pure _ v)) le_rfl
      fun v => Result.value (shape.text index) v d
  | contains e item ihe ihi =>
    apply recalls_operands (recalls_contribution (ihe _ _))
    intro receiver
    exact recalls_return (recalls_contribution (ihi _ _)) le_rfl _
  | any e p ih =>
    exact recalls_return (recalls_contribution (ih _ _)) (subtree_cons_subset 0 position) _
  | all e p ih =>
    exact recalls_return (recalls_contribution (ih _ _)) (subtree_cons_subset 0 position) _
  | sequenceEqual e other c ihe iho =>
    apply recalls_operands (recalls_contribution (ihe _ _))
    intro receiver
    exact recalls_then (recalls_contribution (iho _ _)) le_rfl fun other => recalls_lift ∅ _

theorem evaluate_eq_directResult (h : Heap) (config : Config) (cache : ShapeCache) (e : Expr σ) :
    e.evaluate h config cache = e.directResult h config (cache.compile h config.previewItems e).1 0 := by
  let shape := (cache.compile h config.previewItems e).1
  funext s
  obtain ⟨known, _, hrun⟩ := recalls_result h config shape e [] 0 [] s fun _ _ => rfl
  change (Prod.fst <$> (e.resultAt h config shape [] 0).run []).run s =
    (e.directResult h config shape 0).run s
  rw [map_eq_pure_bind, Run.return_at, hrun]
  rcases (e.directResult h config shape 0).run s with ⟨answer, s'⟩
  cases answer with
  | ok r => rfl
  | error fault => rfl

end Expr

end Verdict
