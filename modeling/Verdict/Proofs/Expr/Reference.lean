import Verdict.Proofs.Expr.Recall
import Verdict.Proofs.Expr.Calls
import Mathlib.Data.List.Nodup

namespace Verdict

variable {σ : Type}

-- Whether the right operand of a logical operator is asked for once the left one is known.
def LogicalOp.GoesOn (op : LogicalOp) (left : Value) : Prop :=
  match op with
  | .and => left = .bool true
  | .or => left ≠ .bool true

def Value.passes (v : Value) : Bool := v.bool? == some true

def Value.negated : Value → Value
  | .bool b => .bool (!b)
  | _ => .null

-- Whether the second operand is asked for once the first one is known.
def Expr.AsksSecond (e : Expr σ) (first : Value) : Prop :=
  match e with
  | .logical op _ _ => op.GoesOn first
  | _ => True

-- From state `s` the tree at `position` comes to `answer` in state `s'`, having run the leaves at the
-- positions `ran`, in that order. A leaf that breaks off ends all of it. The rules know of no results, texts,
-- indices or memory.
inductive Evaluates (h : Heap) :
    Position → Expr σ → σ → List Position → Callback Value → σ → Prop where
  | member {position : Position} {path : List String} {l : Leaf σ} {s : σ} :
    Evaluates h position (.member path l) s [position] (l.work.finish.run s).1
      (l.work.finish.run s).2
  | leaf {position : Position} {text : String} {l : Leaf σ} {s : σ} :
    Evaluates h position (.leaf text l) s [position] (l.work.finish.run s).1
      (l.work.finish.run s).2
  | literal {position : Position} {v : Value} {d : Option DeclaredType} {s : σ} :
    Evaluates h position (.literal v d) s [] (.ok v) s
  | compare {position : Position} {op : CompareOp} {l r : Expr σ} {s s₁ s₂ : σ}
    {ran ran₁ : List Position} {a b : Value}
    (hl : Evaluates h (0 :: position) l s ran (.ok a) s₁)
    (hr : Evaluates h (1 :: position) r s₁ ran₁ (.ok b) s₂) :
    Evaluates h position (.compare op l r) s (ran ++ ran₁) (.ok (.bool (op.apply h a b))) s₂
  | stops {position : Position} {op : LogicalOp} {l r : Expr σ} {s s₁ : σ} {ran : List Position}
    {a : Value} (hl : Evaluates h (0 :: position) l s ran (.ok a) s₁) (hstop : ¬op.GoesOn a) :
    Evaluates h position (.logical op l r) s ran (.ok (.bool a.passes)) s₁
  | goesOn {position : Position} {op : LogicalOp} {l r : Expr σ} {s s₁ s₂ : σ}
    {ran ran₁ : List Position} {a b : Value}
    (hl : Evaluates h (0 :: position) l s ran (.ok a) s₁) (hgo : op.GoesOn a)
    (hr : Evaluates h (1 :: position) r s₁ ran₁ (.ok b) s₂) :
    Evaluates h position (.logical op l r) s (ran ++ ran₁) (.ok (.bool b.passes)) s₂
  | not {position : Position} {e : Expr σ} {s s₁ : σ} {ran : List Position} {a : Value}
    (he : Evaluates h (0 :: position) e s ran (.ok a) s₁) :
    Evaluates h position (.not e) s ran (.ok a.negated) s₁
  | contains {position : Position} {e item : Expr σ} {s s₁ s₂ : σ} {ran ran₁ : List Position}
    {a b : Value} {found : Bool} (he : Evaluates h (0 :: position) e s ran (.ok a) s₁)
    (hi : Evaluates h (1 :: position) item s₁ ran₁ (.ok b) s₂)
    (hfound : found = true ↔ Contained h a b) :
    Evaluates h position (.contains e item) s (ran ++ ran₁) (.ok (.bool found)) s₂
  | any {position : Position} {e : Expr σ} {p : Option Predicate} {s s₁ : σ} {ran : List Position}
    {a : Value} {accepted : Bool} (he : Evaluates h (0 :: position) e s ran (.ok a) s₁)
    (haccepted : accepted = true ↔ SomeAccepted p a) :
    Evaluates h position (.any e p) s ran (.ok (.bool accepted)) s₁
  | all {position : Position} {e : Expr σ} {p : Predicate} {s s₁ : σ} {ran : List Position}
    {a : Value} {accepted : Bool} (he : Evaluates h (0 :: position) e s ran (.ok a) s₁)
    (haccepted : accepted = true ↔ AllAccepted p a) :
    Evaluates h position (.all e p) s ran (.ok (.bool accepted)) s₁
  | sequenceEqual {position : Position} {e other : Expr σ} {c : Option Comparer} {s s₁ s₂ : σ}
    {ran ran₁ : List Position} {a b : Value} {same : Bool}
    (he : Evaluates h (0 :: position) e s ran (.ok a) s₁)
    (ho : Evaluates h (1 :: position) other s₁ ran₁ (.ok b) s₂)
    (hsame : same = true ↔ PairwiseEqual h c a b) :
    Evaluates h position (.sequenceEqual e other c) s (ran ++ ran₁) (.ok (.bool same)) s₂
  | firstBreaks {position : Position} {e first : Expr σ} {s s₁ : σ} {ran : List Position}
    {f : Fault} (hchildren : e.children.head? = some first)
    (hfirst : Evaluates h (0 :: position) first s ran (.error f) s₁) :
    Evaluates h position e s ran (.error f) s₁
  | secondBreaks {position : Position} {e first second : Expr σ} {s s₁ s₂ : σ}
    {ran ran₁ : List Position} {a : Value} {f : Fault} (hchildren : e.children = [first, second])
    (hfirst : Evaluates h (0 :: position) first s ran (.ok a) s₁) (hasks : e.AsksSecond a)
    (hsecond : Evaluates h (1 :: position) second s₁ ran₁ (.error f) s₂) :
    Evaluates h position e s (ran ++ ran₁) (.error f) s₂

namespace Expr

-- The positions of the leaves that bring work, from left to right.
def leafPositions (position : Position) : Expr σ → List Position
  | .member .. | .leaf .. => [position]
  | .literal .. => []
  | .compare _ l r | .logical _ l r =>
    l.leafPositions (0 :: position) ++ r.leafPositions (1 :: position)
  | .not e => e.leafPositions (0 :: position)
  | .contains e item => e.leafPositions (0 :: position) ++ item.leafPositions (1 :: position)
  | .any e _ | .all e _ => e.leafPositions (0 :: position)
  | .sequenceEqual e other _ =>
    e.leafPositions (0 :: position) ++ other.leafPositions (1 :: position)

end Expr

-- The same work beside a log that it leaves alone.
def Work.besideLog : Work σ → Work (List Position × σ)
  | .ready answer => .ready answer
  | .step next rest => .step (fun s => (s.1, next s.2)) fun s => (rest s.2).besideLog

-- The same work, which first writes its position into the log.
def Leaf.noted (position : Position) (l : Leaf σ) : Leaf (List Position × σ) :=
  ⟨.step (fun s => (s.1 ++ [position], s.2)) fun _ => l.work.besideLog, l.declared⟩

-- The same tree, whose leaves write into a log when they are run.
def Expr.noted (position : Position) : Expr σ → Expr (List Position × σ)
  | .compare op l r => .compare op (l.noted (0 :: position)) (r.noted (1 :: position))
  | .logical op l r => .logical op (l.noted (0 :: position)) (r.noted (1 :: position))
  | .not e => .not (e.noted (0 :: position))
  | .member path l => .member path (l.noted position)
  | .leaf text l => .leaf text (l.noted position)
  | .literal v d => .literal v d
  | .contains e item => .contains (e.noted (0 :: position)) (item.noted (1 :: position))
  | .any e p => .any (e.noted (0 :: position)) p
  | .all e p => .all (e.noted (0 :: position)) p
  | .sequenceEqual e other c =>
    .sequenceEqual (e.noted (0 :: position)) (other.noted (1 :: position)) c

namespace Expr

@[simp] theorem declared_noted (e : Expr σ) (position : Position) :
    (e.noted position).declared = e.declared := by
  cases e <;> rfl

theorem children_noted (e : Expr σ) (position : Position) :
    (e.noted position).children = e.children.mapIdx fun i child => child.noted (i :: position) := by
  cases e <;> rfl

@[simp] theorem level_noted (e : Expr σ) (position : Position) :
    (e.noted position).level = e.level := by
  cases e <;> rfl

@[simp] theorem text_noted (h : Heap) (limit : Nat) (e : Expr σ) (position : Position) :
    (e.noted position).text h limit = e.text h limit := by
  induction e generalizing position with
  | compare op l r ihl ihr => simp [noted, text, binaryText, placed, ihl, ihr]
  | logical op l r ihl ihr => simp [noted, text, binaryText, placed, ihl, ihr]
  | not e ih => simp [noted, text, placed, ih]
  | member path l => rfl
  | leaf text l => rfl
  | literal v d => rfl
  | contains e item ihe ihi => simp [noted, text, callText, placed, ihe, ihi]
  | any e p ih => simp [noted, text, callText, placed, ih]
  | all e p ih => simp [noted, text, callText, placed, ih]
  | sequenceEqual e other c ihe iho =>
    cases c <;> simp [noted, text, callText, placed, ihe, iho]

theorem entries_noted (h : Heap) (limit : Nat) (e : Expr σ) (position : Position) :
    Shape.entries h limit (e.noted position) = Shape.entries h limit e := by
  have htext := text_noted h limit e position
  induction e generalizing position with
  | member | leaf | literal => rfl
  | compare op l r ihl ihr | logical op l r ihl ihr =>
    rw [noted] at htext ⊢
    rw [Shape.entries, Shape.entries, htext, ihl _ (text_noted ..), ihr _ (text_noted ..)]
  | not e ih | any e p ih | all e p ih =>
    rw [noted] at htext ⊢
    rw [Shape.entries, Shape.entries, htext, ih _ (text_noted ..)]
  | contains e other ihe iho | sequenceEqual e other c ihe iho =>
    rw [noted] at htext ⊢
    rw [Shape.entries, Shape.entries, htext, ihe _ (text_noted ..), iho _ (text_noted ..)]

theorem shape_noted (h : Heap) (limit : Nat) (e : Expr σ) (position : Position) :
    Shape.of h limit (e.noted position) = Shape.of h limit e := by
  rw [Shape.of, entries_noted, ← Shape.of]

theorem marks_noted (h : Heap) (limit : Nat) (e : Expr σ) (position : Position) :
    (e.noted position).marks h limit = e.marks h limit := by
  induction e generalizing position with
  | member | leaf | literal => rfl
  | compare op l r ihl ihr => rw [noted, marks, marks, ihl, ihr]
  | logical op l r ihl ihr => cases op <;> rw [noted, marks, marks, ihl, ihr]
  | not e ih | any e p ih | all e p ih => rw [noted, marks, marks, ih]
  | contains e other ihe iho | sequenceEqual e other c ihe iho => rw [noted, marks, marks, ihe, iho]

-- A log makes no difference to the cache.
theorem compile_noted (cache : ShapeCache) (h : Heap) (limit : Nat) (e : Expr σ) (position : Position) :
    cache.compile h limit (e.noted position) = cache.compile h limit e := by
  simp only [ShapeCache.compile, marks_noted, text_noted, shape_noted]

end Expr

-- The rules say something of every tree.
def Settles (h : Heap) (position : Position) (e : Expr σ) : Prop :=
  ∀ s, ∃ ran answer s', Evaluates h position e s ran answer s'

theorem exists_decision (holds : Prop) : ∃ b : Bool, b = true ↔ holds := by
  by_cases hh : holds
  · exact ⟨true, iff_of_true rfl hh⟩
  · exact ⟨false, iff_of_false Bool.false_ne_true hh⟩

theorem settles_of_operand {h : Heap} {position : Position} {e operand : Expr σ}
    (hchildren : e.children.head? = some operand) (hoperand : Settles h (0 :: position) operand)
    (hok : ∀ {s s₁ : σ} {ran : List Position} {a : Value},
      Evaluates h (0 :: position) operand s ran (.ok a) s₁ →
        ∃ ran₁ answer s₂, Evaluates h position e s ran₁ answer s₂) :
    Settles h position e := by
  intro s
  obtain ⟨ran, answer, s₁, hrun⟩ := hoperand s
  cases answer with
  | ok a => exact hok hrun
  | error f => exact ⟨ran, .error f, s₁, .firstBreaks hchildren hrun⟩

theorem settles_of_operands {h : Heap} {position : Position} {e first second : Expr σ}
    (hchildren : e.children = [first, second]) (hasks : ∀ a, e.AsksSecond a)
    (hfirst : Settles h (0 :: position) first) (hsecond : Settles h (1 :: position) second)
    (hok : ∀ {s s₁ s₂ : σ} {ran ran₁ : List Position} {a b : Value},
      Evaluates h (0 :: position) first s ran (.ok a) s₁ →
      Evaluates h (1 :: position) second s₁ ran₁ (.ok b) s₂ →
        ∃ v, Evaluates h position e s (ran ++ ran₁) (.ok v) s₂) :
    Settles h position e := by
  apply settles_of_operand (by rw [hchildren]; rfl) hfirst
  intro s s₁ ran a hrun
  obtain ⟨ran₁, answer, s₂, hrun₁⟩ := hsecond s₁
  cases answer with
  | ok b =>
    obtain ⟨v, hv⟩ := hok hrun hrun₁
    exact ⟨_, _, _, hv⟩
  | error f => exact ⟨_, _, _, .secondBreaks hchildren hrun (hasks a) hrun₁⟩

theorem settles (h : Heap) (position : Position) (e : Expr σ) : Settles h position e := by
  induction e generalizing position with
  | member path l => exact fun s => ⟨_, _, _, .member⟩
  | leaf text l => exact fun s => ⟨_, _, _, .leaf⟩
  | literal v d => exact fun s => ⟨_, _, _, .literal⟩
  | compare op l r ihl ihr =>
    exact settles_of_operands rfl (fun _ => trivial) (ihl _) (ihr _)
      fun hl hr => ⟨_, .compare hl hr⟩
  | logical op l r ihl ihr =>
    apply settles_of_operand rfl (ihl _)
    intro s s₁ ran a hl
    by_cases hgo : op.GoesOn a
    · obtain ⟨ran₁, answer, s₂, hr⟩ := ihr (1 :: position) s₁
      cases answer with
      | ok b => exact ⟨_, _, _, .goesOn hl hgo hr⟩
      | error f => exact ⟨_, _, _, .secondBreaks rfl hl hgo hr⟩
    · exact ⟨_, _, _, .stops hl hgo⟩
  | not e ih => exact settles_of_operand rfl (ih _) fun he => ⟨_, _, _, .not he⟩
  | contains e item ihe ihi =>
    refine settles_of_operands rfl (fun _ => trivial) (ihe _) (ihi _) ?_
    intro s s₁ s₂ ran ran₁ a b he hi
    obtain ⟨found, hfound⟩ := exists_decision (Contained h a b)
    exact ⟨_, .contains he hi hfound⟩
  | any e p ih =>
    apply settles_of_operand rfl (ih _)
    intro s s₁ ran a he
    obtain ⟨accepted, haccepted⟩ := exists_decision (SomeAccepted p a)
    exact ⟨_, _, _, .any he haccepted⟩
  | all e p ih =>
    apply settles_of_operand rfl (ih _)
    intro s s₁ ran a he
    obtain ⟨accepted, haccepted⟩ := exists_decision (AllAccepted p a)
    exact ⟨_, _, _, .all he haccepted⟩
  | sequenceEqual e other c ihe iho =>
    refine settles_of_operands rfl (fun _ => trivial) (ihe _) (iho _) ?_
    intro s s₁ s₂ ran ran₁ a b he ho
    obtain ⟨same, hsame⟩ := exists_decision (PairwiseEqual h c a b)
    exact ⟨_, .sequenceEqual he ho hsame⟩

namespace Expr

theorem leafPositions_first_sublist {e first : Expr σ} (position : Position)
    (hchildren : e.children.head? = some first) :
    (first.leafPositions (0 :: position)).Sublist (e.leafPositions position) := by
  cases e with
  | member | leaf | literal => cases hchildren
  | compare | logical | contains | sequenceEqual =>
    cases hchildren
    exact List.sublist_append_left _ _
  | not | any | all =>
    cases hchildren
    exact List.Sublist.refl _

theorem leafPositions_eq_append {e first second : Expr σ} (position : Position)
    (hchildren : e.children = [first, second]) :
    e.leafPositions position =
      first.leafPositions (0 :: position) ++ second.leafPositions (1 :: position) := by
  cases e with
  | member | leaf | literal | not | any | all => cases hchildren
  | compare | logical | contains | sequenceEqual =>
    cases hchildren
    rfl

theorem subtree_of_mem_leafPositions {e : Expr σ} {position p : Position}
    (hp : p ∈ e.leafPositions position) : position <:+ p := by
  induction e generalizing position with
  | literal => cases hp
  | member | leaf => exact (List.mem_singleton.1 hp) ▸ List.suffix_refl position
  | not e ih | any e p ih | all e p ih => exact (List.suffix_cons 0 position).trans (ih hp)
  | compare op l r ihl ihr | logical op l r ihl ihr | contains l r ihl ihr
  | sequenceEqual l r c ihl ihr =>
    rcases List.mem_append.1 hp with hp | hp
    · exact (List.suffix_cons 0 position).trans (ihl hp)
    · exact (List.suffix_cons 1 position).trans (ihr hp)

-- The leaves of the two operands of a node lie in different subtrees.
theorem nodup_leafPositions (e : Expr σ) (position : Position) :
    (e.leafPositions position).Nodup := by
  induction e generalizing position with
  | literal => exact List.nodup_nil
  | member | leaf => exact List.nodup_singleton position
  | not e ih | any e p ih | all e p ih => exact ih _
  | compare op l r ihl ihr | logical op l r ihl ihr | contains l r ihl ihr
  | sequenceEqual l r c ihl ihr =>
    refine (ihl _).append (ihr _) ?_
    intro p hl hr
    exact not_mem_subtree_cons Nat.zero_ne_one position p (subtree_of_mem_leafPositions hl)
      (subtree_of_mem_leafPositions hr)

end Expr

theorem Evaluates.ran_sublist {h : Heap} {position : Position} {e : Expr σ} {s s' : σ}
    {ran : List Position} {answer : Callback Value} (he : Evaluates h position e s ran answer s') :
    ran.Sublist (e.leafPositions position) := by
  induction he with
  | member => exact List.Sublist.refl _
  | leaf => exact List.Sublist.refl _
  | literal => exact List.Sublist.refl _
  | stops _ _ ihl => exact ihl.trans (List.sublist_append_left _ _)
  | not _ ih => exact ih
  | any _ _ ih => exact ih
  | all _ _ ih => exact ih
  | compare _ _ ihl ihr => exact ihl.append ihr
  | goesOn _ _ _ ihl ihr => exact ihl.append ihr
  | contains _ _ _ ihe ihi => exact ihe.append ihi
  | sequenceEqual _ _ _ ihe iho => exact ihe.append iho
  | firstBreaks hchildren _ ih =>
    exact ih.trans (Expr.leafPositions_first_sublist _ hchildren)
  | secondBreaks hchildren _ _ _ ihf ihs =>
    rw [Expr.leafPositions_eq_append _ hchildren]
    exact ihf.append ihs

end Verdict
