import Verdict.Proofs.Expr.LargeContext
import Verdict.Proofs.Expr.Reference

namespace Verdict

variable {σ : Type}

@[simp] theorem Value.bool?_ofOutcome (o : Option Bool) : (Value.ofOutcome o).bool? = o := by
  cases o <;> rfl

namespace Expr

-- Only leaves and literals contribute a value that is not their outcome.
theorem directContribution_at {e : Expr σ} {p : Run σ Result} {s s' : σ} {answer : Callback Result}
    (hchildren : e.children ≠ []) (hrun : p.run s = (answer, s')) :
    (e.directContribution p).run s = (answer.map fun r => .ofOutcome r.outcome, s') := by
  have hcontribution : e.directContribution p = do return .ofOutcome (← p).outcome := by
    cases e with
    | member | leaf | literal => exact absurd rfl hchildren
    | compare | logical | not | contains | any | all | sequenceEqual => rfl
  rw [hcontribution, Run.return_at, hrun]

end Expr

-- Only a leaf comes to a sequence, and it contributes what it comes to.
theorem Evaluates.contribution_of_seq {h : Heap} {position : Position} {e : Expr σ} {s s' : σ}
    {ran : List Position} {items : List Value} (he : Evaluates h position e s ran (.ok (.seq items)) s')
    (p : Run σ Result) : (e.directContribution p).run s = (.ok (.seq items), s') := by
  generalize hanswer : Except.ok (Value.seq items) = answer at he
  cases he with
  | member => rfl
  | leaf => rfl
  | literal =>
    cases hanswer
    rfl
  | @not _ _ _ _ _ a => cases a <;> cases hanswer
  | compare | stops | goesOn | contains | any | all | sequenceEqual | firstBreaks | secondBreaks =>
    cases hanswer

-- A run of a node gives a result that stands for the answer of the reference.
structure Agrees (e : Expr σ) (p : Run σ Result) (s : σ) (answer : Callback Value) (s' : σ) :
    Prop where
  result : ∃ r, p.run s = (r, s') ∧ r.map Result.outcome = answer.map Value.bool?
  contribution : (e.directContribution p).run s = (answer, s')

theorem agrees_of_run {e : Expr σ} {p : Run σ Result} {s s' : σ} {r : Callback Result}
    {answer : Callback Value} (hchildren : e.children ≠ []) (hrun : p.run s = (r, s'))
    (hanswer : r.map (fun r => Value.ofOutcome r.outcome) = answer) : Agrees e p s answer s' := by
  subst hanswer
  refine ⟨⟨r, hrun, ?_⟩, Expr.directContribution_at hchildren hrun⟩
  cases r with
  | ok r => simp [Except.map]
  | error f => rfl

theorem operand_at {α β : Type} {p : Run σ α} {s s₁ : σ} {a : α} (hp : p.run s = (.ok a, s₁))
    (f : α → β) : (do return f (← p) : Run σ β).run s = (.ok (f a), s₁) := by
  rw [Run.bind_ok hp]
  rfl

theorem operands_at {α β γ : Type} {p : Run σ α} {q : Run σ β} {s s₁ s₂ : σ} {a : α} {b : β}
    (hp : p.run s = (.ok a, s₁)) (hq : q.run s₁ = (.ok b, s₂)) (f : α → β → γ) :
    (do let a ← p; let b ← q; return f a b : Run σ γ).run s = (.ok (f a b), s₂) := by
  rw [Run.bind_ok hp, Run.bind_ok hq]
  rfl

theorem passed_eq_passes {r : Result} {v : Value} (h : r.outcome = v.bool?) :
    r.passed = v.passes := by
  rw [Result.passed, h, Value.passes]

theorem settledBy_iff {op : LogicalOp} {v : Value} : op.settledBy v.passes = true ↔ ¬op.GoesOn v := by
  have hv : v.passes = true ↔ v = .bool true := by
    cases v <;> simp [Value.passes, Value.bool?]
  cases op <;> simp [LogicalOp.settledBy, LogicalOp.GoesOn, ← hv]

-- A result that decides what the reference asks has the outcome that the reference gives.
theorem contribution_of_decides {r : Result} {holds : Prop} {b : Bool} (hr : r.Decides holds)
    (hb : b = true ↔ holds) : Value.ofOutcome r.outcome = .bool b := by
  obtain ⟨b', hout, hb'⟩ := hr
  have hbb : b' = b := Bool.eq_iff_iff.2 (hb'.trans hb.symm)
  rw [hout, hbb]
  rfl

theorem ofOutcome_map_not (v : Value) :
    Value.ofOutcome (v.bool?.map fun b => !b) = v.negated := by
  cases v <;> rfl

theorem Agrees.of_ok {e : Expr σ} {p : Run σ Result} {s s' : σ} {v : Value}
    (ha : Agrees e p s (.ok v) s') : ∃ r, p.run s = (.ok r, s') ∧ r.outcome = v.bool? := by
  obtain ⟨r, hrun, hout⟩ := ha.result
  cases r with
  | ok r => exact ⟨r, hrun, Except.ok.inj hout⟩
  | error f => cases hout

theorem Agrees.of_error {e : Expr σ} {p : Run σ Result} {s s' : σ} {f : Fault}
    (ha : Agrees e p s (.error f) s') : p.run s = (.error f, s') := by
  obtain ⟨r, hrun, hout⟩ := ha.result
  cases r with
  | ok r => cases hout
  | error g => rw [hrun, Except.error.inj hout]

theorem Evaluates.agrees {h : Heap} {position : Position} {e : Expr σ} {s s' : σ}
    {ran : List Position} {answer : Callback Value}
    (he : Evaluates h position e s ran answer s') {config : Config} (hholds : config.HoldsContext)
    (shape : Shape) (index : Nat) : Agrees e (e.directResult h config shape index) s answer s' := by
  induction he generalizing index with
  | @member position path l s =>
    refine ⟨⟨_, Run.return_at l.work.finish _ s, ?_⟩, rfl⟩
    cases (l.work.finish.run s).1 <;> rfl
  | @leaf position text l s =>
    refine ⟨⟨_, Run.return_at l.work.finish _ s, ?_⟩, rfl⟩
    cases (l.work.finish.run s).1 <;> rfl
  | literal => exact ⟨⟨_, rfl, rfl⟩, rfl⟩
  | @compare position op l r s s₁ s₂ ran ran₁ a b _ _ ihl ihr =>
    refine agrees_of_run (List.cons_ne_nil _ _) (operands_at (ihl _).contribution
      (ihr _).contribution fun a b => Expr.comparisonResult h config (shape.text index) op
        ⟨a, l.declared⟩ ⟨b, r.declared⟩) ?_
    rw [Except.map, Expr.outcome_comparisonResult]
    rfl
  | @stops position op l r s s₁ ran a _ hstop ihl =>
    obtain ⟨left, hrun, hout⟩ := (ihl (shape.childIndex index 0)).of_ok
    have hpassed := passed_eq_passes hout
    have hsettled : op.settledBy left.passed = true := by rw [hpassed, settledBy_iff]; exact hstop
    refine agrees_of_run (List.cons_ne_nil _ _) (r := .ok (.logical .expressions (shape.text index) op left none left.passed true)) ?_ ?_
    · rw [Expr.directResult, Run.bind_ok hrun, if_pos hsettled]
      rfl
    · rw [← hpassed]
      rfl
  | @goesOn position op l r s s₁ s₂ ran ran₁ a b _ hgo _ ihl ihr =>
    obtain ⟨left, hrunl, houtl⟩ := (ihl (shape.childIndex index 0)).of_ok
    obtain ⟨right, hrunr, houtr⟩ := (ihr (shape.childIndex index 1)).of_ok
    have hgoes : ¬op.settledBy left.passed = true := by
      rw [passed_eq_passes houtl, settledBy_iff]
      exact not_not_intro hgo
    refine agrees_of_run (List.cons_ne_nil _ _) (r := .ok (.logical .expressions (shape.text index) op left (some right) right.passed false)) ?_ ?_
    · rw [Expr.directResult, Run.bind_ok hrunl, if_neg hgoes]
      exact operand_at hrunr _
    · rw [← passed_eq_passes houtr]
      rfl
  | @not position e s s₁ ran a _ ih =>
    obtain ⟨r', hrun, hout⟩ := (ih (index + 1)).result
    cases r' with
    | error f => cases hout
    | ok r =>
      refine agrees_of_run (List.cons_ne_nil _ _) (operand_at hrun fun r =>
        Result.negation (shape.text index) r r.outcome (r.outcome.map fun b => !b)) ?_
      have hout' : r.outcome = a.bool? := Except.ok.inj hout
      rw [Except.map, ← ofOutcome_map_not, ← hout']
      rfl
  | @contains position e item s s₁ s₂ ran ran₁ a b found _ _ hfound ihe ihi =>
    refine agrees_of_run (List.cons_ne_nil _ _) (operands_at (ihe _).contribution
      (ihi _).contribution (Call.contains h config (shape.text index))) ?_
    exact congrArg Except.ok (contribution_of_decides (Call.decides_contains ..) hfound)
  | @any position e p s s₁ ran a accepted _ haccepted ih =>
    refine agrees_of_run (List.cons_ne_nil _ _) (operand_at (ih _).contribution fun a =>
      Call.any h config (shape.text index) a p) ?_
    exact congrArg Except.ok (contribution_of_decides (Call.decides_any ..) haccepted)
  | @all position e p s s₁ ran a accepted _ haccepted ih =>
    refine agrees_of_run (List.cons_ne_nil _ _) (operand_at (ih _).contribution fun a =>
      Call.all h config (shape.text index) a p) ?_
    exact congrArg Except.ok (contribution_of_decides (Call.decides_all ..) haccepted)
  | @sequenceEqual position e other c s s₁ s₂ ran ran₁ a b same _ _ hsame ihe iho =>
    obtain ⟨r, hr⟩ := Call.exists_sequenceEqual hholds h (shape.text index) a b c
    refine agrees_of_run (List.cons_ne_nil _ _) (r := .ok r) ?_ ?_
    · rw [Expr.directResult, Run.bind_ok (ihe _).contribution, Run.bind_ok (iho _).contribution, hr]
      rfl
    · exact congrArg Except.ok (contribution_of_decides (Call.decides_of_sequenceEqual hr) hsame)
  | @firstBreaks position e first s s₁ ran f hchildren _ ih =>
    have hne : e.children ≠ [] := by
      intro hnil
      rw [hnil] at hchildren
      cases hchildren
    refine agrees_of_run hne (r := .error f) ?_ rfl
    cases e with
    | member | leaf | literal => cases hchildren
    | compare | contains | any | all | sequenceEqual =>
      cases hchildren
      exact Run.bind_error (ih _).contribution _
    | logical | not =>
      cases hchildren
      exact Run.bind_error (ih _).of_error _
  | @secondBreaks position e first second s s₁ s₂ ran ran₁ a f hchildren _ hasks _ ihf ihs =>
    have hne : e.children ≠ [] := hchildren ▸ List.cons_ne_nil first _
    refine agrees_of_run hne (r := .error f) ?_ rfl
    cases e with
    | member | leaf | literal | not | any | all => cases hchildren
    | compare | contains | sequenceEqual =>
      cases hchildren
      rw [Expr.directResult, Run.bind_ok (ihf _).contribution]
      exact Run.bind_error (ihs _).contribution _
    | logical op l r =>
      cases hchildren
      obtain ⟨left, hrun, hout⟩ := (ihf (shape.childIndex index 0)).of_ok
      have hgoes : ¬op.settledBy left.passed = true := by
        rw [passed_eq_passes hout, settledBy_iff]
        exact not_not_intro hasks
      rw [Expr.directResult, Run.bind_ok hrun, if_neg hgoes]
      exact Run.bind_error (ihs _).of_error _

theorem Work.finish_besideLog (w : Work σ) (log : List Position) (s : σ) :
    w.besideLog.finish.run (log, s) = ((w.finish.run s).1, (log, (w.finish.run s).2)) := by
  induction w generalizing s with
  | ready answer => rfl
  | step next rest ih => exact ih (next s) (next s)

theorem Leaf.finish_noted (l : Leaf σ) (position : Position) (log : List Position) (s : σ) :
    (l.noted position).work.finish.run (log, s) =
      ((l.work.finish.run s).1, (log ++ [position], (l.work.finish.run s).2)) :=
  l.work.finish_besideLog (log ++ [position]) s

-- What the reference says of a tree, it says of the tree that keeps a log, and the log is as it says.
theorem Evaluates.noted {h : Heap} {position : Position} {e : Expr σ} {s s' : σ}
    {ran : List Position} {answer : Callback Value} (he : Evaluates h position e s ran answer s')
    (log : List Position) :
    Evaluates h position (e.noted position) (log, s) ran answer (log ++ ran, s') := by
  induction he generalizing log with
  | @member position path l s =>
    have hl := @Evaluates.member _ h position path (l.noted position) (log, s)
    rw [Leaf.finish_noted] at hl
    exact hl
  | @leaf position text l s =>
    have hl := @Evaluates.leaf _ h position text (l.noted position) (log, s)
    rw [Leaf.finish_noted] at hl
    exact hl
  | literal => rw [List.append_nil]; exact .literal
  | compare _ _ ihl ihr =>
    rw [← List.append_assoc]
    exact .compare (ihl log) (ihr _)
  | stops _ hstop ihl => exact .stops (ihl log) hstop
  | goesOn _ hgo _ ihl ihr =>
    rw [← List.append_assoc]
    exact .goesOn (ihl log) hgo (ihr _)
  | not _ ih => exact .not (ih log)
  | contains _ _ hfound ihe ihi =>
    rw [← List.append_assoc]
    exact .contains (ihe log) (ihi _) hfound
  | any _ haccepted ih => exact .any (ih log) haccepted
  | all _ haccepted ih => exact .all (ih log) haccepted
  | sequenceEqual _ _ hsame ihe iho =>
    rw [← List.append_assoc]
    exact .sequenceEqual (ihe log) (iho _) hsame
  | firstBreaks hchildren _ ih =>
    refine .firstBreaks ?_ (ih log)
    rw [Expr.children_noted, List.head?_mapIdx, hchildren]
    rfl
  | @secondBreaks position e first second s s₁ s₂ ran ran₁ a f hchildren _ hasks _ ihf ihs =>
    have hchildren' : (e.noted position).children =
        [first.noted (0 :: position), second.noted (1 :: position)] := by
      rw [Expr.children_noted, hchildren]
      rfl
    rw [← List.append_assoc]
    refine .secondBreaks hchildren' (ihf log) ?_ (ihs _)
    cases e <;> exact hasks

-- `q` does what `p` does, beside a log that it may write into.
def BesideLog {α : Type} (p : Run σ α) (q : Run (List Position × σ) α) : Prop :=
  ∀ s log, ∃ log', q.run (log, s) = ((p.run s).1, (log', (p.run s).2))

section

variable {α β : Type} {p : Run σ α} {q : Run (List Position × σ) α}

theorem besideLog_pure (a : α) : BesideLog (σ := σ) (pure a) (pure a) :=
  fun _ log => ⟨log, rfl⟩

theorem besideLog_ofAnswer (answer : Callback α) :
    BesideLog (σ := σ) (Run.ofAnswer answer) (Run.ofAnswer answer) :=
  fun _ log => ⟨log, rfl⟩

theorem besideLog_bind {f : α → Run σ β} {g : α → Run (List Position × σ) β}
    (hp : BesideLog p q) (hf : ∀ a, BesideLog (f a) (g a)) : BesideLog (p >>= f) (q >>= g) := by
  intro s log
  obtain ⟨log₁, hrun⟩ := hp s log
  rw [Run.bind_at, Run.bind_at, hrun]
  rcases p.run s with ⟨answer, s₁⟩
  cases answer with
  | ok a => exact hf a s₁ log₁
  | error f => exact ⟨log₁, rfl⟩

end

namespace Expr

theorem besideLog_contribution {e : Expr σ} {position : Position} {p : Run σ Result}
    {q : Run (List Position × σ) Result} (hp : BesideLog p q) :
    BesideLog (e.directContribution p) ((e.noted position).directContribution q) := by
  cases e with
  | member path l => exact fun s log => ⟨_, l.finish_noted position log s⟩
  | leaf text l => exact fun s log => ⟨_, l.finish_noted position log s⟩
  | literal v d => exact besideLog_pure v
  | compare | logical | not | contains | any | all | sequenceEqual =>
    exact besideLog_bind hp fun r => besideLog_pure _

theorem besideLog_result (h : Heap) (config : Config) (shape : Shape) (e : Expr σ)
    (position : Position) (index : Nat) :
    BesideLog (e.directResult h config shape index)
      ((e.noted position).directResult h config shape index) := by
  induction e generalizing position index with
  | member path l =>
    exact besideLog_bind (fun s log => ⟨_, l.finish_noted position log s⟩)
      fun v => besideLog_pure _
  | leaf text l =>
    exact besideLog_bind (fun s log => ⟨_, l.finish_noted position log s⟩)
      fun v => besideLog_pure _
  | literal v d => exact besideLog_pure _
  | compare op l r ihl ihr =>
    rw [noted, directResult, directResult, declared_noted, declared_noted]
    apply besideLog_bind (besideLog_contribution (ihl _ _))
    intro left
    exact besideLog_bind (besideLog_contribution (ihr _ _)) fun right => besideLog_pure _
  | logical op l r ihl ihr =>
    apply besideLog_bind (ihl _ _)
    intro left
    by_cases hsettled : op.settledBy left.passed = true
    · simp only [hsettled, if_true]
      exact besideLog_pure _
    · simp only [hsettled]
      exact besideLog_bind (ihr _ _) fun right => besideLog_pure _
  | not e ih => exact besideLog_bind (ih _ _) fun operand => besideLog_pure _
  | any e p ih =>
    exact besideLog_bind (besideLog_contribution (ih _ _)) fun receiver => besideLog_pure _
  | all e p ih =>
    exact besideLog_bind (besideLog_contribution (ih _ _)) fun receiver => besideLog_pure _
  | contains e item ihe ihi =>
    apply besideLog_bind (besideLog_contribution (ihe _ _))
    intro receiver
    exact besideLog_bind (besideLog_contribution (ihi _ _)) fun item => besideLog_pure _
  | sequenceEqual e other c ihe iho =>
    apply besideLog_bind (besideLog_contribution (ihe _ _))
    intro receiver
    exact besideLog_bind (besideLog_contribution (iho _ _)) fun other => besideLog_ofAnswer _

theorem besideLog_evaluate (h : Heap) (config : Config) (cache : ShapeCache) (e : Expr σ) :
    BesideLog (e.evaluate h config cache) ((e.noted []).evaluate h config cache) := by
  rw [evaluate_eq_directResult, evaluate_eq_directResult, compile_noted]
  exact besideLog_result h config _ e [] 0

theorem exists_noted_of_mem_leaves {e : Expr σ} {position : Position} {l : Leaf (List Position × σ)}
    (hl : l ∈ (e.noted position).leaves) : ∃ (l' : Leaf σ) (p : Position), l = l'.noted p := by
  induction e generalizing position with
  | member path l' => exact ⟨l', position, List.mem_singleton.1 hl⟩
  | leaf text l' => exact ⟨l', position, List.mem_singleton.1 hl⟩
  | literal => cases hl
  | not e ih | any e p ih | all e p ih => exact ih hl
  | compare op l r ihl ihr | logical op l r ihl ihr | contains l r ihl ihr
  | sequenceEqual l r c ihl ihr =>
    rcases List.mem_append.1 hl with hl | hl
    · exact ihl hl
    · exact ihr hl

end Expr

-- The log was shorter by entries at its end.
def LogBefore (s s' : List Position × σ) : Prop := s.1 <+: s'.1

instance : IsPreorder (List Position × σ) LogBefore where
  refl _ := List.prefix_rfl
  trans _ _ _ := List.IsPrefix.trans

theorem logBefore_noted {e : Expr σ} {position : Position} {l : Leaf (List Position × σ)}
    (hl : l ∈ (e.noted position).leaves) (s : List Position × σ) :
    LogBefore s (l.work.finish.run s).2 := by
  obtain ⟨l', p, rfl⟩ := Expr.exists_noted_of_mem_leaves hl
  rw [Leaf.finish_noted]
  exact List.prefix_append _ _

section

variable {h : Heap} {e : Expr σ} {s s' : σ} {ran : List Position} {answer : Callback Value}
  {config : Config}

theorem Evaluates.evaluate (he : Evaluates h [] e s ran answer s') (hholds : config.HoldsContext)
    (cache : ShapeCache) :
    ((e.evaluate h config cache).run s).1.map Result.outcome = answer.map Value.bool? ∧
      ((e.evaluate h config cache).run s).2 = s' := by
  obtain ⟨r, hrun, hout⟩ := (he.agrees hholds (cache.compile h config.previewItems e).1 0).result
  rw [Expr.evaluate_eq_directResult, hrun]
  exact ⟨hout, rfl⟩

theorem Evaluates.evaluate_noted (he : Evaluates h [] e s ran answer s') (hholds : config.HoldsContext)
    (cache : ShapeCache) : ((e.noted []).evaluate h config cache).run ([], s) =
      (((e.evaluate h config cache).run s).1, (ran, s')) := by
  obtain ⟨log, hlog⟩ := Expr.besideLog_evaluate h config cache e s []
  have hstate := ((he.noted []).evaluate hholds cache).2
  rw [hlog] at hstate
  exact hlog.trans (congrArg _ hstate)

theorem Evaluates.unique {s₁ : σ} {ran₁ : List Position} {answer₁ : Callback Value}
    (he : Evaluates h [] e s ran answer s') (he₁ : Evaluates h [] e s ran₁ answer₁ s₁) :
    ran₁ = ran ∧ answer₁ = answer ∧ s₁ = s' := by
  have hholds : (default : Config).HoldsContext := by decide
  have hrun := (he.agrees hholds ⟨#[]⟩ 0).contribution
  rw [(he₁.agrees hholds ⟨#[]⟩ 0).contribution] at hrun
  have hnoted := he.evaluate_noted hholds (.empty fun _ => 0)
  rw [he₁.evaluate_noted hholds] at hnoted
  obtain ⟨hanswer, hs⟩ := Prod.mk.inj hrun
  exact ⟨(Prod.mk.inj (Prod.mk.inj hnoted).2).1, hanswer, hs⟩

-- Under any config the evaluation of a tree, and of the same tree with a log, is the run of the reference. Or it breaks
-- off over the context, where the log is the beginning of what the reference runs.
theorem Evaluates.evaluate_or_breaks_off (he : Evaluates h [] e s ran answer s') (config : Config)
    (cache : ShapeCache) :
    let evaluated := (e.evaluate h config cache).run s
    let noted := ((e.noted []).evaluate h config cache).run ([], s)
    (evaluated.1.map Result.outcome = answer.map Value.bool? ∧ evaluated.2 = s' ∧
        noted = (evaluated.1, (ran, s'))) ∨
      ¬config.HoldsContext ∧ ∃ begun s'', begun <+: ran ∧
        evaluated = (.error capacityOverflow, s'') ∧ noted = (.error capacityOverflow, (begun, s'')) := by
  intro evaluated noted
  let shape := (cache.compile h config.previewItems (e.noted [])).1
  have hholds := holdsContext_none config
  obtain ⟨r, hrun, hout⟩ := ((he.noted []).agrees hholds shape 0).result
  have hleaves : ∀ l ∈ (e.noted []).leaves, ∀ s, LogBefore s (l.work.finish.run s).2 :=
    fun l hl => logBefore_noted hl
  have hresult : StopsShort config LogBefore Result.outcome ((e.noted []).directResult h config shape 0) _ :=
    Expr.stopsShort_result hholds shape hleaves 0
  have hstops := hresult.same ([], s)
  rw [hrun, ← Expr.evaluate_eq_directResult] at hstops
  -- The tree with the log and the one without come to the same.
  obtain ⟨log, hlog⟩ := Expr.besideLog_evaluate h config cache e s []
  rw [hlog] at hstops
  obtain ⟨hanswer, hstate⟩ | ⟨hlarge, ⟨begun, s''⟩, hbroke, hbefore⟩ := hstops
  · obtain ⟨hran, hs⟩ := Prod.mk.inj hstate
    exact .inl ⟨hanswer.trans hout, hs, hlog.trans (by rw [hran, hs]; rfl)⟩
  · obtain ⟨hfault, hstate⟩ := Prod.mk.inj hbroke
    obtain ⟨rfl, hs⟩ := Prod.mk.inj hstate
    exact .inr ⟨hlarge, log, s'', hbefore, Prod.ext hfault hs, hlog.trans (by rw [hfault, hs])⟩

end

-- For every tree and state the reference allows exactly one run, of leaves that are some of all leaves from left to
-- right, none of them twice. Evaluation is that run: its outcome, the state it ends in, and the log of the leaves
-- that it runs. The only other thing that can happen is that a report on sequences needs more context than can be
-- held: then evaluation breaks off, and the leaves that were run until then are the first ones of that run.
theorem evaluate_follows_reference (h : Heap) (config : Config) (cache : ShapeCache) (e : Expr σ) (s : σ) :
    ∃ ran answer s',
      (∀ ran₁ answer₁ s₁, Evaluates h [] e s ran₁ answer₁ s₁ ↔
        ran₁ = ran ∧ answer₁ = answer ∧ s₁ = s') ∧
      ran.Sublist (e.leafPositions []) ∧ (e.leafPositions []).Nodup ∧
      let evaluated := (e.evaluate h config cache).run s
      let noted := ((e.noted []).evaluate h config cache).run ([], s)
      (evaluated.1.map Result.outcome = answer.map Value.bool? ∧ evaluated.2 = s' ∧
          noted = (evaluated.1, (ran, s'))) ∨
        ¬config.HoldsContext ∧ ∃ begun s'', begun <+: ran ∧
          evaluated = (.error ⟨"capacity overflow"⟩, s'') ∧
          noted = (.error ⟨"capacity overflow"⟩, (begun, s'')) := by
  obtain ⟨ran, answer, s', he⟩ := settles h [] e s
  refine ⟨ran, answer, s', fun ran₁ answer₁ s₁ => ?_, he.ran_sublist, e.nodup_leafPositions [],
    he.evaluate_or_breaks_off config cache⟩
  constructor
  · exact he.unique
  · rintro ⟨rfl, rfl, rfl⟩
    exact he

end Verdict
