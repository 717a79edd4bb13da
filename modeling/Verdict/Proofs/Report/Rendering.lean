import Verdict.Report.Renderer

namespace Verdict

variable {h : Heap} {config : OutputConfig} {α β : Type}

-- No node of the run goes without its own text, and none will after it.
def KeepsText (p : StateM Bool α) : Prop := (p.run false).2 = false

namespace KeepsText

theorem pure (a : α) : KeepsText (Pure.pure a) := rfl

theorem bind {p : StateM Bool α} {next : α → StateM Bool β} (hp : KeepsText p)
    (hnext : ∀ a, KeepsText (next a)) : KeepsText (p >>= next) := by
  have hrun : (p >>= next).run false = (next (p.run false).1).run (p.run false).2 := rfl
  rw [KeepsText, hrun, show (p.run false).2 = false from hp]
  exact hnext _

theorem ite {c : Prop} [Decidable c] {p q : StateM Bool α} (hp : KeepsText p) (hq : KeepsText q) :
    KeepsText (if c then p else q) := by
  split
  · exact hp
  · exact hq

end KeepsText

namespace Result

-- The node that goes without its own text hands on that no other one does; an assertion hands the question on
-- to what it asserts, which settles it.
mutual

theorem bare_rendered (force bare : Bool) (r : Result) :
    ((r.rendered h config force).run bare).2 = false := by
  rw [rendered]
  change KeepsText (if _ then _ else _)
  refine .ite (.pure _) ?_
  match r with
  | .assertion context inner => exact bare_rendered force bare inner
  | .value .. | .comparison .. | .detailed .. => exact .pure _
  | .logical junction text op left right holds shortCircuited =>
    refine .bind (bare_rendered false false left) fun leftLines => ?_
    exact .ite (.pure _) (.bind (keepsText_right right) fun rightLines => .pure _)
  | .negation text operand operandValue holds =>
    exact .bind (bare_rendered false false operand) fun operandLines => .pure _
  | .quantified text q total passes fails reportsPasses relevant holds =>
    exact .bind (keepsText_items relevant) fun itemLines => .pure _

theorem keepsText_right (right : Option Result) : KeepsText (renderedRight h config right) := by
  match right with
  | none => exact .pure _
  | some right => exact .bind (bare_rendered false false right) fun lines => .pure _

theorem keepsText_items (items : List (Nat × Result)) : KeepsText (renderedItems h config items) := by
  match items with
  | [] => exact .pure _
  | (index, result) :: rest =>
    rw [renderedItems]
    exact .bind (bare_rendered true false result) fun first =>
      .bind (keepsText_items rest) fun lines => .pure _

end

theorem run_of_passed {r : Result} {force : Bool} (hpassed : (r.passed && !force) = true) (bare : Bool) :
    (r.rendered h config force).run bare = ([.top "True"], false) := by
  rw [rendered]
  change (if _ then _ else _ : StateM Bool (List Line)).run false = _
  rw [if_pos hpassed]
  rfl

theorem run_assertion (context : Context) (inner : Result) (force bare : Bool) :
    ((Result.assertion context inner).rendered h config force).run bare =
      (inner.rendered h config force).run bare := by
  by_cases hpassed : ((Result.assertion context inner).passed && !force) = true
  · have hinner : (inner.passed && !force) = true := hpassed
    rw [run_of_passed hpassed, run_of_passed hinner]
  · rw [rendered]
    change (if _ then _ else _ : StateM Bool (List Line)).run false = _
    rw [if_neg hpassed]
    rfl

-- The text that a node shows above its lines if it is not the outermost one. One that passed is no more than a
-- single line, and a value shows itself alone.
def ownText? : Result → Option String
  | .assertion _ inner => inner.ownText?
  | .value .. => none
  | r => if r.passed then none else some r.text

-- The same lines with that text above them.
def withOwnText (r : Result) (lines : List Line) : List Line :=
  match r.ownText? with
  | some text => headed false text lines
  | none => lines

theorem withOwnText_eq_iff {r : Result} {lines : List Line} :
    r.withOwnText lines = lines ↔ r.ownText? = none := by
  cases htext : r.ownText? with
  | none => simp [withOwnText, htext]
  | some text =>
    have hlonger : (headed false text lines).length = lines.length + 1 := by simp [headed]
    simp only [withOwnText, htext, reduceCtorEq, iff_false]
    intro hsame
    rw [hsame] at hlonger
    omega

theorem rendered_again (r : Result) : ((r.rendered h config false).run false).1 =
    r.withOwnText ((r.rendered h config false).run true).1 := by
  match r with
  | .assertion context inner =>
    rw [run_assertion, run_assertion]
    exact rendered_again inner
  | .value .. => rfl
  | .logical junction text op left right holds shortCircuited =>
    cases holds <;> cases shortCircuited <;> rfl
  | .negation text operand operandValue holds =>
    rcases holds with _ | _ | _ <;> rfl
  | .comparison text op report holds =>
    cases holds <;> rfl
  | .detailed text holds detail =>
    rcases holds with _ | _ | _ <;> rfl
  | .quantified text q total passes fails reportsPasses relevant holds =>
    cases holds <;> rfl

end Result

namespace Renderer

-- The renderer after it has rendered these results, each over the heap of its time.
def after (r : Renderer) (earlier : List (Heap × Result)) : Renderer :=
  earlier.foldl (fun r call => (r.render call.1 call.2).2) r

theorem render_snd (r : Renderer) (h : Heap) (result : Result) :
    (r.render h result).2 = ⟨r.config, false⟩ :=
  congrArg (Renderer.mk r.config) (result.bare_rendered false r.bare)

theorem after_new (config : OutputConfig) (earlier : List (Heap × Result)) :
    (new config).after earlier = ⟨config, earlier.isEmpty⟩ := by
  have hused (calls : List (Heap × Result)) : after ⟨config, false⟩ calls = ⟨config, false⟩ := by
    induction calls with
    | nil => rfl
    | cons call calls ih => rw [after, List.foldl_cons, render_snd, ← after, ih]
  cases earlier with
  | nil => rfl
  | cons call calls =>
    rw [after, List.foldl_cons, render_snd, ← after]
    exact hused calls

end Renderer

-- What was rendered before and how often changes nothing but this: a renderer that was used shows the text of
-- the outermost node, which a new one leaves out. So it repeats the lines just if there is no such text.
theorem rendering_repeats_but_for_own_text (config : OutputConfig) (earlier : List (Heap × Result))
    (h : Heap) (r : Result) :
    let fresh := ((Renderer.new config).render h r).1
    let next := (((Renderer.new config).after earlier).render h r).1
    next = (if earlier = [] then fresh else r.withOwnText fresh) ∧
      (next = fresh ↔ earlier = [] ∨ r.ownText? = none) := by
  intro fresh next
  have hnext : next = if earlier = [] then fresh else r.withOwnText fresh := by
    change (Renderer.render _ h r).1 = _
    rw [Renderer.after_new]
    cases earlier with
    | nil => rfl
    | cons call calls => exact r.rendered_again
  refine ⟨hnext, ?_⟩
  rw [hnext]
  split
  case isTrue hnone => simp [hnone]
  case isFalse hsome => simp [hsome, Result.withOwnText_eq_iff]

-- Rendered twice by one renderer, a failed comparison comes with its text the second time.
theorem comparison_rendered_twice_differs :
    let config := OutputConfig.of .standard
    let r : Result := .comparison "x == y" .equal (.plain "1" "2") false
    let fresh := ((Renderer.new config).render .empty r).1
    let next := (((Renderer.new config).after [(.empty, r)]).render .empty r).1
    fresh = [.top "Left:  1", .top "Right: 2"] ∧
      next = [.top "x == y", .nested "Left:  1", .nested "Right: 2"] ∧ next ≠ fresh :=
  ⟨rfl, rfl, by decide⟩

end Verdict
