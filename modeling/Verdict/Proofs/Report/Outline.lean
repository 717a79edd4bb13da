import Verdict.Assertion.Failure
import Verdict.Expectation.Thrown
import Verdict.Proofs.Report.Origin

namespace Verdict

variable {h : Heap} {output : OutputConfig} {lines front back : List Line} {level : Nat}

-- Lines that start at a level, never go above it, and go down by one level at a time.
structure IsOutline (level : Nat) (lines : List Line) : Prop where
  first : lines.head?.map (·.indent) = some level
  below : ∀ l ∈ lines, level ≤ l.indent
  steps : lines.IsChain fun l next => next.indent ≤ l.indent + 1

namespace IsOutline

theorem single {l : Line} (hl : l.indent = level) : IsOutline level [l] where
  first := congrArg some hl
  below := List.forall_mem_singleton.2 (Nat.le_of_eq hl.symm)
  steps := .singleton l

theorem ne_nil (hlines : IsOutline level lines) : lines ≠ [] := by
  rintro rfl
  cases hlines.first

theorem append_within {level' : Nat} (hfront : IsOutline level front) (hback : IsOutline level' back)
    (hle : level ≤ level') (hstep : level' ≤ level + 1) : IsOutline level (front ++ back) where
  first := by
    rw [List.head?_append_of_ne_nil _ hfront.ne_nil]
    exact hfront.first
  below := List.forall_mem_append.2
    ⟨hfront.below, fun l hl => Nat.le_trans hle (hback.below l hl)⟩
  steps := by
    refine List.isChain_append.2 ⟨hfront.steps, hback.steps, fun l hl next hnext => ?_⟩
    have hlast : level ≤ l.indent := hfront.below l (List.mem_of_mem_getLast? hl)
    have hfirst := hback.first
    rw [hnext, Option.map_some, Option.some.injEq] at hfirst
    omega

theorem append (hfront : IsOutline level front) (hback : back = [] ∨ IsOutline level back) :
    IsOutline level (front ++ back) := by
  rcases hback with rfl | hback
  · rwa [List.append_nil]
  · exact hfront.append_within hback (Nat.le_refl _) (Nat.le_succ _)

theorem under {l : Line} (hl : l.indent = level) (hlines : lines = [] ∨ IsOutline (level + 1) lines) :
    IsOutline level (l :: lines) := by
  rcases hlines with rfl | hlines
  · exact single hl
  · exact (single hl).append_within hlines (Nat.le_succ _) (Nat.le_refl _)

theorem deeper (n : Nat) (hlines : IsOutline level lines) :
    IsOutline (n + level) (lines.map (·.deeper n)) where
  first := by
    rw [List.head?_map, Option.map_map]
    have := congrArg (Option.map (n + ·)) hlines.first
    rwa [Option.map_map] at this
  below := List.forall_mem_map.2 fun l hl => Nat.add_le_add_left (hlines.below l hl) n
  steps := (List.isChain_map _).2 <| hlines.steps.imp fun l next hstep => by
    simp only [Line.deeper]
    omega

theorem of_level (hne : lines ≠ []) (hlevel : ∀ l ∈ lines, l.indent = level) : IsOutline level lines where
  first := by
    cases lines with
    | nil => exact absurd rfl hne
    | cons l rest => exact congrArg some (hlevel l (.head _))
  below := fun l hl => Nat.le_of_eq (hlevel l hl).symm
  steps := by
    have hall : lines.Pairwise fun l next => next.indent ≤ l.indent + 1 :=
      List.pairwise_of_forall_mem_list fun l hl next hnext => by
        rw [hlevel l hl, hlevel next hnext]
        exact Nat.le_succ level
    exact hall.isChain

theorem nil_or_of_level (hlevel : ∀ l ∈ lines, l.indent = level) : lines = [] ∨ IsOutline level lines :=
  (Classical.em (lines = [])).imp_right fun hne => of_level hne hlevel

theorem flatMap {α : Type} {items : List α} {f : α → List Line} (hne : items ≠ [])
    (hf : ∀ item ∈ items, IsOutline level (f item)) : IsOutline level (items.flatMap f) := by
  induction items with
  | nil => exact absurd rfl hne
  | cons item items ih =>
    obtain ⟨hfirst, hrest⟩ := List.forall_mem_cons.1 hf
    rw [List.flatMap_cons]
    cases items with
    | nil => rwa [List.flatMap_nil, List.append_nil]
    | cons next items =>
      exact hfirst.append (.inr (ih (List.cons_ne_nil _ _) hrest))

end IsOutline

theorem TextDiff.isOutline (d : TextDiff) : d.reportLines = [] ∨ IsOutline 0 d.reportLines := by
  cases d with
  | absent => exact .inl rfl
  | inline segments => exact .inr (.single rfl)
  | lines changes => exact .inr (.under rfl (IsOutline.nil_or_of_level (by simp [Line.nested])))

theorem isOutline_differenceLines (differences : List Difference) (truncated : Nat) :
    differenceLines differences truncated = [] ∨ IsOutline 0 (differenceLines differences truncated) := by
  unfold differenceLines
  split
  · exact .inl rfl
  · refine .inr (.under rfl (IsOutline.nil_or_of_level ?_))
    split <;> simp [or_imp, forall_and, Line.nested, Difference.line]

theorem Comparison.isOutline (c : Comparison) : IsOutline 0 c.reportLines := by
  have hsides (left right : String) : IsOutline 0 (sideLines left right) :=
    .of_level (List.cons_ne_nil _ _) (by simp [sideLines, Line.top])
  cases c with
  | plain left right => exact hsides left right
  | nullable left right => exact hsides left right
  | text left right diff =>
    exact (hsides _ _).append diff.isOutline
  | collection left right mismatch delta =>
    refine .of_level (List.cons_ne_nil _ _) ?_
    cases mismatch <;> cases delta <;> simp [reportLines, sideLines, Mismatch.line, LengthDelta.line, Line.top]
  | object left right differences truncated =>
    exact (hsides _ _).append (isOutline_differenceLines _ _)
  | sequence lengths lines custom truncated =>
    cases lengths with
    | some lengths =>
      exact .of_level (List.cons_ne_nil _ _) (by simp [reportLines, LengthMismatch.reportLines, Line.top])
    | none =>
      refine .under rfl (IsOutline.nil_or_of_level ?_)
      split <;> simp [or_imp, forall_and, Line.nested]

namespace Result

-- The first line goes beside the label. Of the others, those on the level of the first are moved below the label, and
-- the deeper ones stay where they are.
theorem isOutline_labelled (label : String) (hlines : IsOutline 0 lines) :
    IsOutline 0 (labelled label lines) := by
  cases lines with
  | nil => exact absurd rfl hlines.ne_nil
  | cons first rest =>
    refine .under rfl ?_
    cases rest with
    | nil => exact .inl rfl
    | cons l rest =>
      obtain ⟨hfirst, hrest⟩ := List.isChain_cons_cons.1 hlines.steps
      have hzero : first.indent = 0 := Option.some.inj hlines.first
      rw [hzero, Nat.zero_add] at hfirst
      refine .inr ⟨congrArg some (Nat.max_eq_right hfirst), ?_, ?_⟩
      · exact List.forall_mem_map.2 fun l _ => Nat.le_max_right l.indent 1
      · refine (List.isChain_map _).2 (hrest.imp fun l next hstep => ?_)
        change max next.indent 1 ≤ max l.indent 1 + 1
        omega

theorem isOutline_headed (text : String) (hlines : lines = [] ∨ IsOutline 0 lines) :
    IsOutline 0 (headed false text lines) :=
  .under rfl (hlines.imp (congrArg (List.map _)) (IsOutline.deeper 1))

-- The explanations that came ready made are outlines, or there is none.
inductive Outlined : Result → Prop where
  | assertion {context : Context} {inner : Result} (hinner : Outlined inner) :
    Outlined (.assertion context inner)
  | value {text : String} {v : Value} {declared : Option DeclaredType} : Outlined (.value text v declared)
  | comparison {text : String} {op : CompareOp} {report : Comparison} {holds : Bool} :
    Outlined (.comparison text op report holds)
  | detailed {text : String} {holds : Option Bool} {lines : List Line}
    (hlines : lines = [] ∨ IsOutline 0 lines) : Outlined (.detailed text holds lines)
  | logical {junction : Junction} {text : String} {op : LogicalOp} {left : Result} {right : Option Result}
    {holds shortCircuited : Bool} (hleft : Outlined left) (hright : ∀ r, right = some r → Outlined r) :
    Outlined (.logical junction text op left right holds shortCircuited)
  | negation {text : String} {operand : Result} {operandValue holds : Option Bool}
    (hoperand : Outlined operand) : Outlined (.negation text operand operandValue holds)
  | quantified {text : String} {q : Quantifier} {total passes fails : Nat} {reportsPasses holds : Bool}
    {relevant : List (Nat × Result)} (hitems : ∀ item ∈ relevant, Outlined item.2) :
    Outlined (.quantified text q total passes fails reportsPasses relevant holds)

-- There is something to show of the node also without its text.
def HasBody : Result → Prop
  | .assertion _ inner => inner.HasBody
  | .detailed _ _ lines => lines ≠ []
  | _ => True

theorem isOutline_of_open {r : Result} {force bare : Bool}
    (hopened : r.isOpen force = true → IsOutline 0 (r.shown h output force bare)) :
    IsOutline 0 (r.shown h output force bare) := by
  by_cases hopen : r.isOpen force = true
  · exact hopened hopen
  · rw [shown_of_not_open hopen]
    exact .single rfl

theorem isOutline_operands {left : Result} {right : Option Result} (shortCircuited : Bool)
    (hleft : IsOutline 0 (left.shown h output false false))
    (hright : ∀ r, right = some r → IsOutline 0 (r.shown h output false false)) :
    IsOutline 0 (labelled "Left" (left.shown h output false false) ++
      if shortCircuited then []
      else right.elim [] fun r => labelled "Right" (r.shown h output false false)) := by
  refine (isOutline_labelled "Left" hleft).append ?_
  split
  · exact .inl rfl
  · cases right with
    | none => exact .inl rfl
    | some r => exact .inr (isOutline_labelled "Right" (hright r rfl))

theorem isOutline_items {items : List (Nat × Result)}
    (hitems : ∀ item ∈ items, IsOutline 0 (item.2.shown h output true false)) :
    let lines := items.flatMap fun item => labelled (placeLabel item.1) (item.2.shown h output true false)
    lines = [] ∨ IsOutline 0 lines := by
  by_cases hnone : items = []
  · rw [hnone]
    exact .inl rfl
  · exact .inr (.flatMap hnone fun item hitem => isOutline_labelled _ (hitems item hitem))

-- Without its own text a node may have nothing to show, and nothing is no outline.
theorem Outlined.isOutline_shown {r : Result} (hr : r.Outlined) {force bare : Bool}
    (hbody : bare = true → r.isOpen force = true → r.HasBody) : IsOutline 0 (r.shown h output force bare) := by
  have hheaded {text : String} {bare : Bool} {lines : List Line} (hlines : IsOutline 0 lines) :
      IsOutline 0 (headed bare text lines) := by
    cases bare with
    | true => exact hlines
    | false => exact isOutline_headed text (.inr hlines)
  induction hr generalizing force bare with
  | assertion _ ih =>
    rw [shown_assertion]
    exact ih hbody
  | value =>
    refine isOutline_of_open fun hopen => ?_
    rw [shown_value _ _ hopen]
    exact .single rfl
  | comparison =>
    refine isOutline_of_open fun hopen => ?_
    rw [shown_comparison hopen]
    exact hheaded (Comparison.isOutline _)
  | detailed hlines =>
    refine isOutline_of_open fun hopen => ?_
    rw [shown_detailed hopen]
    cases bare with
    | true => exact hlines.resolve_left (hbody rfl hopen)
    | false => exact isOutline_headed _ hlines
  | @logical junction text op left right holds shortCircuited _ _ ihleft ihright =>
    refine isOutline_of_open fun hopen => ?_
    rw [shown_logical hopen]
    have hoperands := isOutline_operands shortCircuited (ihleft nofun) fun r hr => ihright r hr nofun
    exact hheaded (hoperands.append (.inr (.single rfl)))
  | @negation text operand operandValue holds _ ih =>
    refine isOutline_of_open fun hopen => ?_
    rw [shown_negation hopen]
    have hoperand : IsOutline 0 (labelled "Operand" (operand.shown h output false false)) :=
      isOutline_labelled "Operand" (ih nofun)
    exact hheaded (hoperand.append (.inr (.single rfl)))
  | @quantified text q total passes fails reportsPasses holds relevant _ ih =>
    refine isOutline_of_open fun hopen => ?_
    rw [shown_quantified hopen]
    have hitems := isOutline_items fun item hitem => ih item hitem nofun
    exact hheaded (.under rfl (hitems.imp (congrArg (List.map _)) (IsOutline.deeper 1)))

end Result

end Verdict
