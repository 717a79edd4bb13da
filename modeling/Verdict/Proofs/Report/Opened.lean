import Verdict.Proofs.Report.Rendering
import Mathlib.Logic.Basic

namespace Verdict

variable {h : Heap} {config : OutputConfig} {α β : Type}

theorem KeepsText.run_bind {p : StateM Bool α} (hp : KeepsText p) (next : α → StateM Bool β) :
    (p >>= next).run false = (next (p.run false).1).run false := by
  have hrun : (p >>= next).run false = (next (p.run false).1).run (p.run false).2 := rfl
  rw [hrun, show (p.run false).2 = false from hp]

-- The lines stand in a report one after the other, all of them equally much deeper.
def StandsIn (lines report : List Line) : Prop :=
  ∃ depth front back, report = front ++ lines.map (·.deeper depth) ++ back

namespace StandsIn

variable {lines report whole front back : List Line}

theorem deeper_zero (lines : List Line) : lines.map (·.deeper 0) = lines := by
  refine (List.map_congr_left fun l _ => ?_).trans (List.map_id lines)
  rw [Line.deeper, Nat.zero_add]
  rfl

theorem deeper_deeper (m n : Nat) (lines : List Line) :
    (lines.map (·.deeper n)).map (·.deeper m) = lines.map (·.deeper (m + n)) := by
  rw [List.map_map]
  refine List.map_congr_left fun l _ => ?_
  simp only [Function.comp_apply, Line.deeper, Nat.add_assoc]

theorem between (lines front back : List Line) : StandsIn lines (front ++ lines ++ back) :=
  ⟨0, front, back, by rw [deeper_zero]⟩

theorem refl (lines : List Line) : StandsIn lines lines := by
  have hall := between lines [] []
  rwa [List.nil_append, List.append_nil] at hall

theorem cons (l : Line) (lines : List Line) : StandsIn lines (l :: lines) := by
  have hall := between lines [l] []
  rwa [List.append_nil] at hall

theorem tail (lines : List Line) : StandsIn lines.tail lines := by
  cases lines with
  | nil => exact refl []
  | cons l lines => exact cons l lines

theorem of_mem_flatMap {γ : Type} {items : List γ} {item : γ} (f : γ → List Line) (hitem : item ∈ items) :
    StandsIn (f item) (items.flatMap f) := by
  obtain ⟨front, back, rfl⟩ := List.append_of_mem hitem
  rw [List.flatMap_append, List.flatMap_cons, ← List.append_assoc]
  exact between _ _ _

theorem deeper (lines : List Line) (n : Nat) : StandsIn lines (lines.map (·.deeper n)) :=
  ⟨n, [], [], by rw [List.nil_append, List.append_nil]⟩

theorem trans (hlines : StandsIn lines report) (hreport : StandsIn report whole) :
    StandsIn lines whole := by
  obtain ⟨depth, front, back, rfl⟩ := hlines
  obtain ⟨depth', front', back', rfl⟩ := hreport
  refine ⟨depth' + depth, front' ++ front.map (·.deeper depth'), back.map (·.deeper depth') ++ back', ?_⟩
  simp only [List.map_append, deeper_deeper, List.append_assoc]

end StandsIn

namespace Result

-- The lines of a node, forced open or not, with or without its own text.
def shown (h : Heap) (config : OutputConfig) (force bare : Bool) (r : Result) : List Line :=
  ((r.rendered h config force).run bare).1

-- One that passed is no more than `True`, unless it is forced open.
def isOpen (force : Bool) (r : Result) : Bool := !(r.passed && !force)

def IsLeaf : Result → Prop
  | .value .. | .comparison .. | .detailed .. => True
  | .assertion .. | .logical .. | .negation .. | .quantified .. => False

-- The nodes that are rendered for an opened one, each with whether it is forced open.
def parts (force : Bool) : Result → List (Bool × Result)
  | .assertion _ inner => [(force, inner)]
  | .logical _ _ _ left right _ shortCircuited =>
    (false, left) :: if shortCircuited then [] else right.toList.map (false, ·)
  | .negation _ operand _ _ => [(false, operand)]
  | .quantified _ _ _ _ _ _ relevant _ => relevant.map fun item => (true, item.2)
  | .value .. | .comparison .. | .detailed .. => []

theorem IsLeaf.parts_eq_nil {r : Result} (hr : r.IsLeaf) (force : Bool) : r.parts force = [] := by
  match r with
  | .value .. | .comparison .. | .detailed .. => rfl
  | .assertion .. | .logical .. | .negation .. | .quantified .. => cases hr

theorem eq_of_mem_parts_logical {junction : Junction} {text : String} {op : LogicalOp} {left p : Result}
    {right : Option Result} {value shortCircuited force force' : Bool}
    (hp : (force', p) ∈ (Result.logical junction text op left right value shortCircuited).parts force) :
    p = left ∨ right = some p := by
  rcases List.mem_cons.1 hp with hleft | hright
  · exact .inl (Prod.mk.inj hleft).2
  · cases shortCircuited with
    | true => cases hright
    | false =>
      obtain ⟨r, hr, hpair⟩ := List.mem_map.1 hright
      rw [← (Prod.mk.inj hpair).2]
      exact .inr (Option.mem_toList.1 hr)

theorem eq_of_mem_parts_negation {text : String} {operand p : Result} {operandValue value : Option Bool}
    {force force' : Bool}
    (hp : (force', p) ∈ (Result.negation text operand operandValue value).parts force) : p = operand :=
  (Prod.mk.inj (List.mem_singleton.1 hp)).2

-- The nodes that are opened when a result is rendered, each with whether it was forced open.
inductive Opened (root : Result) : Bool → Result → Prop where
  | root (hopen : root.isOpen false = true) : Opened root false root
  | part {force force' : Bool} {n p : Result} (hn : Opened root force n)
    (hp : (force', p) ∈ n.parts force) (hopen : p.isOpen force' = true) : Opened root force' p

section

variable {force bare : Bool} {text : String}

theorem isOpen_iff {r : Result} : r.isOpen force = true ↔ ¬(r.passed && !force) = true := by
  rw [isOpen, Bool.not_eq_true', Bool.not_eq_true]

theorem shown_of_not_open {r : Result} (hclosed : ¬r.isOpen force = true) :
    r.shown h config force bare = [.top "True"] := by
  rw [shown, run_of_passed (not_not.1 (isOpen_iff.not.1 hclosed))]

theorem shown_assertion (context : Context) (inner : Result) :
    (Result.assertion context inner).shown h config force bare = inner.shown h config force bare :=
  congrArg Prod.fst (run_assertion context inner force bare)

theorem run_right (right : Option Result) :
    ((renderedRight h config right).run false).1 =
      right.elim [] fun r => labelled "Right" (r.shown h config false false) := by
  cases right <;> rfl

theorem run_items (items : List (Nat × Result)) :
    ((renderedItems h config items).run false).1 =
      items.flatMap fun item => labelled (placeLabel item.1) (item.2.shown h config true false) := by
  induction items with
  | nil => rfl
  | cons item items ih =>
    rw [renderedItems, KeepsText.run_bind (bare_rendered true false item.2),
      KeepsText.run_bind (keepsText_items items), ih]
    rfl

theorem shown_value (v : Value) (d : Option DeclaredType)
    (hopen : (Result.value text v d).isOpen force = true) :
    (Result.value text v d).shown h config force bare = [.top (shownValue h config v)] := by
  rw [shown, rendered]
  change ((if _ then _ else _ : StateM Bool (List Line)).run false).1 = _
  rw [if_neg (isOpen_iff.1 hopen)]
  rfl

theorem shown_logical {junction : Junction} {op : LogicalOp} {left : Result} {right : Option Result}
    {value shortCircuited : Bool}
    (hopen : (Result.logical junction text op left right value shortCircuited).isOpen force = true) :
    (Result.logical junction text op left right value shortCircuited).shown h config force bare =
      headed bare text (labelled "Left" (left.shown h config false false) ++
        (if shortCircuited then [] else
          right.elim [] fun r => labelled "Right" (r.shown h config false false)) ++
        [.top (junctionLabel junction op ++ ": " ++
          explanation op left.passed (right.any (·.passed)))]) := by
  rw [shown, rendered]
  change ((if _ then _ else _ : StateM Bool (List Line)).run false).1 = _
  rw [if_neg (isOpen_iff.1 hopen), KeepsText.run_bind (bare_rendered false false left)]
  cases shortCircuited with
  | true => rfl
  | false =>
    rw [if_neg Bool.false_ne_true, if_neg Bool.false_ne_true, KeepsText.run_bind (keepsText_right right),
      run_right]
    rfl

theorem shown_negation {operand : Result} {operandValue value : Option Bool}
    (hopen : (Result.negation text operand operandValue value).isOpen force = true) :
    (Result.negation text operand operandValue value).shown h config force bare =
      headed bare text (labelled "Operand" (operand.shown h config false false) ++
        [.top ("!: Operand was " ++ operandText operandValue)]) := by
  rw [shown, rendered]
  change ((if _ then _ else _ : StateM Bool (List Line)).run false).1 = _
  rw [if_neg (isOpen_iff.1 hopen), KeepsText.run_bind (bare_rendered false false operand)]
  rfl

theorem shown_quantified {q : Quantifier} {total passes fails : Nat} {reportsPasses value : Bool}
    {relevant : List (Nat × Result)}
    (hopen : (Result.quantified text q total passes fails reportsPasses relevant value).isOpen force = true) :
    (Result.quantified text q total passes fails reportsPasses relevant value).shown h config force bare =
      headed bare text (.top (summary q total relevant.length reportsPasses) ::
        (relevant.flatMap fun item =>
          labelled (placeLabel item.1) (item.2.shown h config true false)).map (·.deeper 1)) := by
  rw [shown, rendered]
  change ((if _ then _ else _ : StateM Bool (List Line)).run false).1 = _
  rw [if_neg (isOpen_iff.1 hopen), KeepsText.run_bind (keepsText_items relevant), run_items]
  rfl

theorem shown_comparison {op : CompareOp} {report : Comparison} {value : Bool}
    (hopen : (Result.comparison text op report value).isOpen force = true) :
    (Result.comparison text op report value).shown h config force bare =
      headed bare text report.reportLines := by
  rw [shown, rendered]
  change ((if _ then _ else _ : StateM Bool (List Line)).run false).1 = _
  rw [if_neg (isOpen_iff.1 hopen)]
  rfl

theorem shown_detailed {value : Option Bool} {detail : List Line}
    (hopen : (Result.detailed text value detail).isOpen force = true) :
    (Result.detailed text value detail).shown h config force bare = headed bare text detail := by
  rw [shown, rendered]
  change ((if _ then _ else _ : StateM Bool (List Line)).run false).1 = _
  rw [if_neg (isOpen_iff.1 hopen)]
  rfl

end

-- A node that shows its own text has a first line, and all others are at least one level below it.
theorem exists_shown_eq_cons (h : Heap) (config : OutputConfig) (force : Bool) (r : Result) :
    ∃ first rest, r.shown h config force false = first :: rest ∧ ∀ l ∈ rest, 1 ≤ l.indent := by
  have hheaded (text : String) (lines : List Line) :
      ∃ first rest, headed false text lines = first :: rest ∧ ∀ l ∈ rest, 1 ≤ l.indent :=
    ⟨_, _, rfl, List.forall_mem_map.2 fun l _ => Nat.le_add_right 1 l.indent⟩
  by_cases hopen : r.isOpen force = true
  · match r with
    | .assertion context inner =>
      rw [shown_assertion]
      exact exists_shown_eq_cons h config force inner
    | .value text v d => exact ⟨_, [], shown_value v d hopen, nofun⟩
    | .logical .. => exact shown_logical hopen ▸ hheaded _ _
    | .negation .. => exact shown_negation hopen ▸ hheaded _ _
    | .comparison .. => exact shown_comparison hopen ▸ hheaded _ _
    | .detailed .. => exact shown_detailed hopen ▸ hheaded _ _
    | .quantified .. => exact shown_quantified hopen ▸ hheaded _ _
  · exact ⟨_, [], shown_of_not_open hopen, nofun⟩

-- A label stands beside the first line, and leaves the others where they are.
theorem exists_labelled (h : Heap) (config : OutputConfig) (label : String) (force : Bool) (r : Result) :
    ∃ first rest, r.shown h config force false = first :: rest ∧
      labelled label (r.shown h config force false) = ⟨0, label ++ ": " ++ first.text⟩ :: rest := by
  obtain ⟨first, rest, hshown, hindent⟩ := exists_shown_eq_cons h config force r
  have hrest : rest.map (fun l : Line => ⟨max l.indent 1, l.text⟩) = rest := by
    refine (List.map_congr_left fun l hl => ?_).trans (List.map_id rest)
    rw [Nat.max_eq_left (hindent l hl)]
    rfl
  refine ⟨first, rest, hshown, ?_⟩
  rw [hshown, labelled, hrest]
  rfl

theorem standsIn_labelled (label : String) (force : Bool) (r : Result) :
    StandsIn (r.shown h config force false).tail (labelled label (r.shown h config force false)) := by
  obtain ⟨first, rest, hshown, hlabelled⟩ := exists_labelled h config label force r
  rw [hlabelled, hshown]
  exact .cons _ _

-- Under its own text, if it has to show it, the node prints these lines, and they stand in the report.
structure Prints (h : Heap) (config : OutputConfig) (report : List Line) (force : Bool) (n : Result)
    (text : String) (lines : List Line) : Prop where
  shown_eq : ∀ bare, n.shown h config force bare = headed bare text lines
  standsIn : StandsIn lines report

-- The outermost opened node may print its lines without its own text, any other one has it in its first line.
def Placed (h : Heap) (config : OutputConfig) (report : List Line) (force : Bool) (n : Result) : Prop :=
  StandsIn (n.shown h config force true) report ∨ StandsIn (n.shown h config force false).tail report

section

variable {report lines : List Line} {force : Bool} {n p : Result} {text : String}

theorem Placed.prints (hn : n.Placed h config report force)
    (hshown : ∀ bare, n.shown h config force bare = headed bare text lines) :
    n.Prints h config report force text lines := by
  refine ⟨hshown, ?_⟩
  rw [Placed, hshown, hshown] at hn
  rcases hn with hbare | htail
  · exact hbare
  · exact (StandsIn.deeper lines 1).trans htail

theorem Prints.placed {force' : Bool} (hn : n.Prints h config report force text lines) (label : String)
    (hp : StandsIn (labelled label (p.shown h config force' false)) lines) :
    p.Placed h config report force' :=
  .inr (((standsIn_labelled label force' p).trans hp).trans hn.standsIn)

theorem Opened.isOpen {root : Result} (hn : root.Opened force n) : n.isOpen force = true := by
  cases hn <;> assumption

-- What holds of a result and is handed on to the parts holds of all that is opened.
theorem Opened.of_root {root : Result} {P : Result → Prop} (hroot : P root)
    (hparts : ∀ {force force' : Bool} {n p : Result}, P n → (force', p) ∈ n.parts force → P p)
    (hn : root.Opened force n) : P n := by
  induction hn with
  | root => exact hroot
  | part _ hp _ ih => exact hparts ih hp

theorem Opened.placed {root : Result} {bare : Bool} (hn : root.Opened force n) :
    n.Placed h config (root.shown h config false bare) force := by
  induction hn with
  | root =>
    cases bare with
    | true => exact .inl (.refl _)
    | false => exact .inr (.tail _)
  | @part force force' n p hn hp _ ih =>
    have hopen := hn.isOpen
    match n with
    | .assertion context inner =>
      obtain ⟨rfl, rfl⟩ := Prod.mk.inj (List.mem_singleton.1 hp)
      rw [Placed, shown_assertion, shown_assertion] at ih
      exact ih
    | .logical junction text op left right holds shortCircuited =>
      have hprints := ih.prints fun bare => shown_logical hopen
      rcases List.mem_cons.1 hp with hleft | hright
      · obtain ⟨rfl, rfl⟩ := Prod.mk.inj hleft
        have hfirst := StandsIn.between (labelled "Left" (p.shown h config false false)) []
        rw [List.append_assoc] at hprints
        exact hprints.placed "Left" (hfirst _)
      · cases shortCircuited with
        | true => cases hright
        | false =>
          cases right with
          | none => cases hright
          | some right =>
            obtain ⟨rfl, rfl⟩ := Prod.mk.inj (List.mem_singleton.1 hright)
            exact hprints.placed "Right" (.between _ _ _)
    | .negation text operand operandValue holds =>
      obtain ⟨rfl, rfl⟩ := Prod.mk.inj (List.mem_singleton.1 hp)
      exact (ih.prints fun bare => shown_negation hopen).placed "Operand" (.between _ [] _)
    | .quantified text q total passes fails reportsPasses relevant holds =>
      obtain ⟨item, hitem, hpair⟩ := List.mem_map.1 hp
      obtain ⟨rfl, rfl⟩ := Prod.mk.inj hpair
      have hprints := ih.prints fun bare => shown_quantified hopen
      have hlines := StandsIn.of_mem_flatMap
        (fun item => labelled (placeLabel item.1) (item.2.shown h config true false)) hitem
      exact hprints.placed (placeLabel item.1) ((hlines.trans (.deeper _ 1)).trans (.cons _ _))
    | .value .. | .comparison .. | .detailed .. => cases hp

end

end Result

end Verdict
