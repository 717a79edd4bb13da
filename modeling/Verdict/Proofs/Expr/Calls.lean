import Verdict.Expr.Calls
import Verdict.Proofs.Comparison.SequenceAsking
import Mathlib.Data.List.Forall2

namespace Verdict

-- A part or a character of a text, or an item of a sequence.
inductive Contained (h : Heap) : Value → Value → Prop where
  | part {s part : String} (hp : part.toList <:+: s.toList) : Contained h (.text s) (.text part)
  | char {s : String} {c : Char} (hc : c ∈ s.toList) : Contained h (.text s) (.char c)
  | item {items : List Value} {v w : Value} (hv : v ∈ items) (heq : v.equals h w = true) :
    Contained h (.seq items) w

-- A test that gives no answer accepts nothing; without a test every item will do.
def SomeAccepted (p : Option Predicate) (receiver : Value) : Prop :=
  ∃ items, receiver = .seq items ∧ ∃ v ∈ items, ∀ q ∈ p, q.test v = .ok true

def AllAccepted (p : Predicate) (receiver : Value) : Prop :=
  ∃ items, receiver = .seq items ∧ ∀ v ∈ items, p.test v = .ok true

def itemEquality (h : Heap) (c : Option Comparer) : ItemEquality :=
  (c.map (·.equality)).getD fun a b => .ok (a.equals h b)

def PairwiseEqual (h : Heap) (c : Option Comparer) (left right : Value) : Prop :=
  ∃ xs ys, left = .seq xs ∧ right = .seq ys ∧
    List.Forall₂ (fun x y => itemEquality h c x y = .ok true) xs ys

-- The result has a known outcome, and passes exactly when something holds.
def Result.Decides (r : Result) (holds : Prop) : Prop :=
  ∃ b, r.outcome = some b ∧ (b = true ↔ holds)

theorem Callback.holds_iff {answer : Callback Bool} : answer.holds = true ↔ answer = .ok true := by
  cases answer <;> simp [Callback.holds]

theorem Value.items?_eq_some_iff {v : Value} {items : List Value} :
    v.items? = some items ↔ v = .seq items := by
  cases v <;> simp [Value.items?]

-- Every report has both sides to show, or the lengths, or at least a heading.
theorem Comparison.reportLines_ne_nil (c : Comparison) : c.reportLines ≠ [] := by
  cases c with
  | plain | nullable | text | collection | object => exact List.cons_ne_nil _ _
  | sequence lengths lines custom truncated => cases lengths <;> exact List.cons_ne_nil _ _

namespace Call

theorem found?_eq_some_true_iff {h : Heap} {receiver item : Value} :
    found? h receiver item = some true ↔ Contained h receiver item := by
  constructor
  · intro hf
    unfold found? at hf
    split at hf
    · exact .part (occursIn_iff.1 (Option.some.inj hf))
    · exact .char (List.contains_iff_mem.1 (Option.some.inj hf))
    · obtain ⟨v, hv, heq⟩ := List.any_eq_true.1 (Option.some.inj hf)
      exact .item hv heq
    · cases hf
  · intro hc
    cases hc with
    | part hp => simpa [found?] using occursIn_iff.2 hp
    | char hc => simpa [found?] using hc
    | item hv heq =>
      exact congrArg some (List.any_eq_true.2 ⟨_, hv, heq⟩)

theorem decides_passing {holds : Prop} (text : String) (h : holds) :
    (passing text).Decides holds :=
  ⟨true, rfl, iff_of_true rfl h⟩

theorem decides_failing {holds : Prop} (text : String) (lines : List Line) (h : ¬holds) :
    (failing text lines).Decides holds :=
  ⟨false, rfl, iff_of_false Bool.false_ne_true h⟩

theorem decides_contains (h : Heap) (config : Config) (text : String) (receiver item : Value) :
    (contains h config text receiver item).Decides (Contained h receiver item) := by
  unfold contains
  rw [← found?_eq_some_true_iff]
  split
  · rename_i hf
    exact decides_failing _ _ (by simp [hf])
  · rename_i hf
    exact decides_passing _ hf
  · rename_i hf
    exact decides_failing _ _ (by simp [hf])

theorem ne_seq_of_items?_eq_none {v : Value} (hv : v.items? = none) (items : List Value) :
    v ≠ .seq items := by
  rintro rfl
  cases hv

theorem decides_any (h : Heap) (config : Config) (text : String) (receiver : Value)
    (p : Option Predicate) :
    (any h config text receiver p).Decides (SomeAccepted p receiver) := by
  unfold any
  split
  · rename_i hitems
    refine decides_failing _ _ ?_
    rintro ⟨items, hseq, -⟩
    exact ne_seq_of_items?_eq_none hitems items hseq
  · rename_i items hitems
    obtain rfl := Value.items?_eq_some_iff.1 hitems
    cases items with
    | nil => exact decides_failing _ _ (by simp [SomeAccepted])
    | cons v vs => exact decides_passing _ ⟨v :: vs, rfl, v, List.mem_cons_self, by simp⟩
  · rename_i items q hitems
    obtain rfl := Value.items?_eq_some_iff.1 hitems
    have hiff : items.any q.accepts = true ↔ SomeAccepted (some q) (.seq items) := by
      simp [SomeAccepted, Predicate.accepts, Callback.holds_iff]
    split
    · rename_i hany
      exact decides_passing _ (hiff.1 hany)
    · rename_i hany
      exact decides_failing _ _ fun h => hany (hiff.2 h)

theorem offenders_eq_nil_iff {p : Predicate} {items : List Value} :
    offenders p items = [] ↔ ∀ v ∈ items, p.test v = .ok true := by
  simp only [offenders, List.map_eq_nil_iff, List.filter_eq_nil_iff, Bool.not_eq_true',
    Bool.not_eq_false, Predicate.accepts, Callback.holds_iff]
  constructor
  · intro h v hv
    obtain ⟨i, hi, rfl⟩ := List.getElem_of_mem hv
    exact h (items[i], i) (List.mk_mem_zipIdx_iff_getElem?.2 (List.getElem?_eq_getElem hi))
  · intro h i hi
    exact h i.1 (List.fst_mem_of_mem_zipIdx hi)

theorem decides_all (h : Heap) (config : Config) (text : String) (receiver : Value)
    (p : Predicate) : (all h config text receiver p).Decides (AllAccepted p receiver) := by
  unfold all
  split
  · rename_i hitems
    refine decides_failing _ _ ?_
    rintro ⟨items, hseq, -⟩
    exact ne_seq_of_items?_eq_none hitems items hseq
  · rename_i items hitems
    obtain rfl := Value.items?_eq_some_iff.1 hitems
    have hiff : offenders p items = [] ↔ AllAccepted p (.seq items) := by
      simp [offenders_eq_nil_iff, AllAccepted]
    dsimp only
    split
    · rename_i hnone
      exact decides_passing _ (hiff.1 (List.isEmpty_iff.1 hnone))
    · rename_i hsome
      exact decides_failing _ _ fun h => hsome (List.isEmpty_iff.2 (hiff.2 h))

theorem itemsEqual_cons_iff {eq : ItemEquality} {x y : Value} {xs ys : List Value} :
    itemsEqual eq (x :: xs) (y :: ys) = true ↔ eq x y = .ok true ∧ itemsEqual eq xs ys = true := by
  rw [itemsEqual, itemsEqual, askPrefix_cons]
  cases eq x y with
  | error f => simp
  | ok b =>
    cases b with
    | false => simp
    | true => cases askPrefix eq xs ys <;> simp [Except.map]

-- Asked from left to right, all answers are yes exactly when each pair's answer is.
theorem itemsEqual_iff {eq : ItemEquality} {left right : List Value} :
    itemsEqual eq left right = true ↔ List.Forall₂ (fun x y => eq x y = .ok true) left right := by
  induction left generalizing right with
  | nil =>
    cases right with
    | nil => exact iff_of_true rfl .nil
    | cons y ys => simp [itemsEqual]
  | cons x xs ih =>
    cases right with
    | nil => simp [itemsEqual]
    | cons y ys => rw [itemsEqual_cons_iff, ih, List.forall₂_cons]

-- The test passes if all pairs are equal. If not it fails, with lines to show, unless the report on it breaks off over
-- its context.
theorem sequenceEqual_cases (h : Heap) (config : Config) (text : String) (left right : Value)
    (c : Option Comparer) :
    let answer := sequenceEqual h config text left right c
    (PairwiseEqual h c left right ∧ answer = .ok (passing text)) ∨
      ¬PairwiseEqual h c left right ∧ ((∃ lines, lines ≠ [] ∧ answer = .ok (failing text lines)) ∨
        ¬config.HoldsContext ∧ answer = .error capacityOverflow) := by
  dsimp only
  unfold sequenceEqual
  split
  · rename_i xs ys hleft hright
    obtain rfl := Value.items?_eq_some_iff.1 hleft
    obtain rfl := Value.items?_eq_some_iff.1 hright
    have hiff : itemsEqual (itemEquality h c) xs ys = true ↔ PairwiseEqual h c (.seq xs) (.seq ys) := by
      simp [itemsEqual_iff, PairwiseEqual]
    split
    · rename_i heq
      exact .inl ⟨hiff.1 heq, rfl⟩
    · rename_i hne
      refine .inr ⟨fun heq => hne (hiff.2 heq), ?_⟩
      cases hreport : compareSequences h config (c.map (·.equality)) xs ys with
      | ok report => exact .inl ⟨report.reportLines, report.reportLines_ne_nil, rfl⟩
      | error f =>
        obtain ⟨-, hlarge, rfl⟩ := compareSequences_eq_error config hreport
        exact .inr ⟨hlarge, rfl⟩
  · rename_i hright
    refine .inr ⟨?_, .inl ⟨_, List.cons_ne_nil _ _, rfl⟩⟩
    rintro ⟨_, ys, -, hseq, -⟩
    exact ne_seq_of_items?_eq_none hright ys hseq
  · rename_i hleft
    refine .inr ⟨?_, .inl ⟨_, List.cons_ne_nil _ _, rfl⟩⟩
    rintro ⟨xs, _, hseq, -⟩
    exact ne_seq_of_items?_eq_none hleft xs hseq

theorem decides_of_sequenceEqual {h : Heap} {config : Config} {text : String} {left right : Value}
    {c : Option Comparer} {r : Result} (hr : sequenceEqual h config text left right c = .ok r) :
    r.Decides (PairwiseEqual h c left right) := by
  obtain ⟨heq, hok⟩ | ⟨hne, ⟨lines, -, hok⟩ | ⟨-, herror⟩⟩ := sequenceEqual_cases h config text left right c
  · rw [hok] at hr
    cases hr
    exact decides_passing text heq
  · rw [hok] at hr
    cases hr
    exact decides_failing text lines hne
  · rw [herror] at hr
    cases hr

theorem exists_passing_sequenceEqual_iff {h : Heap} {config : Config} {text : String} {left right : Value}
    {c : Option Comparer} :
    (∃ r, sequenceEqual h config text left right c = .ok r ∧ r.passed = true) ↔
      PairwiseEqual h c left right := by
  constructor
  · rintro ⟨r, hr, hpassed⟩
    obtain ⟨b, hout, hb⟩ := decides_of_sequenceEqual hr
    rw [Result.passed, hout] at hpassed
    exact hb.1 (by simpa using hpassed)
  · intro hequal
    obtain ⟨-, hok⟩ | ⟨hne, -⟩ := sequenceEqual_cases h config text left right c
    · exact ⟨_, hok, rfl⟩
    · exact absurd hequal hne

theorem sequenceEqual_eq_error {h : Heap} {config : Config} {text : String} {left right : Value}
    {c : Option Comparer} {f : Fault} (hf : sequenceEqual h config text left right c = .error f) :
    ¬config.HoldsContext ∧ f = capacityOverflow := by
  obtain ⟨-, hok⟩ | ⟨-, ⟨lines, -, hok⟩ | ⟨hlarge, herror⟩⟩ :=
    sequenceEqual_cases h config text left right c
  · rw [hok] at hf
    cases hf
  · rw [hok] at hf
    cases hf
  · rw [herror] at hf
    exact ⟨hlarge, (Except.error.inj hf).symm⟩

theorem exists_sequenceEqual {config : Config} (hholds : config.HoldsContext) (h : Heap) (text : String)
    (left right : Value) (c : Option Comparer) :
    ∃ r, sequenceEqual h config text left right c = .ok r := by
  obtain ⟨-, hok⟩ | ⟨-, ⟨lines, -, hok⟩ | ⟨hlarge, -⟩⟩ := sequenceEqual_cases h config text left right c
  · exact ⟨_, hok⟩
  · exact ⟨_, hok⟩
  · exact absurd hholds hlarge

end Call

end Verdict
