import Verdict.Comparison.Sequences
import Mathlib.Data.List.ProdSigma
import Mathlib.Logic.Basic

namespace Verdict

variable {α β ε : Type}

-- The answer is `a`, unless something makes it break off.
structure AnswersUnless (answer : Except ε α) (breaks : Prop) (a : α) : Prop where
  breaks_off : breaks → ∃ f, answer = .error f
  answers : ¬breaks → answer = .ok a

theorem answersUnless_pure (a : α) : AnswersUnless (.ok a : Except ε α) False a :=
  ⟨False.elim, fun _ => rfl⟩

theorem AnswersUnless.bind {answer : Except ε α} {next : α → Except ε β} {p q : Prop} {a : α} {b : β}
    (hanswer : AnswersUnless answer p a) (hnext : AnswersUnless (next a) q b) :
    AnswersUnless (answer >>= next) (p ∨ q) b := by
  constructor
  · intro hpq
    by_cases hp : p
    · obtain ⟨f, hf⟩ := hanswer.breaks_off hp
      exact ⟨f, by rw [hf]; rfl⟩
    · obtain ⟨f, hf⟩ := hnext.breaks_off (hpq.resolve_left hp)
      exact ⟨f, by rw [hanswer.answers hp]; exact hf⟩
  · intro hpq
    obtain ⟨hp, hq⟩ := not_or.1 hpq
    rw [hanswer.answers hp]
    exact hnext.answers hq

theorem AnswersUnless.map {answer : Except ε α} {p : Prop} {a : α} (hanswer : AnswersUnless answer p a)
    (f : α → β) : AnswersUnless (answer.map f) p (f a) := by
  constructor
  · intro hp
    obtain ⟨e, he⟩ := hanswer.breaks_off hp
    exact ⟨e, by rw [he]; rfl⟩
  · intro hp
    rw [hanswer.answers hp]
    rfl

theorem AnswersUnless.congr {answer : Except ε α} {p q : Prop} {a : α}
    (hanswer : AnswersUnless answer p a) (hpq : p ↔ q) : AnswersUnless answer q a :=
  ⟨fun hq => hanswer.breaks_off (hpq.2 hq), fun hq => hanswer.answers fun hp => hq (hpq.1 hp)⟩

theorem AnswersUnless.returned {answer : Except ε α} {p : Prop} {a : α}
    (hanswer : AnswersUnless answer p a) (f : α → β) :
    AnswersUnless (do return f (← answer)) p (f a) :=
  (hanswer.bind (answersUnless_pure (f a))).congr (or_iff_left id)

def BreaksOn (ask : α → α → Except ε Bool) (pairs : List (α × α)) : Prop :=
  ∃ p ∈ pairs, ∃ f, ask p.1 p.2 = .error f

section

variable {ask : α → α → Except ε Bool} {x y : α} {pairs pairs' : List (α × α)}

theorem not_breaksOn_nil : ¬BreaksOn ask [] := by
  rintro ⟨p, hp, -⟩
  cases hp

theorem not_breaksOn_of_answers {eq : α → α → Bool} (hanswers : ∀ x y, ask x y = .ok (eq x y)) :
    ¬BreaksOn ask pairs := by
  rintro ⟨p, -, f, hf⟩
  rw [hanswers] at hf
  cases hf

theorem breaksOn_cons_iff :
    BreaksOn ask ((x, y) :: pairs) ↔ (∃ f, ask x y = .error f) ∨ BreaksOn ask pairs := by
  simp [BreaksOn]

theorem breaksOn_append_iff :
    BreaksOn ask (pairs ++ pairs') ↔ BreaksOn ask pairs ∨ BreaksOn ask pairs' := by
  simp [BreaksOn, or_and_right, exists_or]

end

-- A question that breaks off counts as answered with no.
def answersYes (ask : α → α → Except ε Bool) (x y : α) : Bool :=
  match ask x y with
  | .ok b => b
  | .error _ => false

-- The pairs along two lists up to the first that is not answered with yes.
def scannedPairs (eq : α → α → Bool) (left right : List α) : List (α × α) :=
  (left.zip right).take (commonPrefix eq left right + 1)

-- Asked from the front, and from the end of what follows the common beginning.
def endPairs (eq : α → α → Bool) (left right : List α) : List (α × α) :=
  let before := commonPrefix eq left right
  scannedPairs eq left right ++ scannedPairs eq (left.drop before).reverse (right.drop before).reverse

-- Asked for a script: both ends, and every pair of the parts in between.
def scriptPairs (eq : α → α → Bool) (left right : List α) : List (α × α) :=
  let part := changedPart eq left right
  endPairs eq left right ++ part.left ×ˢ part.right

-- The window for a diff, under an equality that always answers.
def windowOf (config : Config) (eq : Value → Value → Bool) (left right : List Value) : DiffWindow :=
  let before := commonPrefix eq left right
  .of config left.length before (commonSuffix eq (left.drop before) (right.drop before))

-- Asked for a report: both ends of the sequences, and what the script for the window asks.
def reportPairs (config : Config) (eq : Value → Value → Bool) (left right : List Value) :
    List (Value × Value) :=
  let window := windowOf config eq left right
  endPairs eq left right ++ scriptPairs eq (window.part left) (window.part right)

section

variable {eq : α → α → Bool} {x y : α} (left right : List α)

theorem scannedPairs_cons_of_eq (h : eq x y = true) :
    scannedPairs eq (x :: left) (y :: right) = (x, y) :: scannedPairs eq left right := by
  rw [scannedPairs, commonPrefix_cons_of_eq h, List.zip_cons_cons, List.take_succ_cons, scannedPairs]

theorem scannedPairs_cons_of_ne (h : ¬eq x y = true) :
    scannedPairs eq (x :: left) (y :: right) = [(x, y)] := by
  rw [scannedPairs, commonPrefix_cons_of_ne h, List.zip_cons_cons, List.take_succ_cons, List.take_zero]

end

theorem answersUnless_askPrefix (ask : α → α → Except ε Bool) (left right : List α) :
    AnswersUnless (askPrefix ask left right) (BreaksOn ask (scannedPairs (answersYes ask) left right))
      (commonPrefix (answersYes ask) left right) := by
  induction left generalizing right with
  | nil =>
    refine AnswersUnless.congr ?_ (iff_of_false id not_breaksOn_nil)
    cases right <;> exact answersUnless_pure 0
  | cons x left ih =>
    cases right with
    | nil => exact (answersUnless_pure 0).congr (iff_of_false id not_breaksOn_nil)
    | cons y right =>
      rw [askPrefix_cons]
      cases hask : ask x y with
      | error f =>
        have hbreaks : BreaksOn ask (scannedPairs (answersYes ask) (x :: left) (y :: right)) := by
          rw [scannedPairs_cons_of_ne left right (by simp [answersYes, hask]), breaksOn_cons_iff]
          exact .inl ⟨f, hask⟩
        exact ⟨fun _ => ⟨f, rfl⟩, fun hnot => absurd hbreaks hnot⟩
      | ok b =>
        have hgoes : ¬∃ f, ask x y = .error f := by simp [hask]
        cases b with
        | false =>
          have hno : ¬answersYes ask x y = true := by simp [answersYes, hask]
          rw [scannedPairs_cons_of_ne left right hno, commonPrefix_cons_of_ne hno, breaksOn_cons_iff,
            or_iff_right hgoes]
          exact (answersUnless_pure 0).congr (iff_of_false id not_breaksOn_nil)
        | true =>
          have hyes : answersYes ask x y = true := by simp [answersYes, hask]
          rw [scannedPairs_cons_of_eq left right hyes, commonPrefix_cons_of_eq hyes, breaksOn_cons_iff,
            or_iff_right hgoes]
          exact (ih right).map (· + 1)

theorem answersUnless_forM {items : List α} {next : α → Except ε Unit} {breaks : α → Prop}
    (hnext : ∀ x ∈ items, AnswersUnless (next x) (breaks x) ()) :
    AnswersUnless (items.forM next) (∃ x ∈ items, breaks x) () := by
  induction items with
  | nil => exact (answersUnless_pure ()).congr (by simp)
  | cons x items ih =>
    obtain ⟨hx, hitems⟩ := List.forall_mem_cons.1 hnext
    exact (hx.bind (ih hitems)).congr (by simp)

theorem answersUnless_discard (answer : Except ε α) :
    AnswersUnless (discard answer) (∃ f, answer = .error f) () := by
  cases answer with
  | ok a => exact (answersUnless_pure ()).congr (iff_of_false id nofun)
  | error f => exact ⟨fun _ => ⟨f, rfl⟩, fun hnot => absurd ⟨f, rfl⟩ hnot⟩

-- Every pair of the table is asked about.
theorem answersUnless_table (ask : α → α → Except ε Bool) (left right : List α) :
    AnswersUnless (left.forM fun x => right.forM fun y => discard (ask x y))
      (BreaksOn ask (left ×ˢ right)) () := by
  refine (answersUnless_forM fun x _ => answersUnless_forM fun y _ =>
    answersUnless_discard (ask x y)).congr ?_
  constructor
  · rintro ⟨x, hx, y, hy, f, hf⟩
    exact ⟨(x, y), List.mem_product.2 ⟨hx, hy⟩, f, hf⟩
  · rintro ⟨⟨x, y⟩, hp, f, hf⟩
    obtain ⟨hx, hy⟩ := List.mem_product.1 hp
    exact ⟨x, hx, y, hy, f, hf⟩

theorem answersUnless_editsAsking (ask : α → α → Except ε Bool) (left right : List α) :
    AnswersUnless (editsAsking ask left right) (BreaksOn ask (scriptPairs (answersYes ask) left right))
      (edits (answersYes ask) left right) := by
  let before := commonPrefix (answersYes ask) left right
  let part := changedPart (answersYes ask) left right
  have hfront := answersUnless_askPrefix ask left right
  have hback := answersUnless_askPrefix ask (left.drop before).reverse (right.drop before).reverse
  have htable := answersUnless_table ask part.left part.right
  refine (hfront.bind (hback.bind (htable.returned fun _ => edits (answersYes ask) left right))).congr ?_
  rw [scriptPairs, endPairs, breaksOn_append_iff, breaksOn_append_iff, or_assoc]

theorem answersUnless_diffWindow (config : Config) (ask : Value → Value → Except ε Bool)
    (left right : List Value) :
    AnswersUnless (diffWindow config ask left right)
      (BreaksOn ask (endPairs (answersYes ask) left right)) (windowOf config (answersYes ask) left right) := by
  let before := commonPrefix (answersYes ask) left right
  have hfront := answersUnless_askPrefix ask left right
  have hback := answersUnless_askPrefix ask (left.drop before).reverse (right.drop before).reverse
  refine (hfront.bind (hback.returned (DiffWindow.of config left.length before))).congr ?_
  rw [endPairs, breaksOn_append_iff]

section

variable {h : Heap} (config : Config) {comparer : Option ItemEquality} {left right : List Value}

-- The equality that items are compared by.
def equalityOf (h : Heap) (comparer : Option ItemEquality) : ItemEquality :=
  comparer.getD fun a b => .ok (a.equals h b)

-- What a diff of two sequences of equal length is made of.
theorem answersUnless_diff (h : Heap) (config : Config) (ask : ItemEquality)
    (left right : List Value) :
    let window := windowOf config (answersYes ask) left right
    AnswersUnless (do
        let window ← diffWindow config ask left right
        let (left, right) := (window.part left, window.part right)
        return (window, scriptLines h config left right (← editsAsking ask left right)))
      (BreaksOn ask (reportPairs config (answersYes ask) left right))
      (window, scriptLines h config (window.part left) (window.part right)
        (edits (answersYes ask) (window.part left) (window.part right))) := by
  intro window
  have hwindow := answersUnless_diffWindow config ask left right
  have hscript := answersUnless_editsAsking ask (window.part left) (window.part right)
  refine (hwindow.bind (hscript.returned fun script =>
    (window, scriptLines h config (window.part left) (window.part right) script))).congr ?_
  rw [reportPairs, breaksOn_append_iff]

theorem compareSequences_of_breaksOn (hlen : left.length = right.length)
    (hbreaks : BreaksOn (equalityOf h comparer)
      (reportPairs config (answersYes (equalityOf h comparer)) left right)) :
    compareSequences h config comparer left right =
      .ok (.sequence none none comparer.isSome false) := by
  obtain ⟨f, hf⟩ := (answersUnless_diff h config (equalityOf h comparer) left right).breaks_off hbreaks
  rw [compareSequences, if_neg (not_not_intro hlen)]
  dsimp only
  rw [equalityOf] at hf
  rw [hf]

-- Once all questions are answered, only the context can be too much.
theorem compareSequences_of_answers (hlen : left.length = right.length)
    (hanswers : ¬BreaksOn (equalityOf h comparer)
      (reportPairs config (answersYes (equalityOf h comparer)) left right)) :
    let window := windowOf config (answersYes (equalityOf h comparer)) left right
    let lines := scriptLines h config (window.part left) (window.part right)
      (edits (answersYes (equalityOf h comparer)) (window.part left) (window.part right))
    compareSequences h config comparer left right =
      if config.HoldsContext then
        .ok (.sequence none (some (lines.take config.maxDiffLines)) comparer.isSome
          (window.cut || decide (config.maxDiffLines < lines.length)))
      else .error capacityOverflow := by
  have houtcome := (answersUnless_diff h config (equalityOf h comparer) left right).answers hanswers
  rw [compareSequences, if_neg (not_not_intro hlen)]
  dsimp only
  rw [equalityOf] at houtcome
  rw [houtcome]
  rfl

-- The report breaks off over nothing but its context, and only between sequences of equal length.
theorem compareSequences_eq_error {f : Fault}
    (hreport : compareSequences h config comparer left right = .error f) :
    left.length = right.length ∧ ¬config.HoldsContext ∧ f = capacityOverflow := by
  by_cases hlen : left.length = right.length
  · by_cases hbreaks : BreaksOn (equalityOf h comparer)
      (reportPairs config (answersYes (equalityOf h comparer)) left right)
    · rw [compareSequences_of_breaksOn config hlen hbreaks] at hreport
      cases hreport
    · rw [compareSequences_of_answers config hlen hbreaks] at hreport
      split at hreport
      case isTrue => cases hreport
      case isFalse hlarge => exact ⟨hlen, hlarge, (Except.error.inj hreport).symm⟩
  · rw [compareSequences, if_pos hlen] at hreport
    cases hreport

end

end Verdict
