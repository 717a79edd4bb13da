import Verdict.Proofs.Expr.Reader

namespace Verdict

namespace Grammar

-- Names with dots between them.
inductive IsPath : List Char → Prop where
  | name {w : List Char} (hw : IsName w) : IsPath w
  | dot {p w : List Char} (hp : IsPath p) (hw : IsName w) : IsPath (p ++ '.' :: w)

-- In a place of the given rank the characters stand for the tree, with the parentheses that it asks for there
-- and no others. They cannot be taken for the second character of an operator in front of them.
inductive Printed (rank : Nat) (cs : List Char) (t : Outline) : Prop where
  | intro {ts : List Token} (hstart : ∀ rest, (cs ++ rest).head? ≠ some '=')
    (hlex : ∀ rest, EndsName rest → lex [] (cs ++ rest) = (lex [] rest).map (ts ++ ·))
    (hreads : Reads rank ts t) (hcount : ts.count .opening = t.opens + t.wraps rank) :
    Printed rank cs t

theorem endsName_cons {c : Char} (hc : isNameChar c = false) (rest : List Char) :
    EndsName (c :: rest) := by
  rintro c' ⟨⟩
  exact hc

theorem IsName.head?_ne {w : List Char} (hw : IsName w) (rest : List Char) :
    (w ++ rest).head? ≠ some '=' := by
  cases w with
  | nil => exact absurd rfl hw.ne_nil
  | cons c tail =>
    rintro ⟨⟩
    exact absurd (hw.isNameChar '=' List.mem_cons_self) (by decide)

theorem Method.isName (m : Method) : IsName m.word := by
  cases m <;> decide

theorem lex_bang {rest : List Char} (hrest : rest.head? ≠ some '=') :
    lex [] ('!' :: rest) = (lex [] rest).map (.bang :: ·) := by
  rw [lex]
  · rfl
  · rintro cs rfl
    exact hrest rfl

-- The beginning of a call.
theorem lex_call (m : Method) (cs : List Char) :
    lex [] ('.' :: (m.word ++ '(' :: cs)) = (lex [] cs).map (callTokens m ++ ·) := by
  rw [lex, lex_word m.isName (endsName_cons (by decide) cs), lex]
  simp [Function.comp_def, callTokens]

theorem lex_operator (op : Operator) (cs : List Char) :
    lex [] (op.symbol.toList ++ ' ' :: cs) = (lex [] cs).map (.operator op :: ·) := by
  cases op with
  | compare op =>
    cases op with
    | notEqual =>
      change lex [] ('!' :: '=' :: ' ' :: cs) = _
      simp [lex, Function.comp_def]
    | _ => simp [Operator.symbol, CompareOp.symbol, lex, Function.comp_def]
  | logical op => cases op <;> simp [Operator.symbol, LogicalOp.symbol, lex, Function.comp_def]

namespace Printed

variable {rank : Nat} {cs ls rs xs w : List Char} {t l r x : Outline}

theorem name (h : IsPath cs) : Printed Rank.atom cs (.name cs) := by
  induction h with
  | @name w hw =>
    refine ⟨hw.head?_ne, fun rest hrest => ?_, .name w, rfl⟩
    rw [lex_word hw hrest]
    rfl
  | @dot p w hp hw ih =>
    obtain ⟨hstart, hlex, hreads, hcount⟩ := ih
    refine ⟨fun rest => ?_, fun rest hrest => ?_, .dot hreads w, ?_⟩
    · rw [List.append_assoc]
      exact hstart _
    · rw [List.append_assoc, List.cons_append, hlex _ (endsName_cons (by decide) _), lex,
        lex_word hw hrest]
      simp [Function.comp_def]
    · rw [List.count_append, hcount]
      rfl

theorem lex_closed {us : List Token}
    (hlex : ∀ rest, EndsName rest → lex [] (xs ++ rest) = (lex [] rest).map (us ++ ·))
    (rest : List Char) : lex [] (xs ++ [')'] ++ rest) = (lex [] rest).map (us ++ [.closing] ++ ·) := by
  rw [List.append_assoc, List.singleton_append, hlex _ (endsName_cons (by decide) rest), lex]
  simp [Function.comp_def]

-- In a place that asks for more than its own rank a tree has parentheses around it.
theorem placed (h : Printed t.rank cs t) (hrank : rank ≤ Rank.atom) :
    Printed rank (if t.rank < rank then '(' :: (cs ++ [')']) else cs) t := by
  obtain ⟨hstart, hlex, hreads, hcount⟩ := h
  rw [Outline.wraps_eq_zero (Nat.le_refl _), Nat.add_zero] at hcount
  by_cases hlt : t.rank < rank
  · rw [if_pos hlt]
    refine ⟨fun rest => by simp, fun rest hrest => ?_,
      (Reads.paren (hreads.loosen t.or_le_rank)).loosen hrank, ?_⟩
    · rw [List.cons_append, lex, lex_closed hlex]
      simp [Function.comp_def]
    · rw [List.count_cons_self, List.count_append, hcount, Outline.wraps, if_pos hlt]
      rfl
  · rw [if_neg hlt]
    refine ⟨hstart, hlex, hreads.loosen (Nat.le_of_not_lt hlt), ?_⟩
    rw [hcount, Outline.wraps, if_neg hlt, Nat.add_zero]

-- An argument has no parentheses of its own.
theorem inside (h : Printed t.rank cs t) : Printed Rank.or cs t := by
  have hplaced := h.placed (show Rank.or ≤ Rank.atom by decide)
  rwa [if_neg (Nat.not_lt.2 t.or_le_rank)] at hplaced

theorem not (h : Printed Rank.unary cs t) : Printed Rank.unary ('!' :: cs) (.not t) := by
  obtain ⟨hstart, hlex, hreads, hcount⟩ := h
  refine ⟨fun rest => by simp, fun rest hrest => ?_, .not hreads, ?_⟩
  · rw [List.cons_append, lex_bang (hstart rest), hlex rest hrest]
    simp [Function.comp_def]
  · rw [List.count_cons_of_ne (by decide), hcount]
    rfl

theorem binary (op : Operator) (hl : Printed op.rank ls l) (hr : Printed (op.rank + 1) rs r) :
    Printed op.rank (ls ++ ' ' :: (op.symbol.toList ++ ' ' :: rs)) (.binary op l r) := by
  obtain ⟨hstart, hllex, hlreads, hlcount⟩ := hl
  obtain ⟨-, hrlex, hrreads, hrcount⟩ := hr
  refine ⟨fun rest => ?_, fun rest hrest => ?_, .binary op hlreads hrreads, ?_⟩
  · rw [List.append_assoc]
    exact hstart _
  · rw [List.append_assoc, List.cons_append, List.append_assoc, List.cons_append,
      hllex _ (endsName_cons (by decide) _), lex, lex_operator, hrlex rest hrest]
    simp [Function.comp_def]
  · have hown : (Outline.binary op l r).wraps op.rank = 0 := Outline.wraps_eq_zero (Nat.le_refl _)
    rw [List.count_append, List.count_cons_of_ne (by simp), hlcount, hrcount, hown]
    rfl

-- A call, by the characters and the tokens of its arguments and of the parenthesis behind them.
theorem call (m : Method) (hr : Printed Rank.atom rs r) {us : List Token}
    (hlex : ∀ rest, EndsName rest → lex [] (xs ++ rest) = (lex [] rest).map (us ++ ·))
    (hreads : ∀ ts, Reads Rank.atom ts r → Reads Rank.atom (ts ++ callTokens m ++ us) t)
    (hcount : t.opens + t.wraps Rank.atom =
      (r.opens + r.wraps Rank.atom) + 1 + us.count .opening) :
    Printed Rank.atom (rs ++ '.' :: (m.word ++ '(' :: xs)) t := by
  obtain ⟨hstart, hrlex, hrreads, hrcount⟩ := hr
  refine ⟨fun rest => ?_, fun rest hrest => ?_, hreads _ hrreads, ?_⟩
  · rw [List.append_assoc]
    exact hstart _
  · rw [List.append_assoc, List.cons_append, List.append_assoc, List.cons_append,
      hrlex _ (endsName_cons (by decide) _), lex_call, hlex rest hrest]
    simp [Function.comp_def]
  · rw [count_call, hrcount, hcount]

-- The name of a predicate or a comparer at the end of the arguments.
theorem lex_last_name (hw : IsName w) (rest : List Char) :
    lex [] (w ++ [')'] ++ rest) = (lex [] rest).map ([.word w, .closing] ++ ·) := by
  have hlex (rest : List Char) (hrest : EndsName rest) :
      lex [] (w ++ rest) = (lex [] rest).map ([.word w] ++ ·) := lex_word hw hrest
  exact lex_closed hlex rest

theorem contains (hr : Printed Rank.atom rs r) (hx : Printed Rank.or xs x) :
    Printed Rank.atom (rs ++ '.' :: (Method.contains.word ++ '(' :: (xs ++ [')'])))
      (.contains r x) := by
  obtain ⟨-, hlex, hreads, hcount⟩ := hx
  refine hr.call .contains (fun rest _ => lex_closed hlex rest) (fun _ hts => .contains hts hreads) ?_
  rw [List.count_append, hcount, Outline.wraps_eq_zero x.or_le_rank]
  rfl

theorem anyItem (hr : Printed Rank.atom rs r) :
    Printed Rank.atom (rs ++ '.' :: (Method.any.word ++ '(' :: [')'])) (.any r none) :=
  hr.call .any (fun _ _ => rfl) (fun _ hts => .anyItem hts) rfl

theorem any (hr : Printed Rank.atom rs r) (hw : IsName w) :
    Printed Rank.atom (rs ++ '.' :: (Method.any.word ++ '(' :: (w ++ [')']))) (.any r (some w)) :=
  hr.call .any (fun rest _ => lex_last_name hw rest) (fun _ hts => .any hts w) rfl

theorem all (hr : Printed Rank.atom rs r) (hw : IsName w) :
    Printed Rank.atom (rs ++ '.' :: (Method.all.word ++ '(' :: (w ++ [')']))) (.all r w) :=
  hr.call .all (fun rest _ => lex_last_name hw rest) (fun _ hts => .all hts w) rfl

theorem sequenceEqual (hr : Printed Rank.atom rs r) (hx : Printed Rank.or xs x) :
    Printed Rank.atom (rs ++ '.' :: (Method.sequenceEqual.word ++ '(' :: (xs ++ [')'])))
      (.sequenceEqual r x none) := by
  obtain ⟨-, hlex, hreads, hcount⟩ := hx
  refine hr.call .sequenceEqual (fun rest _ => lex_closed hlex rest)
    (fun _ hts => .sequenceEqual hts hreads) ?_
  rw [List.count_append, hcount, Outline.wraps_eq_zero x.or_le_rank]
  rfl

theorem sequenceEqualBy (hr : Printed Rank.atom rs r) (hx : Printed Rank.or xs x)
    (hw : IsName w) :
    Printed Rank.atom (rs ++ '.' :: (Method.sequenceEqualBy.word ++
      '(' :: (xs ++ ',' :: ' ' :: (w ++ [')'])))) (.sequenceEqual r x (some w)) := by
  obtain ⟨-, hlex, hreads, hcount⟩ := hx
  refine hr.call .sequenceEqualBy (fun rest _ => ?_) (fun ts hts => .sequenceEqualBy hts hreads w) ?_
  · rw [List.append_assoc, List.cons_append, List.cons_append,
      hlex _ (endsName_cons (by decide) _), lex, lex, lex_last_name hw]
    simp [Function.comp_def]
  · rw [List.count_append, hcount, Outline.wraps_eq_zero x.or_le_rank]
    rfl

end Printed

end Grammar

namespace Expr

open Grammar

variable {σ : Type}

-- The structure of an expression; of what its leaves stand for only their texts.
def outline (h : Heap) (limit : Nat) : Expr σ → Outline
  | .compare op l r => .binary (.compare op) (l.outline h limit) (r.outline h limit)
  | .logical op l r => .binary (.logical op) (l.outline h limit) (r.outline h limit)
  | .not e => .not (e.outline h limit)
  | .member path _ => .name (".".intercalate path).toList
  | .leaf text _ => .name text.toList
  | .literal v _ => .name (v.display h limit).toList
  | .contains e item => .contains (e.outline h limit) (item.outline h limit)
  | .any e p => .any (e.outline h limit) (p.map (·.text.toList))
  | .all e p => .all (e.outline h limit) p.text.toList
  | .sequenceEqual e other c =>
    .sequenceEqual (e.outline h limit) (other.outline h limit) (c.map (·.text.toList))

-- The texts of members, leaves and literals are names with dots between them, and those of predicates and
-- comparers are names.
def Named (h : Heap) (limit : Nat) : Expr σ → Prop
  | .compare _ l r | .logical _ l r => l.Named h limit ∧ r.Named h limit
  | .not e => e.Named h limit
  | .member path _ => IsPath (".".intercalate path).toList
  | .leaf text _ => IsPath text.toList
  | .literal v _ => IsPath (v.display h limit).toList
  | .contains e item => e.Named h limit ∧ item.Named h limit
  | .any e p => e.Named h limit ∧ ∀ q ∈ p, IsName q.text.toList
  | .all e p => e.Named h limit ∧ IsName p.text.toList
  | .sequenceEqual e other c =>
    e.Named h limit ∧ other.Named h limit ∧ ∀ q ∈ c, IsName q.text.toList

variable {h : Heap} {limit : Nat}

def operatorLevel : Operator → Level
  | .compare _ => .comparison
  | .logical op => LogicalOp.level op

-- Printing has the levels of the grammar.
theorem rank_operatorLevel (op : Operator) : (operatorLevel op).rank = op.rank := by
  cases op with
  | compare op => rfl
  | logical op => cases op <;> rfl

theorem rank_outline (e : Expr σ) : (e.outline h limit).rank = e.level.rank := by
  cases e with
  | logical op l r => exact (rank_operatorLevel (.logical op)).symm
  | _ => rfl

theorem printed_placed {e : Expr σ} {rank : Nat}
    (hprinted : Printed (e.outline h limit).rank (e.text h limit).toList (e.outline h limit))
    (hrank : rank ≤ Rank.atom) :
    Printed rank (e.placed rank (e.text h limit)).toList (e.outline h limit) := by
  have hplaced := hprinted.placed hrank
  rw [rank_outline] at hplaced
  rw [placed]
  split
  case isTrue hlt =>
    rw [if_pos hlt] at hplaced
    simpa using hplaced
  case isFalse hlt =>
    rw [if_neg hlt] at hplaced
    exact hplaced

theorem printed_binary (op : Operator) {l r : Expr σ}
    (hl : Printed (l.outline h limit).rank (l.text h limit).toList (l.outline h limit))
    (hr : Printed (r.outline h limit).rank (r.text h limit).toList (r.outline h limit)) :
    Printed op.rank (binaryText (operatorLevel op) op.symbol l r (l.text h limit) (r.text h limit)).toList
      (.binary op (l.outline h limit) (r.outline h limit)) := by
  have hunary : op.rank < Rank.unary := op.rank_bounds.2
  have hatom : Rank.unary ≤ Rank.atom := by decide
  have hbinary := Printed.binary op (printed_placed hl (Nat.le_trans (Nat.le_of_lt hunary) hatom))
    (printed_placed hr (Nat.lt_of_lt_of_le hunary hatom))
  simpa [binaryText, rank_operatorLevel] using hbinary

theorem toList_callText (m : Method) (e : Expr σ) (text : String) (arguments : List String) :
    (callText e text (String.ofList m.word) arguments).toList =
      (e.placed Rank.atom text).toList ++
        '.' :: (m.word ++ '(' :: ((commaSeparated arguments).toList ++ [')'])) := by
  simp [callText, Rank.atom, Level.rank]

theorem printed_text (e : Expr σ) (hnamed : e.Named h limit) :
    Printed (e.outline h limit).rank (e.text h limit).toList (e.outline h limit) := by
  induction e with
  | compare op l r ihl ihr => exact printed_binary (.compare op) (ihl hnamed.1) (ihr hnamed.2)
  | logical op l r ihl ihr => exact printed_binary (.logical op) (ihl hnamed.1) (ihr hnamed.2)
  | not e ih =>
    have hnot := (printed_placed (ih hnamed) (by decide)).not
    rw [text, String.toList_append]
    exact hnot
  | member path leaf => exact .name hnamed
  | leaf text leaf => exact .name hnamed
  | literal v declared => exact .name hnamed
  | contains e item ih ihitem =>
    have hreceiver := printed_placed (ih hnamed.1) (Nat.le_refl _)
    have hcall := hreceiver.contains (ihitem hnamed.2).inside
    have htext := toList_callText .contains e (e.text h limit) [item.text h limit]
    rw [text]
    exact htext ▸ hcall
  | any e p ih =>
    have hreceiver := printed_placed (ih hnamed.1) (Nat.le_refl _)
    cases p with
    | none =>
      have htext := toList_callText .any e (e.text h limit) []
      rw [text]
      exact htext ▸ hreceiver.anyItem
    | some p =>
      have htext := toList_callText .any e (e.text h limit) [p.text]
      rw [text]
      exact htext ▸ hreceiver.any (hnamed.2 p rfl)
  | all e p ih =>
    have hreceiver := printed_placed (ih hnamed.1) (Nat.le_refl _)
    have htext := toList_callText .all e (e.text h limit) [p.text]
    rw [text]
    exact htext ▸ hreceiver.all hnamed.2
  | sequenceEqual e other c ih ihother =>
    have hreceiver := printed_placed (ih hnamed.1) (Nat.le_refl _)
    have hargument := (ihother hnamed.2.1).inside
    cases c with
    | none =>
      have htext := toList_callText .sequenceEqual e (e.text h limit) [other.text h limit]
      rw [text]
      exact htext ▸ hreceiver.sequenceEqual hargument
    | some c =>
      have htext := toList_callText .sequenceEqualBy e (e.text h limit)
        [other.text h limit, c.text]
      have hcomma : (commaSeparated [other.text h limit, c.text]).toList ++ [')'] =
          (other.text h limit).toList ++ ',' :: ' ' :: (c.text.toList ++ [')']) := by
        simp [commaSeparated]
      rw [hcomma] at htext
      rw [text]
      exact htext ▸ hreceiver.sequenceEqualBy hargument (hnamed.2.2 c rfl)

theorem text_readsAs {e : Expr σ} (hnamed : e.Named h limit) :
    ReadsAs (e.text h limit).toList (e.outline h limit) := by
  obtain ⟨-, hlex, hreads, -⟩ := (printed_text e hnamed).inside
  have htext := hlex [] nofun
  rw [List.append_nil] at htext
  exact ⟨_, htext, by simpa [lex, afterHeld] using hreads⟩

theorem count_text {e : Expr σ} (hnamed : e.Named h limit) :
    (e.text h limit).toList.count '(' = (e.outline h limit).opens := by
  obtain ⟨-, hlex, -, hcount⟩ := (printed_text e hnamed).inside
  have htext := hlex [] nofun
  rw [List.append_nil] at htext
  have hown : (e.outline h limit).wraps Rank.or = 0 :=
    Outline.wraps_eq_zero (Outline.or_le_rank _)
  rw [← count_of_lex htext]
  simpa [afterHeld, hown] using hcount

-- No text has fewer parentheses and reads as the same structure.
theorem count_text_le {e : Expr σ} (hnamed : e.Named h limit) {s : List Char}
    (hs : ReadsAs s (e.outline h limit)) : (e.text h limit).toList.count '(' ≤ s.count '(' := by
  obtain ⟨ts, hlex, hreads⟩ := hs
  have hopens := hreads.opens_le_count
  rw [count_text hnamed, ← count_of_lex hlex]
  omega

-- The text of an expression reads as its structure and as nothing else, so that another expression with the
-- same text has the same structure. If any pair of parentheses is left out, the text no longer reads so.
theorem text_reads_back (e : Expr σ) (hnamed : e.Named h limit) :
    read? (e.text h limit).toList = some (e.outline h limit) ∧
      (∀ t, ReadsAs (e.text h limit).toList t ↔ t = e.outline h limit) ∧
      (∀ (τ : Type) (h' : Heap) (limit' : Nat) (e' : Expr τ), e'.Named h' limit' →
        e'.text h' limit' = e.text h limit → e'.outline h' limit' = e.outline h limit) ∧
      ∀ before inner behind, (e.text h limit).toList = before ++ '(' :: (inner ++ ')' :: behind) →
        ¬ReadsAs (before ++ (inner ++ behind)) (e.outline h limit) := by
  have hread := text_readsAs hnamed
  have hunique : ∀ t, ReadsAs (e.text h limit).toList t → t = e.outline h limit := by
    intro t ht
    rw [← read?_eq_some_iff] at ht hread
    exact Option.some_inj.1 (ht.symm.trans hread)
  refine ⟨read?_eq_some_iff.2 hread, fun t => ⟨hunique t, ?_⟩, ?_, ?_⟩
  · rintro rfl
    exact hread
  · intro τ h' limit' e' hnamed' htext
    exact hunique _ (htext ▸ text_readsAs hnamed')
  · intro before inner behind htext hless
    have hcount := count_text_le hnamed hless
    rw [htext] at hcount
    simp only [List.count_append, List.count_cons_self, List.count_cons_of_ne (show ')' ≠ '(' by decide)]
      at hcount
    omega

-- Parentheses around the operand of `!`, around the right operand, and around the receiver of a call.
theorem nested_operands_read_back :
    let leaf : Leaf Unit := ⟨.ready (.ok .null), none⟩
    let same : Expr Unit := .compare .equal (.leaf "a" leaf) (.member ["b", "c"] leaf)
    let either : Expr Unit := .logical .or (.any (.leaf "xs" leaf) none) (.literal (.bool true) none)
    let e : Expr Unit := .logical .and (.not same) (.logical .and either (.all same ⟨"p", fun _ => .ok true⟩))
    e.Named .empty 0 ∧
      e.text .empty 0 = "!(a == b.c) && ((xs.any() || true) && (a == b.c).all(p))" ∧
      read? (e.text .empty 0).toList = some (e.outline .empty 0) := by
  intro leaf same either e
  have ha : IsName "a".toList := by decide
  have hb : IsName "b".toList := by decide
  have hc : IsName "c".toList := by decide
  have hbc : IsPath "b.c".toList := .dot (.name hb) hc
  have hxs : IsName "xs".toList := by decide
  have htrue : (Value.bool true).display .empty 0 = "true" := by cbv
  have hp : IsName "p".toList := by decide
  have hsame : same.Named .empty 0 := ⟨.name ha, hbc⟩
  have hnamed : e.Named .empty 0 :=
    ⟨hsame, ⟨⟨.name hxs, by simp⟩, .name (htrue ▸ (by decide))⟩, hsame, hp⟩
  exact ⟨hnamed, by cbv, (text_reads_back e hnamed).1⟩

end Expr

end Verdict
